/-
**Texts of bytes.**

Scripts, their arguments and their variables are made of bytes, which need not encode any text.
Such a text of bytes is held as a string, each of whose characters stands for one byte.  Names and
paths of files are texts proper, so they are packed where a script gets them, and unpacked where it
uses them.

Main definitions:

* `Octets.bytes`, `Octets.ofBytes` — the bytes of a text of bytes, and the text of bytes they make;
* `Octets.pack`, `Octets.unpack` — the text of bytes that encodes a text, and the way back.

Main results:

* `Octets.bytes_ofBytes` — no byte is lost.
-/
import BatchRunner.Files.Node

set_option autoImplicit false

namespace BatchRunner.Octets

def byte (c : Char) : UInt8 := UInt8.ofNat c.toNat

/-- The character that stands for a byte. -/
def char (b : UInt8) : Char := Char.ofNat b.toNat

def bytes (s : String) : Bytes := s.toList.map byte

def ofBytes (b : Bytes) : String := String.ofList (b.map char)

@[simp] theorem byte_char (b : UInt8) : byte (char b) = b := by
  have h : b.toNat.isValidChar := Or.inl (Nat.lt_trans b.toNat_lt_size (by decide))
  have : (Char.ofNat b.toNat).toNat = b.toNat := by
    unfold Char.ofNat
    rw [dif_pos h]
    rfl
  simp [byte, char, this]

@[simp] theorem bytes_ofBytes (b : Bytes) : bytes (ofBytes b) = b := by
  have : byte ∘ char = id := funext byte_char
  simp [bytes, ofBytes, this]

/-- The text of bytes that encodes a text. -/
def pack (s : String) : String := ofBytes (bytesOf s)

/-- The text that a text of bytes encodes; if it encodes none, its characters as they are. -/
def unpack (s : String) : String := (textOf? (bytes s)).getD s

/-- Texts of bytes in increasing order, compared byte by byte. -/
def sorted (l : List String) : List String :=
  l.mergeSort fun a b => decide (bytes a ≤ bytes b)

end BatchRunner.Octets
