/-
**Where a reader stands in a text.**

A cursor holds the characters still to be read and the line and column reached.  Columns count
bytes of the encoded text since the last line end.  A fault is reported either where the reader
stands, or one byte further when it concerns the byte that comes next.

Main definitions:

* `Json.Cursor`, `Json.Cursor.ofText` — the state of a reader;
* `Json.Cursor.skip`, `Json.Cursor.skipBlanks` — consuming one character, or the blanks in front;
* `Json.Cursor.here`, `Json.Cursor.ahead` — the two places a fault is reported at.

Main results:

* `Json.Cursor.length_skip_lt`, `Json.Cursor.length_skipBlanks_le` — reading makes the rest shorter.
-/

set_option autoImplicit false

namespace BatchRunner.Json

/-- A line, counted from one, and the number of bytes before a place on it. -/
structure Position where
  line : Nat
  column : Nat
  deriving DecidableEq, Repr

/-- The characters still to be read, and the place reached. -/
structure Cursor where
  rest : List Char
  here : Position
  deriving DecidableEq, Repr

/-- Whether a character may stand between tokens. -/
def isBlank (c : Char) : Bool :=
  c = ' ' || c = '\t' || c = '\n' || c = '\r'

def Position.after (p : Position) (c : Char) : Position :=
  if c = '\n' then ⟨p.line + 1, 0⟩ else ⟨p.line, p.column + c.utf8Size⟩

/-- The place after the given number of bytes of a text, which may be inside a character. -/
def Position.afterBytes (p : Position) : Nat → List Char → Position
  | _, [] => p
  | n, c :: cs =>
      if n = 0 then p
      else if c.utf8Size ≤ n then (p.after c).afterBytes (n - c.utf8Size) cs
      else ⟨p.line, p.column + n⟩

namespace Cursor

def ofText (text : String) : Cursor := ⟨text.toList, ⟨1, 0⟩⟩

/-- Past the next character. -/
def skip (c : Cursor) : Cursor :=
  match c.rest with
  | [] => c
  | x :: xs => ⟨xs, c.here.after x⟩

/-- The place after the next byte, or the end of the text. -/
def ahead (c : Cursor) : Position := c.here.afterBytes 1 c.rest

/-- The place after the given number of bytes, or the end of the text. -/
def afterBytes (c : Cursor) (n : Nat) : Position := c.here.afterBytes n c.rest

/-- The number of bytes that characters take. -/
def byteCount : List Char → Nat
  | [] => 0
  | x :: xs => x.utf8Size + byteCount xs

/-- The number of bytes still to be read. -/
def bytesLeft (c : Cursor) : Nat := byteCount c.rest

/-- Past the blanks in front. -/
def skipBlanksFrom : List Char → Position → Cursor
  | [], p => ⟨[], p⟩
  | x :: xs, p => if isBlank x then skipBlanksFrom xs (p.after x) else ⟨x :: xs, p⟩

@[inherit_doc skipBlanksFrom]
def skipBlanks (c : Cursor) : Cursor := skipBlanksFrom c.rest c.here

def next? (c : Cursor) : Option Char := c.rest.head?

theorem length_skip_lt {c : Cursor} {x : Char} (h : c.next? = some x) :
    c.skip.rest.length < c.rest.length := by
  obtain ⟨rest, here⟩ := c
  cases rest with
  | nil => simp [next?] at h
  | cons y ys => simp [skip]

theorem length_skipBlanksFrom_le (xs : List Char) (p : Position) :
    (skipBlanksFrom xs p).rest.length ≤ xs.length := by
  induction xs generalizing p with
  | nil => simp [skipBlanksFrom]
  | cons x xs ih =>
      by_cases h : isBlank x = true
      · simpa [skipBlanksFrom, h] using Nat.le_succ_of_le (ih (p.after x))
      · simp [skipBlanksFrom, h]

theorem length_skipBlanks_le (c : Cursor) : c.skipBlanks.rest.length ≤ c.rest.length :=
  length_skipBlanksFrom_le c.rest c.here

end Cursor

end BatchRunner.Json
