/-
**Texts without the sequences that terminals obey.**

A terminal obeys sequences of bytes that begin with an escape.  Where there are no colours, such
sequences are left out of what is written, and so are all other controls except those that separate
words or lines.

What has been left out is remembered even while bytes are shown: white space within a sequence is
shown and lets the bytes behind it be shown too, but the sequence goes on at the next control.

Main definitions:

* `Text.Terminal.Sequence` — how far a sequence has been read;
* `Text.Terminal.plain` — bytes without what a terminal would obey;
* `Text.Terminal.Style`, `Text.Terminal.styled` — texts that stand out.
-/

set_option autoImplicit false

namespace BatchRunner.Text.Terminal

/-- How far a sequence has been read. -/
inductive Sequence where
  /-- Not within a sequence. -/
  | none
  /-- Within a character that takes so many bytes more. -/
  | char (left : Nat)
  /-- Behind an escape, and behind marks that follow one. -/
  | escape
  | escapeMark
  /-- A control sequence: at its beginning, among its numbers, among the marks behind them, or
  beyond what has a meaning. -/
  | control
  | controlNumber
  | controlMark
  | controlRest
  /-- A control string for a device, likewise, and the data in it. -/
  | device
  | deviceNumber
  | deviceMark
  | deviceRest
  | deviceData
  /-- A command to the system. -/
  | system
  /-- A message to a program. -/
  | message
  deriving DecidableEq, Repr

/-- How many bytes follow the first one of a character; none for a character of one byte. -/
def following (b : UInt8) : Nat :=
  if 0xc2 ≤ b ∧ b ≤ 0xdf then 1
  else if 0xe0 ≤ b ∧ b ≤ 0xef then 2
  else if 0xf0 ≤ b ∧ b ≤ 0xf4 then 3
  else 0

/-- Whether a byte is white space that is not a space. -/
def isBlank (b : UInt8) : Bool := b = 9 || b = 10 || b = 12 || b = 13

namespace Sequence

/-- What ends a sequence wherever it is, or begins another one. -/
def turn? (b : UInt8) : Option Sequence :=
  if b = 0x18 ∨ b = 0x1a then some .none
  else if b = 0x1b then some .escape
  else Option.none

/-- How far a sequence has been read after one byte more. -/
def next (s : Sequence) (b : UInt8) : Sequence :=
  let mark := 0x20 ≤ b && b ≤ 0x2f
  let number := 0x30 ≤ b && b ≤ 0x3f
  let private' := 0x3c ≤ b && b ≤ 0x3f
  let last := 0x40 ≤ b && b ≤ 0x7e
  match turn? b with
  | some s => s
  | Option.none =>
      match s with
      | .none => if following b = 0 then .none else .char (following b)
      | .char n => if n ≤ 1 then .none else .char (n - 1)
      | .escape =>
          if mark then .escapeMark
          else if b = 0x5b then .control
          else if b = 0x5d then .system
          else if b = 0x50 then .device
          else if b = 0x58 ∨ b = 0x5e ∨ b = 0x5f then .message
          else if number || last then .none
          else .escape
      | .escapeMark => if number || last then .none else .escapeMark
      | .control =>
          if mark then .controlMark else if number then .controlNumber
          else if last then .none else .control
      | .controlNumber =>
          if mark then .controlMark else if private' then .controlRest
          else if last then .none else .controlNumber
      | .controlMark => if number then .controlRest else if last then .none else .controlMark
      | .controlRest => if last then .none else .controlRest
      | .device =>
          if mark then .deviceMark else if number then .deviceNumber
          else if last then .deviceData else .device
      | .deviceNumber =>
          if mark then .deviceMark else if private' then .deviceRest
          else if last then .deviceData else .deviceNumber
      | .deviceMark => if number then .deviceRest else if last then .deviceData else .deviceMark
      | .deviceRest => if b = 0x9c then .none else .deviceRest
      | .deviceData => if b = 0x9c then .none else .deviceData
      | .system => if b = 0x07 then .none else .system
      | .message => if b = 0x9c then .none else .message

/-- Whether controls count at a point of a sequence. -/
def obeys : Sequence → Bool
  | .none => true
  | .escape => true
  | .escapeMark => true
  | .control => true
  | .controlNumber => true
  | .controlMark => true
  | .controlRest => true
  | _ => false

/-- Whether a byte is shown at a point of a sequence. -/
def shows (s : Sequence) (b : UInt8) : Bool :=
  (s = .none && (0x20 ≤ b && b ≤ 0x7e || following b ≠ 0)) || (s.obeys && isBlank b)

end Sequence

/-- What has been read: whether the last byte was shown, and the sequence. -/
structure Reading where
  showing : Bool
  sequence : Sequence

namespace Reading

/-- Reads a byte behind one that was left out; says whether it is shown. -/
def search (s : Sequence) (b : UInt8) : Reading × Bool :=
  let shown := s.shows b
  (⟨shown, s.next b⟩, shown)

/-- Reads a byte; says whether it is shown. -/
def next (r : Reading) (b : UInt8) : Reading × Bool :=
  if !r.showing then search r.sequence b
  else
    match r.sequence with
    | .char n => (⟨true, (Sequence.char n).next b⟩, true)
    | s =>
        if Sequence.none.shows b then
          (⟨true, if following b = 0 then s else .char (following b)⟩, true)
        else search ((Sequence.turn? b).getD s) b

end Reading

/-- The bytes that are shown. -/
def shown (r : Reading) : List UInt8 → List UInt8
  | [] => []
  | b :: bs =>
      let (r, keep) := r.next b
      if keep then b :: shown r bs else shown r bs

/-- **Bytes without what a terminal would obey.** -/
def plain (bytes : List UInt8) : List UInt8 := shown ⟨false, .none⟩ bytes

/-- How a text stands out. -/
inductive Style where
  | bold
  | dimmed
  | italic
  | underlined
  | red
  | green
  | yellow
  | blue
  | purple
  deriving DecidableEq, Repr

def Style.opening : Style → String
  | .bold => "\x1b[1m"
  | .dimmed => "\x1b[2m"
  | .italic => "\x1b[3m"
  | .underlined => "\x1b[4m"
  | .red => "\x1b[31m"
  | .green => "\x1b[32m"
  | .yellow => "\x1b[33m"
  | .blue => "\x1b[34m"
  | .purple => "\x1b[35m"

def styled (styles : List Style) (text : String) : String :=
  String.join (styles.map Style.opening) ++ text ++ "\x1b[0m"

end BatchRunner.Text.Terminal
