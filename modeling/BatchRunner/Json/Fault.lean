/-
**Why a JSON text is refused, and how that is said.**

A fault is a cause and the place it is reported at.  Some causes concern the shape of the text,
others that a well-formed value is not the one wanted.

Main definitions:

* `Json.Cause`, `Json.Fault` — what is wrong, and where;
* `Json.Kind` — a value that is not the one wanted;
* `Json.Fault.message` — the text shown.
-/
import BatchRunner.Decimal.Shortest
import BatchRunner.Json.Cursor
import BatchRunner.Text.Quoted

set_option autoImplicit false

namespace BatchRunner.Json

/-- A value met where another one is wanted. -/
inductive Kind where
  | null
  | boolean (value : Bool)
  | integer (value : Int)
  | floating (negative : Bool) (value : Decimal.Digits)
  | text (value : String)
  | sequence
  | map
  deriving DecidableEq, Repr

/-- Numbers with a fraction or an exponent: positional when the point is near the digits, and the
sign of an exponent always written. -/
def floatLayout : Decimal.Layout := ⟨-5, 16, "e+"⟩

/-- How a value is named in a message. -/
def Kind.describe : Kind → String
  | .null => "null"
  | .boolean b => "boolean `" ++ (if b then "true" else "false") ++ "`"
  | .integer n => "integer `" ++ toString n ++ "`"
  | .floating neg d => "floating point `" ++ (if neg then "-" else "") ++ floatLayout.text d ++ "`"
  | .text s => "string " ++ Text.quoted s
  | .sequence => "sequence"
  | .map => "map"

/-- What is wrong with a text. -/
inductive Cause where
  | endInValue
  | endInString
  | endInList
  | endInObject
  | controlInString
  | badEscape
  | loneSurrogate
  | halfSurrogate
  | badIdent
  | badValue
  | badNumber
  | numberOutOfRange
  | badKey
  | noColon
  | noListComma
  | noObjectComma
  | trailingComma
  | trailingCharacters
  | unknownMember (token : String) (known : List String)
  | unknownField (name : String) (known : List String)
  | missingField (name : String)
  | duplicateField (name : String)
  | badLength (length : Nat) (wanted : String)
  | badKind (kind : Kind) (wanted : String)
  deriving DecidableEq, Repr

def backquoted (s : String) : String := "`" ++ s ++ "`"

def alternatives : List String → String
  | [] => "there are no alternatives"
  | [a] => "expected " ++ backquoted a
  | [a, b] => "expected " ++ backquoted a ++ " or " ++ backquoted b
  | many => "expected one of " ++ ", ".intercalate (many.map backquoted)

/-- The text of a cause, without its place. -/
def Cause.message : Cause → String
  | .endInValue => "EOF while parsing a value"
  | .endInString => "EOF while parsing a string"
  | .endInList => "EOF while parsing a list"
  | .endInObject => "EOF while parsing an object"
  | .controlInString => "control character (\\u0000-\\u001F) found while parsing a string"
  | .badEscape => "invalid escape"
  | .loneSurrogate => "lone leading surrogate in hex escape"
  | .halfSurrogate => "unexpected end of hex escape"
  | .badIdent => "expected ident"
  | .badValue => "expected value"
  | .badNumber => "invalid number"
  | .numberOutOfRange => "number out of range"
  | .badKey => "key must be a string"
  | .noColon => "expected `:`"
  | .noListComma => "expected `,` or `]`"
  | .noObjectComma => "expected `,` or `\x7d`"
  | .trailingComma => "trailing comma"
  | .trailingCharacters => "trailing characters"
  | .unknownMember t known => "unknown variant " ++ backquoted t ++ ", " ++ alternatives known
  | .unknownField k known => "unknown field " ++ backquoted k ++ ", " ++ alternatives known
  | .missingField k => "missing field " ++ backquoted k
  | .duplicateField k => "duplicate field " ++ backquoted k
  | .badLength n wanted => "invalid length " ++ toString n ++ ", expected " ++ wanted
  | .badKind k wanted => "invalid type: " ++ k.describe ++ ", expected " ++ wanted

/-- A cause and the place it is reported at. -/
structure Fault where
  cause : Cause
  place : Position
  deriving DecidableEq, Repr

/-- The text shown for a refused document. -/
def Fault.message (f : Fault) : String :=
  f.cause.message ++ " at line " ++ toString f.place.line ++ " column " ++ toString f.place.column

/-- A bind succeeds only through a success of its first half. -/
theorem ok_of_bind {ε α β : Type} {x : Except ε α} {f : α → Except ε β} {b : β}
    (h : (x >>= f) = .ok b) : ∃ a, x = .ok a ∧ f a = .ok b := by
  cases x with
  | error e => simp [bind, Except.bind] at h
  | ok a => exact ⟨a, rfl, h⟩

namespace Cursor

/-- Refuses the text where the reader stands. -/
def failHere {α : Type} (c : Cursor) (cause : Cause) : Except Fault α :=
  .error ⟨cause, c.here⟩

/-- Refuses the text because of the byte that comes next. -/
def failAhead {α : Type} (c : Cursor) (cause : Cause) : Except Fault α :=
  .error ⟨cause, c.ahead⟩

end Cursor

end BatchRunner.Json
