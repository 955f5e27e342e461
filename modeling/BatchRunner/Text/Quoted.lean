/-
**Texts in double quotes.**

A text shown in a message is quoted so that it stays on one line: quotes and backslashes are
escaped, and so is every character that has no shape of its own.

Main definitions:

* `Text.quoted` — the quoted form of a text.
-/
import BatchRunner.Text.Unprintable

set_option autoImplicit false

namespace BatchRunner.Text

/-- The lower-case hexadecimal digits of a natural. -/
def hexDigits (n : Nat) : List Char := Nat.toDigits 16 n

def quotedChar (c : Char) : List Char :=
  if c = '\x00' then ['\\', '0']
  else if c = '\t' then ['\\', 't']
  else if c = '\r' then ['\\', 'r']
  else if c = '\n' then ['\\', 'n']
  else if c = '"' ∨ c = '\\' then ['\\', c]
  else if isUnprintable c then ['\\', 'u', '\x7b'] ++ hexDigits c.toNat ++ ['\x7d']
  else [c]

/-- A text in double quotes, on one line. -/
def quoted (text : String) : String :=
  String.ofList ('"' :: text.toList.flatMap quotedChar ++ ['"'])

end BatchRunner.Text
