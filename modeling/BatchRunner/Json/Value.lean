/-
**JSON values and their texts.**

A value has two texts, one without blanks and one with a line per element.  Both use the same
escapes: everything from the space on stands for itself, except quotes and backslashes.

Main definitions:

* `Json.Value` — texts, naturals, lists and objects whose fields are in order;
* `Json.Value.member` — the value of a member of a catalog;
* `Json.Value.compact`, `Json.Value.pretty` — the two texts of a value.
-/
import BatchRunner.Catalog
import BatchRunner.Text.Quoted

set_option autoImplicit false

namespace BatchRunner.Json

/-- A value, the fields of objects in the order in which they are written. -/
inductive Value where
  | text (s : String)
  | number (n : Nat)
  | list (items : List Value)
  | object (fields : List (String × Value))
  deriving Repr

/-- One character inside a string literal. -/
def escapeChar (c : Char) : List Char :=
  if c = '"' then ['\\', '"']
  else if c = '\\' then ['\\', '\\']
  else if c = '\x08' then ['\\', 'b']
  else if c = '\t' then ['\\', 't']
  else if c = '\n' then ['\\', 'n']
  else if c = '\x0c' then ['\\', 'f']
  else if c = '\r' then ['\\', 'r']
  else if c.toNat < 0x20 then
    ['\\', 'u', '0', '0', Nat.digitChar (c.toNat / 16), Nat.digitChar (c.toNat % 16)]
  else [c]

def literal (s : String) : String :=
  String.ofList ('"' :: s.toList.flatMap escapeChar ++ ['"'])

namespace Value

def member {α : Type} [Catalog α] (x : α) : Value := text (Catalog.name x)

mutual

/-- The text of a value without blanks. -/
def compact : Value → String
  | text s => literal s
  | number n => toString n
  | list items => "[" ++ ",".intercalate (compactItems items) ++ "]"
  | object fields => "\x7b" ++ ",".intercalate (compactFields fields) ++ "\x7d"

/-- The texts of the elements of a list. -/
def compactItems : List Value → List String
  | [] => []
  | v :: vs => compact v :: compactItems vs

/-- The texts of the fields of an object. -/
def compactFields : List (String × Value) → List String
  | [] => []
  | (k, v) :: fs => (literal k ++ ":" ++ compact v) :: compactFields fs

end

/-- The start of a line at the given depth. -/
def newLine (depth : Nat) : String :=
  "\n" ++ String.ofList (List.replicate (2 * depth) ' ')

/-- Elements on lines of their own between brackets; an empty list of them stays on one line. -/
def block (opening closing : String) (depth : Nat) (items : List String) : String :=
  if items.isEmpty then opening ++ closing
  else
    opening ++ newLine (depth + 1) ++ ("," ++ newLine (depth + 1)).intercalate items
      ++ newLine depth ++ closing

mutual

/-- The text of a value with a line per element, at the given depth. -/
def prettyAt : Nat → Value → String
  | _, text s => literal s
  | _, number n => toString n
  | depth, list items => block "[" "]" depth (prettyItems (depth + 1) items)
  | depth, object fields => block "\x7b" "\x7d" depth (prettyFields (depth + 1) fields)

/-- The texts of the elements of a list. -/
def prettyItems : Nat → List Value → List String
  | _, [] => []
  | depth, v :: vs => prettyAt depth v :: prettyItems depth vs

/-- The texts of the fields of an object. -/
def prettyFields : Nat → List (String × Value) → List String
  | _, [] => []
  | depth, (k, v) :: fs => (literal k ++ ": " ++ prettyAt depth v) :: prettyFields depth fs

end

/-- The text of a value with a line per element. -/
def pretty (v : Value) : String := v.prettyAt 0

end Value

end BatchRunner.Json
