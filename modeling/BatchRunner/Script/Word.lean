/-
**The words of a script.**

A word is a list of pieces: literal text, and places where a value is put when the word is used.

Main definitions:

* `Script.Piece`, `Script.Word` — what words are made of;
* `Script.Change` — what may be done to the value of a parameter;
* `Script.Complaint` — what is said about a script, and about which line.
-/

set_option autoImplicit false

namespace BatchRunner.Script

/-- What is said about a line of a script. -/
structure Complaint where
  line : Nat
  text : String
  deriving DecidableEq, Repr

/-- What is done with the value of a parameter. -/
inductive Change where
  /-- A word takes the place of a value that is missing. -/
  | instead
  /-- The same, and the parameter is set to it. -/
  | assign
  /-- A missing value is a mistake, and the word says what is wrong. -/
  | require
  /-- A word takes the place of a value that is there. -/
  | whenSet
  /-- The shortest or the longest end that a pattern fits is taken off. -/
  | dropEnd (longest : Bool)
  /-- The shortest or the longest beginning that a pattern fits is taken off. -/
  | dropStart (longest : Bool)
  deriving DecidableEq, Repr

/-- How a script within a word is closed. -/
inductive Closing where
  | parenthesis
  | backquote
  /-- The text ends before it is closed. -/
  | missing
  deriving DecidableEq, Repr

/-- A part of a word.  What is quoted is neither split nor taken for a pattern. -/
inductive Piece where
  | text (s : String) (quoted : Bool)
  /-- The value of a parameter. -/
  | param (name : String) (quoted : Bool)
  /-- The length of the value of a parameter. -/
  | length (name : String) (quoted : Bool)
  /-- The value of a parameter, changed with a word.  With `orEmpty`, an empty value counts as
  missing. -/
  | changed (name : String) (quoted : Bool) (change : Change) (orEmpty : Bool) (word : List Piece)
  /-- The output of a script that begins on the given line. -/
  | output (line : Nat) (script : String) (quoted : Bool) (closing : Closing)
  /-- The value of an arithmetic expression. -/
  | sum (expression : List Piece) (quoted : Bool)
  /-- A place that cannot be filled. -/
  | broken
  deriving Repr

abbrev Word := List Piece

/-- The text of a word that is one piece of bare text. -/
def bare? : Word → Option String
  | [.text s false] => some s
  | _ => none

/-- Whether a character can begin the name of a parameter. -/
def isNameStart (c : Char) : Bool := c.isAlpha || c = '_'

/-- Whether a character can stand in the name of a parameter. -/
def isNameChar (c : Char) : Bool := c.isAlphanum || c = '_'

/-- Whether a character is the whole name of a parameter. -/
def isSpecial (c : Char) : Bool := "@*#?$!-".toList.contains c || c.isDigit

/-- Whether a text is the name of a parameter that can be set. -/
def isName (s : String) : Bool :=
  match s.toList with
  | [] => false
  | c :: cs => isNameStart c && cs.all isNameChar

end BatchRunner.Script
