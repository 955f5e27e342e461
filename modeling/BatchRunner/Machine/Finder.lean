/-
**Tests of files that are found.**

Main definitions:

* `Finder` — a test of an entry, which may also act on it;
* `Walk` — a walk through directories, each of whose entries is put to a test.
-/
import BatchRunner.Files.Resolve
import BatchRunner.Text.Regular

set_option autoImplicit false

namespace BatchRunner

namespace Finder

/-- What a number has to be: a given one, more, or less. -/
structure Count where
  sign : Ordering
  number : Nat
  deriving DecidableEq, Repr

def Count.holds (c : Count) (n : Nat) : Bool := compare n c.number = c.sign

/-- A piece of a format. -/
inductive Piece where
  | text (b : Bytes)
  /-- A fact in so many places, to the left or with zeros before it, cut off at a length. -/
  | fact (letter : Char) (sub : Char) (left zeros : Bool) (width : Nat) (most : Option Nat)
  deriving DecidableEq, Repr

end Finder

/-- A test of an entry. -/
inductive Finder where
  | always (value : Bool)
  /-- The last name of its path fits a pattern; capitals may count as small letters. -/
  | name (pattern : List Script.Pattern.Atom) (fold : Bool)
  /-- Its path fits a pattern. -/
  | path (pattern : List Script.Pattern.Atom) (fold : Bool)
  /-- It is a link, and where it leads fits a pattern. -/
  | target (pattern : List Script.Pattern.Atom) (fold : Bool)
  /-- Its path fits a regular expression. -/
  | expression (r : Regular) (fold : Bool)
  /-- It is of one of some kinds; links may be followed. -/
  | kind (letters : List Char) (followed : Bool)
  | empty
  /-- Its size in units, rounded up. -/
  | size (unit : Nat) (c : Finder.Count)
  /-- It has been changed after a time. -/
  | newer (time : Nat)
  /-- It was changed so many units of time ago, rounded down or up. -/
  | age (unit : Nat) (up : Bool) (c : Finder.Count)
  /-- Its permission bits are the given ones, or have all or one of them. -/
  | mode (how : Char) (bits : Nat)
  | links (c : Finder.Count)
  | number (c : Finder.Count)
  /-- It is the same file as the one with the given number. -/
  | same (number : Nat)
  /-- It may be run. -/
  | runnable
  /-- It is shown, with the given byte behind it; in a file if one is named. -/
  | print (ending : UInt8) (file : Option String)
  /-- Facts about it are shown. -/
  | format (pieces : List Finder.Piece) (file : Option String)
  /-- It is listed. -/
  | list
  | delete
  /-- What is below is left out. -/
  | prune
  | quit
  /-- A program is run with it, perhaps in its directory, and perhaps after a question. -/
  | run (argv : List String) (there asks : Bool)
  /-- A program will be run with it and others. -/
  | gather (argv : List String) (there : Bool)
  | no (f : Finder)
  | both (a b : Finder)
  | either (a b : Finder)
  /-- The second test counts. -/
  | last (a b : Finder)

/-- An entry that a walk comes to. -/
structure Stop where
  path : String
  /-- The path at which the walk began. -/
  root : String
  depth : Nat
  /-- The directories above it in the walk. -/
  above : List Place
  /-- Whether what is below it has been walked through. -/
  ready : Bool
  deriving DecidableEq, Repr

/-- A walk through directories, each of whose entries is put to a test. -/
structure Walk where
  test : Finder
  /-- Which links are followed: a letter for none, for those at which it begins, or for all. -/
  follow : Char
  most : Option Nat
  least : Nat
  /-- Whether directories come behind what is in them. -/
  deepFirst : Bool
  /-- The time at which it began. -/
  time : Nat
  ahead : List Stop
  /-- What will be shown. -/
  out : Bytes
  /-- What has come of the acts that were carried out for the first entry. -/
  outcomes : List Bool
  /-- How many bytes have been shown for the first entry. -/
  shown : Nat
  /-- The child that is waited for, and whether its status counts. -/
  child : Option (Nat × Bool)
  /-- The programs that will be run in the end, with their directories and paths. -/
  gathered : List (List String × Option String × List String)
  status : Nat

end BatchRunner
