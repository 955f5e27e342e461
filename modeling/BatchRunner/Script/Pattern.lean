/-
**Patterns for texts.**

A star fits any text, a question mark any character, and brackets one of the characters in them.
Characters that are quoted stand for themselves, and so do those behind a backslash.

Main definitions:

* `Script.Pattern.Atom`, `Script.Pattern.ofMarked` — what patterns are made of, and reading one;
* `Script.Pattern.fits` — whether a pattern fits a text;
* `Script.Pattern.dropStart`, `Script.Pattern.dropEnd` — taking off what a pattern fits.
-/

set_option autoImplicit false

namespace BatchRunner.Script

/-- A character, and whether it is quoted. -/
abbrev Marked := Char × Bool

namespace Pattern

/-- A part of a pattern. -/
inductive Atom where
  | char (c : Char)
  /-- Any character. -/
  | any
  /-- Any text. -/
  | many
  /-- A character within one of the ranges, or within none. -/
  | oneOf (negated : Bool) (ranges : List (Char × Char))
  deriving DecidableEq, Repr

/-- The ranges of the classes of characters that are known by name. -/
def classes : List (String × List (Char × Char)) :=
  [("alpha", [('a', 'z'), ('A', 'Z')]), ("digit", [('0', '9')]),
    ("alnum", [('a', 'z'), ('A', 'Z'), ('0', '9')]), ("upper", [('A', 'Z')]),
    ("lower", [('a', 'z')]), ("space", [(' ', ' '), ('\t', '\r')]),
    ("blank", [(' ', ' '), ('\t', '\t')]),
    ("punct", [('!', '/'), (':', '@'), ('[', '\x60'), ('\x7b', '~')]),
    ("xdigit", [('0', '9'), ('a', 'f'), ('A', 'F')]),
    ("cntrl", [('\x00', '\x1f'), ('\x7f', '\x7f')]), ("graph", [('!', '~')]),
    ("print", [(' ', '~')])]

/-- The class of characters that is named at the head of a text behind a bracket, and how many
characters the name takes. -/
def class? (cs : List Marked) : Option (List (Char × Char) × Nat) :=
  match cs with
  | (':', false) :: rest =>
      let name := rest.takeWhile fun c => c.1 ≠ ':'
      match rest.drop name.length with
      | (':', _) :: (']', _) :: _ =>
          (classes.lookup (String.ofList (name.map Prod.fst))).map fun r => (r, name.length + 3)
      | _ => none
  | _ => none

/-- The ranges within brackets, and how many characters they take with the closing one.  A closing
bracket that comes first stands for itself. -/
def ranges? : Nat → Bool → List Marked → Option (List (Char × Char) × Nat)
  | 0, _, _ => none
  | _, _, [] => none
  | fuel + 1, first, (c, quoted) :: cs =>
      if c = ']' ∧ quoted = false ∧ first = false then some ([], 1)
      else
        let named := if c = '[' ∧ quoted = false then class? cs else none
        match named, cs with
        | some (r, n), _ => (ranges? fuel false (cs.drop n)).map fun (rs, k) => (r ++ rs, k + n + 1)
        | none, ('-', false) :: (d, q) :: rest =>
            if d = ']' ∧ q = false then
              (ranges? fuel false cs).map fun (rs, k) => ((c, c) :: rs, k + 1)
            else (ranges? fuel false rest).map fun (rs, k) => ((c, d) :: rs, k + 3)
        | none, cs => (ranges? fuel false cs).map fun (rs, k) => ((c, c) :: rs, k + 1)

/-- What brackets stand for, from behind the opening one, and how many characters they take. -/
def bracket? (cs : List Marked) : Option (Atom × Nat) :=
  let negated := match cs with
    | ('!', false) :: _ => true
    | _ => false
  let skipped := if negated then 1 else 0
  (ranges? (cs.length + 1) true (cs.drop skipped)).map fun (rs, n) =>
    (.oneOf negated rs, n + skipped)

/-- A text in which backslashes that are not quoted quote the characters behind them. -/
def escaped : List Marked → List Marked
  | ('\\', false) :: (c, _) :: cs => (c, true) :: escaped cs
  | ('\\', false) :: [] => [('\\', true)]
  | c :: cs => c :: escaped cs
  | [] => []

def atoms : List Marked → List Atom
  | [] => []
  | (c, true) :: cs => .char c :: atoms cs
  | ('*', false) :: cs => .many :: atoms cs
  | ('?', false) :: cs => .any :: atoms cs
  | ('[', false) :: cs =>
      match bracket? cs with
      | none => .char '[' :: atoms cs
      | some (a, n) => a :: atoms (cs.drop n)
  | (c, false) :: cs => .char c :: atoms cs
termination_by cs => cs.length
decreasing_by all_goals simp only [List.length_cons, List.length_drop]; omega

/-- **Reads a pattern.** -/
def ofMarked (cs : List Marked) : List Atom := atoms (escaped cs)

/-- Whether a part of a pattern fits a character. -/
def Atom.fitsChar (a : Atom) (c : Char) : Bool :=
  match a with
  | .char d => c = d
  | .any => true
  | .many => false
  | .oneOf negated rs => (rs.any fun r => r.1 ≤ c && c ≤ r.2) != negated

/-- **Whether a pattern fits a whole text.** -/
def fits : List Atom → List Char → Bool
  | [], [] => true
  | [], _ :: _ => false
  | .many :: p, [] => fits p []
  | .many :: p, c :: cs => fits p (c :: cs) || fits (.many :: p) cs
  | _ :: _, [] => false
  | a :: p, c :: cs => a.fitsChar c && fits p cs
termination_by p cs => p.length + cs.length

/-- Whether a pattern has a part that fits more than one text. -/
def isOpen (p : List Atom) : Bool :=
  p.any fun a => match a with
    | .char _ => false
    | _ => true

/-- A text without the shortest or the longest beginning that a pattern fits. -/
def dropStart (longest : Bool) (p : List Atom) (cs : List Char) : List Char :=
  let lengths := (List.range (cs.length + 1)).filter fun n => fits p (cs.take n)
  match if longest then lengths.getLast? else lengths.head? with
  | some n => cs.drop n
  | none => cs

/-- A text without the shortest or the longest end that a pattern fits. -/
def dropEnd (longest : Bool) (p : List Atom) (cs : List Char) : List Char :=
  let lengths := (List.range (cs.length + 1)).filter fun n => fits p (cs.drop n)
  match if longest then lengths.head? else lengths.getLast? with
  | some n => cs.take n
  | none => cs

/-- Texts without what a pattern fits at the end of the last of them.  If nothing fits there, but at
the end of one before, those behind it are dropped; the longest end is looked for in the first one
only. -/
def dropEndOfAll (longest : Bool) (p : List Atom) (texts : List (List Char)) : List (List Char) :=
  let ends (cs : List Char) : Bool := (List.range (cs.length + 1)).any fun n => fits p (cs.drop n)
  if longest then
    match texts with
    | cs :: rest => if ends cs then [dropEnd true p cs] else cs :: rest
    | [] => []
  else
    match texts.reverse.dropWhile fun cs => !ends cs with
    | cs :: before => before.reverse ++ [dropEnd false p cs]
    | [] => texts

/-- Texts without what a pattern fits at the start of the first of them.  If the longest start is
looked for and all of the first text fits, nothing is left of any. -/
def dropStartOfAll (longest : Bool) (p : List Atom) : List (List Char) → List (List Char)
  | [] => []
  | [cs] => [dropStart longest p cs]
  | cs :: rest => if longest && fits p cs then [[]] else dropStart longest p cs :: rest

end Pattern

end BatchRunner.Script
