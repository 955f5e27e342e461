/-
**Reading a line into parameters.**

A line is split at separators.  Characters behind a backslash do not separate, and a backslash at
the end of a line joins it to the next one.

Main definitions:

* `Input.Line`, `Input.mark` — the characters of a line, and whether the line goes on;
* `Input.Splitting` — a line that is being split;
* `Input.values` — the values that parameters get from a line.
-/
import BatchRunner.Machine.Expansion

set_option autoImplicit false

namespace BatchRunner.Input

open Script (Marked)

/-- A line whose characters are quoted or not.  Where it is joined to the next one, it ends in a
quoted line end. -/
structure Line where
  chars : List Marked
  /-- Whether the line is joined to the next one. -/
  joined : Bool

/-- The characters of a line.  Backslashes are characters like others if the line is raw. -/
def mark (raw : Bool) : List Char → Line
  | [] => ⟨[], false⟩
  | '\\' :: cs =>
      if raw then
        let l := mark raw cs
        { l with chars := ('\\', false) :: l.chars }
      else
        match cs with
        | [] => ⟨[('\n', true)], true⟩
        | c :: cs =>
            let l := mark raw cs
            { l with chars := (c, true) :: l.chars }
  | c :: cs =>
      let l := mark raw cs
      { l with chars := (c, false) :: l.chars }

/-- A line that is being split. -/
structure Splitting where
  /-- How many values are still to be begun, with the current one. -/
  left : Nat
  /-- The values that are complete, the last first. -/
  done : List (List Char) := []
  /-- The current value, its last character first. -/
  current : List Char := []
  /-- What belongs to the last value only if more of it follows, its last character first. -/
  trail : Option (List Char) := none
  /-- Whether the current value may be preceded by a separator still, as only white space has
  separated it from the one before. -/
  loose : Bool := false

namespace Splitting

/-- A character that is a part of the current value. -/
def add (s : Splitting) (c : Char) : Splitting :=
  { s with current := c :: (s.trail.getD [] ++ s.current), trail := none, loose := false }

/-- A character that does not separate as it is quoted.  It is no reason to keep what stands before
it in the last value. -/
def addQuoted (s : Splitting) (c : Char) : Splitting :=
  if c = '\n' then { s with loose := false }
  else match s.trail with
    | some cs => { s with trail := some (c :: cs), loose := false }
    | none => s.add c

/-- A separator behind the first one of the last value. -/
def addLast (gap : Bool) (s : Splitting) (c : Char) : Splitting :=
  if gap then { s with trail := some (c :: s.trail.getD []) }
  else if s.loose then { s with trail := s.trail.map (c :: ·), loose := false }
  else s.add c

/-- A separator, which may be white space. -/
def addSeparator (gap : Bool) (s : Splitting) (c : Char) : Splitting :=
  if s.left = 0 then s.addLast gap c
  else if s.loose then { s with loose := gap }
  else if s.current.isEmpty && gap then s
  else if s.left = 1 then { s with left := 0, trail := some [c], loose := gap }
  else
    { s with left := s.left - 1, done := s.current :: s.done, current := [], loose := gap }

def next (separators : List Char) (s : Splitting) (c : Marked) : Splitting :=
  if c.2 then s.addQuoted c.1
  else if separators.contains c.1 then s.addSeparator (Fields.isGap c.1) c.1
  else s.add c.1

def values (s : Splitting) : List String :=
  (s.current :: s.done).reverse.map fun cs => String.ofList cs.reverse

end Splitting

/-- **The values that so many parameters get from a line.**  Those without one are empty. -/
def values (separators : List Char) (n : Nat) (cs : List Marked) : List String :=
  let found := (cs.foldl (Splitting.next separators) { left := n }).values
  found ++ List.replicate (n - found.length) ""

end BatchRunner.Input
