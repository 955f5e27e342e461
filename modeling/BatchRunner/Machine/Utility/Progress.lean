/-
**How far a utility has come.**

A utility that does something to one file after the other complains at once and shows what it has
done in the end.

Main definitions:

* `Utility.Progress` — the world so far, what will be shown, and whether something failed;
* `Utility.Progress.ask` — a question that the next line of standard input answers.
-/
import BatchRunner.Machine.Utility.Arguments

set_option autoImplicit false

namespace BatchRunner.Utility

/-- How far a utility has come. -/
structure Progress where
  host : Host
  /-- What it will show in the end. -/
  notes : String
  failed : Bool

namespace Progress

/-- Nothing has been done. -/
def start (w : Host) : Progress := ⟨w, "", false⟩

def files (s : Progress) : FileTree := s.host.files

def withFiles (s : Progress) (t : FileTree) : Progress := { s with host := s.host.withFiles t }

/-- Adds a line to what will be shown, if that is asked for. -/
def note (s : Progress) (asked : Bool) (line : String) : Progress :=
  if asked then { s with notes := s.notes ++ line ++ "\n" } else s

/-- Something failed. -/
def failing (s : Progress) : Progress := { s with failed := true }

/-- Says something, though nothing failed. -/
def warn (s : Progress) (p : Proc) (text : String) : Progress :=
  { s with host := grumble s.host p text }

def complain (s : Progress) (p : Proc) (text : String) : Progress := (s.warn p text).failing

def isYes (answer : Bytes) : Bool := answer.head? = some 121 || answer.head? = some 89

/-- **Asks a question.**  The next line of standard input is the answer. -/
def ask (s : Progress) (p : Proc) (question : String) : Bool × Progress :=
  let w := s.host.emitTo p 2 (Octets.bytes (p.shell.name ++ ": " ++ question ++ " "))
  let stream := (p.stream? 0).getD .nothing
  let answer := (Host.peek w stream).takeWhile (· ≠ 10)
  (isYes answer, { s with host := Host.consume w stream (answer.length + 1) })

def finish (s : Progress) (p : Proc) : Host :=
  s.host.write (p.withStatus (if s.failed then 1 else 0)) (Octets.bytes s.notes)

end Progress

def Progress.through {α : Type} (s : Progress) (l : List α) (f : Progress → α → Progress) :
    Progress := l.foldl f s

end BatchRunner.Utility
