/-
**What scripts put in the background.**

A script numbers what it puts in the background.  It notices that a process has ended when it waits
for one, whichever that is, and says so only of those it waits for.

Main definitions:

* `Shell.claim`, `Shell.addJob` — numbers for jobs;
* `Shell.job?` — the job that a text stands for;
* `Host.notice` — a script notices which processes have ended;
* `ShellJob.line` — what is shown of a job.
-/
import BatchRunner.Machine.Control
import BatchRunner.Machine.Signal

set_option autoImplicit false

namespace BatchRunner

namespace ShellJob

/-- Whether all processes of a job are known to have ended. -/
def isDone (j : ShellJob) : Bool := j.members.all fun m => m.ended.isSome

def ended (j : ShellJob) : Nat := (j.members.getLast?.bind Member.ended).getD 0

def outcome (ended : Nat) : String :=
  let signal := ended % 256
  if signal ≠ 0 then Signal.descriptions.getD signal ""
  else if ended = 0 then "Done"
  else "Done(" ++ toString (ended / 256) ++ ")"

/-- A text filled up with blanks to a width. -/
def widened (width : Nat) (s : String) : String :=
  s ++ String.ofList (List.replicate (width - s.length) ' ')

/-- What is shown of a job, with its place among the jobs and, if that is asked for, the numbers of
its processes. -/
def line (j : ShellJob) (place : Nat) (numbered : Bool) : String :=
  let mark := if place = 0 then " + " else if place = 1 then " - " else "   "
  let number := "[" ++ toString j.number ++ "]"
  let state := if j.isDone then outcome j.ended else "Running"
  match j.members with
  | [] => ""
  | m :: ms =>
      let first := if numbered then toString m.id ++ " " else ""
      let rest := if numbered then ms.map fun m =>
          " |\n" ++ widened (30 + number.length) (widened (number.length + 3) "" ++ toString m.id)
        else ms.map fun _ => " | "
      widened 33 (number ++ mark ++ first ++ state) ++ String.join rest ++ "\n"

end ShellJob

namespace Shell

/-- The lowest number that a job can have.  A job that has been waited for gives up its number. -/
def claim (s : Shell) : Nat × Shell :=
  let isTaken (n : Nat) : Bool := s.jobs.any fun j => j.number = n && !(j.isDone && j.waited)
  let n := ((List.range (s.jobs.length + 1)).map (· + 1)).find? (fun n => !isTaken n)
  let n := n.getD 1
  (n, if s.jobs.isEmpty then s else { s with jobs := s.jobs.filter fun j => j.number ≠ n })

/-- Puts processes in the background as a job. -/
def addJob (s : Shell) (ids : List Nat) : Shell :=
  let (n, s) := s.claim
  { s with jobs := ⟨n, ids.map fun id => ⟨id, none⟩, false⟩ :: s.jobs }

/-- **The job that a text stands for**, or why there is none. -/
def job? (s : Shell) (text : String) : Except String ShellJob :=
  match text.toList with
  | ['%'] => current
  | ['%', '+'] => current
  | ['%', '%'] => current
  | ['%', '-'] => (s.jobs[1]?).elim (.error "No previous job") .ok
  | '%' :: cs =>
      let n? := if cs.all Char.isDigit then (String.ofList cs).toNat? else none
      (s.jobs.find? fun j => some j.number = n?).elim (.error ("No such job: " ++ text)) .ok
  | _ => .error ("No such job: " ++ text)
where
  /-- The last job. -/
  current : Except String ShellJob := s.jobs.head?.elim (.error "No current job") .ok

/-- The job whose last process has a number. -/
def jobOf? (s : Shell) (id : Nat) : Option ShellJob :=
  s.jobs.find? fun j => (j.members.getLast?.map Member.id) = some id

def noteWaited (s : Shell) (number : Nat) : Shell :=
  { s with jobs := s.jobs.map fun j => if j.number = number then { j with waited := true } else j }

end Shell

namespace Host

/-- Says which signal ended a child, if one did. -/
def announce (w : Host) (p : Proc) (id : Nat) : Host :=
  match ((w.proc? id).bind Proc.ended).bind Signal.description? with
  | some text => w.grumble p text
  | none => w

/-- How a process of a job has ended, as far as the machine knows. -/
def seen (w : Host) (m : Member) : Member :=
  if m.ended.isSome then m else { m with ended := (w.proc? m.id).elim (some 0) Proc.ended }

def isOver (w : Host) (j : ShellJob) : Bool := j.members.all fun m => (w.seen m).ended.isSome

/-- **A script notices which of its processes have ended.**  Of those that belong to the given job
it says which signal ended them. -/
def notice (w : Host) (p : Proc) (number? : Option Nat) : Host × Proc :=
  if p.shell.jobs.isEmpty then (w, p)
  else
    let fresh (j : ShellJob) : List Nat := (j.members.filter fun m =>
      m.ended.isNone && (w.seen m).ended.isSome).map Member.id
    let told := (p.shell.jobs.filter fun j => some j.number = number?).flatMap fresh
    let gone := p.shell.jobs.flatMap fresh
    let w' := told.foldl (fun w id => w.announce p id) w
    let p := p.withShell { p.shell with jobs := p.shell.jobs.map fun j =>
      { j with members := j.members.map w.seen } }
    (w'.withMachine { w'.outer with procs := w'.outer.procs.filter fun q => !gone.contains q.id },
      p)

end Host

end BatchRunner
