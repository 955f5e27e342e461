/-
**Leaving commands, and complaining.**

What a process has to do is a list of tasks, so to leave a loop, a function or a script is to drop
the tasks in front of its end.  What they would have put back is put back.

Main definitions:

* `Proc.unwind` — drops tasks up to one of a kind;
* `Proc.leaveLoops`, `Proc.leaveCall`, `Proc.quit` — leaves loops, a function, the script;
* `Host.complain`, `Host.settle`, `Host.print`, `Host.fatal` — complaints, statuses and output.
-/
import BatchRunner.Machine.Expansion

set_option autoImplicit false

namespace BatchRunner

/-- The status a script sees of a process that has ended. -/
def statusOf (ended : Nat) : Nat := if ended % 256 = 0 then ended / 256 else 128 + ended % 256

/-- The text of a script, in which zeros do not count. -/
def Script.text (b : Bytes) : String := Octets.ofBytes (b.filter (· ≠ 0))

/-- What there is to do for a script that begins on the given line. -/
def Script.task (line : Nat) (text : String) (tested : Bool) : Task :=
  .script (Script.ofText line text) tested

/-- What there is to do for a script from a file. -/
def Script.fileTask (text : String) (tested : Bool) : Task := .script (Script.ofFile text) tested

/-- The end of a call of a function: its caller's arguments and parameters are back. -/
def Shell.endCall (s : Shell) : Shell :=
  match s.frames with
  | [] => s
  | f :: fs => { s.putBack f.saved with
      args := f.args, cursor := f.cursor, frames := fs, options := f.options.getD s.options }

namespace Proc

def withShell (p : Proc) (s : Shell) : Proc := { p with shell := s }

/-- Puts back what a task would have put back. -/
def undo (p : Proc) : Task → Proc
  | .restore s => { p with streams := s }
  | .assign x _ => { p with streams := x.streams }
  | .collect _ _ next => p.undo next
  | .forget saved => p.withShell (p.shell.putBack saved)
  | .speak s => p.withShell { p.shell with speaker := s }
  | .endCall => p.withShell p.shell.endCall
  | .setStatus n => p.withStatus n
  | _ => p

/-- Drops the tasks in front of the first one of a kind. -/
def unwindTasks (stop : Task → Bool) : List Task → Proc → Proc
  | [], p => { p with tasks := [] }
  | t :: ts, p =>
      if stop t then { p with tasks := t :: ts } else unwindTasks stop ts (p.undo t)

/-- **Drops tasks up to one of a kind.** -/
def unwind (stop : Task → Bool) (p : Proc) : Proc := unwindTasks stop p.tasks p

/-- Leaves the script, whose end is still to come. -/
def quit (p : Proc) : Proc := p.unwind fun t => match t with
  | .finish => true
  | _ => false

/-- Leaves the script because of a mistake, unless what is around it goes on. -/
def abandon (p : Proc) : Proc := p.unwind fun t => match t with
  | .finish => true
  | .shield => true
  | _ => false

/-- Leaves the function or the script within another one that is being run. -/
def leaveCall (p : Proc) : Proc := p.unwind fun t => match t with
  | .endCall => true
  | .endSource => true
  | .finish => true
  | _ => false

def isLoop : Task → Bool
  | .again _ _ _ _ _ => true
  | .each _ _ _ _ _ => true
  | _ => false

/-- The number of loops around what is being run, within the same function. -/
def loops (p : Proc) : Nat :=
  ((p.tasks.takeWhile fun t => match t with
    | .endCall => false
    | .finish => false
    | _ => true).filter isLoop).length

/-- Leaves the innermost loop, or goes on with it. -/
def leaveLoop (goOn : Bool) (p : Proc) : Proc :=
  let p := p.unwind isLoop
  match p.tasks with
  | .again wanted test body tested _ :: ts =>
      { p with tasks :=
          if goOn then .run test true [] :: .again wanted test body tested (some 0) :: ts else ts }
  | t :: ts => { p with tasks := if goOn then t :: ts else ts }
  | [] => p

/-- **Leaves so many loops**, or goes on with the last of them. -/
def leaveLoops (goOn : Bool) : Nat → Proc → Proc
  | 0, p => p
  | 1, p => leaveLoop goOn p
  | n + 1, p => leaveLoops goOn n (leaveLoop false p)

end Proc

namespace Host

/-- Writes a line to the complaints of a process. -/
def grumble (w : Host) (p : Proc) (text : String) : Host :=
  w.emitTo p 2 (Octets.bytes (text ++ "\n"))

/-- A complaint of a script about one of its lines, on behalf of a command. -/
def complainFor (w : Host) (p : Proc) (line : Nat) (speaker : Option String) (text : String) :
    Host :=
  let from' := match speaker with
    | some s => s ++ ": "
    | none => ""
  w.grumble p (p.shell.name ++ ": " ++ toString line ++ ": " ++ from' ++ text)

/-- **A complaint of a script about one of its lines.** -/
def complain (w : Host) (p : Proc) (line : Nat) (text : String) : Host :=
  w.complainFor p line p.shell.speaker text

/-- Stores a process together with the status of what it did last. -/
def settle (w : Host) (p : Proc) (status : Nat) : Host := w.setProc (p.withStatus status)

/-- The signal that a process gets that writes where nobody reads. -/
def pipeSignal : Nat := 13

/-- Whether a stream leads to where nobody reads. -/
def isBroken (w : Host) : Stream → Bool
  | .drain n => !w.outer.procs.any fun p => p.holds (.source n)
  | .out => w.outage = some .brokenPipe
  | _ => false

/-- Why a process cannot write to its output. -/
def outputRefusal? (w : Host) (p : Proc) : Option Errno :=
  match p.stream? 1 with
  | none => some .badStream
  | some s =>
      if w.isBroken s && p.ignored.contains pipeSignal then some .brokenPipe else w.writeRefusal? s

/-- The signal that a process gets that writes more to a file than it may. -/
def sizeSignal : Nat := 25

/-- How much a process may still write to its output, if that is a file and there is a limit. -/
def room? (w : Host) (p : Proc) : Option Nat := do
  let limit ← (← p.limits.lookup 'f').1
  let .file n ← p.stream? 1 | none
  let o ← w.outer.handles[n]?
  let id ← w.fileOf? (.file n)
  let offset := if o.handle.append then ((w.files.file? id).map fun f => f.bytes.length).getD 0
    else o.handle.offset
  return limit - offset

/-- Stores a process that writes to its output.  A process that cannot says so and leaves the rest
undone. -/
def write (w : Host) (p : Proc) (b : Bytes) : Host :=
  if b.isEmpty then w.setProc p
  else
    match w.outputRefusal? p with
    | some e => (w.grumble p (p.shell.name ++ ": write error: " ++ e.text)).settle p.quit 1
    | none =>
        if (p.stream? 1).any w.isBroken then w.setProc (p.signal pipeSignal)
        else
          match w.room? p with
          | some n =>
              if n < b.length then (w.emitTo p 1 (b.take n)).setProc (p.signal sizeSignal)
              else (w.emitTo p 1 b).setProc p
          | none => (w.emitTo p 1 b).setProc p

/-- **Prints on behalf of a process**, which has then succeeded. -/
def print (w : Host) (p : Proc) (b : Bytes) : Host := w.write (p.withStatus 0) b

/-- The status of a script that cannot go on. -/
def fatalStatus : Nat := 2

/-- **A complaint that ends the script.** -/
def fatal (w : Host) (p : Proc) (line : Nat) (text : String) : Host :=
  (w.complain p line text).settle p.abandon fatalStatus

end Host

end BatchRunner
