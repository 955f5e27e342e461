/-
**The world a run acts on.**

A run changes files, writes to the console, and takes time.  The output of the console may be out of
order.  Whatever else a launcher keeps track of is left open.

Main definitions:

* `Chunk` — something written to the console;
* `World` — files, console, clock, and what a launcher keeps;
* `World.writeFile`, `World.print` — what the program itself writes;
* `Sink`, `Call`, `Launcher` — how an engine is started.
-/
import BatchRunner.Config
import BatchRunner.Fault
import BatchRunner.Files.Operations
import BatchRunner.Log.Event
import BatchRunner.Outcome

set_option autoImplicit false

namespace BatchRunner

/-- Something written to the console. -/
inductive Chunk where
  /-- An event that happened at the given time. -/
  | event (time : Nat) (e : Log.Event)
  /-- Output of an engine. -/
  | out (bytes : Bytes)
  /-- Complaints of an engine. -/
  | err (bytes : Bytes)

/-- Everything a run can change. -/
structure World (ε : Type) where
  files : FileTree
  /-- What was written to the console, in order. -/
  console : List Chunk
  /-- The time, in milliseconds since the start of 1970. -/
  clock : Nat
  /-- Why the output of the console cannot be written to, if it cannot. -/
  outage : Option Errno
  /-- What a launcher keeps for itself. -/
  outer : ε

namespace World

variable {ε : Type}

def log (w : World ε) (e : Log.Event) : World ε :=
  { w with console := w.console ++ [.event w.clock e] }

def withFiles (w : World ε) (t : FileTree) : World ε := { w with files := t }

/-- Shows something on the console. -/
def display (w : World ε) (c : Chunk) : World ε := { w with console := w.console ++ [c] }

/-- Writes a whole file.  What is written to a stream of the program itself is shown on the
console. -/
def writeFile (w : World ε) (path : String) (bytes : Bytes) : Except IoError (World ε) := do
  let (h, t) ← w.files.create w.files.cwd path
  match h.target with
  | .device (.own 1) =>
      match w.outage with
      | some e => throw (.os e)
      | none => return w.display (.out bytes)
  | .device (.own 2) => return w.display (.err bytes)
  | _ => return w.withFiles (← (t.write h bytes).mapError .os).1

/-- Prints a text to the output.  An output that was never open for writing swallows it. -/
def print (w : World ε) (text : String) : Except Errno (World ε) :=
  match w.outage with
  | none => .ok (w.display (.out (bytesOf text)))
  | some e => if e = .badStream then .ok w else .error e

@[simp] theorem files_log (w : World ε) (e : Log.Event) : (w.log e).files = w.files := rfl

@[simp] theorem outer_log (w : World ε) (e : Log.Event) : (w.log e).outer = w.outer := rfl

@[simp] theorem files_withFiles (w : World ε) (t : FileTree) : (w.withFiles t).files = t := rfl

@[simp] theorem outer_withFiles (w : World ε) (t : FileTree) :
    (w.withFiles t).outer = w.outer := rfl

end World

/-- Where the output of an engine goes. -/
inductive Sink where
  /-- To the console. -/
  | inherit
  /-- Into an open file. -/
  | file (h : Handle)
  deriving DecidableEq, Repr

/-- What a launcher is asked to run. -/
structure Call where
  argv : List String
  cwd : String
  sink : Sink
  budget : Budget
  deriving DecidableEq, Repr

/-- Runs an engine to its end. -/
abbrev Launcher (ε : Type) := Call → World ε → Except LaunchError Status × World ε

end BatchRunner
