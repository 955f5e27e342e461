/-
**Launching engines on a machine.**

Main definitions:

* `Host.start` — starts the program of a call at the head of a group of its own;
* `Host.supervise` — watches over it to the end;
* `Host.launch` — the launcher.
-/
import BatchRunner.Machine.Step
import BatchRunner.Supervision

set_option autoImplicit false

namespace BatchRunner.Host

open Supervision

/-- A started engine. -/
structure Engine where
  leader : Nat
  /-- The stream its output goes to, if that is a file. -/
  output? : Option Stream

/-- What a process starts with before it becomes a program. -/
def seed (env : List (String × String)) (cwd : Place) (output : Stream) (id : Nat) : Proc where
  id := id
  parent := 1
  group := id
  cwd := cwd
  streams := [(0, .nothing), (1, output), (2, .err)]
  shell := Shell.fresh (env.map fun v => (Octets.pack v.1, Octets.pack v.2)) id "" []
  ignored := []
  pending := []
  stopped := false
  queued := []
  tasks := []
  wake := 0
  image := none
  mask := 0o022
  limits := []
  niceness := 0
  ended := none

/-- Whether a text holds a character that no argument can. -/
def hasNul (s : String) : Bool := s.toList.any (· = '\x00')

def enter (w : Host) (path : String) : Except IoError Place := do
  match ← w.files.stat w.files.cwd path with
  | (place, .dir _) => return place
  | (_, _) => throw (.os .notDir)

/-- The stream of an open file or device. -/
def streamOf (w : Host) (h : Handle) : Stream × Host :=
  match h.target with
  | .file _ => let (n, w) := w.openFile h .writing; (.file n, w)
  | .device (.own 1) => (.out, w)
  | .device (.own 2) => (.err, w)
  | .device d => (.device d .writing, w)

/-- Opens the output of a call; gives the stream of the file, if it is one. -/
def openSink (w : Host) : Sink → Option Stream × Host
  | .inherit => (none, w)
  | .file h => let (s, w) := w.streamOf h; (some s, w)

/-- **Starts the program of a call** at the head of a group of its own.  It is looked for in the
directory of the call. -/
def start (call : Call) (w : Host) : Except LaunchError (Engine × Host) := do
  let program :: _ := call.argv | throw .emptyCommand
  let failed (e : IoError) : LaunchError := .launch program e
  if call.argv.any hasNul || hasNul call.cwd then throw (failed .nulInArgument)
  let cwd ← (w.enter call.cwd).mapError failed
  let (output?, w) := w.openSink call.sink
  let w := w.withMachine { w.outer with kept := output?.toList }
  let make := seed w.outer.env cwd (output?.getD .out)
  let (id, w) := w.spawn make
  let w ← (w.become (make id) (call.argv.map Octets.pack)).mapError fun e => failed (.os e)
  return (⟨id, output?⟩, w)

def leaderEnd? (w : Host) (e : Engine) : Option Nat := (w.proc? e.leader).bind Proc.ended

/-- Forgets a leader that has ended, and what nobody can wait for any more. -/
def reap (w : Host) (leader : Nat) : Host :=
  let rest := w.outer.procs.filter fun p => p.id ≠ leader
  w.withMachine { w.outer with
    procs := rest.filter fun p => p.ended.isNone || rest.any fun q => q.id = p.parent }

/-- Does something at the end of a watch. -/
def act (e : Engine) (w : Host) : Act → Host
  | .signalGroup => w.killGroup e.leader
  | .reapLeader => w.reap e.leader
  | .report event => w.log event
  | .addNotice =>
      match e.output? with
      | none => w
      | some s =>
          match w.writeRefusal? s with
          | some error => w.log (noticeFailedEvent (.os error))
          | none => w.emit s (bytesOf noticeLine)

def earlier : Option Nat → Option Nat → Option Nat
  | some a, some b => some (min a b)
  | a, none => a
  | none, b => b

/-- What ends the watch over an engine, once the machine has run as far as it may.  Where neither the
engine nor its time has come to an end, nobody goes on watching. -/
def ending (e : Engine) (deadline? patience? : Option Nat) (w : Host) : Ending :=
  match w.leaderEnd? e with
  | some status => .exited status
  | none =>
      if deadline?.any fun d => d ≤ w.clock && patience?.all (d ≤ ·) then .deadline else .abandoned

/-- **Runs a call under watch**, for so many milliseconds at most if a patience is given. -/
def supervise (patience? : Option Nat) (call : Call) (w : Host) :
    Except LaunchError (Option Status) × Host :=
  match w.start call with
  | .error e => (.error e, w)
  | .ok (e, w₁) =>
      let deadline? := call.budget.limit?.map fun s => w.clock + 1000 * s
      let until? := patience?.map fun ms => w.clock + ms
      let w₂ := w₁.advance (fun v => (v.leaderEnd? e).isSome) (earlier deadline? until?)
      let end' := w₂.ending e deadline? until?
      let w₃ := (end'.acts call.budget (w₂.clock - w.clock)).foldl (act e) w₂
      (end'.result, w₃.withMachine { w₃.outer with kept := [] })

/-- **The launcher of a machine.** -/
def launch : Launcher Machine := fun call w =>
  match supervise none call w with
  | (.ok (some status), w) => (.ok status, w)
  | (.ok none, w) => (.error (.wait (.os .interrupted)), w)
  | (.error e, w) => (.error e, w)

end BatchRunner.Host
