/-
**A machine that runs processes.**

A machine holds processes, the files they have open, and the pipes between them.  It acts on the
files, the console and the clock of a world.  What processes read, write and hold is made of bytes,
so their texts are texts of bytes.

Main definitions:

* `Stream` — where a process reads from and writes to;
* `Task`, `Shell`, `Proc` — what a process has to do, what a script sees of itself, and the process;
* `Machine`, `Host` — the processes, and the world they act on;
* `Host.emit`, `Host.take` — writing to a stream, and taking what a stream has to read;
* `Host.kill`, `Host.killGroup` — ending processes.
-/
import BatchRunner.Machine.Finder
import BatchRunner.Script.Command
import BatchRunner.Text.Octets
import BatchRunner.World

set_option autoImplicit false

namespace BatchRunner

/-- What something is open for. -/
inductive Access where
  | reading
  | writing
  | both
  deriving DecidableEq, Repr

/-- Where a process reads from or writes to. -/
inductive Stream where
  | device (d : Device) (a : Access)
  /-- The output of the console. -/
  | out
  /-- The complaints of the console. -/
  | err
  /-- The open file with the given number. -/
  | file (n : Nat)
  /-- The end of a pipe that is read from. -/
  | source (n : Nat)
  /-- The end of a pipe that is written to. -/
  | drain (n : Nat)
  /-- A directory, which gives no bytes. -/
  | folder
  deriving DecidableEq, Repr

def Stream.nothing : Stream := .device .null .reading

abbrev Streams := List (Nat × Stream)

/-- A parameter with a name.  It may be marked without having a value. -/
structure Variable where
  name : String
  value : Option String
  /-- Whether programs that are started see it. -/
  exported : Bool
  /-- Whether it can no longer be changed. -/
  fixed : Bool
  deriving DecidableEq, Repr

/-- What parameters were before, where that is to be put back. -/
abbrev Saved := List (String × Option Variable)

/-- How far options have been taken from arguments: the number of the next argument, and how much of
the one before has been used if some of it is left. -/
structure Cursor where
  index : Nat
  offset : Option Nat
  deriving DecidableEq, Repr

def Cursor.start : Cursor := ⟨1, none⟩

/-- A call of a function: the arguments of the caller, and what its own parameters were before. -/
structure Frame where
  args : List String
  cursor : Cursor
  saved : Saved
  /-- The options of the caller, if those of the function are its own. -/
  options : Option (List Char)
  deriving DecidableEq, Repr

/-- What a script that was run for its output has printed, and how it ended. -/
structure Output where
  text : String
  status : Nat
  deriving DecidableEq, Repr

/-- A process of a job, and how it ended if that has been noticed. -/
structure Member where
  id : Nat
  ended : Option Nat
  deriving DecidableEq, Repr

/-- What a script has put in the background. -/
structure ShellJob where
  number : Nat
  members : List Member
  /-- Whether it has been waited for. -/
  waited : Bool
  deriving DecidableEq, Repr

/-- How a child is watched that may run for a limited time. -/
structure Limit where
  child : Nat
  /-- The time at which the child gets a signal, if it is still to get one. -/
  deadline : Option Nat
  signal : Nat
  /-- How long after that it gets the one that nothing withstands. -/
  patience : Option Nat
  /-- Whether the status of the child counts in any case. -/
  preserve : Bool
  /-- Whether only the child gets signals, and not its group. -/
  alone : Bool
  /-- The command, if it is said which signals it gets. -/
  command : Option String
  /-- Whether the time is over. -/
  expired : Bool
  deriving DecidableEq, Repr

/-- Programs that are run with items. -/
structure Batch where
  /-- The children that run, each with the name of its command. -/
  running : List (Nat × String)
  /-- The commands that are still to be run. -/
  rest : List (List String)
  /-- How many may run at a time; zero if there is no limit. -/
  most : Nat
  /-- Whether commands are shown before they are run. -/
  told : Bool
  /-- Whether the children read what their parent reads. -/
  sharesInput : Bool
  /-- What is wrong with the items behind those of the last command. -/
  complaint : Option String
  /-- The status so far. -/
  status : Nat
  deriving DecidableEq, Repr

/-- A simple command whose words are known and whose redirections have been carried out, but which
still has parameters to set. -/
structure Prepared where
  line : Nat
  words : List String
  assigned : List (String × Script.Word)
  /-- Whether there were redirections. -/
  redirected : Bool
  /-- The streams before the redirections. -/
  streams : Streams
  tested : Bool
  /-- The status of the last script that was run for its output. -/
  status : Nat

/-- Something a process has to do.  What is tested may fail without ending a script. -/
inductive Task where
  /-- Runs a command.  The outputs are those of the scripts in its words that have been run. -/
  | run (c : Script.Command) (tested : Bool) (outputs : List Output)
  /-- Sets the parameters of a simple command and runs it. -/
  | assign (x : Prepared) (outputs : List Output)
  /-- Runs a command if the last one succeeded, or if it failed. -/
  | onlyIf (ok : Bool) (c : Script.Command) (tested : Bool)
  | branch (yes no : Script.Command) (tested : Bool)
  | negate
  /-- Goes on with a loop.  With the status of its body, the test has just been made; without, the
  body has just been run. -/
  | again (wanted : Bool) (test body : Script.Command) (tested : Bool) (status : Option Nat)
  | each (line : Nat) (name : String) (values : List String) (body : Script.Command)
      (tested : Bool)
  /-- Puts streams back as they were. -/
  | restore (s : Streams)
  /-- Puts parameters back as they were. -/
  | forget (saved : Saved)
  /-- Waits for a process. -/
  | await (id : Nat)
  /-- Waits for all jobs, unless a signal comes first. -/
  | waitAll
  /-- Waits for the given jobs in order, unless a signal comes first; the status is that of the last
  one that there is. -/
  | waitEach (line : Nat) (jobs : List String) (status : Nat)
  /-- Waits for a process whose output goes into a pipe, and goes on with that output. -/
  | collect (id pipe : Nat) (next : Task)
  /-- Ends the script if the last command failed and that is to end it. -/
  | check
  /-- The end of a call of a function. -/
  | endCall
  /-- The end of a script that was read into another one. -/
  | endSource
  /-- The end of a script whose mistakes do not end the script around it. -/
  | shield
  /-- Sets who complains. -/
  | speak (speaker : Option String)
  /-- Sets the status. -/
  | setStatus (n : Nat)
  /-- Reads a line into parameters. -/
  | readLine (line : Nat) (raw : Bool) (names : List String) (sofar : List (Char × Bool))
  /-- Becomes another program, which is looked for along a search path. -/
  | become (line : Nat) (search : String) (argv : List String)
  /-- Does the work of a utility. -/
  | utility (name : String) (argv : List String)
  /-- Runs programs, as many at a time as may be. -/
  | batch (b : Batch)
  /-- Walks through directories. -/
  | walk (x : Walk)
  /-- Waits for a child that may run for a limited time. -/
  | limit (x : Limit)
  /-- Copies standard input to standard output. -/
  | copy
  | copyFile (path : String)
  /-- Reads the next line of a script and runs it. -/
  | script (s : Script) (tested : Bool)
  /-- Ends with the last status. -/
  | finish

namespace Task

/-- Adds the output of a script that has been run. -/
def withOutput (o : Output) : Task → Task
  | run c tested outputs => run c tested (outputs ++ [o])
  | assign x outputs => assign x (outputs ++ [o])
  | t => t

/-- The streams that a task will put back or read. -/
def held : Task → List Stream
  | restore s => s.map Prod.snd
  | assign x _ => x.streams.map Prod.snd
  | collect _ pipe next => .source pipe :: next.held
  | _ => []

end Task

/-- What a script sees of itself. -/
structure Shell where
  name : String
  args : List String
  cursor : Cursor
  vars : List Variable
  functions : List (String × Script.Command)
  aliases : Script.Aliases
  /-- The path of the directory, as the script has got there. -/
  dir : String
  /-- The commands that have been looked for and found, and where they were looked for. -/
  located : List (String × String)
  /-- The letters of the options that are on. -/
  options : List Char
  /-- The command on whose behalf other commands are run, if there is one. -/
  speaker : Option String
  /-- The calls of functions that are under way, the last first. -/
  frames : List Frame
  /-- What to do on signals; zero stands for the end of the script. -/
  traps : List (Nat × String)
  /-- The status of the last command. -/
  status : Nat
  /-- The process that the script was started in. -/
  leader : Nat
  /-- The last process that was put in the background. -/
  background : Option Nat
  /-- What has been put in the background, the last first. -/
  jobs : List ShellJob
  /-- The line that reading the script has got to. -/
  reached : Nat

/-- A process. -/
structure Proc where
  id : Nat
  parent : Nat
  group : Nat
  cwd : Place
  streams : Streams
  shell : Shell
  /-- The permissions that new files do not get. -/
  mask : Nat
  /-- What has been limited, each by its letter with the limit that counts and the highest that can
  be set.  Without a number there is no limit. -/
  limits : List (Char × Option Nat × Option Nat)
  /-- How far the process stands back behind others. -/
  niceness : Nat
  /-- The signals that have no effect. -/
  ignored : List Nat
  /-- The signals that something is still to be done about. -/
  pending : List Nat
  /-- Whether the process is stopped. -/
  stopped : Bool
  /-- The signals that wait until it goes on. -/
  queued : List Nat
  tasks : List Task
  /-- The time before which nothing is done. -/
  wake : Nat
  /-- The file of the program that is run. -/
  image : Option Nat
  /-- How the process ended: 256 times its exit code, or the signal that ended it. -/
  ended : Option Nat

/-- A file that is open on a machine. -/
structure OpenFile where
  handle : Handle
  access : Access
  deriving DecidableEq, Repr

/-- The processes of a machine. -/
structure Machine where
  procs : List Proc
  /-- The open files.  Processes that share one share its position. -/
  handles : List OpenFile
  /-- What has been written to the pipes and not been read. -/
  pipes : List Bytes
  nextId : Nat
  /-- The variables that launched programs see. -/
  env : List (String × String)
  /-- The streams that are held on to by who watches over processes. -/
  kept : List Stream

/-- The directories that programs are looked for in, unless the environment says otherwise. -/
def usualPath : String := "/usr/local/sbin:/usr/local/bin:/usr/sbin:/usr/bin:/sbin:/bin"

def Machine.idle : Machine := ⟨[], [], [], 2, [("PATH", usualPath)], []⟩

abbrev Host := World Machine

namespace Proc

def stream? (p : Proc) (fd : Nat) : Option Stream := p.streams.lookup fd

/-- Sets the status of the last command. -/
def withStatus (p : Proc) (n : Nat) : Proc := { p with shell := { p.shell with status := n } }

def push (p : Proc) (ts : List Task) : Proc := { p with tasks := ts ++ p.tasks }

/-- The streams a process holds on to, those it will put back or read included. -/
def held (p : Proc) : List Stream :=
  p.streams.map Prod.snd ++ p.tasks.flatMap Task.held

/-- Whether a process runs and holds on to a stream. -/
def holds (p : Proc) (s : Stream) : Bool := p.ended.isNone && p.held.contains s

def sureSignal : Nat := 9

/-- The signal that a stopped process goes on at. -/
def goOnSignal : Nat := 18

/-- The signal that nothing withstands and that stops a process. -/
def sureStop : Nat := 19

def stopSignals : List Nat := [sureStop, 20, 21, 22]

/-- The signals that end nothing unless something is done about them. -/
def harmlessSignals : List Nat := [17, goOnSignal, 23, 28]

/-- The effect of a signal on a process that is not stopped.  Signals that are ignored have none,
and others may have been provided for. -/
def meet (p : Proc) (n : Nat) : Proc :=
  if p.ended.isSome then p
  else if n = sureStop then { p with stopped := true }
  else if p.ignored.contains n then p
  else if p.shell.traps.any fun t => t.1 = n then { p with pending := p.pending ++ [n] }
  else if harmlessSignals.contains n then p
  else if stopSignals.contains n then { p with stopped := true }
  else { p with ended := some n }

/-- **A process gets a signal.**  Where it is stopped, signals wait until it goes on. -/
def signal (p : Proc) (n : Nat) : Proc :=
  if n = sureSignal then { p with ended := some n }
  else if n = goOnSignal then
    (p.queued.mergeSort fun a b => a ≤ b).foldl meet
      (meet { p with stopped := false, queued := [] } n)
  else if p.stopped then
    if stopSignals.contains n || p.queued.contains n then p
    else { p with queued := p.queued ++ [n] }
  else p.meet n

end Proc

namespace Host

def proc? (w : Host) (id : Nat) : Option Proc := w.outer.procs.find? fun p => p.id = id

def withMachine (w : Host) (m : Machine) : Host := { w with outer := m }

/-- Replaces the process with the same number. -/
def setProc (w : Host) (p : Proc) : Host :=
  w.withMachine { w.outer with
    procs := w.outer.procs.map fun q => if q.id = p.id then p else q }

/-- Starts a process with the next number. -/
def spawn (w : Host) (make : Nat → Proc) : Nat × Host :=
  let id := w.outer.nextId
  (id, w.withMachine { w.outer with procs := w.outer.procs ++ [make id], nextId := id + 1 })

/-- Forgets a child that nobody waits for again. -/
def forget (w : Host) (id : Nat) : Host :=
  w.withMachine { w.outer with procs := w.outer.procs.filter fun q => q.id ≠ id }

def openFile (w : Host) (h : Handle) (a : Access) : Nat × Host :=
  (w.outer.handles.length, w.withMachine { w.outer with handles := w.outer.handles ++ [⟨h, a⟩] })

def makePipe (w : Host) : Nat × Host :=
  (w.outer.pipes.length, w.withMachine { w.outer with pipes := w.outer.pipes ++ [[]] })

def fileOf? (w : Host) : Stream → Option Nat
  | .file n =>
      match w.outer.handles[n]? with
      | some ⟨⟨.file id, _, _⟩, _⟩ => some id
      | _ => none
  | _ => none

def accessOf (w : Host) : Stream → Access
  | .device _ a => a
  | .file n => ((w.outer.handles[n]?).map OpenFile.access).getD .both
  | .source _ => .reading
  | .folder => .reading
  | _ => .writing

/-- Why nothing can be written to a stream. -/
def writeRefusal? (w : Host) (s : Stream) : Option Errno :=
  if w.accessOf s = .reading then some .badStream
  else
    match s with
    | .out => w.outage
    | .device .full _ => some .noSpace
    | _ => none

/-- The files that somebody has open for writing. -/
def writtenFiles (w : Host) : List Nat :=
  let held := w.outer.kept ++ (w.outer.procs.filter fun p => p.ended.isNone).flatMap Proc.held
  held.filterMap fun s => match s with
    | .file n =>
        match w.outer.handles[n]? with
        | some ⟨⟨.file id, _, _⟩, access⟩ => if access = .reading then none else some id
        | _ => none
    | _ => none

/-- Whether a file is the program of a process that runs. -/
def isRun (w : Host) (id : Nat) : Bool :=
  w.outer.procs.any fun p => p.ended.isNone && p.image = some id

def emit (w : Host) (s : Stream) (b : Bytes) : Host :=
  if b.isEmpty then w
  else
    match s with
    | .out => w.display (.out b)
    | .err => w.display (.err b)
    | .file n =>
        match w.outer.handles[n]? with
        | none => w
        | some o =>
            match o.access, w.files.write o.handle b with
            | .reading, _ => w
            | _, .ok (t, h) => { w with
                files := t
                outer := { w.outer with handles := w.outer.handles.set n { o with handle := h } } }
            | _, .error _ => w
    | .drain n =>
        w.withMachine { w.outer with
          pipes := w.outer.pipes.set n ((w.outer.pipes[n]?).getD [] ++ b) }
    | .device _ _ => w
    | .source _ => w
    | .folder => w

/-- Writes to a numbered stream of a process. -/
def emitTo (w : Host) (p : Proc) (fd : Nat) (b : Bytes) : Host :=
  match p.stream? fd with
  | some s => w.emit s b
  | none => w

/-- Whether nothing more will come from a stream than is there now. -/
def isDry (w : Host) (s : Stream) : Bool :=
  match s with
  | .source n => !w.outer.procs.any fun p => p.holds (.drain n)
  | .device .zero _ => false
  | .device .full _ => false
  | _ => true

/-- Whether a stream has something to read now. -/
def hasMore (w : Host) (s : Stream) : Bool :=
  match s with
  | .source n => !((w.outer.pipes[n]?).getD []).isEmpty
  | .device .zero _ => true
  | .device .full _ => true
  | _ => false

/-- How much a pipe holds, and how much is read at once from what never ends. -/
def pipeMax : Nat := 4096

/-- What a stream has to read now. -/
def peek (w : Host) (s : Stream) : Bytes :=
  match s with
  | .file n =>
      match w.outer.handles[n]? with
      | some ⟨⟨.file id, offset, _⟩, _⟩ =>
          ((w.files.file? id).map fun f => f.bytes.drop offset).getD []
      | _ => []
  | .source n => (w.outer.pipes[n]?).getD []
  | .device .zero _ => List.replicate pipeMax 0
  | .device .full _ => List.replicate pipeMax 0
  | _ => []

/-- Leaves out the first bytes that a stream has to read. -/
def consume (w : Host) (s : Stream) (count : Nat) : Host :=
  match s with
  | .file n =>
      match w.outer.handles[n]? with
      | none => w
      | some o =>
          let h := { o.handle with offset := o.handle.offset + count }
          w.withMachine { w.outer with handles := w.outer.handles.set n { o with handle := h } }
  | .source n =>
      w.withMachine { w.outer with
        pipes := w.outer.pipes.set n (((w.outer.pipes[n]?).getD []).drop count) }
  | _ => w

/-- Sends a signal to the processes of a kind. -/
def kill (w : Host) (signal : Nat) (which : Proc → Bool) : Host :=
  w.withMachine { w.outer with
    procs := w.outer.procs.map fun p =>
      if which p && p.ended.isNone then p.signal signal else p }

/-- Takes everything that a stream has to read now. -/
def take (w : Host) (s : Stream) : Bytes × Host :=
  let bytes := w.peek s
  (bytes, w.consume s bytes.length)

def killGroup (w : Host) (group : Nat) : Host := w.kill Proc.sureSignal fun p => p.group = group

/-- Whether a process still holds on to the console. -/
def isWatched (w : Host) : Bool := w.outer.procs.any fun p => p.holds .out || p.holds .err

end Host

end BatchRunner
