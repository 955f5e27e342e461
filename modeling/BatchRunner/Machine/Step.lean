/-
**How the machine runs.**

One process at a time does the first of its tasks: the one with the lowest number among those that
can.  When none can, time passes until one wakes.

Main definitions:

* `Host.perform` — a process does its first task;
* `Host.isReady` — whether a process can;
* `Host.step?` — one step of the machine;
* `Host.advance` — steps until a condition holds, or until a time.
-/
import BatchRunner.Machine.Evaluation
import BatchRunner.Machine.Input

set_option autoImplicit false

namespace BatchRunner

namespace Host

/-! ### Children -/

def hasEnded (w : Host) (id : Nat) : Bool :=
  match w.proc? id with
  | some q => q.ended.isSome
  | none => true

/-- The status of a child that has ended. -/
def childStatus (w : Host) (id : Nat) : Nat :=
  ((w.proc? id).bind fun q => q.ended.map statusOf).getD 127

/-- A text without the ends of lines at its end. -/
def trimmed (s : String) : String :=
  String.ofList (s.toList.reverse.dropWhile (· = '\n')).reverse

/-- The status of a command that a signal interrupts. -/
def interruptedBy (n : Nat) : Nat := 128 + n

/-- The end of waiting for all jobs. -/
def endWait (w : Host) (p : Proc) : Host :=
  match p.pending with
  | n :: _ => w.settle p (interruptedBy n)
  | [] =>
      let (w, p) := w.notice p none
      w.settle (p.withShell { p.shell with
        jobs := p.shell.jobs.map fun j => { j with waited := true } }) 0

/-- The job that is waited for next, if there is one, or what is wrong. -/
def awaited (s : Shell) (text : String) : Except String (Option ShellJob) :=
  if text.startsWith "%" then (s.job? text).map some
  else
    match Builtin.count? text with
    | some id => .ok (s.jobOf? id)
    | none => .error (Builtin.illegal text)

/-- Goes on with waiting for jobs in order. -/
def waitNext (w : Host) (p : Proc) (line : Nat) (status : Nat) : List String → Host
  | [] => w.settle p status
  | text :: rest =>
      match awaited p.shell text, p.pending with
      | .error text, _ => (w.complainFor p line (some "wait") text).settle p fatalStatus
      | .ok none, _ => w.setProc (p.push [.waitEach line rest status])
      | .ok (some _), n :: _ => w.settle p (interruptedBy n)
      | .ok (some j), [] =>
          let (w, p) := w.notice p (some j.number)
          let ended := ((p.shell.jobs.find? fun k => k.number = j.number).map ShellJob.ended).getD 0
          w.setProc ((p.withShell (p.shell.noteWaited j.number)).push
            [.waitEach line rest (statusOf ended)])

/-! ### Tasks -/

/-- Ends a process.  What is provided for the end of its script is done before. -/
def finish (w : Host) (p : Proc) : Host :=
  match p.shell.traps.lookup 0 with
  | some text =>
      let s := { p.shell with traps := p.shell.traps.filter fun t => t.1 ≠ 0 }
      w.setProc { p.withShell s with
        tasks := [Script.task 1 text false, .setStatus s.status, .finish] }
  | none => w.setProc { p with tasks := [], ended := some (p.shell.status % 256 * 256) }

/-- Does what is provided for a signal, and goes on as if nothing had happened. -/
def heed (w : Host) (p : Proc) (n : Nat) : Host :=
  let p := { p with pending := p.pending.tail }
  match p.shell.traps.lookup n with
  | some text =>
      w.setProc (p.push [Script.task 1 text false, .setStatus p.shell.status])
  | none => w.setProc p

/-- Whether what a process writes goes into the file with a number, behind a place in it. -/
def writesBehind (w : Host) (p : Proc) (id place : Nat) : Bool :=
  match p.stream? 1 with
  | some (.file n) =>
      match w.outer.handles[n]? with
      | some ⟨h, _⟩ =>
          let size := ((w.files.file? id).map fun f => f.bytes.length).getD 0
          h.target = .file id && place < (if h.append then size else h.offset)
      | none => false
  | _ => false

/-- Copies a file to the output of a process. -/
def copyFile (w : Host) (p : Proc) (path : String) : Host :=
  match w.files.found? p.cwd (Octets.unpack path) with
  | some (.file id) =>
      if w.writesBehind p id 0 then
        (Utility.grumble w p (Utility.shown path ++ ": input file is output file")).settle p 1
      else w.write p (((w.files.file? id).map File.bytes).getD [])
  | some (.device .zero) => w.write (p.push [.copyFile path]) (List.replicate pipeMax 0)
  | some (.device .full) => w.write (p.push [.copyFile path]) (List.replicate pipeMax 0)
  | _ =>
      match Utility.contents w p path with
      | .ok (b, w) => w.write p b
      | .error e => (Utility.grumble w p (Utility.plainComplaint path e)).settle p 1

/-- Copies what there is to read to the output of a process. -/
def copy (w : Host) (p : Proc) : Host :=
  let refused (e : Errno) : Host :=
    (Utility.grumble w p (Utility.plainComplaint "-" (.os e))).settle p 1
  match p.stream? 0 with
  | none =>
      let w := Utility.grumble w p (Utility.plainComplaint "-" (.os .badStream))
      (Utility.grumble w p
        ("closing standard input: " ++ Utility.reason (.os .badStream))).settle p 1
  | some .folder => refused .isDir
  | some s =>
      let loops := match s with
        | .file n => match w.outer.handles[n]? with
            | some ⟨⟨.file id, offset, _⟩, _⟩ => w.writesBehind p id offset
            | _ => false
        | _ => false
      if w.accessOf s = .writing then refused .badStream
      else if loops then (Utility.grumble w p "-: input file is output file").settle p 1
      else
        let dry := w.isDry s
        let (b, w) := w.take s
        w.write (if dry then p else p.push [.copy]) b

/-- Whether another program of a batch can be started. -/
def hasRoom (b : Batch) : Bool := b.most = 0 || b.running.length < b.most

/-- Starts the next program of a batch.  Behind the last one it is said what is wrong with the
items. -/
def startNext (w : Host) (p : Proc) (b : Batch) (argv : List String) (rest : List (List String)) :
    Host :=
  let w := if b.told then w.grumble p (" ".intercalate (argv.map Utility.shownWord)) else w
  match Utility.lookUp w p p.shell argv with
  | .error e =>
      (Utility.grumble w p (argv.headD "" ++ ": " ++ e.text)).settle p (Utility.failureStatus e)
  | .ok found =>
      let input := if b.sharesInput then (p.stream? 0).getD .nothing else .nothing
      let (id, w) := Utility.startChild w p input found
      let b := { b with running := b.running ++ [(id, argv.headD "")], rest := rest }
      match rest, b.complaint with
      | [], some text =>
          (Utility.grumble w p text).setProc
            (p.push [.batch { b with complaint := none, status := 1 }])
      | _, _ => w.setProc (p.push [.batch b])

/-- Goes on with a batch of programs. -/
def batch (w : Host) (p : Proc) (b : Batch) : Host :=
  match b.running.find? fun x => w.hasEnded x.1 with
  | some (id, name) =>
      let ended := ((w.proc? id).bind Proc.ended).getD 0
      let w := w.forget id
      let b := { b with running := b.running.filter fun x => x.1 ≠ id }
      if ended % 256 ≠ 0 then
        (Utility.grumble w p (name ++ ": terminated by signal " ++ toString (ended % 256))).settle
          p 125
      else if ended / 256 = 255 then
        (Utility.grumble w p (name ++ ": exited with status 255; aborting")).settle p 124
      else
        w.setProc (p.push [.batch (if ended = 0 || b.status ≠ 0 then b
          else { b with status := 123 })])
  | none =>
      match b.rest with
      | argv :: rest => if hasRoom b then w.startNext p b argv rest else w.setProc (p.push [.batch b])
      | [] =>
          match b.running, b.complaint with
          | [], some text => (Utility.grumble w p text).settle p 1
          | [], none => w.settle p b.status
          | _, _ => w.setProc (p.push [.batch b])

/-- Sends a signal to a child that may run for a limited time and, unless it is alone, to the group.
Only the signal that nothing withstands comes back to the sender. -/
def pursue (w : Host) (p : Proc) (x : Limit) (signal : Nat) : Host :=
  let others (q : Proc) : Bool :=
    q.group = p.group && (q.id ≠ p.id || signal = Proc.sureSignal)
  let w := match x.command with
    | some name => Utility.grumble w p ("sending signal " ++ Signal.names.getD signal ""
        ++ " to command '" ++ name ++ "'")
    | none => w
  let reach (w : Host) (n : Nat) : Host :=
    let w := w.kill n fun q => q.id = x.child
    if x.alone then w else w.kill n fun q => others q && q.id ≠ x.child
  let w := if signal = 0 then w else reach w signal
  if x.alone || signal = Proc.sureSignal || signal = Proc.goOnSignal then w
  else reach w Proc.goOnSignal

/-- The end of a child that could run for a limited time.  What ended it in time ends who watched it
too. -/
def endLimit (w : Host) (p : Proc) (x : Limit) (ended : Nat) : Host :=
  let signal := ended % 256
  if signal ≠ 0 && !x.expired then w.setProc { p with ended := some signal }
  else
    w.settle p (if x.expired && !x.preserve && signal ≠ Proc.sureSignal then 124 else statusOf ended)

/-- Watches a child that may run for a limited time.  Signals are passed on to it. -/
def watch (w : Host) (p : Proc) (x : Limit) : Host :=
  match (w.proc? x.child).bind Proc.ended with
  | some ended => w.endLimit p x ended
  | none =>
      let (signal, timeUp) := match p.pending with
        | n :: _ => (n, false)
        | [] => (x.signal, true)
      let next := match x.patience with
        | some ms => { x with
            deadline := some (w.clock + ms)
            signal := Proc.sureSignal
            patience := none
            expired := x.expired || timeUp }
        | none => if timeUp then { x with deadline := none, expired := true } else x
      (w.setProc ({ p with pending := p.pending.tail }.push [.limit next])).pursue p x signal

def assignAll (w : Host) (p : Proc) (line : Nat) (status : Nat) : List (String × String) → Host
  | [] => w.settle p status
  | (name, value) :: rest =>
      if !Script.isName name then
        (w.complainFor p line (some "read") (name ++ ": bad variable name")).settle p fatalStatus
      else if (p.shell.named? name).any Variable.fixed then
        (w.complainFor p line (some "read") (name ++ ": is read only")).settle p fatalStatus
      else w.assignAll (p.withShell (p.shell.assign name value)) line status rest

/-- Reads a line into parameters.  A line without an end is read, but fails. -/
def readLine (w : Host) (p : Proc) (line : Nat) (raw : Bool) (names : List String)
    (sofar : List Script.Marked) : Host :=
  let s := (p.stream? 0).getD .nothing
  let bytes := (w.peek s).takeWhile (· ≠ 10)
  let ended := (w.peek s).contains 10
  let w := w.consume s (bytes.length + if ended then 1 else 0)
  let l := Input.mark raw (Script.text bytes).toList
  let chars := sofar ++ l.chars
  if l.joined && ended then w.setProc (p.push [.readLine line raw names chars])
  else
    let status := if ended then 0 else 1
    w.assignAll p line status (names.zip (Input.values p.shell.separators names.length chars))

/-- **A process does its first task.** -/
def performTask (w : Host) (p : Proc) : Task → Host
  | .run c tested outputs => w.runCommand p c tested outputs
  | .onlyIf ok c tested =>
      w.setProc (if (p.shell.status = 0) = ok then p.push [.run c tested []] else p)
  | .branch yes no tested =>
      w.setProc (p.push [.run (if p.shell.status = 0 then yes else no) tested []])
  | .negate => w.settle p (if p.shell.status = 0 then 1 else 0)
  | .again wanted test body tested (some status) =>
      if (p.shell.status = 0) = wanted then
        w.setProc (p.push [.run body tested [], .again wanted test body tested none])
      else w.settle p status
  | .again wanted test body tested none =>
      w.setProc (p.push [.run test true [], .again wanted test body tested (some p.shell.status)])
  | .each _ _ [] _ _ => w.setProc p
  | .each line name (v :: vs) body tested =>
      if (p.shell.named? name).any Variable.fixed then
        w.fatal p line (name ++ ": is read only")
      else
        w.setProc ((p.withShell (p.shell.assign name v)).push
          [.run body tested [], .each line name vs body tested])
  | .restore s => w.setProc { p with streams := s }
  | .forget saved => w.setProc (p.undo (.forget saved))
  | .await id =>
      let (w, p) := w.notice p none
      ((w.announce p id).settle p (w.childStatus id)).forget id
  | .waitAll => w.endWait p
  | .waitEach line jobs status => w.waitNext p line status jobs
  | .assign x outputs => w.runPrepared p x outputs
  | .collect id n next =>
      let (w, p) := w.notice p none
      let w := w.announce p id
      let (b, w) := w.take (.source n)
      let output : Output := ⟨trimmed (Script.text b), w.childStatus id⟩
      (w.setProc (p.push [next.withOutput output])).forget id
  | .check => w.setProc (if p.shell.has 'e' && p.shell.status ≠ 0 then p.quit else p)
  | .endCall => w.setProc (p.undo .endCall)
  | .endSource => w.setProc p
  | .shield => w.setProc p
  | .speak s => w.setProc (p.undo (.speak s))
  | .setStatus n => w.settle p n
  | .readLine line raw names sofar => w.readLine p line raw names sofar
  | .become line search argv =>
      match w.becomeWithin p search argv with
      | .ok w => w
      | .error r => (w.complain p line (argv.headD "" ++ ": " ++ r.text)).settle p r.status
  | .utility name argv => Utility.start w p name argv
  | .copy => w.copy p
  | .copyFile path => w.copyFile p path
  | .batch b => w.batch p b
  | .walk x => x.goOn w p
  | .limit x => w.watch p x
  | .script s tested =>
      let showing (lines : List String) : Host := if p.shell.has 'v'
        then w.emitTo p 2 (Octets.bytes (String.join lines)) else w
      match s.next? p.shell.aliases with
      | none => (showing (s.lines.map Prod.snd)).setProc p
      | some (.ok c, t) =>
          let p := p.withShell { p.shell with reached := t.line }
          (showing (s.linesBetween t)).setProc
            (p.push ((c.map fun c => Task.run c tested []).toList ++ [.script t tested]))
      | some (.error e, t) =>
          (showing (s.linesBetween t)).fatal p e.line ("Syntax error: " ++ e.text)
  | .finish => w.finish p

/-- Whether a task is a wait for children, which is to end before anything is done about signals. -/
def isWait : Task → Bool
  | .await _ => true
  | .waitAll => true
  | .waitEach _ _ _ => true
  | .collect _ _ _ => true
  | .limit _ => true
  | _ => false

/-- Sets the permissions that new files do not get. -/
def withMask (w : Host) (mask : Nat) : Host := { w with files := { w.files with mask := mask } }

/-- **A process does its first task**, or what is provided for a signal that it got. -/
def perform (w : Host) (p : Proc) : Host :=
  let w := w.withMask p.mask
  let w := match p.pending, p.tasks with
    | _, [] => w.finish p
    | [], t :: ts => w.performTask { p with tasks := ts } t
    | n :: _, t :: ts =>
        if isWait t then w.performTask { p with tasks := ts } t else w.heed p n
  w.withMask usualMask

/-! ### Time -/

/-- Whether nothing more will come from the input of a process. -/
def hasAllInput (w : Host) (p : Proc) : Bool := (p.stream? 0).all w.isDry

/-- Whether the first task of a process can be done now. -/
def canDo (w : Host) (p : Proc) : Task → Bool
  | .await id => w.hasEnded id
  | .waitAll => !p.pending.isEmpty || p.shell.jobs.all w.isOver
  | .waitEach _ jobs _ =>
      !p.pending.isEmpty || (match jobs.head?.map (awaited p.shell) with
        | some (.ok (some j)) => w.isOver j
        | _ => true)
  | .collect id n _ => w.hasEnded id && w.isDry (.source n)
  | .batch b => b.running.isEmpty || b.running.any (fun x => w.hasEnded x.1)
      || !b.rest.isEmpty && hasRoom b
  | .walk x => x.child.all fun c => w.hasEnded c.1
  | .limit x => !p.pending.isEmpty || w.hasEnded x.child || x.deadline.any (· ≤ w.clock)
  | .copy => match p.stream? 0 with
      | some s => w.isDry s || w.hasMore s
      | none => true
  | .readLine _ _ _ _ => match p.stream? 0 with
      | some s => w.isDry s || (w.peek s).contains 10
      | none => true
  | .utility name argv =>
      match Utility.wants w p name argv with
      | .nothing => true
      | .lines n => w.hasAllInput p || n ≤ ((p.stream? 0).map fun s =>
          ((w.peek s).filter (· = 10)).length).getD 0
      | .bytes n => w.hasAllInput p || n ≤ ((p.stream? 0).map fun s => (w.peek s).length).getD 0
      | .passing enough =>
          w.hasAllInput p || ((p.stream? 0).map fun s => enough (w.peek s)).getD true
      | .all => w.hasAllInput p
  | _ => true

/-- Whether a process takes everything out of a pipe before it does something. -/
def gathers (w : Host) (n : Nat) (p : Proc) : Bool :=
  p.holds (.source n) && p.tasks.head?.any fun t => match t with
    | .collect _ _ _ => true
    | .utility _ _ => !w.canDo p t
    | _ => false

/-- Whether a process has to wait before it can write more. -/
def isHeldUp (w : Host) (p : Proc) : Bool :=
  match p.stream? 1 with
  | some (.drain n) =>
      pipeMax ≤ ((w.outer.pipes[n]?).getD []).length && !w.isBroken (.drain n)
        && !w.outer.procs.any (w.gathers n)
  | _ => false

/-- Whether a process can do something now. -/
def isReady (w : Host) (p : Proc) : Bool :=
  p.ended.isNone && !p.stopped && p.wake ≤ w.clock && (p.tasks.head?.map (w.canDo p)).getD true
    && !w.isHeldUp p

/-- Files get the time of the world, and the program and the processes follow the directories they
are in. -/
def align (w : Host) : Host :=
  match w.files.moves with
  | [] =>
      if w.files.now = w.clock then w else { w with files := { w.files with now := w.clock } }
  | moves =>
      { w with
        files := { w.files with
          cwd := moves.foldl Place.after w.files.cwd
          now := w.clock
          moves := [] }
        outer := { w.outer with
          procs := w.outer.procs.map fun p => { p with cwd := moves.foldl Place.after p.cwd } } }

/-- A process does one thing, which takes no time. -/
def takeStep (w : Host) (p : Proc) : Host := { w.perform p with clock := w.clock }

/-- One step of the machine, if any process can do something. -/
def step? (w : Host) : Option Host :=
  let w := align w
  (w.outer.procs.find? w.isReady).map w.takeStep

def times (p : Proc) : List Nat :=
  if p.ended.isSome || p.stopped then []
  else
    match p.tasks.head? with
    | some (.limit x) => p.wake :: x.deadline.toList
    | _ => [p.wake]

/-- The next time that a process waits for. -/
def nextWake? (w : Host) : Option Nat :=
  ((w.outer.procs.flatMap times).filter fun time => w.clock < time).min?

/-- Every process that can do something does one thing. -/
def turn (w : Host) : Host :=
  (w.outer.procs.map Proc.id).foldl (fun w id =>
    let w := align w
    match (w.proc? id).filter w.isReady with
    | some p => w.takeStep p
    | none => w) w

/-- Lets time pass up to a given time. -/
def passTo (w : Host) (time : Nat) : Host :=
  { w with clock := max w.clock time, files := { w.files with now := max w.clock time } }

/-- The largest number of steps in a row where there is no limit. -/
def stepMax : Nat := 3000000

/-- The number of steps that take a millisecond. -/
def stepsPerMilli : Nat := 1000

/-- Steps until a condition holds.  Now and then every process has its turn.  With a limit, what would
happen at that time or later does not happen. -/
def advanceFor (stop : Host → Bool) (limit? : Option Nat) : Nat → Host → Host
  | 0, w => w
  | fuel + 1, w =>
      if stop w || limit?.any (· ≤ w.clock) then w
      else
        match w.step? with
        | some w =>
            advanceFor stop limit? fuel
              (if fuel % stepsPerMilli = 0 then (w.passTo (w.clock + 1)).turn else w)
        | none =>
            match w.nextWake?, limit? with
            | none, none => w
            | none, some limit => w.passTo limit
            | some time, none => advanceFor stop limit? fuel (w.passTo time)
            | some time, some limit =>
                if limit ≤ time then w.passTo limit
                else advanceFor stop limit? fuel (w.passTo time)

/-- **Lets the machine run** until a condition holds, or until a time.  Where there is a time, there are
steps enough to get there; where there is none, the machine may stop before anything has come of it. -/
def advance (w : Host) (stop : Host → Bool) (limit? : Option Nat) : Host :=
  advanceFor stop limit?
    ((limit?.map fun limit => stepsPerMilli * (limit - w.clock)).getD stepMax) w

end Host

end BatchRunner
