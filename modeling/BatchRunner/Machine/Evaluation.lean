/-
**How commands are run.**

To run a command is to put tasks before the others, to start processes, or to carry out something at
once.

Main definitions:

* `Host.fork` — starts a child;
* `Host.expanding` — finds out what words stand for, and runs scripts for their output;
* `Host.runPrepared` — runs a simple command whose words are known;
* `Host.runCommand` — runs a command.
-/
import BatchRunner.Machine.Redirection
import BatchRunner.Machine.Utility

set_option autoImplicit false

namespace BatchRunner

namespace Host

/-- What a child of a script sees.  Nothing is provided for signals, unless they are ignored. -/
def inherited (s : Shell) : Shell :=
  { s with traps := s.traps.filter (fun t => t.2 = "" && t.1 ≠ 0), jobs := [], reached := 1 }

/-- The end of a loop that a child is within.  To leave it is to leave what the child does. -/
def outerLoop : Task := .each 1 "" [] .skip true

/-- **Starts a child** that does some tasks and ends. -/
def fork (w : Host) (p : Proc) (streams : Streams) (ts : List Task) : Nat × Host :=
  w.spawn fun id =>
    { p with
      id := id
      parent := p.id
      streams := streams
      shell := inherited p.shell
      pending := []
      tasks := ts ++ List.replicate p.loops outerLoop ++ [.finish]
      ended := none }

/-! ### Words -/

/-- Runs a script for its output, which something to do wants. -/
def runForOutput (w : Host) (p : Proc) (line : Nat) (text : String) (s : Shell) (next : Task) :
    Host :=
  let (n, w) := w.makePipe
  let task := match Script.inner? s.aliases line text with
    | some c => Task.run c false []
    | none => .setStatus 0
  let (id, w) := w.fork (p.withShell s) (swapped p 1 (.drain n)) [task]
  w.setProc ((p.withShell p.shell.claim.2).push [.collect id n next])

/-- **Finds out what words stand for**, and goes on from there.  Where the output of a script is
wanted, that is run first, and the given task begins anew with its output. -/
def expanding {α : Type} (w : Host) (p : Proc) (line : Nat) (anew : Task) (outputs : List Output)
    (e : Expanding α) (go : α → Shell → Host) : Host :=
  match e.run ⟨p.shell, outputs⟩ with
  | .ok (a, d) => go a d.shell
  | .error (.mistake text) => w.fatal p line text
  | .error (.late text) => w.fatal p p.shell.reached text
  | .error (.output n text s) => w.runForOutput p n text s anew

/-- The status of the last script that was run for its output. -/
def lastStatus (status : Nat) (outputs : List Output) : Nat :=
  (outputs.getLast?.map Output.status).getD status

/-- A simple command whose words are known, and whose parameters are set. -/
structure Simple where
  line : Nat
  assigned : List (String × String)
  redirected : Bool
  /-- What the assigned parameters were before. -/
  saved : Saved
  /-- The shell without the assignments. -/
  shell : Shell
  tested : Bool
  /-- The status of the last script that was run for its output. -/
  status : Nat

/-- What stands before a line that shows a command: a text in which values are put into their
places, if that is possible. -/
def tracePrompt (s : Shell) : String :=
  let text := (s.param? "PS4").getD ""
  match (Expanding.markedWith .never (Script.quotedWord text)).run ⟨s, []⟩ with
  | .ok (cs, _) => Expanding.unmark cs
  | .error _ => text

/-- The line that shows a simple command before it is run. -/
def trace (s : Shell) (assigned : List (String × String)) (words : List String) : String :=
  tracePrompt s ++ " ".intercalate (assigned.map (fun a => a.1 ++ "=" ++ a.2) ++ words)

/-! ### Simple commands -/

/-- A shell with parameters that programs see. -/
def exporting (s : Shell) (assigned : List (String × String)) : Shell :=
  assigned.foldl (fun s a => s.alter a.1 fun v => { v with exported := true }) s

/-- Calls a function. -/
def call (w : Host) (p : Proc) (x : Simple) (body : Script.Command) (args : List String) : Host :=
  let s := exporting p.shell x.assigned
  w.setProc ((p.withShell { s with
    args := args
    cursor := .start
    frames := ⟨s.args, s.cursor, x.saved, none⟩ :: s.frames }).push [.run body x.tested [], .endCall])

/-- What a command is to be run as: functions may be left out, and mistakes may be mere failures. -/
structure Manner where
  functions : Bool
  strict : Bool
  /-- Whether programs are looked for in the usual places. -/
  usual : Bool

def searchPath (m : Manner) (s : Shell) : String :=
  if m.usual then usualPath else (s.param? "PATH").getD ""

/-- Whether a child has nothing left to do but to end. -/
def isLast (p : Proc) : Bool :=
  p.id ≠ p.shell.leader && p.shell.traps.isEmpty && p.tasks.all fun t => match t with
    | .finish => true
    | .check => true
    | .each _ _ [] _ _ => true
    | _ => false

/-- Runs a program in a child, or in the place of one that has nothing else to do. -/
def runProgram (w : Host) (p q : Proc) (x : Simple) (m : Manner) (words : List String) : Host :=
  let inside := q.withShell (exporting q.shell x.assigned)
  let search := searchPath m q.shell
  match Program.resolveWithin w.library q.cwd search words with
  | .error r =>
      (w.complain q x.line (words.headD "" ++ ": " ++ r.text)).settle (p.withShell x.shell) r.status
  | .ok _ =>
      if isLast p then w.setProc { inside with tasks := [.become x.line search words, .finish] } else
      let (id, w) := w.fork inside q.streams [.become x.line search words]
      let p := p.withShell (Builtin.noteLocated x.shell.claim.2 (words.headD ""))
      w.setProc (if x.redirected
        then { p with streams := q.streams }.push [.await id, .restore p.streams]
        else p.push [.await id])

/-- Runs a simple command.  The first process is as it was, the second within the redirections. -/
def runNamed (w : Host) (p q : Proc) (x : Simple) (m : Manner) : List String → Host
  | [] => w.settle (p.withShell q.shell) x.status
  | "exec" :: argv =>
      if argv.isEmpty then w.settle q 0
      else
        w.setProc { (q.withShell { exporting q.shell x.assigned with speaker := some "exec" }).quit
          with tasks := [.become x.line (searchPath m q.shell) argv, .finish] }
  | "command" :: args =>
      let c : Builtin.Call := ⟨x.line, "command", args, x.tested, false⟩
      match _h : Builtin.commandUse .start args with
      | .error o =>
          c.fail w (q.push [.restore p.streams, .forget x.saved]) (Builtin.illegalOption o)
      | .ok u =>
          match u.view, _hw : u.words with
          | some verbose, name :: _ =>
              let usual := if u.usual then [("PATH", q.shell.named? "PATH")] else []
              let q := if u.usual then q.withShell (q.shell.assign "PATH" usualPath) else q
              let inside := q.push [.restore p.streams, .forget (usual ++ x.saved)]
              if verbose then Builtin.types c w inside [name]
              else Builtin.shownPath c w inside name
          | _, [] => w.settle p 0
          | none, name :: more => w.runNamed p q x ⟨false, false, u.usual⟩ (name :: more)
  | name :: args =>
      let special := Builtin.isSpecial name
      let body? := if m.functions && !special then p.shell.functions.lookup name else none
      let back : List Task := if x.redirected then [.restore p.streams] else []
      match body? with
      | some body => w.call (q.push back) x body args
      | none =>
          let kept : List Task :=
            if x.assigned.isEmpty || special && m.strict then back
            else back ++ [.forget x.saved]
          let kept := if special && !m.strict then .shield :: kept else kept
          let c : Builtin.Call := ⟨x.line, name, args, x.tested, special && m.strict⟩
          match Builtin.run? w (q.push kept) c with
          | some w => w
          | none => w.runProgram p q x m (name :: args)
termination_by words => words.length
decreasing_by
  have := Builtin.words_length_le _h
  simp only [_hw, List.length_cons] at this
  simp only [List.length_cons]
  omega

/-- Puts a task behind that ends the script if the last command failed, unless that is tested. -/
def checked (p : Proc) (tested : Bool) : Proc := if tested then p else p.push [.check]

/-- Sets the parameters of a simple command in order. -/
def assignWords (assigned : List (String × Script.Word)) :
    Expanding (List (String × String)) :=
  assigned.mapM fun a => do
    let value ← Expanding.assigned a.2
    Expanding.assign a.1 value
    return (a.1, value)

/-- **Runs a simple command whose words are known and whose redirections have been carried out.** -/
def runPrepared (w : Host) (q : Proc) (x : Prepared) (outputs : List Output) : Host :=
  let p := { q with streams := x.streams }
  match (assignWords x.assigned).run ⟨q.shell, outputs⟩ with
  | .error (.mistake text) => (w.complain q x.line text).settle p.abandon fatalStatus
  | .error (.late text) => (w.complain q q.shell.reached text).settle p.abandon fatalStatus
  | .error (.output n text s) => w.runForOutput q n text s (.assign x outputs)
  | .ok (assigned, d) =>
      let w := if d.shell.has 'x' && !(assigned.isEmpty && x.words.isEmpty)
        then w.grumble p (trace d.shell assigned x.words) else w
      w.runNamed p (q.withShell d.shell)
        { line := x.line
          assigned := assigned
          redirected := x.redirected
          saved := (assigned.map Prod.fst).eraseDups.map fun n => (n, q.shell.named? n)
          shell := q.shell
          tested := x.tested
          status := lastStatus x.status outputs }
        ⟨true, true, false⟩ x.words

/-- Runs a simple command.  Its words are found out first, then its redirections are carried out,
then its parameters are set. -/
def runSimple (w : Host) (p : Proc) (line : Nat) (assigned : List (String × Script.Word))
    (words : List Script.Word) (rs : List Script.Redirect) (tested : Bool)
    (outputs : List Output) : Host :=
  let known : Expanding (List String × List Redirection) := do
    let words ← Expanding.wordsOf w.files p.cwd [] words
    return (words, ← Redirection.expand rs)
  w.expanding p line (.run (.simple line assigned words rs) tested outputs) outputs known
    fun (words, rs) s =>
      let p := (checked p tested).withShell s
      match w.redirectAll p rs with
      | .error text =>
          if words.head?.any Builtin.isSpecial then w.fatal p line text
          else (w.complain p line text).settle p fatalStatus
      | .ok (w, q) =>
          w.runPrepared q
            { line := line
              words := words
              assigned := assigned
              redirected := !rs.isEmpty
              streams := p.streams
              tested := tested
              status := lastStatus 0 outputs }
            []

/-! ### Compound commands -/

/-- Whether a text fits one of some patterns.  Those behind it are not looked at. -/
def fitsAny (value : List Char) : List Script.Word → Expanding Bool
  | [] => return false
  | w :: ws => do
      let p := Script.Pattern.ofMarked (← Expanding.marked w)
      if Script.Pattern.fits p value then return true
      fitsAny value ws

/-- The body of the first case that fits a text. -/
def chosen (value : List Char) : List (List Script.Word × Script.Command) →
    Expanding (Option Script.Command)
  | [] => return none
  | (patterns, body) :: rest => do
      if ← fitsAny value patterns then return some body
      chosen value rest

def pipeline : Script.Command → List Script.Command
  | .pipe a b => a :: pipeline b
  | c => [c]

/-- Starts a child for each command of a pipeline.  The first reads what is given, and each of the
others what the one before writes. -/
def forkAll (w : Host) (p : Proc) (streams : Streams) (tested : Bool) :
    List Script.Command → List Nat × Host
  | [] => ([], w)
  | [c] => let (id, w) := w.fork p streams [.run c tested []]; ([id], w)
  | c :: cs =>
      let (n, w) := w.makePipe
      let (id, w) := w.fork p (swapped { p with streams := streams } 1 (.drain n))
        [.run c tested []]
      let (ids, w) := w.forkAll p (swapped p 0 (.source n)) tested cs
      (id :: ids, w)

def backgroundIgnores : List Nat := [2, 3]

/-- **Runs a command.** -/
def runCommand (w : Host) (p : Proc) (c : Script.Command) (tested : Bool)
    (outputs : List Output) : Host :=
  if p.shell.has 'n' then w.setProc p else
  match c with
  | .skip => w.settle p 0
  | .simple line assigned words rs =>
      w.runSimple p line assigned words rs tested outputs
  | .pipe a b =>
      let (ids, w) := w.forkAll p p.streams tested (pipeline (.pipe a b))
      w.setProc ((checked (p.withShell p.shell.claim.2) tested).push (ids.map .await))
  | .negated c => w.setProc (p.push [.run c true [], .negate])
  | .both a b => w.setProc (p.push [.run a true [], .onlyIf true b tested])
  | .either a b => w.setProc (p.push [.run a true [], .onlyIf false b tested])
  | .inOrder a b => w.setProc (p.push [.run a tested [], .run b tested []])
  | .background c =>
      let (ids, w) := w.forkAll { p with ignored := backgroundIgnores ++ p.ignored }
        (swapped p 0 .nothing) tested (pipeline c)
      w.settle (p.withShell { p.shell.addJob ids with background := ids.getLast? }) 0
  | .subshell line c' rs =>
      w.expanding p line (.run c tested outputs) outputs (Redirection.expand rs) fun rs s =>
        let p := (checked p tested).withShell s
        match w.redirectAll p rs with
        | .error text => (w.complain p line text).settle p fatalStatus
        | .ok (w, q) =>
            if isLast p then w.setProc (q.push [.run c' tested []]) else
            let (id, w) := w.fork q q.streams [.run c' tested []]
            w.setProc ((p.withShell p.shell.claim.2).push [.await id])
  | .group line c' rs =>
      if rs.isEmpty then w.setProc (p.push [.run c' tested []])
      else
        w.expanding p line (.run c tested outputs) outputs (Redirection.expand rs) fun rs s =>
          let p := p.withShell s
          match w.redirectAll p rs with
          | .error text => (w.complain p line text).settle (checked p tested) fatalStatus
          | .ok (w, q) => w.setProc (q.push [.run c' tested [], .restore p.streams])
  | .choose test yes no => w.setProc (p.push [.run test true [], .branch yes no tested])
  | .loop wanted test body =>
      w.setProc (p.push [.run test true [], .again wanted test body tested (some 0)])
  | .each line name words body =>
      w.expanding p line (.run c tested outputs) outputs
        (Expanding.fields w.files p.cwd words) fun values s =>
          let p := p.withShell s
          if values.isEmpty then w.settle p 0
          else w.setProc (p.push [.each line name values body tested])
  | .among line word cases =>
      w.expanding p line (.run c tested outputs) outputs
        (do chosen (← Expanding.single word).toList cases) fun body? s =>
          let p := p.withShell s
          match body? with
          | some body => w.setProc (p.push [.run body tested []])
          | none => w.settle p 0
  | .define name body =>
      w.settle (p.withShell { p.shell with
        functions := (name, body) :: p.shell.functions.filter fun f => f.1 ≠ name }) 0

end Host

end BatchRunner
