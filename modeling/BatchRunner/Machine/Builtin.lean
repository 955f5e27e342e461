/-
**Commands that a script carries out itself.**

Each command acts on the machine on behalf of a process, and leaves a status behind.  A mistake in
the use of one of the commands that control the script ends the script; a mistake in the use of
another one is a failure.

Main definitions:

* `Builtin.names`, `Builtin.isSpecial` — the commands, and those that control the script;
* `Builtin.Call` — a use of a command;
* `Builtin.run?` — carries out a command, if it is one of these.
-/
import BatchRunner.Machine.Condition
import BatchRunner.Machine.Jobs
import BatchRunner.Machine.Limits
import BatchRunner.Machine.Mode
import BatchRunner.Machine.Options
import BatchRunner.Machine.Printing
import BatchRunner.Machine.Program

set_option autoImplicit false

namespace BatchRunner.Builtin

def ordinary : List String :=
  ["[", "alias", "bg", "cd", "chdir", "command", "echo", "false", "fg", "getopts", "hash", "jobs",
    "kill", "printf", "pwd", "read", "test", "true", "type", "ulimit", "umask", "unalias", "wait"]

/-- The commands that a script carries out itself. -/
def names : List String := Script.controlNames ++ ordinary

def isSpecial (name : String) : Bool := Script.controlNames.contains name

/-- A use of a command. -/
structure Call where
  line : Nat
  name : String
  args : List String
  /-- Whether a failure is tested for. -/
  tested : Bool
  /-- Whether a mistake ends the script. -/
  strict : Bool

namespace Call

def complain (c : Call) (w : Host) (p : Proc) (text : String) : Host :=
  w.complainFor p c.line (some c.name) text

def fail (c : Call) (w : Host) (p : Proc) (text : String) : Host :=
  (c.complain w p text).settle (if c.strict then p.abandon else p) Host.fatalStatus

/-- Prints, and leaves a status.  Where nothing can be printed that fails. -/
def say (c : Call) (w : Host) (p : Proc) (b : Bytes) (status : Nat) : Host :=
  if !b.isEmpty && (w.outputRefusal? p).isSome then
    (c.complain w p (c.name ++ ": I/O error")).settle p 1
  else w.write (p.withStatus status) b

def sayText (c : Call) (w : Host) (p : Proc) (s : String) : Host := c.say w p (Octets.bytes s) 0

end Call

/-- A text behind an opening quote, so that it reads back.  Quotes within it are quoted in another
way. -/
def quotedChars : List Char → List Char
  | [] => ['\x27']
  | '\x27' :: cs =>
      let more := cs.takeWhile (· = '\x27')
      let rest := cs.dropWhile (· = '\x27')
      '\x27' :: '\x22' :: '\x27' :: more ++ '\x22' ::
        (if rest.isEmpty then [] else '\x27' :: quotedChars rest)
  | c :: cs => c :: quotedChars cs
termination_by cs => cs.length
decreasing_by
  · have := (List.dropWhile_suffix (fun c : Char => decide (c = '\x27')) (l := cs)).length_le
    simp only [List.length_cons]
    omega
  · simp

def quoted (s : String) : String := String.ofList ('\x27' :: quotedChars s.toList)

/-- A number that an argument must be. -/
def count? (s : String) : Option Nat :=
  if s ≠ "" ∧ s.toList.all Char.isDigit then s.toNat?.filter (· < 2147483648) else none

/-- What is said about an argument that is not a number. -/
def illegal (s : String) : String := "Illegal number: " ++ s

/-! ### Output -/

/-- Echoes arguments; a leading `-n` leaves out the end of the line. -/
def echo (c : Call) (w : Host) (p : Proc) : Host :=
  match c.args with
  | "-n" :: args => c.say w p (Printing.echoEscaped false false args) 0
  | args => c.say w p (Printing.echoEscaped false true args) 0

/-- The option that a word is read as, if it is read as one. -/
def option? (s : String) : Option Char :=
  match s.toList with
  | '-' :: o :: _ => some o
  | _ => none

/-- What is said about an option that a command does not have. -/
def illegalOption (o : Char) : String := "Illegal option -" ++ String.singleton o

/-- The letters of the options at the head of arguments, and the arguments behind them; or a letter
that is none of those known. -/
def lettersOf (known : List Char) : List String → Except Char (List Char × List String)
  | [] => .ok ([], [])
  | a :: as =>
      if a = "--" then .ok ([], as)
      else
        match a.toList with
        | '-' :: o :: os =>
            match (o :: os).find? fun x => !known.contains x with
            | some x => .error x
            | none => (lettersOf known as).map fun r => (o :: os ++ r.1, r.2)
        | _ => .ok ([], a :: as)

def printFormat (c : Call) (w : Host) (p : Proc) : Host :=
  let use (args : List String) : Host :=
    match args with
    | [] => c.fail w p "usage: printf format [arg ...]"
    | format :: args =>
        let r := Printing.formatted .script id format args
        let w := r.complaints.foldl (fun w text => c.complain w p text) w
        c.say w p r.bytes (if r.complaints.any Printing.isAboutFormat then 2
          else if r.complaints.isEmpty then 0 else 1)
  match c.args with
  | "--" :: args => use args
  | args =>
      match args.head?.bind option? with
      | some o => c.fail w p (illegalOption o)
      | none => use args

/-! ### Directories -/

/-- Drops steps that lead nowhere, and those that a step back takes back. -/
def normalSteps : List String → List String → List String
  | done, [] => done.reverse
  | done, s :: rest =>
      if s = "" ∨ s = "." then normalSteps done rest
      else if s = ".." then normalSteps done.tail rest
      else normalSteps (s :: done) rest

/-- The path of the directory that a script begins in: the one it is told, if that is right. -/
def currentPath (t : FileTree) (p : Proc) : String :=
  let plain := if p.cwd.isGone then "" else Octets.pack (Place.path p.cwd)
  match p.shell.param? "PWD" with
  | some path =>
      match Path.isAbsolute path, t.stat p.cwd (Octets.unpack path) with
      | true, .ok (place, _) => if place = p.cwd then path else plain
      | _, _ => plain
  | none => plain

/-- What is said where the directory of a process has been removed. -/
def noDirectory : String := "getcwd() failed: " ++ Errno.noEntry.text

def currentDir (c : Call) (w : Host) (p : Proc) : Host :=
  match lettersOf ['P', 'L'] c.args with
  | .error o => c.fail w p (illegalOption o)
  | .ok (letters, _) =>
      if letters.getLast? ≠ some 'P' then c.sayText w p (p.shell.dir ++ "\n")
      else if p.cwd.isGone then c.sayText (c.complain w p noDirectory) p "\n"
      else c.sayText w p (Octets.pack (Place.path p.cwd) ++ "\n")

/-- Whether a path says itself where it begins: at the root, here, or one step back. -/
def isAnchored (path : String) : Bool :=
  match path.splitOn "/" with
  | first :: rest => (first = "" && !rest.isEmpty) || first = "." || first = ".."
  | [] => false

/-- The directory that is entered for a path, and whether it was found somewhere else.  The
directories of a search path are looked through first. -/
def foundDir (w : Host) (p : Proc) (path : String) : String × Bool :=
  match isAnchored path, p.shell.param? "CDPATH" with
  | false, some search =>
      let name := if path = "" then "." else path
      let options := (search.splitOn ":").zip (Program.candidates search name)
      match options.find? fun o => w.files.isDir p.cwd (Octets.unpack o.2) with
      | some (dir, found) => (found, dir ≠ "")
      | none => (path, false)
  | _, _ => (path, false)

/-- A path without steps that lead nowhere.  A path that is not absolute is seen from a directory.
Two slashes at the head stay, but not more. -/
def normalPath (dir path : String) : String :=
  let whole := if Path.isAbsolute path then path else dir ++ "/" ++ path
  let root := match whole.toList with
    | ['/', '/'] => "/"
    | '/' :: '/' :: c :: _ => if c = '/' then "" else "/"
    | _ => ""
  root ++ Place.path (normalSteps [] (whole.splitOn "/"))

/-- Enters a directory, whose path is shown if that is asked for. -/
def enter (c : Call) (w : Host) (p : Proc) (physical shown : Bool) (name : String) : Host :=
  let before := p.shell.dir
  let (path, elsewhere) := foundDir w p name
  let logical := normalPath before path
  let target := if physical then (if path = "" then "." else path) else logical
  match w.files.stat p.cwd (Octets.unpack target) with
  | .ok (place, .dir _) =>
      let after := if physical then Octets.pack (Place.path place) else logical
      let keep (s : Shell) (name value : String) : Shell :=
        s.alter name fun v => { v with value := some value, exported := true }
      let s := keep (keep p.shell "OLDPWD" before) "PWD" after
      let p := { p with cwd := place, shell := { s with dir := after } }
      if shown || elsewhere then c.sayText w p (after ++ "\n") else w.settle p 0
  | _ => c.fail w p ("can't cd to " ++ name)

def changeDir (c : Call) (w : Host) (p : Proc) : Host :=
  match lettersOf ['P', 'L'] c.args with
  | .error o => c.fail w p (illegalOption o)
  | .ok (letters, rest) =>
      let physical := letters.getLast? = some 'P'
      match rest with
      | [] => enter c w p physical false ((p.shell.param? "HOME").getD "")
      | "-" :: _ => enter c w p physical true ((p.shell.param? "OLDPWD").getD "")
      | path :: _ => enter c w p physical false path

/-! ### Parameters -/

/-- A name and the value behind its equals sign. -/
def cut (s : String) : String × Option String :=
  let name := s.toList.takeWhile fun c => c ≠ '='
  match s.toList.drop name.length with
  | _ :: value => (String.ofList name, some (String.ofList value))
  | [] => (s, none)

/-- Gives parameters values and marks, as far as that is possible. -/
def declare (mark : Variable → Variable) : List String → Shell → Except String Shell
  | [], s => .ok s
  | a :: as, s => do
      let (name, value?) := cut a
      if !Script.isName name then throw (name ++ ": bad variable name")
      let s ← match value? with
        | none => pure s
        | some value =>
            if (s.named? name).any Variable.fixed then throw (name ++ ": is read only")
            else pure (s.assign name value)
      let v := (s.named? name).getD ⟨name, none, false, false⟩
      declare mark as (s.put (mark v))

/-- Lines that set parameters, each behind a word. -/
def declarations (word : String) (vs : List Variable) : String :=
  String.join (Octets.sorted (vs.map fun v => word ++ v.name ++ (match v.value with
    | some x => "=" ++ quoted x
    | none => "") ++ "\n"))

/-- Marks parameters, or shows those that are marked. -/
def markAll (c : Call) (w : Host) (p : Proc) (isMarked : Variable → Bool)
    (mark : Variable → Variable) : Host :=
  match lettersOf ['p'] c.args with
  | .error o => c.fail w p (illegalOption o)
  | .ok (_ :: _, _) => shown
  | .ok ([], []) => shown
  | .ok ([], args) =>
      match declare mark args p.shell with
      | .ok s => w.settle (p.withShell s) 0
      | .error text => c.fail w p text
where
  /-- The marked parameters. -/
  shown : Host :=
    c.sayText w p (declarations (c.name ++ " ") (p.shell.vars.filter isMarked))

/-- Makes parameters those of the function that is being run.  A dash stands for its options. -/
def makeLocal (c : Call) (w : Host) (p : Proc) : Host :=
  match p.shell.frames with
  | [] => c.fail w p "not in a function"
  | f :: fs =>
      let names := c.args.filter (· ≠ "-")
      let saved := (names.map fun a => (cut a).1).filter fun n => f.saved.all fun s => s.1 ≠ n
      let f := { f with
        saved := f.saved ++ saved.map fun n => (n, p.shell.named? n)
        options := if c.args.contains "-" then f.options.or p.shell.options else f.options }
      match declare id names { p.shell with frames := f :: fs } with
      | .ok s => w.settle (p.withShell s) 0
      | .error text => c.fail w p text

def unsetAll (c : Call) (w : Host) (p : Proc) : Host :=
  match lettersOf ['v', 'f'] c.args with
  | .error o => c.fail w p (illegalOption o)
  | .ok (letters, args) =>
      if letters.getLast? = some 'f' then
        w.settle (p.withShell { p.shell with
          functions := p.shell.functions.filter fun f => !args.contains f.1 }) 0
      else
        let isWrong (a : String) : Bool :=
          !Script.isName a || (p.shell.named? a).any Variable.fixed
        let s := (args.takeWhile fun a => !isWrong a).foldl Shell.drop p.shell
        match args.find? isWrong with
        | some a => c.fail w (p.withShell s)
            (a ++ if Script.isName a then ": is read only" else ": bad variable name")
        | none => w.settle (p.withShell s) 0

/-! ### Aliases -/

/-- The order in which words that stand for texts are shown. -/
def aliasPlace (name : String) : Nat :=
  let first := (name.toList.head?.map Char.toNat).getD 0
  name.toList.foldl (fun n c => n + c.toNat) (16 * first) % 39

/-- A word and the text it stands for, so that it reads back. -/
def aliasLine (a : String × String) : String := a.1 ++ "=" ++ quoted a.2 ++ "\n"

/-- Makes words stand for texts, or shows what they stand for. -/
def setAliases (c : Call) (w : Host) (p : Proc) : Host :=
  if c.args.isEmpty then
    c.sayText w p (String.join ((p.shell.aliases.mergeSort fun a b =>
      aliasPlace a.1 ≤ aliasPlace b.1).map aliasLine))
  else
    let (shown, missing, s) := c.args.foldl (fun (shown, missing, s) a =>
      let name := match a.toList with
        | x :: xs => String.ofList (x :: xs.takeWhile (· ≠ '='))
        | [] => ""
      if name.length < a.length then
        let text := String.ofList (a.toList.drop (name.length + 1))
        let known := s.aliases.any fun b => b.1 = name
        (shown, missing, { s with aliases :=
          if known then s.aliases.map fun b => if b.1 = name then (name, text) else b
          else s.aliases ++ [(name, text)] })
      else
        match s.aliases.find? fun b => b.1 = a with
        | some b => (shown ++ aliasLine b, missing, s)
        | none => (shown, missing ++ [a], s)) ("", ([] : List String), p.shell)
    let w := missing.foldl (fun w a => w.grumble p ("alias: " ++ a ++ " not found")) w
    c.say w (p.withShell s) (Octets.bytes shown) (if missing.isEmpty then 0 else 1)

/-- Makes words stand for themselves again. -/
def dropAliases (c : Call) (w : Host) (p : Proc) : Host :=
  match c.args with
  | "-a" :: _ => w.settle (p.withShell { p.shell with aliases := [] }) 0
  | args =>
      let missing := args.filter fun a => p.shell.aliases.all fun b => b.1 ≠ a
      let w := missing.foldl (fun w a => w.grumble p ("unalias: " ++ a ++ " not found")) w
      w.settle (p.withShell { p.shell with
        aliases := p.shell.aliases.filter fun b => !args.contains b.1 })
        (if missing.isEmpty then 0 else 1)

/-! ### Options of the script -/

/-- Sets options and arguments, or shows all parameters. -/
def setOptions (c : Call) (w : Host) (p : Proc) : Host :=
  match c.args with
  | [] => c.sayText w p (declarations "" (p.shell.vars.filter fun v => v.value.isSome))
  | args =>
      match Options.ofArguments args p.shell "" with
      | .error text => c.fail w p text
      | .ok r =>
          let w := if r.shell.has 'm' then c.complain w p Options.withoutTerminal else w
          let s := Options.turn false r.shell 'm'
          c.sayText w (p.withShell (match r.args with
            | some args => { s with args := args, cursor := .start }
            | none => s)) r.text

def shift (c : Call) (w : Host) (p : Proc) : Host :=
  match c.args.head?.map fun a => (a, count? a) with
  | some (a, none) => c.fail w p (illegal a)
  | n? =>
      let n := (n?.bind Prod.snd).getD 1
      if p.shell.args.length < n then c.fail w p "can't shift that many"
      else
        w.settle (p.withShell { p.shell with args := p.shell.args.drop n, cursor := .start }) 0

/-- What stands behind the letter of an option among the letters that are accepted. -/
def behindLetter? (o : Char) : List Char → Option (List Char)
  | [] => none
  | x :: ':' :: rest => if x = o then some (':' :: rest) else behindLetter? o rest
  | x :: rest => if x = o then some rest else behindLetter? o rest

/-- What is left of an argument that an option has been taken from. -/
def leftover (args : List String) (at' : Cursor) : List Char :=
  match at'.offset, at'.index with
  | some n, i + 2 => ((args[i]?).map fun a => a.toList.drop n).getD []
  | _, _ => []

/-- The letter of the next option, what stands behind it in its argument, and the number of the
argument after that.  Without an option there is only that number. -/
def nextLetter (args : List String) (at' : Cursor) : Option (Char × List Char) × Nat :=
  match leftover args at' with
  | o :: more => (some (o, more), at'.index)
  | [] =>
      match (args[at'.index - 1]?).map String.toList with
      | some ('-' :: o :: more) =>
          (if o = '-' ∧ more = [] then none else some (o, more), at'.index + 1)
      | _ => (none, at'.index)

def getOption (c : Call) (w : Host) (p : Proc) : Host :=
  match c.args with
  | spec :: name :: given =>
      if !Script.isName name then c.fail w p (name ++ ": bad variable name")
      else if (p.shell.named? name).any Variable.fixed then
        c.fail w p (name ++ ": is read only")
      else
      let args := if given.isEmpty then p.shell.args else given
      let at' := if args.length + 1 < p.shell.cursor.index then .start else p.shell.cursor
      let quiet := spec.startsWith ":"
      let (next?, index) := nextLetter args at'
      let set (letter : String) (argument? : Option String) (index : Nat) (offset : Option Nat) :
          Proc :=
        let put (s : Shell) (name value : String) : Shell :=
          s.alter name fun v => { v with value := some value }
        let s := match argument? with
          | some x => put p.shell "OPTARG" x
          | none => p.shell.drop "OPTARG"
        let s := put (put s "OPTIND" (toString index)) name letter
        p.withShell { s with cursor := ⟨index, offset⟩ }
      match next? with
      | none =>
          w.settle (set "?" ((p.shell.param? "OPTARG")) index none) 1
      | some (o, more) =>
          let letter := String.singleton o
          let used := ((args[index - 2]?).map String.length).getD 0 - more.length
          match behindLetter? o spec.toList, more, args[index - 1]? with
          | none, _, _ =>
              let w := if quiet then w else w.grumble p (illegalOption o)
              w.settle (set "?" (if quiet then some letter else none) index (some used)) 0
          | some (':' :: _), _ :: _, _ =>
              w.settle (set letter (some (String.ofList more)) index none) 0
          | some (':' :: _), [], some value =>
              w.settle (set letter (some value) (index + 1) none) 0
          | some (':' :: _), [], none =>
              let w := if quiet then w else w.grumble p ("No arg for -" ++ letter ++ " option")
              w.settle (set (if quiet then ":" else "?") (if quiet then some letter else none)
                index none) 0
          | some _, _, _ => w.settle (set letter (some "") index (some used)) 0
  | _ => c.fail w p "Usage: getopts optstring var [arg...]"

/-! ### Processes -/

/-- Whom a signal is for: a process, a group by its negated number, or the group of a job. -/
def target (p : Proc) (text : String) : Except String Int :=
  if text.startsWith "%" then
    (p.shell.job? text).map fun j => -((j.members.head?.map Member.id).getD 0 : Int)
  else
    match Signal.target? text with
    | some n => .ok n
    | none => .error (illegal (String.ofList (if text.startsWith "-" then text.toList.drop 1
        else text.toList)))

/-- Sends a signal to each target in turn; the status says whether all of them were there. -/
def sendAll (c : Call) (p : Proc) (signal status : Nat) (w : Host) : List String → Host
  | [] => match w.proc? p.id with
      | some q => w.setProc (q.withStatus status)
      | none => w
  | t :: ts =>
      match target p t with
      | .error text => c.fail w p text
      | .ok n =>
          if w.outer.procs.any fun q => Signal.isTarget p n q && isThere q then
            sendAll c p signal status
              (if signal = 0 then w else w.kill signal (Signal.isTarget p n)) ts
          else sendAll c p signal 1 (c.complain w p "No such process\n") ts
where
  /-- Whether a process is still known: it runs, or its end may still be noticed. -/
  isThere (q : Proc) : Bool :=
    q.ended.isNone || (w.proc? q.parent).any fun r => r.ended.isNone

/-- Sends a signal, or shows the names of signals.  The sender may be among those that get it. -/
def kill (c : Call) (w : Host) (p : Proc) : Host :=
  match Signal.request c.args with
  | .wrong text => c.fail w p text
  | .list [] => c.sayText w p (String.join (("0" :: Signal.names.tail).map fun n => n ++ "\n"))
  | .list (code :: _) =>
      match count? code with
      | none => c.fail w p (illegal code)
      | some n =>
          let n := if 128 < n then n - 128 else n
          match if n = 0 then none else Signal.names[n]? with
          | some name => c.sayText w p (name ++ "\n")
          | none => c.fail w p ("invalid signal number or exit status: " ++ code)
  | .send signal targets => sendAll c p signal 0 (w.settle p 0) targets

/-- Waits for the given jobs, or for all. -/
def wait (c : Call) (w : Host) (p : Proc) : Host :=
  match c.args with
  | [] => w.setProc (p.push [.waitAll])
  | ["--"] => w.setProc (p.push [.waitAll])
  | "--" :: jobs => w.setProc (p.push [.waitEach c.line jobs 127])
  | a :: rest =>
      match option? a with
      | some o => c.fail w p (illegalOption o)
      | none => w.setProc (p.push [.waitEach c.line (a :: rest) 127])

/-- What is asked to be shown of jobs. -/
inductive JobView where
  | states
  | numbers
  /-- Nothing but the number of the first process. -/
  | leaders

def JobView.line (v : JobView) (j : ShellJob) (place : Nat) : String :=
  match v with
  | .states => j.line place false
  | .numbers => j.line place true
  | .leaders => toString ((j.members.head?.map Member.id).getD 0) ++ "\n"

/-- Shows jobs in turn.  Those that are done are forgotten once they have been shown. -/
def showJobs (v : JobView) (s : Shell) : List ShellJob → String × Shell
  | [] => ("", s)
  | j :: js =>
      let text := v.line j ((s.jobs.findIdx? fun k => k.number = j.number).getD 2)
      let keeps := !j.isDone || (match v with | .leaders => true | _ => false)
      let s := if keeps then s else { s with jobs := s.jobs.filter fun k => k.number ≠ j.number }
      let (more, s) := showJobs v s js
      (text ++ more, s)

def jobs (c : Call) (w : Host) (p : Proc) : Host :=
  let rec options (v : JobView) : List String → Except Char (JobView × List String)
    | [] => .ok (v, [])
    | a :: as =>
        match a.toList with
        | ['-', '-'] => .ok (v, as)
        | '-' :: o :: os =>
            match (o :: os).find? fun o => o ≠ 'l' && o ≠ 'p' with
            | some o => .error o
            | none => options (if (o :: os).getLast? = some 'l' then .numbers else .leaders) as
        | _ => .ok (v, a :: as)
  match options .states c.args with
  | .error o => c.fail w p (illegalOption o)
  | .ok (v, []) =>
      let (w, p) := w.notice p none
      let (text, s) := showJobs v p.shell p.shell.jobs
      c.sayText w (p.withShell s) text
  | .ok (v, names) =>
      match names.mapM p.shell.job? with
      | .error text => c.fail w p text
      | .ok js =>
          let (text, s) := showJobs v p.shell js
          c.sayText w (p.withShell s) text

/-- Complains that a job cannot be moved between background and foreground. -/
def moveJob (c : Call) (w : Host) (p : Proc) : Host :=
  let args := if c.args.head? = some "--" then c.args.tail else c.args
  match p.shell.job? (args.headD "%") with
  | .error text => c.fail w p text
  | .ok _ => c.fail w p ("job " ++ args.headD "(null)" ++ " not created under job control")

/-- Provides for a signal, or for the end of the script. -/
def provide (action : Option String) (p : Proc) (n : Nat) : Proc :=
  let others := p.shell.traps.filter fun t => t.1 ≠ n
  let p := { p with ignored := p.ignored.filter (· ≠ n) }
  match action with
  | none => p.withShell { p.shell with traps := others }
  | some text =>
      let p := p.withShell { p.shell with traps := others ++ [(n, text)] }
      if text = "" ∧ n ≠ 0 then { p with ignored := n :: p.ignored } else p

/-- Provides for signals in order, up to one that is not known. -/
def provideAll (action : Option String) : List String → Proc → Proc × Option String
  | [], p => (p, none)
  | s :: ss, p =>
      match Signal.ofText? s with
      | none => (p, some s)
      | some n => provideAll action ss (if n = Proc.sureSignal then p else provide action p n)

/-- Provides for signals, or shows what is provided. -/
def trap (c : Call) (w : Host) (p : Proc) : Host :=
  let args := if c.args.head? = some "--" then c.args.tail else c.args
  let setAll (action : Option String) (signals : List String) : Host :=
    match provideAll action signals p with
    | (p, none) => w.settle p 0
    | (p, some s) => (w.grumble p ("trap: " ++ s ++ ": bad trap")).settle p 1
  match args with
  | [] =>
      c.sayText w p (String.join ((List.range Signal.count).filterMap fun n =>
        (p.shell.traps.lookup n).map fun text =>
          "trap -- " ++ quoted text ++ " " ++ Signal.names.getD n (toString n) ++ "\n"))
  | [s] =>
      match option? s with
      | some o => c.fail w p (illegalOption o)
      | none => setAll none [s]
  | s :: rest =>
      match option? s with
      | some o => if c.args.head? = some "--" then setAll (some s) rest
          else c.fail w p (illegalOption o)
      | none =>
          if (count? s).any (· < Signal.count) then setAll none args
          else setAll (if s = "-" then none else some s) rest

/-! ### Control -/

/-- Leaves the script or what is within it, with the given status if there is one. -/
def leave (c : Call) (w : Host) (p : Proc) (go : Proc → Proc) (status : Nat → Nat) : Host :=
  match c.args.head? with
  | none => w.setProc (go p)
  | some a =>
      match count? a with
      | some n => w.settle (go p) (status n)
      | none => c.fail w p (illegal a)

/-- Leaves loops, or goes on with them. -/
def leaveLoops (c : Call) (w : Host) (p : Proc) (goOn : Bool) : Host :=
  let go (n : Nat) : Host := w.settle (p.leaveLoops goOn (min n p.loops)) 0
  match c.args.head? with
  | none => go 1
  | some a =>
      match count? a with
      | some (n + 1) => go (n + 1)
      | _ => c.fail w p (illegal a)

def runInside (c : Call) (w : Host) (p : Proc) (speaker : String) (ends : List Task)
    (s : Script) : Host :=
  if s.isEmpty && s.lines.isEmpty then w.settle p 0
  else
    let back := Task.speak p.shell.speaker
    let p := if s.isEmpty then p.withStatus 0 else p
    w.setProc ((p.withShell { p.shell with speaker := some speaker }).push
      (.script s c.tested :: ends ++ [back]))

/-- Reads a file as a script within the script. -/
def source (c : Call) (w : Host) (p : Proc) : Host :=
  match c.args with
  | [] => w.settle p 0
  | name :: _ =>
      let found? : Option String :=
        if name.toList.contains '/' then some name
        else (Program.candidates ((p.shell.param? "PATH").getD "") name).find? fun path =>
          (w.files.fileAt? p.cwd (Octets.unpack path)).isSome
      match found? with
      | none => c.fail w p (name ++ ": not found")
      | some path =>
          match w.files.readBytes p.cwd (Octets.unpack path) with
          | .ok b => runInside c w p name [.endSource] (Script.ofFile (Script.text b))
          | .error (.os .isDir) => w.settle p 0
          | .error (.os e) =>
              c.fail w p ("cannot open " ++ path ++ ": "
                ++ (if e = .noEntry ∨ e = .notDir then "No such file" else e.text))
          | .error _ => w.settle p 0

def readLine (c : Call) (w : Host) (p : Proc) : Host :=
  let rec options : List String → Bool → Except String (Bool × List String)
    | [], raw => .ok (raw, [])
    | a :: as, raw =>
        if a = "--" then .ok (raw, as)
        else if (option? a).isNone then .ok (raw, a :: as)
        else
          let letters := a.toList.tail.takeWhile (· = 'r')
          let raw := raw || !letters.isEmpty
          match a.toList.tail.drop letters.length, as with
          | [], as => options as raw
          | ['p'], [] => .error "No arg for -p option"
          | ['p'], _ :: as => options as raw
          | 'p' :: _, as => options as raw
          | o :: _, _ => .error (illegalOption o)
  match options c.args false with
  | .error cause => c.fail w p cause
  | .ok (_, []) => c.fail w p "arg count"
  | .ok (raw, names) => w.setProc (p.push [.readLine c.line raw names []])

/-- The permissions that a mask leaves, for each of those who may have some. -/
def permissions (mask : Nat) : String :=
  let letters (shift : Nat) : String :=
    let bits := 7 - (mask / Nat.pow 2 shift) % 8
    (if bits / 4 % 2 = 1 then "r" else "") ++ (if bits / 2 % 2 = 1 then "w" else "")
      ++ (if bits % 2 = 1 then "x" else "")
  "u=" ++ letters 6 ++ ",g=" ++ letters 3 ++ ",o=" ++ letters 0 ++ "\n"

/-- Shows or sets the permissions that new files do not get. -/
def umask (c : Call) (w : Host) (p : Proc) : Host :=
  let options := c.args.takeWhile fun a => (option? a).isSome
  let bad := options.flatMap fun a => a.toList.tail.filter (· ≠ 'S')
  let rest := c.args.drop options.length
  match bad, if rest.head? = some "--" then rest.tail else rest with
  | o :: _, _ => c.fail w p (illegalOption o)
  | [], [] =>
      let digits := Nat.toDigits 8 p.mask
      c.sayText w p (if options.isEmpty
        then String.ofList (List.replicate (4 - digits.length) '0' ++ digits) ++ "\n"
        else permissions p.mask)
  | [], a :: _ =>
      if (a.toList.head?.map Char.isDigit).getD false then
        if a.toList.all fun d => '0' ≤ d && d ≤ '7' then
          w.settle { p with mask := Printing.octal a.toList % 512 } 0
        else c.fail w p (illegal a)
      else
        match Mode.allowed? a.toList (0o777 - p.mask) with
        | some mode => w.settle { p with mask := 0o777 - mode } 0
        | none => c.fail w p ("Illegal mode: " ++ a)

/-! ### Limits -/

def limit (c : Call) (w : Host) (p : Proc) : Host :=
  match Limits.query ⟨none, false, 'f', []⟩ c.args with
  | .error o => c.fail w p (illegalOption o)
  | .ok q =>
      let shown (r : Resource) : String :=
        r.shown (if q.side = some 'H' then (r.limits p).2 else (r.limits p).1)
      match (Resource.all.find? fun r => r.letter = q.letter), q.args with
      | none, _ => w.settle p 0
      | some r, [] =>
          c.sayText w p (if q.everything then String.join (Resource.all.map fun r =>
            ShellJob.widened 20 r.name ++ " " ++ shown r) else shown r)
      | some r, text :: more =>
          if q.everything || !more.isEmpty then c.fail w p "too many arguments"
          else if text ≠ "unlimited" && !text.toList.all Char.isDigit then
            c.fail w p "bad number"
          else
            let value := if text = "unlimited" then none
              else some ((text.toNat?.getD 0) * r.unit)
            match Limits.change q.side value (r.limits p) with
            | .error e => c.fail w p ("error setting limit (" ++ e.text ++ ")")
            | .ok (soft, hard) =>
                w.settle { p with
                  limits := (r.letter, soft, hard) :: p.limits.filter fun l => l.1 ≠ r.letter } 0

/-- Where the conditions of a process are to hold. -/
def scene (w : Host) (p : Proc) : Condition.Scene where
  files := w.files
  cwd := p.cwd
  stream n := match p.stream? n with
    | none => .nothing
    | some (.device d _) => .node (.device d)
    | some (.file n) =>
        match w.outer.handles[n]? with
        | some ⟨⟨.file id, _, _⟩, _⟩ => .node (.file id)
        | _ => .nothing
    | some .folder => .node (.dir [])
    | some _ => .pipe

/-- What a condition comes to. -/
def condition (c : Call) (w : Host) (p : Proc) (words : List String) : Host :=
  match Condition.holds (scene w p) words with
  | .ok b => w.settle p (if b then 0 else 1)
  | .error text => c.fail w p text

/-! ### What names stand for -/

/-- What a name stands for as a command. -/
inductive Meaning where
  | keyword
  | aliased (text : String)
  | function
  | builtin
  | file (path : String)
  deriving Repr

/-- What a name stands for as a command. -/
def meaning? (w : Host) (p : Proc) (name : String) : Option Meaning :=
  if Script.keywords.contains name then some .keyword
  else if let some text := p.shell.aliases.lookup name then some (.aliased text)
  else if p.shell.functions.any fun f => f.1 = name then some .function
  else if names.contains name then some .builtin
  else if name.toList.contains '/' then
    if w.files.isPresent p.cwd (Octets.unpack name) then some (.file name) else none
  else
    let paths := Program.candidates ((p.shell.param? "PATH").getD "") name
    (paths.find? fun path => (w.files.fileAt? p.cwd (Octets.unpack path)).any fun f =>
      Right.pass.isIn f.mode).map .file

def searchPath (s : Shell) : String := (s.param? "PATH").getD ""

/-- Takes note of a command that has been found.  Where a path leads to it, that need not be. -/
def noteLocated (s : Shell) (name : String) : Shell :=
  let here := (name, searchPath s)
  if name.toList.contains '/' || s.located.contains here then s
  else { s with located := s.located ++ [here] }

/-- Whether a command has been found where commands are looked for now. -/
def isLocated (s : Shell) (name : String) : Bool := s.located.contains (name, searchPath s)

/-- Takes note of what names stand for, if it is a file. -/
def noteMeanings (w : Host) (p : Proc) (names : List String) : Proc :=
  p.withShell (names.foldl (fun s n => match meaning? w p n with
    | some (.file _) => noteLocated s n
    | _ => s) p.shell)

/-- The order in which commands that have been found are shown. -/
def locatedPlace (name : String) : Nat :=
  let first := (name.toList.head?.map Char.toNat).getD 0
  name.toList.foldl (fun n c => n + c.toNat) (16 * first) % 31

/-- Shows the commands that have been found, forgets them, or looks for some. -/
def hash (c : Call) (w : Host) (p : Proc) : Host :=
  match lettersOf ['r'] c.args with
  | .error o => c.fail w p (illegalOption o)
  | .ok (_ :: _, _) => w.settle (p.withShell { p.shell with located := [] }) 0
  | .ok ([], []) =>
      let names := (p.shell.located.filter fun l => l.2 = searchPath p.shell).map Prod.fst
      let paths := (names.mergeSort fun a b => locatedPlace a ≤ locatedPlace b).filterMap fun n =>
        match meaning? w p n with
        | some (.file path) => some (path ++ "\n")
        | _ => none
      c.sayText w p (String.join paths)
  | .ok ([], names) =>
      let missing := names.filter fun n => (meaning? w p n).isNone
      let w := missing.foldl (fun w n => c.complain w p (n ++ ": not found")) w
      w.settle (noteMeanings w p names) (if missing.isEmpty then 0 else 1)

/-- Says what a name stands for; of files that have been found before it says so. -/
def describe (s : Shell) (name : String) : Option Meaning → String
  | none => name ++ ": not found\n"
  | some .keyword => name ++ " is a shell keyword\n"
  | some (.aliased text) => name ++ " is an alias for " ++ text ++ "\n"
  | some .function => name ++ " is a shell function\n"
  | some .builtin =>
      name ++ (if isSpecial name then " is a special shell builtin\n" else " is a shell builtin\n")
  | some (.file path) =>
      name ++ (if isLocated s name then " is a tracked alias for " else " is ") ++ path ++ "\n"

def types (c : Call) (w : Host) (p : Proc) (names : List String) : Host :=
  let found := names.map fun n => (n, meaning? w p n)
  let texts := found.zipIdx.map fun (f, i) =>
    describe (noteMeanings w p (names.take i)).shell f.1 f.2
  c.say w (noteMeanings w p names) (Octets.bytes (String.join texts))
    (if found.all fun f => f.2.isSome then 0 else 127)

def shownPath (c : Call) (w : Host) (p : Proc) (name : String) : Host :=
  let p := noteMeanings w p [name]
  match meaning? w p name with
  | none => w.settle p 127
  | some (.aliased text) => c.sayText w p ("alias " ++ aliasLine (name, text))
  | some (.file path) => c.sayText w p (path ++ "\n")
  | some _ => c.sayText w p (name ++ "\n")

/-- What is asked of a command that runs another one: only to show that, possibly with all that is
known of it, or to look for it in the usual places. -/
structure CommandUse where
  view : Option Bool
  usual : Bool
  words : List String

def CommandUse.start : CommandUse := ⟨none, false, []⟩

def CommandUse.add (u : CommandUse) (o : Char) : Except Char CommandUse :=
  if o = 'p' then .ok { u with usual := true }
  else if o = 'v' then .ok { u with view := u.view.or (some false) }
  else if o = 'V' then .ok { u with view := some true }
  else .error o

/-- Reads what is asked of a command that runs another one. -/
def commandUse (u : CommandUse) : List String → Except Char CommandUse
  | [] => .ok { u with words := [] }
  | a :: as =>
      if a = "--" then .ok { u with words := as }
      else
        match a.toList with
        | '-' :: o :: os =>
            match (o :: os).foldlM CommandUse.add u with
            | .error o => .error o
            | .ok u => commandUse u as
        | _ => .ok { u with words := a :: as }

theorem words_length_le {u v : CommandUse} {args : List String}
    (h : commandUse u args = .ok v) : v.words.length ≤ args.length := by
  induction args generalizing u with
  | nil =>
      simp only [commandUse, Except.ok.injEq] at h
      simp [← h]
  | cons a as ih =>
      simp only [commandUse] at h
      split at h
      · simp only [Except.ok.injEq] at h
        simp [← h]
      · split at h
        · split at h
          · cases h
          · exact Nat.le_succ_of_le (ih h)
        · simp only [Except.ok.injEq] at h
          simp [← h]

/-- **Carries out a command, if a script carries it out itself.** -/
def run? (w : Host) (p : Proc) (c : Call) : Option Host :=
  match c.name with
  | ":" => some (w.settle p 0)
  | "true" => some (w.settle p 0)
  | "false" => some (w.settle p 1)
  | "echo" => some (echo c w p)
  | "printf" => some (printFormat c w p)
  | "pwd" => some (currentDir c w p)
  | "cd" => some (changeDir c w p)
  | "chdir" => some (changeDir c w p)
  | "exit" => some (leave c w p Proc.quit (· % 256))
  | "return" => some (leave c w p Proc.leaveCall id)
  | "break" => some (leaveLoops c w p false)
  | "continue" => some (leaveLoops c w p true)
  | "test" => some (condition c w p c.args)
  | "[" =>
      some (if c.args.getLast? = some "]" then condition c w p c.args.dropLast
        else c.fail w p "missing ]")
  | "kill" => some (kill c w p)
  | "wait" => some (wait c w p)
  | "trap" => some (trap c w p)
  | "umask" => some (umask c w p)
  | "export" => some (markAll c w p Variable.exported fun v => { v with exported := true })
  | "readonly" => some (markAll c w p Variable.fixed fun v => { v with fixed := true })
  | "local" => some (makeLocal c w p)
  | "unset" => some (unsetAll c w p)
  | "alias" => some (setAliases c w p)
  | "unalias" => some (dropAliases c w p)
  | "shift" => some (shift c w p)
  | "set" => some (setOptions c w p)
  | "getopts" => some (getOption c w p)
  | "eval" => 
      some (runInside c w p "eval" [] (Script.ofText 1 (" ".intercalate c.args)))
  | "." => some (source c w p)
  | "read" => some (readLine c w p)
  | "type" => some (types c w p c.args)
  | "times" => some (c.sayText w p "0m0.000000s 0m0.000000s\n0m0.000000s 0m0.000000s\n")
  | "hash" => some (hash c w p)
  | "jobs" => some (jobs c w p)
  | "fg" => some (moveJob c w p)
  | "bg" => some (moveJob c w p)
  | "ulimit" => some (limit c w p)
  | _ => none

end BatchRunner.Builtin
