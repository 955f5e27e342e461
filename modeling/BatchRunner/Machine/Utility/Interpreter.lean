/-
**Utilities that run scripts and other programs.**

Main definitions:

* `Utility.Invocation`, `Utility.invocation` — what a command that runs a script asks for;
* `Utility.shell` — runs a script;
* `Utility.become` — goes on as another program;
* `Utility.env`, `Utility.limited`, `Utility.forItems` — utilities that run programs in a changed
  environment, for a limited time, or with items that are read.
-/
import BatchRunner.Machine.Utility.Text

set_option autoImplicit false

namespace BatchRunner.Utility

/-! ### Scripts -/

/-- What a command that runs a script asks for. -/
structure Invocation where
  shell : Shell
  /-- Whether the script is the first of the arguments. -/
  given : Bool
  /-- Whether the script is what is read. -/
  read : Bool
  args : List String
  /-- What is to be shown of the options. -/
  text : String

/-- The options of a command that runs a script. -/
def invocation : List String → Invocation → Except String Invocation
  | [], i => .ok { i with args := [] }
  | a :: as, i =>
      match a.toList with
      | ['-'] => .ok { i with args := as }
      | ['-', '-'] => .ok { i with args := as }
      | '-' :: cs => do
          let (s, text) ← Options.turnAll true true as.head? (cs.filter (· ≠ 'c')) i.shell
          let rest := if cs.contains 'o' then as.tail else as
          invocation rest { i with
            shell := s, given := i.given || cs.contains 'c', read := i.read || cs.contains 's'
            text := i.text ++ text }
      | '+' :: cs => do
          let (s, text) ← Options.turnAll false true as.head? (cs.filter (· ≠ 'c')) i.shell
          invocation (if cs.contains 'o' then as.tail else as)
            { i with shell := s, text := i.text ++ text }
      | _ => .ok { i with args := a :: as }
termination_by as => as.length
decreasing_by
  all_goals
    simp only [List.length_cons]
    split
    · simp only [List.length_tail]
      omega
    · omega

/-- What a script sees that is started in a process. -/
def begin (t : FileTree) (p : Proc) (name : String) : Shell :=
  let s := (Shell.fresh p.shell.environment p.id name []).put
    ⟨"PPID", some (toString p.parent), false, false⟩
  let dir := Builtin.currentPath t { p with shell := s }
  { s.alter "PWD" fun v => { v with value := some dir, exported := true } with dir := dir }

/-- Runs a script from an argument, from a file, or from standard input. -/
def shell (w : Host) (p : Proc) (argv : List String) : Host :=
  let own := argv.headD ""
  let refuse (text : String) : Host := (w.grumble p (own ++ ": 0: " ++ text)).settle p 2
  let run (w : Host) (s : Shell) (name : String) (args : List String) (task : Task) : Host :=
    w.setProc { p with
      shell := { s with name := name, args := args }
      tasks := task :: p.tasks }
  let w := if p.cwd.isGone then w.grumble p (own ++ ": 0: " ++ Builtin.noDirectory) else w
  match invocation argv.tail ⟨begin w.files p own, false, false, [], ""⟩ with
  | .error text => refuse text
  | .ok i =>
      let w := w.emitTo p 1 (Octets.bytes i.text)
      let w := if i.shell.has 'm' || i.shell.has 'i'
        then w.grumble p (own ++ ": 0: " ++ Options.withoutTerminal) else w
      let i := { i with shell := Options.turn false i.shell 'm' }
      match i.given, i.read, i.args with
      | true, _, [] => refuse "-c requires an argument"
      | true, _, text :: rest =>
          run w i.shell (rest.headD own) rest.tail (Script.task 1 text false)
      | false, false, file :: rest =>
          match contents w p file with
          | .ok (b, w) => run w i.shell file rest (Script.fileTask (Script.text b) false)
          | .error (.os e) =>
              if e = .isDir then w.settle p 0
              else
                refuse ("cannot open " ++ file ++ ": "
                  ++ (if Program.isMissing e then "No such file" else e.text))
          | .error _ => w.settle p 0
      | false, _, args =>
          match p.stream? 0 with
          | none => w.settle p 0
          | some s =>
              let (b, w) := w.take s
              run w i.shell own args (Script.fileTask (Script.text b) false)

/-! ### Programs -/

/-- The program of a command, looked for where the environment says. -/
def lookUp (w : Host) (p : Proc) (s : Shell) (argv : List String) :
    Except Errno Program.Found :=
  Program.resolve w.library p.cwd (s.environment.lookup "PATH") argv

/-- The status of a command that cannot be run. -/
def failureStatus (e : Errno) : Nat := if e = .noEntry then 127 else 126

/-- Goes on as another program, or says why that cannot be. -/
def become (w : Host) (p : Proc) (argv : List String) (complaint : Errno → String) : Host :=
  match lookUp w p p.shell argv with
  | .ok found =>
      w.setProc { p with
        shell := Shell.fresh p.shell.environment p.id (found.argv.headD found.utility) []
        image := some found.file
        tasks := [.utility found.utility found.argv] }
  | .error e => (grumble w p (complaint e)).settle p (failureStatus e)

/-- Starts a program in a child, which reads from the given stream. -/
def startChild (w : Host) (p : Proc) (input : Stream) (found : Program.Found) :
    Nat × Host :=
  w.spawn fun id => { p with
    id := id
    parent := p.id
    streams := (0, input) :: p.streams.filter fun s => s.1 ≠ 0
    pending := []
    shell := Shell.fresh p.shell.environment id (found.argv.headD found.utility) []
    image := some found.file
    tasks := [.utility found.utility found.argv]
    ended := none }

/-! ### Environments -/

/-- What a text is split into. -/
structure Pieces where
  done : List String
  /-- The piece that is not complete. -/
  open? : Option (List Char)

namespace Pieces

def add (p : Pieces) (cs : List Char) : Pieces := { p with open? := some (p.open?.getD [] ++ cs) }

def close (p : Pieces) : Pieces :=
  ⟨p.done ++ (p.open?.map String.ofList).toList, none⟩

end Pieces

/-- Splits a text at white space, except within quotes.  Values of variables are put in. -/
def splitText (value : String → Option String) (quote : Option Char) :
    Nat → List Char → Pieces → Except String (List String)
  | 0, _, p => .ok p.close.done
  | _, [], p => if quote.isSome then .error "no terminating quote in -S string"
      else .ok p.close.done
  | fuel + 1, c :: cs, p =>
      let go := splitText value quote fuel
      if quote = some c then splitText value none fuel cs p
      else
        match quote, c, cs with
        | none, '\x27', cs => splitText value (some '\x27') fuel cs (p.add [])
        | none, '\x22', cs => splitText value (some '\x22') fuel cs (p.add [])
        | none, ' ', cs => go cs p.close
        | none, '\t', cs => go cs p.close
        | none, '\n', cs => go cs p.close
        | none, '#', cs => if p.open?.isNone then .ok p.done else go cs (p.add ['#'])
        | some '\x27', '\\', d :: cs =>
            if d = '\\' || d = '\x27' then go cs (p.add [d]) else go cs (p.add ['\\', d])
        | some '\x27', c, cs => go cs (p.add [c])
        | _, '\\', [] => .error "invalid backslash at end of string in -S"
        | q, '\\', d :: cs =>
            match d with
            | '_' => if q.isSome then go cs (p.add [' ']) else go cs p.close
            | 'c' => .ok p.close.done
            | d =>
                match [('f', '\x0c'), ('n', '\n'), ('r', '\r'), ('t', '\t'), ('v', '\x0b')].lookup d
                with
                | some x => go cs (p.add [x])
                | none =>
                    if ['#', '$', '\\', '\x22', '\x27'].contains d then go cs (p.add [d])
                    else .error ("invalid sequence '\\" ++ String.singleton d ++ "' in -S")
        | _, '$', cs =>
            match cs with
            | '\x7b' :: rest =>
                let name := rest.takeWhile fun x => x ≠ '\x7d'
                go (rest.drop (name.length + 1))
                  (match value (String.ofList name) with
                    | some v => p.add v.toList
                    | none => p)
            | _ =>
                .error ("only $\x7bVARNAME\x7d expansion is supported, error at: "
                  ++ String.ofList ('$' :: cs))
        | _, c, cs => go cs (p.add [c])

/-- The options of the utility that changes the environment. -/
def envOptions : List Opt :=
  [⟨'i', "ignore-environment", .nothing⟩, ⟨'u', "unset", .value⟩, ⟨'S', "split-string", .value⟩,
    ⟨'C', "chdir", .value⟩, ⟨'0', "null", .nothing⟩, ⟨'v', "debug", .nothing⟩]

/-- The arguments of the utility that changes the environment, with texts that are to be split put
in their place. -/
def envArguments (s : Shell) : Nat → List String → Except String Given
  | 0, args => parse envOptions false args
  | fuel + 1, args => do
      let g ← parse envOptions false args
      match g.options.span fun o => o.1 ≠ 'S' with
      | (_, []) => return g
      | (before, (_, text) :: after) =>
          let words ← splitText s.param? none (text.length + 1) text.toList ⟨[], none⟩
          let more ← envArguments s fuel (words ++ g.operands)
          return { more with options := before ++ after ++ more.options }

/-- Shows the environment, or runs a program in a changed one. -/
def env (w : Host) (p : Proc) (args : List String) : Host :=
  match envArguments p.shell args.length args with
  | .error text =>
      if text.startsWith "invalid option" || text.startsWith "unrecognized"
          || text.startsWith "option" then misuseWith 125 w p text
      else (grumble w p text).settle p 125
  | .ok g =>
      let clear := g.has 'i' || g.operands.head? = some "-"
      let operands := if g.operands.head? = some "-" then g.operands.tail else g.operands
      let assigned := operands.takeWhile fun a => a.toList.contains '='
      let unset := (g.options.filter fun o => o.1 = 'u').map Prod.snd
      let start := unset.foldl Shell.drop (if clear then { p.shell with vars := [] } else p.shell)
      let s := assigned.foldl (fun s a =>
        let (name, value) := Builtin.cut a
        s.put ⟨name, value, true, false⟩) start
      match unset.find? fun n => n = "" || n.toList.contains '=' with
      | some n => (grumble w p ("cannot unset '" ++ n ++ "': Invalid argument")).settle p 125
      | none =>
          match (g.value? 'C').map fun d => (d, w.files.stat p.cwd (Octets.unpack d)) with
          | some (d, .error e) =>
              (grumble w p ("cannot change directory to '" ++ d ++ "': " ++ reason e)).settle p 125
          | moved =>
              let cwd := match moved with
                | some (_, .ok (place, _)) => place
                | _ => p.cwd
              match operands.drop assigned.length with
              | [] =>
                  let ending := if g.has '0' then "\x00" else "\n"
                  w.print p (Octets.bytes (String.join (s.environment.map fun v =>
                    v.1 ++ "=" ++ v.2 ++ ending)))
              | argv =>
                  let p := { p.withShell { s with name := p.shell.name } with cwd := cwd }
                  let name := argv.headD ""
                  become w p argv fun e => "'" ++ name ++ "': " ++ e.text
                    ++ (if e = .noEntry && name.toList.contains ' ' then
                      "\n" ++ p.shell.name ++ ": use -[v]S to pass options in shebang lines"
                      else "")

def printEnv (w : Host) (p : Proc) (args : List String) : Host :=
  withArguments w p [⟨'0', "null", .nothing⟩] args fun g =>
    let all := p.shell.environment
    let ending := if g.has '0' then "\x00" else "\n"
    if g.operands.isEmpty then
      w.print p (Octets.bytes (String.join (all.map fun v => v.1 ++ "=" ++ v.2 ++ ending)))
    else
      let found := g.operands.filterMap fun a => all.lookup a
      w.write (p.withStatus (if found.length = g.operands.length then 0 else 1))
        (Octets.bytes (String.join (found.map fun s => s ++ ending)))

/-! ### Other ways to run programs -/

/-- What is said about a program that cannot be run. -/
def failedToRun (argv : List String) (e : Errno) : String :=
  "failed to run command '" ++ argv.headD "" ++ "': " ++ e.text

/-- Runs a program that is not ended by a hangup. -/
def unhung (w : Host) (p : Proc) (args : List String) : Host :=
  let args := if args.head? = some "--" then args.tail else args
  if args.isEmpty then misuseWith 125 w p "missing operand"
  else become w { p with ignored := 1 :: p.ignored } args (failedToRun args)

/-- Runs a program that is said to be less urgent. -/
def unhurried (w : Host) (p : Proc) (args : List String) : Host :=
  match parse [⟨'n', "adjustment", .value⟩] false args with
  | .error text => misuseWith 125 w p text
  | .ok g =>
      match (g.value? 'n').map fun n => (n, Script.Arithmetic.decimal? n) with
      | some (n, none) => (grumble w p ("invalid adjustment '" ++ n ++ "'")).settle p 125
      | some (_, some n) => go g n
      | none => go g 10
where
  /-- Runs the program so much less urgently.  Nothing can be made more urgent. -/
  go (g : Given) (adjustment : Int) : Host :=
    match g.operands with
    | [] =>
        if g.has 'n' then misuseWith 125 w p "a command must be given with an adjustment"
        else w.print p (Octets.bytes (toString p.niceness ++ "\n"))
    | argv =>
        let w := if adjustment < 0
          then grumble w p "cannot set niceness: Permission denied" else w
        let p := { p with niceness := min 19 (p.niceness + adjustment.toNat) }
        become w p argv fun e => "'" ++ argv.headD "" ++ "': " ++ e.text

/-- Runs a program in a group of its own. -/
def apart (w : Host) (p : Proc) (args : List String) : Host :=
  match parse [⟨'c', "ctty", .nothing⟩, ⟨'f', "fork", .nothing⟩, ⟨'w', "wait", .nothing⟩] false
      args with
  | .error text => misuse w p text
  | .ok g =>
      match g.operands with
      | [] => misuse w p "no command specified"
      | argv =>
          if p.group = p.id || g.has 'f' then
            match lookUp w p p.shell argv with
            | .error e => (grumble w p (complaint argv e)).settle p (failureStatus e)
            | .ok found =>
                let (id, w) := startChild w p ((p.stream? 0).getD .nothing) found
                let w := match w.proc? id with
                  | some q => w.setProc { q with group := id }
                  | none => w
                if g.has 'w' then
                  w.setProc (p.push [.limit ⟨id, none, 0, none, true, true, none, true⟩])
                else w.settle p 0
          else become w { p with group := p.id } argv (complaint argv)
where
  /-- What is said about a program that cannot be run. -/
  complaint (argv : List String) (e : Errno) : String :=
    "failed to execute " ++ argv.headD "" ++ ": " ++ e.text

/-- The signal that a utility is told to send, with or without its first letters. -/
def signalOf? (s : String) : Option Nat :=
  Signal.ofText? (if s.toUpper.startsWith "SIG" then String.ofList (s.toList.drop 3) else s)

/-- The signals that who watches a child passes on. -/
def passedOn (signal : Nat) : List Nat :=
  ([1, 2, 3, 14, 15] ++ [signal]).filter fun n => n ≠ 0 && n ≠ Proc.sureSignal

/-- Runs a program for a limited time. -/
def limited (w : Host) (p : Proc) (args : List String) : Host :=
  match parse [⟨'s', "signal", .value⟩, ⟨'k', "kill-after", .value⟩, ⟨'\x01', "preserve-status", .nothing⟩,
      ⟨'\x02', "foreground", .nothing⟩, ⟨'v', "verbose", .nothing⟩] false args with
  | .error text => misuseWith 125 w p text
  | .ok g =>
      let wrongSpan (s : String) : Host :=
        misuseWith 125 w p ("invalid time interval '" ++ s ++ "'")
      let signal? := (g.value? 's').elim (some Signal.usual) signalOf?
      match signal?, (g.value? 'k').map fun s => (s, Printing.millis? s), g.operands with
      | none, _, _ => misuseWith 125 w p ("'" ++ (g.value? 's').getD "" ++ "': invalid signal")
      | _, some (s, none), _ => wrongSpan s
      | some signal, patience?, span :: name :: args =>
          match Printing.millis? span with
          | none => wrongSpan span
          | some ms =>
              let alone := g.has '\x02'
              let p := if alone then p else { p with group := p.id }
              match lookUp w p p.shell (name :: args) with
              | .error e =>
                  (grumble w p (failedToRun (name :: args) e)).settle p (failureStatus e)
              | .ok found =>
                  let caught := passedOn signal
                  let p := { p with ignored := p.ignored.filter fun n => !caught.contains n }
                  let (id, w) := startChild w p ((p.stream? 0).getD .nothing) found
                  let x : Limit :=
                    { child := id
                      deadline := if ms = 0 then none else some (w.clock + ms)
                      signal := signal
                      patience := (patience?.bind Prod.snd).filter (0 < ·)
                      preserve := g.has '\x01'
                      alone := alone
                      command := if g.has 'v' then some name else none
                      expired := false }
                  w.setProc ((p.withShell { p.shell with traps := caught.map fun n => (n, " ") }).push
                    [.limit x])
      | _, _, _ =>
          (w.grumble p ("Try '" ++ p.shell.name ++ " --help' for more information.")).settle p 125

def which (w : Host) (p : Proc) (args : List String) : Host :=
  let all := args.head? = some "-a"
  let names := if all then args.tail else args
  let path := (p.shell.environment.lookup "PATH").getD ""
  let found (name : String) : List String :=
    let paths := if name.toList.contains '/' then [name] else Program.candidates path name
    let hits := paths.filter fun a => (w.files.fileAt? p.cwd (Octets.unpack a)).any fun f =>
      Right.pass.isIn f.mode
    if all then hits else hits.take 1
  let results := names.map found
  w.write (p.withStatus (if names.isEmpty || results.any List.isEmpty then 1 else 0))
    (Octets.bytes (String.join (results.flatten.map (· ++ "\n"))))

end BatchRunner.Utility
