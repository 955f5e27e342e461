/-
**Reading the command line.**

Arguments are read from left to right.  A setting waits for its value, and the value is checked when
the next argument turns out to be in order; so an argument that is not known is refused before the
value in front of it.

Main definitions:

* `CommandLine.Reading` — what has been read so far;
* `CommandLine.readAll` — reads all arguments;
* `CommandLine.Options`, `CommandLine.Options.parse` — what a command line asks for;
* `CommandLine.Options.config` — the configuration it leads to.
-/
import BatchRunner.CommandLine.Setting
import BatchRunner.Config
import BatchRunner.Path
import BatchRunner.Text.Blank

set_option autoImplicit false

namespace BatchRunner.CommandLine

/-- Why there is nothing to run. -/
inductive Stop where
  | refused (r : Refusal)
  | version
  | help
  deriving DecidableEq, Repr

/-- A setting that is not settled yet: it waits for a value, or for its value to be checked. -/
structure Pending where
  setting : Setting
  value : Option String
  deriving DecidableEq, Repr

/-- What has been read of a command line. -/
structure Reading where
  targets : List String
  flags : List Flag
  values : List (Setting × String)
  pending : Option Pending
  deriving DecidableEq, Repr

namespace Reading

def empty : Reading := ⟨[], [], [], none⟩

def accept (r : Reading) (s : Setting) (value : String) : Except Stop Reading :=
  if !s.isRepeatable && r.values.any fun v => v.1 = s then .error (.refused (.repeated s.shown))
  else
    match s.check value with
    | .error e => .error (.refused e)
    | .ok () => .ok { r with values := r.values ++ [(s, value)] }

def settle (r : Reading) : Except Stop Reading :=
  match r.pending with
  | none => .ok r
  | some ⟨s, none⟩ => .error (.refused (.missingValue s))
  | some ⟨s, some value⟩ => { r with pending := none }.accept s value

/-- Sets a flag. -/
def raise (r : Reading) (f : Flag) : Except Stop Reading := do
  let r ← r.settle
  match f with
  | .version => throw .version
  | .help => throw .help
  | f =>
      if r.flags.contains f then throw (.refused (.repeated f.shown))
      return { r with flags := r.flags ++ [f] }

/-- Reads an option by its name, with the value that is attached to it. -/
def long (r : Reading) (name : String) (value? : Option String) : Except Stop Reading :=
  match Setting.settings.find? fun s => s.long = name with
  | some s => do
      let r ← r.settle
      match value? with
      | some value => r.accept s value
      | none => return { r with pending := some ⟨s, none⟩ }
  | none =>
      match Flag.flags.find? fun f => f.long = name, value? with
      | none, _ => .error (.refused (.unexpected ("--" ++ name)))
      | some f, some value => .error (.refused (.unexpectedValue value f))
      | some f, none => r.raise f

/-- Reads letters behind a single dash. -/
def letters (r : Reading) : List Char → Except Stop Reading
  | [] => .ok r
  | c :: cs =>
      match Flag.ofLetter? c with
      | none => .error (.refused (.unexpected (String.ofList ['-', c])))
      | some f => do
          let r ← r.raise f
          r.letters cs

/-- Reads targets. -/
def target (r : Reading) (args : List String) : Except Stop Reading := do
  let r ← r.settle
  return { r with targets := r.targets ++ args }

/-- Reads an argument that is not the value of a setting. -/
def argument (r : Reading) (arg : String) : Except Stop Reading :=
  match arg.toList with
  | '-' :: '-' :: cs =>
      let name := cs.takeWhile (· ≠ '=')
      r.long (String.ofList name)
        (if name.length < cs.length then some (String.ofList (cs.drop (name.length + 1))) else none)
  | '-' :: c :: cs => r.letters (c :: cs)
  | _ => r.target [arg]

/-- Whether an argument is the value that the pending setting waits for. -/
def awaits (r : Reading) (arg : String) : Option Setting :=
  match r.pending with
  | some ⟨s, none⟩ => if s.takes arg then some s else none
  | _ => none

end Reading

/-- **Reads all arguments.**  Behind two dashes there are only targets. -/
def readAll : Reading → List String → Except Stop Reading
  | r, [] => r.settle
  | r, a :: as =>
      match r.awaits a with
      | some s => readAll { r with pending := some ⟨s, some a⟩ } as
      | none =>
          if a = "--" then r.target as
          else do
            let r ← r.argument a
            readAll r as

/-- What a command line asks for. -/
structure Options where
  targets : List String
  all : Bool
  clean : Bool
  print : Bool
  emptyContext : Bool
  outputPath : String
  benchmarks : String
  engineDir : String
  engine : String
  timeout : Int
  engineOptions : List String
  exclusions : Option String
  report : Option String
  verbose : Bool
  json : Bool
  deriving DecidableEq, Repr

namespace Reading

def value? (r : Reading) (s : Setting) : Option String := r.values.lookup s

/-- Takes a setting that was not given from the environment. -/
def complete (env : String → Option String) (r : Reading) (s : Setting) : Except Stop Reading :=
  match r.value? s, s.envName?.bind env with
  | none, some value => r.accept s value
  | _, _ => .ok r

/-- What was asked for, with what is usual in the place of what was not said. -/
def options (r : Reading) : Options where
  targets := r.targets
  all := r.flags.contains .all
  clean := r.flags.contains .clean
  print := r.flags.contains .print
  emptyContext := r.flags.contains .emptyContext
  outputPath := (r.value? .outputPath).getD Config.standard.outputRoot
  benchmarks := (r.value? .benchmarks).getD Config.standard.benchmarksRoot
  engineDir := (r.value? .engineDir).getD Config.standard.engineDir
  engine := (r.value? .engine).getD (" ".intercalate Config.standard.engine)
  timeout :=
    match (r.value? .timeout).map seconds? with
    | some (.ok n) => n
    | _ => Config.standard.timeout.seconds
  engineOptions := (r.values.filter fun v => v.1 = .engineOption).map Prod.snd
  exclusions := r.value? .exclusions
  report := r.value? .report
  verbose := r.flags.contains .verbose
  json := r.flags.contains .json

end Reading

namespace Options

/-- **Reads a command line in an environment.** -/
def parse (env : String → Option String) (args : List String) : Except Stop Options := do
  let r ← readAll .empty args
  let r ← Setting.settings.foldlM (Reading.complete env) r
  return r.options

/-- The configuration a command line leads to in a directory.  Its paths are made absolute, because
the engine is started elsewhere. -/
def config (o : Options) (cwd : String) : Config where
  engine := Text.words o.engine
  engineDir := Path.join cwd o.engineDir
  benchmarksRoot := Path.join cwd o.benchmarks
  outputRoot := Path.join cwd o.outputPath
  timeout := ⟨o.timeout⟩
  engineOptions := o.engineOptions
  contextMode := if o.emptyContext then .empty else .default
  interactive := o.print

end Options

end BatchRunner.CommandLine
