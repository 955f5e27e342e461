/-
**What a command line may say.**

Options stand in the order in which they are explained, each beside its purpose, the variable that
it is taken from, with its value, and what it is when it is not given.

Main definitions:

* `CommandLine.Entry` — an option as it is explained;
* `CommandLine.usageLine` — the shape of a command line;
* `CommandLine.helpText` — all that is said about the command line.
-/
import BatchRunner.CommandLine.Setting
import BatchRunner.Config
import BatchRunner.Text.Blank

set_option autoImplicit false

namespace BatchRunner.CommandLine

open Text.Terminal (styled)

def Flag.purpose : Flag → String
  | all => "Fill an unspecified side with every analysis or every benchmark"
  | clean => "Remove previous outputs and exit"
  | print => "Print analysis results on screen instead of storing them (disables caching)"
  | emptyContext => "Use the empty context for static calls instead of the virtualised default"
  | verbose => "Enable verbose output"
  | json => "Emit JSON-formatted log lines"
  | version => "Print version"
  | help => "Print help"

namespace Setting

def purpose : Setting → String
  | outputPath => "Directory receiving one output file per job"
  | benchmarks => "Root of the benchmark inputs (dacapo/ and applications/)"
  | engineDir => "Working directory of the engine"
  | engine => "Engine entry point, split on whitespace"
  | timeout => "Per-job timeout in seconds (negative for unlimited)"
  | engineOption => "Extra option passed through to the engine (repeatable)"
  | exclusions => "JSON exclusion table replacing the built-in one"
  | report => "Write a JSON report of the run to this file"

/-- What a setting is when it is not given. -/
def usual? : Setting → Option String
  | outputPath => some Config.standard.outputRoot
  | benchmarks => some Config.standard.benchmarksRoot
  | engineDir => some Config.standard.engineDir
  | engine => some (" ".intercalate Config.standard.engine)
  | timeout => some (toString Config.standard.timeout.seconds)
  | _ => none

/-- What is said about the usual value of a setting.  A value of several words is quoted. -/
def usualNote (value : String) : String :=
  "[default: " ++ (if value.toList.any Text.isWhite then "\"" ++ value ++ "\"" else value) ++ "]"

/-- What is said about a setting in an environment behind its purpose. -/
def notes (s : Setting) (env : String → Option String) : List String :=
  (s.envName?.map fun name => "[env: " ++ name ++ "=" ++ (env name).getD "" ++ "]").toList
    ++ (s.usual?.map usualNote).toList

end Setting

/-- An option as it is explained. -/
inductive Entry where
  | flag (f : Flag)
  | setting (s : Setting)
  deriving DecidableEq, Repr

namespace Entry

/-- All options, in the order in which they are explained. -/
def entries : List Entry :=
  [.flag .all, .flag .clean, .flag .print, .flag .emptyContext]
    ++ Setting.settings.map .setting
    ++ [.flag .verbose, .flag .json, .flag .help, .flag .version]

/-- How an option is written, and how wide that is. -/
def spelling : Entry → String × Nat
  | .flag f => (styled [.bold] f.shown, f.shown.length)
  | .setting s =>
      (styled [.bold] ("--" ++ s.long) ++ " <" ++ s.valueName ++ ">", s.shown.length)

def letter? : Entry → Option Char
  | .flag f => ['v', 'V', 'h'].find? fun c => Flag.ofLetter? c = some f
  | .setting _ => none

def remark (env : String → Option String) : Entry → String
  | .flag f => f.purpose
  | .setting s => " ".intercalate (s.purpose :: s.notes env)

def widest : Nat := (entries.map fun e => e.spelling.2).foldl max 0

def blanks (n : Nat) : String := String.ofList (List.replicate n ' ')

/-- The line of an option.  Where a remark has further lines, they begin below it. -/
def line (env : String → Option String) (e : Entry) : String :=
  let letter := match e.letter? with
    | some c => styled [.bold] (String.ofList ['-', c]) ++ ", "
    | none => "    "
  let (spelling, width) := e.spelling
  "  " ++ letter ++ spelling ++ blanks (widest - width + 2)
    ++ ("\n" ++ blanks (widest + 8)).intercalate ((e.remark env).splitOn "\n")

end Entry

/-- What is said about the shape of a command line. -/
def usageLine : String :=
  styled [.bold, .underlined] "Usage:" ++ " " ++ styled [.bold] "ptabench"
    ++ " [OPTIONS] [TARGETS]..."

/-- **All that is said about the command line.** -/
def helpText (env : String → Option String) : String :=
  "Batch runner for pointer-analysis benchmark experiments\n\n" ++ usageLine ++ "\n\n"
    ++ styled [.bold, .underlined] "Arguments:" ++ "\n"
    ++ "  [TARGETS]...  Analyses (e.g. insens, 2o, e-3t) and benchmarks (e.g. antlr, JPC) to run\n\n"
    ++ styled [.bold, .underlined] "Options:" ++ "\n"
    ++ String.join (Entry.entries.map fun e => e.line env ++ "\n")

end BatchRunner.CommandLine
