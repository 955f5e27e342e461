/-
**The options of the command line.**

Main definitions:

* `CommandLine.Flag`, `CommandLine.Setting` — options without and with a value;
* `CommandLine.Refusal` — why a command line is refused;
* `CommandLine.Setting.check` — which values a setting takes;
* `CommandLine.seconds?` — reads a number of seconds.
-/
import BatchRunner.Text.Terminal

set_option autoImplicit false

namespace BatchRunner.CommandLine

open Text.Terminal (styled)

/-- An option without a value. -/
inductive Flag where
  | all
  | clean
  | print
  | emptyContext
  | verbose
  | json
  | version
  | help
  deriving DecidableEq, Repr

namespace Flag

def flags : List Flag := [all, clean, print, emptyContext, verbose, json, version, help]

/-- The name of a flag. -/
def long : Flag → String
  | all => "all"
  | clean => "clean"
  | print => "print"
  | emptyContext => "empty-context"
  | verbose => "verbose"
  | json => "json"
  | version => "version"
  | help => "help"

/-- The flag that a letter behind a single dash stands for. -/
def ofLetter? : Char → Option Flag
  | 'v' => some verbose
  | 'V' => some version
  | 'h' => some help
  | _ => none

/-- How a flag is shown. -/
def shown (f : Flag) : String := "--" ++ f.long

end Flag

/-- An option with a value. -/
inductive Setting where
  | outputPath
  | benchmarks
  | engineDir
  | engine
  | timeout
  | engineOption
  | exclusions
  | report
  deriving DecidableEq, Repr

/-- What the value of a setting has to be. -/
inductive ValueKind where
  /-- A path, which is not empty. -/
  | path
  | text
  | seconds
  deriving DecidableEq, Repr

namespace Setting

def settings : List Setting :=
  [outputPath, benchmarks, engineDir, engine, timeout, engineOption, exclusions, report]

/-- The name of a setting. -/
def long : Setting → String
  | outputPath => "output-path"
  | benchmarks => "benchmarks"
  | engineDir => "engine-dir"
  | engine => "engine"
  | timeout => "timeout"
  | engineOption => "engine-opt"
  | exclusions => "exclusions"
  | report => "report"

/-- What stands for the value of a setting where the setting is shown. -/
def valueName : Setting → String
  | outputPath => "OUTPUT_PATH"
  | benchmarks => "BENCHMARKS"
  | engineDir => "ENGINE_DIR"
  | engine => "ENGINE"
  | timeout => "TIMEOUT"
  | engineOption => "ENGINE_OPTS"
  | exclusions => "EXCLUSIONS"
  | report => "REPORT"

/-- How a setting is shown. -/
def shown (s : Setting) : String := "--" ++ s.long ++ " <" ++ s.valueName ++ ">"

/-- The variable of the environment that a setting is taken from when it is not given. -/
def envName? : Setting → Option String
  | outputPath => some "PTABENCH_OUTPUT"
  | benchmarks => some "PTABENCH_BENCHMARKS"
  | engineDir => some "PTABENCH_ENGINE_DIR"
  | timeout => some "PTABENCH_TIMEOUT"
  | _ => none

def kind : Setting → ValueKind
  | engine => .text
  | engineOption => .text
  | timeout => .seconds
  | _ => .path

/-- Whether a setting may be given more than once. -/
def isRepeatable : Setting → Bool
  | engineOption => true
  | _ => false

end Setting

/-- Why a text is not a number of seconds. -/
inductive NumberFault where
  | empty
  | digit
  | large
  | small
  deriving DecidableEq, Repr

def NumberFault.message : NumberFault → String
  | empty => "cannot parse integer from empty string"
  | digit => "invalid digit found in string"
  | large => "number too large to fit in target type"
  | small => "number too small to fit in target type"

/-- Why a command line is refused. -/
inductive Refusal where
  | unexpected (argument : String)
  | missingValue (s : Setting)
  | repeated (shown : String)
  | badNumber (value : String) (fault : NumberFault)
  | unexpectedValue (value : String) (f : Flag)
  deriving DecidableEq, Repr

def given (text : String) : String := "'" ++ styled [.yellow] text ++ "'"

/-- What is written as it is shown. -/
def literal (text : String) : String := "'" ++ styled [.bold] text ++ "'"

def Refusal.message : Refusal → String
  | unexpected a => "unexpected argument " ++ given a ++ " found"
  | missingValue s => "a value is required for " ++ given s.shown ++ " but none was supplied"
  | repeated shown => "the argument " ++ given shown ++ " cannot be used multiple times"
  | badNumber v fault =>
      "invalid value " ++ given v ++ " for " ++ literal Setting.timeout.shown ++ ": "
        ++ fault.message
  | unexpectedValue v f =>
      "unexpected value " ++ given v ++ " for " ++ literal f.shown
        ++ " found; no more were expected"

def secondsMax : Nat := 9223372036854775807

/-- Adds digits to a number that may not pass a bound.  A bad digit is noticed before the number is
too large for what stands before it. -/
def addDigits (bound : Nat) (fault : NumberFault) : List Char → Nat → Except NumberFault Nat
  | [], n => .ok n
  | c :: cs, n =>
      if !c.isDigit then .error .digit
      else
        let n := n * 10 + (c.toNat - '0'.toNat)
        if bound < n then .error fault else addDigits bound fault cs n

def seconds? (s : String) : Except NumberFault Int :=
  match s.toList with
  | [] => .error .empty
  | ['-'] => .error .digit
  | ['+'] => .error .digit
  | '-' :: ds => (addDigits (secondsMax + 1) .small ds 0).map fun n => -(n : Int)
  | '+' :: ds => (addDigits secondsMax .large ds 0).map Int.ofNat
  | ds => (addDigits secondsMax .large ds 0).map Int.ofNat

/-- Refuses a value that a setting does not take. -/
def Setting.check (s : Setting) (value : String) : Except Refusal Unit :=
  match s.kind with
  | .text => .ok ()
  | .path => if value = "" then .error (.missingValue s) else .ok ()
  | .seconds =>
      match seconds? value with
      | .ok _ => .ok ()
      | .error fault => .error (.badNumber value fault)

/-- Whether a text behind a dash is a number: digits with at most one point in them and at most one
exponent, which is not the end. -/
def looksNumeric (cs : List Char) : Bool :=
  let rec go (first seenPoint seenExponent : Bool) : List Char → Bool
    | [] => true
    | c :: cs =>
        if c.isDigit then go false seenPoint seenExponent cs
        else if c = '.' && !seenPoint && !seenExponent && !first then go false true seenExponent cs
        else if (c = 'e' || c = 'E') && !seenExponent && !first then
          !cs.isEmpty && go false seenPoint true cs
        else false
  go true false false cs

/-- Whether an argument is taken as the value of the setting before it.  What looks like an option
is not, unless the setting takes options, or numbers and the argument is a negative one. -/
def Setting.takes (s : Setting) (argument : String) : Bool :=
  match argument.toList with
  | '-' :: c :: cs =>
      s = .engineOption || (s = .timeout && c ≠ '-' && looksNumeric (c :: cs))
  | _ => true

end BatchRunner.CommandLine
