/-
**The configuration of a run.**

Main definitions:

* `Budget` — how long a job may take; a negative number of seconds means as long as it likes;
* `Config` — everything a run depends on besides its targets and its exclusion tables;
* `Config.globalOptions` — the options every engine command gets.
-/
import BatchRunner.Analysis

set_option autoImplicit false

namespace BatchRunner

/-- The number of seconds a job may take. -/
structure Budget where
  seconds : Int
  deriving DecidableEq, Repr

/-- The limit a budget sets, if it sets one. -/
def Budget.limit? (b : Budget) : Option Nat :=
  if b.seconds < 0 then none else some b.seconds.toNat

/-- What a run is configured with. -/
structure Config where
  /-- The engine and its leading arguments. -/
  engine : List String
  /-- The directory the engine is started in. -/
  engineDir : String
  /-- The directory that holds the inputs of all programs. -/
  benchmarksRoot : String
  /-- The directory that receives one artifact per job. -/
  outputRoot : String
  timeout : Budget
  /-- Options handed through to the engine. -/
  engineOptions : List String
  contextMode : Mode
  /-- Whether results go to the terminal instead of the store. -/
  interactive : Bool
  deriving DecidableEq, Repr

namespace Config

/-- What a run gets when nothing else is said: one day per job. -/
def standard : Config where
  engine := ["python3", "pta.py"]
  engineDir := "pta"
  benchmarksRoot := "benchmarks"
  outputRoot := "output"
  timeout := ⟨86400⟩
  engineOptions := []
  contextMode := .default
  interactive := false

/-- The options that come first in every engine command. -/
def globalOptions (c : Config) : List String :=
  ("-timeout=" ++ toString c.timeout.seconds) :: c.engineOptions

end Config

end BatchRunner
