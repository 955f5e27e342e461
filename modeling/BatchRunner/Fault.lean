/-
**Errors of a run and what is said about them.**

Main definitions:

* `StoreError`, `LaunchError`, `TableError` — what can go wrong with the output directory, with
  starting an engine, and with a document of exclusions;
* `Fault` — any of them, or a refused selection;
* `Fault.message`, `Fault.causes` — the text of an error and those of what lies beneath it.
-/
import BatchRunner.Exclusion.Table
import BatchRunner.Files.Errno
import BatchRunner.Selection

set_option autoImplicit false

namespace BatchRunner

/-- What can go wrong with the output directory. -/
inductive StoreError where
  /-- The output path leads to something that is not a directory. -/
  | conflict (path : String)
  | io (path : String) (source : IoError)
  deriving DecidableEq, Repr

def StoreError.message : StoreError → String
  | .conflict path => "cannot create output dir " ++ path ++ ": already exists as a file"
  | .io path source => "output store io error at " ++ path ++ ": " ++ source.message

/-- What can go wrong with running an engine. -/
inductive LaunchError where
  /-- There is no command to run. -/
  | emptyCommand
  | launch (program : String) (source : IoError)
  /-- The engine runs, but its end cannot be waited for. -/
  | wait (source : IoError)
  deriving DecidableEq, Repr

def LaunchError.message : LaunchError → String
  | .emptyCommand => "empty engine command"
  | .launch program source => "failed to launch " ++ program ++ ": " ++ source.message
  | .wait source => "failed waiting on engine process: " ++ source.message

/-- What can go wrong with a document of exclusions. -/
inductive TableError where
  | document (e : Exclusion.DocumentError)
  | read (path : String) (source : IoError)
  deriving DecidableEq, Repr

def TableError.message : TableError → String
  | .document e => e.message
  | .read path source => "cannot read exclusion table " ++ path ++ ": " ++ source.message

/-- Anything that can go wrong with a run. -/
inductive Fault where
  | usage (e : UsageError)
  | exclusion (e : TableError)
  | store (e : StoreError)
  | launch (e : LaunchError)
  deriving DecidableEq, Repr

/-- The text of an error. -/
def Fault.message : Fault → String
  | .usage e => "usage error: " ++ e.message
  | .exclusion e => e.message
  | .store e => e.message
  | .launch e => e.message

/-- The texts of the errors beneath an error.  A wait error says all there is to say itself. -/
def Fault.causes : Fault → List String
  | .usage e => [e.message]
  | .exclusion (.document (.malformed f)) => [f.message]
  | .exclusion (.document (.repeated _ _)) => []
  | .exclusion (.read _ source) => [source.message]
  | .store (.conflict _) => []
  | .store (.io _ source) => [source.message]
  | .launch .emptyCommand => []
  | .launch (.launch _ source) => [source.message]
  | .launch (.wait _) => []

end BatchRunner
