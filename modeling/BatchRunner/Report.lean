/-
**Reports of a run.**

Main definitions:

* `Record` — one job with its artifact, outcome and duration;
* `Report` — the records of a run in order, and when it began and ended;
* `Report.counts`, `Report.launchedCount`, `Report.summary` — the run in numbers;
* `Report.value` — the report as a JSON value.
-/
import BatchRunner.Instant
import BatchRunner.Json.Value
import BatchRunner.Outcome
import BatchRunner.Selection

set_option autoImplicit false

namespace BatchRunner

/-- What became of one job. -/
structure Record where
  job : Job
  artifact : String
  outcome : Outcome
  /-- How long the job took, in milliseconds. -/
  duration : Nat
  deriving DecidableEq, Repr

/-- How many jobs had each outcome. -/
structure Counts where
  cached : Nat
  predicted : Nat
  completed : Nat
  timedOut : Nat
  launchFailed : Nat
  deriving DecidableEq, Repr

namespace Counts

def zero : Counts := ⟨0, 0, 0, 0, 0⟩

def add (c : Counts) : Outcome → Counts
  | .skippedCached => { c with cached := c.cached + 1 }
  | .skippedPredicted => { c with predicted := c.predicted + 1 }
  | .completed => { c with completed := c.completed + 1 }
  | .timedOut => { c with timedOut := c.timedOut + 1 }
  | .launchFailed _ => { c with launchFailed := c.launchFailed + 1 }

end Counts

/-- The records of a run, one per job of the matrix. -/
structure Report where
  startedAt : Instant
  finishedAt : Instant
  records : List Record
  deriving DecidableEq, Repr

namespace Report

/-- How many jobs had each outcome. -/
def counts (r : Report) : Counts :=
  r.records.foldl (fun c x => c.add x.outcome) .zero

/-- How many jobs the engine was started for. -/
def launchedCount (r : Report) : Nat := (r.records.filter fun x => x.outcome.launched).length

/-- The run in one line. -/
def summary (r : Report) : String :=
  let c := r.counts
  toString r.records.length ++ " job(s): " ++ toString c.completed ++ " completed, "
    ++ toString c.timedOut ++ " timed out, " ++ toString c.cached ++ " cached, "
    ++ toString c.predicted ++ " predicted unscalable, " ++ toString c.launchFailed
    ++ " failed to launch"

end Report

/-- A record as a JSON value.  A reason stands only where the engine could not be started. -/
def Record.value (r : Record) : Json.Value :=
  .object <|
    [("variant", .member r.job.variant), ("program", .member r.job.program),
      ("artifact", .text r.artifact), ("outcome", .text r.outcome.token)]
    ++ (r.outcome.reason?.map fun s => ("reason", Json.Value.text s)).toList
    ++ [("duration_ms", .number r.duration)]

def Report.value (r : Report) : Json.Value :=
  .object
    [("started_at", .text r.startedAt.render), ("finished_at", .text r.finishedAt.render),
      ("jobs", .list (r.records.map Record.value))]

end BatchRunner
