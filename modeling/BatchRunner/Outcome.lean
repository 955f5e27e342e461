/-
**What became of a job.**

Main definitions:

* `Status` — how a supervised run ended;
* `Outcome` — what happened to a job, with or without a run.
-/
import BatchRunner.Catalog

set_option autoImplicit false

namespace BatchRunner

/-- How a supervised run ended. -/
inductive Status where
  /-- The engine exited by itself, with whatever exit code. -/
  | completed
  /-- The budget ran out and the engine was killed. -/
  | timedOut
  deriving DecidableEq, Repr

namespace Status

def token : Status → String
  | completed => "completed"
  | timedOut => "timed_out"

instance : Catalog Status := ⟨[completed, timedOut], token, token⟩

instance : LawfulCatalog Status where
  mem_all x := by cases x <;> decide
  token_injective x y := by cases x <;> cases y <;> decide
  name_eq_token _ := rfl

end Status

/-- What happened to a job. -/
inductive Outcome where
  /-- There was a result already. -/
  | skippedCached
  /-- The job is known not to finish. -/
  | skippedPredicted
  | completed
  | timedOut
  /-- The engine could not be started for the given reason. -/
  | launchFailed (reason : String)
  deriving DecidableEq, Repr

namespace Outcome

/-- The outcome of a run that has ended. -/
def ofStatus : Status → Outcome
  | .completed => completed
  | .timedOut => timedOut

def token : Outcome → String
  | skippedCached => "skipped_cached"
  | skippedPredicted => "skipped_predicted_unscalable"
  | completed => "completed"
  | timedOut => "timed_out"
  | launchFailed _ => "launch_failed"

/-- Why the engine could not be started, if it could not. -/
def reason? : Outcome → Option String
  | launchFailed reason => some reason
  | _ => none

/-- Whether the engine was started. -/
def launched : Outcome → Bool
  | completed => true
  | timedOut => true
  | _ => false

end Outcome

end BatchRunner
