/-
**The scheduling loop.**

Jobs are taken one at a time.  A job with a result is skipped, unless results go to the console; a
job that is known not to finish gets a placeholder; any other job is handed to the launcher.  What
goes wrong with one job never keeps the next from being taken.

Main definitions:

* `Scheduler` — a configuration and the predictor for its context mode;
* `Scheduler.runJob` — decides and carries out one job;
* `Scheduler.run` — carries out a list of jobs and reports on it.
-/
import BatchRunner.Command
import BatchRunner.Report
import BatchRunner.Store
import BatchRunner.World

set_option autoImplicit false

namespace BatchRunner

/-- What jobs are run with. -/
structure Scheduler where
  config : Config
  predictor : Exclusion.Predictor

namespace Scheduler

variable {ε : Type}

/-- The store a scheduler keeps results in. -/
def store (s : Scheduler) : Store := ⟨s.config.outputRoot⟩

/-- The particulars that name a job. -/
def jobFields (job : Job) : List (String × Log.Datum) :=
  [("variant", .text job.variant.token), ("program", .text job.program.token)]

def jobEvent (level : Log.Level) (job : Job) (message : String)
    (more : List (String × Log.Datum)) : Log.Event :=
  ⟨level, .scheduler, message, jobFields job ++ more⟩

/-- A job that has a result. -/
def skipCached (job : Job) (w : World ε) : Outcome × World ε :=
  (.skippedCached, w.log (jobEvent .debug job "Old result found, skipping" []))

/-- A job that is known not to finish: its artifact is settled, unless results go to the console. -/
def skipPredicted (s : Scheduler) (job : Job) (w : World ε) : Outcome × World ε :=
  let w := w.log (jobEvent .info job "predicted unscalable. skip this." [])
  if s.config.interactive then (.skippedPredicted, w)
  else
    match s.store.writePlaceholder job w.files with
    | (.ok _, t) => (.skippedPredicted, w.withFiles t)
    | (.error e, t) =>
        (.skippedPredicted,
          (w.withFiles t).log
            (jobEvent .warn job "Failed to write placeholder" [("error", .text e.message)]))

/-- The call a job is launched with. -/
def call (s : Scheduler) (job : Job) (sink : Sink) : Call :=
  ⟨Command.synthesize job s.config, s.config.engineDir, sink, s.config.timeout⟩

/-- Launches a job whose output goes to the given sink. -/
def launchTo (s : Scheduler) (launch : Launcher ε) (job : Job) (sink : Sink) (w : World ε) :
    Outcome × World ε :=
  let call := s.call job sink
  let w := w.log (jobEvent .info job
    ("now running " ++ job.variant.token ++ " for " ++ job.program.token ++ " ...") [])
  let w := w.log
    ⟨.debug, .scheduler, "Engine command", [("command", .text (" ".intercalate call.argv))]⟩
  match launch call w with
  | (.ok status, w) => (.ofStatus status, w)
  | (.error e, w) =>
      (.launchFailed e.message,
        w.log (jobEvent .warn job "Engine launch failed" [("error", .text e.message)]))

/-- Launches a job.  Its artifact is opened first, unless results go to the console. -/
def launchJob (s : Scheduler) (launch : Launcher ε) (job : Job) (w : World ε) :
    Outcome × World ε :=
  if s.config.interactive then s.launchTo launch job .inherit w
  else
    match s.store.openForWrite job w.files with
    | .ok (h, t) => s.launchTo launch job (.file h) (w.withFiles t)
    | .error e =>
        (.launchFailed e.message,
          w.log (jobEvent .warn job "Cannot open artifact" [("error", .text e.message)]))

/-- **Decides and carries out one job.** -/
def runJob (s : Scheduler) (launch : Launcher ε) (job : Job) (w : World ε) : Outcome × World ε :=
  if !s.config.interactive && s.store.holds job w.files then skipCached job w
  else if s.predictor.predicts job then s.skipPredicted job w
  else s.launchJob launch job w

/-- Carries out one job and takes a record of it. -/
def recordJob (s : Scheduler) (launch : Launcher ε) (job : Job) (w : World ε) :
    Record × World ε :=
  let (outcome, w') := s.runJob launch job w
  (⟨job, s.store.artifact job, outcome, w'.clock - w.clock⟩, w')

/-- Carries out jobs in order, a record for each. -/
def runJobs (s : Scheduler) (launch : Launcher ε) : List Job → World ε → List Record × World ε
  | [], w => ([], w)
  | job :: jobs, w =>
      let (r, w₁) := s.recordJob launch job w
      let (rs, w₂) := s.runJobs launch jobs w₁
      (r :: rs, w₂)

/-- **Carries out a matrix and reports on it.** -/
def run (s : Scheduler) (launch : Launcher ε) (jobs : List Job) (w : World ε) :
    Report × World ε :=
  let w₁ := w.log ⟨.info, .scheduler, "Starting job matrix",
    [("jobs", .number jobs.length), ("mode", .text s.predictor.mode.ident)]⟩
  let (records, w₂) := s.runJobs launch jobs w₁
  (⟨.ofMillis w.clock, .ofMillis w₂.clock, records⟩, w₂)

end Scheduler

end BatchRunner
