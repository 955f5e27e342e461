/-
**What happens during runs.**

A run visits its jobs one after the other.  A visit says what the world was like before the job and
after it, what became of the job, and which call the launcher got for it, if it got any.  Several
runs in succession make one history.

Main definitions:

* `Scheduler.callOf?` — the call that a job is launched with, if it is launched;
* `Visit`, `Scheduler.visits` — what a run does, job by job;
* `Run`, `Run.perform`, `performAll`, `history` — a run with all it depends on, and runs in
  succession;
* `Visit.Course` — the ways a visit can go;
* `Launcher.observed`, `Scheduler.exchange?` — a launcher that takes notes, and what there is to note;
* `Scheduler.calls` — the calls that a launcher gets during a run.

Main results:

* `Scheduler.run_eq_visits` — **the report and the final world of a run are those of its visits**;
* `Scheduler.course` — every visit goes one of those ways;
* `Scheduler.runJobs_observed` — **a launcher that takes notes takes them of the exchanges with the
  jobs**;
* `Scheduler.calls_eq_visits` — **the calls that a launcher gets are those of the visits**.
-/
import BatchRunner.Scheduler
import Mathlib.Data.List.Basic

set_option autoImplicit false

namespace BatchRunner

variable {ε : Type}

/-! ### Visits -/

/-- One job as it was carried out. -/
structure Visit (ε : Type) where
  scheduler : Scheduler
  job : Job
  before : World ε
  /-- What the launcher was asked to run. -/
  call? : Option Call
  outcome : Outcome
  after : World ε

namespace Visit

def record (v : Visit ε) : Record :=
  ⟨v.job, v.scheduler.store.artifact v.job, v.outcome, v.after.clock - v.before.clock⟩

/-- The artifact of the job was missing and has got the placeholder. -/
def GavePlaceholder (v : Visit ε) : Prop :=
  v.scheduler.config.interactive = false ∧ v.outcome = .skippedPredicted ∧
    (v.scheduler.store.writePlaceholder v.job v.before.files).1 = .ok true

end Visit

namespace Scheduler

/-- The call that a job is launched with, if it is launched. -/
def callOf? (s : Scheduler) (job : Job) (t : FileTree) : Option Call :=
  if !s.config.interactive && s.store.holds job t then none
  else if s.predictor.predicts job then none
  else if s.config.interactive then some (s.call job .inherit)
  else
    match s.store.openForWrite job t with
    | .ok (h, _) => some (s.call job (.file h))
    | .error _ => none

def visit (s : Scheduler) (launch : Launcher ε) (job : Job) (w : World ε) : Visit ε where
  scheduler := s
  job := job
  before := w
  call? := s.callOf? job w.files
  outcome := (s.runJob launch job w).1
  after := (s.runJob launch job w).2

def visitsFrom (s : Scheduler) (launch : Launcher ε) : List Job → World ε → List (Visit ε)
  | [], _ => []
  | job :: jobs, w =>
      s.visit launch job w :: s.visitsFrom launch jobs (s.visit launch job w).after

/-- The world in which the first job of a run is taken. -/
def opening (s : Scheduler) (jobs : List Job) (w : World ε) : World ε :=
  w.log ⟨.info, .scheduler, "Starting job matrix",
    [("jobs", .number jobs.length), ("mode", .text s.predictor.mode.ident)]⟩

@[simp] theorem files_opening (s : Scheduler) (jobs : List Job) (w : World ε) :
    (s.opening jobs w).files = w.files := rfl

def visits (s : Scheduler) (launch : Launcher ε) (jobs : List Job) (w : World ε) : List (Visit ε) :=
  s.visitsFrom launch jobs (s.opening jobs w)

def worldAfter (w : World ε) (vs : List (Visit ε)) : World ε :=
  (vs.getLast?.map Visit.after).getD w

theorem worldAfter_cons (w : World ε) (v : Visit ε) (vs : List (Visit ε)) :
    worldAfter w (v :: vs) = worldAfter v.after vs := by
  cases h : vs.getLast? <;> simp [worldAfter, List.getLast?_cons, h]

theorem runJobs_eq_visitsFrom (s : Scheduler) (launch : Launcher ε) (jobs : List Job)
    (w : World ε) :
    s.runJobs launch jobs w =
      ((s.visitsFrom launch jobs w).map Visit.record, worldAfter w (s.visitsFrom launch jobs w)) := by
  induction jobs generalizing w with
  | nil => rfl
  | cons job jobs ih =>
      rw [visitsFrom, worldAfter_cons, List.map_cons, runJobs]
      simp only [recordJob, ih]
      rfl

/-- **The report and the final world of a run are those of its visits.** -/
theorem run_eq_visits (s : Scheduler) (launch : Launcher ε) (jobs : List Job) (w : World ε) :
    (s.run launch jobs w).1.records = (s.visits launch jobs w).map Visit.record ∧
      (s.run launch jobs w).2 = worldAfter (s.opening jobs w) (s.visits launch jobs w) := by
  simp only [run]
  exact ⟨congrArg Prod.fst (runJobs_eq_visitsFrom s launch jobs _),
    congrArg Prod.snd (runJobs_eq_visitsFrom s launch jobs _)⟩

theorem map_job_visitsFrom (s : Scheduler) (launch : Launcher ε) (jobs : List Job) (w : World ε) :
    (s.visitsFrom launch jobs w).map Visit.job = jobs := by
  induction jobs generalizing w with
  | nil => rfl
  | cons job jobs ih =>
      rw [visitsFrom, List.map_cons, ih]
      rfl

/-! ### The ways a visit can go -/

/-- What the answer of a launcher means for a job. -/
def outcomeOf : Except LaunchError Status → Outcome
  | .ok status => .ofStatus status
  | .error e => .launchFailed e.message

end Scheduler

/-- The ways a visit can go: what decides for each, the call that is made, what becomes of the job,
and the files that are left behind. -/
inductive Visit.Course (s : Store) (launch : Launcher ε) (v : Visit ε) : Prop where
  /-- There is a result. -/
  | cached (batch : v.scheduler.config.interactive = false)
      (held : s.holds v.job v.before.files = true) (call : v.call? = none)
      (outcome : v.outcome = .skippedCached) (files : v.after.files = v.before.files)
  /-- The job is known not to finish, and results go to the console. -/
  | waived (shown : v.scheduler.config.interactive = true)
      (flagged : v.scheduler.predictor.predicts v.job = true) (call : v.call? = none)
      (outcome : v.outcome = .skippedPredicted) (files : v.after.files = v.before.files)
  /-- The job is known not to finish, and its artifact is settled. -/
  | settled (batch : v.scheduler.config.interactive = false)
      (fresh : s.holds v.job v.before.files = false)
      (flagged : v.scheduler.predictor.predicts v.job = true) (call : v.call? = none)
      (outcome : v.outcome = .skippedPredicted)
      (files : v.after.files = (s.writePlaceholder v.job v.before.files).2)
  | unopened (batch : v.scheduler.config.interactive = false)
      (fresh : s.holds v.job v.before.files = false)
      (unflagged : v.scheduler.predictor.predicts v.job = false) (e : StoreError)
      (failed : s.openForWrite v.job v.before.files = .error e) (call : v.call? = none)
      (outcome : v.outcome = .launchFailed e.message) (files : v.after.files = v.before.files)
  /-- The launcher is called, and results go to the console. -/
  | shown (shown : v.scheduler.config.interactive = true)
      (unflagged : v.scheduler.predictor.predicts v.job = false) (w₀ : World ε)
      (same : w₀.files = v.before.files) (call : v.call? = some (v.scheduler.call v.job .inherit))
      (outcome : v.outcome = Scheduler.outcomeOf (launch (v.scheduler.call v.job .inherit) w₀).1)
      (files : v.after.files = (launch (v.scheduler.call v.job .inherit) w₀).2.files)
  /-- The launcher is called, and results go into the artifact. -/
  | launched (batch : v.scheduler.config.interactive = false)
      (fresh : s.holds v.job v.before.files = false)
      (unflagged : v.scheduler.predictor.predicts v.job = false) (h : Handle) (w₀ : World ε)
      (opened : s.openForWrite v.job v.before.files = .ok (h, w₀.files))
      (call : v.call? = some (v.scheduler.call v.job (.file h)))
      (outcome : v.outcome = Scheduler.outcomeOf (launch (v.scheduler.call v.job (.file h)) w₀).1)
      (files : v.after.files = (launch (v.scheduler.call v.job (.file h)) w₀).2.files)

namespace Scheduler

def launching (s : Scheduler) (job : Job) (sink : Sink) (w : World ε) : World ε :=
  (w.log (jobEvent .info job
    ("now running " ++ job.variant.token ++ " for " ++ job.program.token ++ " ...") [])).log
    ⟨.debug, .scheduler, "Engine command",
      [("command", .text (" ".intercalate (s.call job sink).argv))]⟩

/-- What is made of the answer of a launcher. -/
def conclude (job : Job) : Except LaunchError Status × World ε → Outcome × World ε
  | (.ok status, w) => (.ofStatus status, w)
  | (.error e, w) =>
      (.launchFailed e.message,
        w.log (jobEvent .warn job "Engine launch failed" [("error", .text e.message)]))

theorem launchTo_eq (s : Scheduler) (launch : Launcher ε) (job : Job) (sink : Sink) (w : World ε) :
    s.launchTo launch job sink w =
      conclude job (launch (s.call job sink) (s.launching job sink w)) := rfl

theorem conclude_fst (job : Job) (answer : Except LaunchError Status × World ε) :
    (conclude job answer).1 = outcomeOf answer.1 := by
  obtain ⟨result, w⟩ := answer
  cases result <;> rfl

theorem files_conclude (job : Job) (answer : Except LaunchError Status × World ε) :
    (conclude job answer).2.files = answer.2.files := by
  obtain ⟨result, w⟩ := answer
  cases result <;> rfl

/-- A job whose results are shown is handed to the launcher at once. -/
theorem runJob_of_shown {s : Scheduler} {job : Job} (launch : Launcher ε) (w : World ε)
    (hshown : s.config.interactive = true) (hflag : s.predictor.predicts job = false) :
    s.runJob launch job w =
      conclude job (launch (s.call job .inherit) (s.launching job .inherit w)) := by
  rw [← launchTo_eq]
  simp [runJob, launchJob, hshown, hflag]

/-- A job whose results are kept is handed to the launcher with its artifact open. -/
theorem runJob_of_opened {s : Scheduler} {job : Job} {h : Handle} {t : FileTree}
    (launch : Launcher ε) (w : World ε) (hbatch : s.config.interactive = false)
    (hfresh : s.store.holds job w.files = false) (hflag : s.predictor.predicts job = false)
    (hopen : s.store.openForWrite job w.files = .ok (h, t)) :
    s.runJob launch job w =
      conclude job (launch (s.call job (.file h)) (s.launching job (.file h) (w.withFiles t))) := by
  rw [← launchTo_eq]
  simp [runJob, launchJob, hbatch, hfresh, hflag, hopen]

/-- **Every visit goes one of these ways.** -/
theorem course (s : Scheduler) (launch : Launcher ε) (job : Job) (w : World ε) :
    (s.visit launch job w).Course s.store launch := by
  cases hi : s.config.interactive with
  | true =>
      cases hp : s.predictor.predicts job with
      | true =>
          have hcall : s.callOf? job w.files = none := by simp [callOf?, hi, hp]
          have hrun : s.runJob launch job w = s.skipPredicted job w := by simp [runJob, hi, hp]
          exact .waived hi hp hcall (by simp [visit, hrun, skipPredicted, hi])
            (by simp [visit, hrun, skipPredicted, hi])
      | false =>
          have hcall : s.callOf? job w.files = some (s.call job .inherit) := by
            simp [callOf?, hi, hp]
          have hrun := runJob_of_shown launch w hi hp
          exact .shown hi hp (s.launching job .inherit w) rfl hcall
            (by simp [visit, hrun, conclude_fst]) (by simp [visit, hrun, files_conclude])
  | false =>
      cases hh : s.store.holds job w.files with
      | true =>
          have hcall : s.callOf? job w.files = none := by simp [callOf?, hi, hh]
          have hrun : s.runJob launch job w = skipCached job w := by simp [runJob, hi, hh]
          exact .cached hi hh hcall (by simp [visit, hrun, skipCached])
            (by simp [visit, hrun, skipCached])
      | false =>
          cases hp : s.predictor.predicts job with
          | true =>
              have hcall : s.callOf? job w.files = none := by simp [callOf?, hi, hh, hp]
              have hrun : s.runJob launch job w = s.skipPredicted job w := by
                simp [runJob, hi, hh, hp]
              have hsettled : (s.skipPredicted job w).1 = .skippedPredicted ∧
                  (s.skipPredicted job w).2.files = (s.store.writePlaceholder job w.files).2 := by
                unfold skipPredicted
                simp only [hi, Bool.false_eq_true, if_false, World.files_log]
                split
                · next t h => simp [h]
                · next e t h => simp [h]
              rw [← hrun] at hsettled
              exact .settled hi hh hp hcall hsettled.1 hsettled.2
          | false =>
              cases ho : s.store.openForWrite job w.files with
              | error e =>
                  have hcall : s.callOf? job w.files = none := by simp [callOf?, hi, hh, hp, ho]
                  have hrun : s.runJob launch job w = s.launchJob launch job w := by
                    simp [runJob, hi, hh, hp]
                  exact .unopened hi hh hp e ho hcall (by simp [visit, hrun, launchJob, hi, ho])
                    (by simp [visit, hrun, launchJob, hi, ho])
              | ok opened =>
                  obtain ⟨h, t⟩ := opened
                  have hcall : s.callOf? job w.files = some (s.call job (.file h)) := by
                    simp [callOf?, hi, hh, hp, ho]
                  have hrun := runJob_of_opened launch w hi hh hp ho
                  exact .launched hi hh hp h (s.launching job (.file h) (w.withFiles t)) ho hcall
                    (by simp [visit, hrun, conclude_fst]) (by simp [visit, hrun, files_conclude])

end Scheduler

/-! ### What a launcher is asked and answers -/

/-- A call, and the answer to it. -/
abbrev Exchange := Call × Except LaunchError Status

/-- A world that keeps notes besides what the launcher keeps. -/
def World.keeping {α : Type} (w : World ε) (notes : List α) : World (ε × List α) :=
  ⟨w.files, w.console, w.clock, w.outage, w.outer, notes⟩

/-- The launcher that does the same and takes a note of every exchange. -/
def Launcher.observed {α : Type} (launch : Launcher ε) (note : Exchange → α) :
    Launcher (ε × List α) := fun call w =>
  let (result, w') := launch call ⟨w.files, w.console, w.clock, w.outage, w.outer.1⟩
  (result, w'.keeping (w.outer.2 ++ [note (call, result)]))

namespace Scheduler

def exchange (s : Scheduler) (launch : Launcher ε) (job : Job) (sink : Sink) (w : World ε) :
    Exchange :=
  (s.call job sink, (launch (s.call job sink) (s.launching job sink w)).1)

/-- What passes between a job and the launcher, if the job is launched. -/
def exchange? (s : Scheduler) (launch : Launcher ε) (job : Job) (w : World ε) : Option Exchange :=
  if !s.config.interactive && s.store.holds job w.files then none
  else if s.predictor.predicts job then none
  else if s.config.interactive then some (s.exchange launch job .inherit w)
  else
    match s.store.openForWrite job w.files with
    | .ok (h, t) => some (s.exchange launch job (.file h) (w.withFiles t))
    | .error _ => none

/-- An exchange begins with the call of the job. -/
theorem map_fst_exchange? (s : Scheduler) (launch : Launcher ε) (job : Job) (w : World ε) :
    (s.exchange? launch job w).map Prod.fst = s.callOf? job w.files := by
  unfold exchange? callOf?
  split
  · rfl
  · split
    · rfl
    · split
      · rfl
      · cases s.store.openForWrite job w.files <;> rfl

section Observed

variable {α : Type} (note : Exchange → α) (notes : List α)

theorem conclude_keeping (job : Job) (result : Except LaunchError Status) (w : World ε) :
    conclude job (result, w.keeping notes) =
      ((conclude job (result, w)).1, (conclude job (result, w)).2.keeping notes) := by
  cases result <;> rfl

theorem launchTo_observed (s : Scheduler) (launch : Launcher ε) (job : Job) (sink : Sink)
    (w : World ε) :
    s.launchTo (launch.observed note) job sink (w.keeping notes) =
      ((s.launchTo launch job sink w).1,
        (s.launchTo launch job sink w).2.keeping
          (notes ++ [note (s.exchange launch job sink w)])) := by
  rw [launchTo_eq, launchTo_eq, ← conclude_keeping]
  rfl

theorem skipPredicted_keeping (s : Scheduler) (job : Job) (w : World ε) :
    s.skipPredicted job (w.keeping notes) =
      ((s.skipPredicted job w).1, (s.skipPredicted job w).2.keeping notes) := by
  have hfiles : (w.keeping notes).files = w.files := rfl
  unfold skipPredicted
  simp only [World.files_log, hfiles]
  split
  · rfl
  · cases s.store.writePlaceholder job w.files with
    | mk result t => cases result <;> rfl

/-- A launcher that takes notes takes one of the exchange with the job, and of nothing else. -/
theorem runJob_observed (s : Scheduler) (launch : Launcher ε) (job : Job) (w : World ε) :
    s.runJob (launch.observed note) job (w.keeping notes) =
      ((s.runJob launch job w).1,
        (s.runJob launch job w).2.keeping
          (notes ++ ((s.exchange? launch job w).map note).toList)) := by
  have hfiles : (w.keeping notes).files = w.files := rfl
  unfold runJob exchange?
  rw [hfiles]
  split
  · rw [Option.map_none, Option.toList_none, List.append_nil]
    rfl
  · split
    · rw [Option.map_none, Option.toList_none, List.append_nil, skipPredicted_keeping]
    · unfold launchJob
      rw [hfiles]
      split
      · rw [launchTo_observed, Option.map_some, Option.toList_some]
      · cases s.store.openForWrite job w.files with
        | error e =>
            simp only [Option.map_none, Option.toList_none, List.append_nil]
            rfl
        | ok opened =>
            have hw : (w.keeping notes).withFiles opened.2 =
                (w.withFiles opened.2).keeping notes := rfl
            simp only [hw, launchTo_observed, Option.map_some, Option.toList_some]

/-- **A launcher that takes notes takes them of the exchanges with the jobs**, one after the other. -/
theorem runJobs_observed (s : Scheduler) (launch : Launcher ε) (jobs : List Job) (w : World ε) :
    s.runJobs (launch.observed note) jobs (w.keeping notes) =
      ((s.runJobs launch jobs w).1,
        (s.runJobs launch jobs w).2.keeping
          (notes ++ (s.visitsFrom launch jobs w).filterMap fun v =>
            (s.exchange? launch v.job v.before).map note)) := by
  induction jobs generalizing w notes with
  | nil =>
      rw [visitsFrom, List.filterMap_nil, List.append_nil]
      rfl
  | cons job jobs ih =>
      have hnotes : notes ++ (s.visitsFrom launch (job :: jobs) w).filterMap (fun v =>
            (s.exchange? launch v.job v.before).map note) =
          notes ++ ((s.exchange? launch job w).map note).toList ++
            (s.visitsFrom launch jobs (s.runJob launch job w).2).filterMap fun v =>
              (s.exchange? launch v.job v.before).map note := by
        rw [visitsFrom, List.append_assoc]
        cases hx : s.exchange? launch job w <;> simp [visit, hx]
      rw [hnotes]
      simp only [runJobs, recordJob, runJob_observed, ih]
      rfl

/-- What a launcher that takes notes has noted at the end of a run. -/
theorem notes_run_observed (s : Scheduler) (launch : Launcher ε) (jobs : List Job) (w : World ε) :
    (s.run (launch.observed note) jobs (w.keeping [])).2.outer.2 =
      (s.visits launch jobs w).filterMap fun v => (s.exchange? launch v.job v.before).map note := by
  have hopening : s.opening jobs (w.keeping ([] : List α)) = (s.opening jobs w).keeping [] := rfl
  have hrun : (s.run (launch.observed note) jobs (w.keeping [])).2 =
      (s.runJobs (launch.observed note) jobs (s.opening jobs (w.keeping []))).2 := rfl
  rw [hrun, hopening, runJobs_observed]
  exact List.nil_append _

end Observed

/-- A visit of a run carries out its job in the world that it finds. -/
theorem eq_visit_of_mem_visitsFrom {s : Scheduler} {launch : Launcher ε} {jobs : List Job}
    {w : World ε} {v : Visit ε} (hv : v ∈ s.visitsFrom launch jobs w) :
    v = s.visit launch v.job v.before := by
  induction jobs generalizing w with
  | nil => exact absurd hv (by simp [visitsFrom])
  | cons job jobs ih =>
      rw [visitsFrom, List.mem_cons] at hv
      rcases hv with rfl | hv
      · rfl
      · exact ih hv

/-- The visits of a run are of its scheduler. -/
theorem scheduler_of_mem_visitsFrom {s : Scheduler} {launch : Launcher ε} {jobs : List Job}
    {w : World ε} {v : Visit ε} (hv : v ∈ s.visitsFrom launch jobs w) : v.scheduler = s := by
  rw [eq_visit_of_mem_visitsFrom hv]
  rfl

/-- The visits of a run go the ways that its launcher lets them go. -/
theorem course_of_mem_visitsFrom {s : Scheduler} {launch : Launcher ε} {jobs : List Job}
    {w : World ε} {v : Visit ε} (hv : v ∈ s.visitsFrom launch jobs w) :
    v.Course s.store launch := by
  rw [eq_visit_of_mem_visitsFrom hv]
  exact s.course launch v.job v.before

end Scheduler

/-! ### The calls of a launcher -/

namespace Scheduler

/-- The calls that the launcher gets during a run. -/
def calls (s : Scheduler) (launch : Launcher ε) (jobs : List Job) (w : World ε) : List Call :=
  (s.run (launch.observed Prod.fst) jobs (w.keeping [])).2.outer.2

/-- **The calls that a launcher gets are those of the visits.** -/
theorem calls_eq_visits (s : Scheduler) (launch : Launcher ε) (jobs : List Job) (w : World ε) :
    s.calls launch jobs w = (s.visits launch jobs w).filterMap Visit.call? := by
  rw [calls, notes_run_observed]
  refine List.filterMap_congr fun v hv => ?_
  rw [map_fst_exchange?, eq_visit_of_mem_visitsFrom hv]
  rfl

end Scheduler

/-! ### Runs in succession -/

/-- A run with all it depends on. -/
structure Run (ε : Type) where
  scheduler : Scheduler
  launch : Launcher ε
  jobs : List Job

namespace Run

def perform (r : Run ε) (w : World ε) : World ε := (r.scheduler.run r.launch r.jobs w).2

def visits (r : Run ε) (w : World ε) : List (Visit ε) := r.scheduler.visits r.launch r.jobs w

end Run

/-- The world that runs in succession leave behind. -/
def performAll (runs : List (Run ε)) (w : World ε) : World ε :=
  runs.foldl (fun w r => r.perform w) w

def history : List (Run ε) → World ε → List (Visit ε)
  | [], _ => []
  | r :: runs, w => r.visits w ++ history runs (r.perform w)

/-- Every visit of a history is of the scheduler of a run. -/
theorem scheduler_of_mem_history {runs : List (Run ε)} {w : World ε} {v : Visit ε}
    (hv : v ∈ history runs w) : ∃ r ∈ runs, v.scheduler = r.scheduler := by
  induction runs generalizing w with
  | nil => exact absurd hv (by simp [history])
  | cons r runs ih =>
      rcases List.mem_append.1 hv with hv | hv
      · exact ⟨r, List.mem_cons_self, Scheduler.scheduler_of_mem_visitsFrom hv⟩
      · obtain ⟨q, hq, he⟩ := ih hv
        exact ⟨q, List.mem_cons_of_mem r hq, he⟩

end BatchRunner
