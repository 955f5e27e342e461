/-
**A report accounts for every job and for every call.**

Of a run there are the records of its report, what the launcher was asked and answered, and the
artifacts that could not be opened.  What became of a job that was not skipped goes back to exactly one
answer or to exactly one such artifact, so that the counts of the report are counts of these.

Main definitions:

* `Counts.total` — how many jobs were counted;
* `Visit.openError?` — why the artifact of a job could not be opened, if it could not;
* `Visit.Account` — what the outcome of a visit goes back to;
* `Scheduler.exchanges`, `Scheduler.transcript` — what a launcher notes of its calls and its answers,
  during one job and during a run;
* `Scheduler.Accounts` — a report accounts for the jobs, the answers and the artifacts of a run.

Main results:

* `Report.counts_eq` — the counts of a report are those of the outcomes in it;
* `Scheduler.account` — every outcome goes back to an answer, to an artifact or to neither;
* `Scheduler.countP_outcome` — outcomes are counted by answers and artifacts;
* `Scheduler.report_accounts` — **the report of a run accounts for it**.
-/
import BatchRunner.Proofs.Scheduler.Chronicle
import Mathlib.Data.List.Forall2

set_option autoImplicit false

namespace BatchRunner

variable {ε : Type}

/-! ### Counting outcomes -/

namespace Counts

def total (c : Counts) : Nat := c.cached + c.predicted + c.completed + c.timedOut + c.launchFailed

theorem total_add (c : Counts) (o : Outcome) : (c.add o).total = c.total + 1 := by
  cases o <;> simp only [add, total] <;> omega

theorem total_foldl_add (xs : List Record) (c : Counts) :
    (xs.foldl (fun c x => c.add x.outcome) c).total = c.total + xs.length := by
  induction xs generalizing c with
  | nil => rfl
  | cons x xs ih =>
      rw [List.foldl_cons, ih, total_add, List.length_cons]
      omega

theorem foldl_add_eq (xs : List Record) (c : Counts) :
    xs.foldl (fun c x => c.add x.outcome) c =
      { cached := c.cached + xs.countP fun x => x.outcome = .skippedCached
        predicted := c.predicted + xs.countP fun x => x.outcome = .skippedPredicted
        completed := c.completed + xs.countP fun x => x.outcome = .completed
        timedOut := c.timedOut + xs.countP fun x => x.outcome = .timedOut
        launchFailed := c.launchFailed + xs.countP fun x => x.outcome.reason?.isSome } := by
  induction xs generalizing c with
  | nil => rfl
  | cons x xs ih =>
      rw [List.foldl_cons, ih]
      cases hx : x.outcome <;>
        simp [add, hx, Outcome.reason?, Nat.add_assoc, Nat.add_comm 1]

end Counts

namespace Report

/-- **The counts of a report are those of the outcomes in it.** -/
theorem counts_eq (r : Report) :
    r.counts =
      { cached := r.records.countP fun x => x.outcome = .skippedCached
        predicted := r.records.countP fun x => x.outcome = .skippedPredicted
        completed := r.records.countP fun x => x.outcome = .completed
        timedOut := r.records.countP fun x => x.outcome = .timedOut
        launchFailed := r.records.countP fun x => x.outcome.reason?.isSome } := by
  rw [counts, Counts.foldl_add_eq]
  simp [Counts.zero]

theorem launchedCount_eq (r : Report) :
    r.launchedCount = r.counts.completed + r.counts.timedOut := by
  rw [counts_eq, launchedCount, ← List.countP_eq_length_filter]
  induction r.records with
  | nil => rfl
  | cons x xs ih =>
      simp only [List.countP_cons, ih]
      cases x.outcome <;> simp [Outcome.launched] <;> omega

end Report

/-! ### What an outcome goes back to -/

/-- Why the artifact of a job that was to be launched could not be opened, if it could not. -/
def Visit.openError? (v : Visit ε) : Option StoreError :=
  if v.scheduler.config.interactive || v.scheduler.store.holds v.job v.before.files
      || v.scheduler.predictor.predicts v.job then none
  else
    match v.scheduler.store.openForWrite v.job v.before.files with
    | .ok _ => none
    | .error e => some e

/-- What the outcome of a visit goes back to. -/
inductive Visit.Account (launch : Launcher ε) (v : Visit ε) : Prop where
  /-- Neither was the launcher called nor an artifact opened. -/
  | skipped (silent : v.scheduler.exchange? launch v.job v.before = none)
      (untried : v.openError? = none)
      (outcome : v.outcome = .skippedCached ∨ v.outcome = .skippedPredicted)
  /-- The artifact could not be opened. -/
  | unopened (e : StoreError) (silent : v.scheduler.exchange? launch v.job v.before = none)
      (failed : v.openError? = some e) (outcome : v.outcome = .launchFailed e.message)
  /-- The launcher answered. -/
  | answered (x : Exchange) (exchanged : v.scheduler.exchange? launch v.job v.before = some x)
      (opened : v.openError? = none) (outcome : v.outcome = Scheduler.outcomeOf x.2)

namespace Scheduler

variable {s : Scheduler} {launch : Launcher ε} {vs : List (Visit ε)}

/-- **Every outcome goes back to an answer, to an artifact or to neither.** -/
theorem account (s : Scheduler) (launch : Launcher ε) (job : Job) (w : World ε) :
    (s.visit launch job w).Account launch := by
  have hcourse := s.course launch job w
  cases hcourse with
  | cached batch held _ outcome =>
      simp only [visit] at batch held
      exact .skipped (by simp [visit, exchange?, batch, held]) (by simp [visit, Visit.openError?, held])
        (.inl outcome)
  | waived shown flagged _ outcome =>
      simp only [visit] at shown flagged
      exact .skipped (by simp [visit, exchange?, flagged])
        (by simp [visit, Visit.openError?, flagged]) (.inr outcome)
  | settled _ _ flagged _ outcome =>
      simp only [visit] at flagged
      exact .skipped (by simp [visit, exchange?, flagged])
        (by simp [visit, Visit.openError?, flagged]) (.inr outcome)
  | unopened batch fresh unflagged e failed _ outcome =>
      simp only [visit] at batch fresh unflagged failed
      exact .unopened e (by simp [visit, exchange?, batch, fresh, unflagged, failed])
        (by simp [visit, Visit.openError?, batch, fresh, unflagged, failed]) outcome
  | shown shown unflagged =>
      simp only [visit] at shown unflagged
      refine .answered (s.exchange launch job .inherit w)
        (by simp [visit, exchange?, shown, unflagged]) (by simp [visit, Visit.openError?, shown]) ?_
      simp only [visit, runJob_of_shown launch w shown unflagged, conclude_fst]
      rfl
  | launched batch fresh unflagged h w₀ opened =>
      simp only [visit] at batch fresh unflagged opened
      refine .answered (s.exchange launch job (.file h) (w.withFiles w₀.files))
        (by simp [visit, exchange?, batch, fresh, unflagged, opened])
        (by simp [visit, Visit.openError?, opened]) ?_
      simp only [visit, runJob_of_opened launch w batch fresh unflagged opened, conclude_fst]
      rfl

/-- **Outcomes are counted by answers and artifacts**, if those of jobs that were skipped do not
count. -/
theorem countP_outcome {p : Outcome → Bool} (hcached : p .skippedCached = false)
    (hpredicted : p .skippedPredicted = false) (hvs : ∀ v ∈ vs, v.Account launch) :
    (vs.countP fun v => p v.outcome) =
      ((vs.filterMap fun v => v.scheduler.exchange? launch v.job v.before).countP fun x =>
        p (outcomeOf x.2)) +
      (vs.filterMap Visit.openError?).countP fun e => p (.launchFailed e.message) := by
  induction vs with
  | nil => rfl
  | cons v vs ih =>
      have hrest := ih fun u hu => hvs u (List.mem_cons_of_mem v hu)
      rw [List.countP_cons, hrest]
      cases hvs v List.mem_cons_self with
      | skipped silent untried outcome =>
          have hout : p v.outcome = false := by
            rcases outcome with h | h <;> rw [h] <;> assumption
          simp [silent, untried, hout]
      | unopened e silent failed outcome =>
          simp only [List.filterMap_cons, silent, failed, outcome, List.countP_cons]
          omega
      | answered x exchanged opened outcome =>
          simp only [List.filterMap_cons, exchanged, opened, outcome, List.countP_cons]
          omega

/-! ### What a launcher notes -/

/-- What a launcher notes of its calls and its answers while one job is carried out. -/
def exchanges (s : Scheduler) (launch : Launcher ε) (job : Job) (w : World ε) : List Exchange :=
  (s.runJob (launch.observed id) job (w.keeping [])).2.outer.2

/-- What a launcher notes of its calls and its answers during a run. -/
def transcript (s : Scheduler) (launch : Launcher ε) (jobs : List Job) (w : World ε) :
    List Exchange :=
  (s.run (launch.observed id) jobs (w.keeping [])).2.outer.2

theorem exchanges_eq (s : Scheduler) (launch : Launcher ε) (job : Job) (w : World ε) :
    s.exchanges launch job w = (s.exchange? launch job w).toList := by
  rw [exchanges, runJob_observed, Option.map_id]
  rfl

theorem transcript_eq (s : Scheduler) (launch : Launcher ε) (jobs : List Job) (w : World ε) :
    s.transcript launch jobs w =
      (s.visits launch jobs w).filterMap fun v => s.exchange? launch v.job v.before := by
  rw [transcript, notes_run_observed]
  simp only [Option.map_id_fun, id]

/-- What a launcher is asked during a run are its calls. -/
theorem map_fst_transcript (s : Scheduler) (launch : Launcher ε) (jobs : List Job) (w : World ε) :
    (s.transcript launch jobs w).map Prod.fst = s.calls launch jobs w := by
  rw [calls_eq_visits, transcript_eq, List.map_filterMap]
  refine List.filterMap_congr fun v hv => ?_
  rw [map_fst_exchange?, eq_visit_of_mem_visitsFrom hv]
  rfl

/-- A launcher that takes notes answers as before. -/
theorem report_observed {α : Type} (s : Scheduler) (launch : Launcher ε) (note : Exchange → α)
    (jobs : List Job) (w : World ε) :
    (s.run (launch.observed note) jobs (w.keeping [])).1 = (s.run launch jobs w).1 := by
  have hopening : s.opening jobs (w.keeping ([] : List α)) = (s.opening jobs w).keeping [] := rfl
  have hrun : ∀ {δ : Type} (l : Launcher δ) (w : World δ), (s.run l jobs w).1 =
      ⟨.ofMillis w.clock, .ofMillis (s.runJobs l jobs (s.opening jobs w)).2.clock,
        (s.runJobs l jobs (s.opening jobs w)).1⟩ := fun _ _ => rfl
  rw [hrun, hrun, hopening, runJobs_observed]
  rfl

/-- What a launcher answers during a run. -/
def answers (s : Scheduler) (launch : Launcher ε) (jobs : List Job) (w : World ε) :
    List (Except LaunchError Status) :=
  (s.transcript launch jobs w).map Prod.snd

/-- Why artifacts could not be opened during a run. -/
def openErrors (s : Scheduler) (launch : Launcher ε) (jobs : List Job) (w : World ε) :
    List StoreError :=
  (s.visits launch jobs w).filterMap Visit.openError?

/-- The records of a run are counted by what the launcher answered and by the artifacts that could not
be opened. -/
theorem countP_records {p : Outcome → Bool} (hcached : p .skippedCached = false)
    (hpredicted : p .skippedPredicted = false) (s : Scheduler) (launch : Launcher ε)
    (jobs : List Job) (w : World ε) :
    ((s.run launch jobs w).1.records.countP fun x => p x.outcome) =
      ((s.answers launch jobs w).countP fun a => p (outcomeOf a)) +
        (s.openErrors launch jobs w).countP fun e => p (.launchFailed e.message) := by
  have haccount : ∀ v ∈ s.visits launch jobs w, v.Account launch := by
    intro v hv
    rw [eq_visit_of_mem_visitsFrom hv]
    exact s.account launch v.job v.before
  have hexchanged : s.transcript launch jobs w = (s.visits launch jobs w).filterMap fun v =>
      v.scheduler.exchange? launch v.job v.before := by
    rw [transcript_eq]
    refine List.filterMap_congr fun v hv => ?_
    rw [scheduler_of_mem_visitsFrom hv]
  rw [(s.run_eq_visits launch jobs w).1, List.countP_map, answers, List.countP_map, hexchanged]
  exact countP_outcome hcached hpredicted haccount

theorem launched_outcomeOf (a : Except LaunchError Status) : (outcomeOf a).launched = a.isOk := by
  rcases a with e | status
  · rfl
  · cases status <;> rfl

theorem isSome_reason?_outcomeOf (a : Except LaunchError Status) :
    (outcomeOf a).reason?.isSome = !a.isOk := by
  rcases a with e | status
  · rfl
  · cases status <;> rfl

theorem outcomeOf_eq_ofStatus_iff {a : Except LaunchError Status} {status : Status} :
    outcomeOf a = .ofStatus status ↔ a = .ok status := by
  rcases a with e | status'
  · cases status <;> simp [outcomeOf, Outcome.ofStatus]
  · cases status <;> cases status' <;> simp [outcomeOf, Outcome.ofStatus]

/-- As many jobs ended in a way as the launcher gave that for an answer. -/
theorem countP_ofStatus (s : Scheduler) (launch : Launcher ε) (status : Status) (jobs : List Job)
    (w : World ε) :
    ((s.run launch jobs w).1.records.countP fun x => x.outcome = .ofStatus status) =
      (s.answers launch jobs w).count (.ok status) := by
  have hcached : decide (Outcome.skippedCached = .ofStatus status) = false := by
    cases status <;> rfl
  have hpredicted : decide (Outcome.skippedPredicted = .ofStatus status) = false := by
    cases status <;> rfl
  have hfailed : ∀ reason, decide (Outcome.launchFailed reason = .ofStatus status) = false := by
    intro reason
    cases status <;> rfl
  rw [countP_records (p := fun o => o = .ofStatus status) hcached hpredicted, List.count]
  simp only [hfailed, outcomeOf_eq_ofStatus_iff, List.countP_false]
  rfl

/-! ### The account of a run -/

/-- **A report accounts for the jobs of a run, for what the launcher answered and for the artifacts
that could not be opened.** -/
structure Accounts (s : Scheduler) (launch : Launcher ε) (jobs : List Job) (w : World ε)
    (r : Report) : Prop where
  /-- There is one record for every job, in their order. -/
  jobs_eq : r.records.map (fun x => (x.job, x.artifact)) =
    jobs.map fun job => (job, s.store.artifact job)
  total_eq : r.counts.total = jobs.length
  /-- A launcher that takes notes makes no difference, and what it notes are its calls. -/
  noted : (s.run (launch.observed id) jobs (w.keeping [])).1 = r ∧
    (s.transcript launch jobs w).map Prod.fst = s.calls launch jobs w
  launched_eq : r.launchedCount = r.counts.completed + r.counts.timedOut ∧
    r.launchedCount = (s.answers launch jobs w).countP Except.isOk
  completed_eq : r.counts.completed = (s.answers launch jobs w).count (.ok .completed)
  timedOut_eq : r.counts.timedOut = (s.answers launch jobs w).count (.ok .timedOut)
  failed_eq : r.counts.launchFailed =
    ((s.answers launch jobs w).countP fun a => !a.isOk) + (s.openErrors launch jobs w).length
  /-- What is noted during the run is what is noted of each job, one after the other. -/
  transcript_eq : s.transcript launch jobs w =
    (s.visits launch jobs w).flatMap fun v => s.exchanges launch v.job v.before
  /-- A record of a failed launch carries the text of the error that its job met. -/
  reasons : List.Forall₂ (fun v x => x.job = v.job ∧ ∀ reason,
      x.outcome = .launchFailed reason ↔
        (∃ call e, s.exchanges launch v.job v.before = [(call, .error e)] ∧ reason = e.message) ∨
          ∃ e, v.openError? = some e ∧ reason = e.message)
    (s.visits launch jobs w) r.records

/-- A job has a failed launch on record exactly if it met an error, and then with the text of it. -/
theorem launchFailed_iff (s : Scheduler) (launch : Launcher ε) (job : Job) (w : World ε)
    (reason : String) :
    (s.visit launch job w).outcome = .launchFailed reason ↔
      (∃ call e, s.exchanges launch job w = [(call, .error e)] ∧ reason = e.message) ∨
        ∃ e, (s.visit launch job w).openError? = some e ∧ reason = e.message := by
  rw [exchanges_eq]
  have haccount := s.account launch job w
  cases haccount with
  | skipped silent untried outcome =>
      have hsilent : s.exchange? launch job w = none := silent
      rcases outcome with outcome | outcome <;> simp [hsilent, untried, outcome]
  | unopened e silent failed outcome =>
      have hsilent : s.exchange? launch job w = none := silent
      simp [hsilent, failed, outcome, eq_comm]
  | answered x exchanged opened outcome =>
      have hexchanged : s.exchange? launch job w = some x := exchanged
      obtain ⟨call, answer⟩ := x
      rw [hexchanged, opened, outcome]
      cases answer with
      | error e => simp [outcomeOf, eq_comm]
      | ok status => cases status <;> simp [outcomeOf, Outcome.ofStatus]

/-- **The report of a run accounts for it**, whatever the files, the jobs and the launcher are. -/
theorem report_accounts (s : Scheduler) (launch : Launcher ε) (jobs : List Job) (w : World ε) :
    s.Accounts launch jobs w (s.run launch jobs w).1 where
  jobs_eq := by
    have hjobs := s.map_job_visitsFrom launch jobs (s.opening jobs w)
    rw [(s.run_eq_visits launch jobs w).1, List.map_map]
    conv_rhs => rw [← hjobs, List.map_map]
    refine List.map_congr_left fun v hv => ?_
    simp only [Function.comp_apply, Visit.record, scheduler_of_mem_visitsFrom hv]
  total_eq := by
    rw [Report.counts, Counts.total_foldl_add, (s.run_eq_visits launch jobs w).1, List.length_map]
    have hjobs := congrArg List.length (s.map_job_visitsFrom launch jobs (s.opening jobs w))
    rw [List.length_map] at hjobs
    rw [visits, hjobs]
    exact Nat.zero_add _
  noted := ⟨s.report_observed launch id jobs w, s.map_fst_transcript launch jobs w⟩
  launched_eq := by
    refine ⟨Report.launchedCount_eq _, ?_⟩
    rw [Report.launchedCount, ← List.countP_eq_length_filter,
      countP_records (p := Outcome.launched) rfl rfl]
    have hfailed : ∀ e : StoreError, (Outcome.launchFailed e.message).launched = false :=
      fun _ => rfl
    simp only [launched_outcomeOf, hfailed, List.countP_false]
    rfl
  completed_eq := by
    rw [Report.counts_eq]
    exact s.countP_ofStatus launch .completed jobs w
  timedOut_eq := by
    rw [Report.counts_eq]
    exact s.countP_ofStatus launch .timedOut jobs w
  failed_eq := by
    rw [Report.counts_eq, countP_records (p := fun o => o.reason?.isSome) rfl rfl]
    have hfailed : ∀ e : StoreError, (Outcome.launchFailed e.message).reason?.isSome = true :=
      fun _ => rfl
    simp only [isSome_reason?_outcomeOf, hfailed, List.countP_true]
  transcript_eq := by
    rw [transcript_eq, List.filterMap_eq_flatMap_toList]
    simp only [exchanges_eq]
  reasons := by
    rw [(s.run_eq_visits launch jobs w).1, List.forall₂_map_right_iff, List.forall₂_same]
    intro v hv
    refine ⟨rfl, fun reason => ?_⟩
    rw [eq_visit_of_mem_visitsFrom hv]
    exact s.launchFailed_iff launch v.job v.before reason

end Scheduler

end BatchRunner
