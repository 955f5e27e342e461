/-
**Runs that show their results bypass the store.**

When results go to the console, the store is neither asked nor changed.  The calls that the launcher
gets are then told by the jobs alone, so that a launcher that goes by its calls gives the same answers
whatever the files are.

Main definitions:

* `Launcher.Heard` — what a launcher keeps once it has got given calls;
* `Launcher.AnswersBy` — what a launcher answers depends on nothing but the calls it has got;
* `Launcher.Moves` — files that change by what a launcher does in given calls, and by nothing else;
* `Scheduler.shownOutcomes` — what becomes of jobs whose results are shown, told without files.

Main results:

* `Scheduler.calls_of_shown` — a launcher is called once for every job that is not predicted to fail;
* `Scheduler.outcomes_of_shown` — **what becomes of the jobs is told by the answers of the launcher**;
* `Scheduler.moves_of_shown` — only the launcher changes files;
* `Scheduler.shown_run_bypasses_store` — **two runs that show their results go the same way, whatever
  the files are**.
-/
import BatchRunner.Proofs.Rehearsal
import BatchRunner.Proofs.Scheduler.History

set_option autoImplicit false

namespace BatchRunner

variable {ε : Type} {launch : Launcher ε} {start : ε} {calls : List Call}
  {answer : List Call → Except LaunchError Status} {t t' : FileTree}

namespace Launcher

/-! ### Launchers that go by their calls -/

/-- What a launcher keeps once it has got the given calls.  Between two of them anything may happen to
files, console and clock. -/
inductive Heard (launch : Launcher ε) (start : ε) : List Call → ε → Prop where
  | nothing : Heard launch start [] start
  | next {calls : List Call} {w : World ε} (before : Heard launch start calls w.outer)
      (call : Call) : Heard launch start (calls ++ [call]) (launch call w).2.outer

/-- **What a launcher answers depends on nothing but the calls it has got so far**, the last of which
it answers. -/
def AnswersBy (launch : Launcher ε) (start : ε)
    (answer : List Call → Except LaunchError Status) : Prop :=
  ∀ calls call w, launch.Heard start calls w.outer → (launch call w).1 = answer (calls ++ [call])

/-- Files that change by what a launcher does in the given calls, and by nothing else: each call finds
what the one before it left behind. -/
inductive Moves (launch : Launcher ε) : List Call → FileTree → FileTree → Prop where
  | stay (t : FileTree) : Moves launch [] t t
  | step {call : Call} {calls : List Call} {w : World ε} {t' : FileTree}
      (rest : Moves launch calls (launch call w).2.files t') : Moves launch (call :: calls) w.files t'

/-- A launcher that leaves all files as they are moves nothing. -/
theorem Moves.eq_of_spared (h : launch.Moves calls t t')
    (hspared : ∀ call ∈ calls, ∀ w : World ε, (launch call w).2.files = w.files) : t' = t := by
  induction h with
  | stay t => rfl
  | step rest ih =>
      rw [ih fun call hcall => hspared call (List.mem_cons_of_mem _ hcall)]
      exact hspared _ List.mem_cons_self _

end Launcher

namespace Scheduler

variable {s : Scheduler} {job : Job} {jobs : List Job} {w : World ε}

/-! ### One job -/

/-- What becomes of jobs whose results are shown, if the launcher answers by its calls and has got the
given ones before. -/
def shownOutcomes (s : Scheduler) (answer : List Call → Except LaunchError Status) :
    List Call → List Job → List Outcome
  | _, [] => []
  | calls, job :: jobs =>
      if s.predictor.predicts job then .skippedPredicted :: s.shownOutcomes answer calls jobs
      else
        let calls := calls ++ [s.call job .inherit]
        outcomeOf (answer calls) :: s.shownOutcomes answer calls jobs

theorem callOf?_of_shown (hshown : s.config.interactive = true) (job : Job) (t : FileTree) :
    s.callOf? job t = if s.predictor.predicts job then none else some (s.call job .inherit) := by
  simp [callOf?, hshown]

/-- A job that is predicted to fail is passed over. -/
theorem runJob_of_waived (launch : Launcher ε) (w : World ε) (hshown : s.config.interactive = true)
    (hflag : s.predictor.predicts job = true) :
    s.runJob launch job w =
      (.skippedPredicted, w.log (jobEvent .info job "predicted unscalable. skip this." [])) := by
  simp [runJob, skipPredicted, hshown, hflag]

theorem outer_conclude (job : Job) (result : Except LaunchError Status × World ε) :
    (conclude job result).2.outer = result.2.outer := by
  obtain ⟨result, w⟩ := result
  cases result <;> rfl

/-! ### All jobs -/

/-- **A launcher is called once for every job that is not predicted to fail**, and for no other. -/
theorem calls_of_shown (hshown : s.config.interactive = true) (launch : Launcher ε)
    (jobs : List Job) (w : World ε) :
    (s.visitsFrom launch jobs w).filterMap Visit.call? =
      (jobs.filter fun job => !s.predictor.predicts job).map fun job => s.call job .inherit := by
  induction jobs generalizing w with
  | nil => rfl
  | cons job jobs ih =>
      rw [visitsFrom, List.filterMap_cons, ih]
      simp only [visit, callOf?_of_shown hshown]
      cases hflag : s.predictor.predicts job <;> simp [hflag]

/-- **What becomes of the jobs is told by the answers of the launcher**, whatever the files are. -/
theorem outcomes_of_shown (hshown : s.config.interactive = true)
    (hanswer : launch.AnswersBy start answer) (jobs : List Job) {w : World ε}
    (hheard : launch.Heard start calls w.outer) :
    (s.visitsFrom launch jobs w).map Visit.outcome = s.shownOutcomes answer calls jobs := by
  induction jobs generalizing w calls with
  | nil => rfl
  | cons job jobs ih =>
      rw [visitsFrom, List.map_cons, shownOutcomes]
      cases hflag : s.predictor.predicts job with
      | true =>
          have hrun := runJob_of_waived launch w hshown hflag
          have hkept : launch.Heard start calls (s.visit launch job w).after.outer := by
            simpa [visit, hrun] using hheard
          rw [if_pos rfl, ih hkept]
          simp [visit, hrun]
      | false =>
          have hrun := runJob_of_shown launch w hshown hflag
          have houtcome : (s.visit launch job w).outcome =
              outcomeOf (answer (calls ++ [s.call job .inherit])) := by
            simp only [visit, hrun, conclude_fst]
            rw [hanswer calls _ (s.launching job .inherit w) hheard]
          have hnext : launch.Heard start (calls ++ [s.call job .inherit])
              (s.visit launch job w).after.outer := by
            simp only [visit, hrun, outer_conclude]
            exact .next (w := s.launching job .inherit w) hheard _
          rw [houtcome, ih hnext]
          rfl

/-- Only the launcher changes files. -/
theorem moves_of_shown (hshown : s.config.interactive = true) (launch : Launcher ε)
    (jobs : List Job) (w : World ε) :
    launch.Moves ((s.visitsFrom launch jobs w).filterMap Visit.call?) w.files
      (worldAfter w (s.visitsFrom launch jobs w)).files := by
  induction jobs generalizing w with
  | nil => exact .stay w.files
  | cons job jobs ih =>
      have hrest := ih (s.visit launch job w).after
      rw [visitsFrom, worldAfter_cons, List.filterMap_cons]
      simp only [visit, callOf?_of_shown hshown] at hrest ⊢
      cases hflag : s.predictor.predicts job with
      | true =>
          rw [runJob_of_waived launch w hshown hflag] at hrest ⊢
          exact hrest
      | false =>
          rw [runJob_of_shown launch w hshown hflag] at hrest ⊢
          rw [files_conclude] at hrest
          exact .step (w := s.launching job .inherit w) hrest

/-- A visit finds a result only if results go into the store. -/
theorem not_cached_of_shown {v : Visit ε} {store : Store} (hcourse : v.Course store launch)
    (hshown : v.scheduler.config.interactive = true) : v.outcome ≠ .skippedCached := by
  intro hcached
  cases hcourse with
  | cached batch => exact absurd (hshown.symm.trans batch) Bool.noConfusion
  | waived _ _ _ outcome | settled _ _ _ _ outcome | unopened _ _ _ _ _ _ outcome =>
      exact Outcome.noConfusion (outcome.symm.trans hcached)
  | shown _ _ _ _ _ outcome | launched _ _ _ _ _ _ _ outcome =>
      exact (outcomeOf_not_skipped _).1 (outcome.symm.trans hcached)

/-- **Two runs that show their results go the same way, whatever the files are.**  The launcher, which
goes by the calls it gets, gets one call for every job that is not predicted to fail, with its output
left on the console; what becomes of the jobs is told by its answers, no result is found, and no file
changes but by what the launcher does in these calls. -/
theorem shown_run_bypasses_store (hshown : s.config.interactive = true)
    (hanswer : launch.AnswersBy start answer) (jobs : List Job) (w w' : World ε)
    (hw : w.outer = start) (hw' : w'.outer = start) :
    (s.calls launch jobs w =
        (jobs.filter fun job => !s.predictor.predicts job).map fun job => s.call job .inherit) ∧
    s.calls launch jobs w' = s.calls launch jobs w ∧
    (s.run launch jobs w).1.records.map Record.outcome = s.shownOutcomes answer [] jobs ∧
    (s.run launch jobs w').1.records.map Record.outcome =
      (s.run launch jobs w).1.records.map Record.outcome ∧
    (∀ x ∈ (s.run launch jobs w).1.records, x.outcome ≠ .skippedCached) ∧
    launch.Moves (s.calls launch jobs w) w.files (s.run launch jobs w).2.files ∧
    ((∀ call ∈ s.calls launch jobs w, ∀ w₀ : World ε, (launch call w₀).2.files = w₀.files) →
      (s.run launch jobs w).2.files = w.files) := by
  have hcalls : ∀ w : World ε, s.calls launch jobs w =
      (jobs.filter fun job => !s.predictor.predicts job).map fun job => s.call job .inherit := by
    intro w
    rw [calls_eq_visits]
    exact calls_of_shown hshown launch jobs _
  have houtcomes : ∀ w : World ε, w.outer = start →
      (s.run launch jobs w).1.records.map Record.outcome = s.shownOutcomes answer [] jobs := by
    intro w hw
    have hheard : launch.Heard start [] (s.opening jobs w).outer := hw ▸ .nothing
    rw [(s.run_eq_visits launch jobs w).1, List.map_map]
    exact outcomes_of_shown hshown hanswer jobs hheard
  have hmoves : launch.Moves (s.calls launch jobs w) w.files (s.run launch jobs w).2.files := by
    rw [calls_eq_visits, (s.run_eq_visits launch jobs w).2]
    exact moves_of_shown hshown launch jobs (s.opening jobs w)
  refine ⟨hcalls w, (hcalls w').trans (hcalls w).symm, houtcomes w hw,
    (houtcomes w' hw').trans (houtcomes w hw).symm, fun x hx => ?_, hmoves, hmoves.eq_of_spared⟩
  rw [(s.run_eq_visits launch jobs w).1, List.mem_map] at hx
  obtain ⟨v, hv, rfl⟩ := hx
  refine not_cached_of_shown (course_of_mem_visitsFrom hv) ?_
  rw [scheduler_of_mem_visitsFrom hv]
  exact hshown

end Scheduler

namespace Rehearsal

/-- A launcher that loses patience as soon as it gets a call for the second time. -/
def wary : Launcher (List Call) := fun call w =>
  let calls := w.outer ++ [call]
  (.ok (if calls.Nodup then .completed else .timedOut), { w with outer := calls })

theorem wary_answersBy :
    wary.AnswersBy [] fun calls => .ok (if calls.Nodup then .completed else .timedOut) := by
  have hkept : ∀ calls e, wary.Heard [] calls e → e = calls := by
    intro calls e h
    induction h with
    | nothing => rfl
    | next before call ih => simp [wary, ih]
  intro calls call w h
  simp [wary, hkept calls _ h]

/-- A scheduler that shows results, by tables that list one program. -/
def showingScheduler : Scheduler :=
  ⟨{ Config.standard with interactive := true },
    ⟨.default, Exclusion.Tables.listing [(.insens, [.bloat])]⟩⟩

/-- A world in which another program has a result. -/
def furnished : World (List Call) :=
  begin [(Store.artifactName antlr, .file 0)] [⟨0o644, bytesOf "done", 0⟩]

theorem holds_furnished : Store.holds ⟨"output"⟩ antlr furnished.files = true := by
  have hlook := lookup_stage antlr [(Store.artifactName antlr, .file 0)]
    [⟨0o644, bytesOf "done", 0⟩]
  rw [Entries.get?, if_pos rfl] at hlook
  exact Store.holds_iff.2 ⟨bytesOf "done", by decide +kernel, Store.slot_of_file hlook⟩

/-- A job that has a result is run all the same, and twice if it comes twice. -/
theorem result_not_asked_for :
    Store.holds ⟨"output"⟩ antlr furnished.files = true ∧
      showingScheduler.calls wary [antlr, bloat, antlr] furnished =
        [showingScheduler.call antlr .inherit, showingScheduler.call antlr .inherit] ∧
      (showingScheduler.run wary [antlr, bloat, antlr] furnished).1.records.map Record.outcome =
        (showingScheduler.run wary [antlr, bloat, antlr] (begin [] [])).1.records.map Record.outcome ∧
      (showingScheduler.run wary [antlr, bloat, antlr] (begin [] [])).1.records.map Record.outcome =
        [.completed, .skippedPredicted, .timedOut] ∧
      (showingScheduler.run wary [antlr, bloat, antlr] (begin [] [])).2.files = stage [] [] := by
  obtain ⟨hcalls, hsame, houtcomes, hequal, -, -, hfiles⟩ :=
    Scheduler.shown_run_bypasses_store (s := showingScheduler) rfl wary_answersBy [antlr, bloat, antlr]
      (begin [] []) furnished rfl rfl
  refine ⟨holds_furnished, ?_, hequal, houtcomes.trans (by decide), hfiles fun _ _ _ => rfl⟩
  rw [hsame, hcalls]
  decide

end Rehearsal

end BatchRunner
