/-
**Results are kept and found again.**

A job whose artifact has contents is not run again, and its artifact never changes.  What a run
leaves behind decides what the next one does: which jobs are skipped, and for which the launcher is
called.  An artifact belongs to a variant and a program; the context mode has no part in its name,
so a result that was computed in one mode is found in the other.

Main definitions:

* `Visit.Productive` — a visit left a result wherever it set out to leave one.

Main results:

* `results_never_overwritten` — **no result changes in the course of runs in succession**;
* `Scheduler.rerun_exact` — **what a second run of the same jobs skips and launches**;
* `cached_of_earlier_visit` — **a result that is found was left by an earlier visit of the job**;
* `Rehearsal.cached_across_modes` — that visit may have been in the other mode.
-/
import BatchRunner.Proofs.Rehearsal

set_option autoImplicit false

namespace BatchRunner

variable {ε : Type} {s : Store} {runs : List (Run ε)} {w : World ε} {u v : Visit ε}
  {past future : List (Visit ε)} {job : Job} {b : Bytes}

/-! ### Results stay -/

/-- **No result changes in the course of runs in succession**, whatever becomes of their jobs: an
artifact that has contents before a visit has them after that visit and after every later one. -/
theorem results_never_overwritten (hruns : ∀ r ∈ runs, r.On s) (hlinks : s.Linkless w.files)
    (hv : history runs w = past ++ v :: future) (hu : u ∈ v :: future) (hb : b ≠ [])
    (hs : s.slot job v.before.files = .file b) : s.slot job u.after.files = .file b := by
  have hall := chronicle_history hruns w
  rw [hv] at hall
  obtain ⟨hpast, hon, hfuture⟩ := hall.split
  obtain ⟨between, rest, hsplit⟩ := List.append_of_mem hu
  have hfrom := Chronicle.cons hon hfuture
  rw [hsplit] at hfrom
  -- from the visit on up to the later one, and through that one
  obtain ⟨hbetween, hlater, -⟩ := hfrom.split
  have hstart := hpast.linkless hlinks
  exact hlater.slot_kept (hbetween.linkless hstart) hb (hbetween.slot_kept hstart hb hs)

/-- The result of one job survives two runs whose engine cannot be started, the second of them in the
other mode. -/
theorem Rehearsal.finished_result_survives :
    (history [batch .default .nothing failing [bloat, antlr], batch .empty .nothing failing [antlr]]
      (begin [(Store.artifactName antlr, .file 0)] [⟨0o644, bytesOf "done", 0⟩])).map Visit.job
        = [bloat, antlr, antlr] ∧
    ∀ u ∈ history [batch .default .nothing failing [bloat, antlr],
        batch .empty .nothing failing [antlr]]
        (begin [(Store.artifactName antlr, .file 0)] [⟨0o644, bytesOf "done", 0⟩]),
      Store.slot ⟨"output"⟩ antlr u.after.files = .file (bytesOf "done") := by
  have hlinks : Store.Linkless ⟨"output"⟩
      (begin [(Store.artifactName antlr, .file 0)] [⟨0o644, bytesOf "done", 0⟩]).files := by
    refine linkless_stage (fun n target => ?_) _
    simp only [Entries.get?]
    split <;> simp
  have hlook := lookup_stage antlr [(Store.artifactName antlr, .file 0)]
    [⟨0o644, bytesOf "done", 0⟩]
  rw [Entries.get?, if_pos rfl] at hlook
  have hruns : ∀ r ∈ [batch .default .nothing failing [bloat, antlr],
      batch .empty .nothing failing [antlr]], r.On ⟨"output"⟩ := by
    simp [on_batch]
  refine ⟨rfl, fun u hu => ?_⟩
  exact results_never_overwritten hruns hlinks (List.nil_append _).symm hu
    (by decide +kernel) (Store.slot_of_file hlook)

/-! ### A second run -/

/-- A visit left a result wherever it set out to leave one: the launcher has written something, the
placeholder has been written, and the artifact could be opened. -/
structure Visit.Productive (v : Visit ε) : Prop where
  launched : v.call? ≠ none → ∃ b, b ≠ [] ∧ v.scheduler.store.slot v.job v.after.files = .file b
  predicted : v.outcome = .skippedPredicted → v.GavePlaceholder
  opened : v.call? = none → ∀ reason, v.outcome ≠ .launchFailed reason

theorem Visit.On.slot_of_productive (hv : v.On s) (hl : s.Linkless v.before.files)
    (hbatch : v.scheduler.config.interactive = false) (hp : v.Productive) :
    ∃ b, b ≠ [] ∧ s.slot v.job v.after.files = .file b := by
  obtain ⟨launch, -, hc⟩ := hv.course
  have hlaunched := hp.launched
  rw [hv.store] at hlaunched
  cases hc with
  | cached _ held _ _ files =>
      rw [files]
      exact Store.holds_iff.1 held
  | waived shown => exact absurd (shown.symm.trans hbatch) Bool.noConfusion
  | settled _ _ _ _ outcome =>
      have hsettles := hv.settles hl (hp.predicted outcome)
      exact ⟨_, by decide +kernel, hsettles.slot_after⟩
  | unopened _ _ _ _ _ call outcome => exact absurd outcome (hp.opened call _)
  | shown _ _ _ _ call | launched _ _ _ _ _ _ call => exact hlaunched (by simp [call])

/-- A visit that gave the placeholder left a result. -/
theorem Visit.On.productive_of_gavePlaceholder (hv : v.On s) (hl : s.Linkless v.before.files)
    (hflag : v.scheduler.predictor.predicts v.job = true) (hgave : v.GavePlaceholder) :
    v.Productive where
  launched hcall := by
    have hunflagged := (hv.of_call hl hgave.1 hcall).1
    exact absurd (hflag.symm.trans hunflagged) Bool.noConfusion
  predicted _ := hgave
  opened _ reason hfailed := Outcome.noConfusion (hgave.2.1.symm.trans hfailed)

/-- A visit whose launcher wrote something left a result. -/
theorem Visit.On.productive_of_call (hv : v.On s) (hcall : v.call? ≠ none) (hb : b ≠ [])
    (hs : s.slot v.job v.after.files = .file b) : v.Productive where
  launched _ := by
    rw [hv.store]
    exact ⟨b, hb, hs⟩
  predicted houtcome := by
    obtain ⟨launch, -, hc⟩ := hv.course
    cases hc with
    | cached _ _ call | waived _ _ call | settled _ _ _ call | unopened _ _ _ _ _ call =>
        exact absurd call hcall
    | shown _ _ _ _ _ outcome | launched _ _ _ _ _ _ _ outcome =>
        exact absurd (outcome.symm.trans houtcome) (Scheduler.outcomeOf_not_skipped _).2
  opened hnone := absurd hnone hcall

namespace Scheduler

variable {d : Scheduler} {launch : Launcher ε} {jobs : List Job}

/-- A visit of a run in which no job comes twice finds its artifact as it was when the run began. -/
theorem slot_before_visit (hjobs : jobs.Nodup) (hlaunch : d.store.Confines launch)
    (hplain : d.store.Plain w.files) (hv : v ∈ d.visits launch jobs w) :
    v.On d.store ∧ d.store.Plain v.before.files ∧
      d.store.slot v.job v.before.files = d.store.slot v.job w.files := by
  have hall := chronicle_visits hlaunch jobs w
  have hmap := d.map_job_visitsFrom launch jobs (d.opening jobs w)
  obtain ⟨past, future, hsplit⟩ := List.append_of_mem hv
  rw [visits] at hsplit
  rw [visits, hsplit] at hall
  rw [hsplit] at hmap
  obtain ⟨hpast, hon, -⟩ := hall.split
  refine ⟨hon, hpast.plain hplain, hpast.slot_of_not_visited hplain fun u hu hsame => ?_⟩
  -- an earlier visit of the same job would make the job come twice
  rw [← hmap, List.map_append, List.map_cons] at hjobs
  have hdisjoint := (List.nodup_append.1 hjobs).2.2 u.job (List.mem_map_of_mem hu)
  exact hdisjoint v.job List.mem_cons_self hsame

/-- A run in which no job comes twice skips those jobs as done that had a result when it began. -/
theorem outcome_eq_cached_iff (hbatch : d.config.interactive = false) (hjobs : jobs.Nodup)
    (hlaunch : d.store.Confines launch) (hplain : d.store.Plain w.files)
    (hv : v ∈ d.visits launch jobs w) :
    v.outcome = .skippedCached ↔ ∃ b, b ≠ [] ∧ d.store.slot v.job w.files = .file b := by
  obtain ⟨hon, -, hslot⟩ := slot_before_visit hjobs hlaunch hplain hv
  rw [hon.outcome_eq_cached_iff, scheduler_of_mem_visitsFrom hv, Store.holds_iff, hslot]
  exact ⟨And.right, fun h => ⟨hbatch, h⟩⟩

/-- A run in which no job comes twice calls the launcher only for jobs that had neither a result nor
a prediction when it began. -/
theorem slot_of_call (hbatch : d.config.interactive = false) (hjobs : jobs.Nodup)
    (hlaunch : d.store.Confines launch) (hplain : d.store.Plain w.files)
    (hv : v ∈ d.visits launch jobs w) (hcall : v.call? ≠ none) :
    d.predictor.predicts v.job = false ∧
      (d.store.slot v.job w.files = .vacant ∨ d.store.slot v.job w.files = .file []) := by
  have hscheduler := scheduler_of_mem_visitsFrom hv
  obtain ⟨hon, hbefore, hslot⟩ := slot_before_visit hjobs hlaunch hplain hv
  have hcall' := hon.of_call hbefore.linkless (by rw [hscheduler, hbatch]) hcall
  rwa [hscheduler, hslot] at hcall'

/-- A run in which every visit was productive leaves a result for each of its jobs. -/
theorem slot_of_productive (hbatch : d.config.interactive = false)
    (hlaunch : d.store.Confines launch) (hlinks : d.store.Linkless w.files)
    (hall : ∀ v ∈ d.visits launch jobs w, v.Productive) (hjob : job ∈ jobs) :
    ∃ b, b ≠ [] ∧ d.store.slot job (d.run launch jobs w).2.files = .file b := by
  have hmap := d.map_job_visitsFrom launch jobs (d.opening jobs w)
  rw [← hmap] at hjob
  obtain ⟨v, hv, rfl⟩ := List.mem_map.1 hjob
  have hchronicle := chronicle_visits hlaunch jobs w
  have hbatch' : v.scheduler.config.interactive = false := by
    rw [scheduler_of_mem_visitsFrom hv, hbatch]
  have hproductive := hall v hv
  obtain ⟨past, future, hsplit⟩ := List.append_of_mem hv
  rw [visits, hsplit] at hchronicle
  -- the visit leaves a result, and what follows it keeps the result
  obtain ⟨hpast, hon, hfuture⟩ := hchronicle.split
  have hbefore := hpast.linkless hlinks
  obtain ⟨b, hb, hslot⟩ := hon.slot_of_productive hbefore hbatch' hproductive
  exact ⟨b, hb, hfuture.slot_kept ((hon.change hbefore).linkless hbefore) hb hslot⟩

/-- **What a second run of the same jobs does.**  It skips a job as done exactly if the first run
left a result for it, and it calls the launcher only for jobs that are not known to fail and whose
artifact the first run left missing or empty.  If every visit of the first run was productive, the
second one skips all jobs as done and never calls the launcher. -/
theorem rerun_exact (hbatch : d.config.interactive = false) (hjobs : jobs.Nodup)
    (hlaunch : d.store.Confines launch) (hplain : d.store.Plain w.files) :
    (∀ v ∈ d.visits launch jobs (d.run launch jobs w).2,
      (v.outcome = .skippedCached ↔
        ∃ b, b ≠ [] ∧ d.store.slot v.job (d.run launch jobs w).2.files = .file b) ∧
      (v.call? ≠ none →
        d.predictor.predicts v.job = false ∧
          (d.store.slot v.job (d.run launch jobs w).2.files = .vacant ∨
            d.store.slot v.job (d.run launch jobs w).2.files = .file []))) ∧
    ((∀ v ∈ d.visits launch jobs w, v.Productive) →
      d.calls launch jobs (d.run launch jobs w).2 = [] ∧
      ∀ r ∈ (d.run launch jobs (d.run launch jobs w).2).1.records, r.outcome = .skippedCached) := by
  -- everything is decided by what the first run left behind
  have hend := (chronicle_visits hlaunch jobs w).plain hplain
  refine ⟨fun v hv => ⟨outcome_eq_cached_iff hbatch hjobs hlaunch hend hv,
    slot_of_call hbatch hjobs hlaunch hend hv⟩, fun hproductive => ?_⟩
  have hdone : ∀ v ∈ d.visits launch jobs (d.run launch jobs w).2,
      ∃ b, b ≠ [] ∧ d.store.slot v.job (d.run launch jobs w).2.files = .file b := by
    intro v hv
    have hjob : v.job ∈ jobs := by
      rw [← d.map_job_visitsFrom launch jobs (d.opening jobs (d.run launch jobs w).2)]
      exact List.mem_map_of_mem hv
    exact slot_of_productive hbatch hlaunch hplain.linkless hproductive hjob
  constructor
  · rw [calls_eq_visits, List.filterMap_eq_nil_iff]
    intro v hv
    obtain ⟨b, hb, hslot⟩ := hdone v hv
    by_cases hcall : v.call? = none
    · exact hcall
    · rcases (slot_of_call hbatch hjobs hlaunch hend hv hcall).2 with h | h
      · exact Slot.noConfusion (h.symm.trans hslot)
      · exact absurd (Slot.file.inj (h.symm.trans hslot)).symm hb
  · intro r hr
    rw [(run_eq_visits d launch jobs _).1] at hr
    obtain ⟨v, hv, rfl⟩ := List.mem_map.1 hr
    exact (outcome_eq_cached_iff hbatch hjobs hlaunch hend hv).2 (hdone v hv)

end Scheduler

/-- Both jobs of a rehearsed run get a result. -/
theorem Rehearsal.productive_mixed :
    ∀ v ∈ mixed.scheduler.visits mixed.launch mixed.jobs (begin [] []), v.Productive := by
  have hplain : mixed.scheduler.store.Plain (stage [] []) := (bare_stage []).plain
  have hvacant : ∀ job, mixed.scheduler.store.slot job (stage [] []) = .vacant :=
    fun job => Store.slot_of_vacant (lookup_stage job [] [])
  have hon : ∀ job w, (mixed.scheduler.visit mixed.launch job w).On mixed.scheduler.store :=
    fun _ _ => ⟨rfl, mixed.launch, confined _ [], rfl⟩
  have hon₁ := hon bloat (mixed.scheduler.opening mixed.jobs (begin [] []))
  have hgave := hon₁.gavePlaceholder hplain.linkless rfl rfl (accessible_stage bloat [] [])
    (hvacant bloat)
  have hsettles := hon₁.settles hplain.linkless hgave
  have hne : antlr ≠ bloat := by decide
  have hon₂ := hon antlr
    (mixed.scheduler.visit mixed.launch bloat (mixed.scheduler.opening mixed.jobs (begin [] []))).after
  have hplain₂ := hsettles.change.plain hplain
  have haccess₂ := hsettles.accessible hne (accessible_stage antlr [] [])
  have hvacant₂ := (hsettles.change.slot_of_ne hplain hne).trans (hvacant antlr)
  obtain ⟨hcall, hslot⟩ := visit_of_vacant [] rfl rfl hplain₂.linkless haccess₂ hvacant₂
  intro v hv
  rcases List.mem_cons.1 hv with rfl | hv
  · exact hon₁.productive_of_gavePlaceholder hplain.linkless rfl hgave
  · rcases List.mem_singleton.1 hv with rfl
    exact hon₂.productive_of_call hcall (by decide +kernel) hslot

/-- A placeholder and a computed result are both found by a second run. -/
theorem Rehearsal.rerun_finds_everything :
    mixed.scheduler.calls mixed.launch mixed.jobs (mixed.perform (begin [] [])) = [] ∧
    ∀ r ∈ (mixed.scheduler.run mixed.launch mixed.jobs (mixed.perform (begin [] []))).1.records,
      r.outcome = .skippedCached := by
  have hplain : mixed.scheduler.store.Plain (begin [] []).files := (bare_stage []).plain
  exact (Scheduler.rerun_exact rfl (by decide) (confined _ []) hplain).2 productive_mixed

/-! ### Where results come from -/

/-- Whatever the mode in which a job is launched first, its result is found in any mode. -/
theorem Rehearsal.found_in_any_mode (mode mode' : Mode) :
    ∃ u v, history [batch mode .nothing [] [antlr], batch mode' .nothing [] [antlr]] (begin [] [])
        = [u, v] ∧
      u.scheduler.predictor.mode = mode ∧ v.scheduler.predictor.mode = mode' ∧
      v.outcome = .skippedCached := by
  have hstart : Store.Linkless ⟨"output"⟩ (stage [] []) := (bare_stage []).plain.linkless
  obtain ⟨-, hslot⟩ := visit_of_vacant (d := (batch mode .nothing [] [antlr]).scheduler)
    (w := (batch mode .nothing [] [antlr]).scheduler.opening [antlr] (begin [] [])) [] rfl rfl hstart
    (accessible_stage antlr [] []) (Store.slot_of_vacant (lookup_stage antlr [] []))
  have hperform : (batch mode .nothing [] [antlr]).perform (begin [] []) =
      ((batch mode .nothing [] [antlr]).scheduler.visit (launch []) antlr
        ((batch mode .nothing [] [antlr]).scheduler.opening [antlr] (begin [] []))).after := rfl
  have hrule : ∀ argv, ruleFor [] argv = standard := fun _ => rfl
  have houtput : bytesOf standard.output ≠ [] := by decide +kernel
  rw [hrule, ← hperform] at hslot
  have hon : ((batch mode' .nothing [] [antlr]).scheduler.visit (launch []) antlr
      ((batch mode' .nothing [] [antlr]).scheduler.opening [antlr]
        ((batch mode .nothing [] [antlr]).perform (begin [] [])))).On ⟨"output"⟩ :=
    ⟨rfl, launch [], confined _ [], rfl⟩
  have hheld : Store.holds ⟨"output"⟩ antlr ((batch mode' .nothing [] [antlr]).scheduler.opening
      [antlr] ((batch mode .nothing [] [antlr]).perform (begin [] []))).files = true := by
    rw [Scheduler.files_opening]
    exact Store.holds_iff.2 ⟨bytesOf standard.output, houtput, hslot⟩
  exact ⟨_, _, rfl, rfl, rfl, hon.outcome_eq_cached_iff.2 ⟨rfl, hheld⟩⟩

/-- **A result that is found was left by an earlier visit of the same job**, which called the launcher
or gave the job its placeholder, if there were no artifacts at first. -/
theorem cached_of_earlier_visit (hruns : ∀ r ∈ runs, r.On s) (hbare : s.Bare w.files)
    (hv : history runs w = past ++ v :: future) (hcached : v.outcome = .skippedCached) :
    ∃ u ∈ past, u.job = v.job ∧ u.scheduler.config.interactive = false ∧
      (u.call? ≠ none ∨ u.GavePlaceholder) ∧
      s.slot v.job v.before.files = s.slot v.job u.after.files := by
  have hall := chronicle_history hruns w
  rw [hv] at hall
  obtain ⟨hpast, hon, -⟩ := hall.split
  obtain ⟨b, -, hslot⟩ := Store.holds_iff.1 (hon.outcome_eq_cached_iff.1 hcached).2
  have hne : s.slot v.job v.before.files ≠ s.slot v.job w.files := by
    rw [hslot]
    exact (hbare.slot_ne b).symm
  obtain ⟨u, hu, hj, hwrites, hlast⟩ := hpast.exists_writer hbare.plain hne
  exact ⟨u, hu, hj, hwrites.batch, hwrites.how, hlast⟩

/-- What a second run finds, in the other mode, is what the first one left. -/
theorem Rehearsal.found_result_was_left :
    ∃ u v, history [batch .default .nothing [] [antlr], batch .empty .nothing [] [antlr]]
        (begin [] []) = [u, v] ∧ v.outcome = .skippedCached ∧ u.job = v.job ∧
      (u.call? ≠ none ∨ u.GavePlaceholder) ∧
      Store.slot ⟨"output"⟩ v.job v.before.files = Store.slot ⟨"output"⟩ v.job u.after.files := by
  obtain ⟨u, v, hhistory, -, -, hcached⟩ := found_in_any_mode .default .empty
  have hruns : ∀ r ∈ [batch .default .nothing [] [antlr], batch .empty .nothing [] [antlr]],
      r.On ⟨"output"⟩ := by
    simp [on_batch]
  have hhistory' : history [batch .default .nothing [] [antlr], batch .empty .nothing [] [antlr]]
      (begin [] []) = [u] ++ v :: [] := hhistory
  have hbare : Store.Bare ⟨"output"⟩ (begin [] []).files := bare_stage []
  obtain ⟨u', hu', hjob, -, hhow, hslot⟩ := cached_of_earlier_visit hruns hbare hhistory' hcached
  obtain rfl := List.mem_singleton.1 hu'
  exact ⟨u', v, hhistory, hcached, hjob, hhow, hslot⟩

/-- A result that was computed in one mode is found in the other, although the job has never come up
in that mode. -/
theorem Rehearsal.cached_across_modes :
    ¬ ∀ past v future,
      history [batch .default .nothing [] [antlr], batch .empty .nothing [] [antlr]] (begin [] [])
        = past ++ v :: future →
      v.outcome = .skippedCached →
      ∃ u ∈ past, u.job = v.job ∧
        u.scheduler.predictor.mode = v.scheduler.predictor.mode ∧
        (u.call? ≠ none ∨ u.GavePlaceholder) := by
  intro hsame
  obtain ⟨u, v, hhistory, hu, hv, hcached⟩ := found_in_any_mode .default .empty
  obtain ⟨u', hu', -, hmode, -⟩ := hsame [u] v [] hhistory hcached
  obtain rfl := List.mem_singleton.1 hu'
  rw [hu, hv] at hmode
  exact Mode.noConfusion hmode

end BatchRunner
