/-
**Artifacts of jobs that are known not to finish.**

A run gives the placeholder to a job that is known not to finish, provided that its artifact is
missing.  An artifact that has contents is left alone, and so is one that is there without contents:
a launch that wrote nothing leaves such a file behind, and no later prediction settles it.

Main definitions:

* `Slot.settled` — what an artifact should hold once it is settled.

Main results:

* `Scheduler.slot_of_flagged`, `Scheduler.slot_of_flagged_of_vacant` — **what a run makes of the
  artifact of such a job**, if it is there and if it is missing;
* `cached_ever_after` — a job with a result is skipped as done from then on;
* `settled_iff` — **the artifact is settled exactly if it was missing or had contents**;
* `exists_launch_of_empty` — an artifact without contents goes back to a launch;
* `Rehearsal.failed_launch_never_settled` — a failed launch keeps an artifact from being settled.
-/
import BatchRunner.Proofs.Rehearsal

set_option autoImplicit false

namespace BatchRunner

variable {ε : Type} {s : Store} {runs : List (Run ε)} {w : World ε} {v : Visit ε} {job : Job}
  {b : Bytes}

/-- What the artifact of a job that is known not to finish should hold: what it held before, or the
placeholder if it held nothing. -/
def Slot.settled : Slot → Bytes
  | .file (c :: cs) => c :: cs
  | _ => bytesOf placeholderText

theorem Slot.settled_of_ne_nil (hb : b ≠ []) : (Slot.file b).settled = b := by
  cases b with
  | nil => exact absurd rfl hb
  | cons c cs => rfl

theorem Slot.settled_ne_nil (x : Slot) : x.settled ≠ [] := by
  unfold settled
  split
  · exact List.cons_ne_nil _ _
  · decide +kernel

/-! ### One run -/

/-- A prediction does nothing about an artifact that is there. -/
theorem Visit.On.slot_of_flagged (hv : v.On s) (hl : s.Linkless v.before.files)
    (hbatch : v.scheduler.config.interactive = false)
    (hflag : v.scheduler.predictor.predicts v.job = true)
    (hs : s.slot v.job v.before.files ≠ .vacant) :
    s.slot v.job v.after.files = s.slot v.job v.before.files := by
  have hcall : v.call? = none := by
    by_cases hcall : v.call? = none
    · exact hcall
    · exact absurd (hflag.symm.trans (hv.of_call hl hbatch hcall).1) Bool.noConfusion
  have hgave : ¬ v.GavePlaceholder := fun hgave => hs (hv.settles hl hgave).slot_before
  rw [hv.files_eq hl hcall hgave]

namespace Scheduler

variable {d : Scheduler} {launch : Launcher ε} {jobs : List Job}

/-- A run leaves the artifact of a job that is known not to finish as it is, if it is there. -/
theorem slot_of_flagged (jobs : List Job) (hbatch : d.config.interactive = false)
    (hlaunch : d.store.Confines launch) (hplain : d.store.Plain w.files)
    (hflag : d.predictor.predicts job = true) (hs : d.store.slot job w.files ≠ .vacant) :
    d.store.slot job (d.run launch jobs w).2.files = d.store.slot job w.files := by
  refine (chronicle_visits hlaunch jobs w).slot_carries
    (P := fun x => x = d.store.slot job w.files) hplain ?_ rfl
  rintro v hv hon hp rfl hsame
  have hscheduler := scheduler_of_mem_visitsFrom hv
  rw [hon.slot_of_flagged hp.linkless (by rw [hscheduler, hbatch]) (by rw [hscheduler, hflag])
    (by rwa [hsame]), hsame]

/-- A run gives the placeholder to a job that is known not to finish, if its artifact is missing and
nothing stands in the way. -/
theorem slot_of_flagged_of_vacant (hbatch : d.config.interactive = false)
    (hlaunch : d.store.Confines launch) (hplain : d.store.Plain w.files) (hjob : job ∈ jobs)
    (hflag : d.predictor.predicts job = true)
    (haccess : ∀ v ∈ d.visits launch jobs w, v.job = job → d.store.Accessible job v.before.files)
    (hs : d.store.slot job w.files = .vacant) :
    d.store.slot job (d.run launch jobs w).2.files = .file (bytesOf placeholderText) := by
  -- a visit of the job finds nothing or a placeholder, and leaves a placeholder
  have hstep : ∀ v ∈ d.visits launch jobs w, v.On d.store → d.store.Plain v.before.files →
      v.job = job → (d.store.slot job v.before.files = .vacant ∨
        d.store.slot job v.before.files = .file (bytesOf placeholderText)) →
      d.store.slot job v.after.files = .file (bytesOf placeholderText) := by
    rintro v hv hon hp rfl hbefore
    have hscheduler := scheduler_of_mem_visitsFrom hv
    have hbatch' : v.scheduler.config.interactive = false := by rw [hscheduler, hbatch]
    have hflag' : v.scheduler.predictor.predicts v.job = true := by rw [hscheduler, hflag]
    rcases hbefore with hvacant | hplaced
    · have hgave := hon.gavePlaceholder hp.linkless hbatch' hflag' (haccess v hv rfl) hvacant
      exact (hon.settles hp.linkless hgave).slot_after
    · rw [hon.slot_of_flagged hp.linkless hbatch' hflag' (by simp [hplaced]), hplaced]
  have hall := chronicle_visits hlaunch jobs w
  have hmap := d.map_job_visitsFrom launch jobs (d.opening jobs w)
  rw [← hmap] at hjob
  obtain ⟨v, hv, hvjob⟩ := List.mem_map.1 hjob
  obtain ⟨past, future, hsplit⟩ := List.append_of_mem (show v ∈ d.visits launch jobs w from hv)
  rw [hsplit] at hall
  obtain ⟨hpast, hon, hfuture⟩ := hall.split
  have hbefore := hpast.slot_carries
    (P := fun x => x = .vacant ∨ x = .file (bytesOf placeholderText)) hplain
    (fun u hu hu' hp hj hx => .inr (hstep u (by simp [hsplit, hu]) hu' hp hj hx)) (.inl hs)
  have hplain' := hpast.plain hplain
  have hafter := hstep v hv hon hplain' hvjob hbefore
  exact hfuture.slot_kept ((hon.change hplain'.linkless).linkless hplain'.linkless)
    (by decide +kernel) hafter

end Scheduler

/-! ### Later runs -/

/-- A job with a result is skipped as done from then on. -/
theorem cached_ever_after (hruns : ∀ r ∈ runs, r.On s)
    (hbatch : ∀ r ∈ runs, r.scheduler.config.interactive = false) (hlinks : s.Linkless w.files)
    (hb : b ≠ []) (hs : s.slot job w.files = .file b) (hv : v ∈ history runs w)
    (hjob : v.job = job) : v.outcome = .skippedCached := by
  have hall := chronicle_history hruns w
  obtain ⟨r, hr, hscheduler⟩ := scheduler_of_mem_history hv
  obtain ⟨past, future, hsplit⟩ := List.append_of_mem hv
  rw [hsplit] at hall
  obtain ⟨hpast, hon, -⟩ := hall.split
  have hkept := hpast.slot_kept hlinks hb hs
  rw [← hjob] at hkept
  refine hon.outcome_eq_cached_iff.2 ⟨?_, Store.holds_iff.2 ⟨b, hb, hkept⟩⟩
  rw [hscheduler, hbatch r hr]

/-! ### Settled artifacts -/

/-- **When an artifact is settled.**  After a run for which a job is known not to finish, with nothing
in the way of its artifact, the artifact holds what it should, and all later runs skip the job as
done, exactly if before the run the artifact was missing or had contents. -/
theorem settled_iff {earlier : List (Run ε)} {r : Run ε} (hearlier : ∀ q ∈ earlier, q.On s)
    (hr : r.On s) (hbatch : r.scheduler.config.interactive = false) (hplain : s.Plain w.files)
    (hjob : job ∈ r.jobs) (hflag : r.scheduler.predictor.predicts job = true)
    (haccess : ∀ v ∈ r.visits (performAll earlier w), v.job = job →
      s.Accessible job v.before.files) :
    (s.slot job (r.perform (performAll earlier w)).files =
        .file (s.slot job (performAll earlier w).files).settled ∧
      ∀ later : List (Run ε), (∀ q ∈ later, q.On s) →
        (∀ q ∈ later, q.scheduler.config.interactive = false) →
        ∀ v ∈ history later (r.perform (performAll earlier w)), v.job = job →
          v.outcome = .skippedCached) ↔
    (s.slot job (performAll earlier w).files = .vacant ∨
      ∃ b, b ≠ [] ∧ s.slot job (performAll earlier w).files = .file b) := by
  obtain ⟨hstore, hlaunch⟩ := hr
  subst hstore
  have hplain' := (chronicle_history hearlier w).plain hplain
  have hend := (Scheduler.chronicle_visits hlaunch r.jobs (performAll earlier w)).linkless
    hplain'.linkless
  constructor
  · rintro ⟨hsettled, -⟩
    by_cases hvacant : r.scheduler.store.slot job (performAll earlier w).files = .vacant
    · exact .inl hvacant
    · have hsame := Scheduler.slot_of_flagged r.jobs hbatch hlaunch hplain' hflag hvacant
      exact .inr ⟨_, Slot.settled_ne_nil _, hsame.symm.trans hsettled⟩
  · intro hbefore
    have hsettled : r.scheduler.store.slot job (r.perform (performAll earlier w)).files =
        .file (r.scheduler.store.slot job (performAll earlier w).files).settled := by
      rcases hbefore with hvacant | ⟨b, hb, hfile⟩
      · rw [hvacant]
        exact Scheduler.slot_of_flagged_of_vacant hbatch hlaunch hplain' hjob hflag haccess hvacant
      · have hsame := Scheduler.slot_of_flagged r.jobs hbatch hlaunch hplain' hflag
          (by simp [hfile])
        rw [hfile, Slot.settled_of_ne_nil hb, ← hfile]
        exact hsame
    exact ⟨hsettled, fun later hlater hbatch' v hv hvjob =>
      cached_ever_after hlater hbatch' hend (Slot.settled_ne_nil _) hsettled hv hvjob⟩

/-- A job whose artifact is missing gets its placeholder, and a second run finds it. -/
theorem Rehearsal.missing_artifact_settled :
    Store.slot ⟨"output"⟩ bloat (mixed.perform (begin [] [])).files
      = .file (bytesOf placeholderText) ∧
    ∀ v ∈ history [mixed] (mixed.perform (begin [] [])), v.job = bloat →
      v.outcome = .skippedCached := by
  have hmixed : mixed.On ⟨"output"⟩ := on_batch _ _ _ _
  have hvacant : Store.slot ⟨"output"⟩ bloat (stage [] []) = .vacant :=
    Store.slot_of_vacant (lookup_stage bloat [] [])
  have haccess : ∀ v ∈ mixed.visits (performAll [] (begin [] [])), v.job = bloat →
      Store.Accessible ⟨"output"⟩ bloat v.before.files := by
    intro v hv hjob
    rcases List.mem_cons.1 hv with rfl | hv
    · exact accessible_stage bloat [] []
    · rcases List.mem_singleton.1 hv with rfl
      exact absurd hjob (by decide)
  obtain ⟨hslot, hlater⟩ := (settled_iff (List.forall_mem_nil _) hmixed rfl (bare_stage []).plain
    List.mem_cons_self rfl haccess).2 (.inl hvacant)
  have hbefore : Store.slot ⟨"output"⟩ bloat (performAll [] (begin [] [])).files = .vacant := hvacant
  rw [hbefore] at hslot
  refine ⟨hslot, hlater [mixed] (by simp [hmixed]) fun q hq => ?_⟩
  rcases List.mem_singleton.1 hq with rfl
  rfl

/-- A launch that fails leaves an artifact without contents, which no prediction settles: it is still
without contents after a run for which the job is known not to finish, and the next run does not skip
the job as done. -/
theorem Rehearsal.failed_launch_never_settled :
    Store.slot ⟨"output"⟩ bloat
      (performAll [batch .default .nothing failing [bloat], mixed] (begin [] [])).files = .file [] ∧
    ∃ v ∈ mixed.visits
        (performAll [batch .default .nothing failing [bloat], mixed] (begin [] [])),
      v.job = bloat ∧ v.outcome ≠ .skippedCached := by
  have hplain : Store.Plain ⟨"output"⟩ (stage [] []) := (bare_stage []).plain
  obtain ⟨-, hfailed⟩ := visit_of_vacant (d := (batch .default .nothing failing [bloat]).scheduler)
    (w := (batch .default .nothing failing [bloat]).scheduler.opening [bloat] (begin [] []))
    failing rfl rfl hplain.linkless (accessible_stage bloat [] [])
    (Store.slot_of_vacant (lookup_stage bloat [] []))
  have hempty : Store.slot ⟨"output"⟩ bloat
      ((batch .default .nothing failing [bloat]).perform (begin [] [])).files = .file [] := by
    refine hfailed.trans ?_
    decide +kernel
  have hplain' := (Scheduler.chronicle_visits
    (confined (batch .default .nothing failing [bloat]).scheduler.store failing) [bloat]
    (begin [] [])).plain hplain
  -- the artifact is there, so that the prediction leaves it alone
  have hstill : Store.slot ⟨"output"⟩ bloat
      (performAll [batch .default .nothing failing [bloat], mixed] (begin [] [])).files
        = .file [] := by
    have hflag : mixed.scheduler.predictor.predicts bloat = true := rfl
    have hthere : Store.slot ⟨"output"⟩ bloat
        ((batch .default .nothing failing [bloat]).perform (begin [] [])).files ≠ .vacant := by
      simp [hempty]
    exact (Scheduler.slot_of_flagged mixed.jobs rfl (confined mixed.scheduler.store []) hplain'
      hflag hthere).trans hempty
  refine ⟨hstill, _, List.mem_cons_self, rfl, fun hcached => ?_⟩
  have hon : (mixed.scheduler.visit mixed.launch bloat (mixed.scheduler.opening mixed.jobs
      (performAll [batch .default .nothing failing [bloat], mixed] (begin [] [])))).On ⟨"output"⟩ :=
    ⟨rfl, mixed.launch, confined _ [], rfl⟩
  obtain ⟨b, hb, hslot⟩ := Store.holds_iff.1 (hon.outcome_eq_cached_iff.1 hcached).2
  exact hb (Slot.file.inj (hslot.symm.trans hstill))

/-- An artifact without contents goes back to a launch that wrote nothing, if there were no artifacts
at first. -/
theorem exists_launch_of_empty (hruns : ∀ r ∈ runs, r.On s) (hbare : s.Bare w.files)
    (hs : s.slot job (performAll runs w).files = .file []) :
    ∃ v ∈ history runs w, v.job = job ∧ v.call? ≠ none ∧ s.slot job v.after.files = .file [] := by
  have hall := chronicle_history hruns w
  have hne : s.slot job (performAll runs w).files ≠ s.slot job w.files := by
    rw [hs]
    exact (hbare.slot_ne []).symm
  obtain ⟨v, hv, rfl, hwrites, hlast⟩ := hall.exists_writer hbare.plain hne
  rw [hs] at hlast
  refine ⟨v, hv, rfl, ?_, hlast.symm⟩
  rcases hwrites.how with hcall | hgave
  · exact hcall
  · obtain ⟨past, future, hsplit⟩ := List.append_of_mem hv
    rw [hsplit] at hall
    obtain ⟨hpast, hon, -⟩ := hall.split
    have hplaced := (hon.settles (hpast.plain hbare.plain).linkless hgave).slot_after
    exact absurd (Slot.file.inj (hlast.trans hplaced)).symm (by decide +kernel)

end BatchRunner
