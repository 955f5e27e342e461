/-
**Histories of a store.**

A launcher is confined by a store if it touches the store only through the sink it is handed, and
only while it is called.  Visits with confined launchers, each of which starts from the files that
the one before left behind, make a chronicle of the store.  A chronicle is all that matters of runs
in succession, whatever their configurations.

Main definitions:

* `Store.Confines` — a launcher touches a store only through its sink;
* `Visit.On`, `Run.On` — a visit and a run with a confined launcher;
* `Visit.Writes` — a visit writes into the artifact of its job;
* `Chronicle` — visits that follow one another.

Main results:

* `Visit.On.change` — **a visit changes nothing but the artifact of its job**;
* `Visit.On.slot_kept` — a visit leaves every artifact with contents as it is;
* `Visit.On.outcome_eq_cached_iff` — which visits find a result;
* `chronicle_history` — runs in succession make a chronicle;
* `Chronicle.carries`, `Chronicle.slot_carries` — what every visit preserves holds in the end;
* `Chronicle.slot_kept` — **no artifact with contents ever changes**;
* `Chronicle.slot_of_not_visited` — what no visit is for stays as it is;
* `Chronicle.exists_writer` — **what has changed was written by a visit**.
-/
import BatchRunner.Proofs.Scheduler.History
import BatchRunner.Proofs.Store.Settling

set_option autoImplicit false

namespace BatchRunner

variable {ε : Type} {s : Store} {v : Visit ε} {vs us past future : List (Visit ε)}
  {t t' t'' : FileTree} {job : Job} {b : Bytes}

/-- Whether a launcher touches a store only through the sink it is handed. -/
def Store.Confines (s : Store) (launch : Launcher ε) : Prop :=
  ∀ call w, s.Spared call.sink w.files (launch call w).2.files

/-- A visit that keeps its results in the store `s`, with a launcher that the store confines. -/
structure Visit.On (v : Visit ε) (s : Store) : Prop where
  store : v.scheduler.store = s
  carried : ∃ launch, s.Confines launch ∧ v = v.scheduler.visit launch v.job v.before

/-! ### One visit -/

/-- A job that was launched was not skipped. -/
theorem Scheduler.outcomeOf_not_skipped (answer : Except LaunchError Status) :
    outcomeOf answer ≠ .skippedCached ∧ outcomeOf answer ≠ .skippedPredicted := by
  cases answer with
  | error e => simp [outcomeOf]
  | ok status => cases status <;> simp [outcomeOf, Outcome.ofStatus]

namespace Visit.On

theorem course (hv : v.On s) : ∃ launch, s.Confines launch ∧ v.Course s launch := by
  obtain ⟨rfl, launch, hlaunch, he⟩ := hv
  have hc := v.scheduler.course launch v.job v.before
  rw [← he] at hc
  exact ⟨launch, hlaunch, hc⟩

/-- **A visit changes nothing but the artifact of its job.** -/
theorem change (hv : v.On s) (hl : s.Linkless v.before.files) :
    s.Change v.job v.before.files v.after.files := by
  obtain ⟨launch, hlaunch, hc⟩ := hv.course
  cases hc with
  | cached _ _ _ _ files | waived _ _ _ _ files | unopened _ _ _ _ _ _ _ files =>
      rw [files]
      exact .refl s v.job _
  | settled _ _ _ _ _ files =>
      rw [files]
      rcases Store.writePlaceholder_cases hl with ⟨-, h⟩ | ⟨-, h⟩
      · rw [h]
        exact .refl s v.job _
      · exact h.change
  | shown _ _ w₀ same _ _ files =>
      have hspared := hlaunch (v.scheduler.call v.job .inherit) w₀
      rw [same, ← files] at hspared
      exact .written .inherit (fun _ h => h.elim) hspared
  | launched _ _ _ h w₀ opened _ _ files =>
      have hspared := hlaunch (v.scheduler.call v.job (.file h)) w₀
      rw [← files] at hspared
      exact (Store.opens_of_openForWrite hl opened).change hspared

/-- A visit that does anything to the store is for a job without a result, and results do not go to
the console. -/
theorem spared_or_fresh (hv : v.On s) :
    s.Spared .inherit v.before.files v.after.files ∨
      (v.scheduler.config.interactive = false ∧ s.holds v.job v.before.files = false) := by
  obtain ⟨launch, hlaunch, hc⟩ := hv.course
  cases hc with
  | cached _ _ _ _ files | waived _ _ _ _ files =>
      rw [files]
      exact .inl (.refl s _ _)
  | settled batch fresh | unopened batch fresh | launched batch fresh => exact .inr ⟨batch, fresh⟩
  | shown _ _ w₀ same _ _ files =>
      have hspared := hlaunch (v.scheduler.call v.job .inherit) w₀
      rw [same, ← files] at hspared
      exact .inl hspared

/-- A visit leaves every artifact with contents as it is. -/
theorem slot_kept (hv : v.On s) (hl : s.Linkless v.before.files) (hb : b ≠ [])
    (hs : s.slot job v.before.files = .file b) : s.slot job v.after.files = .file b := by
  rcases hv.spared_or_fresh with hspared | ⟨-, hfresh⟩
  · rw [hspared.slot_eq hl, hs]
  · exact (hv.change hl).slot_kept hl hfresh hb hs

/-- A visit finds a result if there is one, unless results go to the console. -/
theorem outcome_eq_cached_iff (hv : v.On s) :
    v.outcome = .skippedCached ↔
      v.scheduler.config.interactive = false ∧ s.holds v.job v.before.files = true := by
  obtain ⟨launch, -, hc⟩ := hv.course
  cases hc with
  | cached batch held _ outcome => simp [batch, held, outcome]
  | waived shown _ _ outcome => simp [shown, outcome]
  | settled _ fresh _ _ outcome | unopened _ fresh _ _ _ _ outcome => simp [fresh, outcome]
  | shown shown _ _ _ _ outcome => simp [shown, outcome, (Scheduler.outcomeOf_not_skipped _).1]
  | launched _ fresh _ _ _ _ _ outcome =>
      simp [fresh, outcome, (Scheduler.outcomeOf_not_skipped _).1]

/-- What the launcher is called for has neither a result nor a prediction. -/
theorem of_call (hv : v.On s) (hl : s.Linkless v.before.files)
    (hbatch : v.scheduler.config.interactive = false) (hcall : v.call? ≠ none) :
    v.scheduler.predictor.predicts v.job = false ∧
      (s.slot v.job v.before.files = .vacant ∨ s.slot v.job v.before.files = .file []) := by
  obtain ⟨launch, -, hc⟩ := hv.course
  cases hc with
  | cached _ _ call | waived _ _ call | settled _ _ _ call | unopened _ _ _ _ _ call =>
      exact absurd call hcall
  | shown shown => exact absurd (shown.symm.trans hbatch) Bool.noConfusion
  | launched _ fresh unflagged h w₀ opened =>
      refine ⟨unflagged, ?_⟩
      rcases (Store.opens_of_openForWrite hl opened).slot_before with hvacant | ⟨b, hb⟩
      · exact .inl hvacant
      · refine .inr ?_
        rw [hb]
        by_cases hne : b = []
        · rw [hne]
        · rw [Store.holds_iff.2 ⟨b, hne, hb⟩] at fresh
          exact Bool.noConfusion fresh

/-- A visit that neither calls the launcher nor writes a placeholder leaves all files as they are. -/
theorem files_eq (hv : v.On s) (hl : s.Linkless v.before.files) (hcall : v.call? = none)
    (hgave : ¬ v.GavePlaceholder) : v.after.files = v.before.files := by
  obtain ⟨launch, -, hc⟩ := hv.course
  cases hc with
  | cached _ _ _ _ files | waived _ _ _ _ files | unopened _ _ _ _ _ _ _ files => exact files
  | settled batch _ _ _ outcome files =>
      rw [files]
      rcases Store.writePlaceholder_cases hl with ⟨-, h⟩ | ⟨hok, -⟩
      · exact h
      · rw [← hv.store] at hok
        exact absurd ⟨batch, outcome, hok⟩ hgave
  | shown _ _ _ _ call | launched _ _ _ _ _ _ call => exact absurd (call.symm.trans hcall) (by simp)

/-- **A placeholder that was given is there.** -/
theorem settles (hv : v.On s) (hl : s.Linkless v.before.files) (hgave : v.GavePlaceholder) :
    s.Settles v.job v.before.files v.after.files := by
  obtain ⟨launch, -, hc⟩ := hv.course
  obtain ⟨hbatch, houtcome, hok⟩ := hgave
  rw [hv.store] at hok
  cases hc with
  | cached _ _ _ outcome | unopened _ _ _ _ _ _ outcome =>
      exact Outcome.noConfusion (outcome.symm.trans houtcome)
  | waived shown | shown shown => exact absurd (shown.symm.trans hbatch) Bool.noConfusion
  | settled _ _ _ _ _ files =>
      rw [files]
      rcases Store.writePlaceholder_cases hl with ⟨hno, -⟩ | ⟨-, h⟩
      · exact absurd hok hno
      · exact h
  | launched _ _ _ _ _ _ _ outcome =>
      exact absurd (outcome.symm.trans houtcome) (Scheduler.outcomeOf_not_skipped _).2

/-- A job that is known not to finish gets its placeholder if nothing stands in the way. -/
theorem gavePlaceholder (hv : v.On s) (hl : s.Linkless v.before.files)
    (hbatch : v.scheduler.config.interactive = false)
    (hflag : v.scheduler.predictor.predicts v.job = true)
    (haccess : s.Accessible v.job v.before.files) (hs : s.slot v.job v.before.files = .vacant) :
    v.GavePlaceholder := by
  obtain ⟨launch, -, hc⟩ := hv.course
  have hok := haccess.writePlaceholder hl hs
  rw [← hv.store] at hok
  cases hc with
  | cached _ held =>
      obtain ⟨b, -, hb⟩ := Store.holds_iff.1 held
      exact Slot.noConfusion (hs.symm.trans hb)
  | waived _ _ _ outcome | settled _ _ _ _ outcome => exact ⟨hbatch, outcome, hok⟩
  | unopened _ _ unflagged | shown _ unflagged | launched _ _ unflagged =>
      exact absurd (hflag.symm.trans unflagged) Bool.noConfusion

end Visit.On

/-- A visit that writes into the artifact of its job: the launcher gets it as a sink, or it gets the
placeholder. -/
structure Visit.Writes (v : Visit ε) : Prop where
  batch : v.scheduler.config.interactive = false
  how : v.call? ≠ none ∨ v.GavePlaceholder

/-- An artifact changes only if a visit writes into it. -/
theorem Visit.On.slot_eq_or_writes (hv : v.On s) (hp : s.Plain v.before.files) (job : Job) :
    s.slot job v.after.files = s.slot job v.before.files ∨ (v.job = job ∧ v.Writes) := by
  rcases hv.spared_or_fresh with hspared | ⟨hbatch, -⟩
  · exact .inl (hspared.slot_eq hp.linkless job)
  · by_cases hj : job = v.job
    · subst hj
      by_cases hcall : v.call? = none
      · by_cases hgave : v.GavePlaceholder
        · exact .inr ⟨rfl, hbatch, .inr hgave⟩
        · rw [hv.files_eq hp.linkless hcall hgave]
          exact .inl rfl
      · exact .inr ⟨rfl, hbatch, .inl hcall⟩
    · exact .inl ((hv.change hp.linkless).slot_of_ne hp hj)

/-! ### Visits that follow one another -/

/-- Visits on a store, each of which starts from the files that the one before left behind, with the
files at the start and in the end. -/
inductive Chronicle (s : Store) : FileTree → List (Visit ε) → FileTree → Prop where
  | nil (t : FileTree) : Chronicle s t [] t
  | cons {v : Visit ε} {vs : List (Visit ε)} {t' : FileTree} (on : v.On s)
      (rest : Chronicle s v.after.files vs t') : Chronicle s v.before.files (v :: vs) t'

namespace Chronicle

theorem append (h : Chronicle s t vs t') (h' : Chronicle s t' us t'') :
    Chronicle s t (vs ++ us) t'' := by
  induction h with
  | nil => exact h'
  | cons on _ ih => exact .cons on (ih h')

/-- A chronicle up to a visit, the visit, and what follows it. -/
theorem split (h : Chronicle s t (past ++ v :: future) t') :
    Chronicle s t past v.before.files ∧ v.On s ∧ Chronicle s v.after.files future t' := by
  induction past generalizing t with
  | nil =>
      cases h with
      | cons on rest => exact ⟨.nil _, on, rest⟩
  | cons u past ih =>
      cases h with
      | cons on rest =>
          obtain ⟨hpast, hv, hfuture⟩ := ih rest
          exact ⟨.cons on hpast, hv, hfuture⟩

/-- **What every visit preserves holds in the end.** -/
theorem carries {P : FileTree → Prop} (h : Chronicle s t vs t')
    (step : ∀ v ∈ vs, v.On s → P v.before.files → P v.after.files) (ht : P t) : P t' := by
  induction h with
  | nil => exact ht
  | cons on _ ih =>
      have hafter := step _ List.mem_cons_self on ht
      exact ih (fun v hv => step v (List.mem_cons_of_mem _ hv)) hafter

theorem linkless (h : Chronicle s t vs t') (hl : s.Linkless t) : s.Linkless t' :=
  h.carries (P := s.Linkless) (fun _ _ on hl => (on.change hl).linkless hl) hl

theorem plain (h : Chronicle s t vs t') (hp : s.Plain t) : s.Plain t' :=
  h.carries (P := s.Plain) (fun _ _ on hp => (on.change hp.linkless).plain hp) hp

/-- **No artifact with contents ever changes.** -/
theorem slot_kept (h : Chronicle s t vs t') (hl : s.Linkless t) (hb : b ≠ [])
    (hs : s.slot job t = .file b) : s.slot job t' = .file b := by
  have hend : s.Linkless t' ∧ s.slot job t' = .file b := by
    refine h.carries (P := fun t => s.Linkless t ∧ s.slot job t = .file b) ?_ ⟨hl, hs⟩
    rintro v - on ⟨hl, hs⟩
    exact ⟨(on.change hl).linkless hl, on.slot_kept hl hb hs⟩
  exact hend.2

/-- What every visit of a job preserves of its artifact is true of the artifact in the end. -/
theorem slot_carries {P : Slot → Prop} (h : Chronicle s t vs t') (hp : s.Plain t)
    (step : ∀ v ∈ vs, v.On s → s.Plain v.before.files → v.job = job →
      P (s.slot job v.before.files) → P (s.slot job v.after.files))
    (ht : P (s.slot job t)) : P (s.slot job t') := by
  have hend : s.Plain t' ∧ P (s.slot job t') := by
    refine h.carries (P := fun t => s.Plain t ∧ P (s.slot job t)) ?_ ⟨hp, ht⟩
    rintro v hv on ⟨hp, hs⟩
    have hchange := on.change hp.linkless
    refine ⟨hchange.plain hp, ?_⟩
    by_cases hj : job = v.job
    · exact step v hv on hp hj.symm hs
    · rw [hchange.slot_of_ne hp hj]
      exact hs
  exact hend.2

/-- What no visit is for stays as it is. -/
theorem slot_of_not_visited (h : Chronicle s t vs t') (hp : s.Plain t)
    (hj : ∀ v ∈ vs, v.job ≠ job) : s.slot job t' = s.slot job t :=
  h.slot_carries (P := fun x => x = s.slot job t) hp
    (fun v hv _ _ hsame => absurd hsame (hj v hv)) rfl

/-- **An artifact that has changed is as the last visit left it that wrote into it.** -/
theorem exists_writer (h : Chronicle s t vs t') (hp : s.Plain t)
    (hne : s.slot job t' ≠ s.slot job t) :
    ∃ v ∈ vs, v.job = job ∧ v.Writes ∧ s.slot job t' = s.slot job v.after.files := by
  induction h with
  | nil => exact absurd rfl hne
  | @cons v vs t' on _ ih =>
      by_cases hlast : s.slot job t' = s.slot job v.after.files
      · -- nothing happens to the artifact later on, so it was this visit
        rcases on.slot_eq_or_writes hp job with hsame | ⟨hj, hwrites⟩
        · exact absurd (hlast.trans hsame) hne
        · exact ⟨v, List.mem_cons_self, hj, hwrites, hlast⟩
      · obtain ⟨u, hu, hwriter⟩ := ih ((on.change hp.linkless).plain hp) hlast
        exact ⟨u, List.mem_cons_of_mem _ hu, hwriter⟩

end Chronicle

/-! ### Chronicles of runs -/

theorem Scheduler.chronicle_visitsFrom {d : Scheduler} {launch : Launcher ε}
    (hlaunch : d.store.Confines launch) (jobs : List Job) (w : World ε) :
    Chronicle d.store w.files (d.visitsFrom launch jobs w) (d.runJobs launch jobs w).2.files := by
  induction jobs generalizing w with
  | nil => exact .nil _
  | cons job jobs ih =>
      have on : (d.visit launch job w).On d.store := ⟨rfl, launch, hlaunch, rfl⟩
      exact .cons on (ih (d.visit launch job w).after)

/-- A run makes a chronicle. -/
theorem Scheduler.chronicle_visits {d : Scheduler} {launch : Launcher ε}
    (hlaunch : d.store.Confines launch) (jobs : List Job) (w : World ε) :
    Chronicle d.store w.files (d.visits launch jobs w) (d.run launch jobs w).2.files :=
  Scheduler.chronicle_visitsFrom hlaunch jobs (d.opening jobs w)

/-- A run that keeps its results in the store `s`, with a launcher that the store confines. -/
structure Run.On (r : Run ε) (s : Store) : Prop where
  store : r.scheduler.store = s
  confined : s.Confines r.launch

/-- **Runs in succession make a chronicle.** -/
theorem chronicle_history {runs : List (Run ε)} (h : ∀ r ∈ runs, r.On s) (w : World ε) :
    Chronicle s w.files (history runs w) (performAll runs w).files := by
  induction runs generalizing w with
  | nil => exact .nil _
  | cons r runs ih =>
      obtain ⟨hstore, hlaunch⟩ := h r List.mem_cons_self
      subst hstore
      have hrest := ih (fun r' hr' => h r' (List.mem_cons_of_mem _ hr')) (r.perform w)
      exact (Scheduler.chronicle_visits hlaunch r.jobs w).append hrest

end BatchRunner
