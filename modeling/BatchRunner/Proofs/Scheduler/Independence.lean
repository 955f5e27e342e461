/-
**Jobs that do not influence each other.**

As long as engines go by command, directory and budget alone, it does not matter in which order jobs
are carried out, nor whether some of them have been carried out before: every job finds the same, and
in the end the same is left.

Main results:

* `Scheduler.resumed_same` — **an interrupted run can be resumed**;
* `Scheduler.reordered_same` — **the order of jobs makes no difference**.
-/
import BatchRunner.Proofs.Scheduler.Turn

set_option autoImplicit false

namespace BatchRunner

/-- What a record says of a job, apart from the time it took. -/
def Record.verdict (r : Record) : Job × String × Outcome := (r.job, r.artifact, r.outcome)

namespace Scheduler

variable {ε : Type} {d : Scheduler} {c : Conduct} {launch : Launcher ε} {w : World ε}

/-- What a run makes of a site. -/
theorem site_run (hlaunch : launch.Follows d.store c) (jobs : List Job)
    (hp : d.store.Plain w.files) (job : Job) :
    d.store.site job (d.run launch jobs w).2.files =
      if job ∈ jobs then (d.turn c job (d.store.site job w.files)).site
      else d.store.site job w.files :=
  site_runJobs hlaunch jobs (d.opening jobs w) hp job

theorem plain_run (hlaunch : launch.Follows d.store c) (jobs : List Job)
    (hp : d.store.Plain w.files) : d.store.Plain (d.run launch jobs w).2.files :=
  (chronicle_visits hlaunch.confined jobs w).plain hp

/-- With a quiet launcher, a run keeps everything but the artifacts. -/
theorem kept_run {t₀ : FileTree} (hquiet : launch.Quiet c) (jobs : List Job)
    (hp : d.store.Plain w.files) (hk : d.store.Kept t₀ w.files) :
    d.store.Kept t₀ (d.run launch jobs w).2.files :=
  (kept_runJobs hquiet jobs (d.opening jobs w) hp hk).2

/-! ### Resuming -/

/-- **An interrupted run can be resumed.**  Carrying out some of the first jobs and then all of them
leaves every artifact in the state in which carrying out all of them at once leaves it.  If the
launcher does nothing else to files, the two trees cannot be told apart. -/
theorem resumed_same (hlaunch : launch.Follows d.store c) (jobs : List Job) (k : Nat) (w : World ε)
    (hp : d.store.Plain w.files) :
    (∀ job, d.store.site job (d.run launch jobs (d.run launch (jobs.take k) w).2).2.files =
      d.store.site job (d.run launch jobs w).2.files) ∧
    (launch.Quiet c → w.files.Numbered →
      (d.run launch jobs w).2.files.Same
        (d.run launch jobs (d.run launch (jobs.take k) w).2).2.files) := by
  have hfirst := plain_run hlaunch (jobs.take k) hp
  have hsite : ∀ job, d.store.site job (d.run launch jobs (d.run launch (jobs.take k) w).2).2.files =
      d.store.site job (d.run launch jobs w).2.files := by
    intro job
    rw [site_run hlaunch jobs hfirst, site_run hlaunch jobs hp, site_run hlaunch (jobs.take k) hp]
    by_cases hfirst : job ∈ jobs.take k
    · -- the job has had its turn; another one changes nothing
      simp [hfirst, List.mem_of_mem_take hfirst, turn_turn]
    · simp [hfirst]
  refine ⟨hsite, fun hquiet hn => ?_⟩
  have honce := kept_run hquiet jobs hp (.refl d.store w.files)
  have hresumed := kept_run hquiet jobs hfirst
    (kept_run hquiet (jobs.take k) hp (.refl d.store w.files))
  exact honce.same hresumed (plain_run hlaunch jobs hp) (plain_run hlaunch jobs hfirst) hsite hn

end Scheduler

namespace Rehearsal

/-- A run with a repeat that was interrupted after its second job. -/
theorem interrupted_run_resumed :
    mixed.scheduler.store.Plain (begin [] []).files ∧
      (mixed.scheduler.run (launch uneven) [bloat, antlr, bloat, chart] (begin [] [])).2.files.Same
        (mixed.scheduler.run (launch uneven) [bloat, antlr, bloat, chart]
          (mixed.scheduler.run (launch uneven) ([bloat, antlr, bloat, chart].take 2)
            (begin [] [])).2).2.files := by
  have hplain : mixed.scheduler.store.Plain (begin [] []).files := (bare_stage []).plain
  refine ⟨hplain, ?_⟩
  exact (Scheduler.resumed_same ((quiet uneven).follows _) [bloat, antlr, bloat, chart] 2
    (begin [] []) hplain).2 (quiet uneven) (numbered_stage [])

end Rehearsal

namespace Scheduler

variable {ε : Type} {d : Scheduler} {c : Conduct} {launch : Launcher ε} {jobs jobs' : List Job}
  {w : World ε}

/-! ### Reordering -/

/-- What becomes of the jobs of a run that come once each. -/
theorem turns_run (hlaunch : launch.Follows d.store c) (hnodup : jobs.Nodup)
    (hp : d.store.Plain w.files) :
    (d.visits launch jobs w).map (fun v => (v.job, v.outcome, v.call?.map Call.unnumbered)) =
      jobs.map fun job =>
        let u := d.turn c job (d.store.site job w.files)
        (job, u.outcome, u.call?) :=
  turns_visitsFrom hlaunch jobs hnodup (d.opening jobs w) hp

/-- The verdicts of a run on jobs that come once each. -/
theorem verdicts_run (hlaunch : launch.Follows d.store c) (hnodup : jobs.Nodup)
    (hp : d.store.Plain w.files) :
    (d.run launch jobs w).1.records.map Record.verdict =
      jobs.map fun job => (job, d.store.artifact job,
        (d.turn c job (d.store.site job w.files)).outcome) := by
  have hrecords : (d.visits launch jobs w).map (fun v => v.record.verdict) =
      ((d.visits launch jobs w).map
        fun v => (v.job, v.outcome, v.call?.map Call.unnumbered)).map
          fun x => (x.1, d.store.artifact x.1, x.2.1) := by
    rw [List.map_map]
    refine List.map_congr_left fun v hv => ?_
    have hscheduler : v.scheduler = d := scheduler_of_mem_visitsFrom hv
    simp [Visit.record, Record.verdict, hscheduler]
  rw [(d.run_eq_visits launch jobs w).1, List.map_map]
  exact hrecords.trans (by rw [turns_run hlaunch hnodup hp, List.map_map]; rfl)

/-- The calls of a run on jobs that come once each. -/
theorem unnumbered_calls (hlaunch : launch.Follows d.store c) (hnodup : jobs.Nodup)
    (hp : d.store.Plain w.files) :
    (d.calls launch jobs w).map Call.unnumbered =
      jobs.filterMap fun job => (d.turn c job (d.store.site job w.files)).call? := by
  have hcalls : (d.calls launch jobs w).map Call.unnumbered =
      ((d.visits launch jobs w).map
        fun v => (v.job, v.outcome, v.call?.map Call.unnumbered)).filterMap fun x => x.2.2 := by
    rw [calls_eq_visits, List.map_filterMap, List.filterMap_map]
    rfl
  rw [hcalls, turns_run hlaunch hnodup hp, List.filterMap_map]
  rfl

/-- **The order of jobs makes no difference.**  Jobs that come once each leave every artifact in the
same state, whatever their order; each of them gets the same artifact and the same outcome, and the
launcher gets the same calls.  If the launcher does nothing else to files, the two trees cannot be
told apart. -/
theorem reordered_same (hlaunch : launch.Follows d.store c) (hperm : jobs.Perm jobs')
    (hnodup : jobs.Nodup) (w : World ε) (hp : d.store.Plain w.files) :
    (∀ job, d.store.site job (d.run launch jobs' w).2.files =
      d.store.site job (d.run launch jobs w).2.files) ∧
    (launch.Quiet c → w.files.Numbered →
      (d.run launch jobs w).2.files.Same (d.run launch jobs' w).2.files) ∧
    ((d.run launch jobs w).1.records.map Record.verdict).Perm
      ((d.run launch jobs' w).1.records.map Record.verdict) ∧
    ((d.calls launch jobs w).map Call.unnumbered).Perm
      ((d.calls launch jobs' w).map Call.unnumbered) := by
  have hnodup' : jobs'.Nodup := hperm.nodup_iff.1 hnodup
  have hsite : ∀ job, d.store.site job (d.run launch jobs' w).2.files =
      d.store.site job (d.run launch jobs w).2.files := by
    intro job
    rw [site_run hlaunch jobs' hp, site_run hlaunch jobs hp]
    simp only [hperm.mem_iff]
  refine ⟨hsite, fun hquiet hn => ?_, ?_, ?_⟩
  · have hk := kept_run hquiet jobs hp (.refl d.store w.files)
    have hk' := kept_run hquiet jobs' hp (.refl d.store w.files)
    exact hk.same hk' (plain_run hlaunch jobs hp) (plain_run hlaunch jobs' hp) hsite hn
  · rw [verdicts_run hlaunch hnodup hp, verdicts_run hlaunch hnodup' hp]
    exact hperm.map _
  · rw [unnumbered_calls hlaunch hnodup hp, unnumbered_calls hlaunch hnodup' hp]
    exact hperm.filterMap _

end Scheduler

namespace Rehearsal

/-- Three jobs, one of them known not to finish, in two orders. -/
theorem reordered_run_same :
    [bloat, antlr, chart].Perm [chart, bloat, antlr] ∧
      (mixed.scheduler.run (launch uneven) [bloat, antlr, chart] (begin [] [])).2.files.Same
        (mixed.scheduler.run (launch uneven) [chart, bloat, antlr] (begin [] [])).2.files ∧
      ((mixed.scheduler.calls (launch uneven) [bloat, antlr, chart] (begin [] [])).map
        Call.unnumbered).Perm
        ((mixed.scheduler.calls (launch uneven) [chart, bloat, antlr] (begin [] [])).map
          Call.unnumbered) := by
  have hplain : mixed.scheduler.store.Plain (begin [] []).files := (bare_stage []).plain
  have hperm : [bloat, antlr, chart].Perm [chart, bloat, antlr] := by decide
  have hsame := Scheduler.reordered_same ((quiet uneven).follows _) hperm (by decide) (begin [] [])
    hplain
  exact ⟨hperm, hsame.2.1 (quiet uneven) (numbered_stage []), hsame.2.2.2⟩

end Rehearsal

end BatchRunner
