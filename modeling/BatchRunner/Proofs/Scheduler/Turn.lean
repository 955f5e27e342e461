/-
**A job as a turn of its site.**

If what a launcher answers and what it writes depend on nothing but the command, the directory and
the budget, then what becomes of a job depends on nothing but the site of its artifact.  A visit is
then a turn: a function of one site, which changes that site and no other.  Taking a turn twice is
taking it once, so a list of jobs is carried out site by site, in whatever order.

Main definitions:

* `Conduct` — what engines answer and write, by command, directory and budget;
* `Launcher.Follows`, `Launcher.Quiet` — a launcher whose engines conduct themselves so, and one that
  does nothing to files besides;
* `Turn`, `Scheduler.turn` — what a job does to its site.

Main results:

* `Launcher.Quiet.follows` — a quiet launcher touches every store through its sink only;
* `Scheduler.turn_turn` — **a second turn changes nothing**;
* `Scheduler.takes_visit` — **a visit is a turn of its site**;
* `Scheduler.site_runJobs` — what a list of jobs makes of a site;
* `Scheduler.turns_visitsFrom` — what becomes of jobs that come once each;
* `Scheduler.kept_runJobs` — with a quiet launcher everything but the artifacts is kept;
* `Rehearsal.quiet` — a rehearsed launcher is quiet.
-/
import BatchRunner.Proofs.Rehearsal
import BatchRunner.Proofs.Store.Kept

set_option autoImplicit false

namespace BatchRunner

/-! ### Launchers -/

/-- What engines do: for a command, a directory and a budget, the answer that the launcher gives and
the bytes that are written. -/
abbrev Conduct := List String → String → Budget → Except LaunchError Status × Bytes

/-- What engines do when a call is made. -/
def Conduct.on (c : Conduct) (call : Call) : Except LaunchError Status × Bytes :=
  c call.argv call.cwd call.budget

variable {ε : Type} {s : Store} {d : Scheduler} {c : Conduct} {launch : Launcher ε}

/-- A launcher whose answers and output are those of a conduct, and that touches a store only through
the sink it is handed: an artifact that the sink leads to holds what is written, and every other one
is left as it was. -/
structure Launcher.Follows (launch : Launcher ε) (s : Store) (c : Conduct) : Prop where
  confined : s.Confines launch
  result : ∀ call w, (launch call w).1 = (c.on call).1
  others : ∀ call w job, s.Plain w.files →
    (∀ id, s.fileOf? job w.files = some id → ¬ call.sink.Reaches id) →
    s.site job (launch call w).2.files = s.site job w.files
  own : ∀ call w job id mode, s.Plain w.files → call.sink = .file ⟨.file id, 0, false⟩ →
    s.fileOf? job w.files = some id → s.site job w.files = .file mode [] →
    s.site job (launch call w).2.files = .file mode (c.on call).2

def FileTree.pour (t : FileTree) (bytes : Bytes) : Sink → FileTree
  | .inherit => t
  | .file h =>
      match t.write h bytes with
      | .ok (t', _) => t'
      | .error _ => t

/-- A launcher whose answers and output are those of a conduct, and that does nothing to files but
write this output to the sink.  It may take its time before and afterwards. -/
structure Launcher.Quiet (launch : Launcher ε) (c : Conduct) : Prop where
  result : ∀ call w, (launch call w).1 = (c.on call).1
  files : ∀ call w, ∃ written ended, (launch call w).2.files =
    ((w.files.atTime written).pour (c.on call).2 call.sink).atTime ended

theorem FileTree.rewritten_pour (t : FileTree) (bytes : Bytes) (sink : Sink) :
    t.Rewritten sink.Reaches (t.pour bytes sink) := by
  cases sink with
  | inherit => exact .refl _ t
  | file h =>
      cases hw : t.write h bytes with
      | error e =>
          simp only [pour, hw]
          exact .refl _ t
      | ok written =>
          simp only [pour, hw]
          exact .write hw

namespace Launcher.Quiet

/-- A quiet launcher at most writes to the file that its sink leads to. -/
theorem rewritten (h : launch.Quiet c) (call : Call) (w : World ε) :
    w.files.Rewritten call.sink.Reaches (launch call w).2.files := by
  obtain ⟨written, ended, hfiles⟩ := h.files call w
  rw [hfiles]
  exact ((FileTree.Rewritten.atTime _ _ written).trans (FileTree.rewritten_pour _ _ _)).trans
    (.atTime _ _ ended)

/-- A file that a quiet launcher gets empty holds its output afterwards. -/
theorem file?_after (h : launch.Quiet c) {call : Call} {w : World ε} {id : Nat} {f : File}
    (hsink : call.sink = .file ⟨.file id, 0, false⟩) (hf : w.files.file? id = some f)
    (hempty : f.bytes = []) :
    ∃ g, (launch call w).2.files.file? id = some g ∧ g.mode = f.mode ∧
      g.bytes = (c.on call).2 := by
  obtain ⟨written, ended, hfiles⟩ := h.files call w
  have hwrite : (w.files.atTime written).write ⟨.file id, 0, false⟩ (c.on call).2 =
      .ok ((w.files.atTime written).setFile id { f with bytes := (c.on call).2, time := written },
        ⟨.file id, (c.on call).2.length, false⟩) := by
    simp [FileTree.write, hf, hempty, splice]
  refine ⟨{ f with bytes := (c.on call).2, time := written }, ?_, rfl, rfl⟩
  rw [hfiles, hsink]
  simp only [FileTree.pour, hwrite]
  exact FileTree.file?_setFile_self (by simp [hf]) _

/-- **A quiet launcher touches every store through its sink only.** -/
theorem follows (h : launch.Quiet c) (s : Store) : launch.Follows s c where
  confined call w :=
    have hw := h.rewritten call w
    ⟨Store.lookup_congr hw.root hw.dirs hw.cwd, fun _ hr => hw.file _ hr, fun _ => hw.isSome⟩
  result := h.result
  others call w job hp hunreached := Store.site_of_rewritten hp.linkless (h.rewritten call w) hunreached
  own call w job id mode hp hsink hid hsite := by
    obtain ⟨f, hf⟩ := Option.isSome_iff_exists.1 (hp.unshared job id hid).1
    rw [Store.site_of_file hid hf] at hsite
    obtain ⟨hmode, hempty⟩ : f.mode = mode ∧ f.bytes = [] := by simpa using hsite
    obtain ⟨g, hg, hgmode, hgbytes⟩ := h.file?_after hsink hf hempty
    have hw := h.rewritten call w
    have hid' : s.fileOf? job (launch call w).2.files = some id := by
      unfold Store.fileOf? at hid ⊢
      rw [Store.lookup_congr hw.root hw.dirs hw.cwd, hid]
    rw [Store.site_of_file hid' hg, hgmode, hgbytes, hmode]

end Launcher.Quiet

/-- An artifact that has been opened gets what is written, and no other site changes. -/
theorem Launcher.Follows.site_after (hlaunch : launch.Follows s c) {job : Job} {t : FileTree}
    {y : Site} {h : Handle} {w : World ε} (hopening : s.Opening job t y h w.files) (call : Call)
    (hsink : call.sink = .file h) :
    s.site job (launch call w).2.files = y.receive (c.on call).2 ∧
      ∀ j, j ≠ job → s.site j (launch call w).2.files = s.site j t := by
  rcases hopening.handle with ⟨id, mode, rfl, hid, rfl⟩ | ⟨dev, rfl, rfl⟩
  · refine ⟨hlaunch.own call w job id mode hopening.plain hsink hid hopening.own, fun j hj => ?_⟩
    rw [hlaunch.others call w j hopening.plain, hopening.others j hj]
    intro id' hid' hreach
    obtain rfl : id = id' := by simpa [hsink, Sink.Reaches] using hreach
    exact hj ((hopening.plain.unshared job id hid).2 j hid')
  · have hunreached : ∀ id, ¬ call.sink.Reaches id := by simp [hsink, Sink.Reaches]
    have hkept : ∀ j, s.site j (launch call w).2.files = s.site j w.files :=
      fun j => hlaunch.others call w j hopening.plain fun id _ => hunreached id
    refine ⟨?_, fun j hj => ?_⟩
    · rw [hkept, hopening.own]
      rfl
    · rw [hkept, hopening.others j hj]

/-! ### Turns -/

/-- A sink without the number of the file it leads to. -/
def Sink.unnumbered : Sink → Sink
  | .inherit => .inherit
  | .file h => .file h.unnumbered

/-- A call without the number of the file that its sink leads to. -/
def Call.unnumbered (call : Call) : Call := { call with sink := call.sink.unnumbered }

/-- What becomes of a job, the call it is launched with, and the state its site is left in. -/
structure Turn where
  outcome : Outcome
  call? : Option Call
  site : Site

namespace Scheduler

def answer (d : Scheduler) (c : Conduct) (job : Job) : Except LaunchError Status × Bytes :=
  c (Command.synthesize job d.config) d.config.engineDir d.config.timeout

/-- **What a job does to its site.** -/
def turn (d : Scheduler) (c : Conduct) (job : Job) (x : Site) : Turn :=
  if !d.config.interactive && x.holds then ⟨.skippedCached, none, x⟩
  else if d.predictor.predicts job then
    ⟨.skippedPredicted, none, if d.config.interactive then x else x.settle⟩
  else if d.config.interactive then
    ⟨outcomeOf (d.answer c job).1, some (d.call job .inherit), x⟩
  else
    match x.open? with
    | .error e => ⟨.launchFailed (StoreError.io (d.store.artifact job) e).message, none, x⟩
    | .ok (opened, y) =>
        ⟨outcomeOf (d.answer c job).1, some (d.call job (.file ⟨opened, 0, false⟩)),
          y.receive (d.answer c job).2⟩

/-- **A second turn changes nothing.** -/
theorem turn_turn (d : Scheduler) (c : Conduct) (job : Job) (x : Site) :
    (d.turn c job (d.turn c job x).site).site = (d.turn c job x).site := by
  cases hi : d.config.interactive with
  | true =>
      have hsame : ∀ y, (d.turn c job y).site = y := by
        intro y
        cases hflag : d.predictor.predicts job <;> simp [turn, hi, hflag]
      rw [hsame]
  | false =>
      cases hheld : x.holds with
      | true => simp [turn, hi, hheld]
      | false =>
          cases hflag : d.predictor.predicts job with
          | true =>
              have hturn : ∀ y, y.holds = false → (d.turn c job y).site = y.settle := by
                intro y hy
                simp [turn, hi, hy, hflag]
              rw [hturn x hheld]
              cases hheld' : x.settle.holds with
              | true => simp [turn, hi, hheld']
              | false => rw [hturn _ hheld', x.settle_settle]
          | false =>
              cases ho : x.open? with
              | error e => simp [turn, hi, hheld, hflag, ho]
              | ok opened =>
                  obtain ⟨o, y⟩ := opened
                  have hturn : (d.turn c job x).site = y.receive (d.answer c job).2 := by
                    simp [turn, hi, hheld, hflag, ho]
                  rw [hturn]
                  cases hheld' : (y.receive (d.answer c job).2).holds with
                  | true => simp [turn, hi, hheld']
                  | false =>
                      -- nothing was written, and nothing will be the next time
                      rcases Site.open?_receive ho hheld' with ⟨e, he⟩ | hagain
                      · simp [turn, hi, hheld', hflag, he]
                      · simp [turn, hi, hheld', hflag, hagain]

end Scheduler

/-- Whether a visit is the given turn: the job and its site go that way, and no other site changes. -/
structure Visit.Takes (v : Visit ε) (u : Turn) : Prop where
  outcome : v.outcome = u.outcome
  call : v.call?.map Call.unnumbered = u.call?
  own : v.scheduler.store.site v.job v.after.files = u.site
  others : ∀ j, j ≠ v.job →
    v.scheduler.store.site j v.after.files = v.scheduler.store.site j v.before.files

/-- A visit that leaves all files as they are and does not call the launcher. -/
theorem Visit.Takes.idle {v : Visit ε} (hcall : v.call? = none)
    (hfiles : v.after.files = v.before.files) :
    v.Takes ⟨v.outcome, none, v.scheduler.store.site v.job v.before.files⟩ where
  outcome := rfl
  call := by rw [hcall]; rfl
  own := by rw [hfiles]
  others j _ := by rw [hfiles]

namespace Scheduler

variable {job : Job} {jobs : List Job} {w : World ε}

/-- **A visit is a turn of its site.** -/
theorem takes_visit (hlaunch : launch.Follows d.store c) (hp : d.store.Plain w.files) (job : Job) :
    (d.visit launch job w).Takes (d.turn c job (d.store.site job w.files)) := by
  have hholds : d.store.holds job w.files = (d.store.site job w.files).holds :=
    Store.holds_eq hp.linkless
  cases d.course launch job w with
  | cached batch held call outcome files =>
      have hturn : d.turn c job (d.store.site job w.files) =
          ⟨(d.visit launch job w).outcome, none, d.store.site job w.files⟩ := by
        have hheld := hholds.symm.trans held
        rw [outcome]
        simp only [visit] at batch
        simp [turn, batch, hheld]
      rw [hturn]
      exact .idle call files
  | waived shown flagged call outcome files =>
      have hturn : d.turn c job (d.store.site job w.files) =
          ⟨(d.visit launch job w).outcome, none, d.store.site job w.files⟩ := by
        rw [outcome]
        simp only [visit] at shown flagged
        simp [turn, shown, flagged]
      rw [hturn]
      exact .idle call files
  | settled batch fresh flagged call outcome files =>
      have hturn : d.turn c job (d.store.site job w.files) =
          ⟨.skippedPredicted, none, (d.store.site job w.files).settle⟩ := by
        have hfresh := hholds.symm.trans fresh
        simp only [visit] at batch flagged
        simp [turn, batch, hfresh, flagged]
      rw [hturn]
      refine ⟨outcome, by rw [call]; rfl, ?_, fun j hj => ?_⟩
      · rw [files]
        simp only [visit]
        exact Store.site_writePlaceholder hp
      · rw [files]
        exact Store.site_writePlaceholder_of_ne hp hj
  | unopened batch fresh unflagged e failed call outcome files =>
      have hturn : d.turn c job (d.store.site job w.files) =
          ⟨(d.visit launch job w).outcome, none, d.store.site job w.files⟩ := by
        have hfresh := hholds.symm.trans fresh
        rw [outcome]
        simp only [visit] at batch unflagged failed
        cases ho : (d.store.site job w.files).open? with
        | ok opened =>
            obtain ⟨h, t, hopen, -⟩ := Store.opening_of_open? hp ho
            exact absurd (failed.symm.trans hopen) (by simp)
        | error e' =>
            have hrefused := Store.openForWrite_of_refused hp ho
            obtain rfl : e = .io (d.store.artifact job) e' :=
              Except.error.inj (failed.symm.trans hrefused)
            simp [turn, batch, hfresh, unflagged, ho]
      rw [hturn]
      exact .idle call files
  | shown shown unflagged w₀ same call outcome files =>
      have hturn : d.turn c job (d.store.site job w.files) =
          ⟨outcomeOf (d.answer c job).1, some (d.call job .inherit), d.store.site job w.files⟩ := by
        simp only [visit] at shown unflagged
        simp [turn, shown, unflagged]
      have hkept : ∀ j, d.store.site j (launch (d.call job .inherit) w₀).2.files =
          d.store.site j w.files := by
        intro j
        have hsame : w₀.files = w.files := same
        rw [← hsame]
        exact hlaunch.others _ w₀ j (by rw [hsame]; exact hp) fun _ _ hreach => hreach
      rw [hturn]
      refine ⟨?_, by rw [call]; rfl, ?_, fun j _ => ?_⟩
      · rw [outcome, hlaunch.result]
        rfl
      · rw [files]
        simp only [visit]
        exact hkept job
      · rw [files]
        exact hkept j
  | launched batch fresh unflagged h w₀ opened call outcome files =>
      have hfresh := hholds.symm.trans fresh
      simp only [visit] at batch unflagged opened
      cases ho : (d.store.site job w.files).open? with
      | error e =>
          have hrefused := Store.openForWrite_of_refused hp ho
          exact absurd (opened.symm.trans hrefused) (by simp)
      | ok turned =>
          obtain ⟨o, y⟩ := turned
          obtain ⟨h', t, hopen, hhandle, hopening⟩ := Store.opening_of_open? hp ho
          obtain ⟨rfl, rfl⟩ : h = h' ∧ w₀.files = t := by simpa [opened] using hopen
          have hturn : d.turn c job (d.store.site job w.files) =
              ⟨outcomeOf (d.answer c job).1, some (d.call job (.file ⟨o, 0, false⟩)),
                y.receive (d.answer c job).2⟩ := by
            simp [turn, batch, hfresh, unflagged, ho]
          have hafter := hlaunch.site_after hopening (d.call job (.file h)) rfl
          rw [hturn]
          refine ⟨?_, ?_, ?_, fun j hj => ?_⟩
          · rw [outcome, hlaunch.result]
            rfl
          · rw [call, ← hhandle]
            rfl
          · rw [files]
            exact hafter.1
          · rw [files]
            exact hafter.2 j hj

/-! ### Jobs in order -/

theorem plain_visit (hlaunch : launch.Follows d.store c) (hp : d.store.Plain w.files) (job : Job) :
    d.store.Plain (d.visit launch job w).after.files := by
  have on : (d.visit launch job w).On d.store := ⟨rfl, launch, hlaunch.confined, rfl⟩
  exact (on.change hp.linkless).plain hp

/-- **What a list of jobs makes of a site:** one turn, if the job is among them. -/
theorem site_runJobs (hlaunch : launch.Follows d.store c) (jobs : List Job) (w : World ε)
    (hp : d.store.Plain w.files) (job : Job) :
    d.store.site job (d.runJobs launch jobs w).2.files =
      if job ∈ jobs then (d.turn c job (d.store.site job w.files)).site
      else d.store.site job w.files := by
  induction jobs generalizing w with
  | nil =>
      have hnone : (d.runJobs launch [] w).2 = w := rfl
      simp [hnone]
  | cons k jobs ih =>
      have htakes := takes_visit hlaunch hp k
      have hrest := ih (d.visit launch k w).after (plain_visit hlaunch hp k)
      have hrun : (d.runJobs launch (k :: jobs) w).2 =
          (d.runJobs launch jobs (d.visit launch k w).after).2 := rfl
      rw [hrun, hrest]
      by_cases hk : job = k
      · subst hk
        have hown : d.store.site job (d.visit launch job w).after.files =
            (d.turn c job (d.store.site job w.files)).site := htakes.own
        rw [hown, turn_turn]
        simp
      · have hother : d.store.site job (d.visit launch k w).after.files =
            d.store.site job w.files := htakes.others job hk
        rw [hother]
        simp [hk]

/-- **What becomes of jobs that come once each**, and how they are launched, depends on the sites at
the start. -/
theorem turns_visitsFrom (hlaunch : launch.Follows d.store c) (jobs : List Job)
    (hnodup : jobs.Nodup) (w : World ε) (hp : d.store.Plain w.files) :
    (d.visitsFrom launch jobs w).map (fun v => (v.job, v.outcome, v.call?.map Call.unnumbered)) =
      jobs.map fun job =>
        let u := d.turn c job (d.store.site job w.files)
        (job, u.outcome, u.call?) := by
  induction jobs generalizing w with
  | nil => rfl
  | cons k jobs ih =>
      obtain ⟨hk, hnodup⟩ := List.nodup_cons.1 hnodup
      have htakes := takes_visit hlaunch hp k
      have hrest := ih hnodup (d.visit launch k w).after (plain_visit hlaunch hp k)
      rw [visitsFrom, List.map_cons, List.map_cons, hrest, List.cons.injEq]
      refine ⟨?_, List.map_congr_left fun job hjob => ?_⟩
      · rw [htakes.outcome, htakes.call]
        rfl
      · have hne : job ≠ k := by
          rintro rfl
          exact hk hjob
        have hother : d.store.site job (d.visit launch k w).after.files =
            d.store.site job w.files := htakes.others job hne
        rw [hother]

/-! ### Quiet launchers -/

/-- A visit with a quiet launcher does nothing but make an artifact and write to it. -/
theorem kept_visit {t₀ : FileTree} (hquiet : launch.Quiet c) (hl : d.store.Linkless w.files)
    (hk : d.store.Kept t₀ w.files) (job : Job) :
    d.store.Kept t₀ (d.visit launch job w).after.files := by
  cases d.course launch job w with
  | cached _ _ _ _ files | waived _ _ _ _ files | unopened _ _ _ _ _ _ _ files =>
      rw [files]
      exact hk
  | settled _ _ _ _ _ files =>
      rw [files]
      rcases Store.writePlaceholder_snd job hl with ⟨hsame, -⟩ | ⟨dir, f, hlook, -, hmade⟩
      · have hfiles : (d.store.writePlaceholder job w.files).2 = w.files := hsame
        simpa [visit, hfiles] using hk
      · simp only [visit, hmade]
        exact (hk.addFile hlook f).rewritten (.setFile rfl _) fun id hid =>
          ⟨job, hid ▸ Store.fileOf?_addFile_self hlook⟩
  | shown _ _ w₀ same _ _ files =>
      rw [files]
      have hk₀ : d.store.Kept t₀ w₀.files := by
        rw [same]
        exact hk
      exact hk₀.rewritten (hquiet.rewritten _ w₀) fun id hreach => hreach.elim
  | launched _ _ _ h w₀ opened _ _ files =>
      rw [files]
      obtain ⟨hk₀, hown⟩ := hk.opens (Store.opens_of_openForWrite hl opened)
      exact hk₀.rewritten (hquiet.rewritten _ w₀) fun id hreach => ⟨job, hown id hreach⟩

/-- **With a quiet launcher everything but the artifacts is kept.** -/
theorem kept_runJobs {t₀ : FileTree} (hquiet : launch.Quiet c) (jobs : List Job) (w : World ε)
    (hp : d.store.Plain w.files) (hk : d.store.Kept t₀ w.files) :
    d.store.Plain (d.runJobs launch jobs w).2.files ∧
      d.store.Kept t₀ (d.runJobs launch jobs w).2.files := by
  induction jobs generalizing w with
  | nil => exact ⟨hp, hk⟩
  | cons job jobs ih =>
      exact ih (d.visit launch job w).after (plain_visit (hquiet.follows d.store) hp job)
        (kept_visit hquiet hp.linkless hk job)

end Scheduler

/-! ### Rehearsed launchers -/

namespace Rehearsal

/-- What rehearsed engines do. -/
def conduct (rules : List Rule) : Conduct := fun argv _ _ =>
  ((ruleFor rules argv).ending.result argv, bytesOf (ruleFor rules argv).output)

/-- A rehearsed launcher is quiet. -/
theorem quiet (rules : List Rule) : (Rehearsal.launch rules).Quiet (conduct rules) where
  result _ _ := rfl
  files call w := by
    have hstill : ∀ t : FileTree, t.now = w.files.now → t = t.atTime w.files.now := by
      rintro t hnow
      rw [← hnow]
      rfl
    refine ⟨w.files.now, w.files.now, ?_⟩
    rw [← hstill w.files rfl]
    cases hsink : call.sink with
    | inherit => simpa [Rehearsal.launch, hsink, FileTree.pour] using hstill w.files rfl
    | file h =>
        cases hw : w.files.write h (bytesOf (ruleFor rules call.argv).output) with
        | error e =>
            simpa [Rehearsal.launch, hsink, FileTree.pour, Conduct.on, conduct, hw] using hstill w.files rfl
        | ok written =>
            simpa [Rehearsal.launch, hsink, FileTree.pour, Conduct.on, conduct, hw] using
              hstill written.1 (FileTree.now_write hw)

end Rehearsal

end BatchRunner
