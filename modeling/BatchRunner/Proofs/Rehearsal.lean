/-
**What a rehearsed run leaves behind.**

A rehearsed launcher writes to its sink and to nothing else, so every store confines it.  On a
machine that has nothing but an output root, everything that a rehearsed run does can be told from
the entries of that directory.

Main definitions:

* `Rehearsal.stage` — a machine with an output root of given entries;
* `Rehearsal.batch` — a rehearsed run of the standard configuration.

Main results:

* `Rehearsal.confined` — **a rehearsed launcher touches a store only through its sink**;
* `Rehearsal.visit_of_vacant` — a rehearsed launch leaves its output in the artifact;
* `Rehearsal.lookup_stage`, `Rehearsal.accessible_stage` — how artifacts are found and made on a
  stage;
* `Rehearsal.isDir_stage` — the output root of a stage is ready for use.
-/
import BatchRunner.Proofs.Files.Same
import BatchRunner.Proofs.Scheduler.Chronicle
import BatchRunner.Rehearsal

set_option autoImplicit false

namespace BatchRunner.Rehearsal

variable {d : Scheduler} {job : Job} {w : World (List Call)}

/-! ### The launcher -/

/-- **A rehearsed launcher touches a store only through its sink.** -/
theorem confined (s : Store) (rules : List Rule) : s.Confines (launch rules) := by
  intro call w
  unfold launch
  cases hsink : call.sink with
  | inherit => exact .refl s _ _
  | file h =>
      cases hw : w.files.write h (bytesOf (ruleFor rules call.argv).output) with
      | error e =>
          simp only [hw]
          exact .refl s _ _
      | ok written =>
          simp only [hw]
          exact Store.Spared.write hw

/-- A launch whose artifact was missing leaves its output in the artifact. -/
theorem visit_of_vacant (rules : List Rule) (hbatch : d.config.interactive = false)
    (hflag : d.predictor.predicts job = false) (hl : d.store.Linkless w.files)
    (haccess : d.store.Accessible job w.files) (hslot : d.store.slot job w.files = .vacant) :
    (d.visit (launch rules) job w).call? ≠ none ∧
      d.store.slot job (d.visit (launch rules) job w).after.files =
        .file (bytesOf (ruleFor rules (Command.synthesize job d.config)).output) := by
  obtain ⟨dir, ⟨h, t'⟩, hlook, hmake⟩ := haccess.exists_makeFile hl hslot
  have hfresh : d.store.holds job w.files = false := by
    rw [Bool.eq_false_iff]
    intro hheld
    obtain ⟨b, -, hb⟩ := Store.holds_iff.1 hheld
    rw [hslot] at hb
    exact Slot.noConfusion hb
  have hopen := Store.openForWrite_of_makeFile hlook hmake
  have hcall : d.callOf? job w.files = some (d.call job (.file h)) := by
    simp [Scheduler.callOf?, hbatch, hfresh, hflag, hopen]
  refine ⟨fun hnone => absurd (hcall.symm.trans hnone) (by simp), ?_⟩
  have hc := d.course (launch rules) job w
  cases hc with
  | cached _ _ call | waived _ _ call | settled _ _ _ call | unopened _ _ _ _ _ call =>
      exact absurd (hcall.symm.trans call) (by simp)
  | shown shown => exact absurd (shown.symm.trans hbatch) Bool.noConfusion
  | launched _ _ _ h' w₀ opened _ _ files =>
      obtain ⟨rfl, hw₀⟩ : h = h' ∧ t' = w₀.files := by simpa [Scheduler.visit, hopen] using opened
      obtain ⟨f, hf, rfl, rfl⟩ := Store.makeFile_eq_ok hmake
      obtain ⟨g, h', hg, hwrite⟩ := Store.write_addFile (t := w.files)
        (dir ++ [Store.artifactName job]) hf
        (bytesOf (ruleFor rules (Command.synthesize job d.config)).output)
      rw [hw₀] at hwrite
      rw [files]
      simp only [launch, Scheduler.call, Scheduler.visit, hwrite]
      rw [← hw₀, Store.slot_of_made hlook, hg]

/-! ### Stages -/

/-- A machine that has nothing but an output root of the standard name. -/
def stage (es : List (String × Node)) (files : List File) : FileTree where
  root := .dir [("output", .dir es)]
  cwd := []
  files := files
  seals := []
  dirs := []
  mask := usualMask
  now := 0
  moves := []

theorem pass_stage (es : List (String × Node)) (files : List File) (place : Place) :
    Right.pass.isIn ((stage es files).dirInfo place).mode = true :=
  FileTree.pass_of_lookup_eq_none rfl

/-- The output root is one name away from the starting directory. -/
theorem seeks_stage (es : List (String × Node)) (files : List File) :
    (stage es files).Seeks (stage es files).cwd [("output", .dir es)] "output" :=
  ⟨⟨by decide, by decide, by decide, by decide, by decide⟩, rfl, pass_stage es files _⟩

theorem lookup_stage (job : Job) (es : List (String × Node)) (files : List File) :
    Store.lookup ⟨"output"⟩ job (stage es files)
      = some (["output"], Entries.get? (Store.artifactName job) es) := by
  have hdir : Store.directory? ⟨"output"⟩ (stage es files) = some ["output"] :=
    Store.directory?_of_get? (by decide) (by decide) (seeks_stage es files) rfl
  have hnode : (stage es files).node? ["output"] = some (.dir es) := rfl
  have hcheck : FileTree.checkPath (Store.artifact ⟨"output"⟩ job) = .ok () :=
    Store.checkPath_artifact (by decide) (by decide)
  exact Store.lookup_eq_some_iff.2 ⟨hcheck, hdir, pass_stage es files _, FileTree.node?_snoc hnode⟩

/-- Nothing stands in the way of the artifacts of a stage. -/
theorem accessible_stage (job : Job) (es : List (String × Node)) (files : List File) :
    Store.Accessible ⟨"output"⟩ job (stage es files) := by
  have husual : Right.write.isIn (unmasked 0o777 usualMask) = true := by decide
  exact ⟨["output"], _, lookup_stage job es files,
    fun _ => Store.exists_makeFile_iff.2 ⟨rfl, husual⟩⟩

/-- A stage without entries has no artifacts. -/
theorem bare_stage (files : List File) : Store.Bare ⟨"output"⟩ (stage [] files) := by
  intro job dir x hlook
  rw [lookup_stage] at hlook
  exact absurd hlook (by simp [Entries.get?])

/-- A stage without entries has no files to number. -/
theorem numbered_stage (files : List File) : (stage [] files).Numbered := by
  intro place id hnode
  cases place with
  | nil => simp [stage, FileTree.node?, Node.find?] at hnode
  | cons n below =>
      by_cases hn : "output" = n
      · cases below <;> simp [stage, FileTree.node?, Node.find?, Entries.get?, hn] at hnode
      · simp [stage, FileTree.node?, Node.find?, Entries.get?, hn] at hnode

theorem linkless_stage {es : List (String × Node)}
    (hes : ∀ n target, Entries.get? n es ≠ some (.link target)) (files : List File) :
    Store.Linkless ⟨"output"⟩ (stage es files) := by
  intro job dir target hlook
  rw [lookup_stage] at hlook
  exact hes _ target (congrArg Prod.snd (Option.some.inj hlook))

/-! ### Rehearsed runs -/

/-- The world in which a run on a stage begins. -/
def begin (es : List (String × Node)) (files : List File) : World (List Call) :=
  ⟨stage es files, [], 0, none, []⟩

/-- A rehearsed run of the standard configuration, in a mode and with a table of its own. -/
def batch (mode : Mode) (table : Exclusion.Table) (rules : List Rule) (jobs : List Job) :
    Run (List Call) where
  scheduler := ⟨{ Config.standard with contextMode := mode }, ⟨mode, table⟩⟩
  launch := launch rules
  jobs := jobs

theorem on_batch (mode : Mode) (table : Exclusion.Table) (rules : List Rule) (jobs : List Job) :
    (batch mode table rules jobs).On ⟨"output"⟩ :=
  ⟨rfl, confined _ rules⟩

def failing : List Rule := [⟨"", "", .launchError .noEntry⟩]

/-- Rules by which one engine runs out of time without a word and another one cannot be started. -/
def uneven : List Rule := [⟨"antlr", "", .status .timedOut⟩, ⟨"chart", "", .launchError .noEntry⟩]

/-- Three jobs to rehearse with. -/
def antlr : Job := ⟨.insens, .antlr⟩

@[inherit_doc antlr]
def bloat : Job := ⟨.insens, .bloat⟩

@[inherit_doc antlr]
def chart : Job := ⟨.insens, .chart⟩

def fop : Job := ⟨.type1, .fop⟩

/-- A run of the first two.  The second one is known not to finish, and comes first. -/
def mixed : Run (List Call) :=
  batch .default (Exclusion.Tables.listing [(.insens, [.bloat])]) [] [bloat, antlr]

end BatchRunner.Rehearsal
