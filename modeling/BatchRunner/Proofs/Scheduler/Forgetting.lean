/-
**Nothing is found after the output root has been removed.**

A run that begins on an output root which was removed and made usable again finds no result for any
job until it has taken that job itself.  Two kinds of output roots keep what they hold.  The empty
path is no directory, yet its artifacts are those in the starting directory.  And a path that goes up
from a directory that is missing leads nowhere, so that there is nothing to remove; making it usable
makes that directory, and then the path leads past it to what was there all along.

Main results:

* `Scheduler.first_visit_not_cached` — a run on a store without artifacts finds nothing at first;
* `Store.clean_forgets` — **what removing the output root leaves, and what a run then finds**;
* `Rehearsal.result_survives_clean` — two output roots that keep a result.
-/
import BatchRunner.Proofs.Rehearsal
import BatchRunner.Proofs.Store.Clean

set_option autoImplicit false

namespace BatchRunner

variable {ε : Type}

/-! ### Runs on stores without artifacts -/

/-- **A run on a store without artifacts finds no result** for a job that it has not taken yet. -/
theorem Scheduler.first_visit_not_cached {d : Scheduler} {launch : Launcher ε} {jobs : List Job}
    {w : World ε} (hbare : d.store.Bare w.files) (hlaunch : d.store.Confines launch)
    {before after : List Record} {r : Record}
    (hrun : (d.run launch jobs w).1.records = before ++ r :: after)
    (hfirst : ∀ q ∈ before, q.job ≠ r.job) : r.outcome ≠ .skippedCached := by
  rw [(d.run_eq_visits launch jobs w).1] at hrun
  obtain ⟨past, rest, hvisits, rfl, hrest⟩ := List.map_eq_append_iff.1 hrun
  obtain ⟨v, future, rfl, rfl, rfl⟩ := List.map_eq_cons_iff.1 hrest
  have hall := d.chronicle_visits hlaunch jobs w
  rw [hvisits] at hall
  obtain ⟨hpast, hon, -⟩ := hall.split
  -- nobody has taken the job before, so its artifact is what it was
  have hsame : d.store.slot v.job v.before.files = d.store.slot v.job w.files := by
    refine hpast.slot_of_not_visited hbare.plain fun u hu => ?_
    exact hfirst u.record (List.mem_map_of_mem hu)
  intro hcached
  obtain ⟨-, hheld⟩ := hon.outcome_eq_cached_iff.1 hcached
  obtain ⟨b, -, hslot⟩ := Store.holds_iff.1 hheld
  rw [hsame] at hslot
  exact hbare.slot_ne b hslot

namespace Rehearsal

/-! ### A result in the output root -/

/-- The entries of a directory that holds the result of one job. -/
def settled : List (String × Node) := [(Store.artifactName antlr, .file 0)]

/-- A machine with one file of results and a starting directory of given entries. -/
def machineOf (es : List (String × Node)) : FileTree :=
  { stage [] [⟨0o644, bytesOf "done", 0⟩] with root := .dir es }

/-- The standard configuration with an output root of its own. -/
def schedulerAt (root : String) : Scheduler :=
  ⟨{ Config.standard with outputRoot := root }, ⟨.default, Exclusion.Tables.listing []⟩⟩

/-- The names of all directories here. -/
theorem plainName_of_mem {n : String} (h : n ∈ ["output", "new", "old"]) : FileTree.PlainName n := by
  have hall : ∀ n ∈ ["output", "new", "old"],
      n ≠ "" ∧ n ≠ "." ∧ n ≠ ".." ∧ n.toList.getLast? ≠ some '/' ∧ n.utf8ByteSize ≤ nameMax := by
    decide
  obtain ⟨hempty, hdot, hdots, hslash, hshort⟩ := hall n h
  exact ⟨hempty, hdot, hdots, hslash, hshort⟩

theorem seeks_machineOf {n : String} (h : n ∈ ["output", "new", "old"]) (es : List (String × Node)) :
    (machineOf es).Seeks [] es n :=
  ⟨plainName_of_mem h, rfl, pass_stage [] [] []⟩

theorem walk_machineOf (es : List (String × Node)) :
    (machineOf es).walk .target linkMax [] [] = .ok (.node [] (.dir es)) :=
  FileTree.walk_of_node? rfl

/-- The machine with the result in the standard output root. -/
def filled : FileTree := machineOf [("output", .dir settled)]

def emptied : FileTree := (filled.clear ["output"] (.dir settled)).2

def swept : FileTree := (emptied.remove ["output"]).noteMove ["output"] none

theorem locate_filled {aim : Aim} (hsteps : aim.steps "output" = ["output"]) :
    filled.locate [] aim "output" = .ok (.node ["output"] (.dir settled)) := by
  refine FileTree.locate_eq_ok_iff.2 ⟨rfl, ?_⟩
  have hwalk : filled.walk aim linkMax [] ["output"] = .ok (.node ["output"] (.dir settled)) := by
    rw [filled, (seeks_machineOf (by decide) _).walk_of_get? rfl (by simp)]
    exact FileTree.walk_of_node? rfl
  rw [hsteps]
  exact hwalk

theorem holds_filled : Store.holds ⟨"output"⟩ antlr filled = true := by
  have hlook : Store.lookup ⟨"output"⟩ antlr filled = some (["output"], some (.file 0)) :=
    lookup_stage antlr settled [⟨0o644, bytesOf "done", 0⟩]
  exact Store.holds_iff.2 ⟨_, by decide +kernel, Store.slot_of_file hlook⟩

theorem clean_filled : Store.clean ⟨"output"⟩ filled = (.ok true, swept) := by
  have hdir : filled.isDir [] "output" = true :=
    FileTree.isDir_iff.2 ⟨_, _, FileTree.stat_eq_ok_iff.2 (locate_filled (by decide))⟩
  have hclear : filled.clear ["output"] (.dir settled) = (.ok (), emptied) := rfl
  have hparent : emptied.locateParent [] "output" =
      .ok ([], [("output", .dir [])], .name "output") := by
    have hwalk : emptied.walk .target linkMax [] [] = .ok (.node [] (.dir [("output", .dir [])])) :=
      FileTree.walk_of_node? rfl
    exact FileTree.locateParent_of_walk rfl hwalk rfl
  have hempty : emptied.removeDir [] "output" = .ok swept := by
    unfold FileTree.removeDir
    rw [hparent]
    rfl
  have hbase : (emptied.moves.drop filled.moves.length).foldl Place.after [] = [] := rfl
  have hremove : filled.removeDirAll [] "output" = (.ok (), swept) := by
    unfold FileTree.removeDirAll
    rw [locate_filled (by decide)]
    simp [hclear, hbase, hempty]
  have hcwd : filled.cwd = [] := rfl
  simp [Store.clean, hcwd, hdir, hremove]

/-- The output root is made again where it was. -/
theorem prepare_swept : ∃ t, Store.prepare ⟨"output"⟩ swept = (.ok true, t) := by
  have hdir : swept.node? [] = some (.dir []) := rfl
  have hseek : swept.Seeks [] [] "output" := ⟨plainName_of_mem (by decide), hdir, by decide⟩
  have hfound : swept.found? [] "output" = none := by
    have hlocate : swept.locate [] .target "output" = .ok (.absent [] "output") :=
      FileTree.locate_eq_ok_iff.2 ⟨rfl, hseek.walk_of_get?_eq_none rfl⟩
    rw [FileTree.found?, FileTree.stat, hlocate]
    rfl
  have hparent : swept.locateParent [] "output" = .ok ([], [], .name "output") := by
    exact FileTree.locateParent_of_walk rfl (FileTree.walk_of_node? hdir) rfl
  obtain ⟨t, hmake⟩ : ∃ t, swept.makeDir [] "output" = .ok t := by
    unfold FileTree.makeDir
    rw [hparent]
    exact ⟨_, rfl⟩
  refine ⟨t, Store.prepare_of_found?_eq_none hfound ?_⟩
  have hall : swept.makeDirAll [] "output" = (.ok (), t) := by
    simp [FileTree.makeDirAll, FileTree.climb, hmake, FileTree.descend]
  exact hall

/-! ### Results elsewhere -/

/-- A run of one job that has a result finds it. -/
theorem outcome_of_held {d : Scheduler} {w : World (List Call)} (rules : List Rule) {job : Job}
    (hbatch : d.config.interactive = false) (hheld : d.store.holds job w.files = true) :
    (d.run (launch rules) [job] w).1.records.map Record.outcome = [.skippedCached] := by
  simp [Scheduler.run, Scheduler.runJobs, Scheduler.recordJob, Scheduler.runJob, hbatch, hheld,
    Scheduler.skipCached]

/-- The machine with the result in a directory of another name. -/
def resultInOld : FileTree := machineOf [("old", .dir settled)]

/-- The same machine with a new directory. -/
def renewed : FileTree :=
  (resultInOld.put ["new"] (.dir [])).setDirInfo ["new"] ⟨unmasked 0o777 usualMask, 0⟩

/-- The new directory is missing, and what is behind it is not found. -/
theorem walk_resultInOld (rest : List String) :
    resultInOld.walk .target linkMax [] ("new" :: rest) =
      if rest = [] then .ok (.absent [] "new") else .error .noEntry :=
  (seeks_machineOf (by decide) _).walk_of_get?_eq_none rfl

theorem node?_renewed :
    renewed.node? [] = some (.dir [("old", .dir settled), ("new", .dir [])]) := rfl

theorem seeks_renewed {n : String} (h : n ∈ ["output", "new", "old"]) :
    renewed.Seeks [] [("old", .dir settled), ("new", .dir [])] n :=
  ⟨plainName_of_mem h, node?_renewed, by decide⟩

/-- The new directory is empty. -/
theorem walk_new : renewed.walk .target linkMax [] ["new"] = .ok (.node ["new"] (.dir [])) := by
  rw [(seeks_renewed (by decide)).walk_of_get? rfl (by simp)]
  exact FileTree.walk_of_node? rfl

/-- There is a way up from the new directory. -/
theorem walk_new_up (rest : List String) :
    renewed.walk .target linkMax [] ("new" :: ".." :: rest) =
      renewed.walk .target linkMax [] rest := by
  have hdir : renewed.node? ["new"] = some (.dir []) := rfl
  have hpass : Right.pass.isIn (renewed.dirInfo ["new"]).mode = true := by decide
  rw [(seeks_renewed (by decide)).walk_of_get? rfl (by simp), FileTree.walk]
  simp [hdir, hpass]

theorem walk_renewed :
    renewed.walk .target linkMax [] [] =
      .ok (.node [] (.dir [("old", .dir settled), ("new", .dir [])])) :=
  FileTree.walk_of_node? node?_renewed

/-- The way up leads to the result. -/
theorem walk_old :
    renewed.walk .target linkMax [] ["new", "..", "old"] = .ok (.node ["old"] (.dir settled)) := by
  rw [walk_new_up, (seeks_renewed (by decide)).walk_of_get? rfl (by simp)]
  exact FileTree.walk_of_node? rfl

theorem found?_resultInOld : resultInOld.found? [] "new/../old" = none := by
  have hcheck : FileTree.checkPath "new/../old" = .ok () := rfl
  have hsteps : Aim.target.steps "new/../old" = ["new", "..", "old"] := by decide
  have hstart : FileTree.start [] "new/../old" = [] := rfl
  rw [FileTree.found?, FileTree.stat, FileTree.locate, hcheck, hsteps, hstart, walk_resultInOld]
  rfl

theorem clean_resultInOld : Store.clean ⟨"new/../old"⟩ resultInOld = (.ok false, resultInOld) :=
  Store.clean_of_found?_eq_none found?_resultInOld

theorem makeDir_resultInOld :
    resultInOld.makeDir [] "new/../old" = .error (.os .noEntry) ∧
      resultInOld.makeDir [] "new/.." = .error (.os .noEntry) ∧ resultInOld.makeDir [] "new" = .ok renewed := by
  refine ⟨?_, ?_, ?_⟩
  · rw [FileTree.makeDir, FileTree.locateParent_of_error rfl (walk_resultInOld [".."])]
    rfl
  · rw [FileTree.makeDir, FileTree.locateParent_of_absent rfl (walk_resultInOld [])]
    rfl
  · rw [FileTree.makeDir, FileTree.locateParent_of_walk rfl (walk_machineOf _) rfl]
    rfl

theorem isDir_renewed {path : String} {place : Place} {es : List (String × Node)}
    (hcheck : FileTree.checkPath path = .ok ())
    (hw : renewed.walk .target linkMax (FileTree.start [] path) (Aim.target.steps path) =
      .ok (.node place (.dir es))) : renewed.isDir [] path = true :=
  FileTree.isDir_iff.2
    ⟨place, es, FileTree.stat_eq_ok_iff.2 (FileTree.locate_eq_ok_iff.2 ⟨hcheck, hw⟩)⟩

/-- What is on the way down from the new directory is there already. -/
theorem descend_renewed :
    FileTree.descend [] ["new/..", "new/../old"] renewed = (.ok (), renewed) := by
  have hup : renewed.makeDir [] "new/.." = .error (.os .exist) := by
    rw [FileTree.makeDir, FileTree.locateParent_of_walk rfl walk_new (by decide +kernel)]
    rfl
  have hold : renewed.makeDir [] "new/../old" = .error (.os .exist) := by
    have hwalk := (walk_new_up []).trans walk_renewed
    rw [FileTree.makeDir, FileTree.locateParent_of_walk rfl hwalk rfl]
    rfl
  have hupDir : renewed.isDir [] "new/.." = true :=
    isDir_renewed rfl ((walk_new_up []).trans walk_renewed)
  have holdDir : renewed.isDir [] "new/../old" = true := isDir_renewed rfl walk_old
  simp [FileTree.descend, hup, hold, hupDir, holdDir]

/-- The new directory is made on the way to the old one, and nothing else. -/
theorem prepare_resultInOld : Store.prepare ⟨"new/../old"⟩ resultInOld = (.ok true, renewed) := by
  obtain ⟨hold, hup, hnew⟩ := makeDir_resultInOld
  have hancestors : Path.ancestors "new/../old" = ["new/..", "new", ""] := by decide
  have hall : resultInOld.makeDirAll [] "new/../old" = (.ok (), renewed) := by
    simp [FileTree.makeDirAll, FileTree.climb, hancestors, hold, hup, hnew, descend_renewed]
  exact Store.prepare_of_found?_eq_none found?_resultInOld hall

/-- The result is found by every output root that leads to the directory it is in. -/
theorem holds_of_directory? {root : String} {t : FileTree} {dir : Place}
    (hcheck : FileTree.checkPath (Store.artifact ⟨root⟩ antlr) = .ok ())
    (hdir : Store.directory? ⟨root⟩ t = some dir)
    (hpass : Right.pass.isIn (t.dirInfo dir).mode = true)
    (hnode : t.node? (dir ++ [Store.artifactName antlr]) = some (.file 0))
    (hfiles : t.files = (machineOf []).files) : Store.holds ⟨root⟩ antlr t = true := by
  have hlook : Store.lookup ⟨root⟩ antlr t = some (dir, some (.file 0)) :=
    Store.lookup_eq_some_iff.2 ⟨hcheck, hdir, hpass, hnode⟩
  refine Store.holds_iff.2 ⟨bytesOf "done", by decide +kernel, ?_⟩
  rw [Store.slot_of_file hlook, Store.contents, FileTree.file?, hfiles]
  rfl

theorem holds_renewed : Store.holds ⟨"new/../old"⟩ antlr renewed = true := by
  have hdir : Store.directory? ⟨"new/../old"⟩ renewed = some ["old"] :=
    Store.directory?_eq_some_iff.2 ⟨⟨_, walk_old⟩, _, rfl⟩
  exact holds_of_directory? rfl hdir (by decide) rfl rfl

theorem holds_machineOf : Store.holds ⟨""⟩ antlr (machineOf settled) = true := by
  have hdir : Store.directory? ⟨""⟩ (machineOf settled) = some [] :=
    Store.directory?_eq_some_iff.2 ⟨⟨_, walk_machineOf settled⟩, _, rfl⟩
  exact holds_of_directory? rfl hdir (by decide) rfl rfl

end Rehearsal

/-! ### Removing the output root -/

/-- **What removing the output root leaves, and what a run then finds.**  When it has been removed, or
was not there, no result is found.  None is found either when the output root has been made usable
again, if it goes up from nothing that is not there, and a run that begins then takes no job for a
result that it did not leave itself.  All this is about an output root that is not the empty path:
for that one nothing is done at all.  Removing the output root and making it usable fail because of
what is in the way exactly if it leads to something that is no directory, and leave everything as it
is. -/
theorem Store.clean_forgets (s : Store) (t : FileTree) :
    (s.root ≠ "" → ∀ removed t₁, s.clean t = (.ok removed, t₁) →
      (∀ job, s.holds job t₁ = false) ∧
      (t₁.Steady t₁.cwd s.root → ∀ made t₂, s.prepare t₁ = (.ok made, t₂) →
        (∀ job, s.holds job t₂ = false) ∧
        ∀ (d : Scheduler) (launch : Launcher ε) (jobs : List Job) (w : World ε),
          d.store = s → s.Confines launch → w.files = t₂ →
          ∀ before r after, (d.run launch jobs w).1.records = before ++ r :: after →
            (∀ q ∈ before, q.job ≠ r.job) → r.outcome ≠ .skippedCached)) ∧
    (s.root = "" → s.clean t = (.ok false, t) ∧ s.prepare t = (.ok true, t)) ∧
    ∀ p t', (s.clean t = (.error (.conflict p), t') ↔ s.Obstructed t ∧ p = s.root ∧ t' = t) ∧
      (s.prepare t = (.error (.conflict p), t') ↔ s.Obstructed t ∧ p = s.root ∧ t' = t) := by
  refine ⟨?_, clean_of_empty, fun p t' => ⟨clean_eq_conflict_iff, prepare_eq_conflict_iff⟩⟩
  intro hne removed t₁ hclean
  have hbare := bare_clean hne hclean
  refine ⟨holds_of_bare hbare, fun hsteady made t₂ hprepare => ?_⟩
  have hstill := bare_prepare hne hbare hsteady hprepare
  refine ⟨holds_of_bare hstill, ?_⟩
  rintro d launch jobs w rfl hlaunch rfl before r after hrun hfirst
  exact Scheduler.first_visit_not_cached hstill hlaunch hrun hfirst

namespace Rehearsal

/-- A result in the standard output root is not found again when that has been removed. -/
theorem result_forgotten_by_clean :
    Store.holds ⟨"output"⟩ antlr filled = true ∧
      Store.clean ⟨"output"⟩ filled = (.ok true, swept) ∧
      ∃ t, Store.prepare ⟨"output"⟩ swept = (.ok true, t) ∧ Store.holds ⟨"output"⟩ antlr t = false ∧
        ∀ r after, ((schedulerAt "output").run (launch []) [antlr] ⟨t, [], 0, none, []⟩).1.records =
          r :: after → r.outcome ≠ .skippedCached := by
  obtain ⟨t, hprepare⟩ := prepare_swept
  have hsteady : swept.Steady swept.cwd "output" := FileTree.steady_of_not_mem (by decide)
  have hforgets := @Store.clean_forgets (List Call) ⟨"output"⟩ filled
  obtain ⟨hnone, hrun⟩ :=
    (hforgets.1 (by decide) true swept clean_filled).2 hsteady true t hprepare
  refine ⟨holds_filled, clean_filled, t, hprepare, hnone antlr, fun r after hrecords => ?_⟩
  exact hrun (schedulerAt "output") (launch []) [antlr] ⟨t, [], 0, none, []⟩ rfl (confined _ []) rfl
    [] r after hrecords (by simp)

/-- **Two output roots that keep a result when they are removed.**  One goes up from a directory that
is missing: there is nothing to remove, and the directory is made when the output root is made usable.
The other one is empty. -/
theorem result_survives_clean :
    (Store.clean ⟨"new/../old"⟩ resultInOld = (.ok false, resultInOld) ∧
      Store.prepare ⟨"new/../old"⟩ resultInOld = (.ok true, renewed) ∧
      ((schedulerAt "new/../old").run (launch []) [antlr] ⟨renewed, [], 0, none, []⟩).1.records.map
        Record.outcome = [.skippedCached]) ∧
    Store.clean ⟨""⟩ (machineOf settled) = (.ok false, machineOf settled) ∧
      Store.prepare ⟨""⟩ (machineOf settled) = (.ok true, machineOf settled) ∧
      ((schedulerAt "").run (launch []) [antlr] ⟨machineOf settled, [], 0, none, []⟩).1.records.map
        Record.outcome = [.skippedCached] := by
  obtain ⟨hclean, hprepare⟩ := Store.clean_of_empty (s := ⟨""⟩) (t := machineOf settled) rfl
  exact ⟨⟨clean_resultInOld, prepare_resultInOld, outcome_of_held [] rfl holds_renewed⟩,
    hclean, hprepare, outcome_of_held [] rfl holds_machineOf⟩

end Rehearsal

end BatchRunner
