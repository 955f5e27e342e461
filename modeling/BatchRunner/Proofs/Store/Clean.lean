/-
**Removing the output root forgets what was in it.**

The output root is looked at in three ways: as it is given when it is removed and when it is made, and
with the name of an artifact behind it when a result is asked for.  An output root that is removed
leaves no artifact behind, whatever the root looks like, unless it is the empty path: that is never a
directory, but artifacts below it are looked for in the starting directory.

Main definitions:

* `Store.Obstructed` — the output root leads to something that is no directory.

Main results:

* `Store.bare_clean` — **no artifact is left when the output root has been removed**;
* `Store.bare_prepare` — **none appears when a steady output root is made usable again**;
* `Store.clean_of_empty` — nothing is done about an output root that is the empty path;
* `Store.clean_eq_conflict_iff`, `Store.prepare_eq_conflict_iff` — **only something that is no
  directory is in the way**, and it is left alone.
-/
import BatchRunner.Proofs.Files.Hollow
import BatchRunner.Proofs.Store.Change

set_option autoImplicit false

namespace BatchRunner.Store

variable {s : Store} {t t' : FileTree} {job : Job} {made removed : Bool}

/-! ### Stores without artifacts -/

theorem holds_of_bare (h : s.Bare t) (job : Job) : s.holds job t = false := by
  rw [Bool.eq_false_iff]
  intro hheld
  obtain ⟨b, -, hslot⟩ := holds_iff.1 hheld
  exact h.slot_ne b hslot

/-- There are no artifacts below a path that leads to no directory with anything in it. -/
theorem bare_of_hollow (h : t.Hollow t.cwd s.root) : s.Bare t := by
  intro job dir x hlook
  obtain ⟨-, hdir, -, hx⟩ := lookup_eq_some_iff.1 hlook
  obtain ⟨⟨y, hwalk⟩, -⟩ := directory?_eq_some_iff.1 hdir
  have hall : t.walk .target linkMax (FileTree.start t.cwd s.root) ([] ++ Path.pieces s.root) =
      .ok (.node dir y) := hwalk
  have hnone := h dir y (FileTree.walk_filter hall) (artifactName job)
  rw [hnone] at hx
  cases hx

/-- What is refused of the output root is refused of its artifacts. -/
theorem checkPath_root (hne : s.root ≠ "") (h : FileTree.checkPath (s.artifact job) = .ok ()) :
    FileTree.checkPath s.root = .ok () := by
  have hjoin : ∃ rest, s.artifact job = s.root ++ rest := by
    simp only [artifact, Path.join, (isName_artifactName job).not_isAbsolute, Bool.false_eq_true,
      if_false]
    split
    · exact ⟨artifactName job, rfl⟩
    · exact ⟨"/" ++ artifactName job, String.append_assoc⟩
  obtain ⟨rest, hrest⟩ := hjoin
  unfold FileTree.checkPath at h ⊢
  split at h
  · cases h
  · next hnul =>
      split at h
      · cases h
      · split at h
        · cases h
        · next hlong =>
            rw [hrest, String.toList_append, List.any_append, Bool.or_eq_true, not_or] at hnul
            rw [hrest, String.utf8ByteSize_append] at hlong
            rw [if_neg hnul.1, if_neg hne, if_neg (by omega)]

/-- There are no artifacts below a path that leads nowhere, unless it is empty. -/
theorem bare_of_absent (hne : s.root ≠ "") (h : t.isPresent t.cwd s.root = false) : s.Bare t := by
  intro job dir x hlook
  obtain ⟨hcheck, hdir, -⟩ := lookup_eq_some_iff.1 hlook
  obtain ⟨⟨y, hwalk⟩, es, hnode⟩ := directory?_eq_some_iff.1 hdir
  have hsteps : ∃ z, t.walk .target linkMax (FileTree.start t.cwd s.root) (stepsOf s.root) =
      .ok (.node dir z) := by
    unfold stepsOf
    split
    · cases t.leads linkMax (FileTree.start t.cwd s.root) (Path.pieces s.root) with
      | nowhere missed _ => exact absurd hwalk (missed dir y)
      | somewhere dir' y' links' reached onward =>
          obtain ⟨rfl, rfl⟩ : dir = dir' ∧ y = y' := by simpa [hwalk] using reached
          refine ⟨.dir es, ?_⟩
          rw [onward .target [""] (by simp)]
          simp [FileTree.walk, hnode]
    · exact ⟨y, by rw [List.append_nil, hwalk]⟩
  obtain ⟨z, hz⟩ := hsteps
  have hstat : t.stat t.cwd s.root = .ok (dir, z) :=
    FileTree.stat_eq_ok_iff.2 (FileTree.locate_eq_ok_iff.2 ⟨checkPath_root hne hcheck, hz⟩)
  rw [FileTree.isPresent, FileTree.found?, hstat] at h
  cases h

/-! ### Removing and making -/

/-- **No artifact is left when the output root has been removed**, or was not there. -/
theorem bare_clean (hne : s.root ≠ "") (h : s.clean t = (.ok removed, t')) : s.Bare t' := by
  unfold clean at h
  split at h
  · split at h
    · next u hremove =>
        obtain rfl : u = t' := (Prod.mk.inj h).2
        refine bare_of_hollow ?_
        have hleaves := t.leaves_removeDirAll t.cwd s.root
        rw [hremove] at hleaves
        rw [hleaves.cwd]
        exact FileTree.hollow_removeDirAll hremove
    · cases h
  · split at h
    · cases h
    · next habsent =>
        obtain rfl : t = t' := (Prod.mk.inj h).2
        exact bare_of_absent hne (Bool.eq_false_iff.2 habsent)

/-- **None appears when a steady output root is made usable.** -/
theorem bare_prepare (hne : s.root ≠ "") (hbare : s.Bare t) (hsteady : t.Steady t.cwd s.root)
    (h : s.prepare t = (.ok made, t')) : s.Bare t' := by
  have hcwd : t'.cwd = t.cwd := by
    have hfurnished := s.furnished_prepare t
    rw [h] at hfurnished
    exact hfurnished.cwd
  unfold prepare at h
  split at h
  · obtain rfl : t = t' := (Prod.mk.inj h).2
    exact hbare
  · next hdir =>
      split at h
      · cases h
      · split at h
        · next u hmake =>
            obtain rfl : u = t' := (Prod.mk.inj h).2
            refine bare_of_hollow ?_
            rw [hcwd]
            exact FileTree.hollow_makeDirAll hne (Bool.eq_false_iff.2 hdir) hsteady hmake
        · cases h

/-- There is nothing to remove where the output root leads nowhere. -/
theorem clean_of_found?_eq_none (h : t.found? t.cwd s.root = none) : s.clean t = (.ok false, t) := by
  simp [clean, FileTree.isDir, FileTree.isPresent, h]

/-- An output root that leads nowhere is made. -/
theorem prepare_of_found?_eq_none (h : t.found? t.cwd s.root = none)
    (hmake : t.makeDirAll t.cwd s.root = (.ok (), t')) : s.prepare t = (.ok true, t') := by
  simp [prepare, FileTree.isDir, FileTree.isPresent, h, hmake]

/-- The empty path is no directory, and need not be made. -/
theorem clean_of_empty (h : s.root = "") :
    s.clean t = (.ok false, t) ∧ s.prepare t = (.ok true, t) := by
  have hfound : t.found? t.cwd s.root = none := by
    rw [h]
    rfl
  exact ⟨clean_of_found?_eq_none hfound, prepare_of_found?_eq_none hfound (if_pos h)⟩

/-! ### What is in the way -/

/-- The output root leads to something that is no directory. -/
def Obstructed (s : Store) (t : FileTree) : Prop :=
  ∃ place x, t.stat t.cwd s.root = .ok (place, x) ∧ x.isDir = false

theorem obstructed_iff :
    s.Obstructed t ↔ t.isDir t.cwd s.root = false ∧ t.isPresent t.cwd s.root = true := by
  unfold Obstructed FileTree.isDir FileTree.isPresent FileTree.found?
  cases hstat : t.stat t.cwd s.root with
  | error e => simp
  | ok found =>
      obtain ⟨place, x⟩ := found
      simp

/-- **Removing the output root fails because of what is in its way** exactly if something is, and
leaves everything as it is. -/
theorem clean_eq_conflict_iff {p : String} :
    s.clean t = (.error (.conflict p), t') ↔ s.Obstructed t ∧ p = s.root ∧ t' = t := by
  rw [obstructed_iff]
  unfold clean
  cases hdir : t.isDir t.cwd s.root with
  | true =>
      cases hremove : t.removeDirAll t.cwd s.root with
      | mk result u => cases result <;> simp
  | false => cases hpresent : t.isPresent t.cwd s.root <;> simp [eq_comm]

/-- **Making the output root usable fails because of what is in its way** exactly if something is, and
leaves everything as it is. -/
theorem prepare_eq_conflict_iff {p : String} :
    s.prepare t = (.error (.conflict p), t') ↔ s.Obstructed t ∧ p = s.root ∧ t' = t := by
  rw [obstructed_iff]
  unfold prepare
  cases hdir : t.isDir t.cwd s.root with
  | true => simp
  | false =>
      cases hpresent : t.isPresent t.cwd s.root with
      | true => simp [eq_comm]
      | false =>
          cases hmake : t.makeDirAll t.cwd s.root with
          | mk result u => cases result <;> simp

end BatchRunner.Store
