/-
**Paths seen from elsewhere.**

A relative path means something only together with the directory that it is seen from.  Joined to
the path of that directory it means the same wherever it is seen from: the names of the directory
lead there, and from there on the same names are followed, with as many links to spare as before.
The one thing that is lost is length: what is short enough for the system when it is seen from the
directory may be too long when the path of the directory stands in front of it.

Main definitions:

* `FileTree.IsPathOf` — an absolute path leads to a directory, and past no link;
* `Path.Anchored` — an absolute path means everywhere what another path means in a directory.

Main results:

* `FileTree.walk_append_of_walk` — **names that lead somewhere past no link can be left out in
  front** of others that are followed from there;
* `FileTree.isPathOf_path` — a place is the directory of its path;
* `Path.anchored_join` — **a path means everywhere what it means in a directory when the path of the
  directory is put in front of it**.
-/
import BatchRunner.Proofs.Files.Walk
import BatchRunner.Proofs.Path.Ancestors

set_option autoImplicit false

namespace BatchRunner

namespace FileTree

variable {t : FileTree} {here place : Place} {es : List (String × Node)} {ns ms : List String}
  {aim : Aim} {links : Nat} {x : Node} {cwd path : String}

/-! ### Names that lead past no link -/

/-- **Names that lead somewhere past no link can be left out in front of others.**  As many links
may be followed afterwards as before. -/
theorem walk_append_of_walk (hw : t.walk .target 0 here ns = .ok (.node place x)) :
    t.walk aim links here (ns ++ ms) = t.walk aim links place ms := by
  obtain ⟨spare, hspare⟩ : ∃ spare, spare = 0 := ⟨0, rfl⟩
  rw [← hspare] at hw
  fun_induction FileTree.walk t .target spare here ns with
  | case1 spare here y h | case2 spare here h hg =>
      obtain ⟨rfl, -⟩ := Found.node.inj (Except.ok.inj hw)
      rfl
  | case4 spare here n rest h hs ih =>
      rw [← ih hw hspare, List.cons_append, walk]
      simp [h, hs]
  | case5 spare here n rest h hs hd ih =>
      rw [← ih hw hspare, List.cons_append, walk]
      simp [h, hs, hd]
  | case7 spare here rest es h ih =>
      rw [← ih hw hspare, List.cons_append, walk]
      simp [h]
  | case9 spare here rest es h hp _ ih | case10 spare here rest es h hp _ _ ih =>
      rw [← ih hw hspare, List.cons_append, walk]
      simp [h, hp]
  | case19 spare here n rest es h hn hp hd hdd hs hl y hy hg ih =>
      have hseek : t.Seeks here es n := ⟨⟨hn, hd, hdd, hs, Nat.not_lt.1 hl⟩, h, by simpa using hp⟩
      rw [← ih hw hspare, List.cons_append, hseek.walk_of_get? hg hy]
  -- a link would have been followed
  | case18 => cases hspare
  | case15 _ _ _ _ _ _ _ _ _ _ _ _ _ _ hlast => exact absurd hlast.2 (by decide)
  | case3 | case6 | case8 | case11 | case12 | case13 | case14 | case16 | case17 | case20 =>
      exact absurd hw (by simp)

/-! ### The path of a directory -/

/-- **An absolute path leads to a directory, and past no link.**  It is what the system gives as the
path of the directory that somebody is in. -/
structure IsPathOf (t : FileTree) (cwd : String) (here : Place) : Prop where
  absolute : Path.isAbsolute cwd = true
  no_nul : '\x00' ∉ cwd.toList
  leads : ∃ es, t.walk .target 0 [] (Path.pieces cwd) = .ok (.node here (.dir es))

/-- From every directory above it a directory is reached by its names, past no link, if those on the
way may be passed. -/
theorem walk_below (hplain : ∀ n ∈ ns, PlainName n) (hdir : t.node? (here ++ ns) = some (.dir es))
    (hpass : ∀ dir, here <+: dir → dir <+: here ++ ns → dir ≠ here ++ ns →
      Right.pass.isIn (t.dirInfo dir).mode = true) :
    t.walk aim links here ns = .ok (.node (here ++ ns) (.dir es)) := by
  induction ns generalizing here with
  | nil =>
      rw [List.append_nil] at hdir ⊢
      rw [walk, hdir]
  | cons n ns ih =>
      have hsplit : here ++ n :: ns = here ++ [n] ++ ns := by simp
      obtain ⟨above, habove⟩ := exists_dir_of_node?_append (by simp) hdir
      have hseek : t.Seeks here above n :=
        ⟨hplain n List.mem_cons_self, habove,
          hpass here (List.prefix_refl _) (List.prefix_append _ _) (by simp)⟩
      rw [hsplit] at hdir hpass ⊢
      obtain ⟨next, hnext⟩ : ∃ next, t.node? (here ++ [n]) = some (.dir next) := by
        cases ns with
        | nil => exact ⟨es, by simpa using hdir⟩
        | cons m ns => exact exists_dir_of_node?_append (by simp) hdir
      have hget : Entries.get? n above = some (.dir next) := (node?_snoc habove).symm.trans hnext
      rw [hseek.walk_of_get? hget (by simp)]
      refine ih (fun m hm => hplain m (List.mem_cons_of_mem n hm)) hdir fun dir hfrom => ?_
      exact hpass dir ((List.prefix_append _ _).trans hfrom)

/-- **A directory is found by its path**, if those above it may be passed. -/
theorem isPathOf_path (hname : ∀ n ∈ here, Path.IsName n ∧ PlainName n)
    (hnul : '\x00' ∉ (Place.path here).toList) (hdir : t.node? here = some (.dir es))
    (hpass : ∀ dir, dir <+: here → dir ≠ here → Right.pass.isIn (t.dirInfo dir).mode = true) :
    t.IsPathOf (Place.path here) here := by
  have hnames : ∀ n ∈ here, Path.IsName n := fun n hn => (hname n hn).1
  have hpieces : Path.pieces (Place.path here) = here := Path.pieces_ofNames hnames true
  refine ⟨Path.isAbsolute_ofNames hnames true, hnul, es, ?_⟩
  rw [hpieces]
  exact walk_below (fun n hn => (hname n hn).2) hdir fun dir _ => hpass dir

/-! ### Paths that are refused -/

theorem checkPath_of_nul (h : '\x00' ∈ path.toList) : checkPath path = .error .nulInPath := by
  have hany : path.toList.any (· = '\x00') = true := by simpa using h
  rw [checkPath, if_pos hany]

/-- Of a path without a zero only its length is checked, if it is not empty. -/
theorem checkPath_of_no_nul (h : '\x00' ∉ path.toList) (hne : path ≠ "") :
    checkPath path =
      if pathMax ≤ path.utf8ByteSize then .error (.os .nameTooLong) else .ok () := by
  have hany : ¬ path.toList.any (· = '\x00') = true := by simpa using h
  rw [checkPath, if_neg hany, if_neg hne]

/-- A path is refused like the same path below a directory, unless only that one is too long. -/
theorem checkPath_join (hnul : '\x00' ∉ cwd.toList) (h : Path.isAbsolute path = false)
    (hne : path ≠ "")
    (hlong : pathMax ≤ (Path.join cwd path).utf8ByteSize → pathMax ≤ path.utf8ByteSize) :
    checkPath (Path.join cwd path) = checkPath path := by
  have hgap : '\x00' ∉ Path.gap cwd := by
    unfold Path.gap
    split <;> simp
  have hmem : '\x00' ∈ (Path.join cwd path).toList ↔ '\x00' ∈ path.toList := by
    simp [Path.toList_join h, hnul, hgap]
  by_cases hzero : '\x00' ∈ path.toList
  · rw [checkPath_of_nul hzero, checkPath_of_nul (hmem.2 hzero)]
  · have hsize : path.utf8ByteSize ≤ (Path.join cwd path).utf8ByteSize := by
      rw [Path.utf8ByteSize_join h]
      omega
    rw [checkPath_of_no_nul hzero hne,
      checkPath_of_no_nul (mt hmem.1 hzero) (Path.join_ne_empty hne)]
    by_cases hshort : pathMax ≤ path.utf8ByteSize
    · rw [if_pos hshort, if_pos (Nat.le_trans hshort hsize)]
    · rw [if_neg hshort, if_neg (mt hlong hshort)]

/-- A path that is too long leads nowhere. -/
theorem locate_of_long (hlong : pathMax ≤ path.utf8ByteSize) (t : FileTree) (base : Place)
    (aim : Aim) :
    t.locate base aim path =
      .error (if '\x00' ∈ path.toList then .nulInPath else .os .nameTooLong) := by
  have hne : path ≠ "" := by
    rintro rfl
    exact absurd hlong (by decide)
  unfold locate
  by_cases hzero : '\x00' ∈ path.toList
  · rw [checkPath_of_nul hzero, if_pos hzero]
    rfl
  · rw [checkPath_of_no_nul hzero hne, if_pos hlong, if_neg hzero]
    rfl

/-- A relative path below the path of a directory leads everywhere where it leads in the directory,
unless only the joined path is too long. -/
theorem IsPathOf.locate_join (hcwd : t.IsPathOf cwd here) (h : Path.isAbsolute path = false)
    (hne : path ≠ "")
    (hlong : pathMax ≤ (Path.join cwd path).utf8ByteSize → pathMax ≤ path.utf8ByteSize)
    (base : Place) (aim : Aim) :
    t.locate base aim (Path.join cwd path) = t.locate here aim path := by
  obtain ⟨es, hw⟩ := hcwd.leads
  have hstart : start base (Path.join cwd path) = [] := by
    rw [start, Path.isAbsolute_join_of_relative h, hcwd.absolute, if_pos rfl]
  have hstart' : start here path = here := by rw [start, h, if_neg Bool.false_ne_true]
  unfold locate
  rw [checkPath_join hcwd.no_nul h hne hlong, hstart, hstart', aim.steps_join_of_relative h hne,
    walk_append_of_walk hw]

end FileTree

/-! ### Paths that mean the same everywhere -/

namespace Path

/-- **The path `path` means everywhere what `given` means in the directory of the path `cwd`**,
unless only `path` is too long.  A path that is too long is refused everywhere. -/
structure Anchored (cwd given path : String) : Prop where
  absolute : isAbsolute path = true
  same : ∀ {t : FileTree} {here : Place}, t.IsPathOf cwd here →
    (pathMax ≤ path.utf8ByteSize → pathMax ≤ given.utf8ByteSize) →
      ∀ base aim, t.locate base aim path = t.locate here aim given
  refused : pathMax ≤ path.utf8ByteSize → ∀ (t : FileTree) base aim,
    t.locate base aim path =
      .error (if '\x00' ∈ path.toList then .nulInPath else .os .nameTooLong)

/-- **A path means everywhere what it means in a directory when the path of the directory is put in
front of it.** -/
theorem anchored_join {cwd path : String} (hcwd : isAbsolute cwd = true) (hne : path ≠ "") :
    Anchored cwd path (join cwd path) where
  absolute := isAbsolute_join_of_isAbsolute hcwd
  same := by
    intro t here hhere hlong base aim
    cases h : isAbsolute path with
    | true =>
        -- nothing is put in front of an absolute path, and it starts at the root anyway
        rw [join_of_isAbsolute h, FileTree.locate, FileTree.locate, FileTree.start,
          FileTree.start, h]
        rfl
    | false => exact hhere.locate_join h hne hlong base aim
  refused := FileTree.locate_of_long

end Path

end BatchRunner
