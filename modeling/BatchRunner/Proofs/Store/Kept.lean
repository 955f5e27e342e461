/-
**What the work on jobs leaves alone.**

As long as nothing is done but making artifacts and writing to them, everything else in the tree is
kept: every other file, every link and every directory, and which places are one file.  So two trees
that came about in this way from the same one can differ in their artifacts only, and if these are in
the same state the trees cannot be told apart.

Main definitions:

* `Store.Kept` — everything but the artifacts is kept.

Main results:

* `Store.Kept.addFile`, `Store.Kept.opens`, `Store.Kept.rewritten` — making an artifact, opening it,
  and writing to it;
* `Store.Kept.same` — **trees that kept the same and have the same sites cannot be told apart**.
-/
import BatchRunner.Proofs.Store.Site

set_option autoImplicit false

namespace BatchRunner.Store

variable {s : Store} {job : Job} {t₀ t t' : FileTree} {dir place : Place} {id : Nat} {f : File}

/-- Everything but the artifacts is kept.  An artifact is where it was, or it is new; a new one has a
number that no file had before. -/
structure Kept (s : Store) (t₀ t : FileTree) : Prop where
  grows : t₀.Grows t
  entry : ∀ job, s.lookup job t = s.lookup job t₀ ∨ ∃ dir id, s.lookup job t₀ = some (dir, none) ∧
    s.lookup job t = some (dir, some (.file id)) ∧ t₀.files.length ≤ id
  fresh : ∀ {place x}, t₀.node? place = none → t.node? place = some x →
    ∃ job dir, s.lookup job t₀ = some (dir, none) ∧ place = dir ++ [artifactName job]
  file : ∀ id, id < t₀.files.length → (∀ job, s.fileOf? job t₀ ≠ some id) →
    t.file? id = t₀.file? id
  length : t₀.files.length ≤ t.files.length
  seals : t.seals = t₀.seals
  mask : t.mask = t₀.mask
  moves : t.moves = t₀.moves

namespace Kept

theorem refl (s : Store) (t : FileTree) : s.Kept t t where
  grows := .of_eq rfl rfl rfl
  entry _ := .inl rfl
  fresh hnone hx := absurd (hnone.symm.trans hx) (by simp)
  file _ _ _ := rfl
  length := Nat.le_refl _
  seals := rfl
  mask := rfl
  moves := rfl

/-- The file of an artifact was its file before, or it is new. -/
theorem fileOf?_before (h : s.Kept t₀ t) (hid : s.fileOf? job t = some id) :
    s.fileOf? job t₀ = some id ∨ t₀.files.length ≤ id := by
  obtain ⟨dir, hlook⟩ := fileOf?_eq_some_iff.1 hid
  rcases h.entry job with hsame | ⟨dir', id', -, hnew, hle⟩
  · exact .inl (fileOf?_eq_some_iff.2 ⟨dir, hsame.symm.trans hlook⟩)
  · obtain ⟨-, rfl⟩ : dir' = dir ∧ id' = id := by simpa [hnew] using hlook
    exact .inr hle

theorem fileOf?_after (h : s.Kept t₀ t) (hid : s.fileOf? job t₀ = some id) :
    s.fileOf? job t = some id := by
  obtain ⟨dir, hlook⟩ := fileOf?_eq_some_iff.1 hid
  rcases h.entry job with hsame | ⟨dir', id', hvacant, -⟩
  · exact fileOf?_eq_some_iff.2 ⟨dir, hsame.trans hlook⟩
  · exact absurd (hvacant.symm.trans hlook) (by simp)

/-- An artifact that was missing is still missing, or has a number that no file had before. -/
theorem vacant (h : s.Kept t₀ t) (hvacant : s.lookup job t₀ = some (dir, none)) :
    s.lookup job t = some (dir, none) ∨
      ∃ id, s.lookup job t = some (dir, some (.file id)) ∧ t₀.files.length ≤ id := by
  rcases h.entry job with hsame | ⟨dir', id, hvacant', hnew, hle⟩
  · exact .inl (hsame.trans hvacant)
  · obtain rfl : dir' = dir := by simpa [hvacant] using hvacant'.symm
    exact .inr ⟨id, hnew, hle⟩

/-! ### What may be done -/

/-- Artifacts may be written to. -/
theorem rewritten {touched : Nat → Prop} (h : s.Kept t₀ t) (hw : t.Rewritten touched t')
    (hown : ∀ id, touched id → ∃ job, s.fileOf? job t = some id) : s.Kept t₀ t' where
  grows := h.grows.trans (.of_eq hw.root hw.dirs hw.cwd)
  entry job := by
    rw [lookup_congr hw.root hw.dirs hw.cwd]
    exact h.entry job
  fresh hnone hx := by
    rw [FileTree.node?, hw.root] at hx
    exact h.fresh hnone hx
  file id hlt hother := by
    have huntouched : ¬ touched id := by
      intro htouched
      obtain ⟨job, hid⟩ := hown id htouched
      rcases h.fileOf?_before hid with hold | hle
      · exact hother job hold
      · exact absurd hlt (Nat.not_lt.2 hle)
    rw [hw.file id huntouched, h.file id hlt hother]
  length := by
    rw [hw.length]
    exact h.length
  seals := hw.seals.trans h.seals
  mask := hw.mask.trans h.mask
  moves := hw.moves.trans h.moves

/-- Artifacts may be made. -/
theorem addFile (h : s.Kept t₀ t) (hvacant : s.lookup job t = some (dir, none)) (f : File) :
    s.Kept t₀ (t.addFile (dir ++ [artifactName job]) f).2 where
  grows := h.grows.trans (grows_of_vacant hvacant)
  entry j := by
    by_cases hj : j = job
    · subst hj
      refine .inr ⟨dir, t.files.length, ?_, lookup_addFile_self hvacant, h.length⟩
      rcases h.entry j with hsame | ⟨dir', id, -, hnew, -⟩
      · rw [← hsame, hvacant]
      · exact absurd (hnew.symm.trans hvacant) (by simp)
    · rw [lookup_addFile_of_ne hvacant hj]
      exact h.entry j
  fresh {place x} hnone hx := by
    cases ht : t.node? place with
    | some y => exact h.fresh hnone ht
    | none =>
        obtain ⟨-, hd, -, -⟩ := lookup_eq_some_iff.1 hvacant
        obtain ⟨-, es, hdir⟩ := directory?_eq_some_iff.1 hd
        refine ⟨job, dir, ?_, FileTree.eq_of_node?_put hdir ht hx⟩
        rcases h.entry job with hsame | ⟨dir', id, -, hnew, -⟩
        · rw [← hsame, hvacant]
        · exact absurd (hnew.symm.trans hvacant) (by simp)
  file id hlt hother := by
    have hlt' : id < t.files.length := Nat.lt_of_lt_of_le hlt h.length
    rw [← h.file id hlt hother]
    simp [FileTree.addFile, FileTree.file?, List.getElem?_append_left hlt']
  length := by
    have hle := h.length
    simp only [FileTree.addFile, List.length_append, List.length_singleton]
    omega
  seals := h.seals
  mask := h.mask
  moves := h.moves

/-- Artifacts may be opened, and what is open then is the artifact. -/
theorem opens {h : Handle} (hk : s.Kept t₀ t) (ho : s.Opens job t h t') :
    s.Kept t₀ t' ∧ ∀ id, h.target = .file id → s.fileOf? job t' = some id := by
  cases ho with
  | made dir f hvacant _ =>
      refine ⟨hk.addFile hvacant f, fun id hid => ?_⟩
      obtain rfl : t.files.length = id := by simpa using hid
      exact fileOf?_addFile_self hvacant
  | emptied id own =>
      have hw : t.Rewritten (Eq id) (t.rewrite id []) := .rewrite rfl []
      refine ⟨hk.rewritten hw fun id' hid' => ⟨job, hid' ▸ own⟩, fun id' hid' => ?_⟩
      obtain rfl : id = id' := by simpa using hid'
      unfold fileOf? at own ⊢
      rw [lookup_congr hw.root hw.dirs hw.cwd, own]
  | device dir d there => exact ⟨hk, fun id hid => absurd hid (by simp)⟩

/-! ### What is seen afterwards -/

section Seen

variable (h : s.Kept t₀ t) (h' : s.Kept t₀ t') (hp : s.Plain t) (hp' : s.Plain t')
  (hsite : ∀ job, s.site job t' = s.site job t)

include h h' hp hp' hsite

/-- Both trees show the same under a number that stood at a place before. -/
theorem viewOf_file (hn : t₀.Numbered) (hold : t₀.node? place = some (.file id)) :
    t'.viewOf place (.file id) = t.viewOf place (.file id) := by
  by_cases hart : ∃ job, s.fileOf? job t₀ = some id
  · obtain ⟨job, hid₀⟩ := hart
    have hid := h.fileOf?_after hid₀
    have hid' := h'.fileOf?_after hid₀
    obtain ⟨f, hf⟩ := Option.isSome_iff_exists.1 (hp.unshared job id hid).1
    obtain ⟨g, hg⟩ := Option.isSome_iff_exists.1 (hp'.unshared job id hid').1
    have hsame := hsite job
    rw [site_of_file hid hf, site_of_file hid' hg] at hsame
    obtain ⟨hmode, hbytes⟩ : g.mode = f.mode ∧ g.bytes = f.bytes := by simpa using hsame
    simp [FileTree.viewOf, hf, hg, hmode, hbytes]
  · have hlt : id < t₀.files.length := by
      simpa [FileTree.file?] using hn place id hold
    have hother : ∀ job, s.fileOf? job t₀ ≠ some id := fun job hid => hart ⟨job, hid⟩
    simp [FileTree.viewOf, h.file id hlt hother, h'.file id hlt hother]

/-- A new artifact of one tree is a new artifact of the other, and shows the same. -/
theorem exists_new {x : Node} (hnone : t₀.node? place = none) (hx : t.node? place = some x) :
    ∃ job dir id id', place = dir ++ [artifactName job] ∧ x = .file id ∧
      s.lookup job t = some (dir, some (.file id)) ∧ t₀.files.length ≤ id ∧
      t'.node? place = some (.file id') ∧
      t'.viewOf place (.file id') = t.viewOf place (.file id) := by
  obtain ⟨job, dir, hvacant, rfl⟩ := h.fresh hnone hx
  obtain ⟨id, hnew, hle⟩ : ∃ id, s.lookup job t = some (dir, some (.file id)) ∧
      t₀.files.length ≤ id := by
    rcases h.vacant hvacant with hmissing | hnew
    · obtain ⟨-, -, -, hnode⟩ := lookup_eq_some_iff.1 hmissing
      exact absurd (hnode.symm.trans hx) (by simp)
    · exact hnew
  have hid := fileOf?_eq_some_iff.2 ⟨dir, hnew⟩
  obtain ⟨f, hf⟩ := Option.isSome_iff_exists.1 (hp.unshared job id hid).1
  have hsame := hsite job
  rw [site_of_file hid hf] at hsame
  -- the other tree has a file there too, for its site says so
  rcases h'.vacant hvacant with hmissing | ⟨id', hnew', -⟩
  · exact absurd ((site_of_vacant hmissing).symm.trans hsame) (by simp)
  · have hid' := fileOf?_eq_some_iff.2 ⟨dir, hnew'⟩
    obtain ⟨g, hg⟩ := Option.isSome_iff_exists.1 (hp'.unshared job id' hid').1
    rw [site_of_file hid' hg] at hsame
    obtain ⟨hmode, hbytes⟩ : g.mode = f.mode ∧ g.bytes = f.bytes := by simpa using hsame
    obtain ⟨-, -, -, hnode⟩ := lookup_eq_some_iff.1 hnew
    obtain ⟨-, -, -, hnode'⟩ := lookup_eq_some_iff.1 hnew'
    have hxid : x = .file id := Option.some.inj (hx.symm.trans hnode)
    refine ⟨job, dir, id, id', rfl, hxid, hnew, hle, hnode', ?_⟩
    simp [FileTree.viewOf, hf, hg, hmode, hbytes]

/-- What is seen in one tree is seen in the other. -/
theorem view?_of_view? (hn : t₀.Numbered) {view : FileTree.View}
    (hview : t.view? place = some view) : t'.view? place = some view := by
  obtain ⟨x, hx, rfl⟩ := Option.map_eq_some_iff.1 hview
  cases hold : t₀.node? place with
  | none =>
      obtain ⟨job, dir, id, id', -, rfl, -, -, hx', hsame⟩ := exists_new h h' hp hp' hsite hold hx
      rw [FileTree.view?, hx', Option.map_some, hsame]
  | some x₀ =>
      obtain ⟨y, hy, hlike⟩ := h.grows.node hold
      obtain ⟨y', hy', hlike'⟩ := h'.grows.node hold
      obtain rfl : x = y := Option.some.inj (hx.symm.trans hy)
      rw [FileTree.view?, hy', Option.map_some]
      cases x₀ with
      | dir es =>
          obtain ⟨es₁, rfl⟩ := hlike.exists_dir
          obtain ⟨es₂, rfl⟩ := hlike'.exists_dir
          rw [FileTree.viewOf, FileTree.viewOf, h.grows.mode, h'.grows.mode]
      | file id =>
          obtain rfl := hlike.eq_of_not_isDir rfl
          obtain rfl := hlike'.eq_of_not_isDir rfl
          rw [viewOf_file h h' hp hp' hsite hn hold]
      | link target | device d =>
          obtain rfl := hlike.eq_of_not_isDir rfl
          obtain rfl := hlike'.eq_of_not_isDir rfl
          rfl

/-- Places that are one file in one tree are one file in the other. -/
theorem oneFile_of_oneFile (hn : t₀.Numbered) {p q : Place} (hone : t.OneFile p q) :
    t'.OneFile p q := by
  obtain ⟨id, hpid, hqid⟩ := hone
  -- where the file stood before it stands in both trees, and its number is an old one
  have hkept : ∀ {r : Place} {x₀ : Node}, t₀.node? r = some x₀ → t.node? r = some (.file id) →
      t'.node? r = some (.file id) ∧ id < t₀.files.length := by
    intro r x₀ hold hr
    obtain ⟨y, hy, hlike⟩ := h.grows.node hold
    obtain ⟨y', hy', hlike'⟩ := h'.grows.node hold
    obtain rfl : .file id = y := Option.some.inj (hr.symm.trans hy)
    obtain rfl : x₀ = .file id := by
      rcases hlike with rfl | ⟨-, hdir⟩
      · rfl
      · exact absurd hdir (by simp [Node.isDir])
    obtain rfl := hlike'.eq_of_not_isDir rfl
    exact ⟨hy', by simpa [FileTree.file?] using hn r id hold⟩
  cases hp₀ : t₀.node? p with
  | some x₀ =>
      obtain ⟨hp₁, hlt⟩ := hkept hp₀ hpid
      cases hq₀ : t₀.node? q with
      | some y₀ => exact ⟨id, hp₁, (hkept hq₀ hqid).1⟩
      | none =>
          obtain ⟨job, dir, id', -, -, hid', -, hle, -⟩ := exists_new h h' hp hp' hsite hq₀ hqid
          obtain rfl : id = id' := by simpa using hid'
          exact absurd hlt (Nat.not_lt.2 hle)
  | none =>
      obtain ⟨job, dir, id', new, hplace, hid', hlook, hle, hnew, -⟩ :=
        exists_new h h' hp hp' hsite hp₀ hpid
      obtain rfl : id = id' := by simpa using hid'
      cases hq₀ : t₀.node? q with
      | some y₀ => exact absurd (hkept hq₀ hqid).2 (Nat.not_lt.2 hle)
      | none =>
          -- two new artifacts with one number are the same artifact
          obtain ⟨job', dir', id', -, hplace', hid', hlook', -⟩ :=
            exists_new h h' hp hp' hsite hq₀ hqid
          obtain rfl : id = id' := by simpa using hid'
          obtain rfl : job' = job := (hp.unshared job id (fileOf?_eq_some_iff.2 ⟨dir, hlook⟩)).2
            job' (fileOf?_eq_some_iff.2 ⟨dir', hlook'⟩)
          obtain rfl : dir' = dir := by simpa [hlook] using hlook'.symm
          obtain rfl : p = q := hplace.trans hplace'.symm
          exact ⟨new, hnew, hnew⟩

/-- **Trees that kept the same and have the same sites cannot be told apart.** -/
theorem same (hn : t₀.Numbered) : t.Same t' where
  view place := by
    ext view
    exact ⟨view?_of_view? h' h hp' hp (fun job => (hsite job).symm) hn,
      view?_of_view? h h' hp hp' hsite hn⟩
  oneFile p q :=
    ⟨oneFile_of_oneFile h' h hp' hp (fun job => (hsite job).symm) hn,
      oneFile_of_oneFile h h' hp hp' hsite hn⟩
  cwd := h'.grows.cwd.trans h.grows.cwd.symm
  seals := h'.seals.trans h.seals.symm
  mask := h'.mask.trans h.mask.symm
  moves := h'.moves.trans h.moves.symm

end Seen

end Kept

end BatchRunner.Store
