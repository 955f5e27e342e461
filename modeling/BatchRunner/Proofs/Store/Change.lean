/-
**What a job may change.**

Whoever carries out a job may make its artifact, if nothing is there, and may write to it as long as
it has the artifact open.  Both leave the artifacts of all other jobs alone, provided that no two
artifacts are the same file under two names.

Main definitions:

* `Store.fileOf?` — the file that is the artifact of a job;
* `Store.Spared` — nothing happens to a store but through a sink;
* `Store.Unshared`, `Store.Plain` — every artifact that is a file is a file of its own, and none is
  a link;
* `Store.Bare` — there are no artifacts;
* `Store.Change` — what carrying out a job may do.

Main results:

* `Store.lookup_addFile_self`, `Store.lookup_addFile_of_ne` — a new artifact, and the others;
* `Store.Change.linkless`, `Store.Change.unshared` — what is required of a store stays true;
* `Store.Change.slot_of_ne` — **no other job finds anything changed**;
* `Store.Change.slot_kept` — **a job without a result changes no result**.
-/
import BatchRunner.Proofs.Store.Artifact
import BatchRunner.World

set_option autoImplicit false

namespace BatchRunner

/-- Whether what is written to a sink ends up in the file with a number. -/
def Sink.Reaches : Sink → Nat → Prop
  | .inherit, _ => False
  | .file h, id => h.target = .file id

namespace Store

variable {s : Store} {job j : Job} {t t' t'' : FileTree} {dir : Place} {id : Nat} {f : File}
  {sink : Sink} {h : Handle}

def fileOf? (s : Store) (job : Job) (t : FileTree) : Option Nat :=
  match s.lookup job t with
  | some (_, some (.file id)) => some id
  | _ => none

theorem fileOf?_eq_some_iff :
    s.fileOf? job t = some id ↔ ∃ dir, s.lookup job t = some (dir, some (.file id)) := by
  unfold fileOf?
  constructor
  · intro hid
    split at hid
    · next dir id' hl =>
        obtain rfl : id' = id := by simpa using hid
        exact ⟨dir, hl⟩
    · exact absurd hid (by simp)
  · rintro ⟨dir, hl⟩
    simp [hl]

theorem directory?_grows (hg : t.Grows t') (hd : s.directory? t = some dir) :
    s.directory? t' = some dir := by
  obtain ⟨⟨x, hw⟩, es, hdir⟩ := directory?_eq_some_iff.1 hd
  obtain ⟨y, hw', -⟩ := hg.walk hw
  rw [← hg.cwd] at hw'
  exact directory?_eq_some_iff.2 ⟨⟨y, hw'⟩, hg.dir hdir⟩

/-- Artifacts are found by nodes, permissions and the starting directory alone. -/
theorem lookup_congr (hr : t'.root = t.root) (hp : t'.dirs = t.dirs) (hc : t'.cwd = t.cwd)
    (job : Job) : s.lookup job t' = s.lookup job t := by
  have hd : s.directory? t' = s.directory? t := by
    ext dir
    constructor
    · exact directory?_grows (.of_eq hr.symm hp.symm hc.symm)
    · exact directory?_grows (.of_eq hr hp hc)
  unfold lookup FileTree.dirInfo FileTree.node?
  rw [hd, hr, hp]

theorem lookup_setFile (t : FileTree) (id : Nat) (f : File) (job : Job) :
    s.lookup job (t.setFile id f) = s.lookup job t :=
  lookup_congr (by rfl) (by rfl) (by rfl) job

/-! ### Nothing but a sink -/

/-- Nothing happens to a store but through a sink: every artifact is still found where it was, and
those that are files still hold what they held, except for the file that the sink writes into. -/
structure Spared (s : Store) (sink : Sink) (t t' : FileTree) : Prop where
  lookup : ∀ job, s.lookup job t' = s.lookup job t
  file : ∀ {job id}, s.fileOf? job t = some id → ¬ sink.Reaches id → t'.file? id = t.file? id
  isSome : ∀ {job id}, s.fileOf? job t = some id → (t.file? id).isSome → (t'.file? id).isSome

namespace Spared

theorem refl (s : Store) (sink : Sink) (t : FileTree) : s.Spared sink t t :=
  ⟨fun _ => rfl, fun _ _ => rfl, fun _ hs => hs⟩

theorem fileOf? (h : s.Spared sink t t') (job : Job) : s.fileOf? job t' = s.fileOf? job t := by
  unfold Store.fileOf?
  rw [h.lookup job]

theorem trans (h : s.Spared sink t t') (h' : s.Spared sink t' t'') : s.Spared sink t t'' where
  lookup job := (h'.lookup job).trans (h.lookup job)
  file {job id} hid hr := by
    have hid' : s.fileOf? job t' = some id := by rw [h.fileOf?, hid]
    exact (h'.file hid' hr).trans (h.file hid hr)
  isSome {job id} hid hs := by
    have hid' : s.fileOf? job t' = some id := by rw [h.fileOf?, hid]
    exact h'.isSome hid' (h.isSome hid hs)

/-- Writing into a file is writing through a sink that leads there. -/
theorem setFile (hr : sink.Reaches id) : s.Spared sink t (t.setFile id f) where
  lookup job := lookup_setFile t id f job
  file {job id'} _ hn := by
    have hne : id' ≠ id := by
      rintro rfl
      exact hn hr
    exact FileTree.file?_setFile_of_ne hne f
  isSome {job id'} _ hs := by
    simpa [FileTree.setFile, FileTree.file?] using hs

/-- Emptying a file is writing through a sink that leads there. -/
theorem rewrite {bytes : Bytes} (hr : sink.Reaches id) : s.Spared sink t (t.rewrite id bytes) := by
  unfold FileTree.rewrite
  split
  · exact setFile hr
  · exact refl s sink t

/-- Writing through a handle is writing through the sink that it makes. -/
theorem write {bytes : Bytes} {written : FileTree × Handle} (hw : t.write h bytes = .ok written) :
    s.Spared (.file h) t written.1 := by
  unfold FileTree.write at hw
  split at hw
  · next id htarget =>
      split at hw
      · obtain rfl : (t, h) = written := by simpa using hw
        exact refl s _ t
      · obtain rfl := Except.ok.inj hw
        exact setFile htarget
  · split at hw
    · exact absurd hw (by simp)
    · obtain rfl : (t, h) = written := by simpa using hw
      exact refl s _ t

end Spared

/-! ### Making an artifact -/

theorem grows_addFile {es : List (String × Node)} {n : String} (hdir : t.node? dir = some (.dir es))
    (hfree : Entries.get? n es = none) (hn : (dir ++ [n]).isGone = false) :
    t.Grows (t.addFile (dir ++ [n]) f).2 :=
  (FileTree.Grows.put hdir hfree hn).trans (.of_eq rfl rfl rfl)

/-- A new artifact makes the tree grow. -/
theorem grows_of_vacant (hl : s.lookup job t = some (dir, none)) :
    t.Grows (t.addFile (dir ++ [artifactName job]) f).2 := by
  obtain ⟨-, hd, -, hx⟩ := lookup_eq_some_iff.1 hl
  obtain ⟨-, es, hdir⟩ := directory?_eq_some_iff.1 hd
  rw [FileTree.node?_snoc hdir] at hx
  exact grows_addFile hdir hx (isGone_snoc_artifactName dir job)

theorem lookup_addFile_self (hl : s.lookup job t = some (dir, none)) :
    s.lookup job (t.addFile (dir ++ [artifactName job]) f).2
      = some (dir, some (.file t.files.length)) := by
  have hg := grows_of_vacant (f := f) hl
  obtain ⟨hc, hd, hp, -⟩ := lookup_eq_some_iff.1 hl
  obtain ⟨-, es, hdir⟩ := directory?_eq_some_iff.1 hd
  refine lookup_eq_some_iff.2 ⟨hc, directory?_grows hg hd, ?_, ?_⟩
  · rw [hg.mode, hp]
  · exact FileTree.node?_put_self hdir

/-- A new artifact is not in the way of another one. -/
theorem lookup_addFile_of_ne (hl : s.lookup job t = some (dir, none)) (hj : j ≠ job) :
    s.lookup j (t.addFile (dir ++ [artifactName job]) f).2 = s.lookup j t := by
  have hg := grows_of_vacant (f := f) hl
  obtain ⟨-, hd, -, -⟩ := lookup_eq_some_iff.1 hl
  obtain ⟨-, es, hdir⟩ := directory?_eq_some_iff.1 hd
  -- the two places are apart: neither lies on the way to the other
  have habove : ¬ dir ++ [artifactName j] <+: dir := by
    intro hp
    have hle := hp.length_le
    rw [List.length_append, List.length_singleton] at hle
    omega
  have hbelow : ¬ dir ++ [artifactName job] <+: dir ++ [artifactName j] := by
    intro hp
    have hn : artifactName job = artifactName j := by
      simpa using (List.prefix_append_right_inj dir).1 hp
    exact hj (artifactName_injective hn).symm
  have hnode : (t.addFile (dir ++ [artifactName job]) f).2.node? (dir ++ [artifactName j])
      = t.node? (dir ++ [artifactName j]) := FileTree.node?_put_of_apart hdir habove hbelow
  unfold lookup
  simp only [hd, directory?_grows hg hd, Option.bind_some, hg.mode, hnode]

theorem file?_addFile_self (t : FileTree) (place : Place) (f : File) :
    (t.addFile place f).2.file? t.files.length = some f := by
  simp [FileTree.addFile, FileTree.file?]

/-- A new file is not one of those there were. -/
theorem file?_addFile_of_some {place : Place} {g : File} (hg : t.file? id = some g) :
    (t.addFile place f).2.file? id = some g := by
  have hlt : id < t.files.length := by
    simp only [FileTree.file?] at hg
    exact (List.getElem?_eq_some_iff.1 hg).1
  simpa [FileTree.addFile, FileTree.file?, List.getElem?_append_left hlt] using hg

theorem ne_length_of_file? {g : File} (hg : t.file? id = some g) : id ≠ t.files.length := by
  simp only [FileTree.file?] at hg
  exact Nat.ne_of_lt (List.getElem?_eq_some_iff.1 hg).1

/-! ### Slots that stay the same -/

/-- A job whose artifact is the same node with the same contents finds the same. -/
theorem slot_congr (hlookup : s.lookup j t' = s.lookup j t)
    (hlink : ∀ dir target, s.lookup j t ≠ some (dir, some (.link target)))
    (hfile : ∀ id, s.fileOf? j t = some id → t'.file? id = t.file? id) :
    s.slot j t' = s.slot j t := by
  cases hl : s.lookup j t with
  | none => rw [slot_of_lookup_eq_none hl, slot_of_lookup_eq_none (hlookup.trans hl)]
  | some found =>
      obtain ⟨dir, x?⟩ := found
      have hx : ∀ target, x? ≠ some (.link target) := by
        rintro target rfl
        exact hlink dir target hl
      rw [slot_of_lookup hl hx, slot_of_lookup (hlookup.trans hl) hx]
      cases x? with
      | none => rfl
      | some x =>
          cases x with
          | file id =>
              have hid := hfile id (fileOf?_eq_some_iff.2 ⟨dir, hl⟩)
              simp [slotOf, contents, hid]
          | _ => rfl

/-- What nothing is written to stays as it is. -/
theorem Spared.slot_eq (h : s.Spared .inherit t t') (hl : s.Linkless t) (job : Job) :
    s.slot job t' = s.slot job t :=
  slot_congr (h.lookup job) (hl job) fun _ hid => h.file hid not_false

/-! ### Requirements on a store -/

/-- Every artifact that is a file is a file of its own. -/
def Unshared (s : Store) (t : FileTree) : Prop :=
  ∀ job id, s.fileOf? job t = some id →
    (t.file? id).isSome = true ∧ ∀ j, s.fileOf? j t = some id → j = job

/-- There are no links among the artifacts: none is a symbolic link, and no two are one file. -/
structure Plain (s : Store) (t : FileTree) : Prop where
  linkless : s.Linkless t
  unshared : s.Unshared t

/-- There are no artifacts. -/
def Bare (s : Store) (t : FileTree) : Prop := ∀ job dir x, s.lookup job t ≠ some (dir, some x)

theorem Bare.plain (h : s.Bare t) : s.Plain t where
  linkless job dir target := h job dir (.link target)
  unshared job id hid := by
    obtain ⟨dir, hlook⟩ := fileOf?_eq_some_iff.1 hid
    exact absurd hlook (h job dir (.file id))

theorem Spared.linkless (h : s.Spared sink t t') (hl : s.Linkless t) : s.Linkless t' := by
  intro job dir target
  rw [h.lookup job]
  exact hl job dir target

theorem Spared.unshared (h : s.Spared sink t t') (hu : s.Unshared t) : s.Unshared t' := by
  intro job id hid
  rw [h.fileOf?] at hid
  refine ⟨h.isSome hid (hu job id hid).1, fun j hj => ?_⟩
  rw [h.fileOf?] at hj
  exact (hu job id hid).2 j hj

theorem fileOf?_addFile_self (hl : s.lookup job t = some (dir, none)) :
    s.fileOf? job (t.addFile (dir ++ [artifactName job]) f).2 = some t.files.length :=
  fileOf?_eq_some_iff.2 ⟨dir, lookup_addFile_self hl⟩

theorem fileOf?_addFile_of_ne (hl : s.lookup job t = some (dir, none)) (hj : j ≠ job) :
    s.fileOf? j (t.addFile (dir ++ [artifactName job]) f).2 = s.fileOf? j t := by
  unfold fileOf?
  rw [lookup_addFile_of_ne hl hj]

theorem linkless_addFile (hl : s.lookup job t = some (dir, none)) (h : s.Linkless t) :
    s.Linkless (t.addFile (dir ++ [artifactName job]) f).2 := by
  intro j place target
  by_cases hj : j = job
  · subst hj
    simp [lookup_addFile_self hl]
  · rw [lookup_addFile_of_ne hl hj]
    exact h j place target

theorem unshared_addFile (hl : s.lookup job t = some (dir, none)) (h : s.Unshared t) :
    s.Unshared (t.addFile (dir ++ [artifactName job]) f).2 := by
  have hfresh : ∀ j, j ≠ job → s.fileOf? j t ≠ some t.files.length := by
    intro j _ hid
    obtain ⟨g, hg⟩ := Option.isSome_iff_exists.1 (h j _ hid).1
    exact ne_length_of_file? hg rfl
  intro j id hid
  by_cases hj : j = job
  · subst hj
    obtain rfl : t.files.length = id := by simpa [fileOf?_addFile_self hl] using hid
    refine ⟨by simp [file?_addFile_self], fun j' hj' => ?_⟩
    by_cases hne : j' = j
    · exact hne
    · rw [fileOf?_addFile_of_ne hl hne] at hj'
      exact absurd hj' (hfresh j' hne)
  · rw [fileOf?_addFile_of_ne hl hj] at hid
    obtain ⟨g, hg⟩ := Option.isSome_iff_exists.1 (h j id hid).1
    refine ⟨by simp [file?_addFile_of_some hg], fun j' hj' => ?_⟩
    by_cases hjob : j' = job
    · subst hjob
      obtain rfl : t.files.length = id := by simpa [fileOf?_addFile_self hl] using hj'
      exact absurd hid (hfresh j hj)
    · rw [fileOf?_addFile_of_ne hl hjob] at hj'
      exact (h j id hid).2 j' hj'

/-! ### Changes -/

/-- What carrying out a job may do to a store. -/
inductive Change (s : Store) (job : Job) (t t' : FileTree) : Prop where
  /-- At most the contents of the artifact change. -/
  | written (sink : Sink) (own : ∀ id, sink.Reaches id → s.fileOf? job t = some id)
      (spared : s.Spared sink t t')
  /-- The artifact is made, and perhaps written to. -/
  | made (dir : Place) (f : File) (sink : Sink) (vacant : s.lookup job t = some (dir, none))
      (own : ∀ id, sink.Reaches id → id = t.files.length)
      (spared : s.Spared sink (t.addFile (dir ++ [artifactName job]) f).2 t')

namespace Change

theorem refl (s : Store) (job : Job) (t : FileTree) : s.Change job t t :=
  .written .inherit (fun _ h => h.elim) (.refl s _ t)

theorem linkless (h : s.Change job t t') (hl : s.Linkless t) : s.Linkless t' := by
  cases h with
  | written sink _ spared => exact spared.linkless hl
  | made dir f sink vacant _ spared => exact spared.linkless (linkless_addFile vacant hl)

theorem unshared (h : s.Change job t t') (hu : s.Unshared t) : s.Unshared t' := by
  cases h with
  | written sink _ spared => exact spared.unshared hu
  | made dir f sink vacant _ spared => exact spared.unshared (unshared_addFile vacant hu)

theorem plain (h : s.Change job t t') (hp : s.Plain t) : s.Plain t' :=
  ⟨h.linkless hp.linkless, h.unshared hp.unshared⟩

theorem lookup_of_ne (h : s.Change job t t') (hj : j ≠ job) : s.lookup j t' = s.lookup j t := by
  cases h with
  | written sink _ spared => exact spared.lookup j
  | made dir f sink vacant _ spared => rw [spared.lookup j, lookup_addFile_of_ne vacant hj]

/-- A file that is the artifact of another job, and not of this one as well, is left alone. -/
theorem file_of_ne (h : s.Change job t t') (hj : j ≠ job) (hid : s.fileOf? j t = some id)
    (hf : t.file? id = some f) (hown : s.fileOf? job t ≠ some id) : t'.file? id = some f := by
  cases h with
  | written sink own spared => rw [spared.file hid fun hr => hown (own id hr), hf]
  | made dir g sink vacant own spared =>
      have hid' : s.fileOf? j (t.addFile (dir ++ [artifactName job]) g).2 = some id := by
        rw [fileOf?_addFile_of_ne vacant hj, hid]
      rw [spared.file hid' fun hr => ne_length_of_file? hf (own id hr), file?_addFile_of_some hf]

/-- **No other job finds anything changed.** -/
theorem slot_of_ne (h : s.Change job t t') (hp : s.Plain t) (hj : j ≠ job) :
    s.slot j t' = s.slot j t := by
  refine slot_congr (h.lookup_of_ne hj) (hp.linkless j) fun id hid => ?_
  obtain ⟨f, hf⟩ := Option.isSome_iff_exists.1 (hp.unshared j id hid).1
  have hown : s.fileOf? job t ≠ some id := fun hown => hj ((hp.unshared job id hown).2 j hid)
  rw [h.file_of_ne hj hid hf hown, hf]

end Change

/-! ### Results -/

theorem slot_of_vacant (hlook : s.lookup job t = some (dir, none)) : s.slot job t = .vacant :=
  slot_of_lookup hlook (by simp)

theorem slot_of_file (hlook : s.lookup job t = some (dir, some (.file id))) :
    s.slot job t = .file (contents t id) :=
  slot_of_lookup hlook (by simp)

theorem Bare.slot_ne (h : s.Bare t) (b : Bytes) : s.slot job t ≠ .file b := by
  intro hs
  cases hlook : s.lookup job t with
  | none => simp [slot_of_lookup_eq_none hlook] at hs
  | some found =>
      obtain ⟨dir, x?⟩ := found
      cases x? with
      | none => simp [slot_of_vacant hlook] at hs
      | some x => exact h job dir x hlook

/-- A slot that holds bytes is a file that holds them. -/
theorem exists_file_of_slot {b : Bytes} (hl : s.Linkless t) (hs : s.slot job t = .file b)
    (hb : b ≠ []) : ∃ id f, s.fileOf? job t = some id ∧ t.file? id = some f ∧ f.bytes = b := by
  cases hlook : s.lookup job t with
  | none => simp [slot_of_lookup_eq_none hlook] at hs
  | some found =>
      obtain ⟨dir, x?⟩ := found
      rw [slot_of_lookup hlook fun target hx => hl job dir target (by rw [hlook, hx])] at hs
      cases x? with
      | none => simp at hs
      | some x =>
          cases x with
          | file id =>
              have hc : contents t id = b := by simpa [slotOf] using hs
              cases hf : t.file? id with
              | none => exact absurd (by simpa [contents, hf] using hc.symm) hb
              | some f =>
                  exact ⟨id, f, fileOf?_eq_some_iff.2 ⟨dir, hlook⟩, hf, by simpa [contents, hf] using hc⟩
          | device d => exact absurd (by simpa [slotOf] using hs.symm) hb
          | link target => exact absurd hlook (hl job dir target)
          | dir es => simp [slotOf] at hs

/-- Two jobs whose artifacts are one file find the same. -/
theorem slot_eq_of_fileOf? (hid : s.fileOf? job t = some id) (hj : s.fileOf? j t = some id) :
    s.slot j t = s.slot job t := by
  obtain ⟨dir, hlook⟩ := fileOf?_eq_some_iff.1 hid
  obtain ⟨dir', hlook'⟩ := fileOf?_eq_some_iff.1 hj
  rw [slot_of_file hlook, slot_of_file hlook']

/-- A job without a result changes no result, even where two artifacts are one file: a file with
contents is then the result of both. -/
theorem Change.slot_kept {b : Bytes} (h : s.Change job t t') (hl : s.Linkless t)
    (hfresh : s.holds job t = false) (hb : b ≠ []) (hs : s.slot j t = .file b) :
    s.slot j t' = .file b := by
  have hheld : s.slot job t ≠ .file b := by
    intro hheld
    rw [holds_iff.2 ⟨b, hb, hheld⟩] at hfresh
    exact Bool.noConfusion hfresh
  have hj : j ≠ job := by
    rintro rfl
    exact hheld hs
  obtain ⟨id, f, hid, hf, -⟩ := exists_file_of_slot hl hs hb
  -- were it the same file, the job would have that result too
  have hown : s.fileOf? job t ≠ some id := by
    intro hown
    rw [slot_eq_of_fileOf? hown hid] at hs
    exact hheld hs
  rw [← hs]
  refine slot_congr (h.lookup_of_ne hj) (hl j) fun id' hid' => ?_
  obtain rfl : id = id' := Option.some.inj (hid.symm.trans hid')
  rw [h.file_of_ne hj hid hf hown, hf]

end Store

end BatchRunner
