/-
**File trees that cannot be told apart.**

Writing to a file changes what the file holds and when it was changed, and nothing else about the
tree.  Two trees that differ in nothing but times, the numbers of files and the order of entries are
the same to everybody who looks at them by place.

Main definitions:

* `FileTree.Rewritten` — at most the contents of some files have changed, and the time;
* `FileTree.View`, `FileTree.view?` — what is seen at a place;
* `FileTree.Numbered` — every node that stands for a file has one;
* `FileTree.Same` — **two trees that cannot be told apart but by times and numbers**.

Main results:

* `FileTree.Rewritten.setFile`, `FileTree.Rewritten.write` — writing rewrites.
-/
import BatchRunner.Proofs.Files.Walk

set_option autoImplicit false

namespace BatchRunner.FileTree

variable {t t' t'' : FileTree} {touched : Nat → Prop} {id : Nat}

/-! ### Writing to files -/

/-- At most the files with the given numbers have changed, and the time. -/
structure Rewritten (touched : Nat → Prop) (t t' : FileTree) : Prop where
  root : t'.root = t.root
  cwd : t'.cwd = t.cwd
  seals : t'.seals = t.seals
  dirs : t'.dirs = t.dirs
  mask : t'.mask = t.mask
  moves : t'.moves = t.moves
  length : t'.files.length = t.files.length
  file : ∀ id, ¬ touched id → t'.file? id = t.file? id

def atTime (t : FileTree) (now : Nat) : FileTree := { t with now := now }

@[simp] theorem now_atTime (t : FileTree) (now : Nat) : (t.atTime now).now = now := rfl

@[simp] theorem file?_atTime (t : FileTree) (now id : Nat) :
    (t.atTime now).file? id = t.file? id := rfl

/-- Writing takes no time. -/
theorem now_write {h h' : Handle} {bytes : Bytes} (hw : t.write h bytes = .ok (t', h')) :
    t'.now = t.now := by
  unfold FileTree.write at hw
  split at hw
  · split at hw
    · obtain ⟨rfl, -⟩ : t = t' ∧ h = h' := by simpa using hw
      rfl
    · obtain ⟨rfl, -⟩ : _ = t' ∧ _ = h' := by simpa using hw
      rfl
  · split at hw
    · exact absurd hw (by simp)
    · obtain ⟨rfl, -⟩ : t = t' ∧ h = h' := by simpa using hw
      rfl

namespace Rewritten

theorem refl (touched : Nat → Prop) (t : FileTree) : Rewritten touched t t :=
  ⟨rfl, rfl, rfl, rfl, rfl, rfl, rfl, fun _ _ => rfl⟩

theorem trans (h : Rewritten touched t t') (h' : Rewritten touched t' t'') :
    Rewritten touched t t'' where
  root := h'.root.trans h.root
  cwd := h'.cwd.trans h.cwd
  seals := h'.seals.trans h.seals
  dirs := h'.dirs.trans h.dirs
  mask := h'.mask.trans h.mask
  moves := h'.moves.trans h.moves
  length := h'.length.trans h.length
  file id hid := (h'.file id hid).trans (h.file id hid)

theorem atTime (touched : Nat → Prop) (t : FileTree) (now : Nat) :
    Rewritten touched t (t.atTime now) :=
  ⟨rfl, rfl, rfl, rfl, rfl, rfl, rfl, fun _ _ => rfl⟩

theorem setFile (hid : touched id) (g : File) : Rewritten touched t (t.setFile id g) := by
  refine ⟨rfl, rfl, rfl, rfl, rfl, rfl, by simp [FileTree.setFile], fun id' hid' => ?_⟩
  have hne : id' ≠ id := by
    rintro rfl
    exact hid' hid
  exact file?_setFile_of_ne hne g

theorem rewrite (hid : touched id) (bytes : Bytes) : Rewritten touched t (t.rewrite id bytes) := by
  unfold FileTree.rewrite
  split
  · exact setFile hid _
  · exact refl touched t

theorem write {h h' : Handle} {bytes : Bytes} (hw : t.write h bytes = .ok (t', h')) :
    Rewritten (fun id => h.target = .file id) t t' := by
  unfold FileTree.write at hw
  split at hw
  · next id htarget =>
      split at hw
      · obtain ⟨rfl, -⟩ : t = t' ∧ h = h' := by simpa using hw
        exact refl _ t
      · obtain ⟨rfl, -⟩ : _ = t' ∧ _ = h' := by simpa using hw
        exact setFile htarget _
  · split at hw
    · exact absurd hw (by simp)
    · obtain ⟨rfl, -⟩ : t = t' ∧ h = h' := by simpa using hw
      exact refl _ t

theorem isSome (h : Rewritten touched t t') (hid : (t.file? id).isSome = true) :
    (t'.file? id).isSome = true := by
  have hlt : id < t.files.length := by simpa [file?] using hid
  simpa [file?, h.length] using hlt

end Rewritten

/-! ### Looking at a tree -/

/-- What is seen at a place.  A file shows its permissions and what it holds, a directory its
permissions; what is in a directory is seen at the places below it. -/
inductive View where
  | file (mode : Nat) (bytes : Bytes)
  | link (target : String)
  | device (d : Device)
  | dir (mode : Nat)
  deriving DecidableEq, Repr

def viewOf (t : FileTree) (place : Place) : Node → View
  | .file id =>
      .file (((t.file? id).map File.mode).getD 0) (((t.file? id).map File.bytes).getD [])
  | .link target => .link target
  | .device d => .device d
  | .dir _ => .dir (t.dirInfo place).mode

def view? (t : FileTree) (place : Place) : Option View := (t.node? place).map (t.viewOf place)

/-- Whether one file stands at two places. -/
def OneFile (t : FileTree) (p q : Place) : Prop :=
  ∃ id, t.node? p = some (.file id) ∧ t.node? q = some (.file id)

/-- Every node that stands for a file has one. -/
def Numbered (t : FileTree) : Prop :=
  ∀ place id, t.node? place = some (.file id) → (t.file? id).isSome = true

/-- **Whether two trees cannot be told apart**, but by times, by the numbers of files and by the order
of entries. -/
structure Same (t t' : FileTree) : Prop where
  view : ∀ place, t'.view? place = t.view? place
  oneFile : ∀ p q, t'.OneFile p q ↔ t.OneFile p q
  cwd : t'.cwd = t.cwd
  seals : t'.seals = t.seals
  mask : t'.mask = t.mask
  moves : t'.moves = t.moves

end BatchRunner.FileTree
