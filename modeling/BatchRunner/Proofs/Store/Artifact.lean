/-
**Where artifacts stand.**

The output root leads to a directory, and the artifact of a job is the entry of that directory under
the name of the job.  As long as no artifact is a link, that is all there is to finding one, whatever
the output root looks like and whatever is wanted of the artifact.

Main definitions:

* `Store.directory?` — the directory that the output root leads to;
* `Store.lookup` — the entry that belongs to a job, if it can be asked for;
* `Store.Linkless` — no artifact is a link;
* `Slot`, `Store.slot` — what a job finds where its artifact belongs.

Main results:

* `Store.artifactName_injective` — different jobs have different artifacts;
* `Store.locate_of_lookup` — **an artifact is found by its entry**;
* `Store.holds_iff` — a job has been attempted exactly if its slot holds bytes;
* `Store.slot_of_lookup` — the slot of a job is read off its entry.
-/
import BatchRunner.Proofs.Files.Walk
import BatchRunner.Proofs.Path
import BatchRunner.Store

set_option autoImplicit false

namespace BatchRunner

/-- What a job finds where its artifact belongs. -/
inductive Slot where
  /-- No way leads there. -/
  | lost
  /-- Nothing. -/
  | vacant
  /-- A file with the given contents.  What keeps nothing that is written to it, as a device does,
  counts as a file without contents. -/
  | file (bytes : Bytes)
  | directory
  deriving DecidableEq, Repr

/-! ### The names of artifacts -/

/-- The characters of a variant's token are not those that part names. -/
theorem Variant.token_chars (v : Variant) :
    ∀ c ∈ v.token.toList, c ≠ '/' ∧ c ≠ '_' ∧ c ≠ '\x00' := by
  cases v <;> simp [token]

/-- The characters of a program's token are not those that part names. -/
theorem Program.token_chars (p : Program) :
    ∀ c ∈ p.token.toList, c ≠ '/' ∧ c ≠ '_' ∧ c ≠ '\x00' := by
  cases p <;> simp [token]

namespace Store

variable {s : Store} {job : Job} {t t' : FileTree} {aim : Aim} {dir : Place}

theorem toList_artifactName (job : Job) :
    (artifactName job).toList = job.program.token.toList ++ '_' :: (job.variant.token.toList ++ ['.', 'o']) := by
  simp [artifactName]

theorem artifactName_chars (job : Job) : ∀ c ∈ (artifactName job).toList, c ≠ '/' ∧ c ≠ '\x00' := by
  intro c hc
  simp only [toList_artifactName, List.mem_append, List.mem_cons] at hc
  rcases hc with hc | rfl | hc | rfl | rfl | hc
  · exact ⟨(job.program.token_chars c hc).1, (job.program.token_chars c hc).2.2⟩
  · decide
  · exact ⟨(job.variant.token_chars c hc).1, (job.variant.token_chars c hc).2.2⟩
  · decide
  · decide
  · exact absurd hc (by simp)

theorem isName_artifactName (job : Job) : Path.IsName (artifactName job) where
  ne_empty := by simp [toList_artifactName]
  no_slash h := (artifactName_chars job _ h).1 rfl

/-- Two lists that run up to their first underscore agree before it and behind it. -/
theorem append_underscore_inj {as bs as' bs' : List Char} (ha : '_' ∉ as) (hb : '_' ∉ bs)
    (h : as ++ '_' :: as' = bs ++ '_' :: bs') : as = bs ∧ as' = bs' := by
  induction as generalizing bs with
  | nil =>
      cases bs with
      | nil => simpa using h
      | cons b bs =>
          have hb' : '_' = b := by simp at h; exact h.1
          exact absurd (by simp [← hb']) hb
  | cons a as ih =>
      cases bs with
      | nil =>
          have ha' : a = '_' := by simp at h; exact h.1
          exact absurd (by simp [ha']) ha
      | cons b bs =>
          simp only [List.cons_append, List.cons.injEq] at h
          obtain ⟨rfl, h⟩ := h
          obtain ⟨rfl, rfl⟩ := ih (fun hm => ha (List.mem_cons_of_mem _ hm))
            (fun hm => hb (List.mem_cons_of_mem _ hm)) h
          exact ⟨rfl, rfl⟩

/-- **Different jobs have different artifacts.** -/
theorem artifactName_injective {j j' : Job} (h : artifactName j = artifactName j') : j = j' := by
  have hl := congrArg String.toList h
  rw [toList_artifactName, toList_artifactName] at hl
  obtain ⟨hp, hv⟩ := append_underscore_inj
    (fun hm => (j.program.token_chars _ hm).2.1 rfl)
    (fun hm => (j'.program.token_chars _ hm).2.1 rfl) hl
  have hp' : j.program = j'.program :=
    LawfulCatalog.token_injective _ _ (String.toList_injective hp)
  have hv' : j.variant = j'.variant :=
    LawfulCatalog.token_injective _ _ (String.toList_injective (List.append_cancel_right hv))
  cases j
  cases j'
  simp_all

theorem utf8ByteSize_artifactName_le (job : Job) : (artifactName job).utf8ByteSize ≤ nameMax := by
  have hp : job.program.token.utf8ByteSize ≤ 16 := by cases job.program <;> decide
  have hv : job.variant.token.utf8ByteSize ≤ 16 := by cases job.variant <;> decide
  have hu : "_".utf8ByteSize = 1 := by decide
  have ho : ".o".utf8ByteSize = 2 := by decide
  simp only [artifactName, String.utf8ByteSize_append, nameMax]
  omega

/-- An artifact is not mistaken for a directory that has been removed. -/
theorem isGone_snoc_artifactName (dir : Place) (job : Job) :
    Place.isGone (dir ++ [artifactName job]) = false := by
  have h : (artifactName job).startsWith "\x00" = false := by
    rw [Bool.eq_false_iff]
    intro hs
    have hmem : '\x00' ∈ (artifactName job).toList :=
      (String.startsWith_string_iff.1 hs).subset (by decide)
    exact (artifactName_chars job _ hmem).2 rfl
  simp [Place.isGone, h]

theorem plainName_artifactName (job : Job) : FileTree.PlainName (artifactName job) where
  ne_empty h := (isName_artifactName job).ne_empty (by simp [h])
  ne_dot h := by simpa [toList_artifactName] using congrArg (fun s => '_' ∈ s.toList) h
  ne_dotDot h := by simpa [toList_artifactName] using congrArg (fun s => '_' ∈ s.toList) h
  no_slash := by simpa using (isName_artifactName job).getLast?_ne_slash []
  short := utf8ByteSize_artifactName_le job

/-! ### The entry of a job -/

/-- The directory that the output root leads to. -/
def directory? (s : Store) (t : FileTree) : Option Place :=
  match t.walk .target linkMax (FileTree.start t.cwd s.root) (Path.pieces s.root) with
  | .ok (.node place _) => if (t.node? place).any Node.isDir then some place else none
  | _ => none

/-- The directory that the artifact of a job belongs into, and what has its name there.  There is no
answer where nobody can ask: the path is one that is refused, the output root leads to no directory,
or the directory may not be passed. -/
def lookup (s : Store) (job : Job) (t : FileTree) : Option (Place × Option Node) :=
  match FileTree.checkPath (s.artifact job) with
  | .error _ => none
  | .ok _ => (s.directory? t).bind fun dir =>
      if Right.pass.isIn (t.dirInfo dir).mode then some (dir, t.node? (dir ++ [artifactName job]))
      else none

/-- No artifact is a link. -/
def Linkless (s : Store) (t : FileTree) : Prop :=
  ∀ job dir target, s.lookup job t ≠ some (dir, some (.link target))

theorem directory?_eq_some_iff :
    s.directory? t = some dir ↔
      (∃ x, t.walk .target linkMax (FileTree.start t.cwd s.root) (Path.pieces s.root)
        = .ok (.node dir x)) ∧ ∃ es, t.node? dir = some (.dir es) := by
  unfold directory?
  constructor
  · intro h
    split at h
    · next place x hw =>
        split at h
        · next hd =>
            obtain rfl : place = dir := by simpa using h
            obtain ⟨y, hy, hdir⟩ := (Option.any_eq_true _ _).1 hd
            obtain ⟨es, rfl⟩ := Node.isDir_iff.1 hdir
            exact ⟨⟨x, hw⟩, es, hy⟩
        · exact absurd h (by simp)
    · exact absurd h (by simp)
  · rintro ⟨⟨x, hw⟩, es, hdir⟩
    simp [hw, hdir, Node.isDir]

theorem lookup_eq_some_iff {x? : Option Node} :
    s.lookup job t = some (dir, x?) ↔
      FileTree.checkPath (s.artifact job) = .ok () ∧ s.directory? t = some dir ∧
        Right.pass.isIn (t.dirInfo dir).mode = true ∧
        t.node? (dir ++ [artifactName job]) = x? := by
  unfold lookup
  cases FileTree.checkPath (s.artifact job) with
  | error e => simp
  | ok _ =>
      constructor
      · intro h
        obtain ⟨place, hd, h⟩ := Option.bind_eq_some_iff.1 h
        split at h
        · next hp =>
            obtain ⟨rfl, rfl⟩ : place = dir ∧ _ = x? := by simpa using h
            exact ⟨rfl, hd, hp, rfl⟩
        · exact absurd h (by simp)
      · rintro ⟨-, hd, hp, rfl⟩
        simp [hd, hp]

/-- An output root of ordinary length makes no path that is refused. -/
theorem checkPath_artifact (hnul : '\x00' ∉ s.root.toList)
    (hsize : s.root.utf8ByteSize + nameMax + 1 < pathMax) :
    FileTree.checkPath (s.artifact job) = .ok () := by
  have hlong := utf8ByteSize_artifactName_le job
  have hslash : "/".utf8ByteSize = 1 := by decide
  have hname : '\x00' ∉ (artifactName job).toList := fun h => (artifactName_chars job _ h).2 rfl
  have hjoin : s.artifact job = s.root ++ artifactName job ∨
      s.artifact job = s.root ++ "/" ++ artifactName job := by
    simp only [artifact, Path.join, (isName_artifactName job).not_isAbsolute, Bool.false_eq_true,
      if_false]
    split
    · exact .inl rfl
    · exact .inr rfl
  have hnul' : '\x00' ∉ (s.artifact job).toList := by
    rcases hjoin with hjoin | hjoin <;> simp [hjoin, hnul, hname]
  have hne : s.artifact job ≠ "" := by
    intro he
    have hl := congrArg String.toList he
    rcases hjoin with hjoin | hjoin <;> simp [hjoin, toList_artifactName] at hl
  have hshort : (s.artifact job).utf8ByteSize < pathMax := by
    rcases hjoin with hjoin | hjoin <;> simp only [hjoin, String.utf8ByteSize_append] <;> omega
  simp [FileTree.checkPath, hnul', hne, Nat.not_le.2 hshort]

/-- An output root that is a name in the starting directory. -/
theorem directory?_of_get? {n : String} {es es' : List (String × Node)}
    (habs : Path.isAbsolute s.root = false) (hpieces : Path.pieces s.root = [n])
    (hseek : t.Seeks t.cwd es n) (hget : Entries.get? n es = some (.dir es')) :
    s.directory? t = some (t.cwd ++ [n]) := by
  have hnode : t.node? (t.cwd ++ [n]) = some (.dir es') := by
    rw [FileTree.node?_snoc hseek.dir, hget]
  refine directory?_eq_some_iff.2 ⟨⟨.dir es', ?_⟩, es', hnode⟩
  rw [hpieces, FileTree.start, habs, if_neg Bool.false_ne_true,
    hseek.walk_of_get? hget (by simp), FileTree.walk, hnode]

/-- The path of an artifact is followed to the output directory, and one name further. -/
theorem locate_artifact (s : Store) (job : Job) (t : FileTree) (aim : Aim) :
    t.locate t.cwd aim (s.artifact job) = (FileTree.checkPath (s.artifact job)).bind fun _ =>
      (t.walk aim linkMax (FileTree.start t.cwd s.root)
        (Path.pieces s.root ++ [artifactName job])).mapError .os := by
  have hstart : FileTree.start t.cwd (s.artifact job) = FileTree.start t.cwd s.root := by
    simp [FileTree.start, artifact, Path.isAbsolute_join (isName_artifactName job)]
  rw [FileTree.locate, hstart, artifact, Aim.steps_join aim (isName_artifactName job)]
  rfl

theorem locate_of_walk_error {e : Errno}
    (h : t.walk aim linkMax (FileTree.start t.cwd s.root)
      (Path.pieces s.root ++ [artifactName job]) = .error e) :
    ∃ e, t.locate t.cwd aim (s.artifact job) = .error e := by
  rw [locate_artifact, h]
  cases FileTree.checkPath (s.artifact job) with
  | error e => exact ⟨e, rfl⟩
  | ok _ => exact ⟨.os e, rfl⟩

/-- Where nobody can ask for an artifact, every attempt fails. -/
theorem locate_of_lookup_eq_none (h : s.lookup job t = none) :
    ∃ e, t.locate t.cwd aim (s.artifact job) = .error e := by
  cases t.leads linkMax (FileTree.start t.cwd s.root) (Path.pieces s.root) with
  | nowhere _ onward =>
      obtain ⟨e, he⟩ := onward aim [artifactName job] (by simp)
      exact locate_of_walk_error he
  | somewhere place x links reached onward =>
      by_cases hopen : ∃ es, t.node? place = some (.dir es) ∧
          Right.pass.isIn (t.dirInfo place).mode = true
      · obtain ⟨es, hdir, hpass⟩ := hopen
        have hd : s.directory? t = some place := directory?_eq_some_iff.2 ⟨⟨x, reached⟩, es, hdir⟩
        cases hc : FileTree.checkPath (s.artifact job) with
        | error e => exact ⟨e, by rw [locate_artifact, hc]; rfl⟩
        | ok _ =>
            unfold lookup at h
            simp [hc, hd, hpass] at h
      · have hclosed : ∀ es, t.node? place = some (.dir es) →
            Right.pass.isIn (t.dirInfo place).mode = false := by
          intro es hdir
          exact Bool.eq_false_iff.2 fun hpass => hopen ⟨es, hdir, hpass⟩
        have hwalk : ∃ e, t.walk aim links place [artifactName job] = .error e :=
          (plainName_artifactName job).walk_error hclosed
        obtain ⟨e, he⟩ := hwalk
        exact locate_of_walk_error ((onward aim [artifactName job] (by simp)).trans he)

/-- What is found where artifacts belong. -/
def foundAt (dir : Place) (job : Job) : Option Node → Found
  | none => .absent dir (artifactName job)
  | some x => .node (dir ++ [artifactName job]) x

/-- **An artifact is found by its entry**, unless that is a link. -/
theorem locate_of_lookup {x? : Option Node} (h : s.lookup job t = some (dir, x?))
    (hlink : ∀ target, x? ≠ some (.link target)) :
    t.locate t.cwd aim (s.artifact job) = .ok (foundAt dir job x?) := by
  obtain ⟨hc, hd, hpass, hx⟩ := lookup_eq_some_iff.1 h
  obtain ⟨⟨x, hw⟩, es, hdir⟩ := directory?_eq_some_iff.1 hd
  have hseek : t.Seeks dir es (artifactName job) := ⟨plainName_artifactName job, hdir, hpass⟩
  rw [FileTree.node?_snoc hdir] at hx
  cases t.leads linkMax (FileTree.start t.cwd s.root) (Path.pieces s.root) with
  | nowhere missed _ => exact absurd hw (missed dir x)
  | somewhere place y links reached onward =>
      obtain ⟨rfl, rfl⟩ : dir = place ∧ x = y := by simpa [hw] using reached
      rw [locate_artifact, hc, onward aim [artifactName job] (by simp)]
      cases x? with
      | none =>
          rw [hseek.walk_of_get?_eq_none hx]
          rfl
      | some y =>
          have hnode : t.node? (dir ++ [artifactName job]) = some y := by
            rw [FileTree.node?_snoc hdir, hx]
          rw [hseek.walk_of_get? hx fun target hy => hlink target (by rw [hy])]
          simp only [FileTree.walk, hnode]
          rfl

/-! ### Slots -/

/-- The contents of the file with a number. -/
def contents (t : FileTree) (id : Nat) : Bytes := ((t.file? id).map File.bytes).getD []

def slotOf (t : FileTree) : Node → Slot
  | .file id => .file (contents t id)
  | .device _ => .file []
  | .dir _ => .directory
  | .link _ => .lost

/-- **What a job finds where its artifact belongs.** -/
def slot (s : Store) (job : Job) (t : FileTree) : Slot :=
  match t.locate t.cwd .target (s.artifact job) with
  | .ok (.node _ x) => slotOf t x
  | .ok (.absent _ _) => .vacant
  | .error _ => .lost

/-- **A job has been attempted exactly if its slot holds bytes.** -/
theorem holds_iff : s.holds job t = true ↔ ∃ b, b ≠ [] ∧ s.slot job t = .file b := by
  unfold holds FileTree.isNonemptyFile FileTree.fileAt? slot
  cases hlocate : t.locate t.cwd .target (s.artifact job) with
  | error e =>
      have hfound : t.found? t.cwd (s.artifact job) = none := by
        rw [FileTree.found?, FileTree.stat, hlocate]
        rfl
      simp [hfound]
  | ok found =>
      cases found with
      | absent dir name =>
          have hfound : t.found? t.cwd (s.artifact job) = none := by
            rw [FileTree.found?, FileTree.stat, hlocate]
            rfl
          simp [hfound]
      | node place x =>
          have hfound : t.found? t.cwd (s.artifact job) = some x := by
            rw [FileTree.found?, FileTree.stat, hlocate]
            rfl
          rw [hfound]
          cases x with
          | file id => cases hf : t.file? id <;> simp [slotOf, contents, hf]
          | _ => simp [slotOf]

theorem slot_of_lookup_eq_none (h : s.lookup job t = none) : s.slot job t = .lost := by
  have hlocate : ∃ e, t.locate t.cwd .target (s.artifact job) = .error e :=
    locate_of_lookup_eq_none h
  obtain ⟨e, he⟩ := hlocate
  unfold slot
  rw [he]

/-- The slot of a job is read off its entry. -/
theorem slot_of_lookup {x? : Option Node} (h : s.lookup job t = some (dir, x?))
    (hlink : ∀ target, x? ≠ some (.link target)) :
    s.slot job t = (x?.map (slotOf t)).getD .vacant := by
  unfold slot
  rw [locate_of_lookup h hlink]
  cases x? <;> rfl

end Store

end BatchRunner
