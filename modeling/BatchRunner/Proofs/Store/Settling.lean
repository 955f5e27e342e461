/-
**Making, settling and opening an artifact.**

The artifact of a job that is not to be run is made with the placeholder in it, unless something has
its name already.  The artifact of a job that is to be run is opened: made if it is missing, and
emptied if it is there.

Main definitions:

* `Store.Accessible` — nothing stands in the way of an artifact;
* `Store.Settles`, `Store.Opens` — how an artifact is settled and opened.

Main results:

* `Store.writePlaceholder_cases`, `Store.opens_of_openForWrite` — **settling and opening do nothing
  else**;
* `Store.Accessible.writePlaceholder` — a missing artifact that nothing stands in the way of gets the
  placeholder;
* `Store.Settles.slot_after` — a settled artifact holds the placeholder;
* `Store.Settles.change`, `Store.Opens.change` — both are changes that a job may make.
-/
import BatchRunner.Proofs.Store.Change

set_option autoImplicit false

namespace BatchRunner.Store

variable {s : Store} {job j : Job} {t t' t'' : FileTree} {dir : Place} {id : Nat} {f : File}
  {h : Handle}

/-! ### Making an artifact -/

/-- A file that was made is new and empty. -/
theorem makeFile_eq_ok {n : String} (hm : t.makeFile dir n = .ok (h, t')) :
    ∃ f : File, f.bytes = [] ∧ h = ⟨.file t.files.length, 0, false⟩ ∧
      t' = (t.addFile (dir ++ [n]) f).2 := by
  unfold FileTree.makeFile at hm
  split at hm
  · exact absurd hm (by simp [throw, throwThe, MonadExceptOf.throw])
  · cases hd : t.demand .write dir with
    | error e => simp [hd, bind, Except.bind] at hm
    | ok _ =>
        obtain ⟨rfl, rfl⟩ : _ = h ∧ _ = t' := by
          simpa [hd, bind, Except.bind, pure, Except.pure] using hm
        exact ⟨_, rfl, rfl, rfl⟩

/-- A file can be made in a directory that is not sealed and may be written. -/
theorem exists_makeFile_iff {n : String} :
    (∃ made, t.makeFile dir n = .ok made) ↔
      t.seal? dir = none ∧ Right.write.isIn (t.dirInfo dir).mode = true := by
  unfold FileTree.makeFile FileTree.demand
  cases t.seal? dir with
  | some sealed => simp [throw, throwThe, MonadExceptOf.throw]
  | none =>
      cases Right.write.isIn (t.dirInfo dir).mode <;>
        simp [bind, Except.bind, pure, Except.pure]

/-- An artifact can be made as new exactly where nothing is. -/
theorem createNew_artifact (hl : s.Linkless t)
    (hc : t.createNew t.cwd (s.artifact job) = .ok (h, t')) :
    ∃ dir, s.lookup job t = some (dir, none) ∧
      t.makeFile dir (artifactName job) = .ok (h, t') := by
  cases hlook : s.lookup job t with
  | none =>
      have hlocate : ∃ e, t.locate t.cwd .entry (s.artifact job) = .error e :=
        locate_of_lookup_eq_none hlook
      obtain ⟨e, he⟩ := hlocate
      simp [FileTree.createNew, he, bind, Except.bind] at hc
  | some found =>
      obtain ⟨dir, x?⟩ := found
      have hlocate : t.locate t.cwd .entry (s.artifact job) = .ok (foundAt dir job x?) :=
        locate_of_lookup hlook fun target hx => hl job dir target (by rw [hlook, hx])
      cases x? with
      | some x =>
          simp [FileTree.createNew, hlocate, foundAt, bind, Except.bind, throw, throwThe,
            MonadExceptOf.throw] at hc
      | none =>
          refine ⟨dir, rfl, ?_⟩
          simpa [FileTree.createNew, hlocate, foundAt, bind, Except.bind] using hc

theorem createNew_of_vacant (hlook : s.lookup job t = some (dir, none)) :
    t.createNew t.cwd (s.artifact job) = t.makeFile dir (artifactName job) := by
  have hlocate : t.locate t.cwd .entry (s.artifact job) = .ok (foundAt dir job none) :=
    locate_of_lookup hlook (by simp)
  simp [FileTree.createNew, hlocate, foundAt, bind, Except.bind]

/-- The contents of a new file are what is written to it first. -/
theorem write_addFile (place : Place) (hf : f.bytes = []) (new : Bytes) :
    ∃ g h', g.bytes = new ∧
      (t.addFile place f).2.write ⟨.file t.files.length, 0, false⟩ new =
        .ok ((t.addFile place f).2.setFile t.files.length g, h') := by
  refine ⟨{ f with bytes := new, time := (t.addFile place f).2.now },
    ⟨.file t.files.length, new.length, false⟩, rfl, ?_⟩
  simp [FileTree.write, file?_addFile_self, hf, splice]

/-- The artifact of a job is made and gets the placeholder. -/
def Settles (s : Store) (job : Job) (t t' : FileTree) : Prop :=
  ∃ dir f g, s.lookup job t = some (dir, none) ∧ g.bytes = bytesOf placeholderText ∧
    t' = (t.addFile (dir ++ [artifactName job]) f).2.setFile t.files.length g

/-- A placeholder is written to a new artifact; otherwise nothing happens. -/
theorem writePlaceholder_cases (hl : s.Linkless t) :
    ((s.writePlaceholder job t).1 ≠ .ok true ∧ (s.writePlaceholder job t).2 = t) ∨
    ((s.writePlaceholder job t).1 = .ok true ∧ s.Settles job t (s.writePlaceholder job t).2) := by
  cases hc : t.createNew t.cwd (s.artifact job) with
  | error e =>
      -- an artifact that is there and one that cannot be made differ in the answer only
      refine .inl ?_
      unfold writePlaceholder
      rw [hc]
      cases e with
      | os e => by_cases hx : e = .exist <;> simp [hx]
      | _ => simp
  | ok made =>
      obtain ⟨h, t₁⟩ := made
      obtain ⟨dir, hlook, hmake⟩ := createNew_artifact hl hc
      obtain ⟨f, hf, rfl, rfl⟩ := makeFile_eq_ok hmake
      obtain ⟨g, h', hg, hw⟩ :=
        write_addFile (t := t) (dir ++ [artifactName job]) hf (bytesOf placeholderText)
      refine .inr ?_
      unfold writePlaceholder
      rw [hc]
      simp only [hw, true_and]
      exact ⟨dir, f, g, hlook, hg, rfl⟩

/-- A placeholder that can be made is written. -/
theorem writePlaceholder_of_makeFile (hlook : s.lookup job t = some (dir, none))
    (hmake : t.makeFile dir (artifactName job) = .ok (h, t')) :
    (s.writePlaceholder job t).1 = .ok true := by
  obtain ⟨f, hf, rfl, rfl⟩ := makeFile_eq_ok hmake
  obtain ⟨g, h', hg, hw⟩ :=
    write_addFile (t := t) (dir ++ [artifactName job]) hf (bytesOf placeholderText)
  unfold writePlaceholder
  rw [createNew_of_vacant hlook, hmake]
  simp only [hw]

/-- An artifact that can be made is opened by making it. -/
theorem openForWrite_of_makeFile (hlook : s.lookup job t = some (dir, none))
    (hmake : t.makeFile dir (artifactName job) = .ok (h, t')) :
    s.openForWrite job t = .ok (h, t') := by
  have hlocate : t.locate t.cwd .making (s.artifact job) = .ok (foundAt dir job none) :=
    locate_of_lookup hlook (by simp)
  have hcreate : t.create t.cwd (s.artifact job) = .ok (h, t') := by
    simp [FileTree.create, hlocate, foundAt, hmake, bind, Except.bind]
  rw [openForWrite, hcreate]
  rfl

/-! ### Opening -/

/-- How the artifact of a job is opened. -/
inductive Opens (s : Store) (job : Job) (t : FileTree) : Handle → FileTree → Prop where
  | made (dir : Place) (f : File) (vacant : s.lookup job t = some (dir, none)) (empty : f.bytes = []) :
      Opens s job t ⟨.file t.files.length, 0, false⟩ (t.addFile (dir ++ [artifactName job]) f).2
  | emptied (id : Nat) (own : s.fileOf? job t = some id) :
      Opens s job t ⟨.file id, 0, false⟩ (t.rewrite id [])
  | device (dir : Place) (d : Device) (there : s.lookup job t = some (dir, some (.device d))) :
      Opens s job t ⟨.device d, 0, false⟩ t

theorem opens_of_openForWrite (hl : s.Linkless t) (ho : s.openForWrite job t = .ok (h, t')) :
    s.Opens job t h t' := by
  have hc : t.create t.cwd (s.artifact job) = .ok (h, t') := by
    unfold openForWrite at ho
    cases hc : t.create t.cwd (s.artifact job) with
    | error e =>
        rw [hc] at ho
        have hno : Except.error (StoreError.io (s.artifact job) e) = .ok (h, t') := ho
        exact absurd hno (by simp)
    | ok made =>
        rw [hc] at ho
        exact congrArg Except.ok (Except.ok.inj ho)
  unfold FileTree.create at hc
  cases hlook : s.lookup job t with
  | none =>
      have hlocate : ∃ e, t.locate t.cwd .making (s.artifact job) = .error e :=
        locate_of_lookup_eq_none hlook
      obtain ⟨e, he⟩ := hlocate
      simp [he, bind, Except.bind] at hc
  | some found =>
      obtain ⟨dir, x?⟩ := found
      have hlocate : t.locate t.cwd .making (s.artifact job) = .ok (foundAt dir job x?) :=
        locate_of_lookup hlook fun target hx => hl job dir target (by rw [hlook, hx])
      rw [hlocate] at hc
      cases x? with
      | none =>
          obtain ⟨f, hf, rfl, rfl⟩ := makeFile_eq_ok (n := artifactName job) hc
          exact .made dir f hlook hf
      | some x =>
          cases x with
          | file id =>
              cases hw : t.demandWritable id with
              | error e => simp [foundAt, hw, bind, Except.bind] at hc
              | ok _ =>
                  obtain ⟨rfl, rfl⟩ : _ = h ∧ _ = t' := by
                    simpa [foundAt, hw, bind, Except.bind, pure, Except.pure] using hc
                  exact .emptied id (fileOf?_eq_some_iff.2 ⟨dir, hlook⟩)
          | device d =>
              obtain ⟨rfl, rfl⟩ : _ = h ∧ _ = t' := by
                simpa [foundAt, bind, Except.bind, pure, Except.pure] using hc
              exact .device dir d hlook
          | link target => exact absurd hlook (hl job dir target)
          | dir es =>
              simp [foundAt, bind, Except.bind, throw, throwThe, MonadExceptOf.throw] at hc

/-! ### What is found afterwards -/

/-- Nothing stands in the way of an artifact: it can be asked for, and made if it is missing. -/
def Accessible (s : Store) (job : Job) (t : FileTree) : Prop :=
  ∃ dir x?, s.lookup job t = some (dir, x?) ∧
    (x? = none → ∃ made, t.makeFile dir (artifactName job) = .ok made)

theorem Accessible.exists_makeFile (h : s.Accessible job t) (hl : s.Linkless t)
    (hs : s.slot job t = .vacant) :
    ∃ dir made, s.lookup job t = some (dir, none) ∧
      t.makeFile dir (artifactName job) = .ok made := by
  obtain ⟨dir, x?, hlook, hmake⟩ := h
  rw [slot_of_lookup hlook fun target hx => hl job dir target (by rw [hlook, hx])] at hs
  cases x? with
  | none =>
      obtain ⟨made, hmade⟩ := hmake rfl
      exact ⟨dir, made, hlook, hmade⟩
  | some x => cases x <;> exact absurd hs (by simp [slotOf])

/-- A new artifact holds what was written into it. -/
theorem slot_of_made {g : File} (vacant : s.lookup job t = some (dir, none)) :
    s.slot job ((t.addFile (dir ++ [artifactName job]) f).2.setFile t.files.length g)
      = .file g.bytes := by
  have hlook : s.lookup job ((t.addFile (dir ++ [artifactName job]) f).2.setFile t.files.length g)
      = some (dir, some (.file t.files.length)) := by
    rw [lookup_setFile, lookup_addFile_self vacant]
  have hnew : ((t.addFile (dir ++ [artifactName job]) f).2.file? t.files.length).isSome := by
    simp [file?_addFile_self]
  rw [slot_of_file hlook, contents, FileTree.file?_setFile_self hnew g]
  rfl

/-- A missing artifact that nothing stands in the way of gets its placeholder. -/
theorem Accessible.writePlaceholder (h : s.Accessible job t) (hl : s.Linkless t)
    (hs : s.slot job t = .vacant) : (s.writePlaceholder job t).1 = .ok true := by
  obtain ⟨dir, made, hlook, hmake⟩ := h.exists_makeFile hl hs
  exact writePlaceholder_of_makeFile hlook hmake

namespace Settles

theorem change (h : s.Settles job t t') : s.Change job t t' := by
  obtain ⟨dir, f, g, vacant, -, rfl⟩ := h
  refine .made dir f (.file ⟨.file t.files.length, 0, false⟩) vacant (fun id hr => ?_) (.setFile rfl)
  simpa [Sink.Reaches] using hr.symm

theorem slot_before (h : s.Settles job t t') : s.slot job t = .vacant := by
  obtain ⟨dir, f, g, vacant, -, -⟩ := h
  exact slot_of_vacant vacant

/-- **A settled artifact holds the placeholder.** -/
theorem slot_after (h : s.Settles job t t') :
    s.slot job t' = .file (bytesOf placeholderText) := by
  obtain ⟨dir, f, g, vacant, hg, rfl⟩ := h
  rw [slot_of_made vacant, hg]

/-- Another artifact can be made as before. -/
theorem accessible (h : s.Settles job t t') (hj : j ≠ job) (ha : s.Accessible j t) :
    s.Accessible j t' := by
  have hlookup := h.change.lookup_of_ne hj
  obtain ⟨dir, f, g, vacant, -, rfl⟩ := h
  obtain ⟨place, x?, hlook, hmake⟩ := ha
  refine ⟨place, x?, hlookup.trans hlook, fun hx => ?_⟩
  obtain ⟨hseal, hwrite⟩ := exists_makeFile_iff.1 (hmake hx)
  refine exists_makeFile_iff.2 ⟨hseal, ?_⟩
  rw [← hwrite, ← (grows_of_vacant (f := f) vacant).mode place]
  rfl

end Settles

namespace Opens

/-- An artifact that is open, and what is written to it. -/
theorem change (ho : s.Opens job t h t') (hs : s.Spared (.file h) t' t'') :
    s.Change job t t'' := by
  cases ho with
  | made dir f vacant _ =>
      exact .made dir f _ vacant (fun id hr => by simpa [Sink.Reaches] using hr.symm) hs
  | emptied id own =>
      have hreach : Sink.Reaches (.file ⟨.file id, 0, false⟩) id := rfl
      refine .written _ (fun id' hr => ?_) ((Spared.rewrite hreach).trans hs)
      obtain rfl : id = id' := by simpa [Sink.Reaches] using hr
      exact own
  | device dir d there =>
      exact .written _ (fun id hr => absurd hr (by simp [Sink.Reaches])) hs

/-- What can be opened is a file, or can be made one. -/
theorem slot_before (ho : s.Opens job t h t') :
    s.slot job t = .vacant ∨ ∃ b, s.slot job t = .file b := by
  cases ho with
  | made dir f vacant _ => exact .inl (slot_of_vacant vacant)
  | emptied id own =>
      obtain ⟨dir, hlook⟩ := fileOf?_eq_some_iff.1 own
      exact .inr ⟨contents t id, slot_of_file hlook⟩
  | device dir d there => exact .inr ⟨[], slot_of_lookup there (by simp)⟩

end Opens

end BatchRunner.Store
