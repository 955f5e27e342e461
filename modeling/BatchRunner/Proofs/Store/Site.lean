/-
**What the work on a job depends on.**

Whether the artifact of a job can be settled or opened, and what is there afterwards, depends on one
place alone.  What there is to know of that place is its site: why no way leads there, or why nothing
can be made there, or the permissions and the contents of the file that is there.  File numbers,
times and everything else in the tree do not matter.

Main definitions:

* `Site`, `Store.site` — the state of the place where an artifact belongs;
* `Site.holds`, `Site.settle`, `Site.open?` — what is done to a store, seen from one site;
* `Handle.unnumbered` — a handle without the number of its file.

Main results:

* `Store.holds_eq` — whether there is a result is a matter of the site;
* `Store.site_writePlaceholder` — **settling an artifact settles its site**;
* `Store.openForWrite_of_refused`, `Store.opening_of_open?` — **opening an artifact opens its site**;
* `Store.site_writePlaceholder_of_ne`, `Store.Opening.others` — and no other site changes.
-/
import BatchRunner.Proofs.Files.Same
import BatchRunner.Proofs.Store.Settling

set_option autoImplicit false

namespace BatchRunner

/-! ### Sites -/

/-- The state of the place where an artifact belongs. -/
inductive Site where
  /-- No way leads there, for the given reason. -/
  | closed (e : IoError)
  /-- Nothing is there: why nothing can be made, if nothing can, and the permissions that a new file
  would get. -/
  | vacant (refusal? : Option IoError) (mode : Nat)
  | file (mode : Nat) (bytes : Bytes)
  | device (d : Device)
  | directory
  deriving DecidableEq, Repr

namespace Site

def holds : Site → Bool
  | .file _ bytes => !bytes.isEmpty
  | _ => false

/-- Settles an artifact: a missing one is made with the placeholder in it, if it can be made. -/
def settle : Site → Site
  | .vacant none mode => .file mode (bytesOf placeholderText)
  | x => x

/-- Opens an artifact, emptied.  What is open then is given without the number of the file. -/
def open? : Site → Except IoError (Opened × Site)
  | .closed e => .error e
  | .vacant (some e) _ => .error e
  | .vacant none mode => .ok (.file 0, .file mode [])
  | .file mode _ =>
      if Right.write.isIn mode then .ok (.file 0, .file mode []) else .error (.os .denied)
  | .device d => .ok (.device d, .device d)
  | .directory => .error (.os .isDir)

/-- Writes to an artifact that has been opened. -/
def receive (bytes : Bytes) : Site → Site
  | .file mode _ => .file mode bytes
  | x => x

theorem settle_settle (x : Site) : x.settle.settle = x.settle := by
  cases x with
  | vacant refusal? mode => cases refusal? <;> rfl
  | _ => rfl

/-- What has been opened is an empty file or a device. -/
theorem open?_eq_ok {x y : Site} {o : Opened} (ho : x.open? = .ok (o, y)) :
    (∃ mode, o = .file 0 ∧ y = .file mode []) ∨ ∃ d, o = .device d ∧ y = .device d := by
  cases x with
  | vacant refusal? mode =>
      cases refusal? with
      | some e => simp [open?] at ho
      | none =>
          obtain ⟨rfl, rfl⟩ : .file 0 = o ∧ .file mode [] = y := by simpa [open?] using ho
          exact .inl ⟨mode, rfl, rfl⟩
  | file mode bytes =>
      cases hw : Right.write.isIn mode with
      | false => simp [open?, hw] at ho
      | true =>
          obtain ⟨rfl, rfl⟩ : .file 0 = o ∧ .file mode [] = y := by simpa [open?, hw] using ho
          exact .inl ⟨mode, rfl, rfl⟩
  | device d =>
      obtain ⟨rfl, rfl⟩ : .device d = o ∧ .device d = y := by simpa [open?] using ho
      exact .inr ⟨d, rfl, rfl⟩
  | closed e | directory => simp [open?] at ho

/-- What has been opened and got nothing is opened the next time as it was, if it can be opened at
all. -/
theorem open?_receive {x y : Site} {o : Opened} {bytes : Bytes} (ho : x.open? = .ok (o, y))
    (hheld : (y.receive bytes).holds = false) :
    (∃ e, (y.receive bytes).open? = .error e) ∨ (y.receive bytes).open? = .ok (o, y) := by
  rcases open?_eq_ok ho with ⟨mode, rfl, rfl⟩ | ⟨d, rfl, rfl⟩
  · obtain rfl : bytes = [] := by simpa [receive, holds] using hheld
    cases hw : Right.write.isIn mode with
    | true => exact .inr (by simp [receive, open?, hw])
    | false => exact .inl ⟨.os .denied, by simp [receive, open?, hw]⟩
  · exact .inr rfl

end Site

/-- A handle without the number of its file. -/
def Handle.unnumbered (h : Handle) : Handle :=
  match h.target with
  | .file _ => { h with target := .file 0 }
  | .device _ => h

/-- Why no file can be made in a directory, if none can. -/
def FileTree.refusal? (t : FileTree) (dir : Place) : Option IoError :=
  match t.seal? dir with
  | some s => some (.os s.forFiles)
  | none => if Right.write.isIn (t.dirInfo dir).mode then none else some (.os .denied)

theorem FileTree.makeFile_eq (t : FileTree) (dir : Place) (n : String) :
    t.makeFile dir n =
      match t.refusal? dir with
      | some e => .error e
      | none => .ok (⟨.file t.files.length, 0, false⟩,
          (t.addFile (dir ++ [n]) ⟨unmasked 0o666 t.mask, [], t.now⟩).2) := by
  unfold makeFile refusal? demand
  cases t.seal? dir with
  | some sealed => rfl
  | none => cases Right.write.isIn (t.dirInfo dir).mode <;> rfl

namespace Store

variable {s : Store} {job j : Job} {t t' : FileTree} {dir : Place} {id : Nat} {f g : File}
  {h : Handle}

def siteOf (t : FileTree) : Node → Site
  | .file id => .file (((t.file? id).map File.mode).getD 0) (contents t id)
  | .device d => .device d
  | _ => .directory

/-- **The state of the place where the artifact of a job belongs.** -/
def site (s : Store) (job : Job) (t : FileTree) : Site :=
  match t.locate t.cwd .making (s.artifact job) with
  | .error e => .closed e
  | .ok (.absent dir _) => .vacant (t.refusal? dir) (unmasked 0o666 t.mask)
  | .ok (.node _ x) => siteOf t x

/-! ### Reading a site off an entry -/

theorem site_of_locate_error {e : IoError}
    (h : t.locate t.cwd .making (s.artifact job) = .error e) : s.site job t = .closed e := by
  unfold site
  rw [h]

theorem site_of_lookup_eq_none (h : s.lookup job t = none) :
    ∃ e, t.locate t.cwd .making (s.artifact job) = .error e ∧ s.site job t = .closed e := by
  have hlocate : ∃ e, t.locate t.cwd .making (s.artifact job) = .error e :=
    locate_of_lookup_eq_none h
  obtain ⟨e, he⟩ := hlocate
  exact ⟨e, he, site_of_locate_error he⟩

theorem site_of_vacant (h : s.lookup job t = some (dir, none)) :
    s.site job t = .vacant (t.refusal? dir) (unmasked 0o666 t.mask) := by
  unfold site
  rw [locate_of_lookup h (by simp)]
  rfl

theorem site_of_node {x : Node} (h : s.lookup job t = some (dir, some x))
    (hlink : ∀ target, x ≠ .link target) : s.site job t = siteOf t x := by
  unfold site
  rw [locate_of_lookup h (by simpa using hlink)]
  rfl

theorem site_of_file (h : s.fileOf? job t = some id) (hf : t.file? id = some f) :
    s.site job t = .file f.mode f.bytes := by
  obtain ⟨dir, hlook⟩ := fileOf?_eq_some_iff.1 h
  rw [site_of_node hlook (by simp)]
  simp [siteOf, contents, hf]

/-- **Whether there is a result is a matter of the site.** -/
theorem holds_eq (hl : s.Linkless t) : s.holds job t = (s.site job t).holds := by
  rw [Bool.eq_iff_iff, holds_iff]
  cases hlook : s.lookup job t with
  | none =>
      obtain ⟨e, -, hsite⟩ := site_of_lookup_eq_none hlook
      simp [slot_of_lookup_eq_none hlook, hsite, Site.holds]
  | some found =>
      obtain ⟨dir, x?⟩ := found
      cases x? with
      | none => simp [slot_of_vacant hlook, site_of_vacant hlook, Site.holds]
      | some x =>
          have hlink : ∀ target, x ≠ .link target := by
            rintro target rfl
            exact hl job dir target hlook
          rw [slot_of_lookup hlook (by simpa using hlink), site_of_node hlook hlink]
          cases x <;> simp [slotOf, siteOf, Site.holds]

/-! ### Sites that stay the same -/

/-- As soon as one artifact can be asked for, only a path that is refused keeps another from it. -/
theorem checkPath_of_lookup_eq_none {found : Place × Option Node} (hj : s.lookup j t = none)
    (hjob : s.lookup job t = some found) :
    ∃ e, FileTree.checkPath (s.artifact j) = .error e := by
  obtain ⟨dir, x?⟩ := found
  obtain ⟨-, hd, hpass, -⟩ := lookup_eq_some_iff.1 hjob
  cases hc : FileTree.checkPath (s.artifact j) with
  | error e => exact ⟨e, rfl⟩
  | ok _ =>
      unfold lookup at hj
      simp [hc, hd, hpass] at hj

/-- A path that is refused leads nowhere in any tree. -/
theorem site_of_checkPath {e : IoError} (hc : FileTree.checkPath (s.artifact j) = .error e)
    (t : FileTree) : s.site j t = .closed e := by
  have hlocate : t.locate t.cwd .making (s.artifact j) = .error e := by
    rw [locate_artifact, hc]
    rfl
  exact site_of_locate_error hlocate

/-- Where the entry, the file and the way to make one are the same, the site is. -/
theorem site_congr (hl : s.Linkless t) (hlookup : s.lookup j t' = s.lookup j t)
    (hclosed : s.lookup j t = none → s.site j t' = s.site j t)
    (hfile : ∀ id, s.fileOf? j t = some id → t'.file? id = t.file? id)
    (hrefusal : ∀ dir, t'.refusal? dir = t.refusal? dir) (hmask : t'.mask = t.mask) :
    s.site j t' = s.site j t := by
  cases hlook : s.lookup j t with
  | none => exact hclosed hlook
  | some found =>
      obtain ⟨dir, x?⟩ := found
      have hlook' := hlookup.trans hlook
      cases x? with
      | none => rw [site_of_vacant hlook, site_of_vacant hlook', hrefusal, hmask]
      | some x =>
          have hlink : ∀ target, x ≠ .link target := by
            rintro target rfl
            exact hl j dir target hlook
          rw [site_of_node hlook hlink, site_of_node hlook' hlink]
          cases x with
          | file id =>
              have hid := hfile id (fileOf?_eq_some_iff.2 ⟨dir, hlook⟩)
              simp [siteOf, contents, hid]
          | _ => rfl

theorem refusal?_congr (hs : t'.seals = t.seals)
    (hm : ∀ place, (t'.dirInfo place).mode = (t.dirInfo place).mode) (dir : Place) :
    t'.refusal? dir = t.refusal? dir := by
  unfold FileTree.refusal? FileTree.seal?
  rw [hs, hm]

/-- A site stays the same while other files are written. -/
theorem site_of_rewritten {touched : Nat → Prop} (hl : s.Linkless t) (h : t.Rewritten touched t')
    (hj : ∀ id, s.fileOf? j t = some id → ¬ touched id) : s.site j t' = s.site j t := by
  refine site_congr hl (lookup_congr h.root h.dirs h.cwd j) (fun hnone => ?_)
    (fun id hid => h.file id (hj id hid)) (fun dir => ?_) h.mask
  · obtain ⟨e, he, hsite⟩ := site_of_lookup_eq_none hnone
    have hlocate : t'.locate t'.cwd .making (s.artifact j) = .error e := by
      rw [h.cwd, FileTree.locate_congr h.root h.dirs, he]
    rw [hsite, site_of_locate_error hlocate]
  · exact refusal?_congr h.seals (fun place => by simp [FileTree.dirInfo, h.dirs]) dir

/-- Writing into the artifact of a job changes no other site. -/
theorem site_setFile_of_ne (hp : s.Plain t) (hid : s.fileOf? job t = some id) (hj : j ≠ job)
    (g : File) : s.site j (t.setFile id g) = s.site j t := by
  have hwritten : t.Rewritten (Eq id) (t.setFile id g) := .setFile rfl g
  refine site_of_rewritten hp.linkless hwritten fun id' hid' he => ?_
  subst he
  exact hj ((hp.unshared job id hid).2 j hid')

theorem site_setFile_self (hp : s.Plain t) (hid : s.fileOf? job t = some id) (g : File) :
    s.site job (t.setFile id g) = .file g.mode g.bytes := by
  have hid' : s.fileOf? job (t.setFile id g) = some id := by
    unfold fileOf? at hid ⊢
    rw [lookup_setFile, hid]
  exact site_of_file hid' (FileTree.file?_setFile_self (hp.unshared job id hid).1 g)

/-- A new artifact changes no other site. -/
theorem site_addFile_of_ne (hp : s.Plain t) (vacant : s.lookup job t = some (dir, none))
    (hj : j ≠ job) : s.site j (t.addFile (dir ++ [artifactName job]) f).2 = s.site j t := by
  refine site_congr hp.linkless (lookup_addFile_of_ne vacant hj) (fun hnone => ?_)
    (fun id hid => ?_) (refusal?_congr rfl (grows_of_vacant vacant).mode) rfl
  · obtain ⟨e, he⟩ := checkPath_of_lookup_eq_none hnone vacant
    rw [site_of_checkPath he, site_of_checkPath he]
  · obtain ⟨g, hg⟩ := Option.isSome_iff_exists.1 (hp.unshared j id hid).1
    rw [file?_addFile_of_some hg, hg]

theorem site_addFile_self (vacant : s.lookup job t = some (dir, none)) :
    s.site job (t.addFile (dir ++ [artifactName job]) f).2 = .file f.mode f.bytes :=
  site_of_file (fileOf?_addFile_self vacant) (file?_addFile_self t _ f)

theorem plain_addFile (hp : s.Plain t) (vacant : s.lookup job t = some (dir, none)) :
    s.Plain (t.addFile (dir ++ [artifactName job]) f).2 :=
  ⟨linkless_addFile vacant hp.linkless, unshared_addFile vacant hp.unshared⟩

/-! ### Settling -/

/-- What stands in the way of a placeholder keeps all files as they are. -/
theorem writePlaceholder_of_error {e : IoError}
    (hc : t.createNew t.cwd (s.artifact job) = .error e) : (s.writePlaceholder job t).2 = t := by
  unfold writePlaceholder
  rw [hc]
  cases e with
  | os e => by_cases hx : e = .exist <;> simp [hx]
  | _ => rfl

/-- A placeholder is written to an artifact that is made for it; otherwise nothing happens. -/
theorem writePlaceholder_snd (job : Job) (hl : s.Linkless t) :
    ((s.writePlaceholder job t).2 = t ∧ (s.site job t).settle = s.site job t) ∨
    ∃ dir f, s.lookup job t = some (dir, none) ∧ s.site job t = .vacant none f.mode ∧
      (s.writePlaceholder job t).2 = (t.addFile (dir ++ [artifactName job]) f).2.setFile
        t.files.length { f with bytes := bytesOf placeholderText } := by
  cases hlook : s.lookup job t with
  | none =>
      have hlocate : ∃ e, t.locate t.cwd .entry (s.artifact job) = .error e :=
        locate_of_lookup_eq_none hlook
      obtain ⟨e, he⟩ := hlocate
      obtain ⟨e', -, hsite⟩ := site_of_lookup_eq_none hlook
      refine .inl ⟨writePlaceholder_of_error (e := e) ?_, by rw [hsite]; rfl⟩
      simp [FileTree.createNew, he, bind, Except.bind]
  | some found =>
      obtain ⟨dir, x?⟩ := found
      cases x? with
      | none =>
          rw [site_of_vacant hlook]
          have hnew := createNew_of_vacant hlook
          rw [FileTree.makeFile_eq] at hnew
          cases hr : t.refusal? dir with
          | some e =>
              rw [hr] at hnew
              exact .inl ⟨writePlaceholder_of_error hnew, rfl⟩
          | none =>
              rw [hr] at hnew
              let f : File := ⟨unmasked 0o666 t.mask, [], t.now⟩
              let made := (t.addFile (dir ++ [artifactName job]) f).2
              have hmade : t.createNew t.cwd (s.artifact job) =
                  .ok (⟨.file t.files.length, 0, false⟩, made) := hnew
              have hfile : made.file? t.files.length = some f := file?_addFile_self t _ f
              have hnow : made.now = f.time := rfl
              have hwrite : ∀ b : Bytes, made.write ⟨.file t.files.length, 0, false⟩ b =
                  .ok (made.setFile t.files.length { f with bytes := b },
                    ⟨.file t.files.length, b.length, false⟩) := by
                intro b
                simp [FileTree.write, hfile, hnow, splice, f]
              refine .inr ⟨dir, f, rfl, rfl, ?_⟩
              unfold writePlaceholder
              rw [hmade]
              simp only [hwrite]
              rfl
      | some x =>
          have hlink : ∀ target, x ≠ .link target := by
            rintro target rfl
            exact hl job dir target hlook
          have hlocate : t.locate t.cwd .entry (s.artifact job) = .ok (foundAt dir job (some x)) :=
            locate_of_lookup hlook (by simpa using hlink)
          refine .inl ⟨writePlaceholder_of_error (e := .os .exist) ?_, ?_⟩
          · simp [FileTree.createNew, hlocate, foundAt, bind, Except.bind, throw, throwThe,
              MonadExceptOf.throw]
          · rw [site_of_node hlook hlink]
            cases x <;> rfl

/-- **Settling an artifact settles its site.** -/
theorem site_writePlaceholder (hp : s.Plain t) :
    s.site job (s.writePlaceholder job t).2 = (s.site job t).settle := by
  rcases writePlaceholder_snd job hp.linkless with ⟨hsame, hsettle⟩ | ⟨dir, f, hlook, hsite, hmade⟩
  · rw [hsame, hsettle]
  · rw [hmade, hsite, site_setFile_self (plain_addFile hp hlook) (fileOf?_addFile_self hlook)]
    rfl

/-- Settling an artifact changes no other site. -/
theorem site_writePlaceholder_of_ne (hp : s.Plain t) (hj : j ≠ job) :
    s.site j (s.writePlaceholder job t).2 = s.site j t := by
  rcases writePlaceholder_snd job hp.linkless with ⟨hsame, -⟩ | ⟨dir, f, hlook, -, hmade⟩
  · rw [hsame]
  · rw [hmade, site_setFile_of_ne (plain_addFile hp hlook) (fileOf?_addFile_self hlook) hj,
      site_addFile_of_ne hp hlook hj]

/-! ### Opening -/

/-- An artifact has been opened: its site is as given, no other one has changed, and what is open is
the artifact, from its start on. -/
structure Opening (s : Store) (job : Job) (t : FileTree) (y : Site) (h : Handle) (t' : FileTree) :
    Prop where
  own : s.site job t' = y
  others : ∀ j, j ≠ job → s.site j t' = s.site j t
  plain : s.Plain t'
  handle : (∃ id mode, h = ⟨.file id, 0, false⟩ ∧ s.fileOf? job t' = some id ∧ y = .file mode []) ∨
    ∃ d, h = ⟨.device d, 0, false⟩ ∧ y = .device d

/-- What an artifact that can be asked for is opened as. -/
theorem openForWrite_of_lookup {x? : Option Node} (hlook : s.lookup job t = some (dir, x?))
    (hlink : ∀ target, x? ≠ some (.link target)) :
    s.openForWrite job t = Except.mapError (.io (s.artifact job))
      (match x? with
      | none => t.makeFile dir (artifactName job)
      | some (.file id) => do
          t.demandWritable id
          return (⟨.file id, 0, false⟩, t.rewrite id [])
      | some (.device d) => .ok (⟨.device d, 0, false⟩, t)
      | some _ => .error (.os .isDir)) := by
  have hlocate : t.locate t.cwd .making (s.artifact job) = .ok (foundAt dir job x?) :=
    locate_of_lookup hlook hlink
  unfold openForWrite FileTree.create
  rw [hlocate]
  cases x? with
  | none => rfl
  | some x => cases x <;> rfl

/-- An artifact that cannot be opened is refused for the reason that its site gives. -/
theorem openForWrite_of_refused {e : IoError} (hp : s.Plain t)
    (ho : (s.site job t).open? = .error e) :
    s.openForWrite job t = .error (.io (s.artifact job) e) := by
  cases hlook : s.lookup job t with
  | none =>
      obtain ⟨e', he, hsite⟩ := site_of_lookup_eq_none hlook
      obtain rfl : e' = e := by simpa [hsite, Site.open?] using ho
      unfold openForWrite FileTree.create
      rw [he]
      rfl
  | some found =>
      obtain ⟨dir, x?⟩ := found
      have hlink : ∀ target, x? ≠ some (.link target) := by
        rintro target rfl
        exact hp.linkless job dir target hlook
      rw [openForWrite_of_lookup hlook hlink]
      cases x? with
      | none =>
          rw [site_of_vacant hlook] at ho
          simp only [FileTree.makeFile_eq]
          cases hr : t.refusal? dir with
          | none => simp [hr, Site.open?] at ho
          | some e' =>
              obtain rfl : e' = e := by simpa [hr, Site.open?] using ho
              rfl
      | some x =>
          cases x with
          | file id =>
              have hid := fileOf?_eq_some_iff.2 ⟨dir, hlook⟩
              obtain ⟨f, hf⟩ := Option.isSome_iff_exists.1 (hp.unshared job id hid).1
              rw [site_of_file hid hf] at ho
              cases hw : Right.write.isIn f.mode with
              | true => simp [Site.open?, hw] at ho
              | false =>
                  obtain rfl : .os .denied = e := by simpa [Site.open?, hw] using ho
                  simp [FileTree.demandWritable, hf, hw, bind, Except.bind]
          | device d => simp [site_of_node hlook, siteOf, Site.open?] at ho
          | link target => exact absurd rfl (hlink target)
          | dir es =>
              obtain rfl : .os .isDir = e := by
                simpa [site_of_node hlook, siteOf, Site.open?] using ho
              rfl

theorem plain_setFile (hp : s.Plain t) (g : File) : s.Plain (t.setFile id g) := by
  have hspared : s.Spared (.file ⟨.file id, 0, false⟩) t (t.setFile id g) := .setFile rfl
  exact ⟨hspared.linkless hp.linkless, hspared.unshared hp.unshared⟩

/-- **Opening an artifact opens its site**, and changes no other one. -/
theorem opening_of_open? {o : Opened} {y : Site} (hp : s.Plain t)
    (ho : (s.site job t).open? = .ok (o, y)) :
    ∃ h t', s.openForWrite job t = .ok (h, t') ∧ h.unnumbered = ⟨o, 0, false⟩ ∧
      s.Opening job t y h t' := by
  cases hlook : s.lookup job t with
  | none =>
      obtain ⟨e, -, hsite⟩ := site_of_lookup_eq_none hlook
      simp [hsite, Site.open?] at ho
  | some found =>
      obtain ⟨dir, x?⟩ := found
      have hlink : ∀ target, x? ≠ some (.link target) := by
        rintro target rfl
        exact hp.linkless job dir target hlook
      rw [openForWrite_of_lookup hlook hlink]
      cases x? with
      | none =>
          rw [site_of_vacant hlook] at ho
          simp only [FileTree.makeFile_eq]
          cases hr : t.refusal? dir with
          | some e => simp [hr, Site.open?] at ho
          | none =>
              obtain ⟨rfl, rfl⟩ : .file 0 = o ∧ .file (unmasked 0o666 t.mask) [] = y := by
                simpa [hr, Site.open?] using ho
              exact ⟨_, _, rfl, rfl, site_addFile_self hlook,
                fun j hj => site_addFile_of_ne hp hlook hj, plain_addFile hp hlook,
                .inl ⟨_, _, rfl, fileOf?_addFile_self hlook, rfl⟩⟩
      | some x =>
          cases x with
          | file id =>
              have hid := fileOf?_eq_some_iff.2 ⟨dir, hlook⟩
              obtain ⟨f, hf⟩ := Option.isSome_iff_exists.1 (hp.unshared job id hid).1
              rw [site_of_file hid hf] at ho
              cases hw : Right.write.isIn f.mode with
              | false => simp [Site.open?, hw] at ho
              | true =>
                  obtain ⟨rfl, rfl⟩ : .file 0 = o ∧ .file f.mode [] = y := by
                    simpa [Site.open?, hw] using ho
                  have hemptied : t.rewrite id [] =
                      t.setFile id { f with bytes := [], time := t.now } := by
                    simp [FileTree.rewrite, hf]
                  have hid' : s.fileOf? job (t.rewrite id []) = some id := by
                    unfold fileOf? at hid ⊢
                    rw [hemptied, lookup_setFile, hid]
                  refine ⟨⟨.file id, 0, false⟩, t.rewrite id [], ?_, rfl, ?_, fun j hj => ?_, ?_,
                    .inl ⟨id, f.mode, rfl, hid', rfl⟩⟩
                  · simp [FileTree.demandWritable, hf, hw, bind, Except.bind, pure, Except.pure]
                  · rw [hemptied, site_setFile_self hp hid]
                  · rw [hemptied, site_setFile_of_ne hp hid hj]
                  · rw [hemptied]
                    exact plain_setFile hp _
          | device d =>
              have hsite : s.site job t = .device d := site_of_node hlook (by simp)
              obtain ⟨rfl, rfl⟩ : .device d = o ∧ .device d = y := by
                simpa [hsite, Site.open?] using ho
              exact ⟨_, t, rfl, rfl, hsite, fun _ _ => rfl, hp, .inr ⟨d, rfl, rfl⟩⟩
          | link target => exact absurd rfl (hlink target)
          | dir es => simp [site_of_node hlook, siteOf, Site.open?] at ho

end Store

end BatchRunner
