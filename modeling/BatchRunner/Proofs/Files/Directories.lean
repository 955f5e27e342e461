/-
**Making directories makes nothing else.**

A directory is made under a name that is free.  Everything that was there is there still, and what is
new is a directory; this holds of one directory and of a directory with all its ancestors, also if
only some of them can be made.

Main definitions:

* `Node.Gains` — what can become of a place when directories are made;
* `FileTree.Furnished` — at most directories have been made.

Main results:

* `Node.gains_put` — a directory under a free name is the only thing that is new;
* `FileTree.furnished_makeDirAll` — **making a directory with its ancestors makes directories only**;
* `Store.furnished_prepare` — **making the output root usable makes directories only**.
-/
import BatchRunner.Proofs.Files.Walk
import BatchRunner.Store

set_option autoImplicit false

namespace BatchRunner

namespace Node

variable {root : Node} {n : String} {dir place : Place} {x? y? z? : Option Node}

/-! ### A directory under a free name -/

/-- What can become of a place when directories are made: it stays as it is, it is a directory that
gets entries, or it was free and is a directory now. -/
inductive Gains : Option Node → Option Node → Prop where
  | same (x? : Option Node) : Gains x? x?
  | grown (es es' : List (String × Node)) : Gains (some (.dir es)) (some (.dir es'))
  | made (es : List (String × Node)) : Gains none (some (.dir es))

theorem Gains.trans (h : Gains x? y?) (h' : Gains y? z?) : Gains x? z? := by
  cases h with
  | same => exact h'
  | grown es es' =>
      cases h' with
      | same => exact .grown es es'
      | grown _ es'' => exact .grown es es''
  | made es =>
      cases h' with
      | same => exact .made es
      | grown _ es' => exact .made es'

/-- Nothing is put below what is no directory. -/
theorem put_of_not_isDir {new : Node} (h : root.isDir = false) (n : String) (place : Place) :
    put new (n :: place) root = root := by
  cases root <;> cases place <;> simp [put, isDir] at h ⊢

/-- **A directory under a free name is the only thing that is new.** -/
theorem gains_put (hfree : find? (dir ++ [n]) root = none) (place : Place) :
    Gains (find? place root) (find? place (put (.dir []) (dir ++ [n]) root)) := by
  -- down the directory and the place at once: as soon as they part, nothing has changed
  induction dir generalizing root place with
  | nil =>
      cases root with
      | dir es =>
          have hfree' : Entries.get? n es = none := by
            rw [← hfree, List.nil_append, find?]
            cases Entries.get? n es <;> rfl
          cases place with
          | nil => exact .grown es _
          | cons c place =>
              by_cases hc : c = n
              · subst hc
                cases place <;> simp only [find?, put, List.nil_append, hfree', Option.bind_none,
                  Entries.get?_set_self, Option.bind_some, Entries.get?]
                · exact .made []
                · exact .same none
              · simp only [find?, put, List.nil_append, Entries.get?_set_of_ne hc]
                exact .same _
      | _ =>
          rw [List.nil_append, put_of_not_isDir rfl]
          exact .same _
  | cons d dir ih =>
      cases root with
      | dir es =>
          cases hd : Entries.get? d es with
          | none =>
              have hsame : put (.dir []) (d :: dir ++ [n]) (.dir es) = .dir es := by
                cases dir <;> simp [put, hd]
              rw [hsame]
              exact .same _
          | some y =>
              rw [List.cons_append, put_cons (by simp) hd]
              cases place with
              | nil => exact .grown es _
              | cons c place =>
                  by_cases hc : c = d
                  · subst hc
                    have hfree' : find? (dir ++ [n]) y = none := by simpa [find?, hd] using hfree
                    simpa [find?, hd] using ih hfree' place
                  · simp only [find?, Entries.get?_set_of_ne hc]
                    exact .same _
      | _ =>
          rw [List.cons_append, put_of_not_isDir rfl]
          exact .same _

end Node

namespace FileTree

variable {t t' t'' : FileTree} {aim : Aim} {links : Nat} {here place base : Place} {x : Node}
  {ns : List String} {path : String}

/-! ### Directories that are made -/

/-- **At most directories have been made:** every file, link and device is where it was, and none is
new; files hold what they held. -/
structure Furnished (t t' : FileTree) : Prop where
  node : ∀ place, Node.Gains (t.node? place) (t'.node? place)
  files : t'.files = t.files
  cwd : t'.cwd = t.cwd

namespace Furnished

theorem refl (t : FileTree) : Furnished t t := ⟨fun _ => .same _, rfl, rfl⟩

theorem trans (h : Furnished t t') (h' : Furnished t' t'') : Furnished t t'' where
  node place := (h.node place).trans (h'.node place)
  files := h'.files.trans h.files
  cwd := h'.cwd.trans h.cwd

end Furnished

/-- What names lead to is there, or nothing is: of a directory that has been removed there is only
the way back. -/
theorem node?_of_walk (hw : t.walk aim links here ns = .ok (.node place x)) :
    t.node? place = some x ∨ (t.node? place = none ∧ x = .dir [] ∧ place.isGone = true) := by
  fun_induction FileTree.walk t aim links here ns with
  | case1 links here y h =>
      obtain ⟨rfl, rfl⟩ : here = place ∧ y = x := by simpa using hw
      exact .inl h
  | case2 links here h hg =>
      obtain ⟨rfl, rfl⟩ : here = place ∧ .dir [] = x := by simpa using hw
      exact .inr ⟨h, rfl, hg⟩
  | case15 links here n rest es h hn hp hd hdd hs hl target hg hr =>
      obtain ⟨rfl, rfl⟩ : here ++ [n] = place ∧ .link target = x := by simpa using hw
      exact .inl ((node?_snoc h).trans hg)
  | case4 _ _ _ _ _ _ ih | case5 _ _ _ _ _ _ _ ih | case7 _ _ _ _ _ ih | case9 _ _ _ _ _ _ _ ih
  | case10 _ _ _ _ _ _ _ _ ih | case18 _ _ _ _ _ _ _ _ _ _ _ _ _ _ _ _ ih
  | case19 _ _ _ _ _ _ _ _ _ _ _ _ _ _ _ ih => exact ih hw
  | case3 | case6 | case8 | case11 | case12 | case13 | case14 | case16 | case17 | case20 =>
      exact absurd hw (by simp)

/-- The directory that the last name of a path stands in is what the other names lead to; no entry
can be asked for in one that has been removed. -/
theorem locateParent_eq_ok {es : List (String × Node)} {last : LastName}
    (h : t.locateParent base path = .ok (place, es, last)) :
    t.walk .target linkMax (start base path) (Path.pieces path).dropLast =
      .ok (.node place (.dir es)) ∧ lastName path = last ∧
      ∀ n, last = .name n → place.isGone = false := by
  unfold locateParent at h
  cases hc : checkPath path with
  | error e => simp [hc, bind, Except.bind] at h
  | ok _ =>
      cases hw : t.walk .target linkMax (start base path) (Path.pieces path).dropLast with
      | error e => simp [hc, hw, bind, Except.bind] at h
      | ok found =>
          simp only [hc, hw, bind, Except.bind, mapError_ok] at h
          split at h
          · split at h
            · exact absurd h (by simp [throw, throwThe, MonadExceptOf.throw])
            · next hgone =>
                obtain ⟨rfl, rfl, rfl⟩ : _ = place ∧ _ = es ∧ _ = last := by
                  simpa [pure, Except.pure] using h
                refine ⟨rfl, rfl, fun n hn => ?_⟩
                exact Bool.eq_false_iff.2 fun hg => hgone n hg hn
          · exact absurd h (by simp [throw, throwThe, MonadExceptOf.throw])
          · exact absurd h (by simp [throw, throwThe, MonadExceptOf.throw])

/-- A name that the directory in front of it does not have is free. -/
theorem node?_of_locateParent {es : List (String × Node)} {last : LastName} {n : String}
    (h : t.locateParent base path = .ok (place, es, last)) (hn : Entries.get? n es = none) :
    t.node? (place ++ [n]) = none := by
  obtain ⟨hwalk, -⟩ := locateParent_eq_ok h
  rcases node?_of_walk hwalk with hdir | ⟨hnone, -⟩
  · rw [node?_snoc hdir, hn]
  · rw [node?_append, hnone]
    rfl

/-- A directory that is made stands under a name that the directory in front of it did not have. -/
theorem makeDir_eq_ok (h : t.makeDir base path = .ok t') :
    ∃ place es n, t.locateParent base path = .ok (place, es, .name n) ∧
      Entries.get? n es = none ∧
      t' = (t.put (place ++ [n]) (.dir [])).setDirInfo (place ++ [n])
        ⟨unmasked 0o777 t.mask, t.now⟩ := by
  unfold makeDir at h
  cases hparent : t.locateParent base path with
  | error e => simp [hparent, bind, Except.bind] at h
  | ok found =>
      obtain ⟨place, es, last⟩ := found
      cases last with
      | name n =>
          refine ⟨place, es, n, rfl, ?_⟩
          by_cases hlong : nameMax < n.utf8ByteSize
          · simp [hparent, hlong, bind, Except.bind, throw, throwThe, MonadExceptOf.throw] at h
          cases hget : Entries.get? n es with
          | some x =>
              simp [hparent, hlong, hget, bind, Except.bind, throw, throwThe,
                MonadExceptOf.throw] at h
          | none =>
              cases hseal : t.seal? place with
              | some s =>
                  simp [hparent, hlong, hget, hseal, bind, Except.bind, throw, throwThe,
                    MonadExceptOf.throw] at h
              | none =>
                  cases hdemand : t.demand .write place with
                  | error e =>
                      simp [hparent, hlong, hget, hseal, hdemand, bind, Except.bind] at h
                  | ok _ =>
                      simp only [hparent, hlong, hget, hseal, hdemand, bind, Except.bind, if_false,
                        pure, Except.pure] at h
                      exact ⟨rfl, (Except.ok.inj h).symm⟩
      | _ => simp [hparent, bind, Except.bind, throw, throwThe, MonadExceptOf.throw] at h

/-- **Making a directory makes nothing else.** -/
theorem furnished_makeDir (h : t.makeDir base path = .ok t') : Furnished t t' := by
  obtain ⟨place, es, n, hparent, hn, rfl⟩ := makeDir_eq_ok h
  exact ⟨Node.gains_put (node?_of_locateParent hparent hn), rfl, rfl⟩

theorem furnished_climb (base : Place) (below ps : List String) (t : FileTree) :
    Furnished t (climb base below ps t).2 := by
  induction ps generalizing below with
  | nil => exact .refl t
  | cons p ps ih =>
      unfold climb
      split
      · exact .refl t
      · split
        · next t' h => exact furnished_makeDir h
        · split
          · exact ih (p :: below)
          · split <;> exact .refl t
        · exact .refl t

theorem furnished_descend (base : Place) (ps : List String) (t : FileTree) :
    Furnished t (descend base ps t).2 := by
  induction ps generalizing t with
  | nil => exact .refl t
  | cons p ps ih =>
      unfold descend
      split
      · next t' h => exact (furnished_makeDir h).trans (ih t')
      · split
        · exact ih t
        · exact .refl t

/-- **Making a directory with its ancestors makes directories only**, whether or not all of them can
be made. -/
theorem furnished_makeDirAll (t : FileTree) (base : Place) (path : String) :
    Furnished t (t.makeDirAll base path).2 := by
  have hup := furnished_climb base [] (path :: Path.ancestors path) t
  unfold makeDirAll
  split
  · exact .refl t
  · split
    · next e t' h => rwa [h] at hup
    · next below t' h =>
        rw [h] at hup
        exact hup.trans (furnished_descend base below t')

end FileTree

/-- **Making the output root usable makes directories only**, whether or not it becomes usable. -/
theorem Store.furnished_prepare (s : Store) (t : FileTree) : t.Furnished (s.prepare t).2 := by
  have hmade := FileTree.furnished_makeDirAll t t.cwd s.root
  unfold prepare
  split
  · exact .refl t
  · split
    · exact .refl t
    · split
      · next t' h => rwa [h] at hmade
      · next e t' h => rwa [h] at hmade

end BatchRunner
