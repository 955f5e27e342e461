/-
**Paths that lead to nothing but emptiness.**

A path is hollow if it leads to no directory that has anything in it.  A directory that has been
removed with everything below it is hollow afterwards, and so is one that was just made.  Making a
directory with its ancestors keeps a path hollow too, with one exception: a path that goes up again
from a directory which is yet to be made leads past it, to whatever there is.

Main definitions:

* `FileTree.Hollow` — a path leads to no directory that has anything in it;
* `FileTree.Steady` — a path goes up from nothing that is not there.

Main results:

* `FileTree.place_of_parent` — a path leads to the entry of its last name;
* `FileTree.leaves_removeDirAll` — removing a path with all below it only removes, even if it fails;
* `FileTree.hollow_removeDirAll` — **a path is hollow when it has been removed with all below it**;
* `FileTree.hollow_makeDirAll` — **a steady path is hollow when its directories have been made**.
-/
import BatchRunner.Proofs.Files.Pruning

set_option autoImplicit false

namespace BatchRunner.FileTree

variable {t t' u : FileTree} {here place base dir : Place} {es : List (String × Node)}
  {n : String} {rest : List String} {aim : Aim} {links : Nat} {x : Node} {found : Found}
  {path p q : String} {ps below passed : List String}

/-! ### The last name of a path -/

/-- A name that is found and does not only stand for a direction is that of an entry. -/
theorem plainName_of_walk (hidle : Path.isIdle n = false) (hup : n ≠ "..")
    (hw : t.walk aim links here (n :: rest) = .ok found) : PlainName n := by
  have hempty : n ≠ "" := by
    rintro rfl
    exact absurd hidle (by decide)
  have hdot : n ≠ "." := by
    rintro rfl
    exact absurd hidle (by decide)
  rw [walk] at hw
  cases hnode : t.node? here with
  | none => simp [hnode, hempty, hdot, hup] at hw
  | some y =>
      cases y with
      | dir es =>
          refine ⟨hempty, hdot, hup, ?_, ?_⟩
          · intro hslash
            simp only [hnode, hempty, hdot, hup, hslash, if_false, if_true] at hw
            split at hw <;> cases hw
          · refine Nat.not_lt.1 fun hlong => ?_
            simp only [hnode, hempty, hdot, hup, hlong, if_false, if_true] at hw
            split at hw
            · cases hw
            · split at hw <;> cases hw
      | _ => simp [hnode] at hw

theorem pieces_of_lastName (h : lastName path = .name n) :
    Path.pieces path = (Path.pieces path).dropLast ++ [n] ∧ Path.isIdle n = false ∧ n ≠ ".." := by
  unfold lastName at h
  split at h
  · cases h
  · cases h
  · cases h
  · next m hdot hdots hlast =>
      obtain rfl : m = n := by simpa using h
      have hmem : m ∈ Path.pieces path := List.mem_of_getLast? hlast
      refine ⟨(List.dropLast_append_getLast? m hlast).symm, ?_, fun hm => hdots (by rw [hm])⟩
      rw [Path.isIdle_eq_of_isName (Path.isName_of_mem_pieces hmem), decide_eq_false_iff_not]
      exact fun hm => hdot (by rw [hm])

/-- **A path leads to the entry of its last name**, unless that is a link, and in no other tree to
anything else. -/
theorem place_of_parent (hparent : t.locateParent base path = .ok (dir, es, .name n))
    (hwithin : t'.Within t ∨ t.Within t')
    (hlink : ∀ target, t'.node? (dir ++ [n]) ≠ some (.link target))
    (hw : t'.walk .target linkMax (start base path) (Path.trail path) = .ok (.node place x)) :
    place = dir ++ [n] ∧ t'.node? (dir ++ [n]) = some x := by
  obtain ⟨hwalk, hlast, -⟩ := locateParent_eq_ok hparent
  obtain ⟨hpieces, hidle, hup⟩ := pieces_of_lastName hlast
  let front := (Path.pieces path).dropLast.filter fun n => !Path.isIdle n
  have htrail : Path.trail path = front ++ [n] := by
    rw [Path.trail, hpieces, List.filter_append, List.filter_cons_of_pos (by simp [hidle])]
    rfl
  have hfront : t.walk .target linkMax (start base path) front = .ok (.node dir (.dir es)) := by
    have hall : t.walk .target linkMax (start base path) ([] ++ (Path.pieces path).dropLast) =
        .ok (.node dir (.dir es)) := hwalk
    exact walk_filter hall
  rw [htrail] at hw
  cases t'.leads linkMax (start base path) front with
  | nowhere _ onward =>
      obtain ⟨e, he⟩ := onward .target [n] (by simp)
      rw [he] at hw
      cases hw
  | somewhere dir' y links' reached onward =>
      obtain rfl : dir = dir' := by
        rcases hwithin with hwithin | hwithin
        · exact (hwithin.walk_place reached hfront).symm
        · exact hwithin.walk_place hfront reached
      rw [onward .target [n] (by simp)] at hw
      obtain ⟨es', hseek⟩ := (plainName_of_walk hidle hup hw).exists_seeks hw
      have hentry : t'.node? (dir ++ [n]) = Entries.get? n es' := node?_snoc hseek.dir
      cases hget : Entries.get? n es' with
      | none =>
          rw [hseek.walk_of_get?_eq_none hget] at hw
          simp at hw
      | some z =>
          have hz : ∀ target, z ≠ .link target := by
            rintro target rfl
            exact hlink target (hentry.trans hget)
          rw [hseek.walk_of_get? hget hz] at hw
          obtain ⟨hplace, hx | ⟨hnone, -⟩⟩ := walk_nil hw
          · exact ⟨hplace, hx⟩
          · rw [hentry, hget] at hnone
            cases hnone

/-! ### Hollow paths -/

/-- **A path leads to no directory that has anything in it.** -/
def Hollow (t : FileTree) (base : Place) (path : String) : Prop :=
  ∀ place x, t.walk .target linkMax (start base path) (Path.trail path) = .ok (.node place x) →
    ∀ n, t.node? (place ++ [n]) = none

/-- A path leads nowhere. -/
def Misses (t : FileTree) (base : Place) (path : String) : Prop :=
  ∀ place x, t.walk .target linkMax (start base path) (Path.trail path) ≠ .ok (.node place x)

/-- What a path leads to is what its trail leads to. -/
theorem walk_trail {place : Place}
    (hw : t.walk .target linkMax (start base path) (stepsOf path) = .ok (.node place x)) :
    t.walk .target linkMax (start base path) (Path.trail path) = .ok (.node place x) := by
  have hsteps : (stepsOf path).filter (fun n => !Path.isIdle n) = Path.trail path := by
    rw [stepsOf, List.filter_append, Path.trail]
    split
    · rw [List.filter_cons_of_neg (by decide), List.filter_nil, List.append_nil]
    · rw [List.filter_nil, List.append_nil]
  have hall : t.walk .target linkMax (start base path) ([] ++ stepsOf path) =
      .ok (.node place x) := hw
  rw [← hsteps]
  exact walk_filter hall

theorem locate_eq_ok_iff :
    t.locate base aim path = .ok found ↔
      checkPath path = .ok () ∧
        t.walk aim linkMax (start base path) (aim.steps path) = .ok found := by
  unfold locate
  cases hc : checkPath path with
  | error e => simp [bind, Except.bind]
  | ok _ =>
      cases hw : t.walk aim linkMax (start base path) (aim.steps path) with
      | error e => simp [bind, Except.bind]
      | ok found' => simp [bind, Except.bind]

theorem stat_eq_ok_iff :
    t.stat base path = .ok (place, x) ↔ t.locate base .target path = .ok (.node place x) := by
  unfold stat
  cases hl : t.locate base .target path with
  | error e => simp [bind, Except.bind]
  | ok found =>
      cases found with
      | absent dir n => simp [bind, Except.bind, throw, throwThe, MonadExceptOf.throw]
      | node place' x' => simp [bind, Except.bind, pure, Except.pure]

/-- The directory that the last name of a path stands in, when the names in front lead to one. -/
theorem locateParent_of_walk (hcheck : checkPath path = .ok ())
    (hw : t.walk .target linkMax (start base path) (Path.pieces path).dropLast =
      .ok (.node place (.dir es)))
    (hkept : place.isGone = false) : t.locateParent base path = .ok (place, es, lastName path) := by
  unfold locateParent
  simp [hcheck, hw, hkept, bind, Except.bind, pure, Except.pure]

theorem locateParent_of_error {e : Errno} (hcheck : checkPath path = .ok ())
    (hw : t.walk .target linkMax (start base path) (Path.pieces path).dropLast = .error e) :
    t.locateParent base path = .error (.os e) := by
  unfold locateParent
  simp [hcheck, hw, bind, Except.bind]

theorem locateParent_of_absent (hcheck : checkPath path = .ok ())
    (hw : t.walk .target linkMax (start base path) (Path.pieces path).dropLast = .ok (.absent dir n)) :
    t.locateParent base path = .error (.os .noEntry) := by
  unfold locateParent
  simp [hcheck, hw, bind, Except.bind, throw, throwThe, MonadExceptOf.throw]

theorem walk_of_stat (h : t.stat base path = .ok (place, x)) :
    t.walk .target linkMax (start base path) (Path.trail path) = .ok (.node place x) :=
  walk_trail (locate_eq_ok_iff.1 (stat_eq_ok_iff.1 h)).2

/-- A path is that of a directory exactly if it leads to one. -/
theorem isDir_iff : t.isDir base path = true ↔ ∃ place es, t.stat base path = .ok (place, .dir es) := by
  unfold isDir found?
  cases hstat : t.stat base path with
  | error e => simp
  | ok found =>
      obtain ⟨place, x⟩ := found
      cases x <;> simp [Node.isDir]

/-! ### Removing -/

/-- What becomes of a path that is to be removed with all below it: it is left alone, the entry of its
last name is taken out, or the directory that it leads to is cleared first. -/
theorem removeDirAll_cases (t : FileTree) (base : Place) (path : String) :
    ((t.removeDirAll base path).1 ≠ .ok () ∧ (t.removeDirAll base path).2 = t) ∨
    (∃ dir es n, t.locateParent base path = .ok (dir, es, .name n) ∧
      (t.removeDirAll base path).2 = t.remove (dir ++ [n])) ∨
    ∃ place es, t.locate base .entry path = .ok (.node place (.dir es)) ∧
      ((t.removeDirAll base path).1 = .ok () → (t.clear place (.dir es)).1 = .ok ()) ∧
      (t.clear place (.dir es)).2.Leaves (t.removeDirAll base path).2 := by
  unfold removeDirAll
  cases hlocate : t.locate base .entry path with
  | error e => exact .inl ⟨nofun, rfl⟩
  | ok found =>
      cases found with
      | absent dir n => exact .inl ⟨nofun, rfl⟩
      | node place x =>
          cases x with
          | file | device => exact .inl ⟨nofun, rfl⟩
          | link target =>
              dsimp only
              cases hunlink : t.unlink base path with
              | error e => exact .inl ⟨nofun, rfl⟩
              | ok u =>
                  obtain ⟨dir, es, n, hparent, rfl⟩ := unlink_eq_ok hunlink
                  exact .inr (.inl ⟨dir, es, n, hparent, rfl⟩)
          | dir es =>
              refine .inr (.inr ⟨place, es, rfl, ?_⟩)
              dsimp only
              generalize t.clear place (.dir es) = cleared
              obtain ⟨_ | _, u⟩ := cleared
              · exact ⟨nofun, .refl u⟩
              · refine ⟨fun _ => rfl, ?_⟩
                dsimp only
                cases hremove : u.removeDir ((u.moves.drop t.moves.length).foldl Place.after base)
                    path with
                | error e => exact .refl u
                | ok u' =>
                    obtain ⟨dir, n, rfl⟩ := removeDir_eq_ok hremove
                    exact ⟨⟨(within_remove u dir n).node⟩, rfl⟩

/-- **Removing a path with all below it only removes**, even if it fails halfway. -/
theorem leaves_removeDirAll (t : FileTree) (base : Place) (path : String) :
    t.Leaves (t.removeDirAll base path).2 := by
  rcases t.removeDirAll_cases base path with
    ⟨-, hsame⟩ | ⟨dir, es, n, -, hremove⟩ | ⟨place, es, -, -, hleaves⟩
  · rw [hsame]
    exact .refl t
  · rw [hremove]
    exact ⟨within_remove t dir n, rfl⟩
  · exact (leaves_clear t place (.dir es)).trans hleaves

/-- **A path is hollow when it has been removed with all below it.** -/
theorem hollow_removeDirAll (h : t.removeDirAll base path = (.ok (), t')) :
    t'.Hollow base path := by
  intro place x hw n
  have hcases := t.removeDirAll_cases base path
  have hall := t.leaves_removeDirAll base path
  rw [h] at hcases hall
  rcases hcases with ⟨hne, -⟩ | ⟨dir, es, m, hparent, rfl⟩ | ⟨place₀, es, hlocate, hclear, hleaves⟩
  · exact absurd rfl hne
  · -- the entry is gone, so nothing can have been found
    have hgone := node?_remove_self t dir m
    have hfound := (place_of_parent hparent (.inl (within_remove t dir m)) (by simp [hgone]) hw).2
    rw [hgone] at hfound
    cases hfound
  · have hentry := (locate_eq_ok_iff.1 hlocate).2
    have hbefore := walk_trail (walk_entry hentry (by simp))
    obtain rfl := hall.within.walk_place hw hbefore
    rcases node?_of_walk hbefore with hdir | ⟨hnone, -⟩
    · exact hleaves.within.node?_eq_none (node?_clear_below hdir (hclear rfl) n)
    · exact hall.within.node?_eq_none (node?_eq_none_below hnone (List.prefix_append place [n]))

/-! ### Making -/

theorem Furnished.within (h : Furnished t t') : t.Within t' where
  node {place x} hx := by
    have hgains := h.node place
    rw [hx] at hgains
    generalize t'.node? place = y? at hgains
    cases hgains with
    | same => exact ⟨x, rfl, .refl x⟩
    | grown es es' => exact ⟨.dir es', rfl, .inr ⟨rfl, rfl⟩⟩

/-- The directory that the last name of a path stands in is there. -/
theorem node?_of_parent (h : t.locateParent base path = .ok (dir, es, .name n)) :
    t.node? dir = some (.dir es) := by
  obtain ⟨hwalk, -, hkept⟩ := locateParent_eq_ok h
  rcases node?_of_walk hwalk with hdir | ⟨-, -, hgone⟩
  · exact hdir
  · rw [hkept n rfl] at hgone
    cases hgone

/-- **A directory that was just made is empty.** -/
theorem hollow_makeDir (h : t.makeDir base path = .ok t') : t'.Hollow base path := by
  intro place x hw m
  have hwithin := (furnished_makeDir h).within
  obtain ⟨dir, es, n, hparent, -, rfl⟩ := makeDir_eq_ok h
  have hnew : (t.put (dir ++ [n]) (.dir [])).node? (dir ++ [n]) = some (.dir []) :=
    node?_put_self (node?_of_parent hparent)
  obtain ⟨rfl, -⟩ := place_of_parent hparent (.inr hwithin)
    (fun target hlink => by simpa [hnew] using hnew.symm.trans hlink) hw
  exact node?_snoc hnew

/-- Where a directory can be made there was nothing. -/
theorem misses_of_makeDir (h : t.makeDir base path = .ok t') : t.Misses base path := by
  intro place x hw
  obtain ⟨dir, es, n, hparent, hget, -⟩ := makeDir_eq_ok h
  have hfree := node?_of_locateParent hparent hget
  have hfound := (place_of_parent hparent (.inl (Within.refl t)) (by simp [hfree]) hw).2
  rw [hfree] at hfound
  cases hfound

/-- A path leads nowhere if the path in front of its last name does not. -/
theorem Misses.of_parent (h : t.Misses base p) (habs : Path.isAbsolute p = Path.isAbsolute q)
    (htrail : Path.trail q = Path.trail p ++ [n]) : t.Misses base q := by
  intro place x hw
  have hstart : start base q = start base p := by rw [start, start, habs]
  rw [hstart, htrail] at hw
  cases t.leads linkMax (start base p) (Path.trail p) with
  | somewhere place' y links' reached _ => exact h place' y reached
  | nowhere _ onward =>
      obtain ⟨e, he⟩ := onward .target [n] (by simp)
      rw [he] at hw
      cases hw

/-- Nothing is found in a directory that has nothing in it. -/
theorem Hollow.misses (h : t.Hollow base p) (habs : Path.isAbsolute p = Path.isAbsolute q)
    (htrail : Path.trail q = Path.trail p ++ [n]) (hidle : Path.isIdle n = false) (hup : n ≠ "..") :
    t.Misses base q := by
  intro place x hw
  have hstart : start base q = start base p := by rw [start, start, habs]
  rw [hstart, htrail] at hw
  cases t.leads linkMax (start base p) (Path.trail p) with
  | nowhere _ onward =>
      obtain ⟨e, he⟩ := onward .target [n] (by simp)
      rw [he] at hw
      cases hw
  | somewhere dir y links' reached onward =>
      rw [onward .target [n] (by simp)] at hw
      obtain ⟨es, hseek⟩ := (plainName_of_walk hidle hup hw).exists_seeks hw
      have hget : Entries.get? n es = none := (node?_snoc hseek.dir).symm.trans (h dir y reached n)
      rw [hseek.walk_of_get?_eq_none hget] at hw
      simp at hw

/-- **A path goes up from nothing that is not there.** -/
def Steady (t : FileTree) (base : Place) (path : String) : Prop :=
  ∀ before after, Path.trail path = before ++ ".." :: after →
    ∃ place x, t.walk .target linkMax (start base path) before = .ok (.node place x)

theorem steady_of_not_mem (h : ".." ∉ Path.trail path) : t.Steady base path := by
  intro before after htrail
  exact absurd (by simp [htrail]) h

theorem Steady.parent (h : t.Steady base q) (habs : Path.isAbsolute p = Path.isAbsolute q)
    (htrail : Path.trail q = Path.trail p ++ [n]) : t.Steady base p := by
  intro before after hbefore
  have hstart : start base q = start base p := by rw [start, start, habs]
  rw [← hstart]
  exact h before (after ++ [n]) (by rw [htrail, hbefore]; simp)

/-- A path that goes up last goes up from something that is there. -/
theorem Steady.ne_up (h : t.Steady base q) (hmiss : t.Misses base p)
    (habs : Path.isAbsolute p = Path.isAbsolute q)
    (htrail : Path.trail q = Path.trail p ++ [n]) : n ≠ ".." := by
  rintro rfl
  obtain ⟨place, x, hw⟩ := h (Path.trail p) [] htrail
  have hstart : start base q = start base p := by rw [start, start, habs]
  rw [hstart] at hw
  exact hmiss place x hw

/-! ### Making a directory with its ancestors -/

/-- What climbing does: it passes paths that cannot be made for want of an ancestor, up to one that
can be made, or to one that need not be. -/
theorem climb_eq_ok (h : climb base below ps t = (.ok passed, t')) :
    ∃ qs rest, ps = qs ++ rest ∧ passed = qs.reverse ++ below ∧
      (∀ q ∈ qs, q ≠ "" ∧ t.makeDir base q = .error (.os .noEntry)) ∧
      ((∃ p ps', rest = p :: ps' ∧ p ≠ "" ∧ t.makeDir base p = .ok t') ∨
        t' = t ∧ ∀ p ps', rest = p :: ps' → p = "" ∨ t.isDir base p = true) := by
  induction ps generalizing below with
  | nil =>
      obtain ⟨rfl, rfl⟩ : below = passed ∧ t = t' := by simpa [climb] using h
      exact ⟨[], [], rfl, rfl, by simp, .inr ⟨rfl, by simp⟩⟩
  | cons p ps ih =>
      unfold climb at h
      split at h
      · next hp =>
          obtain ⟨rfl, rfl⟩ : below = passed ∧ t = t' := by simpa using h
          exact ⟨[], p :: ps, rfl, rfl, by simp, .inr ⟨rfl, by simp [hp]⟩⟩
      · next hp =>
          split at h
          · next t₁ hmake =>
              obtain ⟨rfl, rfl⟩ : below = passed ∧ t₁ = t' := by simpa using h
              exact ⟨[], p :: ps, rfl, rfl, by simp, .inl ⟨p, ps, rfl, hp, hmake⟩⟩
          · next e hmake =>
              split at h
              · next he =>
                  obtain ⟨qs, rest, rfl, rfl, hqs, hrest⟩ := ih h
                  refine ⟨p :: qs, rest, rfl, by simp, ?_, hrest⟩
                  intro q hq
                  rcases List.mem_cons.1 hq with rfl | hq
                  · exact ⟨hp, by rw [hmake, he]⟩
                  · exact hqs q hq
              · split at h
                · next hdir =>
                    obtain ⟨rfl, rfl⟩ : below = passed ∧ t = t' := by simpa using h
                    refine ⟨[], p :: ps, rfl, rfl, by simp, .inr ⟨rfl, ?_⟩⟩
                    rintro q ps' ⟨rfl, rfl⟩
                    exact .inr hdir.2
                · cases h
          · cases h

theorem descend_append (base : Place) (ps qs : List String) (t : FileTree) :
    descend base (ps ++ qs) t =
      match descend base ps t with
      | (.ok (), t') => descend base qs t'
      | (.error e, t') => (.error e, t') := by
  induction ps generalizing t with
  | nil => rfl
  | cons p ps ih =>
      simp only [List.cons_append, descend]
      split
      · exact ih _
      · split
        · exact ih t
        · rfl

theorem not_isIdle_of_trail (h : Path.trail q = Path.trail p ++ [n]) : Path.isIdle n = false := by
  have hmem : n ∈ Path.trail q := by simp [h]
  simpa using (List.mem_filter.1 hmem).2

/-- One directory more: it is made, for it cannot be there. -/
theorem hollow_descend_one (hhollow : t.Hollow base p) (habs : Path.isAbsolute p = Path.isAbsolute q)
    (htrail : Path.trail q = Path.trail p ++ [n]) (hup : n ≠ "..")
    (h : descend base [q] t = (.ok (), t')) : t'.Hollow base q := by
  unfold descend at h
  split at h
  · next t₁ hmake =>
      obtain rfl : t₁ = t' := by simpa [descend] using h
      exact hollow_makeDir hmake
  · split at h
    · next hthere =>
        obtain ⟨place, es, hstat⟩ := isDir_iff.1 hthere.2
        have hmiss := hhollow.misses habs htrail (not_isIdle_of_trail htrail) hup
        exact absurd (walk_of_stat hstat) (hmiss place (.dir es))
    · cases h

theorem headD_of_append {qs rest : List String} (h : qs ++ p :: ps = q :: rest) :
    qs.headD p = q := by
  cases qs with
  | nil => exact (List.cons.inj h).1
  | cons _ _ => exact (List.cons.inj h).1

/-- **All the directories below one that was made**, down to the first of those that were passed. -/
theorem hollow_descend (hp : p ≠ "") (hmake : t.makeDir base p = .ok t')
    (hchain : List.IsChain Path.IsParent (passed ++ [p])) (hne : ∀ q ∈ passed, q ≠ "")
    (hsteady : t.Steady base (passed.headD p))
    (h : descend base passed.reverse t' = (.ok (), u)) :
    u.Hollow base (passed.headD p) ∧ t.Misses base (passed.headD p) := by
  induction passed generalizing u with
  | nil =>
      obtain rfl : t' = u := by simpa [descend] using h
      exact ⟨hollow_makeDir hmake, misses_of_makeDir hmake⟩
  | cons q passed ih =>
      obtain ⟨top, rest, htop⟩ : ∃ top rest, passed ++ [p] = top :: rest := by
        cases passed <;> simp
      have hhead : passed.headD p = top := headD_of_append htop
      have hnonempty : top ≠ "" := by
        have hmem : top ∈ passed ++ [p] := by simp [htop]
        rcases List.mem_append.1 hmem with hmem | hmem
        · exact hne top (List.mem_cons_of_mem q hmem)
        · rw [List.mem_singleton.1 hmem]
          exact hp
      rw [List.cons_append, htop, List.isChain_cons_cons, ← htop] at hchain
      obtain ⟨⟨habs, hparent⟩, hchain⟩ := hchain
      obtain ⟨n, htrail⟩ := hparent.resolve_left hnonempty
      rw [List.headD_cons] at hsteady ⊢
      rw [List.reverse_cons, descend_append] at h
      split at h
      · next u₁ hdown =>
          have hsteady' : t.Steady base (passed.headD p) := by
            rw [hhead]
            exact hsteady.parent habs htrail
          obtain ⟨hhollow, hmiss⟩ :=
            ih hchain (fun q' hq' => hne q' (List.mem_cons_of_mem q hq')) hsteady' hdown
          rw [hhead] at hhollow hmiss
          have hup := hsteady.ne_up hmiss habs htrail
          exact ⟨hollow_descend_one hhollow habs htrail hup h, hmiss.of_parent habs htrail⟩
      · cases h

/-- **A steady path is hollow when its directories have been made**, if it did not lead to one. -/
theorem hollow_makeDirAll (hne : path ≠ "") (hdir : t.isDir base path = false)
    (hsteady : t.Steady base path) (h : t.makeDirAll base path = (.ok (), t')) :
    t'.Hollow base path := by
  unfold makeDirAll at h
  rw [if_neg hne] at h
  split at h
  · cases h
  · next below t₁ hclimb =>
      obtain ⟨qs, rest, hps, rfl, hqs, hrest⟩ := climb_eq_ok hclimb
      rw [List.append_nil] at h
      rcases hrest with ⟨p, ps, rfl, hp, hmake⟩ | ⟨rfl, hrest⟩
      · have hchain : List.IsChain Path.IsParent (qs ++ [p]) := by
          have hall := Path.isChain_ancestors path
          rw [hps, List.append_cons] at hall
          exact (List.isChain_append.1 hall).1
        have hhead : qs.headD p = path := headD_of_append hps.symm
        have hresult := hollow_descend hp hmake hchain (fun q hq => (hqs q hq).1)
          (by rwa [hhead]) h
        rw [hhead] at hresult
        exact hresult.1
      · cases hrev : qs.reverse with
        | nil =>
            obtain rfl : qs = [] := by simpa using hrev
            rcases hrest path (Path.ancestors path) hps.symm with hempty | hthere
            · exact absurd hempty hne
            · rw [hdir] at hthere
              cases hthere
        | cons q qs' =>
            have hfails := (hqs q (by rw [← List.mem_reverse, hrev]; simp)).2
            rw [hrev] at h
            have hother : Errno.noEntry ≠ .exist := by decide
            simp [descend, hfails, hother] at h

end BatchRunner.FileTree
