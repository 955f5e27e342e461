/-
**What is left when something is removed.**

A tree from which something has been removed lies within the tree before: every node that is left was
there, and a directory that is left may only have lost entries.  Names that lead somewhere in both
trees lead to the same place.

Main definitions:

* `FileTree.Within` — every node of a tree is in another tree too;
* `FileTree.Leaves` — what is left of a tree when some of it has been removed.

Main results:

* `FileTree.walk_filter` — **names that stay where they are can be left out**;
* `FileTree.walk_entry` — the entry that was wanted is what the names lead to, unless it is a link;
* `FileTree.Within.walk_place` — **names lead to the same place in both trees**;
* `FileTree.leaves_clear` — **removing everything below a node only removes**, even if it fails;
* `FileTree.node?_clear_below` — **a directory that has been cleared has no entries**.
-/
import BatchRunner.Proofs.Files.Directories
import BatchRunner.Proofs.Path.Ancestors

set_option autoImplicit false

namespace BatchRunner

theorem Entries.mem_of_get? {es : List (String × Node)} {n : String} {x : Node}
    (h : Entries.get? n es = some x) : (n, x) ∈ es := by
  induction es with
  | nil => cases h
  | cons e es ih =>
      obtain ⟨m, y⟩ := e
      by_cases hm : m = n
      · subst hm
        obtain rfl : y = x := by simpa [Entries.get?] using h
        exact List.mem_cons_self
      · exact List.mem_cons_of_mem _ (ih (by simpa [Entries.get?, hm] using h))

namespace Node

variable {root x y : Node} {es : List (String × Node)} {n : String} {dir place : Place}

/-! ### Removing a node -/

/-- Removing below an entry removes from that entry. -/
theorem remove_cons (hp : place ≠ []) (h : Entries.get? n es = some y) :
    remove (n :: place) (.dir es) = .dir (Entries.set n (remove place y) es) := by
  cases place with
  | nil => exact absurd rfl hp
  | cons m place => simp [remove, h]

/-- Nothing is removed below a name that is not there. -/
theorem remove_of_get?_eq_none (hp : place ≠ []) (h : Entries.get? n es = none) :
    remove (n :: place) (.dir es) = .dir es := by
  cases place with
  | nil => exact absurd rfl hp
  | cons m place => simp [remove, h]

/-- Nothing is removed below what is no directory. -/
theorem remove_of_not_isDir (h : root.isDir = false) (place : Place) : remove place root = root := by
  rcases place with _ | ⟨n, _ | ⟨m, place⟩⟩ <;> cases root <;> simp [remove, isDir] at h ⊢

theorem find?_remove_self : find? (dir ++ [n]) (remove (dir ++ [n]) root) = none := by
  induction dir generalizing root with
  | nil =>
      cases root with
      | dir es => simp [remove, find?]
      | _ => rfl
  | cons d dir ih =>
      cases root with
      | dir es =>
          rw [List.cons_append]
          cases hd : Entries.get? d es with
          | none =>
              rw [remove_of_get?_eq_none (by simp) hd]
              simp [find?, hd]
          | some y =>
              rw [remove_cons (by simp) hd]
              simpa [find?] using ih
      | _ => rw [remove_of_not_isDir rfl]; rfl

/-- **What is left when a node has been removed was there before.** -/
theorem find?_of_remove (h : find? place (remove (dir ++ [n]) root) = some x) :
    ∃ y, find? place root = some y ∧ x.Alike y := by
  induction dir generalizing root place with
  | nil =>
      cases root with
      | dir es =>
          cases place with
          | nil =>
              obtain rfl : .dir (Entries.erase n es) = x := by simpa [remove, find?] using h
              exact ⟨.dir es, rfl, .inr ⟨rfl, rfl⟩⟩
          | cons c place =>
              have hc : c ≠ n := by
                rintro rfl
                simp [remove, find?] at h
              refine ⟨x, ?_, .refl x⟩
              simpa [remove, find?, Entries.get?_erase_of_ne hc] using h
      | _ =>
          rw [remove_of_not_isDir rfl] at h
          exact ⟨x, h, .refl x⟩
  | cons d dir ih =>
      cases root with
      | dir es =>
          rw [List.cons_append] at h
          cases hd : Entries.get? d es with
          | none =>
              rw [remove_of_get?_eq_none (by simp) hd] at h
              exact ⟨x, h, .refl x⟩
          | some y =>
              rw [remove_cons (by simp) hd] at h
              cases place with
              | nil =>
                  obtain rfl : .dir _ = x := by simpa [find?] using h
                  exact ⟨.dir es, rfl, .inr ⟨rfl, rfl⟩⟩
              | cons c place =>
                  by_cases hc : c = d
                  · subst hc
                    obtain ⟨z, hz, hlike⟩ := ih (by simpa [find?] using h)
                    exact ⟨z, by simpa [find?, hd] using hz, hlike⟩
                  · refine ⟨x, ?_, .refl x⟩
                    simpa [find?, Entries.get?_set_of_ne hc] using h
      | _ =>
          rw [remove_of_not_isDir rfl] at h
          exact ⟨x, h, .refl x⟩

end Node

namespace FileTree

variable {t t' t'' : FileTree} {here place place' base : Place} {es : List (String × Node)}
  {n : String} {rest ns ms : List String} {aim : Aim} {links : Nat} {x x' : Node} {found : Found}
  {path : String}

/-! ### One name at a time -/

theorem walk_of_node? (h : t.node? here = some x) :
    t.walk aim links here [] = .ok (.node here x) := by
  rw [walk, h]

theorem walk_nil (hw : t.walk aim links here [] = .ok (.node place x)) :
    place = here ∧ (t.node? here = some x ∨ t.node? here = none ∧ x = .dir []) := by
  rw [walk] at hw
  cases hx : t.node? here with
  | some y => simp_all
  | none =>
      by_cases hg : here.isGone = true
      · simp_all
      · simp [hx, hg] at hw

/-- A name that stays where it is can be left out. -/
theorem walk_idle (hn : n = "" ∨ n = ".") (hw : t.walk aim links here (n :: rest) = .ok found) :
    t.walk aim links here rest = .ok found := by
  rw [walk] at hw
  cases hx : t.node? here with
  | none =>
      by_cases hg : here.isGone = true
      · rcases hn with rfl | rfl <;> simpa [hx, hg] using hw
      · simp [hx, hg] at hw
  | some y =>
      cases y with
      | dir es =>
          rcases hn with rfl | rfl
          · simpa [hx] using hw
          · by_cases hp : Right.pass.isIn (t.dirInfo here).mode = true
            · simpa [hx, hp] using hw
            · simp [hx, hp] at hw
      | _ => simp [hx] at hw

theorem walk_up (hw : t.walk aim links here (".." :: rest) = .ok found) :
    t.walk aim links here.dropLast rest = .ok found := by
  rw [walk] at hw
  cases hx : t.node? here with
  | none =>
      by_cases hg : here.isGone = true
      · simpa [hx, hg] using hw
      · simp [hx, hg] at hw
  | some y =>
      cases y with
      | dir es =>
          by_cases hp : Right.pass.isIn (t.dirInfo here).mode = true
          · simpa [hx, hp] using hw
          · simp [hx, hp] at hw
      | _ => simp [hx] at hw

/-- A name that is found was looked up in a directory. -/
theorem PlainName.exists_seeks (h : PlainName n)
    (hw : t.walk aim links here (n :: rest) = .ok found) : ∃ es, t.Seeks here es n := by
  by_cases hseeks : ∃ es, t.Seeks here es n
  · exact hseeks
  · have herror : ∃ e, t.walk aim links here (n :: rest) = .error e := by
      refine h.walk_error fun es hdir => ?_
      exact Bool.eq_false_iff.2 fun hpass => hseeks ⟨es, h, hdir, hpass⟩
    obtain ⟨e, he⟩ := herror
    rw [he] at hw
    cases hw

/-! ### Trees within trees -/

/-- Every node of a tree is in the other tree too, as far as one sees without looking into
directories. -/
structure Within (t t' : FileTree) : Prop where
  node : ∀ {place x}, t.node? place = some x → ∃ y, t'.node? place = some y ∧ x.Alike y

namespace Within

theorem refl (t : FileTree) : t.Within t := ⟨fun hx => ⟨_, hx, .refl _⟩⟩

theorem trans (h : t.Within t') (h' : t'.Within t'') : t.Within t'' where
  node hx := by
    obtain ⟨y, hy, hxy⟩ := h.node hx
    obtain ⟨z, hz, hyz⟩ := h'.node hy
    exact ⟨z, hz, hxy.trans hyz⟩

theorem node?_eq_none (h : t.Within t') (hx : t'.node? place = none) : t.node? place = none := by
  cases hy : t.node? place with
  | none => rfl
  | some y =>
      obtain ⟨z, hz, -⟩ := h.node hy
      rw [hx] at hz
      cases hz

/-- An entry of a directory is an entry in the other tree. -/
theorem get? {es' : List (String × Node)} (h : t.Within t') (hdir : t.node? here = some (.dir es))
    (hdir' : t'.node? here = some (.dir es')) (hn : Entries.get? n es = some x) :
    ∃ y, Entries.get? n es' = some y ∧ x.Alike y := by
  obtain ⟨y, hy, hlike⟩ := h.node ((node?_snoc hdir).trans hn)
  exact ⟨y, (node?_snoc hdir').symm.trans hy, hlike⟩

/-- **Names lead to the same place in both trees**, if they lead anywhere in both. -/
theorem walk_place (h : t.Within t')
    (hw : t.walk .target links here ns = .ok (.node place x))
    (hw' : t'.walk .target links here ns = .ok (.node place' x')) : place = place' := by
  induction links, here, ns using FileTree.walk.induct t .target with
  | case1 links here y hy => exact (walk_nil hw).1.trans (walk_nil hw').1.symm
  | case2 links here hy hg => exact (walk_nil hw).1.trans (walk_nil hw').1.symm
  | case3 links here hy hg => simp [FileTree.walk, hy, hg] at hw
  | case4 links here n rest hy hs ih =>
      have hidle : n = "" ∨ n = "." := by simp at hs; exact hs.2
      exact ih (walk_idle hidle hw) (walk_idle hidle hw')
  | case5 links here n rest hy hs hd ih =>
      obtain rfl : n = ".." := by simp at hd; exact hd.2
      exact ih (walk_up hw) (walk_up hw')
  | case6 links here n rest hy hs hd => simp [FileTree.walk, hy, hs, hd] at hw
  | case7 links here rest es hy ih =>
      exact ih (walk_idle (.inl rfl) hw) (walk_idle (.inl rfl) hw')
  | case8 links here n rest es hy hn hp => simp [FileTree.walk, hy, hn, hp] at hw
  | case9 links here rest es hy hp _ ih =>
      exact ih (walk_idle (.inr rfl) hw) (walk_idle (.inr rfl) hw')
  | case10 links here rest es hy hp _ _ ih => exact ih (walk_up hw) (walk_up hw')
  | case11 links here n rest es hy hn hp hd hdd hs =>
      simp [FileTree.walk, hy, hn, hp, hd, hdd, hs] at hw
  | case12 links here n rest es hy hn hp hd hdd hs hl =>
      simp [FileTree.walk, hy, hn, hp, hd, hdd, hs, hl] at hw
  | case13 links here n es hy hn hp hd hdd hs hl hg =>
      simp [FileTree.walk, hy, hn, hp, hd, hdd, hs, hl, hg] at hw
  | case14 links here n rest es hy hn hp hd hdd hs hl hg hr =>
      simp [FileTree.walk, hy, hn, hp, hd, hdd, hs, hl, hg, hr] at hw
  | case15 links here n rest es hy hn hp hd hdd hs hl target hg hr => exact absurd hr.2 (by decide)
  | case16 here n rest es hy hn hp hd hdd hs hl target hg hr =>
      simp [FileTree.walk, hy, hn, hp, hd, hdd, hs, hl, hg] at hw
  | case17 here n rest es hy hn hp hd hdd hs hl hr links hg =>
      simp [FileTree.walk, hy, hn, hp, hd, hdd, hs, hl, hg] at hw
  | case18 here n rest es hy hn hp hd hdd hs hl target hg hr links ht ih =>
      have hplain : PlainName n := ⟨hn, hd, hdd, hs, Nat.not_lt.1 hl⟩
      have hseek : t.Seeks here es n := ⟨hplain, hy, by simpa using hp⟩
      obtain ⟨es', hseek'⟩ := hplain.exists_seeks hw'
      obtain ⟨y, hg', hlike⟩ := h.get? hy hseek'.dir hg
      obtain rfl := hlike.eq_of_not_isDir rfl
      have hsteps : (if h : rest = [] then Aim.target.steps target else stepsOf target ++ rest)
          = stepsOf target ++ rest := by
        by_cases hrest : rest = [] <;> simp [hrest, Aim.steps]
      rw [hsteps] at ih
      rw [hseek.walk_of_get?_eq_link hg ht fun _ => rfl] at hw
      rw [hseek'.walk_of_get?_eq_link hg' ht fun _ => rfl] at hw'
      exact ih hw hw'
  | case19 links here n rest es hy hn hp hd hdd hs hl y hy' hg ih =>
      have hplain : PlainName n := ⟨hn, hd, hdd, hs, Nat.not_lt.1 hl⟩
      have hseek : t.Seeks here es n := ⟨hplain, hy, by simpa using hp⟩
      obtain ⟨es', hseek'⟩ := hplain.exists_seeks hw'
      obtain ⟨z, hg', hlike⟩ := h.get? hy hseek'.dir hg
      have hlink : ∀ target, z ≠ .link target := by
        rintro target rfl
        rcases hlike with rfl | ⟨-, hdir⟩
        · exact hy' target rfl
        · exact absurd hdir (by simp [Node.isDir])
      rw [hseek.walk_of_get? hg hy'] at hw
      rw [hseek'.walk_of_get? hg' hlink] at hw'
      exact ih hw hw'
  | case20 links here n rest y hy' hy =>
      cases y with
      | dir es => exact absurd rfl (hy' es)
      | _ => simp [FileTree.walk, hy] at hw

end Within

/-! ### Names that stay where they are -/

/-- A name that stays where it is can be left out anywhere. -/
theorem walk_append_idle (hn : n = "" ∨ n = ".")
    (hw : t.walk .target links here (ns ++ n :: ms) = .ok (.node place x)) :
    t.walk .target links here (ns ++ ms) = .ok (.node place x) := by
  cases t.leads links here ns with
  | nowhere _ onward =>
      obtain ⟨e, he⟩ := onward .target (n :: ms) (by simp)
      rw [he] at hw
      cases hw
  | somewhere place₁ x₁ links' reached onward =>
      rw [onward .target (n :: ms) (by simp)] at hw
      have hrest := walk_idle hn hw
      cases ms with
      | cons m ms => rw [onward .target (m :: ms) (by simp), hrest]
      | nil =>
          obtain ⟨rfl, hx⟩ := walk_nil hrest
          rw [List.append_nil, reached]
          rcases node?_of_walk reached with hx₁ | ⟨hnone, rfl, -⟩
          · rcases hx with hx | ⟨hnone, -⟩
            · obtain rfl : x₁ = x := by simpa [hx₁] using hx
              rfl
            · simp [hx₁] at hnone
          · rcases hx with hx | ⟨-, rfl⟩
            · simp [hnone] at hx
            · rfl

/-- **Names that stay where they are can be left out.** -/
theorem walk_filter (hw : t.walk .target links here (ns ++ ms) = .ok (.node place x)) :
    t.walk .target links here (ns ++ ms.filter fun n => !Path.isIdle n) = .ok (.node place x) := by
  induction ms generalizing ns with
  | nil => exact hw
  | cons m ms ih =>
      by_cases hm : Path.isIdle m = true
      · have hidle : m = "" ∨ m = "." := by simpa [Path.isIdle] using hm
        rw [List.filter_cons_of_neg (by simp [hm])]
        exact ih (walk_append_idle hidle hw)
      · rw [List.filter_cons_of_pos (by simp [hm]), List.append_cons]
        exact ih (by simpa using hw)

/-- One name leads to its entry, unless that is a link. -/
theorem walk_entry_of_name (hw : t.walk .entry links here [n] = .ok (.node place x))
    (hx : ∀ target, x ≠ .link target) : t.walk .target links here [n] = .ok (.node place x) := by
  have hnil : ∀ p, t.walk .target links p [] = t.walk .entry links p [] := by
    intro p
    rw [walk, walk]
  rw [walk] at hw ⊢
  cases hnode : t.node? here with
  | none => simpa [hnode, hnil] using hw
  | some y =>
      cases y with
      | dir es =>
          cases hget : Entries.get? n es with
          | none => simpa [hnode, hget, hnil] using hw
          | some z =>
              cases z with
              | link target =>
                  have hlink : .link target ≠ x := fun h => hx target h.symm
                  by_cases hempty : n = ""
                  · simpa [hnode, hempty, hnil] using hw
                  by_cases hdot : n = "."
                  · simpa [hnode, hdot, hnil] using hw
                  by_cases hdots : n = ".."
                  · simpa [hnode, hdots, hnil] using hw
                  simp only [hnode, hget, hempty, hdot, hdots, if_false] at hw
                  iterate 3
                    split at hw
                    · cases hw
                  exact absurd (Found.node.inj (Except.ok.inj hw)).2 hlink
              | _ => simpa [hnode, hget, hnil] using hw
      | _ => simp [hnode] at hw

/-- What is found where the entry itself was wanted is what the names lead to, unless it is a link. -/
theorem walk_entry (hw : t.walk .entry links here ns = .ok (.node place x))
    (hx : ∀ target, x ≠ .link target) : t.walk .target links here ns = .ok (.node place x) := by
  rcases List.eq_nil_or_concat ns with rfl | ⟨init, n, hns⟩
  · rwa [walk] at hw ⊢
  · rw [List.concat_eq_append] at hns
    subst hns
    cases t.leads links here init with
    | nowhere _ onward =>
        obtain ⟨e, he⟩ := onward .entry [n] (by simp)
        rw [he] at hw
        cases hw
    | somewhere place₁ x₁ links' reached onward =>
        rw [onward .entry [n] (by simp)] at hw
        rw [onward .target [n] (by simp)]
        exact walk_entry_of_name hw hx

/-! ### Operations that remove -/

theorem within_remove (t : FileTree) (place : Place) (n : String) :
    (t.remove (place ++ [n])).Within t :=
  ⟨fun hx => Node.find?_of_remove hx⟩

theorem node?_remove_self (t : FileTree) (place : Place) (n : String) :
    (t.remove (place ++ [n])).node? (place ++ [n]) = none :=
  Node.find?_remove_self

/-- What is left of a tree when some of it has been removed. -/
structure Leaves (t t' : FileTree) : Prop where
  within : t'.Within t
  cwd : t'.cwd = t.cwd

namespace Leaves

theorem refl (t : FileTree) : t.Leaves t := ⟨.refl t, rfl⟩

theorem trans (h : t.Leaves t') (h' : t'.Leaves t'') : t.Leaves t'' :=
  ⟨h'.within.trans h.within, h'.cwd.trans h.cwd⟩

end Leaves

/-- An entry that is taken out of a directory is there no longer. -/
theorem dropEntry_eq_ok (h : t.dropEntry place n x = .ok t') :
    t.Leaves t' ∧ t'.node? (place ++ [n]) = none := by
  have hleft : ∀ u : FileTree, u.root = (t.remove (place ++ [n])).root → u.cwd = t.cwd →
      t.Leaves u ∧ u.node? (place ++ [n]) = none := by
    intro u hroot hcwd
    have hnode : ∀ p, u.node? p = (t.remove (place ++ [n])).node? p := fun p => by
      rw [node?, node?, hroot]
    refine ⟨⟨⟨fun hx => ?_⟩, hcwd⟩, (hnode _).trans (node?_remove_self t place n)⟩
    exact (within_remove t place n).node ((hnode _).symm.trans hx)
  unfold dropEntry at h
  cases hdemand : t.demand .write place with
  | error e => simp [hdemand, bind, Except.bind] at h
  | ok _ =>
      simp only [hdemand, bind, Except.bind, pure, Except.pure, Except.ok.injEq] at h
      subst h
      split <;> exact hleft _ rfl rfl

mutual

/-- **Removing everything below a node only removes**, even if it fails. -/
theorem leaves_clear (t : FileTree) (place : Place) (x : Node) : t.Leaves (t.clear place x).2 := by
  cases x with
  | dir es =>
      rw [clear]
      cases t.demand .read place with
      | ok _ => exact leaves_clearEntries t place es
      | error e => exact .refl t
  | file | link | device => exact .refl t

/-- Removing entries only removes, even if it fails. -/
theorem leaves_clearEntries (t : FileTree) (place : Place) (es : List (String × Node)) :
    t.Leaves (t.clearEntries place es).2 := by
  match es with
  | [] => exact .refl t
  | (n, x) :: es =>
      rw [clearEntries]
      cases t.demand .pass place with
      | error e => exact .refl t
      | ok _ =>
          have hbelow := leaves_clear t (place ++ [n]) x
          generalize t.clear (place ++ [n]) x = cleared at hbelow
          obtain ⟨_ | _, u⟩ := cleared
          · exact hbelow
          · dsimp only
            cases hdrop : u.dropEntry place n x with
            | error e => exact hbelow
            | ok u' =>
                have hrest := leaves_clearEntries u' place es
                exact (hbelow.trans (dropEntry_eq_ok hdrop).1).trans hrest

end

/-- Entries that have all been removed are there no longer. -/
theorem node?_clearEntries (h : t.clearEntries place es = (.ok (), t')) (hx : (n, x) ∈ es) :
    t'.node? (place ++ [n]) = none := by
  induction es generalizing t with
  | nil => cases hx
  | cons e es ih =>
      obtain ⟨m, y⟩ := e
      rw [clearEntries] at h
      cases hpass : t.demand .pass place with
      | error e => simp [hpass] at h
      | ok _ =>
          rw [hpass] at h
          generalize t.clear (place ++ [m]) y = cleared at h
          obtain ⟨_ | _, u⟩ := cleared
          · cases h
          · dsimp only at h
            cases hdrop : u.dropEntry place m y with
            | error e => simp [hdrop] at h
            | ok u' =>
                simp only [hdrop] at h
                rcases List.mem_cons.1 hx with heq | hrest
                · -- taken out now, and nothing comes back later
                  obtain rfl : n = m := (Prod.mk.inj heq).1
                  have hlater := leaves_clearEntries u' place es
                  rw [h] at hlater
                  exact hlater.within.node?_eq_none (dropEntry_eq_ok hdrop).2
                · exact ih h hrest

/-- **A directory that has been cleared has no entries.** -/
theorem node?_clear_below (hdir : t.node? place = some (.dir es))
    (h : (t.clear place (.dir es)).1 = .ok ()) (n : String) :
    (t.clear place (.dir es)).2.node? (place ++ [n]) = none := by
  have hwithin := (leaves_clear t place (.dir es)).within
  cases hget : Entries.get? n es with
  | none => exact hwithin.node?_eq_none ((node?_snoc hdir).trans hget)
  | some x =>
      rw [clear] at h ⊢
      cases hread : t.demand .read place with
      | error e => simp [hread] at h
      | ok _ =>
          rw [hread] at h
          exact node?_clearEntries (Prod.ext h rfl) (Entries.mem_of_get? hget)

/-- A name that is removed stands in the directory in front of it. -/
theorem unlink_eq_ok (h : t.unlink base path = .ok t') :
    ∃ place es n, t.locateParent base path = .ok (place, es, .name n) ∧
      t' = t.remove (place ++ [n]) := by
  unfold unlink at h
  cases hparent : t.locateParent base path with
  | error e => simp [hparent, bind, Except.bind] at h
  | ok found =>
      obtain ⟨place, es, last⟩ := found
      cases last with
      | name n =>
          refine ⟨place, es, n, rfl, ?_⟩
          by_cases hlong : nameMax < n.utf8ByteSize
          · simp [hparent, hlong, bind, Except.bind, throw, throwThe, MonadExceptOf.throw] at h
          cases hget : Entries.get? n es with
          | none =>
              simp [hparent, hlong, hget, bind, Except.bind, throw, throwThe,
                MonadExceptOf.throw] at h
          | some x =>
              cases x with
              | dir es' =>
                  cases hdemand : t.demand .write place <;>
                    simp [hparent, hlong, hget, hdemand, bind, Except.bind, throw, throwThe,
                      MonadExceptOf.throw] at h
              | _ =>
                  by_cases hslash : Path.endsInSlash path = true
                  · simp [hparent, hlong, hget, hslash, bind, Except.bind, throw, throwThe,
                      MonadExceptOf.throw] at h
                  cases hdemand : t.demand .write place with
                  | error e =>
                      simp [hparent, hlong, hget, hslash, hdemand, bind, Except.bind] at h
                  | ok _ =>
                      simp only [hparent, hlong, hget, hslash, hdemand, bind, Except.bind, if_false,
                        pure, Except.pure] at h
                      exact (Except.ok.inj h).symm
      | _ => simp [hparent, bind, Except.bind, throw, throwThe, MonadExceptOf.throw] at h

/-- A directory that is removed stands in the directory in front of it. -/
theorem removeDir_eq_ok (h : t.removeDir base path = .ok t') :
    ∃ place n, t' = (t.remove (place ++ [n])).noteMove (place ++ [n]) none := by
  unfold removeDir at h
  cases hparent : t.locateParent base path with
  | error e => simp [hparent, bind, Except.bind] at h
  | ok found =>
      obtain ⟨place, es, last⟩ := found
      cases last with
      | name n =>
          refine ⟨place, n, ?_⟩
          by_cases hlong : nameMax < n.utf8ByteSize
          · simp [hparent, hlong, bind, Except.bind, throw, throwThe, MonadExceptOf.throw] at h
          cases hget : Entries.get? n es with
          | none =>
              simp [hparent, hlong, hget, bind, Except.bind, throw, throwThe,
                MonadExceptOf.throw] at h
          | some x =>
              cases hdemand : t.demand .write place with
              | error e => simp [hparent, hlong, hget, hdemand, bind, Except.bind] at h
              | ok _ =>
                  cases x with
                  | dir es' =>
                      cases es' with
                      | nil =>
                          simp only [hparent, hlong, hget, hdemand, bind, Except.bind, if_false,
                            pure, Except.pure] at h
                          exact (Except.ok.inj h).symm
                      | cons e es' =>
                          simp [hparent, hlong, hget, hdemand, bind, Except.bind, throw, throwThe,
                            MonadExceptOf.throw] at h
                  | _ =>
                      simp [hparent, hlong, hget, hdemand, bind, Except.bind, throw, throwThe,
                        MonadExceptOf.throw] at h
      | _ => simp [hparent, bind, Except.bind, throw, throwThe, MonadExceptOf.throw] at h

end FileTree

end BatchRunner
