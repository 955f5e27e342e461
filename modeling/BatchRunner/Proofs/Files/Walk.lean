/-
**Following names.**

Names that are followed one after the other can be followed in two goes: first to a directory, then
on from there.  A tree that has grown leads wherever it led before.

Main definitions:

* `FileTree.PlainName` — a name that stands for an entry of a directory;
* `FileTree.Seeks` — a name is looked up in a directory that may be passed;
* `FileTree.Leads` — how names that come first decide about names that come after them;
* `FileTree.Shows` — what names are said to lead to is there.

Main results:

* `FileTree.Seeks.walk_of_get?` — what one name leads to, if that is no link;
* `FileTree.leads` — **names are followed in two goes**;
* `FileTree.walk_shows` — what is found is there, and what is missing is missing;
* `FileTree.walk_congr` — names are followed by nodes and permissions alone;
* `FileTree.Grows.walk` — **what could be reached can be reached in a grown tree**.
-/
import BatchRunner.Proofs.Files.Tree
import BatchRunner.Proofs.Result

set_option autoImplicit false

namespace BatchRunner.FileTree

variable {t t' : FileTree} {here place : Place} {es : List (String × Node)} {n : String}
  {rest ns : List String} {aim : Aim} {links : Nat} {x : Node}

/-! ### One name -/

/-- A name that stands for an entry and nothing else. -/
structure PlainName (n : String) : Prop where
  ne_empty : n ≠ ""
  ne_dot : n ≠ "."
  ne_dotDot : n ≠ ".."
  no_slash : n.toList.getLast? ≠ some '/'
  short : n.utf8ByteSize ≤ nameMax

instance (n : String) : Decidable (PlainName n) :=
  decidable_of_iff
    (n ≠ "" ∧ n ≠ "." ∧ n ≠ ".." ∧ n.toList.getLast? ≠ some '/' ∧ n.utf8ByteSize ≤ nameMax)
    ⟨fun ⟨hempty, hdot, hdots, hslash, hshort⟩ => ⟨hempty, hdot, hdots, hslash, hshort⟩,
      fun h => ⟨h.ne_empty, h.ne_dot, h.ne_dotDot, h.no_slash, h.short⟩⟩

/-- The name `n` is looked up in the directory `here`, whose entries are `es`. -/
structure Seeks (t : FileTree) (here : Place) (es : List (String × Node)) (n : String) : Prop
    extends PlainName n where
  dir : t.node? here = some (.dir es)
  pass : Right.pass.isIn (t.dirInfo here).mode = true

/-- A directory whose permissions were never changed may be passed. -/
theorem pass_of_lookup_eq_none (h : t.dirs.lookup place = none) :
    Right.pass.isIn (t.dirInfo place).mode = true := by
  have husual : Right.pass.isIn (unmasked 0o777 usualMask) = true := by decide
  rw [dirInfo, h]
  exact husual

/-- A name is looked up nowhere but in a directory that may be passed. -/
theorem PlainName.walk_error (h : PlainName n)
    (hclosed : ∀ es, t.node? here = some (.dir es) →
      Right.pass.isIn (t.dirInfo here).mode = false) :
    ∃ e, t.walk aim links here (n :: rest) = .error e := by
  cases hx : t.node? here with
  | none => exact ⟨.noEntry, by simp [walk, hx, h.ne_empty, h.ne_dot, h.ne_dotDot]⟩
  | some x =>
      cases x with
      | dir es => exact ⟨.denied, by simp [walk, hx, h.ne_empty, hclosed es hx]⟩
      | _ => exact ⟨.notDir, by simp [walk, hx]⟩

namespace Seeks

theorem walk_of_get?_eq_none (h : t.Seeks here es n) (hn : Entries.get? n es = none) :
    t.walk aim links here (n :: rest) =
      if rest = [] then .ok (.absent here n) else .error .noEntry := by
  have hl := Nat.not_lt.2 h.short
  simp [walk, h.dir, h.pass, h.ne_empty, h.ne_dot, h.ne_dotDot, h.no_slash, hl, hn]

/-- An entry that is no link is entered. -/
theorem walk_of_get? (h : t.Seeks here es n) (hn : Entries.get? n es = some x)
    (hx : ∀ target, x ≠ .link target) :
    t.walk aim links here (n :: rest) = t.walk aim links (here ++ [n]) rest := by
  have hl := Nat.not_lt.2 h.short
  cases x with
  | link target => exact absurd rfl (hx target)
  | _ => simp [walk, h.dir, h.pass, h.ne_empty, h.ne_dot, h.ne_dotDot, h.no_slash, hl, hn]

/-- A link stands for its target, unless it comes last and the link itself is wanted. -/
theorem walk_of_get?_eq_link {target : String} (h : t.Seeks here es n)
    (hn : Entries.get? n es = some (.link target)) (ht : target ≠ "")
    (hlast : rest = [] → aim = .target) :
    t.walk aim (links + 1) here (n :: rest) =
      t.walk aim links (if Path.isAbsolute target then [] else here) (stepsOf target ++ rest) := by
  have hl := Nat.not_lt.2 h.short
  by_cases hr : rest = []
  · simp [walk, h.dir, h.pass, h.ne_empty, h.ne_dot, h.ne_dotDot, h.no_slash, hl, hn, ht, hr,
      hlast hr, Aim.steps]
  · simp [walk, h.dir, h.pass, h.ne_empty, h.ne_dot, h.ne_dotDot, h.no_slash, hl, hn, ht, hr]

end Seeks

/-! ### Names in two goes -/

/-- How the names `ns` decide about names that come after them: either they lead to a node, and what
comes after is followed from there, or they lead to none, and nothing is found after them. -/
inductive Leads (t : FileTree) (links : Nat) (here : Place) (ns : List String) : Prop where
  | somewhere (place : Place) (x : Node) (links' : Nat)
      (reached : t.walk .target links here ns = .ok (.node place x))
      (onward : ∀ aim ms, ms ≠ [] → t.walk aim links here (ns ++ ms) = t.walk aim links' place ms)
  | nowhere
      (missed : ∀ place x, t.walk .target links here ns ≠ .ok (.node place x))
      (onward : ∀ aim ms, ms ≠ [] → ∃ e, t.walk aim links here (ns ++ ms) = .error e)

/-- One name more in front does not change what the names behind it lead to, if following it is
going from `here` to `here'`. -/
theorem Leads.cons {links' : Nat} {here' : Place} {ns' : List String}
    (h : t.Leads links' here' ns')
    (hnow : t.walk .target links here (n :: ns) = t.walk .target links' here' ns')
    (hlater : ∀ aim ms, ms ≠ [] →
      t.walk aim links here (n :: (ns ++ ms)) = t.walk aim links' here' (ns' ++ ms)) :
    t.Leads links here (n :: ns) := by
  cases h with
  | somewhere place x links'' reached onward =>
      refine .somewhere place x links'' (hnow.trans reached) fun aim ms hms => ?_
      exact (hlater aim ms hms).trans (onward aim ms hms)
  | nowhere missed onward =>
      refine .nowhere (fun place x => ?_) fun aim ms hms => ?_
      · rw [hnow]
        exact missed place x
      · obtain ⟨e, he⟩ := onward aim ms hms
        exact ⟨e, (hlater aim ms hms).trans he⟩

/-- **Names are followed in two goes.** -/
theorem leads (t : FileTree) (links : Nat) (here : Place) (ns : List String) :
    t.Leads links here ns := by
  induction links, here, ns using FileTree.walk.induct t .target with
  | case1 links here x h => exact .somewhere here x links (by simp [walk, h]) fun _ _ _ => rfl
  | case2 links here h hg =>
      exact .somewhere here (.dir []) links (by simp [walk, h, hg]) fun _ _ _ => rfl
  | case3 links here h hg =>
      refine .nowhere (by simp [walk, h, hg]) fun aim ms hms => ⟨.noEntry, ?_⟩
      obtain ⟨m, ms, rfl⟩ := List.exists_cons_of_ne_nil hms
      simp [walk, h, hg]
  | case4 links here n rest h hs ih => exact ih.cons (by simp [walk, h, hs]) (by simp [walk, h, hs])
  | case5 links here n rest h hs hd ih =>
      exact ih.cons (by simp [walk, h, hs, hd]) (by simp [walk, h, hs, hd])
  | case6 links here n rest h hs hd =>
      exact .nowhere (by simp [walk, h, hs, hd]) fun _ _ _ => ⟨.noEntry, by simp [walk, h, hs, hd]⟩
  | case7 links here rest es h ih => exact ih.cons (by simp [walk, h]) (by simp [walk, h])
  | case8 links here n rest es h hn hp =>
      exact .nowhere (by simp [walk, h, hn, hp]) fun _ _ _ => ⟨.denied, by simp [walk, h, hn, hp]⟩
  | case9 links here rest es h hp _ ih => exact ih.cons (by simp [walk, h, hp]) (by simp [walk, h, hp])
  | case10 links here rest es h hp _ _ ih =>
      exact ih.cons (by simp [walk, h, hp]) (by simp [walk, h, hp])
  | case11 links here n rest es h hn hp hd hdd hs =>
      exact .nowhere (by simp [walk, h, hn, hp, hd, hdd, hs])
        fun _ _ _ => ⟨.isDir, by simp [walk, h, hn, hp, hd, hdd, hs]⟩
  | case12 links here n rest es h hn hp hd hdd hs hl =>
      exact .nowhere (by simp [walk, h, hn, hp, hd, hdd, hs, hl])
        fun _ _ _ => ⟨.nameTooLong, by simp [walk, h, hn, hp, hd, hdd, hs, hl]⟩
  | case13 links here n es h hn hp hd hdd hs hl hg =>
      have hseek : t.Seeks here es n := ⟨⟨hn, hd, hdd, hs, Nat.not_lt.1 hl⟩, h, by simpa using hp⟩
      refine .nowhere (by simp [hseek.walk_of_get?_eq_none hg]) fun aim ms hms => ⟨.noEntry, ?_⟩
      simp [hseek.walk_of_get?_eq_none hg, hms]
  | case14 links here n rest es h hn hp hd hdd hs hl hg hr =>
      have hseek : t.Seeks here es n := ⟨⟨hn, hd, hdd, hs, Nat.not_lt.1 hl⟩, h, by simpa using hp⟩
      refine .nowhere (by simp [hseek.walk_of_get?_eq_none hg, hr]) fun aim ms _ => ⟨.noEntry, ?_⟩
      simp [hseek.walk_of_get?_eq_none hg, hr]
  | case15 links here n rest es h hn hp hd hdd hs hl target hg hr => exact absurd hr.2 (by decide)
  | case16 here n rest es h hn hp hd hdd hs hl target hg hr =>
      exact .nowhere (by simp [walk, h, hn, hp, hd, hdd, hs, hl, hg])
        fun aim ms hms => ⟨.linkLoop, by simp [walk, h, hn, hp, hd, hdd, hs, hl, hg, hms]⟩
  | case17 here n rest es h hn hp hd hdd hs hl hr links hg =>
      exact .nowhere (by simp [walk, h, hn, hp, hd, hdd, hs, hl, hg])
        fun aim ms hms => ⟨.noEntry, by simp [walk, h, hn, hp, hd, hdd, hs, hl, hg, hms]⟩
  | case18 here n rest es h hn hp hd hdd hs hl target hg hr links ht ih =>
      have hseek : t.Seeks here es n := ⟨⟨hn, hd, hdd, hs, Nat.not_lt.1 hl⟩, h, by simpa using hp⟩
      -- whether or not the link comes last, its target is followed by the names behind it
      have hsteps : (if h : rest = [] then Aim.target.steps target else stepsOf target ++ rest)
          = stepsOf target ++ rest := by
        by_cases hrest : rest = [] <;> simp [hrest, Aim.steps]
      rw [hsteps] at ih
      refine ih.cons ?_ fun aim ms hms => ?_
      · simpa using hseek.walk_of_get?_eq_link hg ht fun _ => rfl
      · simpa using hseek.walk_of_get?_eq_link hg ht fun h => absurd h (by simp [hms])
  | case19 links here n rest es h hn hp hd hdd hs hl x hx hg ih =>
      have hseek : t.Seeks here es n := ⟨⟨hn, hd, hdd, hs, Nat.not_lt.1 hl⟩, h, by simpa using hp⟩
      exact ih.cons (hseek.walk_of_get? hg hx) fun aim ms _ => hseek.walk_of_get? hg hx
  | case20 links here n rest x hx h =>
      cases x with
      | dir es => exact absurd rfl (hx es)
      | _ => exact .nowhere (by simp [walk, h]) fun _ _ _ => ⟨.notDir, by simp [walk, h]⟩

/-! ### What is found -/

/-- What is said to be found is there, unless it is a directory that has been removed, and what is
said to be missing is missing from a directory. -/
def Shows (t : FileTree) : Found → Prop
  | .node place x => t.node? place = some x ∨ x = .dir []
  | .absent dir n => ∃ es, t.node? dir = some (.dir es) ∧ Entries.get? n es = none

theorem walk_shows {found : Found} (hw : t.walk aim links here ns = .ok found) :
    t.Shows found := by
  fun_induction FileTree.walk t aim links here ns with
  | case1 links here x h =>
      obtain rfl := Except.ok.inj hw
      exact .inl h
  | case2 links here h hg =>
      obtain rfl := Except.ok.inj hw
      exact .inr rfl
  | case13 links here n es h hn hp hd hdd hs hl hg =>
      obtain rfl := Except.ok.inj hw
      exact ⟨es, h, hg⟩
  | case15 links here n rest es h hn hp hd hdd hs hl target hg hr =>
      obtain rfl := Except.ok.inj hw
      exact .inl ((node?_snoc h).trans hg)
  | case4 _ _ _ _ _ _ ih | case5 _ _ _ _ _ _ _ ih | case7 _ _ _ _ _ ih | case9 _ _ _ _ _ _ _ ih
  | case10 _ _ _ _ _ _ _ _ ih | case18 _ _ _ _ _ _ _ _ _ _ _ _ _ _ _ _ ih
  | case19 _ _ _ _ _ _ _ _ _ _ _ _ _ _ _ ih => exact ih hw
  | case3 | case6 | case8 | case11 | case12 | case14 | case16 | case17 | case20 =>
      exact absurd hw (by simp)

theorem locate_shows {base : Place} {path : String} {found : Found}
    (hl : t.locate base aim path = .ok found) : t.Shows found := by
  unfold locate at hl
  cases hc : checkPath path with
  | error e => simp [hc, bind, Except.bind] at hl
  | ok _ =>
      cases hw : t.walk aim linkMax (start base path) (aim.steps path) with
      | error e => simp [hc, hw, bind, Except.bind] at hl
      | ok found' =>
          obtain rfl : found' = found := by
            simpa [hc, hw, bind, Except.bind] using hl
          exact walk_shows hw

/-! ### What following names depends on -/

/-- Names are followed by nodes and permissions alone. -/
theorem walk_congr (hr : t'.root = t.root) (hd : t'.dirs = t.dirs) :
    t'.walk aim links here ns = t.walk aim links here ns := by
  have hnode : ∀ place, t'.node? place = t.node? place := fun place => by simp [node?, hr]
  have hinfo : ∀ place, t'.dirInfo place = t.dirInfo place := fun place => by simp [dirInfo, hd]
  fun_induction FileTree.walk t aim links here ns with
  | case18 _ _ _ _ _ _ _ _ _ _ _ _ _ _ _ _ ih =>
      rw [FileTree.walk]
      simpa [*] using ih
  | _ =>
      rw [FileTree.walk]
      simp [*]

theorem locate_congr {base : Place} {path : String} (hr : t'.root = t.root)
    (hd : t'.dirs = t.dirs) : t'.locate base aim path = t.locate base aim path := by
  unfold locate
  rw [walk_congr hr hd]

/-! ### Following names in a grown tree -/

/-- A name is looked up in a grown tree as it was before. -/
theorem Seeks.grows {es' : List (String × Node)} (h : t.Seeks here es n) (hg : Grows t t')
    (hdir : t'.node? here = some (.dir es')) : t'.Seeks here es' n :=
  ⟨h.toPlainName, hdir, by rw [hg.mode, h.pass]⟩

namespace Grows

theorem dir (h : Grows t t') (hdir : t.node? here = some (.dir es)) :
    ∃ es', t'.node? here = some (.dir es') := by
  obtain ⟨y, hy, hlike⟩ := h.node hdir
  obtain ⟨es', rfl⟩ := hlike.exists_dir
  exact ⟨es', hy⟩

/-- A directory that has grown has every entry it had. -/
theorem get? {es' : List (String × Node)} (h : Grows t t') (hdir : t.node? here = some (.dir es))
    (hdir' : t'.node? here = some (.dir es')) (hn : Entries.get? n es = some x) :
    ∃ y, Entries.get? n es' = some y ∧ x.Alike y := by
  obtain ⟨y, hy, hlike⟩ := h.node ((node?_snoc hdir).trans hn)
  exact ⟨y, (node?_snoc hdir').symm.trans hy, hlike⟩

/-- **What could be reached can be reached in a grown tree.** -/
theorem walk (h : Grows t t') (hw : t.walk aim links here ns = .ok (.node place x)) :
    ∃ y, t'.walk aim links here ns = .ok (.node place y) ∧ x.Alike y := by
  induction links, here, ns using FileTree.walk.induct t aim with
  | case1 links here x' hx =>
      obtain ⟨rfl, rfl⟩ : here = place ∧ x' = x := by simpa [FileTree.walk, hx] using hw
      obtain ⟨y, hy, hlike⟩ := h.node hx
      exact ⟨y, by simp [FileTree.walk, hy], hlike⟩
  | case2 links here hx hg =>
      obtain ⟨rfl, rfl⟩ : here = place ∧ .dir [] = x := by simpa [FileTree.walk, hx, hg] using hw
      exact ⟨.dir [], by simp [FileTree.walk, h.gone hg hx, hg], .refl _⟩
  | case3 links here hx hg => simp [FileTree.walk, hx, hg] at hw
  | case4 links here n rest hx hs ih =>
      have hg : here.isGone = true := by simp at hs; exact hs.1
      rw [FileTree.walk] at hw ⊢
      simp only [hx, h.gone hg hx, hs, if_true] at hw ⊢
      exact ih hw
  | case5 links here n rest hx hs hd ih =>
      have hg : here.isGone = true := by simp at hd; exact hd.1
      rw [FileTree.walk] at hw ⊢
      simp only [hx, h.gone hg hx, hs, hd, if_true] at hw ⊢
      exact ih hw
  | case6 links here n rest hx hs hd => simp [FileTree.walk, hx, hs, hd] at hw
  | case7 links here rest es hx ih =>
      obtain ⟨es', hy⟩ := h.dir hx
      have hw' : t.walk aim links here rest = .ok (.node place x) := by
        simpa [FileTree.walk, hx] using hw
      obtain ⟨y, hy', hlike⟩ := ih hw'
      exact ⟨y, by simpa [FileTree.walk, hy] using hy', hlike⟩
  | case8 links here n rest es hx hn hp => simp [FileTree.walk, hx, hn, hp] at hw
  | case9 links here rest es hx hp _ ih =>
      obtain ⟨es', hy⟩ := h.dir hx
      have hw' : t.walk aim links here rest = .ok (.node place x) := by
        simpa [FileTree.walk, hx, hp] using hw
      obtain ⟨y, hy', hlike⟩ := ih hw'
      exact ⟨y, by simpa [FileTree.walk, hy, h.mode, hp] using hy', hlike⟩
  | case10 links here rest es hx hp _ _ ih =>
      obtain ⟨es', hy⟩ := h.dir hx
      have hw' : t.walk aim links here.dropLast rest = .ok (.node place x) := by
        simpa [FileTree.walk, hx, hp] using hw
      obtain ⟨y, hy', hlike⟩ := ih hw'
      exact ⟨y, by simpa [FileTree.walk, hy, h.mode, hp] using hy', hlike⟩
  | case11 links here n rest es hx hn hp hd hdd hs =>
      simp [FileTree.walk, hx, hn, hp, hd, hdd, hs] at hw
  | case12 links here n rest es hx hn hp hd hdd hs hl =>
      simp [FileTree.walk, hx, hn, hp, hd, hdd, hs, hl] at hw
  | case13 links here n es hx hn hp hd hdd hs hl hg =>
      simp [FileTree.walk, hx, hn, hp, hd, hdd, hs, hl, hg] at hw
  | case14 links here n rest es hx hn hp hd hdd hs hl hg hr =>
      simp [FileTree.walk, hx, hn, hp, hd, hdd, hs, hl, hg, hr] at hw
  | case15 links here n rest es hx hn hp hd hdd hs hl target hg hr =>
      obtain ⟨rfl, rfl⟩ := hr
      obtain ⟨rfl, rfl⟩ : here ++ [n] = place ∧ .link target = x := by
        simpa [FileTree.walk, hx, hn, hp, hd, hdd, hs, hl, hg] using hw
      obtain ⟨es', hy⟩ := h.dir hx
      obtain ⟨y, hy', hlike⟩ := h.get? hx hy hg
      obtain rfl := hlike.eq_of_not_isDir rfl
      exact ⟨.link target,
        by simp [FileTree.walk, hy, h.mode, hn, hp, hd, hdd, hs, hl, hy'], .refl _⟩
  | case16 here n rest es hx hn hp hd hdd hs hl target hg hr =>
      simp [FileTree.walk, hx, hn, hp, hd, hdd, hs, hl, hg, hr] at hw
  | case17 here n rest es hx hn hp hd hdd hs hl hr links hg =>
      simp [FileTree.walk, hx, hn, hp, hd, hdd, hs, hl, hg, hr] at hw
  | case18 here n rest es hx hn hp hd hdd hs hl target hg hr links ht ih =>
      obtain ⟨es', hy⟩ := h.dir hx
      obtain ⟨y, hy', hlike⟩ := h.get? hx hy hg
      obtain rfl := hlike.eq_of_not_isDir rfl
      rw [FileTree.walk] at hw ⊢
      simp only [hx, hy, h.mode, hn, hp, hd, hdd, hs, hl, hg, hy', hr, ht, if_false] at hw ⊢
      exact ih hw
  | case19 links here n rest es hx hn hp hd hdd hs hl x' hx' hg ih =>
      have hseek : t.Seeks here es n := ⟨⟨hn, hd, hdd, hs, Nat.not_lt.1 hl⟩, hx, by simpa using hp⟩
      obtain ⟨es', hy⟩ := h.dir hx
      obtain ⟨y, hy', hlike⟩ := h.get? hx hy hg
      have hlink : ∀ target, y ≠ .link target := by
        rintro target rfl
        rcases hlike with rfl | ⟨-, hdir⟩
        · exact hx' target rfl
        · exact absurd hdir (by simp [Node.isDir])
      rw [hseek.walk_of_get? hg hx'] at hw
      rw [(hseek.grows h hy).walk_of_get? hy' hlink]
      exact ih hw
  | case20 links here n rest x' hx' hx =>
      cases x' with
      | dir es => exact absurd rfl (hx' es)
      | _ => simp [FileTree.walk, hx] at hw

end Grows

end BatchRunner.FileTree
