/-
**What a change to a file tree leaves alone.**

Putting a new node under a name that was free changes no other node, apart from the directories on
the way, which stay directories.  A file tree that came about in such a way is said to have grown.

Main definitions:

* `Node.Alike` — two nodes are the same, unless both are directories;
* `FileTree.Grows` — every node is kept, and with it what may be done on the way to it.

Main results:

* `Node.find?_put_self`, `Node.find?_put_of_apart` — the node at a place that was written,
  and at any other;
* `FileTree.Grows.put` — **a tree grows by a node under a free name**;
* `FileTree.Grows.trans` — growing twice is growing.
-/
import BatchRunner.Files.Operations

set_option autoImplicit false

namespace BatchRunner

namespace Node

variable {new x root : Node} {es : List (String × Node)} {n : String} {dir place : Place}

/-! ### Reading at a place -/

theorem find?_append (place below : Place) (x : Node) :
    find? (place ++ below) x = (find? place x).bind (find? below) := by
  induction place generalizing x with
  | nil => rfl
  | cons n place ih =>
      cases x with
      | dir es =>
          cases h : Entries.get? n es with
          | none => simp [find?, h]
          | some y => simp [find?, h, ih]
      | _ => rfl

/-- What stands in a directory is what its entries say. -/
theorem find?_snoc (h : find? dir root = some (.dir es)) :
    find? (dir ++ [n]) root = Entries.get? n es := by
  rw [find?_append, h]
  cases hn : Entries.get? n es <;> simp [find?, hn]

/-- Only a directory has anything below it. -/
theorem exists_dir_of_find?_cons (h : find? (n :: place) root = some x) :
    ∃ es, root = .dir es := by
  cases root with
  | dir es => exact ⟨es, rfl⟩
  | _ => simp [find?] at h

/-! ### Writing at a place -/

/-- Writing below an entry writes into that entry. -/
theorem put_cons {y : Node} (hp : place ≠ []) (h : Entries.get? n es = some y) :
    put new (n :: place) (.dir es) = .dir (Entries.set n (put new place y) es) := by
  cases place with
  | nil => exact absurd rfl hp
  | cons m place => simp [put, h]

theorem find?_put_self (h : find? dir root = some (.dir es)) :
    find? (dir ++ [n]) (put new (dir ++ [n]) root) = some new := by
  induction dir generalizing root with
  | nil =>
      obtain rfl : root = .dir es := by simpa [find?] using h
      simp [put, find?]
  | cons d dir ih =>
      obtain ⟨es₀, rfl⟩ := exists_dir_of_find?_cons h
      cases hd : Entries.get? d es₀ with
      | none => simp [find?, hd] at h
      | some y =>
          rw [List.cons_append, put_cons (by simp) hd]
          simp only [find?, Entries.get?_set_self, Option.bind_some]
          exact ih (by simpa [find?, hd] using h)

/-- A place that neither leads to the written one nor lies below it keeps its node. -/
theorem find?_put_of_apart (h : find? dir root = some (.dir es))
    (habove : ¬ place <+: dir) (hbelow : ¬ dir ++ [n] <+: place) :
    find? place (put new (dir ++ [n]) root) = find? place root := by
  induction dir generalizing root place with
  | nil =>
      obtain rfl : root = .dir es := by simpa [find?] using h
      cases place with
      | nil => exact absurd List.nil_prefix habove
      | cons c place =>
          have hc : c ≠ n := by
            rintro rfl
            exact hbelow (by simp)
          simp [put, find?, Entries.get?_set_of_ne hc]
  | cons d dir ih =>
      obtain ⟨es₀, rfl⟩ := exists_dir_of_find?_cons h
      cases place with
      | nil => exact absurd List.nil_prefix habove
      | cons c place =>
          cases hd : Entries.get? d es₀ with
          | none => simp [find?, hd] at h
          | some y =>
              rw [List.cons_append, put_cons (by simp) hd]
              by_cases hc : c = d
              · subst hc
                have hy : find? dir y = some (.dir es) := by simpa [find?, hd] using h
                have hkept := ih hy (fun hp => habove (by simpa using hp))
                  (fun hp => hbelow (by simpa using hp))
                simp [find?, hd, hkept]
              · simp [find?, Entries.get?_set_of_ne hc]

/-! ### Nodes that are alike -/

/-- Whether two nodes are the same, as far as one sees without looking into directories. -/
def Alike (x y : Node) : Prop := x = y ∨ (x.isDir = true ∧ y.isDir = true)

theorem Alike.refl (x : Node) : Alike x x := .inl rfl

theorem Alike.trans {x y z : Node} (h : Alike x y) (h' : Alike y z) : Alike x z := by
  rcases h with rfl | ⟨hx, hy⟩
  · exact h'
  · rcases h' with rfl | ⟨-, hz⟩
    · exact .inr ⟨hx, hy⟩
    · exact .inr ⟨hx, hz⟩

theorem isDir_iff : x.isDir = true ↔ ∃ es, x = .dir es := by
  cases x <;> simp [isDir]

/-- What is alike to a directory is one. -/
theorem Alike.exists_dir {y : Node} (h : Alike (.dir es) y) : ∃ es', y = .dir es' := by
  rcases h with rfl | ⟨-, hy⟩
  · exact ⟨es, rfl⟩
  · exact isDir_iff.1 hy

/-- What is alike to anything else is the same. -/
theorem Alike.eq_of_not_isDir {y : Node} (h : Alike x y) (hx : x.isDir = false) : y = x := by
  rcases h with rfl | ⟨hd, -⟩
  · rfl
  · rw [hx] at hd
    exact absurd hd (by decide)

end Node

namespace FileTree

variable {t t' : FileTree} {place dir : Place} {es : List (String × Node)} {n : String} {x : Node}

/-! ### Nodes of a tree -/

theorem node?_append (t : FileTree) (place below : Place) :
    t.node? (place ++ below) = (t.node? place).bind (Node.find? below) :=
  Node.find?_append place below t.root

theorem node?_snoc (h : t.node? dir = some (.dir es)) : t.node? (dir ++ [n]) = Entries.get? n es :=
  Node.find?_snoc h

theorem node?_put_self (h : t.node? dir = some (.dir es)) :
    (t.put (dir ++ [n]) x).node? (dir ++ [n]) = some x :=
  Node.find?_put_self h

theorem node?_put_of_apart (h : t.node? dir = some (.dir es)) (habove : ¬ place <+: dir)
    (hbelow : ¬ dir ++ [n] <+: place) : (t.put (dir ++ [n]) x).node? place = t.node? place :=
  Node.find?_put_of_apart h habove hbelow

/-- What has something below it is a directory. -/
theorem exists_dir_of_node?_append {below : Place} (hb : below ≠ [])
    (h : t.node? (place ++ below) = some x) : ∃ es, t.node? place = some (.dir es) := by
  rw [node?_append] at h
  obtain ⟨y, hy, hyx⟩ := Option.bind_eq_some_iff.1 h
  obtain ⟨c, rest, rfl⟩ := List.exists_cons_of_ne_nil hb
  obtain ⟨es, rfl⟩ := Node.exists_dir_of_find?_cons hyx
  exact ⟨es, hy⟩

/-- Where there is nothing, there is nothing below either. -/
theorem node?_eq_none_below (h : t.node? dir = none) (hp : dir <+: place) :
    t.node? place = none := by
  obtain ⟨below, rfl⟩ := hp
  rw [node?_append, h]
  rfl

/-- Only one place gets a node that had none when a file is put there. -/
theorem eq_of_node?_put {id : Nat} (hdir : t.node? dir = some (.dir es))
    (hnone : t.node? place = none)
    (hx : (t.put (dir ++ [n]) (.file id)).node? place = some x) : place = dir ++ [n] := by
  have habove : ¬ place <+: dir := by
    intro hp
    rw [node?_eq_none_below hnone hp] at hdir
    exact absurd hdir (by simp)
  by_cases hbelow : dir ++ [n] <+: place
  · obtain ⟨below, rfl⟩ := hbelow
    cases below with
    | nil => rw [List.append_nil]
    | cons b below =>
        rw [node?_append, node?_put_self hdir] at hx
        exact absurd hx (by simp [Node.find?])
  · rw [node?_put_of_apart hdir habove hbelow, hnone] at hx
    exact absurd hx (by simp)

/-! ### What is known of directories -/

theorem lookup_filter_of_ne {p place : Place} (h : p ≠ place) (ds : List (Place × DirInfo)) :
    (ds.filter fun d => d.1 ≠ place).lookup p = ds.lookup p := by
  induction ds with
  | nil => rfl
  | cons d ds ih =>
      obtain ⟨q, info⟩ := d
      by_cases hq : q = place
      · have hp : (p == q) = false := by simpa [hq] using h
        rw [List.filter_cons_of_neg (by simp [hq]), ih, List.lookup_cons, hp]
      · rw [List.filter_cons_of_pos (by simp [hq]), List.lookup_cons, List.lookup_cons, ih]

theorem dirInfo_setDirInfo (t : FileTree) (place p : Place) (info : DirInfo) :
    (t.setDirInfo place info).dirInfo p = if p = place then info else t.dirInfo p := by
  by_cases h : p = place
  · simp [setDirInfo, dirInfo, h]
  · have hp : (p == place) = false := by simpa using h
    simp only [setDirInfo, dirInfo, h, if_false]
    rw [List.lookup_cons, hp, lookup_filter_of_ne h]

/-- Permissions stay as they are when entries of a directory change. -/
theorem mode_dirInfo_put (t : FileTree) (place p : Place) (x : Node) :
    ((t.put place x).dirInfo p).mode = (t.dirInfo p).mode := by
  have h : (t.put place x).dirInfo p = (t.noteChange place.dropLast).dirInfo p := rfl
  rw [h, noteChange, dirInfo_setDirInfo]
  by_cases hp : p = place.dropLast
  · simp [hp]
  · simp [hp]

/-! ### Growing -/

/-- Every node is kept, as far as one sees without looking into directories; so are permissions,
the starting directory, and the fact that a removed directory is no more. -/
structure Grows (t t' : FileTree) : Prop where
  node : ∀ {place x}, t.node? place = some x → ∃ y, t'.node? place = some y ∧ x.Alike y
  gone : ∀ {place : Place}, place.isGone = true → t.node? place = none → t'.node? place = none
  mode : ∀ place, (t'.dirInfo place).mode = (t.dirInfo place).mode
  cwd : t'.cwd = t.cwd

namespace Grows

/-- Trees with the same nodes and the same permissions. -/
theorem of_eq (hr : t'.root = t.root) (hd : t'.dirs = t.dirs) (hc : t'.cwd = t.cwd) :
    Grows t t' where
  node {place x} h := ⟨x, by simpa [node?, hr] using h, .refl x⟩
  gone _ h := by simpa [node?, hr] using h
  mode place := by simp [dirInfo, hd]
  cwd := hc

theorem trans {t'' : FileTree} (h : Grows t t') (h' : Grows t' t'') : Grows t t'' where
  node hx := by
    obtain ⟨y, hy, hxy⟩ := h.node hx
    obtain ⟨z, hz, hyz⟩ := h'.node hy
    exact ⟨z, hz, hxy.trans hyz⟩
  gone hg hn := h'.gone hg (h.gone hg hn)
  mode place := (h'.mode place).trans (h.mode place)
  cwd := h'.cwd.trans h.cwd

/-- **A tree grows by a file under a name that is free.** -/
theorem put {id : Nat} (hdir : t.node? dir = some (.dir es)) (hfree : Entries.get? n es = none)
    (hn : (dir ++ [n]).isGone = false) : Grows t (t.put (dir ++ [n]) (.file id)) where
  node {place x} hx := by
    have hnew : ¬ dir ++ [n] <+: place := by
      intro hp
      have hnone : t.node? (dir ++ [n]) = none := by rw [node?_snoc hdir, hfree]
      rw [node?_eq_none_below hnone hp] at hx
      exact absurd hx (by simp)
    by_cases hp : place <+: dir
    · -- a directory on the way: it was one, and it still has something below it
      obtain ⟨below, rfl⟩ := hp
      have hself : (t.put (place ++ below ++ [n]) (.file id)).node? (place ++ below ++ [n])
          = some (.file id) := node?_put_self hdir
      have hold : ∃ es', t.node? place = some (.dir es') := by
        cases below with
        | nil => exact ⟨es, by simpa using hdir⟩
        | cons b below => exact exists_dir_of_node?_append (by simp) hdir
      rw [List.append_assoc] at hself
      obtain ⟨es', hes'⟩ := hold
      obtain ⟨es'', hes''⟩ := exists_dir_of_node?_append (by simp) hself
      obtain rfl : x = .dir es' := by simpa [hx] using hes'
      rw [List.append_assoc]
      exact ⟨.dir es'', hes'', .inr ⟨rfl, rfl⟩⟩
    · exact ⟨x, by rw [node?_put_of_apart hdir hp hnew, hx], .refl x⟩
  gone {place} hg hnone := by
    have hp : ¬ place <+: dir := by
      intro hp
      rw [node?_eq_none_below hnone hp] at hdir
      exact absurd hdir (by simp)
    by_cases hnew : dir ++ [n] <+: place
    · -- below the new file there is nothing, and the new file itself is not a removed directory
      obtain ⟨below, rfl⟩ := hnew
      cases below with
      | nil =>
          rw [List.append_nil, hn] at hg
          exact absurd hg (by decide)
      | cons b below =>
          rw [node?_append, node?_put_self hdir]
          rfl
    · rw [node?_put_of_apart hdir hp hnew, hnone]
  mode place := mode_dirInfo_put t _ place _
  cwd := rfl

end Grows

end FileTree

end BatchRunner
