/-
**The ancestors of a path.**

An ancestor of a path has the names of the path but for some of the last.  Names that stay where they
are lead nowhere; without them, every ancestor is one name shorter than the one before it, down to the
root directory or to the empty path.

Main definitions:

* `Path.trail` — the names of a path that lead anywhere;
* `Path.IsParent` — a path without its last name.

Main results:

* `Path.pieces_ofNames` — **names that are put together are the names of what comes out**;
* `Path.trail_eq` — a path has the same trail as its names;
* `Path.isChain_ancestors` — **every ancestor is the parent of the one before it**.
-/
import Mathlib.Data.List.Chain
import BatchRunner.Proofs.Path

set_option autoImplicit false

namespace BatchRunner.Path

/-! ### Names put together -/

theorem no_slash_of_mem_cut {cs w : List Char} (h : w ∈ cut cs) : '/' ∉ w := by
  induction cs generalizing w with
  | nil =>
      obtain rfl : w = [] := by simpa [cut] using h
      simp
  | cons c cs ih =>
      obtain ⟨v, vs, hv⟩ := List.exists_cons_of_ne_nil (cut_ne_nil cs)
      by_cases hc : c = '/'
      · have hmem : w = [] ∨ w ∈ cut cs := by simpa [cut, hv, hc] using h
        rcases hmem with rfl | hmem
        · simp
        · exact ih hmem
      · have hmem : w = c :: v ∨ w ∈ vs := by simpa [cut, hv, hc] using h
        rcases hmem with rfl | hmem
        · have hv' : '/' ∉ v := ih (by simp [hv])
          simpa [Ne.symm hc] using hv'
        · exact ih (by simp [hv, hmem])

theorem isName_of_mem_pieces {path n : String} (h : n ∈ pieces path) : IsName n := by
  obtain ⟨w, hw, hn⟩ := List.mem_filterMap.1 h
  by_cases hempty : w = []
  · simp [hempty] at hn
  · obtain rfl : String.ofList w = n := by simpa [hempty] using hn
    exact ⟨by simpa using hempty, by simpa using no_slash_of_mem_cut hw⟩

/-- **Names that are put together are the names of what comes out.** -/
theorem pieces_ofNames {ns : List String} (h : ∀ n ∈ ns, IsName n) (absolute : Bool) :
    pieces (ofNames absolute ns) = ns := by
  have hjoined : namesAmong (cut ("/".intercalate ns).toList) = ns := by
    induction ns with
    | nil => rfl
    | cons n ns ih =>
        have hn : IsName n := h n (by simp)
        cases ns with
        | nil => rw [String.intercalate_singleton, hn.namesAmong_cut]
        | cons m ns =>
            have hslash : "/".toList = ['/'] := rfl
            rw [String.intercalate_cons_cons, String.toList_append, String.toList_append, hslash,
              List.append_assoc, List.singleton_append, cut_append_slash, namesAmong_append,
              hn.namesAmong_cut, ih fun n' hn' => h n' (List.mem_cons_of_mem _ hn')]
            rfl
  cases absolute with
  | false => simpa [ofNames, pieces_eq] using hjoined
  | true =>
      have hroot : (ofNames true ns).toList = [] ++ '/' :: ("/".intercalate ns).toList := by
        simp [ofNames]
      have hfirst : namesAmong (cut []) = [] := rfl
      rw [pieces_eq, hroot, cut_append_slash, namesAmong_append, hfirst, hjoined]
      rfl

theorem isAbsolute_ofNames {ns : List String} (h : ∀ n ∈ ns, IsName n) (absolute : Bool) :
    isAbsolute (ofNames absolute ns) = absolute := by
  cases absolute with
  | true => simp [ofNames, isAbsolute]
  | false =>
      cases ns with
      | nil => rfl
      | cons n ns =>
          have hfirst := (h n (by simp)).not_isAbsolute
          obtain ⟨c, cs, hc⟩ := List.exists_cons_of_ne_nil (h n (by simp)).ne_empty
          cases ns with
          | nil => simpa [ofNames] using hfirst
          | cons m ns => simpa [ofNames, isAbsolute, String.intercalate_cons_cons, hc] using hfirst

/-! ### Ancestors -/

/-- Whether a name stays where it is. -/
def isIdle (n : String) : Bool := n = "" || n = "."

/-- The names of a path that lead anywhere. -/
def trail (path : String) : List String := (pieces path).filter fun n => !isIdle n

theorem isIdle_eq_of_isName {n : String} (h : IsName n) : isIdle n = decide (n = ".") := by
  have hne : n ≠ "" := fun he => h.ne_empty (by simp [he])
  simp [isIdle, hne]

theorem names_of_pieces {path p : String} {ps : List String} (h : pieces path = p :: ps) :
    names path = if p = "." ∧ isAbsolute path then ps.filter (· ≠ ".")
      else p :: ps.filter (· ≠ ".") := by
  rw [names, h]

theorem isName_of_mem_names {path n : String} (h : n ∈ names path) : IsName n := by
  have hmem : n ∈ pieces path := by
    cases hp : pieces path with
    | nil => simp [names, hp] at h
    | cons p ps =>
        rw [names_of_pieces hp] at h
        split at h
        · exact List.mem_cons_of_mem p (List.mem_filter.1 h).1
        · rcases List.mem_cons.1 h with rfl | h
          · exact List.mem_cons_self
          · exact List.mem_cons_of_mem p (List.mem_filter.1 h).1
  exact isName_of_mem_pieces hmem

/-- A path has the same trail as its names. -/
theorem trail_eq (path : String) : trail path = (names path).filter fun n => !isIdle n := by
  have hname : ∀ n ∈ pieces path, IsName n := fun n => isName_of_mem_pieces
  cases hp : pieces path with
  | nil => simp [trail, names, hp]
  | cons p ps =>
      have hrest : ps.filter (fun n => !isIdle n) =
          (ps.filter (· ≠ ".")).filter fun n => !isIdle n := by
        rw [List.filter_filter]
        refine List.filter_congr fun n hn => ?_
        rw [isIdle_eq_of_isName (hname n (by simp [hp, hn]))]
        simp
      rw [trail, hp, names_of_pieces hp]
      split
      · next hdot => rw [List.filter_cons_of_neg (by simp [isIdle, hdot.1]), hrest]
      · rw [List.filter_cons, List.filter_cons, hrest]

/-- The path `parent` is `path` without its last name, or nothing is left of it. -/
structure IsParent (path parent : String) : Prop where
  absolute : isAbsolute parent = isAbsolute path
  trail : parent = "" ∨ ∃ n, trail path = Path.trail parent ++ [n]

/-- Only the first name can stay where it is, and that only in a relative path: nothing is left then
of the names in front of it. -/
theorem ofNames_of_isIdle {path n : String} {k : Nat} (h : (names path)[k]? = some n)
    (hn : isIdle n = true) : ofNames (isAbsolute path) ((names path).take k) = "" := by
  have hidle : n = "." := by
    have hname := isName_of_mem_names (List.mem_of_getElem? h)
    rwa [isIdle_eq_of_isName hname, decide_eq_true_iff] at hn
  have hrest : ∀ ps : List String, n ∉ ps.filter (· ≠ ".") := by
    intro ps hmem
    simpa [hidle] using (List.mem_filter.1 hmem).2
  cases hp : pieces path with
  | nil => simp [names, hp] at h
  | cons p ps =>
      rw [names_of_pieces hp] at h
      split at h
      · exact absurd (List.mem_of_getElem? h) (hrest ps)
      · next hrelative =>
          cases k with
          | succ k => exact absurd (List.mem_of_getElem? (by simpa using h)) (hrest ps)
          | zero =>
              obtain rfl : p = n := by simpa using h
              have habs : isAbsolute path = false :=
                Bool.eq_false_iff.2 fun habs => hrelative ⟨hidle, habs⟩
              simp [habs, ofNames]

/-- **Every ancestor is the parent of the one before it.** -/
theorem isChain_ancestors (path : String) : List.IsChain IsParent (path :: ancestors path) := by
  have hname : ∀ k, ∀ n ∈ (names path).take k, IsName n :=
    fun k n hn => isName_of_mem_names (List.mem_of_mem_take hn)
  -- from any path whose trail is that of the first names on
  have hchain : ∀ k, k ≤ (names path).length → ∀ p, isAbsolute p = isAbsolute path →
      trail p = ((names path).take k).filter (fun n => !isIdle n) →
      List.IsChain IsParent (p :: (List.range k).reverse.map fun k =>
        ofNames (isAbsolute path) ((names path).take k)) := by
    intro k
    induction k with
    | zero => intro _ p _ _; exact List.isChain_singleton p
    | succ k ih =>
        intro hk p habs htrail
        let parent := ofNames (isAbsolute path) ((names path).take k)
        have habs' : isAbsolute parent = isAbsolute path := isAbsolute_ofNames (hname k) _
        have htrail' : trail parent = ((names path).take k).filter fun n => !isIdle n := by
          rw [trail, pieces_ofNames (hname k)]
        rw [List.range_succ, List.reverse_append, List.reverse_singleton, List.singleton_append,
          List.map_cons, List.isChain_cons_cons]
        refine ⟨⟨habs'.trans habs.symm, ?_⟩, ih (by omega) parent habs' htrail'⟩
        have hget : (names path)[k]? = some (names path)[k] := List.getElem?_eq_getElem hk
        by_cases hidle : isIdle (names path)[k] = true
        · exact .inl (ofNames_of_isIdle hget hidle)
        · refine .inr ⟨(names path)[k], ?_⟩
          rw [htrail, htrail', ← List.take_append_getElem hk, List.filter_append,
            List.filter_cons_of_pos (by simp [hidle]), List.filter_nil]
  refine hchain (names path).length (Nat.le_refl _) path rfl ?_
  rw [List.take_length, trail_eq]

end BatchRunner.Path
