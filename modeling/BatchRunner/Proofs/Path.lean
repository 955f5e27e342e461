/-
**Paths below a directory.**

A path below a directory is followed like the path of the directory and then the path below it,
however the directory is written: empty, relative, absolute, or with a slash at its end.  If that is
one name, the names to follow are those of the directory and one more.

Main definitions:

* `Path.gap` — what is put between a directory and what is below it;
* `Path.IsName` — a text that can be the name of an entry.

Main results:

* `Path.cut_append_slash` — cutting at a slash cuts both sides on their own;
* `Path.pieces_join_of_relative` — **joining puts the names of both paths in a row**, and so
  `Path.pieces_join` adds one name;
* `Path.isAbsolute_join_of_relative`, `Path.endsInSlash_join_of_relative` — where the joined path
  starts and ends;
* `Path.join_assoc` — **it does not matter which of two joins comes first**;
* `Aim.steps_join_of_relative`, `Aim.steps_join` — the names to follow for the joined path.
-/
import BatchRunner.Files.Resolve

set_option autoImplicit false

namespace BatchRunner

namespace Path

/-! ### Cutting at slashes -/

theorem cut_ne_nil (cs : List Char) : cut cs ≠ [] := by
  cases cs with
  | nil => simp [cut]
  | cons c cs =>
      simp only [cut]
      split
      · simp
      · split <;> simp

/-- A text without a slash is one piece. -/
theorem cut_of_not_mem {cs : List Char} (h : '/' ∉ cs) : cut cs = [cs] := by
  induction cs with
  | nil => rfl
  | cons c cs ih =>
      have hc : c ≠ '/' := fun hc => h (by simp [hc])
      have hcs : '/' ∉ cs := fun hcs => h (List.mem_cons_of_mem _ hcs)
      simp [cut, ih hcs, hc]

/-- A slash parts what stands before it from what stands behind it. -/
theorem cut_append_slash (as bs : List Char) : cut (as ++ '/' :: bs) = cut as ++ cut bs := by
  induction as with
  | nil =>
      obtain ⟨w, ws, hw⟩ := List.exists_cons_of_ne_nil (cut_ne_nil bs)
      simp [cut, hw]
  | cons a as ih =>
      obtain ⟨w, ws, hw⟩ := List.exists_cons_of_ne_nil (cut_ne_nil as)
      simp only [List.cons_append, cut, ih, hw]
      split <;> rfl

/-- The names among the pieces of a text. -/
def namesAmong (ws : List (List Char)) : List String :=
  ws.filterMap fun w => if w = [] then none else some (String.ofList w)

theorem pieces_eq (path : String) : pieces path = namesAmong (cut path.toList) := rfl

theorem namesAmong_append (ws ws' : List (List Char)) :
    namesAmong (ws ++ ws') = namesAmong ws ++ namesAmong ws' := by
  simp [namesAmong]

/-! ### Names -/

/-- A text that can be the name of an entry: not empty and without a slash. -/
structure IsName (name : String) : Prop where
  ne_empty : name.toList ≠ []
  no_slash : '/' ∉ name.toList

instance (name : String) : Decidable (IsName name) :=
  decidable_of_iff (name.toList ≠ [] ∧ '/' ∉ name.toList)
    ⟨fun ⟨hempty, hslash⟩ => ⟨hempty, hslash⟩, fun h => ⟨h.ne_empty, h.no_slash⟩⟩

namespace IsName

variable {name : String}

theorem not_isAbsolute (h : IsName name) : isAbsolute name = false := by
  obtain ⟨c, cs, hc⟩ := List.exists_cons_of_ne_nil h.ne_empty
  have hne : c ≠ '/' := fun he => h.no_slash (by simp [hc, he])
  simp [isAbsolute, hc, hne]

theorem namesAmong_cut (h : IsName name) : namesAmong (cut name.toList) = [name] := by
  rw [cut_of_not_mem h.no_slash]
  simp [namesAmong, h.ne_empty]

theorem getLast?_ne_slash (h : IsName name) (before : List Char) :
    (before ++ name.toList).getLast? ≠ some '/' := by
  rw [List.getLast?_append, List.getLast?_eq_some_getLast h.ne_empty]
  intro he
  have hmem := List.getLast_mem h.ne_empty
  rw [Option.some_or, Option.some_inj] at he
  rw [he] at hmem
  exact h.no_slash hmem

end IsName

/-- A directory that ends in a slash is what stands before that slash, cut off there. -/
theorem exists_of_endsInSlash {dir : String} (h : endsInSlash dir = true) :
    ∃ cs, dir.toList = cs ++ ['/'] := by
  have h' : dir.toList.getLast? = some '/' := by simpa [endsInSlash] using h
  exact List.getLast?_eq_some_iff.1 h'

/-! ### A path below a directory -/

/-- What is put between a directory and what is below it. -/
def gap (dir : String) : List Char := if dir = "" ∨ endsInSlash dir then [] else ['/']

section

variable {dir path : String}

theorem toList_join (h : isAbsolute path = false) :
    (join dir path).toList = dir.toList ++ (gap dir ++ path.toList) := by
  unfold join gap
  rw [h, if_neg Bool.false_ne_true]
  split <;> simp

/-- **A joined path is as long as both paths and what is put between them.** -/
theorem utf8ByteSize_join (h : isAbsolute path = false) :
    (join dir path).utf8ByteSize = dir.utf8ByteSize + (gap dir).length + path.utf8ByteSize := by
  have hslash : "/".utf8ByteSize = 1 := by decide
  unfold join gap
  rw [h, if_neg Bool.false_ne_true]
  split
  · rw [String.utf8ByteSize_append, List.length_nil, Nat.add_zero]
  · rw [String.utf8ByteSize_append, String.utf8ByteSize_append, hslash, List.length_singleton]

theorem join_ne_empty (h : path ≠ "") : join dir path ≠ "" := by
  cases habs : isAbsolute path with
  | true => rwa [join_of_isAbsolute habs]
  | false =>
      intro hjoin
      have hnil := congrArg String.toList hjoin
      rw [toList_join habs] at hnil
      have hpath := (List.append_eq_nil_iff.1 (List.append_eq_nil_iff.1 hnil).2).2
      exact h (String.toList_eq_nil_iff.1 hpath)

/-- **Joining puts the names of both paths in a row.** -/
theorem pieces_join_of_relative (h : isAbsolute path = false) :
    pieces (join dir path) = pieces dir ++ pieces path := by
  rw [pieces_eq, pieces_eq, pieces_eq, toList_join h]
  have hend : namesAmong (cut []) = [] := rfl
  by_cases hempty : dir = ""
  · subst hempty
    rw [gap, if_pos (.inl rfl), show "".toList = [] from rfl, hend, List.nil_append,
      List.nil_append, List.nil_append]
  · by_cases hslash : endsInSlash dir = true
    · obtain ⟨cs, hcs⟩ := exists_of_endsInSlash hslash
      rw [gap, if_pos (.inr hslash), hcs, List.nil_append, List.append_assoc, List.singleton_append,
        cut_append_slash, cut_append_slash, namesAmong_append, namesAmong_append, hend,
        List.append_nil]
    · rw [gap, if_neg (not_or.2 ⟨hempty, hslash⟩), List.singleton_append, cut_append_slash,
        namesAmong_append]

/-- The joined path starts where the directory does. -/
theorem isAbsolute_join_of_relative (h : isAbsolute path = false) :
    isAbsolute (join dir path) = isAbsolute dir := by
  by_cases hd : dir = ""
  · subst hd
    rw [join_empty, h]
    rfl
  · have hne : dir.toList ≠ [] := by simpa using hd
    obtain ⟨c, cs, hc⟩ := List.exists_cons_of_ne_nil hne
    simp [isAbsolute, toList_join h, hc]

/-- Whatever is below a directory of an absolute path has an absolute path. -/
theorem isAbsolute_join_of_isAbsolute (h : isAbsolute dir = true) :
    isAbsolute (join dir path) = true := by
  cases hpath : isAbsolute path with
  | true => rwa [join_of_isAbsolute hpath]
  | false => rwa [isAbsolute_join_of_relative hpath]

/-- The joined path ends as the path below does. -/
theorem endsInSlash_join_of_relative (h : isAbsolute path = false) (hne : path ≠ "") :
    endsInSlash (join dir path) = endsInSlash path := by
  have hlast : path.toList ≠ [] := by simpa using hne
  rw [endsInSlash, endsInSlash, toList_join h, ← List.append_assoc, List.getLast?_append,
    List.getLast?_eq_some_getLast hlast, Option.some_or]

theorem gap_join (h : isAbsolute path = false) (hne : path ≠ "") :
    gap (join dir path) = gap path := by
  simp [gap, endsInSlash_join_of_relative h hne, join_ne_empty hne, hne]

/-- The empty path below a directory ends in a slash, unless the directory is empty too. -/
theorem gap_join_empty : gap (join dir "") = [] := by
  have hjoin : (join dir "").toList = dir.toList ++ gap dir := by
    simpa using @toList_join dir "" rfl
  by_cases hdir : dir = "" ∨ endsInSlash dir = true
  · have hsame : join dir "" = dir := by
      rw [gap, if_pos hdir, List.append_nil] at hjoin
      exact String.toList_injective hjoin
    rw [hsame, gap, if_pos hdir]
  · rw [gap, if_neg hdir] at hjoin
    have hslash : endsInSlash (join dir "") = true := by simp [endsInSlash, hjoin]
    rw [gap, if_pos (.inr hslash)]

/-- **It does not matter which of two joins comes first.** -/
theorem join_assoc (a b c : String) : join (join a b) c = join a (join b c) := by
  cases hc : isAbsolute c with
  | true => simp [hc]
  | false =>
      cases hb : isAbsolute b with
      | true =>
          have hbc : isAbsolute (join b c) = true := by rw [isAbsolute_join_of_relative hc, hb]
          rw [join_of_isAbsolute hb, join_of_isAbsolute hbc]
      | false =>
          have hbc : isAbsolute (join b c) = false := by rw [isAbsolute_join_of_relative hc, hb]
          apply String.toList_injective
          rw [toList_join hc, toList_join hb, toList_join hbc, toList_join hc]
          by_cases hempty : b = ""
          · subst hempty
            rw [gap_join_empty]
            simp [gap]
          · rw [gap_join hb hempty]
            simp

/-- A relative path has a name in it. -/
theorem pieces_ne_nil (h : isAbsolute path = false) (hne : path ≠ "") : pieces path ≠ [] := by
  obtain ⟨c, cs, hc⟩ := List.exists_cons_of_ne_nil (l := path.toList) (by simpa using hne)
  have hslash : c ≠ '/' := by
    rintro rfl
    simp [isAbsolute, hc] at h
  obtain ⟨w, ws, hw⟩ := List.exists_cons_of_ne_nil (cut_ne_nil cs)
  simp [pieces, hc, cut, hw, hslash]

end

/-! ### One name below a directory -/

section

variable {dir name : String}

/-- **Joining adds one name.** -/
theorem pieces_join (hn : IsName name) : pieces (join dir name) = pieces dir ++ [name] := by
  rw [pieces_join_of_relative hn.not_isAbsolute, pieces_eq name, hn.namesAmong_cut]

/-- The joined path starts where the directory does. -/
theorem isAbsolute_join (hn : IsName name) : isAbsolute (join dir name) = isAbsolute dir :=
  isAbsolute_join_of_relative hn.not_isAbsolute

end

end Path

section

variable {dir path name : String}

theorem stepsOf_join (h : Path.isAbsolute path = false) (hne : path ≠ "") :
    stepsOf (Path.join dir path) = Path.pieces dir ++ stepsOf path := by
  rw [stepsOf, stepsOf, Path.pieces_join_of_relative h, Path.endsInSlash_join_of_relative h hne,
    List.append_assoc]

theorem stepsToMake_join (h : Path.isAbsolute path = false) (hne : path ≠ "") :
    stepsToMake (Path.join dir path) = Path.pieces dir ++ stepsToMake path := by
  have hpieces := Path.pieces_ne_nil h hne
  rw [stepsToMake, stepsToMake, stepsOf_join h hne, Path.pieces_join_of_relative h,
    Path.endsInSlash_join_of_relative h hne, List.getLast?_append,
    List.getLast?_eq_some_getLast hpieces, Option.some_or, List.dropLast_append_of_ne_nil hpieces]
  split
  · split <;> simp
  · rfl

/-- **Whatever is wanted of it, the joined path is followed by the names of the directory first**,
and then by those of the path below. -/
theorem Aim.steps_join_of_relative (aim : Aim) (h : Path.isAbsolute path = false)
    (hne : path ≠ "") :
    aim.steps (Path.join dir path) = Path.pieces dir ++ aim.steps path := by
  unfold Aim.steps
  split
  · exact stepsToMake_join h hne
  · exact stepsOf_join h hne

/-- A name is followed as it is, whatever is wanted of it. -/
theorem Aim.steps_of_isName (aim : Aim) (hn : Path.IsName name) : aim.steps name = [name] := by
  have hslash : Path.endsInSlash name = false := by
    simpa [Path.endsInSlash] using hn.getLast?_ne_slash []
  have hpieces : Path.pieces name = [name] := hn.namesAmong_cut
  have hsteps : stepsOf name = [name] := by simp [stepsOf, hslash, hpieces]
  unfold Aim.steps
  split
  · rw [stepsToMake, hslash, hsteps]
  · exact hsteps

/-- Whatever is wanted of it, a name below a directory is followed by the same names. -/
theorem Aim.steps_join (aim : Aim) (hn : Path.IsName name) :
    aim.steps (Path.join dir name) = Path.pieces dir ++ [name] := by
  have hne : name ≠ "" := fun h => hn.ne_empty (by rw [h]; rfl)
  rw [aim.steps_join_of_relative hn.not_isAbsolute hne, aim.steps_of_isName hn]

end

end BatchRunner
