/-
**The words of a text.**

The words of a text are its maximal runs of characters that are not white space.  A text divides into
words in this way, and has none only if it is blank.

Main definitions:

* `Text.Divided` — characters divided into words.

Main results:

* `Text.divided_words` — **the words of a text divide it**;
* `Text.words_eq_nil_iff` — a text without words is blank.
-/
import BatchRunner.Text.Blank

set_option autoImplicit false

namespace BatchRunner.Text

/-- Characters are divided into words: none is empty or has white space in it, and whatever stands
around and between them is white space. -/
inductive Divided : List Char → List (List Char) → Prop where
  | blank {b : List Char} (blanks : ∀ c ∈ b, isWhite c = true) : Divided b []
  | word {b u s : List Char} {us : List (List Char)} (blanks : ∀ c ∈ b, isWhite c = true)
      (nonempty : u ≠ []) (solid : ∀ c ∈ u, isWhite c = false)
      (ends : ∀ c, s.head? = some c → isWhite c = true) (rest : Divided s us) :
      Divided (b ++ (u ++ s)) (u :: us)

variable {s word : List Char} {us : List (List Char)} {c : Char}

/-- White space in front makes no difference. -/
theorem Divided.cons (h : Divided s us) (hc : isWhite c = true) : Divided (c :: s) us := by
  cases h with
  | blank blanks => exact .blank (List.forall_mem_cons.2 ⟨hc, blanks⟩)
  | word blanks nonempty solid ends rest =>
      exact .word (List.forall_mem_cons.2 ⟨hc, blanks⟩) nonempty solid ends rest

/-- There is no word only where all is white space. -/
theorem Divided.eq_nil_iff (h : Divided s us) : us = [] ↔ ∀ c ∈ s, isWhite c = true := by
  cases h with
  | blank blanks => exact iff_of_true rfl blanks
  | @word b u s us _ nonempty solid =>
      refine iff_of_false (List.cons_ne_nil u us) fun hwhite => ?_
      obtain ⟨c, hc⟩ := List.exists_mem_of_ne_nil u nonempty
      have hsolid := solid c hc
      rw [hwhite c (by simp [hc])] at hsolid
      exact Bool.noConfusion hsolid

/-- A word that was read in reverse stands in front of what is white or ends there. -/
theorem Divided.reverse (h : Divided s us) (ends : ∀ c, s.head? = some c → isWhite c = true)
    (hne : word ≠ []) (hword : ∀ c ∈ word, isWhite c = false) :
    Divided (word.reverse ++ s) (word.reverse :: us) :=
  .word (b := []) (by simp) (by simpa using hne) (by simpa using hword) ends h

theorem divided_wordsFrom (word : List Char) (hword : ∀ c ∈ word, isWhite c = false)
    (cs : List Char) : Divided (word.reverse ++ cs) (wordsFrom word cs) := by
  induction cs generalizing word with
  | nil =>
      have hrest : Divided [] [] := .blank (by simp)
      rw [wordsFrom]
      split
      · next hnil => simpa [hnil] using hrest
      · next hne => exact hrest.reverse (by simp) hne hword
  | cons c cs ih =>
      rw [wordsFrom]
      split
      · next hc =>
          have hrest : Divided (c :: cs) (wordsFrom [] cs) := (ih [] (by simp)).cons hc
          split
          · next hnil => simpa [hnil] using hrest
          · next hne => exact hrest.reverse (by simpa using hc) hne hword
      · next hc =>
          have hlonger := ih (c :: word) (List.forall_mem_cons.2 ⟨Bool.eq_false_iff.2 hc, hword⟩)
          simpa using hlonger

/-- **The words of a text divide it.** -/
theorem divided_words (text : String) : Divided text.toList ((words text).map String.toList) := by
  have h := divided_wordsFrom [] (by simp) text.toList
  simpa [words, Function.comp_def] using h

/-- A text without words is blank. -/
theorem words_eq_nil_iff {text : String} :
    words text = [] ↔ ∀ c ∈ text.toList, isWhite c = true := by
  rw [← (divided_words text).eq_nil_iff, List.map_eq_nil_iff]

end BatchRunner.Text
