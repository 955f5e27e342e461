/-
**White space between words.**

Main definitions:

* `Text.isWhite` — the characters of the white-space class;
* `Text.words` — the maximal runs of other characters.
-/

set_option autoImplicit false

namespace BatchRunner.Text

/-- The ranges of white-space characters, first and last code point of each. -/
def whiteRanges : List (Nat × Nat) :=
  [(0x9, 0xd), (0x20, 0x20), (0x85, 0x85), (0xa0, 0xa0), (0x1680, 0x1680), (0x2000, 0x200a),
    (0x2028, 0x2029), (0x202f, 0x202f), (0x205f, 0x205f), (0x3000, 0x3000)]

def isWhite (c : Char) : Bool :=
  whiteRanges.any fun r => r.1 ≤ c.toNat && c.toNat ≤ r.2

/-- Splits a text into words, given the word begun so far in reverse. -/
def wordsFrom : List Char → List Char → List (List Char)
  | word, [] => if word = [] then [] else [word.reverse]
  | word, c :: cs =>
      if isWhite c then
        if word = [] then wordsFrom [] cs else word.reverse :: wordsFrom [] cs
      else wordsFrom (c :: word) cs

/-- The words of a text, without the white space around them. -/
def words (text : String) : List String :=
  (wordsFrom [] text.toList).map String.ofList

/-- What the core library counts as white space is white space here. -/
theorem isWhite_of_isWhitespace {c : Char} (h : c.isWhitespace = true) : isWhite c = true := by
  simp only [Char.isWhitespace, Bool.or_eq_true, decide_eq_true_eq] at h
  rcases h with ((rfl | rfl) | rfl) | rfl <;> decide

end BatchRunner.Text
