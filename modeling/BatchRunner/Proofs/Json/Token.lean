/-
**Tokens and how they are spelled.**

A JSON text is a row of tokens with blanks in front of each.  What a token looks like is said here
as a relation between tokens and characters, without a word about how a reader finds them: a
character inside a literal may be written in several ways, a number in one.

Main definitions:

* `Json.Token` — marks, `null`, texts and natural numbers;
* `Json.Writes`, `Json.Spells` — how characters are written between quotes;
* `Json.Token.Spelled` — how a token is spelled;
* `Json.Lexes` — a text begins with given tokens and goes on with a given rest;
* `Json.Consists` — a text consists of given tokens and of blanks.

Main results:

* `Json.lexes_cons_iff` — the first token stands behind the blanks in front;
* `Json.lexes_append_iff` — tokens are met in two goes.
-/
import BatchRunner.Json.Cursor
import Mathlib.Data.List.TakeWhile

set_option autoImplicit false

namespace BatchRunner.Json

/-! ### Characters between quotes -/

/-- A hexadecimal digit of either case, and its value. -/
def HexDigit (c : Char) (n : Nat) : Prop :=
  "0123456789abcdef".toList[n]? = some c ∨ "0123456789ABCDEF".toList[n]? = some c

/-- Four hexadecimal digits, and their value. -/
def Quad (q : List Char) (n : Nat) : Prop :=
  ∃ a b c d w x y z, q = [a, b, c, d] ∧ HexDigit a w ∧ HexDigit b x ∧ HexDigit c y ∧
    HexDigit d z ∧ n = 4096 * w + 256 * x + 16 * y + z

/-- The letters that may follow a backslash, with what they stand for there. -/
def shortEscapes : List (Char × Char) :=
  [('"', '"'), ('\\', '\\'), ('/', '/'), ('b', '\x08'), ('f', '\x0c'), ('n', '\n'), ('r', '\r'),
    ('t', '\t')]

/-- How a character may be written between quotes.  A code unit that is half of a pair is not the
number of any character, so it cannot stand alone. -/
inductive Writes : List Char → Char → Prop where
  | plain {c : Char} (printable : 0x20 ≤ c.toNat) (noQuote : c ≠ '"') (noBackslash : c ≠ '\\') :
      Writes [c] c
  | short {x c : Char} (known : (x, c) ∈ shortEscapes) : Writes ['\\', x] c
  | unit {q : List Char} {c : Char} (value : Quad q c.toNat) : Writes ('\\' :: 'u' :: q) c
  | pair {q q' : List Char} {high low : Nat} {c : Char} (first : Quad q (0xd800 + high))
      (second : Quad q' (0xdc00 + low)) (highBound : high < 0x400) (lowBound : low < 0x400)
      (value : c.toNat = 0x10000 + 0x400 * high + low) :
      Writes ('\\' :: 'u' :: (q ++ '\\' :: 'u' :: q')) c

/-- How characters may be written between quotes. -/
inductive Spells : List Char → List Char → Prop where
  | nil : Spells [] []
  | cons {u us : List Char} {c : Char} {cs : List Char} (head : Writes u c) (tail : Spells us cs) :
      Spells (u ++ us) (c :: cs)

/-! ### Tokens -/

/-- The parts that a text is made of. -/
inductive Token where
  | openBracket
  | closeBracket
  | openBrace
  | closeBrace
  | colon
  | comma
  | null
  | text (s : String)
  | number (n : Nat)
  deriving DecidableEq, Repr

namespace Token

/-- The character of a token that is a mark. -/
def mark? : Token → Option Char
  | openBracket => some '['
  | closeBracket => some ']'
  | openBrace => some '\x7b'
  | closeBrace => some '\x7d'
  | colon => some ':'
  | comma => some ','
  | _ => none

/-- How a token is spelled. -/
inductive Spelled : Token → List Char → Prop where
  | mark {k : Token} {c : Char} (isMark : k.mark? = some c) : Spelled k [c]
  | null : Spelled null ['n', 'u', 'l', 'l']
  | text {s : String} {body : List Char} (spells : Spells body s.toList) :
      Spelled (text s) ('"' :: (body ++ ['"']))
  | number (n : Nat) : Spelled (number n) (Nat.toDigits 10 n)

/-- Whether a token ends where a text goes on: a number would take a digit for one of its own. -/
def Ends : Token → List Char → Prop
  | number _, s => ∀ c, s.head? = some c → c.isDigit = false
  | _, _ => True

end Token

/-- A text begins with the given tokens, blanks in front of each, and goes on with the given
rest. -/
inductive Lexes : List Char → List Token → List Char → Prop where
  | nil (r : List Char) : Lexes r [] r
  | cons {b u s r : List Char} {k : Token} {ks : List Token} (blanks : ∀ c ∈ b, isBlank c = true)
      (spelled : k.Spelled u) (ends : k.Ends s) (tail : Lexes s ks r) :
      Lexes (b ++ (u ++ s)) (k :: ks) r

/-- **A text consists of the given tokens**, with blanks wherever no token is. -/
def Consists (text : String) (ks : List Token) : Prop :=
  ∃ r, Lexes text.toList ks r ∧ ∀ c ∈ r, isBlank c = true

/-! ### The first token of a text -/

variable {s r u b : List Char} {c : Char} {k m : Token} {ks ls : List Token}

theorem dropWhile_isBlank_append (hb : ∀ c ∈ b, isBlank c = true) (s : List Char) :
    (b ++ s).dropWhile isBlank = s.dropWhile isBlank := by
  induction b with
  | nil => rfl
  | cons c b ih =>
      have hc : isBlank c = true := hb c List.mem_cons_self
      rw [List.cons_append, List.dropWhile_cons_of_pos hc]
      exact ih fun x hx => hb x (List.mem_cons_of_mem c hx)

theorem not_isBlank_of_isDigit (h : c.isDigit = true) : isBlank c = false := by
  rw [Bool.eq_false_iff]
  intro hb
  simp only [isBlank, Bool.or_eq_true, decide_eq_true_eq] at hb
  rcases hb with ((rfl | rfl) | rfl) | rfl <;> exact absurd h (by decide)

namespace Token

/-- The first character of a token is never a blank. -/
theorem Spelled.head_not_blank (h : k.Spelled u) : ∃ c v, u = c :: v ∧ isBlank c = false := by
  cases h with
  | mark isMark =>
      refine ⟨_, [], rfl, ?_⟩
      cases k <;> simp only [mark?, Option.some.injEq, reduceCtorEq] at isMark <;> subst isMark <;>
        decide
  | null => exact ⟨'n', _, rfl, by decide⟩
  | text spells => exact ⟨'"', _, rfl, by decide⟩
  | number n =>
      cases hd : Nat.toDigits 10 n with
      | nil => exact absurd hd Nat.toDigits_ne_nil
      | cons c v =>
          have hmem : c ∈ Nat.toDigits 10 n := by simp [hd]
          exact ⟨c, v, rfl, not_isBlank_of_isDigit
            (Nat.isDigit_of_mem_toDigits (by decide) (by decide) hmem)⟩

theorem mark?_inj (hk : k.mark? = some c) (hm : m.mark? = some c) : k = m := by
  have h : k.mark? = m.mark? := hk.trans hm.symm
  cases k <;> cases m <;> simp [mark?] at hk hm h ⊢

/-- No other token begins with the character of a mark. -/
theorem Spelled.head_ne_mark (h : k.Spelled u) (hm : m.mark? = some c) (hne : k ≠ m) :
    u.head? ≠ some c := by
  intro hu
  have hc : c ∈ ['[', ']', '\x7b', '\x7d', ':', ','] := by
    cases m <;> simp only [mark?, Option.some.injEq, reduceCtorEq] at hm <;> subst hm <;> decide
  cases h with
  | mark isMark =>
      obtain rfl := Option.some.inj hu
      exact hne (mark?_inj isMark hm)
  | null =>
      obtain rfl := Option.some.inj hu
      exact absurd hc (by decide)
  | text spells =>
      obtain rfl := Option.some.inj hu
      exact absurd hc (by decide)
  | number n =>
      have hmem : c ∈ Nat.toDigits 10 n := List.mem_of_mem_head? hu
      have hdigit := Nat.isDigit_of_mem_toDigits (by decide) (by decide) hmem
      simp only [List.mem_cons, List.not_mem_nil, or_false] at hc
      rcases hc with rfl | rfl | rfl | rfl | rfl | rfl <;> exact absurd hdigit (by decide)

theorem spelled_mark_iff (hm : m.mark? = some c) : m.Spelled u ↔ u = [c] := by
  constructor
  · intro h
    cases h with
    | mark isMark => rw [Option.some.inj (isMark.symm.trans hm)]
    | null | text _ | number _ => exact absurd hm (by simp [mark?])
  · rintro rfl
    exact .mark hm

theorem ends_of_mark (hm : m.mark? = some c) (s : List Char) : m.Ends s := by
  cases m with
  | number n => exact absurd hm (by simp [mark?])
  | _ => trivial

end Token

/-- **The first token stands behind the blanks in front.** -/
theorem lexes_cons_iff :
    Lexes s (k :: ks) r ↔
      ∃ u s', s.dropWhile isBlank = u ++ s' ∧ k.Spelled u ∧ k.Ends s' ∧ Lexes s' ks r := by
  constructor
  · intro h
    cases h with
    | cons blanks spelled ends tail =>
        refine ⟨_, _, ?_, spelled, ends, tail⟩
        obtain ⟨c, v, rfl, hc⟩ := spelled.head_not_blank
        rw [dropWhile_isBlank_append blanks, List.cons_append,
          List.dropWhile_cons_of_neg (by simp [hc])]
  · rintro ⟨u, s', hs, spelled, ends, tail⟩
    have hb : ∀ c ∈ s.takeWhile isBlank, isBlank c = true := by
      intro c hc
      exact List.mem_takeWhile_imp hc
    have h := Lexes.cons hb spelled ends tail
    rwa [← hs, List.takeWhile_append_dropWhile] at h

/-- A mark that comes first is the first character behind the blanks. -/
theorem lexes_mark_iff (hm : m.mark? = some c) :
    Lexes s (m :: ks) r ↔ ∃ s', s.dropWhile isBlank = c :: s' ∧ Lexes s' ks r := by
  rw [lexes_cons_iff]
  constructor
  · rintro ⟨u, s', hs, spelled, -, tail⟩
    obtain rfl := (Token.spelled_mark_iff hm).1 spelled
    exact ⟨s', hs, tail⟩
  · rintro ⟨s', hs, tail⟩
    exact ⟨[c], s', hs, .mark hm, Token.ends_of_mark hm s', tail⟩

@[simp] theorem lexes_nil_iff : Lexes s [] r ↔ s = r := by
  constructor
  · intro h
    cases h
    rfl
  · rintro rfl
    exact .nil s

/-- Blanks in front of a token make no difference. -/
theorem lexes_dropWhile_iff : Lexes (s.dropWhile isBlank) (k :: ks) r ↔ Lexes s (k :: ks) r := by
  have hblanks : ∀ c ∈ s.takeWhile isBlank, isBlank c = true := fun c hc =>
    List.mem_takeWhile_imp hc
  have h := dropWhile_isBlank_append hblanks (s.dropWhile isBlank)
  rw [List.takeWhile_append_dropWhile] at h
  rw [lexes_cons_iff, lexes_cons_iff, ← h]

/-- Behind the blanks stands the first character of a token. -/
theorem Lexes.head_ne_mark (h : Lexes s (k :: ks) r) (hm : m.mark? = some c) (hne : k ≠ m) :
    ∃ x s', s.dropWhile isBlank = x :: s' ∧ x ≠ c := by
  obtain ⟨u, s', hs, spelled, -, -⟩ := lexes_cons_iff.1 h
  obtain ⟨x, v, rfl, -⟩ := spelled.head_not_blank
  refine ⟨x, v ++ s', hs, ?_⟩
  rintro rfl
  exact spelled.head_ne_mark hm hne rfl

/-- **Tokens are met in two goes.** -/
theorem lexes_append_iff :
    Lexes s (ks ++ ls) r ↔ ∃ q, Lexes s ks q ∧ Lexes q ls r := by
  induction ks generalizing s with
  | nil => simp
  | cons k ks ih =>
      rw [List.cons_append, lexes_cons_iff]
      constructor
      · rintro ⟨u, s', hs, spelled, ends, tail⟩
        obtain ⟨q, h₁, h₂⟩ := ih.1 tail
        exact ⟨q, lexes_cons_iff.2 ⟨u, s', hs, spelled, ends, h₁⟩, h₂⟩
      · rintro ⟨q, h₁, h₂⟩
        obtain ⟨u, s', hs, spelled, ends, tail⟩ := lexes_cons_iff.1 h₁
        exact ⟨u, s', hs, spelled, ends, ih.2 ⟨q, tail, h₂⟩⟩

/-- The first token is met on its own. -/
theorem lexes_first_iff :
    Lexes s (k :: ks) r ↔ ∃ q, Lexes s [k] q ∧ Lexes q ks r := by
  rw [← lexes_append_iff, List.singleton_append]

end BatchRunner.Json
