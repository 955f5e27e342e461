/-
**What the text of a value denotes.**

The tokens of a value say what is written, and leave out how it is laid out and which characters are
escaped.  Both texts of a value consist of its tokens; a text consists of one row of tokens at most,
and a row of tokens is that of one value at most, so both texts of a value denote it and nothing
else.

Main definitions:

* `Json.Value.tokens` — the tokens of a value;
* `Json.Denotes` — a text consists of the tokens of a value;
* `Json.Prints` — a text is read as given tokens wherever it stands.

Main results:

* `Json.prints_compact`, `Json.prints_prettyAt` — both texts of a value print its tokens;
* `Json.Consists.unique` — **a text consists of one row of tokens at most**;
* `Json.Value.tokens_append_inj` — a row of tokens is that of one value at most;
* `Json.denotes_compact_iff`, `Json.denotes_pretty_iff` — **both texts of a value denote it and
  nothing else**.
-/
import BatchRunner.Json.Value
import BatchRunner.Proofs.Json.Reader
import BatchRunner.Proofs.Text.Digits

set_option autoImplicit false

namespace BatchRunner.Json

open BatchRunner.Text

variable {s s' r r' t u u' b b' : List Char} {k k' m : Token} {ks ls : List Token} {x : String}
  {xs : List String} {kss : List (List Token)} {first : Bool}

/-! ### The tokens of a value -/

namespace Value

mutual

def tokens : Value → List Token
  | text s => [.text s]
  | number n => [.number n]
  | list items => .openBracket :: (row true (itemTokens items) ++ [.closeBracket])
  | object fields => .openBrace :: (row true (fieldTokens fields) ++ [.closeBrace])

def itemTokens : List Value → List (List Token)
  | [] => []
  | v :: vs => tokens v :: itemTokens vs

def fieldTokens : List (String × Value) → List (List Token)
  | [] => []
  | (k, v) :: fs => (.text k :: .colon :: tokens v) :: fieldTokens fs

end

/-- What holds of a value whenever it holds of its parts holds of every value. -/
@[elab_as_elim, induction_eliminator]
theorem induction {P : Value → Prop} (text : ∀ s, P (text s)) (number : ∀ n, P (number n))
    (list : ∀ items, (∀ v ∈ items, P v) → P (list items))
    (object : ∀ fields, (∀ f ∈ fields, P f.2) → P (object fields)) (v : Value) : P v := by
  refine @Value.rec P (fun vs => ∀ v ∈ vs, P v) (fun fs => ∀ f ∈ fs, P f.2) (fun f => P f.2)
    text number list object ?_ ?_ ?_ ?_ ?_ v
  · simp
  · intro v vs hv hvs
    exact List.forall_mem_cons.2 ⟨hv, hvs⟩
  · simp
  · intro f fs hf hfs
    exact List.forall_mem_cons.2 ⟨hf, hfs⟩
  · intro k v hv
    exact hv

theorem itemTokens_eq (vs : List Value) : itemTokens vs = vs.map tokens := by
  induction vs with
  | nil => rfl
  | cons v vs ih => rw [itemTokens, ih, List.map_cons]

theorem fieldTokens_eq (fs : List (String × Value)) :
    fieldTokens fs = fs.map fun f => .text f.1 :: .colon :: f.2.tokens := by
  induction fs with
  | nil => rfl
  | cons f fs ih => rw [fieldTokens, ih, List.map_cons]

theorem compactItems_eq (vs : List Value) : compactItems vs = vs.map compact := by
  induction vs with
  | nil => rfl
  | cons v vs ih => rw [compactItems, ih, List.map_cons]

theorem compactFields_eq (fs : List (String × Value)) :
    compactFields fs = fs.map fun f => literal f.1 ++ ":" ++ f.2.compact := by
  induction fs with
  | nil => rfl
  | cons f fs ih => rw [compactFields, ih, List.map_cons]

end Value

section

variable {α : Type} {G : List Token → α → Prop}

theorem listOf_tokens {items : List Value} {as : List α}
    (h : List.Forall₂ (fun v a => G v.tokens a) items as) :
    ListOf G (Value.list items).tokens as := by
  refine ⟨_, ⟨items.map Value.tokens, List.forall₂_map_left_iff.2 h, rfl⟩, ?_⟩
  rw [Value.tokens, Value.itemTokens_eq, row_true]

theorem objectOf_tokens {fields : List (String × Value)} {es : List (String × α)}
    (h : List.Forall₂ (fun f e => f.1 = e.1 ∧ G f.2.tokens e.2) fields es) :
    ObjectOf G (Value.object fields).tokens es := by
  refine ⟨_, ⟨fields.map fun f => .text f.1 :: .colon :: f.2.tokens,
    List.forall₂_map_left_iff.2 (h.imp ?_), rfl⟩, ?_⟩
  · rintro ⟨key, v⟩ ⟨_, a⟩ ⟨rfl, ha⟩
    exact ⟨_, ha, rfl⟩
  · rw [Value.tokens, Value.fieldTokens_eq, row_true]

end

/-- **A text denotes a value** if it consists of its tokens. -/
def Denotes (text : String) (v : Value) : Prop := Consists text v.tokens

/-! ### Texts that print tokens -/

/-- A text is read as given tokens wherever it stands, unless digits follow it. -/
def Prints (x : String) (ks : List Token) : Prop :=
  ∀ b r, (∀ c ∈ b, isBlank c = true) → NoDigitAhead r → Lexes (b ++ (x.toList ++ r)) ks r

theorem lexes_mark {c : Char} (hm : m.mark? = some c) (h : Lexes s ks r) : Lexes (c :: s) (m :: ks) r :=
  Lexes.cons (b := []) (by simp) (.mark hm) (Token.ends_of_mark hm s) h

/-- Text with a digit for each half of a small code. -/
theorem hexDigit_digitChar {n : Nat} (h : n < 16) : HexDigit n.digitChar n := by
  unfold HexDigit
  interval_cases n <;> simp

/-- Every character is written in a way that stands for it. -/
theorem writes_escapeChar (c : Char) : Writes (escapeChar c) c := by
  unfold escapeChar
  iterate 7
    split
    · next h => exact .short (by simp [h, shortEscapes])
  split
  · next h =>
      refine .unit ⟨_, _, _, _, 0, 0, c.toNat / 16, c.toNat % 16, rfl, .inl rfl, .inl rfl,
        hexDigit_digitChar (by omega), hexDigit_digitChar (by omega), by omega⟩
  · next hquote hbackslash _ _ _ _ _ h => exact .plain (by omega) hquote hbackslash

theorem spells_escaped (cs : List Char) : Spells (cs.flatMap escapeChar) cs := by
  induction cs with
  | nil => exact .nil
  | cons c cs ih => exact .cons (writes_escapeChar c) ih

theorem prints_literal (s : String) : Prints (literal s) [.text s] := by
  intro b r hb _
  have hspelled := Token.Spelled.text (spells_escaped s.toList)
  have hends : (Token.text s).Ends r := trivial
  simpa [literal] using Lexes.cons hb hspelled hends (.nil r)

theorem prints_number (n : Nat) : Prints (toString n) [.number n] := by
  intro b r hb hr
  have h := Lexes.cons hb (.number n) hr (.nil r)
  rwa [Nat.toString_eq_ofList_toDigits, String.toList_ofList]

/-- A field prints its key, a colon and its value, blanks after the colon or not. -/
theorem prints_field (hb : ∀ c ∈ b, isBlank c = true) (key : String) (h : Prints x ks) :
    Prints (literal key ++ String.ofList (':' :: b) ++ x) (.text key :: .colon :: ks) := by
  intro b' r hb' hr
  have hcolon : Lexes (':' :: (b ++ (x.toList ++ r))) (.colon :: ks) r :=
    lexes_mark rfl (h b r hb hr)
  have hkey := prints_literal key b' (':' :: (b ++ (x.toList ++ r))) hb'
    (noDigitAhead_cons_iff.2 (by decide))
  have hboth := lexes_append_iff.2 ⟨_, hkey, hcolon⟩
  simpa using hboth

/-- Texts in a row: each stands behind the given blanks, and a comma stands in front of these
unless it is the first. -/
def rowText (b : List Char) : Bool → List String → List Char
  | _, [] => []
  | first, x :: xs => (if first then b else ',' :: b) ++ (x.toList ++ rowText b false xs)

theorem rowText_true (b : List Char) (x : String) (xs : List String) :
    rowText b true (x :: xs) =
      b ++ ((String.ofList (',' :: b)).intercalate (x :: xs)).toList := by
  induction xs generalizing x with
  | nil => simp [rowText]
  | cons y ys ih =>
      have hstep : rowText b true (x :: y :: ys) =
          b ++ (x.toList ++ ',' :: rowText b true (y :: ys)) := rfl
      rw [hstep, ih y]
      simp [String.toList_intercalate]

/-- **Texts in a row print the row of their tokens.** -/
theorem lexes_rowText (hb : ∀ c ∈ b, isBlank c = true) (h : List.Forall₂ Prints xs kss)
    (ht : NoDigitAhead t) (htail : Lexes t ks r) :
    Lexes (rowText b first xs ++ t) (row first kss ++ ks) r := by
  induction h generalizing first with
  | nil => exact htail
  | @cons x ls xs kss hx hxs ih =>
      have hahead : NoDigitAhead (rowText b false xs ++ t) := by
        cases xs with
        | nil => exact ht
        | cons y ys => exact noDigitAhead_cons_iff.2 (by decide)
      have hitem := hx b (rowText b false xs ++ t) hb hahead
      have hrest : Lexes (rowText b false xs ++ t) (row false kss ++ ks) r := ih
      have hboth := lexes_append_iff.2 ⟨_, hitem, hrest⟩
      cases first with
      | true => simpa [rowText, row, lead] using hboth
      | false => simpa [rowText, row, lead] using lexes_mark (m := .comma) rfl hboth

theorem noDigitAhead_mark {c : Char} (hm : m.mark? = some c)
    (hb : ∀ c ∈ b, isBlank c = true) (r : List Char) : NoDigitAhead (b ++ c :: r) := by
  cases b with
  | nil =>
      refine noDigitAhead_cons_iff.2 ?_
      cases m <;> simp only [Token.mark?, Option.some.injEq, reduceCtorEq] at hm <;> subst hm <;>
        decide
  | cons x b =>
      refine noDigitAhead_cons_iff.2 ?_
      have hx := hb x List.mem_cons_self
      rw [Bool.eq_false_iff]
      intro hdigit
      exact absurd (not_isBlank_of_isDigit hdigit) (by simp [hx])

section

variable {opening closing : String} {c c' : Char} {m' : Token}

/-- Two marks print themselves and the row of the texts between them. -/
theorem lexes_enclosed (hm : m.mark? = some c) (hm' : m'.mark? = some c')
    (hb : ∀ c ∈ b, isBlank c = true) (hb' : ∀ c ∈ b', isBlank c = true)
    (h : List.Forall₂ Prints xs kss) (r : List Char) :
    Lexes (c :: (rowText b true xs ++ (b' ++ c' :: r))) (m :: (row true kss ++ [m'])) r := by
  have hend : Lexes (b' ++ c' :: r) [m'] r :=
    Lexes.cons hb' (.mark hm') (Token.ends_of_mark hm' r) (.nil r)
  exact lexes_mark hm (lexes_rowText hb h (noDigitAhead_mark hm' hb' r) hend)

theorem prints_of_lexes (h : ∀ r, Lexes (x.toList ++ r) (k :: ks) r) : Prints x (k :: ks) := by
  intro b r hb _
  rw [← lexes_dropWhile_iff, dropWhile_isBlank_append hb, lexes_dropWhile_iff]
  exact h r

theorem prints_enclosed (ho : opening.toList = [c]) (hc : closing.toList = [c'])
    (hm : m.mark? = some c) (hm' : m'.mark? = some c') (h : List.Forall₂ Prints xs kss) :
    Prints (opening ++ ",".intercalate xs ++ closing) (m :: (row true kss ++ [m'])) := by
  have hrow : rowText [] true xs = (",".intercalate xs).toList := by
    cases xs with
    | nil => rfl
    | cons x xs => exact rowText_true [] x xs
  refine prints_of_lexes fun r => ?_
  have hall : Lexes (c :: (rowText [] true xs ++ ([] ++ c' :: r))) (m :: (row true kss ++ [m'])) r :=
    lexes_enclosed hm hm' (by simp) (by simp) h r
  simpa [ho, hc, hrow] using hall

end

/-! ### Both texts of a value print its tokens -/

theorem forall₂_prints {α : Type} {f : α → String} {g : α → List Token} {as : List α}
    (h : ∀ a ∈ as, Prints (f a) (g a)) : List.Forall₂ Prints (as.map f) (as.map g) := by
  rw [List.forall₂_map_left_iff, List.forall₂_map_right_iff, List.forall₂_same]
  exact h

theorem prints_compact (v : Value) : Prints v.compact v.tokens := by
  induction v with
  | text s => exact prints_literal s
  | number n => exact prints_number n
  | list items ih =>
      rw [Value.compact, Value.tokens, Value.compactItems_eq, Value.itemTokens_eq]
      exact prints_enclosed rfl rfl rfl rfl (forall₂_prints ih)
  | object fields ih =>
      rw [Value.compact, Value.tokens, Value.compactFields_eq, Value.fieldTokens_eq]
      refine prints_enclosed rfl rfl rfl rfl (forall₂_prints fun f hf => ?_)
      exact prints_field (b := []) (by simp) f.1 (ih f hf)

theorem Prints.consists (h : Prints x ks) : Consists x ks := by
  refine ⟨[], ?_, by simp⟩
  simpa using h [] [] (by simp) noDigitAhead_nil

/-! ### A text consists of one row of tokens at most -/

theorem Gives.unique {α : Type} {result : Except Fault (α × Cursor)} {x x' : α}
    (h : Gives result x r) (h' : Gives result x' r') : x = x' ∧ r = r' := by
  obtain ⟨p, rfl⟩ := h
  obtain ⟨rfl, rfl⟩ := gives_ok_iff.1 h'
  exact ⟨rfl, rfl⟩

theorem Spells.unique {cs cs' : List Char} (h : Spells u cs) (h' : Spells u' cs')
    (heq : u ++ '"' :: s = u' ++ '"' :: s') : cs = cs' ∧ s = s' := by
  let c : Cursor := ⟨u ++ '"' :: s, ⟨0, 0⟩⟩
  have hread : Gives (readText c) cs s := gives_readText_iff.2 ⟨u, rfl, h⟩
  have hread' : Gives (readText c) cs' s' := gives_readText_iff.2 ⟨u', heq, h'⟩
  exact hread.unique hread'

namespace Token

/-- A token that begins with a mark is that mark. -/
theorem Spelled.eq_mark {c : Char} (h : k.Spelled u) (hm : m.mark? = some c)
    (heq : u ++ s = c :: s') : k = m ∧ s = s' := by
  obtain ⟨y, v, rfl, -⟩ := h.head_not_blank
  obtain ⟨rfl, hs⟩ : y = c ∧ v ++ s = s' := by simpa using heq
  have hk : k = m := by
    by_contra hne
    exact h.head_ne_mark hm hne rfl
  subst hk
  obtain rfl : v = [] := by simpa using (spelled_mark_iff hm).1 h
  exact ⟨rfl, hs⟩

/-- What begins with a digit is a number. -/
theorem toDigits_append_ne {n : Nat} {c : Char} (hc : c.isDigit = false) :
    Nat.toDigits 10 n ++ s ≠ c :: s' := by
  intro h
  cases hd : Nat.toDigits 10 n with
  | nil => exact absurd hd Nat.toDigits_ne_nil
  | cons d ds =>
      obtain ⟨rfl, -⟩ : d = c ∧ ds ++ s = s' := by simpa [hd] using h
      have hdigit := isDigit_toDigits n d (by simp [hd])
      simp [hc] at hdigit

/-- **A text begins with one token at most.** -/
theorem Spelled.unique (h : k.Spelled u) (h' : k'.Spelled u') (hends : k.Ends s)
    (hends' : k'.Ends s') (heq : u ++ s = u' ++ s') : k = k' ∧ s = s' := by
  -- the first character tells which kind of token it is
  cases h with
  | mark hm =>
      obtain ⟨rfl, rfl⟩ := h'.eq_mark hm heq.symm
      exact ⟨rfl, rfl⟩
  | null =>
      cases h' with
      | mark hm => exact (Spelled.null).eq_mark hm heq
      | null => exact ⟨rfl, by simpa using heq⟩
      | text _ => simp at heq
      | number n => exact absurd heq.symm (toDigits_append_ne (by decide))
  | text spells =>
      cases h' with
      | mark hm => exact (Spelled.text spells).eq_mark hm heq
      | null => simp at heq
      | text spells' =>
          obtain ⟨hcs, hs⟩ := spells.unique spells' (by simpa using heq)
          exact ⟨congrArg _ (String.toList_injective hcs), hs⟩
      | number n => exact absurd heq.symm (toDigits_append_ne (by decide))
  | number n =>
      cases h' with
      | mark hm => exact (Spelled.number n).eq_mark hm heq
      | null => exact absurd heq (toDigits_append_ne (by decide))
      | text _ => exact absurd heq (toDigits_append_ne (by decide))
      | number n' =>
          obtain ⟨rfl, rfl⟩ := toDigits_append_inj hends hends' heq
          exact ⟨rfl, rfl⟩

end Token

theorem not_lexes_blanks (hb : ∀ c ∈ s, isBlank c = true) : ¬ Lexes s (k :: ks) r := by
  intro h
  obtain ⟨u, s', hs, spelled, -, -⟩ := lexes_cons_iff.1 h
  obtain ⟨c, v, rfl, -⟩ := spelled.head_not_blank
  rw [List.dropWhile_eq_nil_iff.2 hb] at hs
  simp at hs

/-- **A text consists of one row of tokens at most.** -/
theorem Consists.unique {text : String} (h : Consists text ks) (h' : Consists text ls) :
    ks = ls := by
  obtain ⟨r, hlex, hr⟩ := h
  obtain ⟨r', hlex', hr'⟩ := h'
  generalize text.toList = s at hlex hlex'
  induction ks generalizing s ls with
  | nil =>
      obtain rfl := lexes_nil_iff.1 hlex
      cases ls with
      | nil => rfl
      | cons l ls => exact absurd hlex' (not_lexes_blanks hr)
  | cons k ks ih =>
      cases ls with
      | nil =>
          obtain rfl := lexes_nil_iff.1 hlex'
          exact absurd hlex (not_lexes_blanks hr')
      | cons l ls =>
          obtain ⟨u, q, hs, spelled, ends, htail⟩ := lexes_cons_iff.1 hlex
          obtain ⟨u', q', hs', spelled', ends', htail'⟩ := lexes_cons_iff.1 hlex'
          obtain ⟨rfl, rfl⟩ := spelled.unique spelled' ends ends' (hs.symm.trans hs')
          rw [ih q htail htail']

/-! ### A row of tokens is that of one value at most -/

section

variable {α : Type} {f : α → List Token} {as as' : List α}

/-- The end of a row is not taken for a part of it. -/
theorem cons_ne_row (hcomma : m ≠ .comma) (hopens : ∀ a, ∃ k ls, f a = k :: ls ∧ k ≠ m)
    (first : Bool) (a : α) (as : List α) (ks ls : List Token) :
    m :: ks ≠ row first ((a :: as).map f) ++ ls := by
  intro h
  obtain ⟨k, ls', hk, hne⟩ := hopens a
  cases first with
  | true =>
      have heq : m = k := by simpa [row, lead, hk] using congrArg List.head? h
      exact hne heq.symm
  | false =>
      have heq : m = .comma := by simpa [row, lead] using congrArg List.head? h
      exact hcomma heq

/-- Parts that can be told from what follows them can be told in a row that has an end. -/
theorem row_append_inj (hcomma : m ≠ .comma) (hopens : ∀ a, ∃ k ls, f a = k :: ls ∧ k ≠ m)
    (hinj : ∀ a ∈ as, ∀ a' ks ls, f a ++ ks = f a' ++ ls → a = a' ∧ ks = ls)
    (h : row first (as.map f) ++ m :: ks = row first (as'.map f) ++ m :: ls) :
    as = as' ∧ ks = ls := by
  induction as generalizing first as' with
  | nil =>
      cases as' with
      | nil => simpa [row] using h
      | cons a' as' => exact absurd h (cons_ne_row hcomma hopens first a' as' ks _)
  | cons a as ih =>
      cases as' with
      | nil => exact absurd h.symm (cons_ne_row hcomma hopens first a as ls _)
      | cons a' as' =>
          have hparts : f a ++ (row false (as.map f) ++ m :: ks) =
              f a' ++ (row false (as'.map f) ++ m :: ls) := by
            simpa [row] using h
          obtain ⟨rfl, hrest⟩ := hinj a List.mem_cons_self a' _ _ hparts
          obtain ⟨rfl, rfl⟩ := ih (fun x hx => hinj x (List.mem_cons_of_mem a hx)) hrest
          exact ⟨rfl, rfl⟩

end

namespace Value

theorem opens_tokens (v : Value) : ∃ k ls, v.tokens = k :: ls ∧ k ≠ .closeBracket := by
  cases v <;> exact ⟨_, _, rfl, by simp⟩

/-- **Values can be told by their tokens**, whatever follows these. -/
theorem tokens_append_inj {v w : Value} (h : v.tokens ++ ks = w.tokens ++ ls) :
    v = w ∧ ks = ls := by
  induction v generalizing w ks ls with
  | text s =>
      cases w with
      | text s' => simpa [tokens] using h
      | number _ | list _ | object _ => simp [tokens] at h
  | number n =>
      cases w with
      | number n' => simpa [tokens] using h
      | text _ | list _ | object _ => simp [tokens] at h
  | list items ih =>
      cases w with
      | list items' =>
          have hrow : row true (items.map tokens) ++ .closeBracket :: ks =
              row true (items'.map tokens) ++ .closeBracket :: ls := by
            simpa [tokens, itemTokens_eq] using h
          exact (row_append_inj (by simp) opens_tokens
            (fun v hv w ks ls => ih v hv) hrow).imp_left (congrArg list)
      | text _ | number _ | object _ => simp [tokens] at h
  | object fields ih =>
      cases w with
      | object fields' =>
          have hrow : row true (fields.map fun f => .text f.1 :: .colon :: f.2.tokens) ++
                .closeBrace :: ks =
              row true (fields'.map fun f => .text f.1 :: .colon :: f.2.tokens) ++
                .closeBrace :: ls := by
            simpa [tokens, fieldTokens_eq] using h
          refine (row_append_inj (by simp) (fun f => ⟨_, _, rfl, by simp⟩) ?_ hrow).imp_left
            (congrArg object)
          intro f hf f' ks ls hparts
          obtain ⟨hkey, hvalue⟩ : f.1 = f'.1 ∧ f.2.tokens ++ ks = f'.2.tokens ++ ls := by
            simpa using hparts
          obtain ⟨hv, rfl⟩ := ih f hf hvalue
          exact ⟨Prod.ext hkey hv, rfl⟩
      | text _ | number _ | list _ => simp [tokens] at h

end Value

/-! ### What texts denote -/

/-- A text denotes one value at most. -/
theorem Denotes.unique {text : String} {v w : Value} (h : Denotes text v) (h' : Denotes text w) :
    v = w := by
  have htokens : v.tokens ++ [] = w.tokens ++ [] := by rw [Consists.unique h h']
  exact (Value.tokens_append_inj htokens).1

/-- **The text without blanks denotes the value and nothing else.** -/
theorem denotes_compact_iff {v w : Value} : Denotes v.compact w ↔ w = v := by
  have hself : Denotes v.compact v := (prints_compact v).consists
  constructor
  · intro h
    exact h.unique hself
  · rintro rfl
    exact hself

end BatchRunner.Json
