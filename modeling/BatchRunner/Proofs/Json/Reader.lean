/-
**Readers accept exactly their tokens.**

What a reader accepts is said by a relation between rows of tokens and values.  Lists and objects
relate their tokens to those of their parts, so a reader that is put together from others accepts
exactly what is put together from their tokens.

Main definitions:

* `Json.Joined`, `Json.ListOf`, `Json.EntryOf`, `Json.ObjectOf` — the tokens of lists and objects;
* `Json.MemberOf` — the tokens of a member of a catalog;
* `Json.Reads` — a reading function accepts exactly the given tokens;
* `Json.row` — elements as a reader meets them, each with what has to stand in front of it.

Main results:

* `Json.reads_member`, `Json.reads_list`, `Json.reads_entries` — **the readers of members, lists and
  objects are exact**;
* `Json.decode_eq_ok_iff` — **a whole text is accepted exactly if it consists of tokens of a value**.
-/
import BatchRunner.Json.Reader
import BatchRunner.Proofs.Json.Literal
import Mathlib.Data.List.Forall2

set_option autoImplicit false

namespace BatchRunner.Json

variable {α κ : Type}

/-! ### Rows of tokens -/

/-- The tokens of values, with commas between them. -/
def Joined (G : List Token → α → Prop) (ks : List Token) (xs : List α) : Prop :=
  ∃ parts, List.Forall₂ G parts xs ∧ ks = [Token.comma].intercalate parts

def ListOf (G : List Token → α → Prop) (ks : List Token) (xs : List α) : Prop :=
  ∃ ls, Joined G ls xs ∧ ks = .openBracket :: (ls ++ [.closeBracket])

def EntryOf (G : List Token → α → Prop) (ks : List Token) (e : String × α) : Prop :=
  ∃ ls, G ls e.2 ∧ ks = .text e.1 :: .colon :: ls

def ObjectOf (G : List Token → α → Prop) (ks : List Token) (es : List (String × α)) : Prop :=
  ∃ ls, Joined (EntryOf G) ls es ∧ ks = .openBrace :: (ls ++ [.closeBrace])

/-- The tokens of a member of a catalog: its own, or an object with that as its one key and `null`
as its value. -/
def MemberOf [Catalog α] (ks : List Token) (x : α) : Prop :=
  ks = [.text (Catalog.token x)] ∨
    ks = [.openBrace, .text (Catalog.token x), .colon, .null, .closeBrace]

/-- **A reading function accepts exactly the given tokens**, blanks in front of each. -/
def Reads (read : Cursor → Except Fault (α × Cursor)) (G : List Token → α → Prop) : Prop :=
  ∀ c x r, Gives (read c) x r ↔ ∃ ks, G ks x ∧ Lexes c.rest ks r

/-- What has to stand in front of an element. -/
def lead (first : Bool) : List Token := if first then [] else [.comma]

/-- Elements as a reader meets them, each with what has to stand in front of it. -/
def row : Bool → List (List Token) → List Token
  | _, [] => []
  | first, p :: ps => lead first ++ (p ++ row false ps)

theorem row_true (parts : List (List Token)) : row true parts = [Token.comma].intercalate parts := by
  induction parts with
  | nil => rfl
  | cons p ps ih =>
      cases ps with
      | nil => simp [row, lead]
      | cons q qs =>
          rw [List.intercalate_cons_cons, ← ih]
          simp [row, lead]

variable {c : Cursor} {r s : List Char} {x : α} {first : Bool}

/-! ### Punctuation and words -/

theorem leaves_readColon_iff : Leaves (readColon c) r ↔ Lexes c.rest [.colon] r := by
  rw [lexes_mark_iff rfl]
  unfold readColon
  simp only [Cursor.next?, Cursor.rest_skipBlanks, lexes_nil_iff, exists_eq_right]
  cases h : c.rest.dropWhile isBlank with
  | nil => simp
  | cons y ys => by_cases hy : y = ':' <;> simp [hy, h]

theorem leaves_readMemberEnd_iff : Leaves (readMemberEnd c) r ↔ Lexes c.rest [.closeBrace] r := by
  rw [lexes_mark_iff rfl]
  unfold readMemberEnd
  simp only [Cursor.next?, Cursor.rest_skipBlanks, lexes_nil_iff, exists_eq_right]
  cases h : c.rest.dropWhile isBlank with
  | nil => simp
  | cons y ys => by_cases hy : y = '\x7d' <;> simp [hy, h]

theorem leaves_readWord_iff {w : List Char} : Leaves (readWord w c) r ↔ c.rest = w ++ r := by
  induction w generalizing c with
  | nil => simp [readWord]
  | cons x w ih =>
      unfold readWord
      simp only [Cursor.next?]
      cases h : c.rest with
      | nil => simp
      | cons y ys =>
          by_cases hy : x = y
          · simp [hy, ih, h]
          · simp [hy, Ne.symm hy]

theorem lexes_null_iff {ks : List Token} :
    Lexes s (.null :: ks) r ↔
      ∃ s', s.dropWhile isBlank = ['n', 'u', 'l', 'l'] ++ s' ∧ Lexes s' ks r := by
  rw [lexes_cons_iff]
  constructor
  · rintro ⟨u, s', hs, spelled, -, tail⟩
    cases spelled with
    | mark isMark => exact absurd isMark (by simp [Token.mark?])
    | null => exact ⟨s', hs, tail⟩
  · rintro ⟨s', hs, tail⟩
    exact ⟨_, s', hs, .null, trivial, tail⟩

theorem lexes_text_iff {t : String} {ks : List Token} :
    Lexes s (.text t :: ks) r ↔
      ∃ body s', s.dropWhile isBlank = '"' :: (body ++ '"' :: s') ∧ Spells body t.toList ∧
        Lexes s' ks r := by
  rw [lexes_cons_iff]
  constructor
  · rintro ⟨u, s', hs, spelled, -, tail⟩
    cases spelled with
    | mark isMark => exact absurd isMark (by simp [Token.mark?])
    | text spells => exact ⟨_, s', by rw [hs]; simp, spells, tail⟩
  · rintro ⟨body, s', hs, spells, tail⟩
    exact ⟨_, s', by rw [hs]; simp, .text spells, trivial, tail⟩

theorem leaves_readNull_iff : Leaves (readNull c) r ↔ Lexes c.rest [.null] r := by
  rw [lexes_null_iff]
  unfold readNull
  simp only [Cursor.next?, Cursor.rest_skipBlanks, lexes_nil_iff, exists_eq_right]
  cases h : c.rest.dropWhile isBlank with
  | nil => simp
  | cons y ys => by_cases hy : y = 'n' <;> simp [hy, h, leaves_readWord_iff]

/-! ### Members of a catalog -/

section Members

variable [Catalog α] [LawfulCatalog α]

theorem gives_readName_iff :
    Gives (readName α c) x r ↔
      ∃ body, c.rest = body ++ '"' :: r ∧ Spells body (Catalog.token x).toList := by
  rw [← gives_readText_iff]
  unfold readName
  constructor
  · intro h
    split at h
    · exact absurd h not_gives_error
    · next cs c' hread =>
        split at h
        · next x' hx' =>
            obtain ⟨rfl, rfl⟩ := gives_ok_iff.1 h
            rw [Catalog.ofName?_eq_ofToken?] at hx'
            rw [Catalog.ofToken?_eq_some_iff.1 hx', String.toList_ofList]
            exact Gives.of_eq hread
        · exact absurd h not_gives_failHere
  · intro h
    obtain ⟨c', hread, rfl⟩ := h.exists_eq
    simp [hread, Catalog.ofName?_eq_ofToken?]

/-- A member as a key: its token in front of whose quote the reader stands. -/
theorem gives_memberKey_iff (hs : c.rest = '"' :: s) :
    Gives ((memberKey α).run c) x r ↔ Lexes c.rest [.text (Catalog.token x)] r := by
  have hblank : ('"' :: s).dropWhile isBlank = '"' :: s := List.dropWhile_cons_of_neg (by decide)
  rw [lexes_text_iff, hs, hblank]
  unfold memberKey
  simp only [Cursor.next?, hs, List.head?_cons, gives_readName_iff, Cursor.rest_skip,
    List.tail_cons, lexes_nil_iff, List.cons.injEq, true_and]
  constructor
  · rintro ⟨body, hbody, spells⟩
    exact ⟨body, r, hbody, spells, rfl⟩
  · rintro ⟨body, s', hbody, spells, rfl⟩
    exact ⟨body, hbody, spells⟩

theorem gives_readTagged_iff :
    Gives (readTagged α c) x r ↔
      Lexes c.rest [.text (Catalog.token x), .colon, .null, .closeBrace] r := by
  constructor
  · intro h
    unfold readTagged at h
    simp only [Cursor.next?, Cursor.rest_skipBlanks] at h
    split at h
    · exact absurd h not_gives_failAhead
    · exact absurd h not_gives_failAhead
    · next hquote =>
        obtain ⟨s, hs⟩ := List.head?_eq_some_iff.1 hquote
        split at h
        · exact absurd h not_gives_error
        · next x' c₁ h₁ =>
            split at h
            · exact absurd h not_gives_error
            · next c₂ h₂ =>
                split at h
                · exact absurd h not_gives_error
                · next c₃ h₃ =>
                    split at h
                    · exact absurd h not_gives_error
                    · next c₄ h₄ =>
                        obtain ⟨rfl, rfl⟩ := gives_ok_iff.1 h
                        obtain ⟨body, hbody, spells⟩ := gives_readName_iff.1 (Gives.of_eq h₁)
                        have hcolon := leaves_readColon_iff.1 (Leaves.of_eq h₂)
                        have hnull := leaves_readNull_iff.1 (Leaves.of_eq h₃)
                        have hend := leaves_readMemberEnd_iff.1 (Leaves.of_eq h₄)
                        rw [Cursor.rest_skip, Cursor.rest_skipBlanks, hs, List.tail_cons] at hbody
                        refine lexes_text_iff.2 ⟨body, c₁.rest, by rw [hs, hbody], spells, ?_⟩
                        have htail := lexes_append_iff.2 ⟨_, hnull, hend⟩
                        exact lexes_append_iff.2 ⟨_, hcolon, htail⟩
    · exact absurd h not_gives_failAhead
  · intro h
    obtain ⟨body, s₁, hs, spells, h⟩ := lexes_text_iff.1 h
    obtain ⟨s₂, hcolon, h⟩ := lexes_first_iff.1 h
    obtain ⟨s₃, hnull, hend⟩ := lexes_first_iff.1 h
    obtain ⟨c₁, h₁, rfl⟩ := (gives_readName_iff (c := c.skipBlanks.skip) (r := s₁).2
      ⟨body, by simp [hs], spells⟩).exists_eq
    obtain ⟨c₂, h₂, rfl⟩ := (leaves_readColon_iff.2 hcolon).exists_eq
    obtain ⟨c₃, h₃, rfl⟩ := (leaves_readNull_iff.2 hnull).exists_eq
    obtain ⟨c₄, h₄, rfl⟩ := (leaves_readMemberEnd_iff.2 hend).exists_eq
    unfold readTagged
    simp [Cursor.next?, hs, h₁, h₂, h₃, h₄]

/-- **Members of a catalog are read from exactly their tokens.** -/
theorem reads_member : Reads (member α).run MemberOf := by
  intro c x r
  have hforms : (∃ ks, MemberOf ks x ∧ Lexes c.rest ks r) ↔
      Lexes c.rest [.text (Catalog.token x)] r ∨
        Lexes c.rest [.openBrace, .text (Catalog.token x), .colon, .null, .closeBrace] r := by
    simp [MemberOf, or_and_right, exists_or]
  rw [hforms, lexes_text_iff, lexes_mark_iff rfl]
  unfold member
  simp only [Cursor.next?, Cursor.rest_skipBlanks, lexes_nil_iff]
  cases hs : c.rest.dropWhile isBlank with
  | nil => simp
  | cons y ys =>
      by_cases hquote : y = '"'
      · subst hquote
        simp [gives_readName_iff, hs]
      · by_cases hbrace : y = '\x7b'
        · subst hbrace
          simp [gives_readTagged_iff, hs]
        · simp [hquote, hbrace]

end Members

/-! ### Lists -/

theorem gives_nextElement_end_iff :
    Gives (nextElement first c) false r ↔
      ∃ s, c.rest.dropWhile isBlank = ']' :: s ∧ r = ']' :: s := by
  constructor
  · intro h
    unfold nextElement at h
    simp only [Cursor.next?, Cursor.rest_skipBlanks] at h
    split at h
    · exact absurd h not_gives_failAhead
    · next hhead =>
        obtain ⟨s, hs⟩ := List.head?_eq_some_iff.1 hhead
        obtain ⟨-, rfl⟩ := gives_ok_iff.1 h
        exact ⟨s, hs, by simp [hs]⟩
    · split at h
      · exact absurd (gives_ok_iff.1 h).1 (by simp)
      · split at h
        · split at h
          · exact absurd h not_gives_failAhead
          · exact absurd h not_gives_failAhead
          · exact absurd (gives_ok_iff.1 h).1 (by simp)
        · exact absurd h not_gives_failAhead
  · rintro ⟨s, hs, rfl⟩
    simp [nextElement, Cursor.next?, hs]

theorem gives_nextElement_more_iff :
    Gives (nextElement first c) true r ↔
      ∃ s, Lexes c.rest (lead first) s ∧ r = s.dropWhile isBlank ∧
        ∃ y t, r = y :: t ∧ y ≠ ']' := by
  constructor
  · intro h
    unfold nextElement at h
    simp only [Cursor.next?, Cursor.rest_skipBlanks, Cursor.rest_skip] at h
    split at h
    · exact absurd h not_gives_failAhead
    · exact absurd (gives_ok_iff.1 h).1 (by simp)
    · next y hy hhead =>
        obtain ⟨s, hs⟩ := List.head?_eq_some_iff.1 hhead
        split at h
        · next hfirst =>
            obtain ⟨-, rfl⟩ := gives_ok_iff.1 h
            refine ⟨c.rest, by simp [lead, hfirst], by simp, y, s, by simp [hs], hy⟩
        · next hfirst =>
            split at h
            · next hcomma =>
                subst hcomma
                have hlead : Lexes c.rest (lead first) s := by
                  rw [lead, if_neg hfirst, lexes_mark_iff rfl]
                  exact ⟨s, hs, .nil s⟩
                split at h
                · exact absurd h not_gives_failAhead
                · exact absurd h not_gives_failAhead
                · next z hz hhead' =>
                    obtain ⟨t, ht⟩ := List.head?_eq_some_iff.1 hhead'
                    obtain ⟨-, rfl⟩ := gives_ok_iff.1 h
                    rw [hs, List.tail_cons] at ht
                    exact ⟨s, hlead, by simp [hs], z, t, by simp [hs, ht], hz⟩
            · exact absurd h not_gives_failAhead
  · rintro ⟨s, hlead, rfl, y, t, hs, hy⟩
    cases first with
    | true =>
        obtain rfl := lexes_nil_iff.1 hlead
        simp [nextElement, Cursor.next?, hs]
    | false =>
        obtain ⟨s', hs', hnil⟩ := (lexes_mark_iff rfl).1 hlead
        obtain rfl := lexes_nil_iff.1 hnil
        simp [nextElement, Cursor.next?, hs', hs]

section Lists

variable {G : List Token → α → Prop} {item : Reader α}

/-- The tokens of an element cannot be taken for the end of the list. -/
def Opens (G : List Token → α → Prop) : Prop :=
  ∀ ks x, G ks x → ∃ k ls, ks = k :: ls ∧ k ≠ .closeBracket

/-- Elements are read from exactly their tokens, from behind the opening bracket or a comma to behind
the closing bracket. -/
theorem gives_readElements_iff (hitem : Reads item.run G) (hopens : Opens G) {xs : List α} :
    Gives (readElements item first c) xs r ↔
      ∃ parts, List.Forall₂ G parts xs ∧ Lexes c.rest (row first parts ++ [.closeBracket]) r := by
  constructor
  · intro h
    fun_induction readElements item first c generalizing xs with
    | case1 => exact absurd h not_gives_error
    | case2 first c c₁ hn =>
        obtain ⟨rfl, rfl⟩ := gives_ok_iff.1 h
        obtain ⟨s, hs, hc₁⟩ := gives_nextElement_end_iff.1 (Gives.of_eq hn)
        exact ⟨[], .nil, (lexes_mark_iff rfl).2 ⟨s, hs, by simp [hc₁]⟩⟩
    | case3 => exact absurd h not_gives_error
    | case4 => exact absurd h not_gives_error
    | case5 first c c₁ hn x c₂ hi ys c₃ hr ih =>
        obtain ⟨rfl, rfl⟩ := gives_ok_iff.1 h
        obtain ⟨parts, hparts, htail⟩ := ih (Gives.of_eq hr)
        obtain ⟨s, hlead, hc₁, -⟩ := gives_nextElement_more_iff.1 (Gives.of_eq hn)
        obtain ⟨ks, hx, hks⟩ := (hitem c₁ x c₂.rest).1 (Gives.of_eq hi)
        obtain ⟨k, ls, rfl, -⟩ := hopens ks x hx
        rw [hc₁, lexes_dropWhile_iff] at hks
        refine ⟨(k :: ls) :: parts, .cons hx hparts, ?_⟩
        rw [row, List.append_assoc, List.append_assoc]
        exact lexes_append_iff.2 ⟨s, hlead, lexes_append_iff.2 ⟨c₂.rest, hks, htail⟩⟩
  · rintro ⟨parts, hparts, h⟩
    induction hparts generalizing first c with
    | nil =>
        obtain ⟨s, hs, hnil⟩ := (lexes_mark_iff rfl).1 h
        obtain rfl := lexes_nil_iff.1 hnil
        have hend : Gives (nextElement first c) false (']' :: s) :=
          gives_nextElement_end_iff.2 ⟨s, hs, rfl⟩
        obtain ⟨c₁, hn, hc₁⟩ := hend.exists_eq
        rw [readElements]
        split <;> simp_all
    | @cons ks x parts xs hx hparts ih =>
        rw [row, List.append_assoc, List.append_assoc] at h
        obtain ⟨s, hlead, h⟩ := lexes_append_iff.1 h
        obtain ⟨q, hks, htail⟩ := lexes_append_iff.1 h
        obtain ⟨k, ls, rfl, hk⟩ := hopens ks x hx
        obtain ⟨y, t, hs, hy⟩ := hks.head_ne_mark (m := .closeBracket) rfl hk
        obtain ⟨c₁, hn, hc₁⟩ := (gives_nextElement_more_iff.2
          ⟨s, hlead, rfl, y, t, hs, hy⟩).exists_eq
        rw [← lexes_dropWhile_iff, ← hc₁] at hks
        obtain ⟨c₂, hi, rfl⟩ := ((hitem c₁ x q).2 ⟨k :: ls, hx, hks⟩).exists_eq
        obtain ⟨c₃, hr, hc₃⟩ := (ih htail).exists_eq
        rw [readElements_of_more hn hi hr]
        exact gives_ok_iff.2 ⟨rfl, hc₃⟩

/-- **Lists are read from exactly their tokens.** -/
theorem reads_list (hitem : Reads item.run G) (hopens : Opens G) (wanted : String) :
    Reads (item.list wanted).run (ListOf G) := by
  intro c xs r
  have hrow : (∃ ks, ListOf G ks xs ∧ Lexes c.rest ks r) ↔
      ∃ s, c.rest.dropWhile isBlank = '[' :: s ∧ ∃ parts, List.Forall₂ G parts xs ∧
        Lexes s (row true parts ++ [.closeBracket]) r := by
    constructor
    · rintro ⟨_, ⟨_, ⟨parts, hparts, rfl⟩, rfl⟩, h⟩
      obtain ⟨s, hs, h⟩ := (lexes_mark_iff rfl).1 h
      exact ⟨s, hs, parts, hparts, by rwa [row_true]⟩
    · rintro ⟨s, hs, parts, hparts, h⟩
      rw [row_true] at h
      exact ⟨_, ⟨_, ⟨parts, hparts, rfl⟩, rfl⟩, (lexes_mark_iff rfl).2 ⟨s, hs, h⟩⟩
  rw [hrow]
  unfold Reader.list
  simp only [Cursor.next?, Cursor.rest_skipBlanks]
  cases hs : c.rest.dropWhile isBlank with
  | nil => simp
  | cons y ys =>
      by_cases hy : y = '['
      · subst hy
        simp [gives_readElements_iff hitem hopens, hs]
      · simp [hy]

end Lists

/-! ### Objects -/

theorem gives_nextKey_end_iff :
    Gives (nextKey first c) false r ↔
      ∃ s, c.rest.dropWhile isBlank = '\x7d' :: s ∧ r = '\x7d' :: s := by
  constructor
  · intro h
    unfold nextKey at h
    simp only [Cursor.next?, Cursor.rest_skipBlanks] at h
    split at h
    · exact absurd h not_gives_failAhead
    · next hhead =>
        obtain ⟨s, hs⟩ := List.head?_eq_some_iff.1 hhead
        obtain ⟨-, rfl⟩ := gives_ok_iff.1 h
        exact ⟨s, hs, by simp [hs]⟩
    · split at h
      · split at h
        · exact absurd (gives_ok_iff.1 h).1 (by simp)
        · exact absurd h not_gives_failAhead
      · split at h
        · split at h
          · exact absurd h not_gives_failAhead
          · exact absurd (gives_ok_iff.1 h).1 (by simp)
          · exact absurd h not_gives_failAhead
          · exact absurd h not_gives_failAhead
        · exact absurd h not_gives_failAhead
  · rintro ⟨s, hs, rfl⟩
    simp [nextKey, Cursor.next?, hs]

theorem gives_nextKey_more_iff :
    Gives (nextKey first c) true r ↔
      ∃ s, Lexes c.rest (lead first) s ∧ r = s.dropWhile isBlank ∧ ∃ t, r = '"' :: t := by
  constructor
  · intro h
    unfold nextKey at h
    simp only [Cursor.next?, Cursor.rest_skipBlanks, Cursor.rest_skip] at h
    split at h
    · exact absurd h not_gives_failAhead
    · exact absurd (gives_ok_iff.1 h).1 (by simp)
    · next y hy hhead =>
        obtain ⟨s, hs⟩ := List.head?_eq_some_iff.1 hhead
        split at h
        · next hfirst =>
            split at h
            · next hquote =>
                obtain ⟨-, rfl⟩ := gives_ok_iff.1 h
                exact ⟨c.rest, by simp [lead, hfirst], by simp, s, by simp [hs, hquote]⟩
            · exact absurd h not_gives_failAhead
        · next hfirst =>
            split at h
            · next hcomma =>
                subst hcomma
                have hlead : Lexes c.rest (lead first) s := by
                  rw [lead, if_neg hfirst, lexes_mark_iff rfl]
                  exact ⟨s, hs, .nil s⟩
                split at h
                · exact absurd h not_gives_failAhead
                · next hquote =>
                    obtain ⟨t, ht⟩ := List.head?_eq_some_iff.1 hquote
                    obtain ⟨-, rfl⟩ := gives_ok_iff.1 h
                    rw [hs, List.tail_cons] at ht
                    exact ⟨s, hlead, by simp [hs], t, by simp [hs, ht]⟩
                · exact absurd h not_gives_failAhead
                · exact absurd h not_gives_failAhead
            · exact absurd h not_gives_failAhead
  · rintro ⟨s, hlead, rfl, t, hs⟩
    cases first with
    | true =>
        obtain rfl := lexes_nil_iff.1 hlead
        simp [nextKey, Cursor.next?, hs]
    | false =>
        obtain ⟨s', hs', hnil⟩ := (lexes_mark_iff rfl).1 hlead
        obtain rfl := lexes_nil_iff.1 hnil
        simp [nextKey, Cursor.next?, hs', hs]

section Objects

variable {G : List Token → α → Prop} {key : Reader κ} {item : Reader α} {name : κ → String}

/-- A reader accepts exactly the names of keys, in front of whose quote it stands. -/
def ReadsKey (key : Reader κ) (name : κ → String) : Prop :=
  ∀ c k r s, c.rest = '"' :: s → (Gives (key.run c) k r ↔ Lexes c.rest [.text (name k)] r)

def named (name : κ → String) (e : κ × α) : String × α := (name e.1, e.2)

/-- Entries are read from exactly their tokens, from behind the opening brace or a comma to behind the
closing brace. -/
theorem gives_readEntries_iff (hkey : ReadsKey key name) (hitem : Reads item.run G)
    {es : List (κ × α)} :
    Gives (readEntries key item first c) es r ↔
      ∃ parts, List.Forall₂ (EntryOf G) parts (es.map (named name)) ∧
        Lexes c.rest (row first parts ++ [.closeBrace]) r := by
  constructor
  · intro h
    -- only two of the cases give anything: the closing brace, and one more entry
    fun_induction readEntries key item first c generalizing es with
    | case1 => exact absurd h not_gives_error
    | case2 first c c₁ hn =>
        obtain ⟨rfl, rfl⟩ := gives_ok_iff.1 h
        obtain ⟨s, hs, hc₁⟩ := gives_nextKey_end_iff.1 (Gives.of_eq hn)
        exact ⟨[], .nil, (lexes_mark_iff rfl).2 ⟨s, hs, by simp [hc₁]⟩⟩
    | case3 => exact absurd h not_gives_error
    | case4 => exact absurd h not_gives_error
    | case5 => exact absurd h not_gives_error
    | case6 => exact absurd h not_gives_error
    | case7 first c c₁ hn k c₂ hk c₃ hc x c₄ hi ys c₅ hr ih =>
        obtain ⟨rfl, rfl⟩ := gives_ok_iff.1 h
        obtain ⟨parts, hparts, htail⟩ := ih (Gives.of_eq hr)
        obtain ⟨s, hlead, hc₁, t, ht⟩ := gives_nextKey_more_iff.1 (Gives.of_eq hn)
        have hname := (hkey c₁ k c₂.rest t ht).1 (Gives.of_eq hk)
        have hcolon := leaves_readColon_iff.1 (Leaves.of_eq hc)
        obtain ⟨ks, hx, hks⟩ := (hitem c₃ x c₄.rest).1 (Gives.of_eq hi)
        rw [hc₁, lexes_dropWhile_iff] at hname
        refine ⟨(.text (name k) :: .colon :: ks) :: parts, .cons ⟨ks, hx, rfl⟩ hparts, ?_⟩
        rw [row, List.append_assoc, List.append_assoc]
        have hentry : Lexes s (.text (name k) :: .colon :: ks) c₄.rest :=
          lexes_append_iff.2 ⟨c₂.rest, hname, lexes_append_iff.2 ⟨c₃.rest, hcolon, hks⟩⟩
        exact lexes_append_iff.2 ⟨s, hlead, lexes_append_iff.2 ⟨c₄.rest, hentry, htail⟩⟩
  · rintro ⟨parts, hparts, h⟩
    induction es generalizing first c parts with
    | nil =>
        obtain rfl := List.forall₂_nil_right_iff.1 hparts
        obtain ⟨s, hs, hnil⟩ := (lexes_mark_iff rfl).1 h
        obtain rfl := lexes_nil_iff.1 hnil
        have hend : Gives (nextKey first c) false ('\x7d' :: s) :=
          gives_nextKey_end_iff.2 ⟨s, hs, rfl⟩
        obtain ⟨c₁, hn, hc₁⟩ := hend.exists_eq
        rw [readEntries]
        split <;> simp_all
    | cons e es ih =>
        obtain ⟨k, x⟩ := e
        obtain ⟨_, parts, ⟨ks, hx, rfl⟩, hrest, rfl⟩ := List.forall₂_cons_right_iff.1 hparts
        rw [row, List.append_assoc, List.append_assoc] at h
        obtain ⟨s, hlead, h⟩ := lexes_append_iff.1 h
        obtain ⟨q, hentry, htail⟩ := lexes_append_iff.1 h
        obtain ⟨q₁, hname, hentry⟩ := lexes_first_iff.1 hentry
        obtain ⟨q₂, hcolon, hks⟩ := lexes_first_iff.1 hentry
        obtain ⟨body, s', hs, -, -⟩ := lexes_text_iff.1 hname
        obtain ⟨c₁, hn, hc₁⟩ := (gives_nextKey_more_iff.2 ⟨s, hlead, rfl, _, hs⟩).exists_eq
        rw [← lexes_dropWhile_iff, ← hc₁] at hname
        obtain ⟨c₂, hk, rfl⟩ := ((hkey c₁ k q₁ _ (hc₁.trans hs)).2 hname).exists_eq
        obtain ⟨c₃, hc, rfl⟩ := (leaves_readColon_iff.2 hcolon).exists_eq
        obtain ⟨c₄, hi, rfl⟩ := ((hitem c₃ x q).2 ⟨ks, hx, hks⟩).exists_eq
        obtain ⟨c₅, hr, hc₅⟩ := (ih parts hrest htail).exists_eq
        rw [readEntries_of_more hn hk hc hi hr]
        exact gives_ok_iff.2 ⟨rfl, hc₅⟩

/-- The tokens of an object as a reader meets them. -/
theorem objectOf_lexes_iff {es : List (String × α)} :
    (∃ ks, ObjectOf G ks es ∧ Lexes s ks r) ↔
      ∃ t, s.dropWhile isBlank = '\x7b' :: t ∧ ∃ parts, List.Forall₂ (EntryOf G) parts es ∧
        Lexes t (row true parts ++ [.closeBrace]) r := by
  constructor
  · rintro ⟨_, ⟨_, ⟨parts, hparts, rfl⟩, rfl⟩, h⟩
    obtain ⟨t, ht, h⟩ := (lexes_mark_iff rfl).1 h
    exact ⟨t, ht, parts, hparts, by rwa [row_true]⟩
  · rintro ⟨t, ht, parts, hparts, h⟩
    rw [row_true] at h
    exact ⟨_, ⟨_, ⟨parts, hparts, rfl⟩, rfl⟩, (lexes_mark_iff rfl).2 ⟨t, ht, h⟩⟩

/-- **Objects are read from exactly their tokens.** -/
theorem reads_entries (hkey : ReadsKey key name) (hitem : Reads item.run G) (wanted : String) :
    Reads (key.entries item wanted).run fun ks es => ObjectOf G ks (es.map (named name)) := by
  intro c es r
  rw [objectOf_lexes_iff]
  unfold Reader.entries
  simp only [Cursor.next?, Cursor.rest_skipBlanks]
  cases hs : c.rest.dropWhile isBlank with
  | nil => simp
  | cons y ys =>
      by_cases hy : y = '\x7b'
      · subst hy
        simp [gives_readEntries_iff hkey hitem, hs]
      · simp [hy]

end Objects

/-! ### Whole texts -/

theorem readEnd_eq_ok_iff : readEnd c = .ok () ↔ ∀ y ∈ c.rest, isBlank y = true := by
  unfold readEnd
  simp only [Cursor.rest_skipBlanks]
  constructor
  · intro h
    split at h
    · next hnil => exact List.dropWhile_eq_nil_iff.1 hnil
    · exact absurd h (by simp [Cursor.failAhead])
  · intro h
    rw [if_pos (List.dropWhile_eq_nil_iff.2 h)]

/-- **A whole text is accepted exactly if it consists of the tokens of a value.** -/
theorem decode_eq_ok_iff {read : Cursor → Except Fault (α × Cursor)}
    {G : List Token → α → Prop} (hread : Reads read G) {text : String} :
    decode read text = .ok x ↔ ∃ ks, G ks x ∧ Consists text ks := by
  constructor
  · intro h
    unfold decode at h
    split at h
    · exact absurd h (by simp)
    · next y c hy =>
        split at h
        · exact absurd h (by simp)
        · next hend =>
            obtain rfl := Except.ok.inj h
            obtain ⟨ks, hks, hlex⟩ := (hread _ y c.rest).1 (Gives.of_eq hy)
            exact ⟨ks, hks, c.rest, hlex, readEnd_eq_ok_iff.1 hend⟩
  · rintro ⟨ks, hks, r, hlex, hblank⟩
    obtain ⟨c, hx, rfl⟩ := ((hread (Cursor.ofText text) x r).2 ⟨ks, hks, hlex⟩).exists_eq
    unfold decode
    rw [hx]
    simp only [readEnd_eq_ok_iff.2 hblank]

end BatchRunner.Json
