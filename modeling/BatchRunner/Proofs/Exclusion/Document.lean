/-
**Which texts are exclusion documents.**

A document is an object with the fields `default` and `empty`, in either order, or a list of the two
tables.  A table is an object whose keys are variants and whose values are lists of programs.  The
reader accepts the texts that consist of such tokens, and no others; what it gives are the entries
in the order in which they are written.

Main definitions:

* `Exclusion.TableTokens`, `Exclusion.DocumentTokens` — the tokens of tables and documents;
* `Exclusion.Fields.Fill` — keys and tables, one after the other, make up a document;
* `Exclusion.Document.written` — a text of a document.

Main results:

* `Exclusion.gives_readFields_iff`, `Exclusion.gives_readPair_iff` — the two forms of a document;
* `Exclusion.Document.parse_written` — every document can be read from its text;
* `Exclusion.parse_exact` — **a text is read as a document exactly if it consists of the tokens of
  one, and is refused as malformed otherwise**.
-/
import BatchRunner.Exclusion.Table
import BatchRunner.Proofs.Json.Value
import BatchRunner.Proofs.Result

set_option autoImplicit false

namespace BatchRunner.Exclusion

open BatchRunner.Json

/-- The tokens of a table: an object from variants to lists of programs. -/
def TableTokens (ks : List Token) (raw : RawTable) : Prop :=
  ObjectOf (ListOf MemberOf) ks (raw.map (named Variant.token))

/-- The tokens of a document: an object with two fields in either order, or a list of two tables. -/
def DocumentTokens (ks : List Token) (d : Document) : Prop :=
  ObjectOf TableTokens ks [("default", d.default), ("empty", d.empty)] ∨
    ObjectOf TableTokens ks [("empty", d.empty), ("default", d.default)] ∨
    ListOf TableTokens ks [d.default, d.empty]

variable {c : Cursor} {r : List Char} {d : Document} {s : Fields} {es : List (String × RawTable)}
  {first : Bool}

/-! ### Tables -/

theorem opens_member : Opens (MemberOf (α := Program)) := by
  rintro ks p (rfl | rfl)
  · exact ⟨_, _, rfl, by simp⟩
  · exact ⟨_, _, rfl, by simp⟩

theorem readsKey_variant : ReadsKey (memberKey Variant) Variant.token := by
  intro c v r s hs
  exact gives_memberKey_iff hs

/-- Tables are read from exactly their tokens. -/
theorem reads_rawTable : Reads rawTable.run TableTokens :=
  reads_entries readsKey_variant (reads_list reads_member opens_member _) _

theorem opens_table : Opens TableTokens := by
  rintro ks raw ⟨ls, -, rfl⟩
  exact ⟨_, _, rfl, by simp⟩

/-! ### Documents in the form of an object -/

/-- Keys and tables, one after the other, make up a document: every key is that of a field which is
still missing, and in the end none is. -/
inductive Fields.Fill : Fields → List (String × RawTable) → Document → Prop where
  | done {s : Fields} {d : Document} (complete : s.complete = .ok d) : Fill s [] d
  | more {s : Fields} {d : Document} {key : String} {f : Field} {t : RawTable}
      {es : List (String × RawTable)} (select : s.select key = .ok f)
      (tail : Fill (s.set f t) es d) : Fill s ((key, t) :: es) d

/-- The fields of a document are read from exactly their tokens. -/
theorem gives_readFields_iff :
    Gives (readFields s first c) d r ↔
      ∃ es parts, s.Fill es d ∧ List.Forall₂ (EntryOf TableTokens) parts es ∧
        Lexes c.rest (row first parts ++ [.closeBrace]) r := by
  constructor
  · intro h
    -- along the reading: it either fails, or ends at the brace, or goes on behind one more field
    fun_induction readFields s first c with
    | case1 => exact absurd h not_gives_error
    | case2 => exact absurd h not_gives_failHere
    | case3 s first c c₁ hn d' hcomplete =>
        obtain ⟨rfl, rfl⟩ := gives_ok_iff.1 h
        obtain ⟨t, ht, hc₁⟩ := gives_nextKey_end_iff.1 (Gives.of_eq hn)
        exact ⟨[], [], .done hcomplete, .nil, (lexes_mark_iff rfl).2 ⟨t, ht, by simp [hc₁]⟩⟩
    | case4 => exact absurd h not_gives_error
    | case5 => exact absurd h not_gives_failHere
    | case6 => exact absurd h not_gives_error
    | case7 => exact absurd h not_gives_error
    | case8 s first c c₁ hn xs c₂ hk field hselect c₃ hc t c₄ hi ih =>
        obtain ⟨es, parts, hfill, hparts, htail⟩ := ih h
        obtain ⟨q, hlead, hc₁, u, hu⟩ := gives_nextKey_more_iff.1 (Gives.of_eq hn)
        obtain ⟨body, hbody, spells⟩ := gives_readText_iff.1 (Gives.of_eq hk)
        have hcolon := leaves_readColon_iff.1 (Leaves.of_eq hc)
        obtain ⟨ks, ht, hks⟩ := (reads_rawTable c₃ t c₄.rest).1 (Gives.of_eq hi)
        have hname : Lexes q [.text (String.ofList xs)] c₂.rest := by
          rw [lexes_text_iff, ← hc₁, hu]
          rw [Cursor.rest_skip, hu, List.tail_cons] at hbody
          exact ⟨body, c₂.rest, by rw [hbody], by rwa [String.toList_ofList], .nil _⟩
        have hentry : Lexes q (.text (String.ofList xs) :: .colon :: ks) c₄.rest :=
          lexes_append_iff.2 ⟨c₂.rest, hname, lexes_append_iff.2 ⟨c₃.rest, hcolon, hks⟩⟩
        refine ⟨_, _, .more hselect hfill, .cons ⟨ks, ht, rfl⟩ hparts, ?_⟩
        rw [row, List.append_assoc, List.append_assoc]
        exact lexes_append_iff.2 ⟨q, hlead, lexes_append_iff.2 ⟨c₄.rest, hentry, htail⟩⟩
  · rintro ⟨es, parts, hfill, hparts, h⟩
    -- along the fields that the tokens are to fill, since the cursor moves with them
    induction hfill generalizing first c parts with
    | done hcomplete =>
        obtain rfl := List.forall₂_nil_right_iff.1 hparts
        obtain ⟨t, ht, hnil⟩ := (lexes_mark_iff rfl).1 h
        obtain rfl := lexes_nil_iff.1 hnil
        have hend : Gives (nextKey first c) false ('\x7d' :: t) :=
          gives_nextKey_end_iff.2 ⟨t, ht, rfl⟩
        obtain ⟨c₁, hn, hc₁⟩ := hend.exists_eq
        rw [readFields, hn]
        simp [hcomplete, hc₁]
    | @more s d key f t es hselect _ ih =>
        obtain ⟨_, parts, ⟨ks, ht, rfl⟩, hrest, rfl⟩ := List.forall₂_cons_right_iff.1 hparts
        rw [row, List.append_assoc, List.append_assoc] at h
        obtain ⟨q, hlead, h⟩ := lexes_append_iff.1 h
        obtain ⟨q₃, hentry, htail⟩ := lexes_append_iff.1 h
        obtain ⟨body, q₁, hq, spells, hentry⟩ := lexes_text_iff.1 hentry
        obtain ⟨q₂, hcolon, hks⟩ := lexes_first_iff.1 hentry
        obtain ⟨c₁, hn, hc₁⟩ := (gives_nextKey_more_iff.2 ⟨q, hlead, rfl, _, hq⟩).exists_eq
        obtain ⟨c₂, hk, rfl⟩ := (gives_readText_iff (c := c₁.skip).2
          ⟨body, by rw [Cursor.rest_skip, hc₁, hq, List.tail_cons], spells⟩).exists_eq
        obtain ⟨c₃, hc, rfl⟩ := (leaves_readColon_iff.2 hcolon).exists_eq
        obtain ⟨c₄, hi, rfl⟩ := ((reads_rawTable c₃ t q₃).2 ⟨ks, ht, hks⟩).exists_eq
        have hread := ih parts hrest htail
        rw [← String.ofList_toList (s := key)] at hselect
        rw [readFields, hn]
        simp only [hk]
        split
        · next hcause => exact absurd (hcause.symm.trans hselect) (by simp)
        · next hfield =>
            obtain rfl := Except.ok.inj (hfield.symm.trans hselect)
            simpa only [hc, hi] using hread

theorem select_eq_ok_iff {key : String} {f : Field} :
    s.select key = .ok f ↔
      (f = .default ∧ key = "default" ∧ s.default = none) ∨
        (f = .empty ∧ key = "empty" ∧ s.empty = none) := by
  unfold Fields.select
  by_cases hdefault : key = "default"
  · cases f <;> cases s.default <;> simp [hdefault]
  · by_cases hempty : key = "empty"
    · cases f <;> cases s.empty <;> simp [hempty]
    · simp [hdefault, hempty]

theorem complete_eq_ok_iff :
    s.complete = .ok d ↔ s.default = some d.default ∧ s.empty = some d.empty := by
  obtain ⟨default?, empty?⟩ := s
  obtain ⟨default, empty⟩ := d
  cases default? <;> cases empty? <;> simp [Fields.complete]

/-- Once both fields are there, nothing can follow. -/
theorem fill_complete_iff {default empty : RawTable} :
    Fields.Fill ⟨some default, some empty⟩ es d ↔ es = [] ∧ d = ⟨default, empty⟩ := by
  constructor
  · intro h
    cases h with
    | done hcomplete =>
        obtain ⟨hd, he⟩ := complete_eq_ok_iff.1 hcomplete
        obtain rfl := Option.some.inj hd
        obtain rfl := Option.some.inj he
        exact ⟨rfl, rfl⟩
    | more hselect _ => exact absurd (select_eq_ok_iff.1 hselect) (by simp)
  · rintro ⟨rfl, rfl⟩
    exact .done rfl

/-- **The fields of a document come once each, in either order.** -/
theorem fill_iff :
    Fields.Fill ⟨none, none⟩ es d ↔
      es = [("default", d.default), ("empty", d.empty)] ∨
        es = [("empty", d.empty), ("default", d.default)] := by
  constructor
  · intro h
    cases h with
    | done hcomplete => exact absurd (complete_eq_ok_iff.1 hcomplete).1 (by simp)
    | more hfirst h =>
        rcases select_eq_ok_iff.1 hfirst with ⟨rfl, rfl, -⟩ | ⟨rfl, rfl, -⟩
        · cases h with
          | done hcomplete => exact absurd (complete_eq_ok_iff.1 hcomplete).2 (by simp [Fields.set])
          | more hsecond h =>
              rcases select_eq_ok_iff.1 hsecond with ⟨-, -, hnone⟩ | ⟨rfl, rfl, -⟩
              · exact absurd hnone (by simp [Fields.set])
              · obtain ⟨rfl, rfl⟩ := fill_complete_iff.1 h
                exact .inl rfl
        · cases h with
          | done hcomplete => exact absurd (complete_eq_ok_iff.1 hcomplete).1 (by simp [Fields.set])
          | more hsecond h =>
              rcases select_eq_ok_iff.1 hsecond with ⟨rfl, rfl, -⟩ | ⟨-, -, hnone⟩
              · obtain ⟨rfl, rfl⟩ := fill_complete_iff.1 h
                exact .inr rfl
              · exact absurd hnone (by simp [Fields.set])
  · rintro (rfl | rfl)
    · exact .more (select_eq_ok_iff.2 (.inl ⟨rfl, rfl, rfl⟩))
        (.more (select_eq_ok_iff.2 (.inr ⟨rfl, rfl, rfl⟩)) (fill_complete_iff.2 ⟨rfl, rfl⟩))
    · exact .more (select_eq_ok_iff.2 (.inr ⟨rfl, rfl, rfl⟩))
        (.more (select_eq_ok_iff.2 (.inl ⟨rfl, rfl, rfl⟩)) (fill_complete_iff.2 ⟨rfl, rfl⟩))

/-! ### Documents in the form of a list -/

theorem gives_readTableAt_iff {index : Nat} {t : RawTable} :
    Gives (readTableAt index c) t r ↔
      ∃ ks, TableTokens ks t ∧ Lexes c.rest (lead (index == 0) ++ ks) r := by
  unfold readTableAt
  constructor
  · intro h
    split at h
    · exact absurd h not_gives_error
    · exact absurd h not_gives_failHere
    · next c₁ hn =>
        obtain ⟨q, hlead, hc₁, -⟩ := gives_nextElement_more_iff.1 (Gives.of_eq hn)
        obtain ⟨ks, ht, hks⟩ := (reads_rawTable c₁ t r).1 h
        obtain ⟨k, ls, rfl, -⟩ := opens_table ks t ht
        rw [hc₁, lexes_dropWhile_iff] at hks
        exact ⟨_, ht, lexes_append_iff.2 ⟨q, hlead, hks⟩⟩
  · rintro ⟨ks, ht, h⟩
    obtain ⟨q, hlead, hks⟩ := lexes_append_iff.1 h
    obtain ⟨k, ls, rfl, hk⟩ := opens_table ks t ht
    obtain ⟨y, u, hq, hy⟩ := hks.head_ne_mark (m := .closeBracket) rfl hk
    obtain ⟨c₁, hn, hc₁⟩ := (gives_nextElement_more_iff.2 ⟨q, hlead, rfl, y, u, hq, hy⟩).exists_eq
    rw [← lexes_dropWhile_iff, ← hc₁] at hks
    rw [hn]
    exact (reads_rawTable c₁ t r).2 ⟨_, ht, hks⟩

theorem leaves_readListEnd_iff : Leaves (readListEnd c) r ↔ Lexes c.rest [.closeBracket] r := by
  rw [lexes_mark_iff rfl]
  unfold readListEnd
  simp only [Cursor.next?, Cursor.rest_skipBlanks, lexes_nil_iff, exists_eq_right]
  cases h : c.rest.dropWhile isBlank with
  | nil => simp
  | cons y ys =>
      by_cases hy : y = ']'
      · simp [hy, h]
      · by_cases hcomma : y = ','
        · simp [hcomma]
        · simp [hy]

theorem gives_readPair_iff :
    Gives (readPair c) d r ↔
      ∃ ks ls, TableTokens ks d.default ∧ TableTokens ls d.empty ∧
        Lexes c.rest (ks ++ (.comma :: (ls ++ [.closeBracket]))) r := by
  constructor
  · intro h
    obtain ⟨⟨t, c₁⟩, h₁, h⟩ := h.of_bind
    obtain ⟨⟨t', c₂⟩, h₂, h⟩ := h.of_bind
    obtain ⟨c₃, h₃, h⟩ := h.of_bind
    obtain ⟨rfl, rfl⟩ := gives_ok_iff.1 h
    obtain ⟨ks, ht, hks⟩ := gives_readTableAt_iff.1 (Gives.of_eq h₁)
    obtain ⟨ls, ht', hls⟩ := gives_readTableAt_iff.1 (Gives.of_eq h₂)
    have hend := leaves_readListEnd_iff.1 (Leaves.of_eq h₃)
    refine ⟨ks, ls, ht, ht', lexes_append_iff.2 ⟨c₁.rest, hks, ?_⟩⟩
    exact lexes_append_iff.2 ⟨c₂.rest, hls, hend⟩
  · rintro ⟨ks, ls, ht, ht', h⟩
    obtain ⟨q₁, hks, h⟩ := lexes_append_iff.1 h
    rw [← List.cons_append] at h
    obtain ⟨q₂, hls, hend⟩ := lexes_append_iff.1 h
    have hfirst : Gives (readTableAt 0 c) d.default q₁ := gives_readTableAt_iff.2 ⟨ks, ht, hks⟩
    obtain ⟨c₁, h₁, rfl⟩ := hfirst.exists_eq
    have hsecond : Gives (readTableAt 1 c₁) d.empty q₂ := gives_readTableAt_iff.2 ⟨ls, ht', hls⟩
    obtain ⟨c₂, h₂, rfl⟩ := hsecond.exists_eq
    obtain ⟨c₃, h₃, rfl⟩ := (leaves_readListEnd_iff.2 hend).exists_eq
    unfold readPair
    simp [h₁, h₂, h₃, bind, Except.bind, pure, Except.pure]

/-- The tokens of a list of two, as a reader meets them. -/
theorem listOf_pair_iff {α : Type} {G : List Token → α → Prop} {ks : List Token} {x y : α} :
    ListOf G ks [x, y] ↔
      ∃ us vs, G us x ∧ G vs y ∧
        ks = .openBracket :: (us ++ (.comma :: (vs ++ [.closeBracket]))) := by
  constructor
  · rintro ⟨_, ⟨parts, hparts, rfl⟩, rfl⟩
    obtain ⟨us, _, hus, hrest, rfl⟩ := List.forall₂_cons_right_iff.1 hparts
    obtain ⟨vs, _, hvs, hnil, rfl⟩ := List.forall₂_cons_right_iff.1 hrest
    obtain rfl := List.forall₂_nil_right_iff.1 hnil
    exact ⟨us, vs, hus, hvs, by simp⟩
  · rintro ⟨us, vs, hus, hvs, rfl⟩
    exact ⟨_, ⟨[us, vs], .cons hus (.cons hvs .nil), rfl⟩, by simp⟩

/-! ### Whole documents -/

theorem fields_lexes_iff :
    (∃ ks, (ObjectOf TableTokens ks [("default", d.default), ("empty", d.empty)] ∨
        ObjectOf TableTokens ks [("empty", d.empty), ("default", d.default)]) ∧ Lexes c.rest ks r) ↔
      ∃ t, c.rest.dropWhile isBlank = '\x7b' :: t ∧ ∃ es parts, Fields.Fill ⟨none, none⟩ es d ∧
        List.Forall₂ (EntryOf TableTokens) parts es ∧
        Lexes t (row true parts ++ [.closeBrace]) r := by
  constructor
  · rintro ⟨ks, hks | hks, h⟩
    · obtain ⟨t, ht, parts, hparts, hlex⟩ := objectOf_lexes_iff.1 ⟨ks, hks, h⟩
      exact ⟨t, ht, _, parts, fill_iff.2 (.inl rfl), hparts, hlex⟩
    · obtain ⟨t, ht, parts, hparts, hlex⟩ := objectOf_lexes_iff.1 ⟨ks, hks, h⟩
      exact ⟨t, ht, _, parts, fill_iff.2 (.inr rfl), hparts, hlex⟩
  · rintro ⟨t, ht, es, parts, hfill, hparts, hlex⟩
    obtain ⟨ks, hks, h⟩ := objectOf_lexes_iff.2 ⟨t, ht, parts, hparts, hlex⟩
    rcases fill_iff.1 hfill with rfl | rfl
    · exact ⟨ks, .inl hks, h⟩
    · exact ⟨ks, .inr hks, h⟩

theorem pair_lexes_iff :
    (∃ ks, ListOf TableTokens ks [d.default, d.empty] ∧ Lexes c.rest ks r) ↔
      ∃ t, c.rest.dropWhile isBlank = '[' :: t ∧ ∃ us vs, TableTokens us d.default ∧
        TableTokens vs d.empty ∧ Lexes t (us ++ (.comma :: (vs ++ [.closeBracket]))) r := by
  simp only [listOf_pair_iff]
  constructor
  · rintro ⟨_, ⟨us, vs, hus, hvs, rfl⟩, h⟩
    obtain ⟨t, ht, h⟩ := (lexes_mark_iff rfl).1 h
    exact ⟨t, ht, us, vs, hus, hvs, h⟩
  · rintro ⟨t, ht, us, vs, hus, hvs, h⟩
    exact ⟨_, ⟨us, vs, hus, hvs, rfl⟩, (lexes_mark_iff rfl).2 ⟨t, ht, h⟩⟩

/-- Documents are read from exactly their tokens. -/
theorem reads_document : Reads readDocument DocumentTokens := by
  intro c d r
  simp only [DocumentTokens, ← or_assoc, or_and_right (b := ListOf _ _ _), exists_or,
    fields_lexes_iff, pair_lexes_iff]
  unfold readDocument
  simp only [Cursor.next?, Cursor.rest_skipBlanks]
  cases hs : c.rest.dropWhile isBlank with
  | nil => simp
  | cons y ys =>
      by_cases hbrace : y = '\x7b'
      · subst hbrace
        simp [gives_readFields_iff, hs]
      · by_cases hbracket : y = '['
        · subst hbracket
          simp [gives_readPair_iff, hs]
        · simp [hbrace, hbracket]

/-! ### Documents that are written -/

/-- The entries of a table as a value. -/
def RawTable.value (raw : RawTable) : Value :=
  .object (raw.map fun e => (e.1.token, .list (e.2.map fun p => .text p.token)))

/-- A text of a document, with the empty table in front. -/
def Document.written (d : Document) : String :=
  (Value.object [("empty", d.empty.value), ("default", d.default.value)]).compact

theorem tableTokens_value (raw : RawTable) : TableTokens raw.value.tokens raw := by
  refine objectOf_tokens ?_
  rw [List.forall₂_map_left_iff, List.forall₂_map_right_iff, List.forall₂_same]
  intro e _
  refine ⟨rfl, listOf_tokens ?_⟩
  rw [List.forall₂_map_left_iff]
  exact List.forall₂_same.2 fun p _ => .inl rfl

/-- **Every document can be read from its text.** -/
theorem Document.parse_written (d : Document) : Document.parse d.written = .ok d := by
  refine (decode_eq_ok_iff reads_document).2 ⟨_, .inr (.inl ?_), (prints_compact _).consists⟩
  exact objectOf_tokens (.cons ⟨rfl, tableTokens_value d.empty⟩
    (.cons ⟨rfl, tableTokens_value d.default⟩ .nil))

/-- Validation refuses repeats only. -/
theorem not_malformed_ofDocument (d : Document) (fault : Json.Fault) :
    Tables.ofDocument d ≠ .error (.malformed fault) := by
  unfold Tables.ofDocument Tables.validate
  cases Table.ofRaw d.default <;> cases Table.ofRaw d.empty <;>
    simp [bind, Except.bind, pure, Except.pure]

/-- **A text is read as a document exactly if it consists of the tokens of one**, blanks apart, and
any other text is refused as malformed. -/
theorem parse_exact (text : String) (default empty : RawTable) :
    (Document.parse text = .ok ⟨default, empty⟩ ↔
      ∃ ks, DocumentTokens ks ⟨default, empty⟩ ∧ Consists text ks) ∧
    ((∃ fault, Tables.parse text = .error (.malformed fault)) ↔
      ∀ d ks, DocumentTokens ks d → ¬ Consists text ks) := by
  have hexact : ∀ d, Document.parse text = .ok d ↔ ∃ ks, DocumentTokens ks d ∧ Consists text ks :=
    fun d => decode_eq_ok_iff reads_document
  refine ⟨hexact _, ?_⟩
  unfold Tables.parse
  cases hd : Document.parse text with
  | error fault =>
      have hnone : ∀ d ks, DocumentTokens ks d → ¬ Consists text ks := by
        intro d ks hks htext
        exact absurd (hd.symm.trans ((hexact d).2 ⟨ks, hks, htext⟩)) (by simp)
      exact ⟨fun _ => hnone, fun _ => ⟨fault, rfl⟩⟩
  | ok d =>
      obtain ⟨ks, hks, htext⟩ := (hexact d).1 hd
      constructor
      · rintro ⟨fault, h⟩
        exact absurd h (not_malformed_ofDocument d fault)
      · intro hnone
        exact absurd htext (hnone d ks hks)

end BatchRunner.Exclusion
