/-
**Members are read alike from documents and from command lines.**

A command line gives the token of a member as it is; a document gives a string literal, in which any
character may be escaped and around which blanks may stand.  Only the text that a literal spells
counts: a literal is read as a member exactly if its text is the token of that member, and whatever
else is put between quotes is refused, halves of surrogate pairs included, which spell no text.

Main definitions:

* `Json.Quoted` — what comes first in a text is a quote;
* `Json.ReadAlike` — both ways of reading a text agree on one of its literals.

Main results:

* `Json.decode_member_eq_ok_iff` — what begins with a quote is read as a member exactly if it denotes
  the token of that member;
* `Json.decode_member_eq_error` — a literal of any other text is refused with the text and the known
  tokens;
* `Json.compact_member` — a member is written as its token between quotes, nothing escaped;
* `Json.members_read_alike` — **both ways of reading agree** for variants and for programs.
-/
import BatchRunner.Analysis
import BatchRunner.Benchmark
import BatchRunner.Proofs.Json.Value

set_option autoImplicit false

namespace BatchRunner.Json

/-- What comes first in a text is a quote. -/
def Quoted (text : String) : Prop := (text.toList.dropWhile isBlank).head? = some '"'

variable {α : Type} [Catalog α] [LawfulCatalog α] {x : α} {s text : String}

/-! ### Reading -/

theorem names_eq_tokens : Catalog.names α = Catalog.tokens α :=
  List.map_congr_left fun x _ => LawfulCatalog.name_eq_token x

/-- Where a literal is, what it spells, and what follows it. -/
theorem Denotes.exists_body (h : Denotes text (.text s)) :
    ∃ body r, text.toList.dropWhile isBlank = '"' :: (body ++ '"' :: r) ∧ Spells body s.toList := by
  obtain ⟨r, hlex, -⟩ := h
  obtain ⟨body, r', hbody, spells, -⟩ := lexes_text_iff.1 hlex
  exact ⟨body, r', hbody, spells⟩

theorem Denotes.quoted (h : Denotes text (.text s)) : Quoted text := by
  obtain ⟨body, r, hbody, -⟩ := h.exists_body
  rw [Quoted, hbody, List.head?_cons]

/-- **What begins with a quote is read as a member exactly if it denotes the token of that member.** -/
theorem decode_member_eq_ok_iff (hquote : Quoted text) :
    decode (member α).run text = .ok x ↔ Denotes text (.text (Catalog.token x)) := by
  rw [decode_eq_ok_iff reads_member]
  constructor
  · rintro ⟨ks, rfl | rfl, hconsists⟩
    · exact hconsists
    · obtain ⟨r, hlex, -⟩ := hconsists
      obtain ⟨r', hbrace, -⟩ := (lexes_mark_iff rfl).1 hlex
      rw [Quoted, hbrace] at hquote
      exact absurd hquote (by simp)
  · intro h
    exact ⟨_, .inl rfl, h⟩

theorem decode_literal_eq_ok_iff (h : Denotes text (.text s)) :
    decode (member α).run text = .ok x ↔ s = Catalog.token x := by
  rw [decode_member_eq_ok_iff h.quoted]
  constructor
  · intro htoken
    simpa using h.unique htoken
  · rintro rfl
    exact h

/-- **A literal of any other text is refused**, and the refusal names that text and the tokens it
could have been. -/
theorem decode_member_eq_error (h : Denotes text (.text s)) (hs : ∀ x : α, Catalog.token x ≠ s) :
    ∃ place, decode (member α).run text = .error ⟨.unknownMember s (Catalog.tokens α), place⟩ := by
  obtain ⟨body, r, hbody, spells⟩ := h.exists_body
  let c := (Cursor.ofText text).skipBlanks
  have hrest : c.rest = '"' :: (body ++ '"' :: r) := (Cursor.rest_skipBlanks _).trans hbody
  have hbehind : c.skip.rest = body ++ '"' :: r := by rw [Cursor.rest_skip, hrest, List.tail_cons]
  obtain ⟨c', hread, -⟩ := (gives_readText_iff.2 ⟨body, hbehind, spells⟩).exists_eq
  have hnone : (Catalog.ofName? s : Option α) = none := by
    rw [Catalog.ofName?_eq_ofToken?]
    exact Catalog.ofToken?_eq_none_iff.2 hs
  have hname : readName α c.skip = .error ⟨.unknownMember s (Catalog.tokens α), c'.here⟩ := by
    unfold readName
    simp only [hread, String.ofList_toList, hnone, names_eq_tokens]
    rfl
  have hrun : (member α).run (Cursor.ofText text) = readName α c.skip := by
    have hnext : c.next? = some '"' := by rw [Cursor.next?, hrest, List.head?_cons]
    simp only [member, c, hnext]
  exact ⟨c'.here, by rw [decode, hrun, hname]⟩

/-! ### Writing -/

theorem literal_of_plain (h : ∀ c ∈ s.toList, escapeChar c = [c]) : literal s = "\"" ++ s ++ "\"" := by
  have hbody : s.toList.flatMap escapeChar = s.toList := by
    rw [List.flatMap_congr h, List.flatMap_singleton']
  apply String.toList_injective
  simp [literal, hbody]

/-- A member is written as its token between quotes, if no character of the token needs an escape. -/
theorem compact_member (h : ∀ c ∈ (Catalog.token x).toList, escapeChar c = [c]) :
    (Value.member x).compact = "\"" ++ Catalog.token x ++ "\"" := by
  rw [Value.member, Value.compact, LawfulCatalog.name_eq_token, literal_of_plain h]

/-- What is written for a member is read as that member. -/
theorem decode_compact_member (x : α) : decode (member α).run (Value.member x).compact = .ok x := by
  have hdenotes : Denotes (Value.member x).compact (.text (Catalog.token x)) :=
    denotes_compact_iff.2 (by rw [Value.member, LawfulCatalog.name_eq_token])
  exact (decode_literal_eq_ok_iff hdenotes).2 rfl

/-! ### Both ways of reading -/

/-- **Two ways of reading agree**: that of command lines on the text `s`, and that of documents on
the literal `text`. -/
structure ReadAlike (α : Type) [Catalog α] (s text : String) : Prop where
  /-- What one way gives, the other gives. -/
  accepts : ∀ x : α, decode (member α).run text = .ok x ↔ Catalog.ofToken? s = some x
  /-- It is the member whose token the text is. -/
  tells : ∀ x : α, Catalog.ofToken? s = some x ↔ s = Catalog.token x
  /-- If there is none, both ways refuse the text. -/
  refuses : (∀ x : α, s ≠ Catalog.token x) →
    (Catalog.ofToken? s : Option α) = none ∧
    ∃ place, decode (member α).run text = .error ⟨.unknownMember s (Catalog.tokens α), place⟩
  /-- What was read is written as a plain literal, and read back from that. -/
  writes : ∀ x : α, decode (member α).run text = .ok x →
    (Value.member x).compact = "\"" ++ Catalog.token x ++ "\"" ∧
    decode (member α).run (Value.member x).compact = .ok x

/-- Both ways agree on every literal, if no token needs an escape. -/
theorem readAlike_of_plain (hplain : ∀ x : α, ∀ c ∈ (Catalog.token x).toList, escapeChar c = [c])
    (h : Denotes text (.text s)) : ReadAlike α s text where
  accepts x := by
    rw [decode_literal_eq_ok_iff h, Catalog.ofToken?_eq_some_iff, eq_comm]
  tells x := by
    rw [Catalog.ofToken?_eq_some_iff, eq_comm]
  refuses hs := by
    have hne : ∀ x : α, Catalog.token x ≠ s := fun x => (hs x).symm
    exact ⟨Catalog.ofToken?_eq_none_iff.2 hne, decode_member_eq_error h hne⟩
  writes x _ := ⟨compact_member (hplain x), decode_compact_member x⟩

theorem plain_variant (v : Variant) : ∀ c ∈ (Catalog.token v).toList, escapeChar c = [c] := by
  have hall : ((Catalog.token v).toList.all fun c => escapeChar c = [c]) = true := by
    cases v <;> rfl
  simpa using hall

theorem plain_program (p : Program) : ∀ c ∈ (Catalog.token p).toList, escapeChar c = [c] := by
  have hall : ((Catalog.token p).toList.all fun c => escapeChar c = [c]) = true := by
    cases p <;> rfl
  simpa using hall

/-- **Variants and programs are read alike from documents and from command lines**, whatever the
text and however a literal spells it. -/
theorem members_read_alike {s text : String} (h : Denotes text (.text s)) :
    ReadAlike Variant s text ∧ ReadAlike Program s text :=
  ⟨readAlike_of_plain plain_variant h, readAlike_of_plain plain_program h⟩

/-- Blanks around a literal and escapes inside it make no difference: this one is a program, and no
variant. -/
theorem escaped_member_read :
    Denotes " \"\\u004aP\\u0043\"\n" (.text "JPC") ∧
    decode (member Program).run " \"\\u004aP\\u0043\"\n" = .ok .jpc ∧
    (Value.member Program.jpc).compact = "\"JPC\"" ∧
    ∃ place, decode (member Variant).run " \"\\u004aP\\u0043\"\n" =
      .error ⟨.unknownMember "JPC" (Catalog.tokens Variant), place⟩ := by
  have hJ : Writes ['\\', 'u', '0', '0', '4', 'a'] 'J' :=
    .unit ⟨'0', '0', '4', 'a', 0, 0, 4, 10, rfl, .inl rfl, .inl rfl, .inl rfl, .inl rfl, rfl⟩
  have hP : Writes ['P'] 'P' := .plain (by decide) (by decide) (by decide)
  have hC : Writes ['\\', 'u', '0', '0', '4', '3'] 'C' :=
    .unit ⟨'0', '0', '4', '3', 0, 0, 4, 3, rfl, .inl rfl, .inl rfl, .inl rfl, .inl rfl, rfl⟩
  have hspells : Spells _ "JPC".toList := .cons hJ (.cons hP (.cons hC .nil))
  have hdenotes : Denotes " \"\\u004aP\\u0043\"\n" (.text "JPC") := by
    refine ⟨['\n'], ?_, List.forall_mem_singleton.2 rfl⟩
    exact Lexes.cons (b := [' ']) (List.forall_mem_singleton.2 rfl) (.text hspells) trivial (.nil _)
  obtain ⟨hvariant, hprogram⟩ := members_read_alike hdenotes
  have hread := (hprogram.accepts .jpc).2 ((hprogram.tells .jpc).2 rfl)
  have hother : ∀ v : Variant, "JPC" ≠ Catalog.token v := by
    intro v
    cases v <;> decide
  exact ⟨hdenotes, hread, (hprogram.writes .jpc hread).1, (hvariant.refuses hother).2⟩

end BatchRunner.Json
