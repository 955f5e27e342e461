/-
**Which documents are valid, and what is reported of the others.**

Validation scans the entries of a table in order, and the programs of an entry in order, and stops
at the first repeat.  A scan that has not stopped has seen entries without repeats and knows exactly
their variants, so where it stops can be said of the entries alone.

Main definitions:

* `Exclusion.RawTable.Valid` — no variant has two entries, and no entry lists a program twice;
* `Exclusion.RawTable.FirstRepeat` — what is repeated first;
* `Exclusion.RawTable.Rearranged` — other orders of the entries, and of the programs in them.

Main results:

* `Exclusion.Table.exists_ofRaw_iff` — the entries that are accepted are the valid ones;
* `Exclusion.Table.ofRaw_eq_error_iff` — **what is reported of a table is its first repeat**;
* `Exclusion.DocumentError.message_eq_iff` — a repeat is told by what is said of it;
* `Exclusion.Tables.validation_exact` — **a document is accepted exactly if both tables are valid,
  predicts what it lists for the mode, and is refused for its first repeat**.
-/
import BatchRunner.Proofs.Exclusion.Document
import BatchRunner.Proofs.Exclusion.Table

set_option autoImplicit false

namespace BatchRunner.Exclusion

variable {v : Variant} {p : Program} {ps qs : List Program} {raw raw' xs ys : RawTable}
  {t t' : Table} {d : Document} {seen seen' : Listed} {what : Repeat} {mode : Mode} {text : String}
  {e : DocumentError}

namespace RawTable

/-- No variant has two entries, and no entry lists a program twice. -/
def Valid (raw : RawTable) : Prop :=
  (raw.map Prod.fst).Nodup ∧ ∀ e ∈ raw, e.2.Nodup

instance (raw : RawTable) : Decidable raw.Valid := inferInstanceAs (Decidable (_ ∧ _))

/-- What is repeated first.  All entries before that are valid; of an entry whose variant has come
before, the programs do not matter. -/
inductive FirstRepeat (raw : RawTable) : Repeat → Prop where
  | variant {before after : RawTable} {v : Variant} {ps : List Program}
      (entries : raw = before ++ (v, ps) :: after) (valid : Valid before)
      (again : v ∈ before.map Prod.fst) : FirstRepeat raw (.variant v)
  | program {before after : RawTable} {v : Variant} {qs rest : List Program} {p : Program}
      (entries : raw = before ++ (v, qs ++ p :: rest) :: after) (valid : Valid before)
      (new : v ∉ before.map Prod.fst) (distinct : qs.Nodup) (again : p ∈ qs) :
      FirstRepeat raw (.program v p)

/-- Other orders of the entries, and of the programs in them. -/
def Rearranged (raw raw' : RawTable) : Prop :=
  ∃ mid : RawTable, raw.Perm mid ∧
    List.Forall₂ (fun e e' => e.1 = e'.1 ∧ e.2.Perm e'.2) mid raw'

theorem Rearranged.lists_iff (h : raw.Rearranged raw') : raw.Lists v p ↔ raw'.Lists v p := by
  obtain ⟨mid, hperm, hsame⟩ := h
  have hmid : raw.Lists v p ↔ Lists mid v p := by
    simp only [Lists, hperm.mem_iff]
  rw [hmid]
  clear hmid hperm
  induction hsame with
  | nil => exact Iff.rfl
  | @cons e e' es es' he _ ih =>
      obtain ⟨w, ps⟩ := e
      obtain ⟨w', ps'⟩ := e'
      obtain ⟨rfl, hps⟩ : w = w' ∧ ps.Perm ps' := he
      rw [lists_cons, lists_cons, hps.mem_iff]
      exact or_congr_right ih

theorem Rearranged.valid_iff (h : raw.Rearranged raw') : raw.Valid ↔ raw'.Valid := by
  obtain ⟨mid, hperm, hsame⟩ := h
  have hmid : raw.Valid ↔ Valid mid := by
    simp only [Valid, (hperm.map Prod.fst).nodup_iff, hperm.mem_iff]
  rw [hmid]
  clear hmid hperm
  have hvariants : mid.map Prod.fst = raw'.map Prod.fst := by
    induction hsame with
    | nil => rfl
    | cons he _ ih => rw [List.map_cons, List.map_cons, he.1, ih]
  have hlists : (∀ e ∈ mid, e.2.Nodup) ↔ ∀ e ∈ raw', e.2.Nodup := by
    clear hvariants
    induction hsame with
    | nil => exact Iff.rfl
    | cons he _ ih => rw [List.forall_mem_cons, List.forall_mem_cons, he.2.nodup_iff, ih]
  rw [Valid, Valid, hvariants, hlists]

end RawTable

namespace Table

/-! ### The programs of an entry -/

/-- Programs are accepted if they are distinct and none has been seen. -/
theorem exists_collect_iff :
    (∃ listed, collect seen ps = .ok listed) ↔ ps.Nodup ∧ ∀ p ∈ ps, seen p = false := by
  induction ps generalizing seen with
  | nil => simp [collect]
  | cons q ps ih =>
      rw [collect]
      by_cases hq : seen q = true
      · simp [hq]
      · rw [if_neg hq, ih, List.nodup_cons, List.forall_mem_cons]
        have hq' : seen q = false := by simpa using hq
        constructor
        · rintro ⟨hnodup, hnew⟩
          have hfresh : ∀ p ∈ ps, ¬ p = q ∧ seen p = false := by simpa using hnew
          exact ⟨⟨fun hmem => (hfresh q hmem).1 rfl, hnodup⟩, hq', fun p hp => (hfresh p hp).2⟩
        · rintro ⟨⟨hmem, hnodup⟩, -, hnew⟩
          refine ⟨hnodup, fun p hp => ?_⟩
          have hne : p ≠ q := fun heq => hmem (heq ▸ hp)
          simp [hne, hnew p hp]

theorem collect_append (h : collect seen qs = .ok seen') :
    collect seen (qs ++ ps) = collect seen' ps := by
  induction qs generalizing seen with
  | nil =>
      obtain rfl : seen = seen' := by simpa [collect] using h
      rfl
  | cons q qs ih =>
      rw [collect] at h
      rw [List.cons_append, collect]
      split at h
      · exact absurd h (by simp)
      · next hq => rw [if_neg hq, ih h]

/-- **What is reported of an entry** is the first program that has been seen when it comes. -/
theorem collect_eq_error_iff :
    collect seen ps = .error p ↔
      ∃ qs rest seen', ps = qs ++ p :: rest ∧ collect seen qs = .ok seen' ∧ seen' p = true := by
  constructor
  · intro h
    induction ps generalizing seen with
    | nil => simp [collect] at h
    | cons q ps ih =>
        rw [collect] at h
        split at h
        · next hq =>
            obtain rfl : q = p := by simpa using h
            exact ⟨[], ps, seen, rfl, rfl, hq⟩
        · next hq =>
            obtain ⟨qs, rest, seen', rfl, hqs, hp⟩ := ih h
            exact ⟨q :: qs, rest, seen', rfl, by rwa [collect, if_neg hq], hp⟩
  · rintro ⟨qs, rest, seen', rfl, hqs, hp⟩
    rw [collect_append hqs, collect, if_pos hp]

/-- An entry that starts with nothing seen is refused for the first program that comes again. -/
theorem collect_nothing_eq_error_iff :
    collect (fun _ => false) ps = .error p ↔
      ∃ qs rest, ps = qs ++ p :: rest ∧ qs.Nodup ∧ p ∈ qs := by
  rw [collect_eq_error_iff]
  constructor
  · rintro ⟨qs, rest, seen', rfl, hqs, hp⟩
    have hnodup := (exists_collect_iff.1 ⟨seen', hqs⟩).1
    have hmem : p ∈ qs := by simpa [hp] using listed_collect (p := p) hqs
    exact ⟨qs, rest, rfl, hnodup, hmem⟩
  · rintro ⟨qs, rest, rfl, hnodup, hmem⟩
    obtain ⟨seen', hqs⟩ := exists_collect_iff.2 ⟨hnodup, fun p _ => rfl⟩
    exact ⟨qs, rest, seen', rfl, hqs, (listed_collect hqs).2 (.inr hmem)⟩

/-! ### The entries of a table -/

/-- The variants that a scan knows are those of the entries it has seen. -/
theorem isSome_row?_addAll (h : addAll t raw = .ok t') :
    (t'.row? v).isSome = true ↔ (t.row? v).isSome = true ∨ v ∈ raw.map Prod.fst := by
  induction raw generalizing t with
  | nil =>
      obtain rfl : t = t' := by simpa [addAll] using h
      simp
  | cons e raw ih =>
      obtain ⟨w, ps⟩ := e
      rw [addAll] at h
      split at h
      · exact absurd h (by simp)
      · split at h
        · exact absurd h (by simp)
        · next listed _ =>
            rw [ih h, List.map_cons, List.mem_cons]
            by_cases hv : v = w
            · subst hv
              simp
            · simp [row?_insert_of_ne hv, hv]

/-- Entries are accepted if they are valid and their variants are new. -/
theorem exists_addAll_iff :
    (∃ t', addAll t raw = .ok t') ↔ raw.Valid ∧ ∀ e ∈ raw, (t.row? e.1).isSome = false := by
  induction raw generalizing t with
  | nil => simp [addAll, RawTable.Valid]
  | cons e raw ih =>
      obtain ⟨w, ps⟩ := e
      rw [addAll]
      by_cases hw : (t.row? w).isSome = true
      · rw [if_pos hw, List.forall_mem_cons]
        simp [hw]
      · rw [if_neg hw]
        have hnew : (t.row? w).isSome = false := by simpa using hw
        have hentry : (∃ listed, collect (fun _ => false) ps = .ok listed) ↔ ps.Nodup := by
          simp [exists_collect_iff]
        cases hc : collect (fun _ => false) ps with
        | error q =>
            have hrepeat : ¬ ps.Nodup := by simpa [hc] using hentry
            simp [RawTable.Valid, hrepeat]
        | ok listed =>
            have hdistinct : ps.Nodup := by simpa [hc] using hentry
            have hrow : ∀ u, ((t.insert w listed).row? u).isSome = false ↔
                u ≠ w ∧ (t.row? u).isSome = false := by
              intro u
              by_cases hu : u = w
              · subst hu
                simp
              · simp [row?_insert_of_ne hu, hu]
            simp only [ih, hrow, RawTable.Valid, List.map_cons, List.nodup_cons,
              List.forall_mem_cons, hdistinct, hnew, true_and]
            constructor
            · rintro ⟨⟨hnodup, hlists⟩, hfresh⟩
              refine ⟨⟨⟨?_, hnodup⟩, hlists⟩, fun e he => (hfresh e he).2⟩
              intro hmem
              obtain ⟨e, he, heq⟩ := List.mem_map.1 hmem
              exact (hfresh e he).1 heq
            · rintro ⟨⟨⟨hmem, hnodup⟩, hlists⟩, hfresh⟩
              refine ⟨⟨hnodup, hlists⟩, fun e he => ⟨?_, hfresh e he⟩⟩
              intro heq
              exact hmem (List.mem_map.2 ⟨e, he, heq⟩)

theorem addAll_append (h : addAll t xs = .ok t') : addAll t (xs ++ ys) = addAll t' ys := by
  induction xs generalizing t with
  | nil =>
      obtain rfl : t = t' := by simpa [addAll] using h
      rfl
  | cons e xs ih =>
      obtain ⟨w, ps⟩ := e
      rw [addAll] at h
      rw [List.cons_append, addAll]
      split at h
      · exact absurd h (by simp)
      · next hw =>
          rw [if_neg hw]
          cases hc : collect (fun _ => false) ps with
          | error q => simp [hc] at h
          | ok listed =>
              simp only [hc] at h ⊢
              exact ih h

/-- An entry stops the scan that has come to `t`. -/
inductive Stops (t : Table) (v : Variant) (ps : List Program) : Repeat → Prop where
  | variant (again : (t.row? v).isSome = true) : Stops t v ps (.variant v)
  | program {p : Program} (new : (t.row? v).isSome = false)
      (again : collect (fun _ => false) ps = .error p) : Stops t v ps (.program v p)

/-- **A scan is stopped by an entry**, and all entries before it have been accepted. -/
theorem addAll_eq_error_iff :
    addAll t raw = .error what ↔
      ∃ before v ps after t', raw = before ++ (v, ps) :: after ∧ addAll t before = .ok t' ∧
        Stops t' v ps what := by
  constructor
  · intro h
    induction raw generalizing t with
    | nil => simp [addAll] at h
    | cons e raw ih =>
        obtain ⟨w, ps⟩ := e
        rw [addAll] at h
        split at h
        · next hw =>
            obtain rfl : Repeat.variant w = what := by simpa using h
            exact ⟨[], w, ps, raw, t, rfl, rfl, .variant hw⟩
        · next hw =>
            cases hc : collect (fun _ => false) ps with
            | error q =>
                obtain rfl : Repeat.program w q = what := by simpa [hc] using h
                exact ⟨[], w, ps, raw, t, rfl, rfl, .program (by simpa using hw) hc⟩
            | ok listed =>
                simp only [hc] at h
                obtain ⟨before, v, qs, after, t', rfl, hbefore, hstops⟩ := ih h
                exact ⟨(w, ps) :: before, v, qs, after, t', rfl, by
                  rw [addAll, if_neg hw]
                  simpa [hc] using hbefore, hstops⟩
  · rintro ⟨before, v, ps, after, t', rfl, hbefore, hstops⟩
    rw [addAll_append hbefore, addAll]
    cases hstops with
    | variant again => rw [if_pos again]
    | program new again => simp [new, again]

/-- The entries that are accepted are the valid ones. -/
theorem exists_ofRaw_iff : (∃ t, ofRaw raw = .ok t) ↔ raw.Valid := by
  unfold ofRaw
  simp [exists_addAll_iff]

/-- **What is reported of a table is its first repeat.** -/
theorem ofRaw_eq_error_iff : ofRaw raw = .error what ↔ raw.FirstRepeat what := by
  unfold ofRaw
  rw [addAll_eq_error_iff]
  constructor
  · rintro ⟨before, v, ps, after, t, rfl, hbefore, hstops⟩
    have hvalid : RawTable.Valid before := exists_ofRaw_iff.1 ⟨t, hbefore⟩
    have hseen := isSome_row?_addAll (v := v) hbefore
    cases hstops with
    | variant again => exact .variant rfl hvalid (by simpa [again] using hseen)
    | program new again =>
        obtain ⟨qs, rest, rfl, hnodup, hmem⟩ := collect_nothing_eq_error_iff.1 again
        exact .program rfl hvalid (by simpa [new] using hseen) hnodup hmem
  · intro h
    cases h with
    | variant entries valid again =>
        obtain ⟨t, ht⟩ := exists_ofRaw_iff.2 valid
        exact ⟨_, _, _, _, t, entries, ht, .variant ((isSome_row?_addAll ht).2 (.inr again))⟩
    | @program before after v qs rest p entries valid new distinct again =>
        obtain ⟨t, ht⟩ := exists_ofRaw_iff.2 valid
        have hseen := isSome_row?_addAll (v := v) ht
        refine ⟨_, _, _, _, t, entries, ht, .program (by simpa [new] using hseen) ?_⟩
        exact collect_nothing_eq_error_iff.2 ⟨qs, rest, rfl, distinct, again⟩

end Table

/-! ### What is said of a repeat -/

/-- A text up to its first blank is told by the whole. -/
theorem append_blank_inj {a b x y : List Char} (ha : ' ' ∉ a) (hb : ' ' ∉ b)
    (h : a ++ ' ' :: x = b ++ ' ' :: y) : a = b ∧ x = y := by
  induction a generalizing b with
  | nil =>
      cases b with
      | nil => simpa using h
      | cons d b => exact absurd (List.cons.inj h).1 fun hd => hb (hd ▸ List.mem_cons_self)
  | cons c a ih =>
      cases b with
      | nil => exact absurd (List.cons.inj h).1.symm fun hc => ha (hc ▸ List.mem_cons_self)
      | cons d b =>
          obtain ⟨rfl, hrest⟩ := List.cons.inj h
          obtain ⟨rfl, rfl⟩ := ih (fun hm => ha (List.mem_cons_of_mem _ hm))
            (fun hm => hb (List.mem_cons_of_mem _ hm)) hrest
          exact ⟨rfl, rfl⟩

theorem no_blank_variant (v : Variant) : ' ' ∉ v.token.toList := by cases v <;> decide

theorem no_blank_program (p : Program) : ' ' ∉ p.token.toList := by cases p <;> decide

namespace Repeat

/-- The token of what is repeated. -/
def subject : Repeat → String
  | .variant v => v.token
  | .program _ p => p.token

def place (mode : Mode) : Repeat → List Char
  | .variant _ => '(' :: (mode.token ++ " context)").toList
  | .program v _ =>
      'f' :: 'o' :: 'r' :: ' ' :: (v.token.toList ++ ' ' :: '(' :: (mode.token ++ " context)").toList)

theorem no_blank_subject (what : Repeat) : ' ' ∉ what.subject.toList := by
  cases what with
  | variant v => exact no_blank_variant v
  | program v p => exact no_blank_program p

theorem context_inj {mode mode' : Mode}
    (h : (mode'.token ++ " context)").toList = (mode.token ++ " context)").toList) :
    mode' = mode := by
  rw [String.toList_append, String.toList_append] at h
  exact LawfulCatalog.token_injective _ _ (String.toList_inj.1 (List.append_cancel_right h))

/-- A repeat is told by what is repeated and where. -/
theorem eq_of_subject_of_place {mode mode' : Mode} {what what' : Repeat}
    (hsubject : what'.subject = what.subject) (hplace : what'.place mode' = what.place mode) :
    mode' = mode ∧ what' = what := by
  cases what' with
  | variant v' =>
      cases what with
      | variant v =>
          exact ⟨context_inj (List.cons.inj hplace).2,
            congrArg variant (LawfulCatalog.token_injective _ _ hsubject)⟩
      | program v p => exact absurd (List.cons.inj hplace).1 (by decide)
  | program v' p' =>
      cases what with
      | variant v => exact absurd (List.cons.inj hplace).1 (by decide)
      | program v p =>
          simp only [place, List.cons.injEq, true_and] at hplace
          obtain ⟨hv, hcontext⟩ :=
            append_blank_inj (no_blank_variant v') (no_blank_variant v) hplace
          obtain rfl := LawfulCatalog.token_injective v' v (String.toList_inj.1 hv)
          obtain rfl := LawfulCatalog.token_injective p' p hsubject
          exact ⟨context_inj (List.cons.inj hcontext).2, rfl⟩

/-- How every report of a repeat is put together. -/
theorem toList_message (mode : Mode) (what : Repeat) :
    (DocumentError.repeated mode what).message.toList =
      "exclusion table lists ".toList ++ (what.subject.toList ++
        ' ' :: ("more than once ".toList ++ what.place mode)) := by
  cases what with
  | variant v =>
      have h : (DocumentError.repeated mode (.variant v)).message =
        "exclusion table lists " ++ v.token ++ " more than once (" ++ mode.token ++ " context)" := rfl
      rw [h, subject, place]
      simp only [String.toList_append, List.append_assoc]
      rfl
  | program v p =>
      have h : (DocumentError.repeated mode (.program v p)).message =
        "exclusion table lists " ++ p.token ++ " more than once for " ++ v.token ++ " (" ++
          mode.token ++ " context)" := rfl
      rw [h, subject, place]
      simp only [String.toList_append, List.append_assoc]
      rfl

end Repeat

/-- **A repeat is told by what is said of it**: no other refusal has its text. -/
theorem DocumentError.message_eq_iff {e : DocumentError} (mode : Mode) (what : Repeat) :
    e.message = (repeated mode what).message ↔ e = repeated mode what := by
  refine ⟨fun h => ?_, fun h => h ▸ rfl⟩
  have hlist := congrArg String.toList h
  rw [what.toList_message] at hlist
  cases e with
  | malformed f =>
      have hmalformed : (malformed f).message.toList =
        "exclusion table is malformed: ".toList ++ f.message.toList := String.toList_append
      have hbegin := congrArg (List.take 17) hlist
      rw [hmalformed, List.take_append_of_le_length (by decide),
        List.take_append_of_le_length (by decide)] at hbegin
      exact absurd hbegin (by decide)
  | repeated mode' what' =>
      rw [what'.toList_message] at hlist
      obtain ⟨hsubject, hplace⟩ := append_blank_inj what'.no_blank_subject what.no_blank_subject
        (List.append_cancel_left hlist)
      obtain ⟨rfl, rfl⟩ := Repeat.eq_of_subject_of_place (String.toList_inj.1 hsubject)
        (List.append_cancel_left hplace)
      rfl

namespace Tables

/-! ### Both tables -/

/-- A document is accepted if both of its tables are. -/
theorem exists_ofDocument_iff :
    (∃ tables, ofDocument d = .ok tables) ↔ ∀ mode, (d.ofMode mode).Valid := by
  constructor
  · rintro ⟨tables, h⟩ mode
    exact Table.exists_ofRaw_iff.1 ⟨_, ofRaw_of_ofDocument h mode⟩
  · intro h
    obtain ⟨t, ht⟩ := Table.exists_ofRaw_iff.2 (h .default)
    obtain ⟨t', ht'⟩ := Table.exists_ofRaw_iff.2 (h .empty)
    simp only [Document.ofMode] at ht ht'
    exact ⟨⟨t, t'⟩, by
      simp [ofDocument, validate, ht, ht', bind, Except.bind, pure, Except.pure]⟩

theorem validate_eq_ok_iff : validate mode raw = .ok t ↔ Table.ofRaw raw = .ok t := by
  cases h : Table.ofRaw raw <;> simp [validate, h]

theorem validate_eq_error_iff :
    validate mode raw = .error e ↔ ∃ what, e = .repeated mode what ∧ raw.FirstRepeat what := by
  simp only [← Table.ofRaw_eq_error_iff, validate]
  cases Table.ofRaw raw with
  | error what => simp [eq_comm]
  | ok t => simp

/-- A document is refused for the first repeat of its default table, or else of its empty one. -/
theorem ofDocument_eq_error_iff :
    ofDocument d = .error e ↔
      ∃ mode what, e = .repeated mode what ∧ (d.ofMode mode).FirstRepeat what ∧
        (mode = .empty → d.default.Valid) := by
  constructor
  · intro h
    unfold ofDocument at h
    cases hd : validate .default d.default with
    | error e' =>
        obtain rfl : e' = e := by simpa [hd, bind, Except.bind] using h
        obtain ⟨what, rfl, hfirst⟩ := validate_eq_error_iff.1 hd
        exact ⟨.default, what, rfl, hfirst, by simp⟩
    | ok t =>
        have hvalid : d.default.Valid := Table.exists_ofRaw_iff.1 ⟨t, validate_eq_ok_iff.1 hd⟩
        cases he : validate .empty d.empty with
        | error e' =>
            obtain rfl : e' = e := by simpa [hd, he, bind, Except.bind] using h
            obtain ⟨what, rfl, hfirst⟩ := validate_eq_error_iff.1 he
            exact ⟨.empty, what, rfl, hfirst, fun _ => hvalid⟩
        | ok t' => simp [hd, he, bind, Except.bind, pure, Except.pure] at h
  · rintro ⟨mode, what, rfl, hfirst, hvalid⟩
    have hfails : validate mode (d.ofMode mode) = .error (.repeated mode what) :=
      validate_eq_error_iff.2 ⟨what, rfl, hfirst⟩
    unfold ofDocument
    cases mode with
    | default =>
        simp only [Document.ofMode] at hfails
        simp [hfails, bind, Except.bind]
    | empty =>
        obtain ⟨t, ht⟩ := Table.exists_ofRaw_iff.2 (hvalid rfl)
        have hd : validate .default d.default = .ok t := validate_eq_ok_iff.2 ht
        simp only [Document.ofMode] at hfails
        simp [hd, hfails, bind, Except.bind]

/-- **A document is accepted exactly if both tables are valid, predicts what it lists for the mode,
and is refused for its first repeat**, the default table scanned before the empty one. -/
theorem validation_exact (hread : Document.parse text = .ok d) :
    ((∃ tables, parse text = .ok tables) ↔ ∀ mode, (d.ofMode mode).Valid) ∧
    (∀ tables, parse text = .ok tables → ∀ mode v p,
      ((Predictor.ofTables tables mode).predicts ⟨v, p⟩ = true ↔ (d.ofMode mode).Lists v p) ∧
      ∀ text' d', Document.parse text' = .ok d' → (d.ofMode mode).Rearranged (d'.ofMode mode) →
        (d'.ofMode mode).Valid ∧ ∀ tables', parse text' = .ok tables' →
          (Predictor.ofTables tables' mode).predicts ⟨v, p⟩ =
            (Predictor.ofTables tables mode).predicts ⟨v, p⟩) ∧
    (∀ e, parse text = .error e ↔
      ∃ mode what, e = .repeated mode what ∧ (d.ofMode mode).FirstRepeat what ∧
        (mode = .empty → d.default.Valid)) ∧
    ∀ mode v p (e : DocumentError),
      (e.message = "exclusion table lists " ++ v.token ++ " more than once (" ++ mode.token ++
        " context)" ↔ e = .repeated mode (.variant v)) ∧
      (e.message = "exclusion table lists " ++ p.token ++ " more than once for " ++ v.token ++
        " (" ++ mode.token ++ " context)" ↔ e = .repeated mode (.program v p)) := by
  have hparse : parse text = ofDocument d := by
    simp [parse, hread, bind, Except.bind]
  refine ⟨by rw [hparse, exists_ofDocument_iff], ?_,
    fun e => by rw [hparse, ofDocument_eq_error_iff], fun mode v p e =>
      ⟨DocumentError.message_eq_iff mode (.variant v),
        DocumentError.message_eq_iff mode (.program v p)⟩⟩
  intro tables h mode v p
  have hlists : (Predictor.ofTables tables mode).predicts ⟨v, p⟩ = true ↔
      (d.ofMode mode).Lists v p := lists_iff hread h
  refine ⟨hlists, fun text' d' hread' hsame => ⟨?_, fun tables' h' => ?_⟩⟩
  · rw [← hsame.valid_iff]
    exact Table.exists_ofRaw_iff.1 ⟨_, ofRaw_of_ofDocument (ofDocument_of_parse hread h) mode⟩
  · have hlists' : (Predictor.ofTables tables' mode).predicts ⟨v, p⟩ = true ↔
        (d'.ofMode mode).Lists v p := lists_iff hread' h'
    rw [Bool.eq_iff_iff, hlists', hlists, hsame.lists_iff]

/-- A document with repeats in both of its tables: of a variant and of a program in one, and of a
program in the other. -/
def repeating : Document where
  default := [(.obj2, [.eclipse]), (.obj3, []), (.obj2, [.chart, .chart])]
  empty := [(.obj3, [.jpc, .jpc])]

/-- The empty table stands in front of the default one, and the program is repeated in the entry
whose variant is; what is reported is the variant, of the default table. -/
theorem repeated_variant_reported :
    Document.parse repeating.written = .ok repeating ∧
      parse repeating.written = .error (.repeated .default (.variant .obj2)) := by
  have hread : Document.parse repeating.written = .ok repeating := repeating.parse_written
  have hfirst : (repeating.ofMode .default).FirstRepeat (.variant .obj2) := by
    have hvalid : RawTable.Valid [(.obj2, [.eclipse]), (.obj3, [])] := by decide
    exact .variant rfl hvalid (by decide)
  exact ⟨hread, ((validation_exact hread).2.2.1 _).2 ⟨_, _, rfl, hfirst, by simp⟩⟩

end Tables

end BatchRunner.Exclusion
