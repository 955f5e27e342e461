/-
**From tokens to the job matrix.**

Tokens are sorted into variants and programs one by one; each member is kept where it is named
first, and the first token that names nothing ends the reading.  The matrix pairs the two sides, and
the place of a job in it is told by the places of its variant and its program.

Main definitions:

* `Firsts` — the distinct members of a list, in the order in which they come first;
* `Selection.Unknown` — a token that is in neither catalog;
* `Selection.named` — the members that tokens name, in order and with repeats;
* `Selection.Sides` — the variants and the programs that a matrix pairs.

Main results:

* `Firsts.unique` — **the order of first occurrence leaves no choice**;
* `Firsts.addNew` — adding a member where it is new keeps that order;
* `Selection.ofTokens_eq_error_iff`, `Selection.ofTokens_eq_ok_iff` — which tokens are refused, and
  what the others are read as;
* `Selection.getElem?_pair` — where a pair stands in the flattened product;
* `Selection.matrix_of_tokens` — **the matrix that tokens stand for**.
-/
import BatchRunner.Selection
import Mathlib.Data.List.Nodup

set_option autoImplicit false

namespace BatchRunner

/-! ### The order of first occurrence -/

/-- The list `ys` has the members of `xs`, each of them once, in the order in which they come first
in `xs`. -/
structure Firsts {α : Type} [DecidableEq α] (xs ys : List α) : Prop where
  mem : ∀ x, x ∈ ys ↔ x ∈ xs
  order : ys.Pairwise fun x y => xs.idxOf x < xs.idxOf y

namespace Firsts

variable {α : Type} [DecidableEq α] {xs ys zs : List α} {x : α}

theorem nil : Firsts ([] : List α) [] := ⟨fun _ => Iff.rfl, .nil⟩

theorem nodup (h : Firsts xs ys) : ys.Nodup := by
  refine h.order.imp fun {x y} hlt heq => ?_
  rw [heq] at hlt
  exact Nat.lt_irrefl _ hlt

/-- **The order of first occurrence leaves no choice.** -/
theorem unique (h : Firsts xs ys) (h' : Firsts xs zs) : ys = zs := by
  have hperm : ys.Perm zs := by
    rw [List.perm_ext_iff_of_nodup h.nodup h'.nodup]
    intro x
    rw [h.mem, h'.mem]
  refine hperm.eq_of_pairwise ?_ h.order h'.order
  intro x y _ _ hlt hgt
  exact absurd hgt (Nat.lt_asymm hlt)

/-- A list has firsts exactly if it has members. -/
theorem eq_nil_iff (h : Firsts xs ys) : ys = [] ↔ xs = [] := by
  simp only [List.eq_nil_iff_forall_not_mem, h.mem]

/-- What comes first stays where it is when members are added behind. -/
theorem order_append (h : Firsts xs ys) (more : List α) :
    ys.Pairwise fun x y => (xs ++ more).idxOf x < (xs ++ more).idxOf y := by
  refine h.order.imp_of_mem fun {x y} hx hy hlt => ?_
  rwa [List.idxOf_append_of_mem ((h.mem x).1 hx), List.idxOf_append_of_mem ((h.mem y).1 hy)]

/-- **A member that comes behind is added where it is new.** -/
theorem addNew (h : Firsts xs ys) (x : α) : Firsts (xs ++ [x]) (addNew ys x) := by
  unfold BatchRunner.addNew
  by_cases hx : x ∈ ys
  · rw [if_pos hx]
    refine ⟨fun y => ?_, h.order_append [x]⟩
    rw [h.mem, List.mem_append, List.mem_singleton]
    constructor
    · exact .inl
    · rintro (hy | rfl)
      · exact hy
      · exact (h.mem y).1 hx
  · rw [if_neg hx]
    have hnew : x ∉ xs := fun hmem => hx ((h.mem x).2 hmem)
    refine ⟨fun y => by simp [h.mem], ?_⟩
    rw [List.pairwise_append]
    refine ⟨h.order_append [x], List.pairwise_singleton _ _, ?_⟩
    -- whatever was there stands before the end of `xs`, which is where the new member comes
    intro y hy z hz
    obtain rfl := List.mem_singleton.1 hz
    have hmem := (h.mem y).1 hy
    rw [List.idxOf_append_of_mem hmem, List.idxOf_append_of_notMem hnew, List.idxOf_cons_self,
      Nat.add_zero]
    exact List.idxOf_lt_length_iff.2 hmem

end Firsts

namespace Selection

variable {tokens : List String} {token : String} {s s' : Selection} {all : Bool} {v : Variant}
  {p : Program} {e : UsageError}

/-! ### Reading tokens -/

/-- A token that is in neither catalog. -/
def Unknown (token : String) : Prop :=
  token ∉ Catalog.tokens Variant ∧ token ∉ Catalog.tokens Program

instance : DecidablePred Unknown := fun token =>
  inferInstanceAs (Decidable (token ∉ Catalog.tokens Variant ∧ token ∉ Catalog.tokens Program))

/-- The members of a catalog that tokens name, in order and with repeats. -/
def named (α : Type) [Catalog α] (tokens : List String) : List α :=
  tokens.filterMap Catalog.ofToken?

/-- No token is in both catalogs. -/
theorem token_ne (v : Variant) (p : Program) : v.token ≠ p.token := by
  cases v <;> cases p <;> decide

theorem mem_tokens_iff {α : Type} [Catalog α] [LawfulCatalog α] :
    token ∈ Catalog.tokens α ↔ ∃ x : α, Catalog.token x = token := by
  simp [Catalog.tokens, LawfulCatalog.mem_all]

theorem mem_named_iff {α : Type} [Catalog α] [LawfulCatalog α] {x : α} :
    x ∈ named α tokens ↔ Catalog.token x ∈ tokens := by
  simp [named, Catalog.ofToken?_eq_some_iff]

theorem ofToken?_variant (v : Variant) : Catalog.ofToken? v.token = some v :=
  Catalog.ofToken?_token v

theorem ofToken?_program (p : Program) : Catalog.ofToken? p.token = some p :=
  Catalog.ofToken?_token p

theorem ofToken?_program_eq_none (p : Program) :
    (Catalog.ofToken? p.token : Option Variant) = none :=
  Catalog.ofToken?_eq_none_iff.2 fun v => token_ne v p

theorem ofToken?_variant_eq_none (v : Variant) :
    (Catalog.ofToken? v.token : Option Program) = none :=
  Catalog.ofToken?_eq_none_iff.2 fun p => (token_ne v p).symm

/-- The ways one more token can go. -/
inductive Reads (s : Selection) (token : String) : Prop where
  | variant (v : Variant) (token_eq : token = v.token)
      (added : s.add token = .ok { s with analyses := addNew s.analyses v })
  | program (p : Program) (token_eq : token = p.token)
      (added : s.add token = .ok { s with benchmarks := addNew s.benchmarks p })
  | unknown (unknown : Unknown token) (refused : s.add token = .error (.unknownTarget token))

/-- **Every token goes one of these ways.** -/
theorem reads (s : Selection) (token : String) : s.Reads token := by
  cases hv : (Catalog.ofToken? token : Option Variant) with
  | some v =>
      have htoken : v.token = token := Catalog.ofToken?_eq_some_iff.1 hv
      exact .variant v htoken.symm (by simp only [add, hv])
  | none =>
      cases hp : (Catalog.ofToken? token : Option Program) with
      | some p =>
          have htoken : p.token = token := Catalog.ofToken?_eq_some_iff.1 hp
          exact .program p htoken.symm (by simp only [add, hv, hp])
      | none =>
          refine .unknown ⟨fun hmem => ?_, fun hmem => ?_⟩ (by simp only [add, hv, hp])
          · obtain ⟨v, hmem⟩ := mem_tokens_iff.1 hmem
            exact Catalog.ofToken?_eq_none_iff.1 hv v hmem
          · obtain ⟨p, hmem⟩ := mem_tokens_iff.1 hmem
            exact Catalog.ofToken?_eq_none_iff.1 hp p hmem

theorem not_unknown_variant (v : Variant) : ¬ Unknown v.token :=
  fun h => h.1 (mem_tokens_iff.2 ⟨v, rfl⟩)

theorem not_unknown_program (p : Program) : ¬ Unknown p.token :=
  fun h => h.2 (mem_tokens_iff.2 ⟨p, rfl⟩)

/-- Reading ends with an error at the first token that is in neither catalog, and at no other. -/
theorem foldlM_add_eq_error_iff :
    tokens.foldlM add s = .error e ↔
      ∃ token, tokens.find? (fun t => decide (Unknown t)) = some token ∧
        e = .unknownTarget token := by
  induction tokens generalizing s with
  | nil => simp [pure, Except.pure]
  | cons token tokens ih =>
      rw [List.foldlM_cons]
      cases s.reads token with
      | variant v htoken added =>
          have hknown : ¬ Unknown token := htoken ▸ not_unknown_variant v
          rw [added, List.find?_cons_of_neg (by simpa using hknown)]
          exact ih
      | program p htoken added =>
          have hknown : ¬ Unknown token := htoken ▸ not_unknown_program p
          rw [added, List.find?_cons_of_neg (by simpa using hknown)]
          exact ih
      | unknown unknown refused =>
          rw [refused, List.find?_cons_of_pos (by simpa using unknown)]
          simp [bind, Except.bind, eq_comm]

/-- What reading keeps: behind what was named before, the members that the tokens name. -/
theorem firsts_of_foldlM_add {vs : List Variant} {ps : List Program}
    (h : tokens.foldlM add s = .ok s') (hv : Firsts vs s.analyses) (hp : Firsts ps s.benchmarks) :
    s'.all = s.all ∧ Firsts (vs ++ named Variant tokens) s'.analyses ∧
      Firsts (ps ++ named Program tokens) s'.benchmarks := by
  induction tokens generalizing s vs ps with
  | nil =>
      obtain rfl : s = s' := by simpa [pure, Except.pure] using h
      simpa [named] using ⟨hv, hp⟩
  | cons token tokens ih =>
      rw [List.foldlM_cons] at h
      cases s.reads token with
      | variant v htoken added =>
          rw [added] at h
          have hrest := ih h (hv.addNew v) hp
          subst htoken
          simpa [named, ofToken?_variant, ofToken?_variant_eq_none] using hrest
      | program p htoken added =>
          rw [added] at h
          have hrest := ih h hv (hp.addNew p)
          subst htoken
          simpa [named, ofToken?_program, ofToken?_program_eq_none] using hrest
      | unknown _ refused =>
          rw [refused] at h
          exact nomatch h

/-- **Which tokens are refused**: reading fails exactly if some token is in neither catalog, and the
error carries the first one. -/
theorem ofTokens_eq_error_iff :
    ofTokens tokens all = .error e ↔
      ∃ token, tokens.find? (fun t => decide (Unknown t)) = some token ∧
        e = .unknownTarget token :=
  foldlM_add_eq_error_iff

/-- What tokens are read as, if they are read. -/
theorem firsts_of_ofTokens (h : ofTokens tokens all = .ok s) :
    s.all = all ∧ Firsts (named Variant tokens) s.analyses ∧
      Firsts (named Program tokens) s.benchmarks := by
  simpa [nothing] using firsts_of_foldlM_add h Firsts.nil Firsts.nil

/-- **What tokens are read as**: the variants and the programs that they name, each side in the order
of first occurrence and without regard to the other. -/
theorem ofTokens_eq_ok_iff :
    ofTokens tokens all = .ok s ↔
      (∀ token ∈ tokens, ¬ Unknown token) ∧ s.all = all ∧
        Firsts (named Variant tokens) s.analyses ∧ Firsts (named Program tokens) s.benchmarks := by
  constructor
  · intro h
    refine ⟨fun token hmem hunknown => ?_, firsts_of_ofTokens h⟩
    cases hfind : tokens.find? (fun t => decide (Unknown t)) with
    | none =>
        have hknown := List.find?_eq_none.1 hfind token hmem
        exact hknown (by simpa using hunknown)
    | some first =>
        have herror : ofTokens tokens all = .error (.unknownTarget first) :=
          ofTokens_eq_error_iff.2 ⟨first, hfind, rfl⟩
        rw [herror] at h
        exact nomatch h
  · rintro ⟨hknown, hall, hvariants, hprograms⟩
    cases h : ofTokens tokens all with
    | error e =>
        obtain ⟨token, hfind, -⟩ := ofTokens_eq_error_iff.1 h
        have hunknown : Unknown token := by simpa using List.find?_some hfind
        exact absurd hunknown (hknown token (List.mem_of_find?_eq_some hfind))
    | ok s' =>
        obtain ⟨hall', hvariants', hprograms'⟩ := firsts_of_ofTokens h
        have hanalyses := hvariants.unique hvariants'
        have hbenchmarks := hprograms.unique hprograms'
        have hsame := hall.trans hall'.symm
        cases s
        cases s'
        simp_all

/-! ### Pairing the two sides -/

/-- The two sides of the matrix of a selection: what is named, or what stands for nothing named. -/
structure Sides (s : Selection) (variants : List Variant) (programs : List Program) : Prop where
  variants_of_named : s.analyses ≠ [] → variants = s.analyses
  variants_of_all : s.analyses = [] → s.all = true → variants = Catalog.all
  variants_of_nothing : s.analyses = [] → s.all = false → variants = [Variant.insens]
  programs_of_named : s.benchmarks ≠ [] → programs = s.benchmarks
  programs_of_all : s.benchmarks = [] → programs = Catalog.all

/-- The sides that are paired, unless there are no programs. -/
theorem sides (hprograms : s.programs ≠ []) : s.Sides s.variants s.programs where
  variants_of_named h := by simp [variants, h]
  variants_of_all h hall := by
    simp only [variants, h, ne_eq, not_true_eq_false, if_false, hall, if_true]
    rfl
  variants_of_nothing h hall := by simp [variants, h, hall]
  programs_of_named h := by simp [programs, h]
  programs_of_all h := by
    have hall : s.all = true := by
      rw [← Bool.not_eq_false]
      intro hall
      exact hprograms (by simp [programs, h, hall])
    simp only [programs, h, ne_eq, not_true_eq_false, if_false, hall, if_true]
    rfl

theorem programs_eq_nil_iff : s.programs = [] ↔ s.benchmarks = [] ∧ s.all = false := by
  have hcatalog : Program.all ≠ [] := by decide
  by_cases hb : s.benchmarks = []
  · cases hall : s.all <;> simp [programs, hb, hall, hcatalog]
  · simp [programs, hb]

/-- No variant takes part twice. -/
theorem nodup_variants (h : s.analyses.Nodup) : s.variants.Nodup := by
  unfold variants
  split
  · exact h
  · split <;> decide

/-- No program takes part twice. -/
theorem nodup_programs (h : s.benchmarks.Nodup) : s.programs.Nodup := by
  unfold programs
  split
  · exact h
  · split <;> decide

/-- Every variant with every program, variant by variant. -/
def pairs (variants : List Variant) (programs : List Program) : List Job :=
  variants.flatMap fun v => programs.map fun p => ⟨v, p⟩

theorem length_pairs (variants : List Variant) (programs : List Program) :
    (pairs variants programs).length = variants.length * programs.length := by
  induction variants with
  | nil => simp [pairs]
  | cons v variants ih =>
      have hcons : pairs (v :: variants) programs =
          (programs.map fun p => ⟨v, p⟩) ++ pairs variants programs := rfl
      rw [hcons, List.length_append, List.length_map, ih, List.length_cons, Nat.succ_mul,
        Nat.add_comm]

/-- **Where a pair stands**: behind all pairs of the variants before, at the place of its program. -/
theorem getElem?_pair {variants : List Variant} {programs : List Program} {i j : Nat}
    (hi : i < variants.length) (hj : j < programs.length) :
    (pairs variants programs)[i * programs.length + j]? = some ⟨variants[i], programs[j]⟩ := by
  induction variants generalizing i with
  | nil => exact absurd hi (Nat.not_lt_zero i)
  | cons v variants ih =>
      have hcons : pairs (v :: variants) programs =
          (programs.map fun p => ⟨v, p⟩) ++ pairs variants programs := rfl
      rw [hcons]
      cases i with
      | zero =>
          rw [Nat.zero_mul, Nat.zero_add, List.getElem?_append_left (by simpa using hj)]
          simp [hj]
      | succ i =>
          have hskip : (i + 1) * programs.length + j =
              programs.length + (i * programs.length + j) := by
            rw [Nat.succ_mul]
            omega
          rw [List.getElem?_append_right (by rw [List.length_map]; omega), List.length_map, hskip,
            Nat.add_sub_cancel_left]
          exact ih (by simpa using hi)

theorem nodup_pairs {variants : List Variant} {programs : List Program} (hv : variants.Nodup)
    (hp : programs.Nodup) : (pairs variants programs).Nodup := by
  rw [pairs, List.nodup_flatMap]
  constructor
  · intro v _
    exact hp.map fun p p' h => (Job.mk.inj h).2
  · refine hv.imp fun {v v'} hne => ?_
    intro job hjob hjob'
    obtain ⟨p, -, rfl⟩ := List.mem_map.1 hjob
    obtain ⟨p', -, hsame⟩ := List.mem_map.1 hjob'
    exact hne (Job.mk.inj hsame).1.symm

theorem jobs_eq_error_iff :
    s.jobs = .error e ↔ e = .noBenchmarks ∧ s.benchmarks = [] ∧ s.all = false := by
  rw [← programs_eq_nil_iff]
  by_cases h : s.programs = [] <;> simp [jobs, h, eq_comm]

theorem jobs_eq_ok_iff {js : List Job} :
    s.jobs = .ok js ↔ s.programs ≠ [] ∧ js = pairs s.variants s.programs := by
  by_cases h : s.programs = []
  · simp [jobs, h]
  · simp [jobs, h, pairs, eq_comm]

/-- **The matrix that tokens stand for.**  Tokens are refused exactly if one of them is in neither
catalog, and the first such token is reported.  All others are read as the distinct variants and
programs that they name in the order of first occurrence, however the two kinds are mixed.  Such a
selection has no matrix exactly if no program is named and not everything is asked for; otherwise its
matrix pairs the two sides, variant by variant, and no job comes twice. -/
theorem matrix_of_tokens (tokens : List String) (all : Bool) :
    (∀ e, ofTokens tokens all = .error e ↔
      ∃ token, tokens.find? (fun t => decide (Unknown t)) = some token ∧
        e = .unknownTarget token) ∧
    (∀ s, ofTokens tokens all = .ok s ↔
      (∀ token ∈ tokens, ¬ Unknown token) ∧ s.all = all ∧
        Firsts (named Variant tokens) s.analyses ∧ Firsts (named Program tokens) s.benchmarks) ∧
    ∀ s, ofTokens tokens all = .ok s →
      (∀ e, s.jobs = .error e ↔
        e = .noBenchmarks ∧ (∀ p : Program, p.token ∉ tokens) ∧ all = false) ∧
      ∀ js, s.jobs = .ok js → ∃ variants programs, s.Sides variants programs ∧
        js.length = variants.length * programs.length ∧
        (∀ i j (hi : i < variants.length) (hj : j < programs.length),
          js[i * programs.length + j]? = some ⟨variants[i], programs[j]⟩) ∧
        js.Nodup := by
  refine ⟨fun e => ofTokens_eq_error_iff, fun s => ofTokens_eq_ok_iff, fun s hs => ?_⟩
  obtain ⟨hall, hvariants, hprograms⟩ := firsts_of_ofTokens hs
  constructor
  · intro e
    have hnone : s.benchmarks = [] ↔ ∀ p : Program, p.token ∉ tokens := by
      rw [hprograms.eq_nil_iff, List.eq_nil_iff_forall_not_mem]
      exact forall_congr' fun p => not_congr mem_named_iff
    rw [jobs_eq_error_iff, hnone, hall]
  · intro js hjobs
    obtain ⟨hne, rfl⟩ := jobs_eq_ok_iff.1 hjobs
    refine ⟨s.variants, s.programs, sides hne, length_pairs _ _, ?_, ?_⟩
    · intro i j hi hj
      exact getElem?_pair hi hj
    · exact nodup_pairs (nodup_variants hvariants.nodup) (nodup_programs hprograms.nodup)

/-- Two kinds of tokens, mixed and with repeats. -/
example : (ofTokens ["xalan", "2t", "bloat", "1o", "2t"] false).bind jobs =
    .ok [⟨.type2, .xalan⟩, ⟨.type2, .bloat⟩, ⟨.obj1, .xalan⟩, ⟨.obj1, .bloat⟩] := by
  decide

end Selection

end BatchRunner
