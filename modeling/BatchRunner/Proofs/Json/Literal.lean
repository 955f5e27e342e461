/-
**String literals are read exactly.**

A literal is read unit by unit up to its closing quote.  The reader accepts every way of writing
characters between quotes and no other, and what it gives is what is written there.

Main definitions:

* `Json.Gives`, `Json.Leaves` — what a reading function gives, and what it leaves to be read.

Main results:

* `Json.gives_readQuad_iff`, `Json.gives_readHexEscape_iff` — hexadecimal escapes, also in pairs;
* `Json.gives_readText_iff` — **a literal is read as exactly what it spells**.
-/
import BatchRunner.Json.Literal
import BatchRunner.Proofs.Json.Token
import Mathlib.Tactic.IntervalCases

set_option autoImplicit false

namespace BatchRunner.Json

/-- What was read is `x`, and `r` is left to be read. -/
def Gives {α : Type} (result : Except Fault (α × Cursor)) (x : α) (r : List Char) : Prop :=
  ∃ p, result = .ok (x, ⟨r, p⟩)

/-- What had to be there was there, and `r` is left to be read. -/
def Leaves (result : Except Fault Cursor) (r : List Char) : Prop :=
  ∃ p, result = .ok ⟨r, p⟩

variable {α β : Type} {c c' : Cursor} {x x' : α} {r s : List Char} {y z : Char} {n : Nat}
  {cause : Cause} {f : Fault}

/-! ### What reading functions give -/

@[simp] theorem gives_ok_iff : Gives (.ok (x, c)) x' r ↔ x = x' ∧ c.rest = r := by
  constructor
  · rintro ⟨p, h⟩
    obtain ⟨rfl, rfl⟩ : x = x' ∧ c = ⟨r, p⟩ := by simpa using h
    exact ⟨rfl, rfl⟩
  · rintro ⟨rfl, rfl⟩
    exact ⟨c.here, rfl⟩

@[simp] theorem not_gives_error : ¬ Gives (.error f) x r := by
  rintro ⟨p, h⟩
  exact absurd h (by simp)

@[simp] theorem not_gives_failHere : ¬ Gives (c.failHere cause) x r := not_gives_error

@[simp] theorem not_gives_failAhead : ¬ Gives (c.failAhead cause) x r := not_gives_error

@[simp] theorem leaves_ok_iff : Leaves (.ok c) r ↔ c.rest = r := by
  constructor
  · rintro ⟨p, h⟩
    obtain rfl : c = ⟨r, p⟩ := by simpa using h
    rfl
  · rintro rfl
    exact ⟨c.here, rfl⟩

@[simp] theorem not_leaves_error : ¬ Leaves (.error f) r := by
  rintro ⟨p, h⟩
  exact absurd h (by simp)

@[simp] theorem not_leaves_failHere : ¬ Leaves (c.failHere cause) r := not_leaves_error

@[simp] theorem not_leaves_failAhead : ¬ Leaves (c.failAhead cause) r := not_leaves_error

theorem Gives.of_eq {result : Except Fault (α × Cursor)} (h : result = .ok (x, c)) :
    Gives result x c.rest := ⟨c.here, h⟩

theorem Leaves.of_eq {result : Except Fault Cursor} (h : result = .ok c) : Leaves result c.rest :=
  ⟨c.here, h⟩

/-- Reading goes on from where it was left. -/
theorem Gives.exists_eq {result : Except Fault (α × Cursor)} (h : Gives result x r) :
    ∃ c : Cursor, result = .ok (x, c) ∧ c.rest = r := by
  obtain ⟨p, hp⟩ := h
  exact ⟨_, hp, rfl⟩

@[inherit_doc Gives.exists_eq]
theorem Leaves.exists_eq {result : Except Fault Cursor} (h : Leaves result r) :
    ∃ c : Cursor, result = .ok c ∧ c.rest = r := by
  obtain ⟨p, hp⟩ := h
  exact ⟨_, hp, rfl⟩

theorem Gives.of_bind {a : Except Fault β} {k : β → Except Fault (α × Cursor)}
    (h : Gives (a >>= k) x r) : ∃ b, a = .ok b ∧ Gives (k b) x r := by
  obtain ⟨p, h⟩ := h
  obtain ⟨b, hb, h⟩ := ok_of_bind h
  exact ⟨b, hb, p, h⟩

@[simp] theorem Cursor.rest_skip (c : Cursor) : c.skip.rest = c.rest.tail := by
  obtain ⟨rest, here⟩ := c
  cases rest <;> rfl

@[simp] theorem Cursor.rest_skipBlanks (c : Cursor) :
    c.skipBlanks.rest = c.rest.dropWhile isBlank := by
  obtain ⟨rest, here⟩ := c
  unfold skipBlanks
  induction rest generalizing here with
  | nil => rfl
  | cons x xs ih =>
      by_cases hx : isBlank x = true
      · rw [skipBlanksFrom, if_pos hx, List.dropWhile_cons_of_pos hx]
        exact ih _
      · rw [skipBlanksFrom, if_neg hx, List.dropWhile_cons_of_neg hx]

/-! ### Hexadecimal digits -/

theorem hexValue?_eq_some_iff : hexValue? y = some n ↔ HexDigit y n := by
  constructor
  · intro h
    have hy : Char.ofNat y.toNat = y := Char.ofNat_toNat y
    unfold hexValue? at h
    split at h
    · next hr =>
        have hlow : 48 ≤ y.toNat := hr.1
        have hhigh : y.toNat ≤ 57 := hr.2
        obtain rfl : y.toNat - 48 = n := by simpa using h
        rw [← hy]
        interval_cases y.toNat <;> exact .inl (by decide)
    · split at h
      · next hr =>
          have hlow : 97 ≤ y.toNat := hr.1
          have hhigh : y.toNat ≤ 102 := hr.2
          obtain rfl : y.toNat - 97 + 10 = n := by simpa using h
          rw [← hy]
          interval_cases y.toNat <;> exact .inl (by decide)
      · split at h
        · next hr =>
            have hlow : 65 ≤ y.toNat := hr.1
            have hhigh : y.toNat ≤ 70 := hr.2
            obtain rfl : y.toNat - 65 + 10 = n := by simpa using h
            rw [← hy]
            interval_cases y.toNat <;> exact .inr (by decide)
        · exact absurd h (by simp)
  · rintro (h | h)
    · have hn : n < 16 := (List.getElem?_eq_some_iff.1 h).1
      interval_cases n <;> (obtain rfl := Option.some.inj h; decide)
    · have hn : n < 16 := (List.getElem?_eq_some_iff.1 h).1
      interval_cases n <;> (obtain rfl := Option.some.inj h; decide)

theorem HexDigit.lt (h : HexDigit y n) : n < 16 := by
  rcases h with h | h <;> exact (List.getElem?_eq_some_iff.1 h).1

theorem Quad.lt {q : List Char} (h : Quad q n) : n < 0x10000 := by
  obtain ⟨a, b, c, d, w, x, y, z, -, hw, hx, hy, hz, rfl⟩ := h
  have := hw.lt
  have := hx.lt
  have := hy.lt
  have := hz.lt
  omega

theorem quadValue?_eq_some_iff {a b c d : Char} :
    quadValue? a b c d = some n ↔ Quad [a, b, c, d] n := by
  have hsum : ∀ w x y z : Nat, ((w * 16 + x) * 16 + y) * 16 + z
      = 4096 * w + 256 * x + 16 * y + z := by
    intro w x y z
    omega
  constructor
  · intro h
    simp only [quadValue?, Option.bind_eq_bind, Option.bind_eq_some_iff, Option.pure_def,
      Option.some.injEq] at h
    obtain ⟨w, hw, x, hx, y, hy, z, hz, rfl⟩ := h
    exact ⟨a, b, c, d, w, x, y, z, rfl, hexValue?_eq_some_iff.1 hw, hexValue?_eq_some_iff.1 hx,
      hexValue?_eq_some_iff.1 hy, hexValue?_eq_some_iff.1 hz, hsum w x y z⟩
  · rintro ⟨_, _, _, _, w, x, y, z, heq, hw, hx, hy, hz, rfl⟩
    obtain ⟨rfl, rfl, rfl, rfl⟩ : _ ∧ _ ∧ _ ∧ _ := by simpa using heq
    simp [quadValue?, hexValue?_eq_some_iff.2 hw, hexValue?_eq_some_iff.2 hx,
      hexValue?_eq_some_iff.2 hy, hexValue?_eq_some_iff.2 hz, hsum]

theorem gives_readQuad_iff : Gives (readQuad c) n r ↔ ∃ q, c.rest = q ++ r ∧ Quad q n := by
  constructor
  · intro h
    unfold readQuad at h
    split at h
    · next m hm =>
        obtain ⟨rfl, hr⟩ := gives_ok_iff.1 h
        unfold Cursor.quad? at hm
        split at hm
        · next a b x d s hs =>
            have hs' : s = r := by simpa [Cursor.skip4, hs] using hr
            exact ⟨[a, b, x, d], by rw [hs, hs']; rfl, quadValue?_eq_some_iff.1 hm⟩
        · exact absurd hm (by simp)
    · split at h <;> exact absurd h not_gives_error
  · rintro ⟨q, hs, hq⟩
    have hlist := hq
    obtain ⟨a, b, x, d, -, -, -, -, rfl, -⟩ := hlist
    have hvalue : c.quad? = some n := by
      unfold Cursor.quad?
      rw [hs]
      exact quadValue?_eq_some_iff.2 hq
    unfold readQuad
    rw [hvalue]
    exact gives_ok_iff.2 ⟨rfl, by simp [Cursor.skip4, hs]⟩

/-! ### Escapes -/

theorem leaves_expectInPair_iff : Leaves (expectInPair y c) r ↔ c.rest = y :: r := by
  unfold expectInPair
  constructor
  · intro h
    split at h
    · exact absurd h not_leaves_failHere
    · next x s hs =>
        split at h
        · next hx =>
            have hr : s = r := by simpa [hs] using h
            rw [hs, hx, hr]
        · exact absurd h not_leaves_failAhead
  · intro hs
    simp [hs]

/-- Behind a backslash and the letter for it stand one or two code units. -/
theorem writes_unicode_iff {u : List Char} :
    Writes ('\\' :: 'u' :: u) y ↔
      Quad u y.toNat ∨ ∃ q q' high low, u = q ++ '\\' :: 'u' :: q' ∧ Quad q (0xd800 + high) ∧
        Quad q' (0xdc00 + low) ∧ high < 0x400 ∧ low < 0x400 ∧
        y.toNat = 0x10000 + 0x400 * high + low := by
  constructor
  · intro h
    cases h with
    | short known => exact absurd known (by simp [shortEscapes])
    | unit value => exact .inl value
    | pair first second hh hl value =>
        exact .inr ⟨_, _, _, _, rfl, first, second, hh, hl, value⟩
  · rintro (h | ⟨q, q', high, low, rfl, first, second, hh, hl, value⟩)
    · exact .unit h
    · exact .pair first second hh hl value

theorem isHighSurrogate_iff : isHighSurrogate n = true ↔ 0xd800 ≤ n ∧ n ≤ 0xdbff := by
  simp [isHighSurrogate]

theorem isLowSurrogate_iff : isLowSurrogate n = true ↔ 0xdc00 ≤ n ∧ n ≤ 0xdfff := by
  simp [isLowSurrogate]

/-- The number of a character is not that of half a pair. -/
theorem not_surrogate (y : Char) :
    isHighSurrogate y.toNat = false ∧ isLowSurrogate y.toNat = false := by
  have hy : y.toNat.isValidChar := y.valid
  rw [Bool.eq_false_iff, Bool.eq_false_iff, Ne, Ne, isHighSurrogate_iff, isLowSurrogate_iff]
  unfold Nat.isValidChar at hy
  omega

theorem toNat_ofNat_of_valid (h : n.isValidChar) : (Char.ofNat n).toNat = n := by
  rw [Char.ofNat, dif_pos h]
  rfl

/-- A number that is no half of a pair stands for itself. -/
theorem gives_readHexEscape_of_unit {u : List Char} (hu : c.rest = u ++ r)
    (hquad : Quad u y.toNat) : Gives (readHexEscape c) y r := by
  obtain ⟨c₁, h₁, hr⟩ := (gives_readQuad_iff.2 ⟨u, hu, hquad⟩).exists_eq
  unfold readHexEscape
  simp only [h₁, bind, Except.bind, (not_surrogate y).1, (not_surrogate y).2,
    Bool.false_eq_true, if_false, Char.ofNat_toNat]
  exact gives_ok_iff.2 ⟨rfl, hr⟩

/-- Two halves stand for a character beyond the basic plane. -/
theorem gives_readHexEscape_of_pair {q q' : List Char} {high low : Nat}
    (hu : c.rest = (q ++ '\\' :: 'u' :: q') ++ r) (hfirst : Quad q (0xd800 + high))
    (hsecond : Quad q' (0xdc00 + low)) (hh : high < 0x400) (hl : low < 0x400)
    (hvalue : y.toNat = 0x10000 + 0x400 * high + low) : Gives (readHexEscape c) y r := by
  have hhigh : isHighSurrogate (0xd800 + high) = true := isHighSurrogate_iff.2 (by omega)
  have hnot : isLowSurrogate (0xd800 + high) = false := by
    rw [Bool.eq_false_iff, Ne, isLowSurrogate_iff]
    omega
  have hlow : isLowSurrogate (0xdc00 + low) = true := isLowSurrogate_iff.2 (by omega)
  have hsum : (0xd800 + high - 0xd800) * 0x400 + (0xdc00 + low - 0xdc00) + 0x10000 = y.toNat := by
    omega
  obtain ⟨c₁, h₁, hr₁⟩ := (gives_readQuad_iff.2
    ⟨q, hu.trans (List.append_assoc _ _ _), hfirst⟩).exists_eq
  obtain ⟨c₂, h₂, hr₂⟩ := (leaves_expectInPair_iff.2 (hr₁.trans rfl)).exists_eq
  obtain ⟨c₃, h₃, hr₃⟩ := (leaves_expectInPair_iff.2 (hr₂.trans rfl)).exists_eq
  obtain ⟨c₄, h₄, hr₄⟩ := (gives_readQuad_iff.2 ⟨q', hr₃, hsecond⟩).exists_eq
  unfold readHexEscape
  simp only [h₁, h₂, h₃, h₄, bind, Except.bind, hhigh, hnot, hlow, Bool.false_eq_true,
    if_false, if_true, hsum, Char.ofNat_toNat]
  exact gives_ok_iff.2 ⟨rfl, hr₄⟩

theorem gives_readHexEscape_iff :
    Gives (readHexEscape c) y r ↔ ∃ u, c.rest = u ++ r ∧ Writes ('\\' :: 'u' :: u) y := by
  constructor
  · intro h
    obtain ⟨⟨n, c₁⟩, h₁, h⟩ := h.of_bind
    obtain ⟨q, hq, hn⟩ := gives_readQuad_iff.1 (Gives.of_eq h₁)
    have hbound := hn.lt
    simp only at h
    split at h
    · exact absurd h not_gives_failHere
    · next hlow =>
        rw [isLowSurrogate_iff] at hlow
        split at h
        · next hhigh =>
            rw [isHighSurrogate_iff] at hhigh
            obtain ⟨c₂, h₂, h⟩ := h.of_bind
            obtain ⟨c₃, h₃, h⟩ := h.of_bind
            obtain ⟨⟨m, c₄⟩, h₄, h⟩ := h.of_bind
            obtain ⟨q', hq', hm⟩ := gives_readQuad_iff.1 (Gives.of_eq h₄)
            have hslash := leaves_expectInPair_iff.1 (Leaves.of_eq h₂)
            have hletter := leaves_expectInPair_iff.1 (Leaves.of_eq h₃)
            simp only at h
            split at h
            · next hlow' =>
                rw [isLowSurrogate_iff] at hlow'
                obtain ⟨rfl, hr⟩ := gives_ok_iff.1 h
                have hvalue := toNat_ofNat_of_valid
                  (n := (n - 0xd800) * 0x400 + (m - 0xdc00) + 0x10000)
                  (by unfold Nat.isValidChar; omega)
                refine ⟨q ++ '\\' :: 'u' :: q', ?_, writes_unicode_iff.2 (.inr
                  ⟨q, q', n - 0xd800, m - 0xdc00, rfl, ?_, ?_, by omega, by omega, ?_⟩)⟩
                · rw [hq, hslash, hletter, hq', hr]
                  simp
                · rwa [Nat.add_sub_cancel' hhigh.1]
                · rwa [Nat.add_sub_cancel' hlow'.1]
                · rw [hvalue]
                  omega
            · exact absurd h not_gives_failHere
        · next hhigh =>
            rw [isHighSurrogate_iff] at hhigh
            obtain ⟨rfl, hr⟩ := gives_ok_iff.1 h
            refine ⟨q, by rw [hq, hr], .unit ?_⟩
            rwa [toNat_ofNat_of_valid (by unfold Nat.isValidChar; omega)]
  · rintro ⟨u, hu, hw⟩
    rcases writes_unicode_iff.1 hw with
      hquad | ⟨q, q', high, low, rfl, hfirst, hsecond, hh, hl, hvalue⟩
    · exact gives_readHexEscape_of_unit hu hquad
    · exact gives_readHexEscape_of_pair hu hfirst hsecond hh hl hvalue

theorem shortEscape?_eq_some_iff : shortEscape? y = some z ↔ (y, z) ∈ shortEscapes := by
  constructor
  · intro h
    unfold shortEscape? at h
    split at h <;> simp only [Option.some.injEq, reduceCtorEq] at h <;> subst h <;> decide
  · intro h
    simp only [shortEscapes, List.mem_cons, Prod.mk.injEq, List.not_mem_nil, or_false] at h
    rcases h with ⟨rfl, rfl⟩ | ⟨rfl, rfl⟩ | ⟨rfl, rfl⟩ | ⟨rfl, rfl⟩ | ⟨rfl, rfl⟩ | ⟨rfl, rfl⟩ |
      ⟨rfl, rfl⟩ | ⟨rfl, rfl⟩ <;> rfl

theorem gives_readEscape_iff :
    Gives (readEscape c) y r ↔ ∃ u, c.rest = u ++ r ∧ Writes ('\\' :: u) y := by
  unfold readEscape
  constructor
  · intro h
    split at h
    · exact absurd h not_gives_failHere
    · next s hs =>
        obtain ⟨u, hu, hw⟩ := gives_readHexEscape_iff.1 h
        rw [Cursor.rest_skip, hs, List.tail_cons] at hu
        exact ⟨'u' :: u, by rw [hs, hu]; rfl, hw⟩
    · next x s _ hs =>
        split at h
        · next z hz =>
            obtain ⟨rfl, hr⟩ := gives_ok_iff.1 h
            have hs' : s = r := by simpa [hs] using hr
            exact ⟨[x], by rw [hs, hs']; rfl, .short (shortEscape?_eq_some_iff.1 hz)⟩
        · exact absurd h not_gives_failAhead
  · rintro ⟨u, hu, hw⟩
    cases hw with
    | plain _ _ noBackslash => exact absurd rfl noBackslash
    | @short x _ known =>
        have hx : x ≠ 'u' := by
          rintro rfl
          exact absurd known (by simp [shortEscapes])
        simp [hu, shortEscape?_eq_some_iff.2 known]
    | @unit q _ value =>
        rw [hu]
        exact gives_readHexEscape_iff.2 ⟨q, by simp [hu], .unit value⟩
    | pair first second hh hl value =>
        rw [hu]
        exact gives_readHexEscape_iff.2 ⟨_, by simp [hu], .pair first second hh hl value⟩

/-! ### Literals -/

theorem gives_readUnit_none_iff : Gives (readUnit c) none r ↔ c.rest = '"' :: r := by
  unfold readUnit
  constructor
  · intro h
    split at h
    · exact absurd h not_gives_failHere
    · next s hs =>
        have hr : s = r := by simpa [hs] using h
        rw [hs, hr]
    · obtain ⟨⟨x, c₁⟩, -, h⟩ := h.of_bind
      exact absurd (gives_ok_iff.1 h).1 (by simp)
    · split at h
      · exact absurd h not_gives_failAhead
      · exact absurd (gives_ok_iff.1 h).1 (by simp)
  · intro hs
    simp [hs]

theorem gives_readUnit_some_iff :
    Gives (readUnit c) (some y) r ↔ ∃ u, c.rest = u ++ r ∧ Writes u y := by
  unfold readUnit
  constructor
  · intro h
    split at h
    · exact absurd h not_gives_failHere
    · exact absurd (gives_ok_iff.1 h).1 (by simp)
    · next s hs =>
        obtain ⟨⟨x, c₁⟩, h₁, h⟩ := h.of_bind
        obtain ⟨hx, hr⟩ := gives_ok_iff.1 h
        obtain rfl := Option.some.inj hx
        obtain ⟨u, hu, hw⟩ := gives_readEscape_iff.1 (Gives.of_eq h₁)
        rw [Cursor.rest_skip, hs, List.tail_cons, hr] at hu
        exact ⟨'\\' :: u, by rw [hs, hu]; rfl, hw⟩
    · next x s noQuote noBackslash hs =>
        split at h
        · exact absurd h not_gives_failAhead
        · next hx =>
            obtain ⟨rfl, hr⟩ : x = y ∧ s = r := by simpa [hs] using h
            exact ⟨[x], by rw [hs, hr]; rfl, .plain (Nat.le_of_not_lt hx) noQuote noBackslash⟩
  · rintro ⟨u, hu, hw⟩
    have hescape : ∀ v, u = '\\' :: v → Gives (readUnit c) (some y) r := by
      rintro v rfl
      obtain ⟨c₁, h₁, hr⟩ := (gives_readEscape_iff (c := c.skip) (r := r).2
        ⟨v, by simp [hu], hw⟩).exists_eq
      unfold readUnit
      rw [hu]
      simp only [List.cons_append, h₁, bind, Except.bind]
      exact gives_ok_iff.2 ⟨rfl, hr⟩
    cases hw with
    | plain printable noQuote noBackslash => simp [hu, Nat.not_lt.2 printable]
    | short _ => exact hescape _ rfl
    | unit _ => exact hescape _ rfl
    | pair _ _ _ _ _ => exact hescape _ rfl

/-- **A literal is read as exactly what it spells**, from behind its opening quote to behind its
closing one. -/
theorem gives_readText_iff {cs : List Char} :
    Gives (readText c) cs r ↔ ∃ body, c.rest = body ++ '"' :: r ∧ Spells body cs := by
  constructor
  · intro h
    fun_induction readText c generalizing cs with
    | case1 c f hu => exact absurd h not_gives_error
    | case2 c c₁ hu =>
        obtain ⟨rfl, rfl⟩ := gives_ok_iff.1 h
        exact ⟨[], gives_readUnit_none_iff.1 (Gives.of_eq hu), .nil⟩
    | case3 c x c₁ hu f hr ih => exact absurd h not_gives_error
    | case4 c x c₁ hu ys c₂ hr ih =>
        obtain ⟨rfl, rfl⟩ := gives_ok_iff.1 h
        obtain ⟨body, hbody, hspells⟩ := ih (Gives.of_eq hr)
        obtain ⟨u, hu', hw⟩ := gives_readUnit_some_iff.1 (Gives.of_eq hu)
        exact ⟨u ++ body, by rw [hu', hbody, List.append_assoc], .cons hw hspells⟩
  · rintro ⟨body, hrest, hspells⟩
    induction hspells generalizing c with
    | nil =>
        obtain ⟨c₁, hu, hr₁⟩ := (gives_readUnit_none_iff.2 hrest).exists_eq
        rw [readText]
        split <;> simp_all
    | cons head tail ih =>
        rw [List.append_assoc] at hrest
        obtain ⟨c₁, hu, hr₁⟩ := (gives_readUnit_some_iff.2 ⟨_, hrest, head⟩).exists_eq
        obtain ⟨c₂, ht, hr₂⟩ := (ih hr₁).exists_eq
        rw [readText]
        split <;> simp_all

end BatchRunner.Json
