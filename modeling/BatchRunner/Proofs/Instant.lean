/-
**Instants are told by their texts.**

The date of a day is computed era by era; the same eras lead back from the date to the day.  Every
number in the text of an instant is followed by something that is not a digit, so the text can be
taken apart again: nothing of an instant is lost in it, and not a nanosecond.

Main definitions:

* `Instant.dayOfCivil` — the day that has a given date;
* `Instant.ofText?` — the instant that has a given text.

Main results:

* `Instant.dayOfCivil_civilOfDay` — **a day is told by its date**;
* `Instant.ofText?_render` — **an instant is told by its text**.
-/
import BatchRunner.Instant
import BatchRunner.Proofs.Text.Digits
import Mathlib.Algebra.Group.Nat.Defs

set_option autoImplicit false

namespace BatchRunner.Instant

open BatchRunner.Text

variable {r : List Char} {n : Nat}

/-! ### Days and dates -/

def dayOfCivil (c : Civil) : Int :=
  let y := if c.month ≤ 2 then c.year - 1 else c.year
  let yoe := (y % 400).toNat
  let mp := if c.month ≤ 2 then c.month + 9 else c.month - 3
  let doy := (153 * mp + 2) / 5 + (c.day - 1)
  y / 400 * 146097 + (365 * yoe + yoe / 4 - yoe / 100 + doy : Nat) - 719468

/-- **The year of a day in an era, and the day in that year.**  Days are counted off in centuries,
which are one day shorter than 25 spans of four years; the last day of an era is in none of its four
centuries. -/
theorem year_of_era {doe : Nat} (h : doe < 146097) :
    ∃ yoe doy, (doe - doe / 1460 + doe / 36524 - doe / 146096) / 365 = yoe ∧ yoe < 400 ∧
      doy < 366 ∧ doe = 365 * yoe + yoe / 4 - yoe / 100 + doy := by
  rcases Nat.eq_or_lt_of_le (Nat.le_of_lt_succ h) with rfl | h
  · exact ⟨399, 365, by decide⟩
  -- centuries, then spans of four years, then days
  obtain ⟨c, q, z, hc, hq, hz, hx, rfl⟩ : ∃ c q z, c < 4 ∧ q < 25 ∧ z < 1461 ∧
      1461 * q + z < 36524 ∧ doe = 36524 * c + (1461 * q + z) :=
    ⟨doe / 36524, doe % 36524 / 1461, doe % 36524 % 1461, by omega, by omega, by omega, by omega,
      by omega⟩
  have hcenturies : (36524 * c + (1461 * q + z)) / 36524 = c := by omega
  have heras : (36524 * c + (1461 * q + z)) / 146096 = 0 := by omega
  have hspans : (36524 * c + (1461 * q + z)) / 1460 = 25 * c + q + (24 * c + q + z) / 1460 := by
    omega
  obtain ⟨y, hy, hlow, hhigh, hyear⟩ : ∃ y < 4, 365 * y ≤ z ∧ z < 365 * y + 366 ∧
      (z - (24 * c + q + z) / 1460) / 365 = y :=
    ⟨min (z / 365) 3, by omega, by omega, by omega, by omega⟩
  refine ⟨100 * c + 4 * q + y, z - 365 * y, ?_, by omega, by omega, ?_⟩
  · rw [hcenturies, heras, hspans]
    omega
  · have hfours : (100 * c + 4 * q + y) / 4 = 25 * c + q := by omega
    have hhundreds : (100 * c + 4 * q + y) / 100 = c := by omega
    rw [hfours, hhundreds]
    clear hcenturies heras hspans hyear hfours hhundreds
    omega

/-- **A day is told by its date.** -/
theorem dayOfCivil_civilOfDay (days : Int) : dayOfCivil (civilOfDay days) = days := by
  have hdoe : ((days + 719468) % 146097).toNat < 146097 := by omega
  obtain ⟨yoe, doy, hyoe, hy, hd, hsplit⟩ := year_of_era hdoe
  unfold civilOfDay dayOfCivil
  simp only [hyoe]
  clear hyoe
  have hdays : (days + 719468) / 146097 * 146097 +
      (365 * yoe + yoe / 4 - yoe / 100 + doy : Nat) - 719468 = days := by
    rw [← hsplit]
    omega
  have hdoy : ((days + 719468) % 146097).toNat - (365 * yoe + yoe / 4 - yoe / 100) = doy := by
    rw [hsplit, Nat.add_sub_cancel_left]
  have hera : ((yoe : Int) + (days + 719468) / 146097 * 400) / 400 = (days + 719468) / 146097 := by
    omega
  have hyear : (((yoe : Int) + (days + 719468) / 146097 * 400) % 400).toNat = yoe := by omega
  have hplace : (153 * ((5 * doy + 2) / 153) + 2) / 5 +
      (doy - (153 * ((5 * doy + 2) / 153) + 2) / 5) = doy := by omega
  simp only [hdoy]
  -- the years of January and February begin with the March before
  by_cases hmp : (5 * doy + 2) / 153 < 10
  · have hlate : ¬ (5 * doy + 2) / 153 + 3 ≤ 2 := by omega
    simpa only [hmp, hlate, if_true, if_false, Nat.add_sub_cancel, Int.add_zero, hera, hyear,
      hplace] using hdays
  · have hearly : (5 * doy + 2) / 153 - 9 ≤ 2 := by omega
    have hback : (5 * doy + 2) / 153 - 9 + 9 = (5 * doy + 2) / 153 := by omega
    simpa only [hmp, hearly, if_true, if_false, Nat.add_sub_cancel, Int.add_sub_cancel, hback, hera,
      hyear, hplace] using hdays

/-! ### Numbers in texts -/

theorem toList_padded (width n : Nat) :
    (padded width n).toList =
      List.replicate (width - (Nat.toDigits 10 n).length) '0' ++ Nat.toDigits 10 n := by
  simp [padded, ← Nat.toList_repr, String.length_toList]

theorem isDigit_padded (width n : Nat) : ∀ c ∈ (padded width n).toList, c.isDigit = true := by
  intro c hc
  rw [toList_padded, List.mem_append] at hc
  rcases hc with hc | hc
  · obtain rfl := (List.mem_replicate.1 hc).2
    decide
  · exact isDigit_toDigits n c hc

theorem ofDigitChars_padded (width n : Nat) : Nat.ofDigitChars 10 (padded width n).toList 0 = n := by
  rw [toList_padded, Nat.ofDigitChars_append, Nat.ofDigitChars_replicate_zero, Nat.mul_zero,
    Nat.ofDigitChars_ten_toDigits]

theorem length_padded {width : Nat} (hw : 0 < width) (h : n < 10 ^ width) :
    (padded width n).toList.length = width := by
  have hlength := (Nat.length_toDigits_le_iff (by decide) hw).2 h
  rw [toList_padded, List.length_append, List.length_replicate]
  omega

/-! ### Texts that are read -/

/-- The number in front of a text, and what follows it. -/
def readNumber (s : List Char) : Nat × List Char :=
  (Nat.ofDigitChars 10 (s.takeWhile Char.isDigit) 0, s.dropWhile Char.isDigit)

/-- What follows a given character. -/
def after? (c : Char) : List Char → Option (List Char)
  | [] => none
  | x :: s => if x = c then some s else none

/-- The year in front of a text, with or without a sign. -/
def readYear : List Char → Int × List Char
  | '-' :: s => (-(readNumber s).1, (readNumber s).2)
  | '+' :: s => ((readNumber s).1, (readNumber s).2)
  | s => ((readNumber s).1, (readNumber s).2)

/-- The nanoseconds of a fraction in front of a text, if there is one. -/
def readFraction : List Char → Nat × List Char
  | '.' :: s =>
      let ds := s.takeWhile Char.isDigit
      (Nat.ofDigitChars 10 ds 0 * 10 ^ (9 - ds.length), s.dropWhile Char.isDigit)
  | s => (0, s)

def ofText? (text : String) : Option Instant := do
  let (year, s) := readYear text.toList
  let (month, s) := readNumber (← after? '-' s)
  let (day, s) := readNumber (← after? '-' s)
  let (hour, s) := readNumber (← after? 'T' s)
  let (minute, s) := readNumber (← after? ':' s)
  let (second, s) := readNumber (← after? ':' s)
  let (fraction, s) := readFraction s
  if s = ['Z'] then
    -- the second that follows the last one of a minute is a leap second
    let leap := second / 60
    ofParts?
      (dayOfCivil ⟨year, month, day⟩ * 86400 + (hour * 3600 + minute * 60 + (second - leap) : Nat))
      (leap * 1000000000 + fraction)
  else none

theorem readNumber_padded (width n : Nat) (hr : NoDigitAhead r) :
    readNumber ((padded width n).toList ++ r) = (n, r) := by
  have hdigits := isDigit_padded width n
  rw [readNumber, takeWhile_digits hdigits hr, dropWhile_digits hdigits hr, ofDigitChars_padded]

theorem readYear_padded (width n : Nat) (hr : NoDigitAhead r) :
    readYear ((padded width n).toList ++ r) = ((n : Int), r) := by
  have hfirst : ∀ c s, (padded width n).toList ++ r = c :: s → c.isDigit = true := by
    intro c s hs
    cases hp : (padded width n).toList with
    | nil =>
        rw [toList_padded, List.append_eq_nil_iff] at hp
        exact absurd hp.2 Nat.toDigits_ne_nil
    | cons d ds =>
        obtain rfl : d = c := by simpa [hp] using congrArg List.head? hs
        exact isDigit_padded width n d (by simp [hp])
  unfold readYear
  split
  · next s hs => exact absurd (hfirst _ s hs) (by decide)
  · next s hs => exact absurd (hfirst _ s hs) (by decide)
  · rw [readNumber_padded width n hr]

theorem readYear_yearText (y : Int) (hr : NoDigitAhead r) :
    readYear ((yearText y).toList ++ r) = (y, r) := by
  unfold yearText
  by_cases hfour : 0 ≤ y ∧ y ≤ 9999
  · rw [if_pos hfour, readYear_padded 4 y.toNat hr, Int.toNat_of_nonneg hfour.1]
  · rw [if_neg hfour]
    by_cases hneg : y < 0
    · have hyear : -(y.natAbs : Int) = y := by omega
      have hsign : ("-" ++ padded 4 y.natAbs).toList ++ r =
          '-' :: ((padded 4 y.natAbs).toList ++ r) := by simp
      rw [if_pos hneg, hsign, readYear, readNumber_padded 4 y.natAbs hr, hyear]
    · have hyear : (y.natAbs : Int) = y := by omega
      have hsign : ("+" ++ padded 4 y.natAbs).toList ++ r =
          '+' :: ((padded 4 y.natAbs).toList ++ r) := by simp
      rw [if_neg hneg, hsign, readYear, readNumber_padded 4 y.natAbs hr, hyear]

theorem readFraction_padded {width : Nat} (hw : 0 < width) (h : n < 10 ^ width)
    (hr : NoDigitAhead r) :
    readFraction ('.' :: ((padded width n).toList ++ r)) = (n * 10 ^ (9 - width), r) := by
  have hdigits := isDigit_padded width n
  simp only [readFraction, takeWhile_digits hdigits hr, dropWhile_digits hdigits hr,
    ofDigitChars_padded, length_padded hw h]

theorem readFraction_fractionText (h : n < 1000000000) :
    readFraction ((fractionText n).toList ++ ['Z']) = (n, ['Z']) := by
  have hend : NoDigitAhead ['Z'] := noDigitAhead_cons_iff.2 (by decide)
  have hread : ∀ width m, 0 < width → m < 10 ^ width → m * 10 ^ (9 - width) = n →
      readFraction (("." ++ padded width m).toList ++ ['Z']) = (n, ['Z']) := by
    intro width m hw hm hexact
    simpa [hexact] using readFraction_padded hw hm hend
  unfold fractionText
  by_cases hzero : n = 0
  · simp [hzero, readFraction]
  rw [if_neg hzero]
  by_cases hmillis : n % 1000000 = 0
  · rw [if_pos hmillis]
    exact hread 3 (n / 1000000) (by decide) (by omega) (by omega)
  rw [if_neg hmillis]
  by_cases hmicros : n % 1000 = 0
  · rw [if_pos hmicros]
    exact hread 6 (n / 1000) (by decide) (by omega) (by omega)
  · rw [if_neg hmicros]
    exact hread 9 n (by decide) (by omega) (by omega)

theorem noDigitAhead_fractionText (n : Nat) :
    NoDigitAhead ((fractionText n).toList ++ ['Z']) := by
  unfold fractionText
  split
  · simp
  split
  · simp
  split <;> simp

/-- What is written in the text of an instant. -/
theorem ofText?_render_eq (t : Instant) :
    ofText? t.render =
      let s := t.secondOfDay
      let second := s % 60 + t.nanos / 1000000000
      ofParts?
        (dayOfCivil t.civil * 86400 +
          (s / 3600 * 3600 + s / 60 % 60 * 60 + (second - second / 60) : Nat))
        (second / 60 * 1000000000 + t.nanos % 1000000000) := by
  have hfraction : t.nanos % 1000000000 < 1000000000 := Nat.mod_lt _ (by decide)
  unfold ofText? render textWith
  simp [readYear_yearText, readNumber_padded, after?, noDigitAhead_fractionText,
    readFraction_fractionText hfraction]

/-- **An instant is told by its text.** -/
theorem ofText?_render (t : Instant) : ofText? t.render = some t := by
  have hday : dayOfCivil t.civil = t.seconds / 86400 := dayOfCivil_civilOfDay t.day
  have hsecond : (t.secondOfDay : Int) = t.seconds % 86400 := by
    unfold secondOfDay
    omega
  have hleap : (t.secondOfDay % 60 + t.nanos / 1000000000) / 60 = t.nanos / 1000000000 := by
    have hnanos := t.nanos_lt
    omega
  rw [ofText?_render_eq]
  simp only [hday, hleap, Nat.add_sub_cancel]
  have hseconds : t.seconds / 86400 * 86400 + (t.secondOfDay / 3600 * 3600 +
      t.secondOfDay / 60 % 60 * 60 + t.secondOfDay % 60 : Nat) = t.seconds := by
    clear hleap
    omega
  have hnanos : t.nanos / 1000000000 * 1000000000 + t.nanos % 1000000000 = t.nanos := by omega
  rw [hseconds, hnanos, ofParts?_seconds_nanos]

end BatchRunner.Instant
