/-
**Runs of decimal digits.**

Digits that are followed by anything but a digit are found again as the run of digits in front of a
text, so a number can be read back wherever it stands.

Main definitions:

* `Text.NoDigitAhead` — a text does not begin with a digit.

Main results:

* `Text.takeWhile_digits`, `Text.dropWhile_digits` — **a run of digits is found again**;
* `Text.toDigits_append_inj` — a number is told by the run of its digits.
-/
import Mathlib.Data.List.TakeWhile

set_option autoImplicit false

namespace BatchRunner.Text

variable {c : Char} {ds r r' : List Char} {n n' : Nat}

/-- A text does not begin with a digit. -/
def NoDigitAhead (r : List Char) : Prop := ∀ c, r.head? = some c → c.isDigit = false

@[simp] theorem noDigitAhead_nil : NoDigitAhead [] := by simp [NoDigitAhead]

@[simp] theorem noDigitAhead_cons_iff : NoDigitAhead (c :: r) ↔ c.isDigit = false := by
  simp [NoDigitAhead]

theorem takeWhile_digits (hds : ∀ c ∈ ds, c.isDigit = true) (hr : NoDigitAhead r) :
    (ds ++ r).takeWhile Char.isDigit = ds := by
  rw [List.takeWhile_append_of_pos hds]
  cases r with
  | nil => simp
  | cons c r => simp [hr c rfl]

theorem dropWhile_digits (hds : ∀ c ∈ ds, c.isDigit = true) (hr : NoDigitAhead r) :
    (ds ++ r).dropWhile Char.isDigit = r := by
  rw [List.dropWhile_append_of_pos hds]
  cases r with
  | nil => rfl
  | cons c r => simp [hr c rfl]

theorem isDigit_toDigits (n : Nat) : ∀ c ∈ Nat.toDigits 10 n, c.isDigit = true :=
  fun _ => Nat.isDigit_of_mem_toDigits (by decide) (by decide)

/-- A number is told by the run of its digits. -/
theorem toDigits_append_inj (hr : NoDigitAhead r) (hr' : NoDigitAhead r')
    (h : Nat.toDigits 10 n ++ r = Nat.toDigits 10 n' ++ r') : n = n' ∧ r = r' := by
  have hdigits : Nat.toDigits 10 n = Nat.toDigits 10 n' := by
    rw [← takeWhile_digits (isDigit_toDigits n) hr, h, takeWhile_digits (isDigit_toDigits n') hr']
  refine ⟨?_, ?_⟩
  · rw [← Nat.ofDigitChars_ten_toDigits (n := n), hdigits, Nat.ofDigitChars_ten_toDigits]
  · rw [hdigits] at h
    exact List.append_cancel_left h

end BatchRunner.Text
