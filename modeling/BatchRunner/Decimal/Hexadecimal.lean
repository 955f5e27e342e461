/-
**Magnitudes to base sixteen.**

The mantissa of a magnitude is written exactly, with one digit before the point, and its power of
two behind it.  Where fewer digits are wanted it is rounded once, to even on a tie.

Main definitions:

* `Decimal.hexadecimal` — a magnitude in digits to base sixteen.
-/
import BatchRunner.Decimal.Places

set_option autoImplicit false

namespace BatchRunner.Decimal

/-- How many digits behind the point a mantissa has. -/
def hexPlaces : Nat := 13

/-- **A magnitude to base sixteen**, with so many places behind the point, or with those that it
needs. -/
def hexadecimal (places? : Option Nat) (point : Bool) (x : Binary64) : List Char :=
  let m := x.mantissa
  let power := if m = 0 then 0 else x.exponent + 52
  let exact := (Nat.toDigits 16 m).leftpad (hexPlaces + 1) '0'
  let needed := (exact.drop 1).reverse.dropWhile (· = '0') |>.length
  let places := places?.getD needed
  let kept := if places < hexPlaces
    then Binary64.roundDiv m (Nat.pow 16 (hexPlaces - places))
    else m * Nat.pow 16 (places - hexPlaces)
  let ds := (Nat.toDigits 16 kept).leftpad (places + 1) '0'
  let sign := if power < 0 then '-' else '+'
  pointed places point ds ++ 'p' :: sign :: (toString power.natAbs).toList

end BatchRunner.Decimal
