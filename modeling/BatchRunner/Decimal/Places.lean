/-
**Numbers with a given number of decimal places.**

A magnitude is written from its exact quotient, which is rounded once, to nearest and to even on a
tie: with a fixed number of places, with a power of ten, or in whichever of the two ways is shorter.

Main definitions:

* `Decimal.fixed` — so many places behind the point;
* `Decimal.scientific` — one digit before the point, and a power of ten;
* `Decimal.general` — so many digits that count, in the shorter way.
-/
import BatchRunner.Decimal.Binary64

set_option autoImplicit false

namespace BatchRunner.Decimal

/-- The digits of a number, at least so many. -/
def digitsAtLeast (least n : Nat) : List Char :=
  let ds := Nat.toDigits 10 n
  List.replicate (least - ds.length) '0' ++ ds

/-- Digits with a point before the last ones.  Without any behind it there is no point, unless it is
asked for. -/
def pointed (places : Nat) (point : Bool) (ds : List Char) : List Char :=
  let front := ds.take (ds.length - places)
  front ++ (if places = 0 && !point then [] else '.' :: ds.drop (ds.length - places))

/-- **A magnitude with so many places behind the point.** -/
def fixed (places : Nat) (point : Bool) (x : Binary64) : List Char :=
  let (num, den) := x.toRatio
  pointed places point
    (digitsAtLeast (places + 1) (Binary64.roundDiv (num * Nat.pow 10 places) den))

/-- The quotient `num / den` divided by a power of ten, rounded. -/
def roundedAt (num den : Nat) (power : Int) : Nat :=
  if power < 0 then Binary64.roundDiv (num * Nat.pow 10 (-power).toNat) den
  else Binary64.roundDiv num (den * Nat.pow 10 power.toNat)

/-- The power of ten that the first digit of a quotient stands for. -/
def leadingPower (num den : Nat) : Int :=
  if den ≤ num then ((Nat.toDigits 10 (num / den)).length : Int) - 1
  else
    let k := (Nat.toDigits 10 (den / num)).length
    if num * Nat.pow 10 (k - 1) < den then -(k : Int) else -((k : Int) - 1)

/-- The first digits of a magnitude, rounded, and the power of ten that the first one stands for. -/
def leading (count : Nat) (x : Binary64) : List Char × Int :=
  let (num, den) := x.toRatio
  if num = 0 then (List.replicate count '0', 0)
  else
    let e := leadingPower num den
    let ds := Nat.toDigits 10 (roundedAt num den (e - (count - 1)))
    if count < ds.length then (ds.take count, e + 1) else (ds, e)

/-- A power of ten as it is written behind a mark. -/
def powerText (mark : Char) (e : Int) : List Char :=
  mark :: (if e < 0 then '-' else '+') :: digitsAtLeast 2 e.natAbs

/-- **A magnitude with one digit before the point, so many behind it, and a power of ten.** -/
def scientific (places : Nat) (point : Bool) (mark : Char) (x : Binary64) : List Char :=
  let (ds, e) := leading (places + 1) x
  pointed places point ds ++ powerText mark e

/-- Digits without the zeros that end them behind the point. -/
def withoutZeros (ds : List Char) : List Char :=
  if ds.contains '.' then
    ((ds.reverse.dropWhile (· = '0')).dropWhile (· = '.')).reverse
  else ds

/-- **A magnitude with so many digits that count**, in the shorter way.  Zeros behind them are left
out, unless they are asked for. -/
def general (count : Nat) (point : Bool) (mark : Char) (x : Binary64) : List Char :=
  let count := max count 1
  let (ds, e) := leading count x
  let trim (cs : List Char) : List Char := if point then cs else withoutZeros cs
  if e < -4 || (count : Int) ≤ e then
    trim (pointed (count - 1) point ds) ++ powerText mark e
  else trim (fixed ((count : Int) - 1 - e).toNat point x)

end BatchRunner.Decimal
