/-
**The fewest decimal digits that read back.**

The decimals that round to a given magnitude form an interval around it, whose ends belong to it
exactly when the mantissa is even.  Grids of one, two, … seventeen digits are tried in turn; of the
two grid points next to the value the nearer one inside the interval is taken.

Main definitions:

* `Digits` — a natural times a power of ten;
* `shortest` — the shortest digits of a magnitude;
* `Layout.text` — digits written positionally or with an exponent.
-/
import BatchRunner.Decimal.Binary64

set_option autoImplicit false

namespace BatchRunner.Decimal

/-- The decimal `significand * 10 ^ exponent`. -/
structure Digits where
  significand : Nat
  exponent : Int
  deriving DecidableEq, Repr

def digitsOf (n : Nat) : List Char := (toString n).toList

/-- Moves trailing zeros of the significand into the exponent. -/
def Digits.trim (d : Digits) : Digits :=
  let ds := digitsOf d.significand
  let kept := (ds.reverse.dropWhile (· = '0')).length
  let dropped := ds.length - kept
  if d.significand = 0 then ⟨0, 0⟩ else ⟨d.significand / Nat.pow 10 dropped, d.exponent + dropped⟩

/-- A quotient of naturals that is compared with others by cross multiplication. -/
structure Ratio where
  num : Nat
  den : Nat

/-- The quotient scaled by a power of two. -/
def Ratio.ofScaled (n : Nat) (e : Int) : Ratio :=
  if e < 0 then ⟨n, Nat.pow 2 (-e).toNat⟩ else ⟨n * Nat.pow 2 e.toNat, 1⟩

def Digits.toRatio (d : Digits) : Ratio :=
  if d.exponent < 0 then ⟨d.significand, Nat.pow 10 (-d.exponent).toNat⟩
  else ⟨d.significand * Nat.pow 10 d.exponent.toNat, 1⟩

def Ratio.lt (a b : Ratio) : Bool := a.num * b.den < b.num * a.den

def Ratio.le (a b : Ratio) : Bool := a.num * b.den ≤ b.num * a.den

/-- The distance of two quotients. -/
def Ratio.dist (a b : Ratio) : Ratio :=
  let x := a.num * b.den
  let y := b.num * a.den
  ⟨if x ≤ y then y - x else x - y, a.den * b.den⟩

/-- The interval of decimals that round to a magnitude. -/
structure Rounding where
  low : Ratio
  high : Ratio
  closed : Bool

/-- The interval around a magnitude.  Below a power of two the neighbour is half as far away. -/
def Rounding.of (x : Binary64) : Rounding :=
  let e := x.exponent - 2
  let below := if x.mantissa = Nat.pow 2 52 ∧ x.exponent > -1074 then 1 else 2
  ⟨Ratio.ofScaled (4 * x.mantissa - below) e, Ratio.ofScaled (4 * x.mantissa + 2) e,
    x.mantissa % 2 = 0⟩

/-- Whether a decimal rounds to the magnitude of the interval. -/
def Rounding.contains (r : Rounding) (d : Digits) : Bool :=
  if r.closed then r.low.le d.toRatio && d.toRatio.le r.high
  else r.low.lt d.toRatio && d.toRatio.lt r.high

/-- The power of ten of the leading digit. -/
def leadingExponent (v : Ratio) : Int :=
  let e : Int := ((digitsOf v.num).length : Int) - ((digitsOf v.den).length : Int)
  if (Digits.toRatio ⟨1, e⟩).le v then e else e - 1

/-- The point at or below a value on the grid of multiples of `10 ^ k`. -/
def floorOn (v : Ratio) (k : Int) : Nat :=
  if k < 0 then v.num * Nat.pow 10 (-k).toNat / v.den else v.num / (v.den * Nat.pow 10 k.toNat)

/-- The better of the two grid points next to a value, if one of them is in the interval. -/
def onGrid (r : Rounding) (v : Ratio) (k : Int) : Option Digits :=
  let c := floorOn v k
  let lo : Digits := ⟨c, k⟩
  let hi : Digits := ⟨c + 1, k⟩
  match r.contains lo, r.contains hi with
  | true, true =>
      let dl := lo.toRatio.dist v
      let dh := hi.toRatio.dist v
      if dl.lt dh ∨ (dl.le dh ∧ c % 2 = 0) then some lo else some hi
  | true, false => some lo
  | false, true => some hi
  | false, false => none

/-- **The shortest digits of a magnitude.**  Seventeen digits always suffice. -/
def shortest (x : Binary64) : Digits :=
  if x.mantissa = 0 then ⟨0, 0⟩
  else
    let v := Ratio.ofScaled x.mantissa x.exponent
    let e := leadingExponent v
    let found := (List.range 17).findSome? fun (n : Nat) => onGrid (Rounding.of x) v (e - n)
    (found.getD ⟨floorOn v (e - 16), e - 16⟩).trim

/-- How a decimal is laid out. -/
structure Layout where
  /-- Numbers are written positionally only if the point stands further right of the first digit
  than this, -/
  pointAbove : Int
  /-- and not further right than this. -/
  pointUpTo : Int
  /-- What stands between the digits and a non-negative exponent. -/
  exponentMark : String

/-- Digits laid out: positionally with at least one digit after the point, or with an exponent. -/
def Layout.text (l : Layout) (d : Digits) : String :=
  let ds := digitsOf d.significand
  let point : Int := ds.length + d.exponent
  if d.significand = 0 then "0.0"
  else if l.pointAbove < point ∧ point ≤ l.pointUpTo then
    if 0 ≤ d.exponent then
      String.ofList (ds ++ List.replicate d.exponent.toNat '0') ++ ".0"
    else if 0 < point then
      String.ofList (ds.take point.toNat) ++ "." ++ String.ofList (ds.drop point.toNat)
    else "0." ++ String.ofList (List.replicate (-point).toNat '0' ++ ds)
  else
    let body := match ds with
      | [] => ""
      | [c] => String.ofList [c]
      | c :: cs => String.ofList [c] ++ "." ++ String.ofList cs
    let e := point - 1
    body ++ (if e < 0 then "e-" ++ toString (-e) else l.exponentMark ++ toString e)

end BatchRunner.Decimal
