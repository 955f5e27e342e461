/-
**Magnitudes of 64-bit binary floating point numbers.**

A finite magnitude is `mantissa * 2 ^ exponent` with a mantissa below `2 ^ 53` and an exponent from
`-1074` on.  Every operation computes its exact result as a quotient of naturals and rounds it once,
to nearest and to even on a tie.

Main definitions:

* `Binary64.ofRatio` — the magnitude nearest to a quotient, unless it is too large;
* `Binary64.mul`, `Binary64.div`, `Binary64.tenPow` — products, quotients and powers of ten.
-/

set_option autoImplicit false

namespace BatchRunner.Decimal

/-- The magnitude `mantissa * 2 ^ exponent`. -/
structure Binary64 where
  mantissa : Nat
  exponent : Int
  deriving DecidableEq, Repr

namespace Binary64

def zero : Binary64 := ⟨0, -1074⟩

/-- The quotient of two naturals, rounded to nearest and to even on a tie. -/
def roundDiv (num den : Nat) : Nat :=
  let q := num / den
  let r := num % den
  if 2 * r > den ∨ (2 * r = den ∧ q % 2 = 1) then q + 1 else q

/-- The quotient `num / (den * 2 ^ e)` as a quotient of naturals. -/
def scaled (num den : Nat) (e : Int) : Nat × Nat :=
  if e < 0 then (num * Nat.pow 2 (-e).toNat, den) else (num, den * Nat.pow 2 e.toNat)

/-- The exponent at which the quotient has 53 binary digits in front of the point, but not less
than the smallest exponent there is. -/
def exponentFor (num den : Nat) : Int :=
  let e : Int := (num.log2 : Int) - (den.log2 : Int) - 53
  let (n, d) := scaled num den e
  max (if n / d < Nat.pow 2 53 then e else e + 1) (-1074)

/-- The magnitude nearest to `num / den`, or `none` if that is beyond the largest one. -/
def ofRatio (num den : Nat) : Option Binary64 :=
  if num = 0 then some zero
  else
    let e := exponentFor num den
    let (n, d) := scaled num den e
    let m := roundDiv n d
    let r : Binary64 := if m = Nat.pow 2 53 then ⟨Nat.pow 2 52, e + 1⟩ else ⟨m, e⟩
    if r.exponent > 971 then none else some r

/-- The magnitude as a quotient of naturals. -/
def toRatio (x : Binary64) : Nat × Nat :=
  if x.exponent < 0 then (x.mantissa, Nat.pow 2 (-x.exponent).toNat)
  else (x.mantissa * Nat.pow 2 x.exponent.toNat, 1)

def mul (x y : Binary64) : Option Binary64 :=
  let (a, b) := x.toRatio
  let (c, d) := y.toRatio
  ofRatio (a * c) (b * d)

def div (x y : Binary64) : Option Binary64 :=
  let (a, b) := x.toRatio
  let (c, d) := y.toRatio
  ofRatio (a * d) (b * c)

/-- The magnitude nearest to a power of ten. -/
def tenPow (k : Nat) : Option Binary64 := ofRatio (Nat.pow 10 k) 1

/-- The magnitude nearest to a natural. -/
def ofNat (n : Nat) : Option Binary64 := ofRatio n 1

end Binary64

end BatchRunner.Decimal
