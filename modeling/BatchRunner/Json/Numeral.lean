/-
**Numbers.**

A number without fraction and exponent is an integer if it fits 64 bits, signed when negative and
unsigned otherwise.  Every other number is a magnitude in binary floating point: as many leading
digits as fit 64 bits are taken, and their value is scaled by a power of ten.

Main definitions:

* `Json.Numeral` — the digits of a number and the kind of value they stand for;
* `Json.readNumber` — reads a number from behind its sign.
-/
import BatchRunner.Json.Fault

set_option autoImplicit false

namespace BatchRunner.Json

open BatchRunner.Decimal (Binary64)

def digit? (c : Char) : Option Nat :=
  if '0' ≤ c ∧ c ≤ '9' then some (c.toNat - '0'.toNat) else none

/-- The digits in front of a text, and what follows them. -/
def takeDigits : List Char → Position → List Nat × Cursor
  | [], p => ([], ⟨[], p⟩)
  | c :: cs, p =>
      match digit? c with
      | some d =>
          let (ds, rest) := takeDigits cs (p.after c)
          (d :: ds, rest)
      | none => ([], ⟨c :: cs, p⟩)

/-- The digits the reader stands in front of. -/
def Cursor.digits (c : Cursor) : List Nat × Cursor := takeDigits c.rest c.here

/-- The largest unsigned 64-bit number. -/
def wordMax : Nat := Nat.pow 2 64 - 1

/-- The largest exponent that is told apart from larger ones. -/
def exponentMax : Nat := Nat.pow 2 31 - 1

/-- Appends digits to a number while it stays within a bound; counts those appended. -/
def absorb (bound : Nat) : Nat → List Nat → Nat × Nat
  | n, [] => (n, 0)
  | n, d :: ds =>
      if n * 10 + d ≤ bound then
        let (m, k) := absorb bound (n * 10 + d) ds
        (m, k + 1)
      else (n, 0)

/-- A number as it is written: the digits before and after the point, and the exponent. -/
structure Numeral where
  whole : List Nat
  fraction : Option (List Nat)
  exponent : Option (Bool × List Nat)

namespace Numeral

/-- The leading digits that fit 64 bits, and the power of ten they are to be scaled by. -/
def significand (n : Numeral) : Nat × Int :=
  let (s, k) := absorb wordMax 0 n.whole
  let (s', k') := absorb wordMax s (n.fraction.getD [])
  (s', (n.whole.length : Int) - k - k')

/-- Whether the number is written without fraction and exponent and fits 64 bits. -/
def isWord (n : Numeral) : Bool :=
  n.fraction.isNone && n.exponent.isNone && (absorb wordMax 0 n.whole).2 == n.whole.length

end Numeral

/-- A magnitude divided by the largest power of ten in floating point. -/
def stepDown (f : Binary64) : Option Binary64 :=
  (Binary64.tenPow 308).bind f.div

/-- A magnitude times a power of ten, in steps that powers of ten in floating point allow.  There is
no result if it is too large. -/
def scaleTen (f : Binary64) (e : Int) : Option Binary64 :=
  if e.natAbs ≤ 308 then
    if 0 ≤ e then (Binary64.tenPow e.natAbs).bind f.mul
    else (Binary64.tenPow e.natAbs).bind f.div
  else if f.mantissa = 0 then some f
  else if 0 ≤ e then none
  else (stepDown f).bind fun g => scaleTen g (e + 308)
termination_by e.natAbs
decreasing_by omega

/-- The kind of value a number without exponent overflow stands for; `none` if it is too large. -/
def Numeral.kind? (negative : Bool) (n : Numeral) : Option Kind :=
  let (s, e) := n.significand
  if n.isWord && !negative then some (.integer s)
  else if n.isWord && s ≠ 0 && s ≤ Nat.pow 2 63 then some (.integer (-(s : Int)))
  else
    let shift : Int := match n.exponent with
      | none => 0
      | some (down, ds) =>
          let x : Int := (absorb exponentMax 0 ds).1
          if down then -x else x
    match (Binary64.ofNat s).bind fun f => scaleTen f (e + shift) with
    | some f => some (.floating negative (Decimal.shortest f))
    | none => none

/-- Ends a number: its kind, or the refusal of one that is too large.  An exponent with too many
digits is refused at the digit that is too many, unless the value is zero anyway. -/
def finishNumber (negative : Bool) (n : Numeral) (exponentAt : Cursor) (c : Cursor) :
    Except Fault (Kind × Cursor) :=
  let overflow := match n.exponent with
    | none => none
    | some (down, ds) =>
        let k := (absorb exponentMax 0 ds).2
        if k < ds.length then some (down, k) else none
  match overflow with
  | some (down, k) =>
      if n.significand.1 ≠ 0 && !down then
        .error ⟨.numberOutOfRange, exponentAt.afterBytes (k + 1)⟩
      else .ok (.floating negative ⟨0, 0⟩, c)
  | none =>
      match n.kind? negative with
      | some k => .ok (k, c)
      | none => c.failHere .numberOutOfRange

/-- Reads an exponent from behind its letter. -/
def readExponent (negative : Bool) (whole : List Nat) (fraction : Option (List Nat)) (c : Cursor) :
    Except Fault (Kind × Cursor) :=
  let (down, c) := match c.next? with
    | some '+' => (false, c.skip)
    | some '-' => (true, c.skip)
    | _ => (false, c)
  let (ds, c') := c.digits
  if ds = [] then
    if c.rest = [] then c.failHere .endInValue else c.failAhead .badNumber
  else finishNumber negative ⟨whole, fraction, some (down, ds)⟩ c c'

/-- Whether the reader stands in front of the letter of an exponent. -/
def Cursor.atExponent (c : Cursor) : Bool :=
  c.next? == some 'e' || c.next? == some 'E'

/-- Reads what follows the whole part of a number. -/
def readFraction (negative : Bool) (whole : List Nat) (c : Cursor) :
    Except Fault (Kind × Cursor) :=
  if c.next? = some '.' then
    let c := c.skip
    let (ds, c') := c.digits
    if ds = [] then
      c.failAhead (if c.rest = [] then .endInValue else .badNumber)
    else if c'.atExponent then readExponent negative whole (some ds) c'.skip
    else finishNumber negative ⟨whole, some ds, none⟩ c' c'
  else if c.atExponent then readExponent negative whole none c.skip
  else finishNumber negative ⟨whole, none, none⟩ c c

/-- **Reads a number** from behind its sign.  A leading zero stands alone. -/
def readNumber (negative : Bool) (c : Cursor) : Except Fault (Kind × Cursor) :=
  match c.next? with
  | none => c.failHere .endInValue
  | some '0' =>
      let c := c.skip
      if (c.next?.bind digit?).isSome then c.failAhead .badNumber
      else readFraction negative [0] c
  | some _ =>
      let (ds, c') := c.digits
      if ds = [] then c.failAhead .badNumber
      else readFraction negative ds c'

end BatchRunner.Json
