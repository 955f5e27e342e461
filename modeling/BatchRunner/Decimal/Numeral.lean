/-
**Numbers with a fraction, read from texts.**

A number is written to base ten with a power of ten behind it, or to base sixteen with a power of
two.  It may also be a word for what is too large for any number, or for what is no number at all.

Main definitions:

* `Decimal.Magnitude` — a number, or what is none;
* `Decimal.Numeral`, `Decimal.numeralAt` — the number at the head of a text, and how much of the
  text it takes.
-/
import BatchRunner.Decimal.Binary64

set_option autoImplicit false

namespace BatchRunner.Decimal

/-- How large a number is. -/
inductive Magnitude where
  | finite (x : Binary64)
  | infinite
  | notNumber
  deriving DecidableEq, Repr

/-- A number that has been read. -/
structure Numeral where
  magnitude : Magnitude
  /-- How many characters it takes; none if there is no number. -/
  size : Nat
  /-- Whether there is no magnitude close to it. -/
  outOfRange : Bool
  deriving DecidableEq, Repr

/-- The value of a digit to base sixteen, if it is one. -/
def digitValue? (c : Char) : Option Nat :=
  if c.isDigit then some (c.toNat - '0'.toNat)
  else if 'a' ≤ c ∧ c ≤ 'f' then some (c.toNat - 'a'.toNat + 10)
  else if 'A' ≤ c ∧ c ≤ 'F' then some (c.toNat - 'A'.toNat + 10)
  else none

/-- The largest power that is told from larger ones. -/
def powerMax : Nat := 5000

/-- The power behind a mark, and how many characters both take. -/
def powerAt (mark : Char) : List Char → Int × Nat
  | c :: cs =>
      let (negative, ds) := match cs with
        | '-' :: ds => (true, ds)
        | '+' :: ds => (false, ds)
        | ds => (false, ds)
      let digits := ds.takeWhile Char.isDigit
      if c.toLower = mark && !digits.isEmpty then
        let n := min ((String.ofList digits).toNat?.getD 0) powerMax
        (if negative then -(n : Int) else n, 1 + (cs.length - ds.length) + digits.length)
      else (0, 0)
  | [] => (0, 0)

/-- The number `num / den`, of which so many characters have been read.  It is out of range if it is
too large, or too small to be told exactly. -/
def Numeral.ofRatio (num den size : Nat) : Numeral :=
  match Binary64.ofRatio num den with
  | none => ⟨.infinite, size, true⟩
  | some x =>
      let (n, d) := x.toRatio
      ⟨.finite x, size, num ≠ 0 && x.mantissa < Nat.pow 2 52 && n * den ≠ num * d⟩

/-- A power beyond which a number of so many digits is too large to be finite, and below whose
opposite it is too small to differ from zero. -/
def furthest (digits : Nat) : Nat := 2000 + 8 * digits

/-- The number that is nearest to another one among those up to a bound and its opposite. -/
def nearby (bound : Nat) (n : Int) : Int := max (-(bound : Int)) (min n bound)

/-- A number written with the digits that a predicate accepts.  The base of its digits and the base
and the mark of its power are given. -/
def writtenAt (isDigit : Char → Bool) (base powerBase : Nat) (mark : Char) (cs : List Char) :
    Option Numeral :=
  let whole := cs.takeWhile isDigit
  let rest := cs.drop whole.length
  let fraction := match rest with
    | '.' :: rest => rest.takeWhile isDigit
    | _ => []
  if whole.isEmpty && fraction.isEmpty then none
  else
    let point := if rest.head? = some '.' then 1 else 0
    let (power, size) := powerAt mark (rest.drop (point + fraction.length))
    let n := (whole ++ fraction).foldl (fun n c => n * base + (digitValue? c).getD 0) 0
    let below := Nat.pow base fraction.length
    let size := whole.length + point + fraction.length + size
    let power := nearby (furthest (whole.length + fraction.length)) power
    some (if power < 0 then .ofRatio n (below * Nat.pow powerBase (-power).toNat) size
      else .ofRatio (n * Nat.pow powerBase power.toNat) below size)

/-- The word at the head of a text that stands for what is no magnitude. -/
def wordAt (cs : List Char) : Option Numeral :=
  let low := cs.map Char.toLower
  if "infinity".toList.isPrefixOf low then some ⟨.infinite, 8, false⟩
  else if "inf".toList.isPrefixOf low then some ⟨.infinite, 3, false⟩
  else if "nan".toList.isPrefixOf low then
    let inner := (cs.drop 4).takeWhile fun c => c.isAlphanum || c = '_'
    let tagged := (cs.drop 3).head? = some '(' && (cs.drop (4 + inner.length)).head? = some ')'
    some ⟨.notNumber, if tagged then inner.length + 5 else 3, false⟩
  else none

/-- **The number at the head of a text.**  No number at all counts as zero. -/
def numeralAt (cs : List Char) : Numeral :=
  let decimal := (writtenAt Char.isDigit 10 10 'e' cs).getD ⟨.finite .zero, 0, false⟩
  match wordAt cs, cs with
  | some x, _ => x
  | none, '0' :: x :: rest =>
      if x.toLower = 'x' then
        match writtenAt (fun c => (digitValue? c).isSome) 16 2 'p' rest with
        | some n => { n with size := n.size + 2 }
        | none => decimal
      else decimal
  | none, _ => decimal

end BatchRunner.Decimal
