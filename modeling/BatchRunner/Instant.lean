/-
**Instants and their calendar text.**

An instant is a number of seconds since the start of 1970 and a number of nanoseconds.  From ten to
the ninth on, the nanoseconds belong to a leap second, and there is none but at the end of a minute.

Main definitions:

* `Instant` — seconds and nanoseconds;
* `Instant.ofParts?` — the instant with given seconds and nanoseconds, if there is one;
* `Instant.Civil`, `Instant.civil` — the date in the proleptic Gregorian calendar;
* `Instant.render` — the text of an instant, with no more digits than it needs;
* `Instant.renderMicros` — the same with six digits always.
-/

set_option autoImplicit false

namespace BatchRunner

/-- A point of time, in seconds since the start of 1970 and nanoseconds. -/
structure Instant where
  seconds : Int
  nanos : Nat
  /-- A leap second prolongs the last second of a minute and no other. -/
  nanos_lt : nanos < 1000000000 ∨ (nanos < 2000000000 ∧ seconds % 60 = 59)
  deriving DecidableEq, Repr

namespace Instant

/-- The instant with the given seconds and nanoseconds, if there is one. -/
def ofParts? (seconds : Int) (nanos : Nat) : Option Instant :=
  if h : nanos < 1000000000 ∨ (nanos < 2000000000 ∧ seconds % 60 = 59) then
    some ⟨seconds, nanos, h⟩
  else none

theorem ofParts?_seconds_nanos (t : Instant) : ofParts? t.seconds t.nanos = some t := by
  rw [ofParts?, dif_pos t.nanos_lt]

/-- The instant the given number of milliseconds after the start of 1970. -/
def ofMillis (ms : Nat) : Instant := ⟨(ms / 1000 : Nat), ms % 1000 * 1000000, by omega⟩

/-- A date of the proleptic Gregorian calendar. -/
structure Civil where
  year : Int
  month : Nat
  day : Nat
  deriving DecidableEq, Repr

/-- The number of days since the start of 1970. -/
def day (t : Instant) : Int := t.seconds / 86400

/-- The second of the day. -/
def secondOfDay (t : Instant) : Nat := (t.seconds % 86400).toNat

/-- The date of a day.  Years are counted from March on, so that a leap day is the last of its
year; an era is the 400 years after which the calendar repeats. -/
def civilOfDay (days : Int) : Civil :=
  let z := days + 719468
  let era := z / 146097
  let doe := (z % 146097).toNat
  let yoe := (doe - doe / 1460 + doe / 36524 - doe / 146096) / 365
  let doy := doe - (365 * yoe + yoe / 4 - yoe / 100)
  let mp := (5 * doy + 2) / 153
  let day := doy - (153 * mp + 2) / 5 + 1
  let month := if mp < 10 then mp + 3 else mp - 9
  let year := (yoe : Int) + era * 400 + (if month ≤ 2 then 1 else 0)
  ⟨year, month, day⟩

/-- The date of an instant. -/
def civil (t : Instant) : Civil := civilOfDay t.day

/-- A natural with leading zeros up to the given width. -/
def padded (width n : Nat) : String :=
  let s := toString n
  String.ofList (List.replicate (width - s.length) '0') ++ s

/-- Years of four digits are written plainly, all others with a sign. -/
def yearText (y : Int) : String :=
  if 0 ≤ y ∧ y ≤ 9999 then padded 4 y.toNat
  else (if y < 0 then "-" else "+") ++ padded 4 y.natAbs

/-- A fraction of a second with the fewest of three, six or nine digits that are exact. -/
def fractionText (nanos : Nat) : String :=
  if nanos = 0 then ""
  else if nanos % 1000000 = 0 then "." ++ padded 3 (nanos / 1000000)
  else if nanos % 1000 = 0 then "." ++ padded 6 (nanos / 1000)
  else "." ++ padded 9 nanos

/-- The text of an instant with a given text for the fraction of its second. -/
def textWith (t : Instant) (fraction : String) : String :=
  let c := t.civil
  let s := t.secondOfDay
  yearText c.year ++ "-" ++ padded 2 c.month ++ "-" ++ padded 2 c.day ++ "T"
    ++ padded 2 (s / 3600) ++ ":" ++ padded 2 (s / 60 % 60) ++ ":"
    ++ padded 2 (s % 60 + t.nanos / 1000000000) ++ fraction ++ "Z"

/-- **The text of an instant.** -/
def render (t : Instant) : String := t.textWith (fractionText (t.nanos % 1000000000))

/-- The text of an instant with six digits for the fraction of its second. -/
def renderMicros (t : Instant) : String :=
  t.textWith ("." ++ padded 6 (t.nanos % 1000000000 / 1000))

end Instant

end BatchRunner
