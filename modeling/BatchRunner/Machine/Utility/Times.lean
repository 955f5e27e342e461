/-
**Dates as they are read and written, and the utility that sets times.**

Main definitions:

* `Dates.dayOf` — the day of a date;
* `Dates.ofText?` — the time that a text stands for;
* `Dates.ofStamp?` — the time that a row of digits stands for;
* `Dates.formatted` — a time in a format;
* `Utility.touch` — the utility.
-/
import BatchRunner.Files.Facts
import BatchRunner.Instant
import BatchRunner.Machine.Utility.Transfer

set_option autoImplicit false

namespace BatchRunner

namespace Dates

/-- The number of days from the start of 1970 to a date. -/
def dayOf (year : Int) (month day : Nat) : Int :=
  let y := if month ≤ 2 then year - 1 else year
  let era := y / 400
  let yoe := y % 400
  let mp : Int := if 2 < month then (month : Int) - 3 else (month : Int) + 9
  let doy := (153 * mp + 2) / 5 + (day : Int) - 1
  era * 146097 + yoe * 365 + yoe / 4 - yoe / 100 + doy - 719468

def monthLength (year : Int) (month : Nat) : Nat :=
  (if month < 12 then dayOf year (month + 1) 1 - dayOf year month 1
    else dayOf (year + 1) 1 1 - dayOf year month 1).toNat

/-- The months by the first letters of their names. -/
def monthNames : List String :=
  ["jan", "feb", "mar", "apr", "may", "jun", "jul", "aug", "sep", "oct", "nov", "dec"]

/-- The days of the week by the first letters of their names. -/
def dayNames : List String := ["sun", "mon", "tue", "wed", "thu", "fri", "sat"]

structure Reading where
  date : Option (Int × Nat × Nat)
  /-- The second of the day. -/
  second : Option Nat
  /-- Milliseconds behind that second. -/
  millis : Nat
  /-- How many seconds the zone is ahead. -/
  zone : Int
  months : Int
  days : Int
  seconds : Int
  deriving DecidableEq, Repr

def number? (s : String) : Option Nat :=
  if s ≠ "" ∧ s.toList.all Char.isDigit then s.toNat? else none

def date? (year month day : Nat) : Option (Int × Nat × Nat) :=
  if 1 ≤ month ∧ month ≤ 12 ∧ 1 ≤ day ∧ day ≤ monthLength year month then
    some (year, month, day)
  else none

def fullYear (n : Nat) (digits : Nat) : Nat :=
  if digits = 2 then (if n < 69 then 2000 + n else 1900 + n) else n

/-- A time of day: hour, minute, and second with a fraction if there is one. -/
def clock? (s : String) : Option (Nat × Nat) :=
  let parts := s.splitOn ":"
  let whole := match parts with
    | [h, m] => some (h, m, "0")
    | [h, m, x] => some (h, m, x)
    | _ => none
  whole.bind fun (h, m, x) =>
    let (secs, fraction) := match x.splitOn "." with
      | [a, b] => (a, b)
      | _ => (x, "")
    match number? h, number? m, number? secs with
    | some h, some m, some x =>
        if h < 24 ∧ m < 60 ∧ x < 61 ∧ fraction.toList.all Char.isDigit then
          let ms := ((fraction ++ "000").toList.take 3)
          some (3600 * h + 60 * m + x, (String.ofList ms).toNat?.getD 0)
        else none
    | _, _, _ => none

/-- A zone: how many seconds it is ahead. -/
def zone? (s : String) : Option Int :=
  match s.toList with
  | ['z'] => some 0
  | sign :: cs =>
      if sign ≠ '+' ∧ sign ≠ '-' then (if ["utc", "gmt", "ut"].contains s then some 0 else none)
      else
        let ds := cs.filter (· ≠ ':')
        if ds.all Char.isDigit && (ds.length = 4 || ds.length = 2) then
          let h := (String.ofList (ds.take 2)).toNat?.getD 0
          let m := (String.ofList (ds.drop 2)).toNat?.getD 0
          let n : Int := 3600 * h + 60 * m
          some (if sign = '-' then -n else n)
        else none
  | [] => none

/-- A span of time by its name: months, days and seconds. -/
def unit? (s : String) : Option (Int × Int × Int) :=
  let s := if s.endsWith "s" && 1 < s.length then String.ofList s.toList.dropLast else s
  match s with
  | "year" => some (12, 0, 0)
  | "month" => some (1, 0, 0)
  | "fortnight" => some (0, 14, 0)
  | "week" => some (0, 7, 0)
  | "day" => some (0, 1, 0)
  | "hour" => some (0, 0, 3600)
  | "minute" => some (0, 0, 60)
  | "min" => some (0, 0, 60)
  | "second" => some (0, 0, 1)
  | "sec" => some (0, 0, 1)
  | _ => none

def Reading.add (r : Reading) (n : Int) (u : Int × Int × Int) : Reading :=
  { r with
    months := r.months + n * u.1
    days := r.days + n * u.2.1
    seconds := r.seconds + n * u.2.2 }

def dateWord? (s : String) : Option (Int × Nat × Nat) :=
  match s.splitOn "-", s.splitOn "/" with
  | [y, m, d], _ =>
      match number? y, number? m, number? d with
      | some n, some m, some d => date? (fullYear n y.length) m d
      | _, _, _ => none
  | _, [a, b, c] =>
      match number? a, number? b, number? c with
      | some x, some y, some z =>
          if 3 < a.length then date? x y z else date? (fullYear z c.length) x y
      | _, _, _ => none
  | _, _ =>
      if s.length = 8 then
        match number? s with
        | some n => date? (n / 10000) (n / 100 % 100) (n % 100)
        | none => none
      else none

def signed? (s : String) : Option Int :=
  match s.toList with
  | '+' :: cs => (number? (String.ofList cs)).map Int.ofNat
  | '-' :: cs => (number? (String.ofList cs)).map fun n => -Int.ofNat n
  | _ => (number? s).map Int.ofNat

/-- The number of the month that a word begins. -/
def month? (s : String) : Option Nat :=
  if s.length < 3 then none
  else (monthNames.findIdx? fun m => m = String.ofList (s.toList.take 3)).map (· + 1)

def words : Nat → List String → Reading → Option Reading
  | 0, _, _ => none
  | _, [], r => some r
  | fuel + 1, s :: rest, r =>
      match s, rest with
      | "now", rest => words fuel rest r
      | "today", rest => words fuel rest r
      | "yesterday", rest => words fuel rest { r with days := r.days - 1 }
      | "tomorrow", rest => words fuel rest { r with days := r.days + 1 }
      | "am", rest => words fuel rest { r with second := r.second.map fun x => x % 43200 }
      | "pm", rest => words fuel rest { r with second := r.second.map fun x => x % 43200 + 43200 }
      | "next", u :: rest => (unit? u).bind fun u => words fuel rest (r.add 1 u)
      | "last", u :: rest => (unit? u).bind fun u => words fuel rest (r.add (-1) u)
      | s, rest =>
          match dateWord? s, clock? s, zone? s, month? s, signed? s with
          | some d, _, _, _, _ => words fuel rest { r with date := some d }
          | none, some (x, ms), _, _, _ =>
              words fuel rest { r with second := some x, millis := ms }
          | none, none, some z, _, none => words fuel rest { r with zone := z }
          | none, none, _, some m, _ =>
              match rest with
              | d :: y :: rest =>
                  let day := String.ofList (d.toList.filter (· ≠ ','))
                  match number? day, number? y with
                  | some day, some year =>
                      (date? (fullYear year y.length) m day).bind fun x =>
                        words fuel rest { r with date := some x }
                  | _, _ => none
              | _ => none
          | none, none, z?, none, some n =>
              match rest with
              | u :: "ago" :: rest =>
                  (unit? u).bind fun u => words fuel rest (r.add (-n) u)
              | u :: rest =>
                  match unit? u, month? u, rest with
                  | some u, _, rest => words fuel rest (r.add n u)
                  | none, some m, y :: rest =>
                      match number? y with
                      | some year =>
                          (date? (fullYear year y.length) m n.toNat).bind fun x =>
                            words fuel rest { r with date := some x }
                      | none => none
                  | none, _, rest => z?.bind fun z => words fuel (u :: rest) { r with zone := z }
              | [] => z?.bind fun z => words fuel [] { r with zone := z }
          | none, none, none, none, none =>
              match unit? s, rest with
              | some u, "ago" :: rest => words fuel rest (r.add (-1) u)
              | some u, rest => words fuel rest (r.add 1 u)
              | none, rest =>
                  if dayNames.any fun d => 3 ≤ s.length && s.startsWith d then words fuel rest r
                  else none

/-- The time that has been read, in milliseconds since the start of 1970. -/
def Reading.time (r : Reading) (now : Nat) : Int :=
  let today := Instant.ofMillis now
  let relative := r.date.isNone && r.second.isNone
  let base := match r.date with
    | some d => d
    | none => let c := today.civil; (c.year, c.month, c.day)
  let month := base.1 * 12 + (base.2.1 : Int) - 1 + r.months
  let day := dayOf (month / 12) ((month % 12).toNat + 1) base.2.2 + r.days
  let second : Int := match r.second with
    | some x => (x : Int)
    | none => if relative then (today.secondOfDay : Int) else 0
  let millis : Int := if relative then ((now % 1000 : Nat) : Int) else (r.millis : Int)
  (day * 86400 + second + r.seconds - r.zone) * 1000 + millis

/-- A number of seconds behind a sign, in milliseconds. -/
def ofSeconds? (s : String) : Option Int :=
  let (negative, cs) := match s.toList with
    | '-' :: cs => (true, cs)
    | cs => (false, cs)
  let (whole, fraction) := match (String.ofList cs).splitOn "." with
    | [a, b] => (a, b)
    | _ => (String.ofList cs, "")
  if fraction.toList.any fun c => !c.isDigit then none
  else
    (number? whole).map fun n =>
      let ms : Int := 1000 * n
        + ((String.ofList ((fraction ++ "000").toList.take 3)).toNat?.getD 0 : Nat)
      if negative then -ms else ms

/-- **The time that a text stands for**, in milliseconds since the start of 1970. -/
def ofText? (now : Nat) (s : String) : Option Int :=
  let text := s.toLower
  match text.toList with
  | '@' :: cs => ofSeconds? (String.ofList cs)
  | cs =>
      let spaced := cs.zipIdx.flatMap fun (c, n) =>
        let digitBefore := (cs[n - 1]?).any Char.isDigit && n ≠ 0
        let digitBehind := (cs[n + 1]?).any Char.isDigit
        if c = 't' && digitBefore && digitBehind then [' ']
        else if c = 'z' && digitBefore then [' ', 'z']
        else if (c = '+' || c = '-') && digitBefore && (cs.take n).contains ':' then [' ', c]
        else [c]
      let parts := ((String.ofList spaced).splitOn " ").filter (· ≠ "")
      let start : Reading := ⟨none, if parts.isEmpty then some 0 else none, 0, 0, 0, 0, 0⟩
      (words (2 * parts.length + 2) parts start).map fun r => r.time now

/-- **The time that a row of digits stands for**: a year if there is one, and then month, day, hour
and minute, and behind a point the second. -/
def ofStamp? (now : Nat) (s : String) : Option Int :=
  let (digits, second) := match s.splitOn "." with
    | [a, b] => (a, if b.length = 2 then number? b else none)
    | [a] => (a, some 0)
    | _ => ("", none)
  let thisYear := (Instant.ofMillis now).civil.year.toNat
  let n := digits.length
  match number? digits, second with
  | some value, some x =>
      if !([8, 10, 12].contains n) then none
      else
        let year := if n = 8 then thisYear
          else if n = 10 then fullYear (value / 100000000) 2 else value / 100000000
        let hour := value / 100 % 100
        let minute := value % 100
        (date? year (value / 1000000 % 100) (value / 10000 % 100)).bind fun (y, m, d) =>
          if hour < 24 ∧ minute < 60 ∧ x < 61 then
            some ((dayOf y m d * 86400 + 3600 * hour + 60 * minute + x) * 1000)
          else none
  | _, _ => none

/-! ### Showing times -/

/-- The names of the days of the week, from the first day of 1970 on. -/
def weekdays : List String :=
  ["Thursday", "Friday", "Saturday", "Sunday", "Monday", "Tuesday", "Wednesday"]

def months : List String :=
  ["January", "February", "March", "April", "May", "June", "July", "August", "September",
    "October", "November", "December"]

/-- The first three characters of a name. -/
def short (s : String) : String := String.ofList (s.toList.take 3)

/-- A number of two places with a blank before it. -/
def blankPadded (n : Nat) : String := (if n < 10 then " " else "") ++ toString n

/-- The day of the week, from Sunday on. -/
def weekday (day : Int) : Nat := ((day + 4) % 7).toNat

def yearDay (i : Instant) : Nat := (i.day - dayOf i.civil.year 1 1).toNat

/-- The week that a day is in, and the year of that week: weeks begin on Monday and belong to the
year that has four of their days. -/
def isoWeek (i : Instant) : Int × Nat :=
  let monday := i.day - ((weekday i.day + 6) % 7 : Nat)
  let thursday := monday + 3
  let year := (Instant.civilOfDay thursday).year
  (year, ((thursday - dayOf year 1 1) / 7).toNat + 1)

def field? (ms : Nat) (c : Char) : Option String :=
  let i := Instant.ofMillis ms
  let d := i.civil
  let s := i.secondOfDay
  let two := Instant.padded 2
  let hour12 := (s / 3600 + 11) % 12 + 1
  let name := weekdays.getD (i.day % 7).toNat ""
  let month := months.getD (d.month - 1) ""
  let clock := two (s / 3600) ++ ":" ++ two (s / 60 % 60) ++ ":" ++ two (s % 60)
  let half := if s / 3600 < 12 then "AM" else "PM"
  let century := two (d.year.toNat / 100)
  match c with
  | 'a' => some (short name)
  | 'A' => some name
  | 'b' => some (short month)
  | 'h' => some (short month)
  | 'B' => some month
  | 'c' => some (short name ++ " " ++ short month ++ " " ++ blankPadded d.day ++ " " ++ clock ++ " "
      ++ toString d.year)
  | 'C' => some century
  | 'd' => some (two d.day)
  | 'D' => some (two d.month ++ "/" ++ two d.day ++ "/" ++ two (d.year.toNat % 100))
  | 'x' => some (two d.month ++ "/" ++ two d.day ++ "/" ++ two (d.year.toNat % 100))
  | 'e' => some (blankPadded d.day)
  | 'F' => some (toString d.year ++ "-" ++ two d.month ++ "-" ++ two d.day)
  | 'g' => some (two ((isoWeek i).1.toNat % 100))
  | 'G' => some (toString (isoWeek i).1)
  | 'H' => some (two (s / 3600))
  | 'I' => some (two hour12)
  | 'j' => some (Instant.padded 3 (yearDay i + 1))
  | 'k' => some (blankPadded (s / 3600))
  | 'l' => some (blankPadded hour12)
  | 'm' => some (two d.month)
  | 'M' => some (two (s / 60 % 60))
  | 'n' => some "\n"
  | 'N' => some (Instant.padded 9 i.nanos)
  | 'p' => some half
  | 'P' => some half.toLower
  | 'q' => some (toString ((d.month - 1) / 3 + 1))
  | 'r' => some (two hour12 ++ ":" ++ two (s / 60 % 60) ++ ":" ++ two (s % 60) ++ " " ++ half)
  | 'R' => some (two (s / 3600) ++ ":" ++ two (s / 60 % 60))
  | 's' => some (toString (ms / 1000))
  | 'S' => some (two (s % 60))
  | 't' => some "\t"
  | 'T' => some clock
  | 'X' => some clock
  | 'u' => some (toString ((weekday i.day + 6) % 7 + 1))
  | 'U' => some (two ((yearDay i + 7 - weekday i.day) / 7))
  | 'V' => some (two (isoWeek i).2)
  | 'w' => some (toString (weekday i.day))
  | 'W' => some (two ((yearDay i + 7 - (weekday i.day + 6) % 7) / 7))
  | 'y' => some (two (d.year.toNat % 100))
  | 'Y' => some (toString d.year)
  | 'z' => some "+0000"
  | 'Z' => some "UTC"
  | '%' => some "%"
  | _ => none

/-- A field with the marks before its letter: no zeros, blanks or zeros before numbers, capitals. -/
def marked (marks : List Char) (width : Nat) (s : String) : String :=
  let numeric := s.toList.all fun c => c.isDigit || c = ' '
  let s := if marks.contains '^' || marks.contains '#' then s.toUpper else s
  if !numeric || s = "" then
    String.ofList (List.replicate (width - s.length) (if marks.contains '0' then '0' else ' ')) ++ s
  else
    let digits := s.toList.dropWhile fun c => c = '0' || c = ' '
    let digits := if digits.isEmpty then ['0'] else digits
    match (marks.filter fun c => ['-', '_', '0'].contains c).getLast? with
    | some '-' => String.ofList digits
    | some c =>
        let fill := if c = '_' then ' ' else '0'
        String.ofList (List.replicate (max width s.length - digits.length) fill ++ digits)
    | none => String.ofList (List.replicate (width - s.length) '0') ++ s

/-- **A time in a format.**  What is no field is kept. -/
def format (ms : Nat) : Nat → List Char → String
  | 0, _ => ""
  | _, [] => ""
  | fuel + 1, '%' :: cs =>
      let marks := cs.takeWhile fun c => ['-', '_', '0', '^', '#', '+'].contains c
      let rest := cs.drop marks.length
      let width := rest.takeWhile Char.isDigit
      let rest := rest.drop width.length
      let n := (String.ofList width).toNat?.getD 0
      match rest with
      | ':' :: 'z' :: rest => "+00:00" ++ format ms fuel rest
      | ':' :: ':' :: 'z' :: rest => "+00:00:00" ++ format ms fuel rest
      | c :: rest =>
          (match c, field? ms c with
            | 'N', some s => if n = 0 then s else String.ofList (s.toList.take n)
            | _, some s => marked marks n s
            | _, none => "%" ++ String.ofList marks ++ String.ofList width ++ String.singleton c)
            ++ format ms fuel rest
      | [] => "%"
  | fuel + 1, c :: cs => String.singleton c ++ format ms fuel cs

def formatted (ms : Nat) (s : String) : String := format ms (s.length + 1) s.toList

end Dates

namespace Utility

def touchOptions : List Opt :=
  flags "af" ++ [⟨'m', "", .nothing⟩, ⟨'c', "no-create", .nothing⟩,
    ⟨'h', "no-dereference", .nothing⟩, ⟨'d', "date", .value⟩, ⟨'r', "reference", .value⟩,
    ⟨'t', "", .value⟩, ⟨'=', "time", .value⟩]

def touchTime (w : Host) (p : Proc) (g : Given) : Except String Nat :=
  let invalid (s : String) : Except String Nat := .error ("invalid date format " ++ inQuotes s)
  match g.value? 'd', g.value? 't', g.value? 'r' with
  | some s, _, _ =>
      match Dates.ofText? w.clock s with
      | some ms => .ok ms.toNat
      | none => invalid s
  | none, some s, _ =>
      match Dates.ofStamp? w.clock s with
      | some ms => .ok ms.toNat
      | none => invalid s
  | none, none, some r =>
      match w.files.stat p.cwd (Octets.unpack r) with
      | .ok (place, x) => .ok (w.files.factsOf place x).time
      | .error e => .error ("failed to get attributes of " ++ inQuotes r ++ ": " ++ reason e)
  | none, none, none => .ok w.clock

def touchOne (p : Proc) (g : Given) (time : Nat) (onlyRead : Bool) (s : Progress) (a : String) :
    Progress :=
  let path := Octets.unpack a
  let isThere := s.files.isPresent p.cwd path
  let isEntry := (entryAt? s.files p.cwd a).isSome
  let failed (e : IoError) : Progress :=
    s.complain p ("setting times of " ++ inQuotes a ++ ": " ++ reason e)
  if g.has 'h' && isEntry && !isThere then s
  else if !isThere && g.has 'c' then s
  else if !isThere && g.has 'h' then failed (.os .noEntry)
  else
    let made := if isThere then .ok s.files
      else (s.files.openAppend p.cwd path).map Prod.snd
    match made with
    | .ok t => s.withFiles (if onlyRead then t else (t.setTime p.cwd path time).toOption.getD t)
    | .error e =>
        if e = .os .isDir then
          failed (match s.files.stat p.cwd path with
            | .error e => e
            | .ok _ => e)
        else s.complain p ("cannot touch " ++ inQuotes a ++ ": " ++ reason e)

/-- **Sets the times of files**, and makes those that are not there. -/
def touch (w : Host) (p : Proc) (args : List String) : Host :=
  withArguments w p touchOptions args fun g =>
    let which : Except String Bool := match g.value? '=' with
      | some word => choose "--time" word [(["atime", "access", "use"], true),
          (["mtime", "modify"], false)]
      | none => .ok (g.has 'a')
    match which, touchTime w p g with
    | .error text, _ => misuse w p text
    | _, .error text => refuse w p text
    | .ok onlyRead, .ok time =>
        if g.operands.isEmpty then misuse w p "missing file operand"
        else
          ((Progress.start w).through g.operands
            (touchOne p g time (onlyRead && !g.has 'm'))).finish p

end Utility

end BatchRunner
