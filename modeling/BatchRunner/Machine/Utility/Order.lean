/-
**The order of lines.**

Lines are compared by parts of them, their keys, or as a whole.  What is compared is the bytes of a
part, or what they stand for: a number, a month, a version.

Main definitions:

* `Lines.Measure`, `Lines.Manner` — what parts of lines are compared by;
* `Lines.Amount` — a number of any size, or what stands in its place;
* `Lines.compareVersions` — names with numbers in them, in the order of the numbers;
* `Lines.Key`, `Lines.Key.part` — a part of a line;
* `Lines.Sorting`, `Lines.sort`, `Lines.merge` — lines in order.

Main results:

* `Lines.perm_sort` — no line is lost.
-/
import BatchRunner.Machine.Utility.Lines

set_option autoImplicit false

namespace BatchRunner.Lines

/-- What the bytes of a part of a line stand for. -/
inductive Measure where
  /-- The bytes themselves. -/
  | text
  /-- A decimal number. -/
  | number
  /-- A number with a letter that says how large it is. -/
  | scaled
  /-- A number that may be written with a power. -/
  | general
  /-- The short name of a month. -/
  | month
  /-- A name with numbers in it. -/
  | version
  deriving DecidableEq, Repr

/-- How parts of lines are compared. -/
structure Manner where
  measure : Measure
  reverse : Bool
  /-- Whether small letters count as capitals. -/
  fold : Bool
  /-- Whether blanks at the beginning of a part do not count. -/
  unblankStart : Bool
  /-- Whether blanks before the end of a part do not count. -/
  unblankStop : Bool
  /-- Whether only letters, digits and blanks count. -/
  plain : Bool
  /-- Whether only what can be shown counts. -/
  visible : Bool
  deriving DecidableEq, Repr

def Manner.usual : Manner := ⟨.text, false, false, false, false, false, false⟩

/-! ### Numbers -/

/-- A number at the beginning of bytes, as a whole number with so many decimal places, and the byte
behind it. -/
def numberAt (l : Bytes) : Int × Nat × Option UInt8 :=
  let l := l.dropWhile isBlank
  let negative := l.head? = some 45
  let l := if negative then l.drop 1 else l
  let whole := l.takeWhile isDigit
  let rest := l.drop whole.length
  let fraction := if rest.head? = some 46 then (rest.drop 1).takeWhile isDigit else []
  let rest := if rest.head? = some 46 then rest.drop (fraction.length + 1) else rest
  let n : Int := natOf (whole ++ fraction)
  (if negative then -n else n, fraction.length, rest.head?)

def compareDecimals (a : Int × Nat) (b : Int × Nat) : Ordering :=
  compare (a.1 * (Nat.pow 10 b.2 : Nat)) (b.1 * (Nat.pow 10 a.2 : Nat))

/-- The letters that say how large a number is, in increasing order. -/
def scales : List UInt8 := "KMGTPEZYRQ".toList.map Octets.byte

/-- How large the letter behind a number says it is. -/
def scaleOf (x : Option UInt8) : Nat :=
  match x with
  | some x => ((scales.findIdx? fun s => s = x || (s = 75 && x = 107)).map (· + 1)).getD 0
  | none => 0

/-- Compares numbers by sign, then by the letters behind them, then by value. -/
def compareScaled (a b : Bytes) : Ordering :=
  let (x, i, s) := numberAt a
  let (y, j, t) := numberAt b
  let sign (z : Int) : Int := if z < 0 then -1 else if z = 0 then 0 else 1
  ((compare (sign x) (sign y)).then
    (compare (sign x * (scaleOf s : Int)) (sign y * (scaleOf t : Int)))).then
    (compareDecimals (x, i) (y, j))

/-- **A number of any size**, or what stands in its place, in increasing order. -/
inductive Amount where
  /-- No number at all. -/
  | missing
  /-- A number that has no place among the others. -/
  | undefined
  | lowest
  /-- A number and the power of ten, or of two, by which it is multiplied. -/
  | finite (n : Int) (base : Nat) (power : Int)
  | highest
  deriving DecidableEq, Repr

namespace Amount

/-- Above this power a number is beyond all others, and below its negative it is nothing. -/
def powerMax : Nat := 4950

/-- The place of an amount among those of other kinds. -/
def rank : Amount → Nat
  | missing => 0
  | undefined => 1
  | lowest => 2
  | finite .. => 3
  | highest => 4

/-- An amount as a quotient. -/
def quotient (n : Int) (base : Nat) (power : Int) : Int × Nat :=
  if 0 ≤ power then (n * (Nat.pow base power.toNat : Nat), 1) else (n, Nat.pow base (-power).toNat)

def compare : Amount → Amount → Ordering
  | finite n b p, finite m c q =>
      let (x, d) := quotient n b p
      let (y, e) := quotient m c q
      Ord.compare (x * (e : Int)) (y * (d : Int))
  | a, b => Ord.compare a.rank b.rank

/-- The value of a digit that may be a letter. -/
def digitOf (x : UInt8) : Nat := if isDigit x then x.toNat - 48 else (lower x).toNat - 87

/-- The power behind a letter, if there is one. -/
def powerAt (letter : UInt8) (l : Bytes) : Int :=
  match l with
  | x :: rest =>
      if lower x ≠ letter then 0
      else
        let negative := rest.head? = some 45
        let rest := if negative || rest.head? = some 43 then rest.drop 1 else rest
        let n : Int := natOf (rest.takeWhile isDigit)
        if negative then -n else n
  | [] => 0

/-- Digits with a fraction, and what is behind them: their value, the number of places of the
fraction, and whether there is a digit. -/
def digitsAt (base : Nat) (within : UInt8 → Bool) (l : Bytes) : Nat × Nat × Bool × Bytes :=
  let whole := l.takeWhile within
  let rest := l.drop whole.length
  let (fraction, rest) := match rest with
    | 46 :: rest => (rest.takeWhile within, rest.dropWhile within)
    | rest => ([], rest)
  let ds := whole ++ fraction
  (ds.foldl (fun n d => base * n + digitOf d) 0, fraction.length, !ds.isEmpty, rest)

/-- Whether bytes begin with a word, in small letters or capitals. -/
def begins (word : String) (l : Bytes) : Bool :=
  (Octets.bytes word).isPrefixOf (l.map lower)

/-- **The amount at the beginning of bytes.** -/
def ofBytes (l : Bytes) : Amount :=
  let l := l.dropWhile isGap
  let negative := l.head? = some 45
  let l := if negative || l.head? = some 43 then l.drop 1 else l
  let signed (n : Nat) : Int := if negative then -(n : Int) else (n : Int)
  let isHex (x : UInt8) : Bool := isDigit x || (97 ≤ lower x && lower x ≤ 102)
  let (n, places, any, rest) := digitsAt 16 isHex (l.drop 2)
  if begins "inf" l then if negative then lowest else highest
  else if begins "nan" l then undefined
  else if begins "0x" l && any then
    finite (signed n) 2 (powerAt 112 rest - 4 * (places : Int))
  else
    let (n, places, any, rest) := digitsAt 10 isDigit l
    let power := powerAt 101 rest - (places : Int)
    if !any then missing
    else if n = 0 || power < -(2 * (powerMax : Int)) then finite 0 10 0
    else if (powerMax : Int) < power then if negative then lowest else highest
    else finite (signed n) 10 power

end Amount

/-! ### Months and versions -/

def months : List Bytes :=
  ["JAN", "FEB", "MAR", "APR", "MAY", "JUN", "JUL", "AUG", "SEP", "OCT", "NOV", "DEC"].map
    Octets.bytes

/-- The number of the month that bytes begin with, or zero. -/
def monthOf (l : Bytes) : Nat :=
  let name := ((l.dropWhile isBlank).take 3).map upper
  ((months.findIdx? (· = name)).map (· + 1)).getD 0

/-- The place of a byte of a name between numbers.  A tilde comes before the end of a name, and
letters come before what is neither letter nor digit. -/
def versionRank : Option UInt8 → Nat
  | some 126 => 0
  | none => 1
  | some x => if isDigit x then 2 else if isLetter x then 2 + x.toNat else 258 + x.toNat

/-- Compares names with numbers in them, of at most the given length together. -/
def compareRuns : Nat → Bytes → Bytes → Ordering
  | 0, _, _ => .eq
  | fuel + 1, a, b =>
      let inName (l : Bytes) : Bool := l.head?.any fun x => !isDigit x
      if a.isEmpty && b.isEmpty then .eq
      else if inName a || inName b then
        (compare (versionRank a.head?) (versionRank b.head?)).then
          (compareRuns fuel (a.drop 1) (b.drop 1))
      else
        let x := a.takeWhile isDigit
        let y := b.takeWhile isDigit
        (compare (natOf x) (natOf y)).then
          (compareRuns fuel (a.drop x.length) (b.drop y.length))

/-- The length of the endings of a file name at the beginning of bytes: each is a point, a letter or
a tilde, and then letters, digits and tildes. -/
def endingsLength : Nat → Bytes → Nat
  | fuel + 1, 46 :: x :: rest =>
      if isLetter x || x = 126 then
        let more := (rest.takeWhile fun y => isLetter y || isDigit y || y = 126).length
        2 + more + endingsLength fuel (rest.drop more)
      else 0
  | _, _ => 0

/-- The length of a name without its endings. -/
def stemLength (l : Bytes) : Nat :=
  ((List.range l.length).find? fun n =>
    n ≠ 0 && n + endingsLength l.length (l.drop n) = l.length).getD l.length

/-- **Compares names with numbers in them.**  Names that begin with a point come first.  The endings
of file names count only where nothing else differs. -/
def compareVersions (a b : Bytes) : Ordering :=
  let place (l : Bytes) : Nat :=
    if l.isEmpty then 0 else if l = [46] then 1 else if l = [46, 46] then 2
    else if l.head? = some 46 then 3 else 4
  let stem (l : Bytes) : Bytes := l.take (stemLength l)
  let fuel := a.length + b.length + 1
  ((compare (place a) (place b)).then (compareRuns fuel (stem a) (stem b))).then
    (compareRuns fuel a b)

/-! ### Keys -/

def Manner.compare (m : Manner) (a b : Bytes) : Ordering :=
  let tidy (l : Bytes) : Bytes :=
    let l := if m.plain then l.filter fun x => isBlank x || isDigit x || isLetter x
      else if m.visible then l.filter fun x => 32 ≤ x && x ≤ 126 else l
    if m.fold then l.map upper else l
  let c := match m.measure with
    | .text => compareBytes (tidy a) (tidy b)
    | .number =>
        let (x, i, _) := numberAt a
        let (y, j, _) := numberAt b
        compareDecimals (x, i) (y, j)
    | .scaled => compareScaled a b
    | .general => (Amount.ofBytes a).compare (Amount.ofBytes b)
    | .month => Ord.compare (monthOf a) (monthOf b)
    | .version => compareVersions (tidy a) (tidy b)
  if m.reverse then c.swap else c

/-- A part of lines that they are compared by: the first field and byte, and the last ones. -/
structure Key where
  start : Nat × Nat
  stop : Option (Nat × Nat)
  manner : Manner
  deriving DecidableEq, Repr

def Key.whole (m : Manner) : Key := ⟨(1, 1), none, m⟩

/-- The length of the first fields of a line, without what separates the last from the rest. -/
def fieldsLength (sep : Option UInt8) (n : Nat) (l : Bytes) : Nat :=
  let before := l.length - (dropFields sep (n - 1) l).length
  let rest := l.drop before
  before + (match sep with
    | none => (blankField rest).length
    | some d => (rest.takeWhile fun x => x ≠ d).length)

def Key.part (k : Key) (sep : Option UInt8) (l : Bytes) : Bytes :=
  let unblank (yes : Bool) (l : Bytes) : Bytes := if yes then l.dropWhile isBlank else l
  let start := (unblank k.manner.unblankStart (dropFields sep (k.start.1 - 1) l)).drop
    (k.start.2 - 1)
  let stop := match k.stop with
    | none => l.length
    | some (f, 0) => fieldsLength sep f l
    | some (f, c) =>
        min (l.length - (unblank k.manner.unblankStop (dropFields sep (f - 1) l)).length + c)
          l.length
  (l.take stop).drop (l.length - start.length)

/-! ### Sorting -/

structure Sorting where
  keys : List Key
  separator : Option UInt8
  /-- How whole lines are compared where there are no keys. -/
  whole : Manner
  /-- Whether lines whose keys do not differ stay as they are. -/
  stable : Bool
  deriving Repr

def compareKeys (sep : Option UInt8) (a b : Bytes) : List Key → Ordering
  | [] => .eq
  | k :: ks => (k.manner.compare (k.part sep a) (k.part sep b)).then (compareKeys sep a b ks)

/-- Compares lines.  Where the keys do not differ the whole lines decide. -/
def Sorting.compare (s : Sorting) (a b : Bytes) : Ordering :=
  let keys := if s.keys.isEmpty then [Key.whole s.whole] else s.keys
  let rest := if s.stable then Ordering.eq
    else if s.whole.reverse then compareBytes b a else compareBytes a b
  (compareKeys s.separator a b keys).then rest

def Sorting.le (s : Sorting) (a b : Bytes) : Bool := s.compare a b ≠ .gt

/-- Leaves out lines that are like the one before. -/
def dropAlike (alike : Bytes → Bytes → Bool) : List Bytes → List Bytes
  | a :: b :: ls =>
      if alike a b then dropAlike alike (a :: ls) else a :: dropAlike alike (b :: ls)
  | ls => ls
termination_by ls => ls.length

/-- **Lines in order.** -/
def sort (s : Sorting) (ls : List Bytes) : List Bytes := ls.mergeSort s.le

theorem perm_sort (s : Sorting) (ls : List Bytes) : (sort s ls).Perm ls :=
  List.mergeSort_perm ls s.le

/-- Lists of lines merged, each of which is in order. -/
def merge (s : Sorting) (lists : List (List Bytes)) : List Bytes :=
  lists.foldl (fun done ls => List.merge done ls s.le) []

end BatchRunner.Lines
