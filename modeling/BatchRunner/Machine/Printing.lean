/-
**What printing commands print.**

Main definitions:

* `Printing.unescaped` — backslash escapes become the bytes they stand for;
* `Printing.echoPlain`, `Printing.echoEscaped` — echoing arguments as they are, or unescaped;
* `Printing.formatted` — arguments put into a format, which is used again while arguments last;
* `Printing.millis?` — a span of time written in seconds.
-/
import BatchRunner.Decimal.Hexadecimal
import BatchRunner.Decimal.Numeral
import BatchRunner.Script.Arithmetic
import BatchRunner.Text.Octets

set_option autoImplicit false

namespace BatchRunner.Printing

def octal (ds : List Char) : Nat := ds.foldl (fun n d => n * 8 + (d.toNat - 48)) 0

/-- Whether a character is an octal digit. -/
def isOctal (c : Char) : Bool := '0' ≤ c && c ≤ '7'

/-- The letters that stand for a control character behind a backslash. -/
def controls : List (Char × UInt8) :=
  [('a', 7), ('b', 8), ('e', 27), ('f', 12), ('n', 10), ('r', 13), ('t', 9), ('v', 11), ('\\', 92)]

/-- Whether a character is a hexadecimal digit. -/
def isHex (c : Char) : Bool := c.isDigit || ('a' ≤ c.toLower && c.toLower ≤ 'f')

def hex (ds : List Char) : Nat :=
  ds.foldl (fun n d =>
    n * 16 + (if d.isDigit then d.toNat - 48 else d.toLower.toNat - 87)) 0

/-- What the character `c` behind a backslash stands for, and how many of the characters that follow
belong to it.  An octal number may be written behind a zero if `zeroFirst`, and a hexadecimal one
behind an `x` if `hexadecimal`. -/
def escape (zeroFirst hexadecimal : Bool) (c : Char) (rest : List Char) : Bytes × Nat :=
  let ds := if zeroFirst && c = '0' then (rest.take 3).takeWhile isOctal
    else ((c :: rest).take 3).takeWhile isOctal
  let hs := (rest.take 2).takeWhile isHex
  match controls.lookup c with
  | some b => ([b], 0)
  | none =>
      if zeroFirst && c = '0' then ([UInt8.ofNat (octal ds)], ds.length)
      else if hexadecimal && c = 'x' && !hs.isEmpty then ([UInt8.ofNat (hex hs)], hs.length)
      else if ds.isEmpty then (Octets.bytes (String.ofList ['\\', c]), 0)
      else ([UInt8.ofNat (octal ds)], ds.length - 1)

/-- A text with its escapes replaced, and whether an escape said to stop. -/
def unescaped (hexadecimal : Bool) : List Char → Bytes × Bool
  | [] => ([], false)
  | '\\' :: 'c' :: _ => ([], true)
  | '\\' :: c :: rest =>
      let (b, n) := escape true hexadecimal c rest
      let (bs, stop) := unescaped hexadecimal (rest.drop n)
      (b ++ bs, stop)
  | c :: rest =>
      let (bs, stop) := unescaped hexadecimal rest
      (Octets.bytes (String.singleton c) ++ bs, stop)
termination_by cs => cs.length
decreasing_by all_goals simp only [List.length_cons, List.length_drop]; omega

/-- Echoes arguments, with or without an end of line. -/
def echoPlain (ended : Bool) (args : List String) : Bytes :=
  Octets.bytes (" ".intercalate args) ++ (if ended then [10] else [])

def echoEscaped (hexadecimal ended : Bool) (args : List String) : Bytes :=
  let (bs, stop) := unescaped hexadecimal (" ".intercalate args).toList
  bs ++ (if ended && !stop then [10] else [])

/-! ### Formats -/

/-- Who puts arguments into a format: a script, or a utility. -/
inductive Printer where
  | script
  | utility
  deriving DecidableEq, Repr

/-- How an argument is put into a format. -/
structure Slot where
  flags : List Char
  /-- The least number of bytes; `none` if an argument says it. -/
  width : Option Nat
  precision : Option (Option Nat)
  letter : Char
  deriving DecidableEq, Repr

/-- A part of a format: bytes, or a place for an argument. -/
inductive Part where
  | bytes (b : Bytes)
  | slot (p : Slot)
  /-- Something that is no place for an argument, behind so many stars. -/
  | mistake (stars : Nat) (text : String)
  /-- The end of everything that is printed. -/
  | stop
  deriving DecidableEq, Repr

/-- A number in a format, or a star, and how many characters it takes. -/
def formatNumber (cs : List Char) : Option Nat × Nat :=
  match cs with
  | '*' :: _ => (none, 1)
  | cs =>
      let ds := cs.takeWhile Char.isDigit
      (some ((String.ofList ds).toNat?.getD 0), ds.length)

def placeLetters : Printer → List Char
  | .script => "diouxXcsbaAeEfFgG".toList
  | .utility => "diouxXcsbaAeEfFgGq".toList

/-- The place for an argument behind a percent sign, and how many characters it takes. -/
def placeAt (by' : Printer) (cs : List Char) : Part × Nat :=
  let flags := cs.takeWhile fun c => ['#', '-', '+', ' ', '0'].contains c
  let rest := cs.drop flags.length
  let (width, n) := formatNumber rest
  let rest := rest.drop n
  let (precision, k) := match rest with
    | '.' :: rest => let (p, k) := formatNumber rest; (some p, k + 1)
    | _ => (none, 0)
  let sizes := if by' = .script then []
    else (rest.drop k).takeWhile fun c => "hlLjtz".toList.contains c
  let size := flags.length + n + k + sizes.length
  let stars := (cs.take size).count '*'
  let wrong := String.ofList ('%' :: cs.take (size + 1))
  match by', rest.drop (k + sizes.length) with
  | .script, [] => (.mistake stars "missing format character", cs.length)
  | .utility, [] => (.mistake stars (wrong ++ ": invalid conversion specification"), cs.length)
  | _, c :: _ =>
      if (placeLetters by').contains c then (.slot ⟨flags, width, precision, c⟩, size + 1)
      else
        (.mistake stars (wrong ++ (if by' = .script then ": invalid directive"
          else ": invalid conversion specification")), cs.length)

def parts (by' : Printer) : List Char → List Part
  | [] => []
  | '%' :: '%' :: rest => .bytes [37] :: parts by' rest
  | '%' :: rest => (placeAt by' rest).1 :: parts by' (rest.drop (placeAt by' rest).2)
  | '\\' :: c :: rest =>
      if by' = .utility && c = 'c' then [.stop]
      else if by' = .utility && c = '\x22' then .bytes [34] :: parts by' rest
      else if by' = .utility && c = 'x' && !rest.head?.any isHex then
        [.mistake 0 "missing hexadecimal number in escape"]
      else
        let (b, n) := escape false (by' = .utility) c rest
        .bytes b :: parts by' (rest.drop n)
  | c :: rest => .bytes (Octets.bytes (String.singleton c)) :: parts by' rest
termination_by cs => cs.length
decreasing_by all_goals simp only [List.length_cons, List.length_drop]; omega

/-- What has been printed and what is wrong, in turn, and whether something said to stop. -/
structure Printed where
  pieces : List (Except String Bytes)
  stopped : Bool

namespace Printed

def bytes (r : Printed) : Bytes := r.pieces.flatMap fun x => x.toOption.getD []

def complaints (r : Printed) : List String :=
  r.pieces.filterMap fun x => match x with
    | .error text => some text
    | .ok _ => none

/-- What is printed after complaints. -/
def after (complaints : List String) (b : Bytes) : Printed :=
  ⟨complaints.map Except.error ++ [.ok b], false⟩

end Printed

/-- Which numbers a place accepts. -/
structure Span where
  low : Int
  high : Int

def Span.signed : Span := ⟨-Script.Arithmetic.largest - 1, Script.Arithmetic.largest⟩

/-- The numbers without a sign.  A negative number counts backwards from their end. -/
def Span.unsigned : Span :=
  ⟨-(Script.Arithmetic.modulus - 1 : Int), Script.Arithmetic.modulus - 1⟩

/-- The numbers that the place with a letter accepts. -/
def Span.of (letter : Char) : Span :=
  if letter = 'd' || letter = 'i' then .signed else .unsigned

/-- What is wrong with an argument of which so many characters have been read, and so many are
left. -/
def conversionFaults (by' : Printer) (s : String) (read left : Nat) (outOfRange : Bool) :
    List String :=
  let (name, numeric, part) := match by' with
    | .script => (s, ": expected numeric value", ": not completely converted")
    | .utility => ("'" ++ s ++ "'", ": expected a numeric value",
        ": value not completely converted")
  if read = 0 then [name ++ numeric]
  else if left ≠ 0 then [name ++ part]
  else if outOfRange then [name ++ ": Numerical result out of range"]
  else []

/-- Whether the number at the head of a text is negative, and what stands behind blanks and sign. -/
def signAt (cs : List Char) : Bool × List Char :=
  match cs.dropWhile Script.Arithmetic.isSpace with
  | '-' :: ds => (true, ds)
  | '+' :: ds => (false, ds)
  | ds => (false, ds)

/-- The number an argument is, and what is wrong with it.  Behind a quote it is that of a
character. -/
def numeral (by' : Printer) (span : Span) (s : String) : Int × List String :=
  match s.toList with
  | [] => (0, [])
  | '\x27' :: cs => ((((Octets.bytes (String.ofList cs)).head?).map UInt8.toNat).getD 0, [])
  | '\x22' :: cs => ((((Octets.bytes (String.ofList cs)).head?).map UInt8.toNat).getD 0, [])
  | cs =>
      let (negative, ds) := signAt cs
      let (n, k) := if ds.head?.any Char.isDigit then Script.Arithmetic.numberAt ds else (0, 0)
      let value : Int := if negative then -n else n
      let outOfRange := value < span.low || span.high < value
      let nearest := if !outOfRange then value
        else if value < 0 && span.low = Span.signed.low then span.low else span.high
      (nearest, conversionFaults by' s k (ds.length - k) outOfRange)

def padded (flags : List Char) (width : Nat) (b : Bytes) : Bytes :=
  let gap := List.replicate (width - b.length) 32
  if flags.contains '-' then b ++ gap else gap ++ b

def digitsOf (base least n : Nat) : List Char :=
  let ds := if n = 0 ∧ least = 0 then [] else Nat.toDigits base n
  List.replicate (least - ds.length) '0' ++ ds

def numberText (p : Slot) (width : Nat) (precision : Option Nat) (n : Int) : Bytes :=
  let bare := (n % (Script.Arithmetic.modulus : Int)).toNat
  let least := precision.getD 1
  let (sign, ds) : String × List Char := match p.letter with
    | 'x' => (if p.flags.contains '#' && n ≠ 0 then "0x" else "", digitsOf 16 least bare)
    | 'X' => (if p.flags.contains '#' && n ≠ 0 then "0X" else "",
        (digitsOf 16 least bare).map Char.toUpper)
    | 'o' =>
        let ds := digitsOf 8 least bare
        ("", if p.flags.contains '#' && ds.head? ≠ some '0' then '0' :: ds else ds)
    | 'u' => ("", digitsOf 10 least bare)
    | _ =>
        (if n < 0 then "-" else if p.flags.contains '+' then "+"
          else if p.flags.contains ' ' then " " else "", digitsOf 10 least n.natAbs)
  let zeros := if p.flags.contains '0' && !p.flags.contains '-' && precision.isNone
    then width - sign.length - ds.length else 0
  padded p.flags width (Octets.bytes (sign ++ String.ofList (List.replicate zeros '0' ++ ds)))

/-! ### Fractions -/

/-- A number that may have a fraction. -/
structure Fraction where
  negative : Bool
  magnitude : Decimal.Magnitude

/-- The number an argument is, with a fraction, and what is wrong with it. -/
def fraction (by' : Printer) (s : String) : Fraction × List String :=
  let ofByte (cs : List Char) : Fraction × List String :=
    let n := (cs.head?.map Char.toNat).getD 0
    (⟨false, (Decimal.Numeral.ofRatio n 1 1).magnitude⟩, [])
  match s.toList with
  | [] => (⟨false, .finite .zero⟩, [])
  | '\x27' :: cs => ofByte cs
  | '\x22' :: cs => ofByte cs
  | cs =>
      let (negative, ds) := signAt cs
      let n := Decimal.numeralAt ds
      (⟨negative && n.size ≠ 0, n.magnitude⟩,
        conversionFaults by' s n.size (ds.length - n.size) n.outOfRange)

/-- A number with a fraction as a place wants it. -/
def fractionText (p : Slot) (width : Nat) (precision : Option Nat) (x : Fraction) : Bytes :=
  let sign := if x.negative then "-" else if p.flags.contains '+' then "+"
    else if p.flags.contains ' ' then " " else ""
  let places := precision.getD 6
  let point := p.flags.contains '#'
  let (isNumber, front, ds) : Bool × String × List Char := match x.magnitude with
    | .infinite => (false, sign, "inf".toList)
    | .notNumber => (false, sign, "nan".toList)
    | .finite m => match p.letter.toLower with
        | 'e' => (true, sign, Decimal.scientific places point 'e' m)
        | 'g' => (true, sign, Decimal.general places point 'e' m)
        | 'a' => (true, sign ++ "0x", Decimal.hexadecimal precision point m)
        | _ => (true, sign, Decimal.fixed places point m)
  let zeros := if p.flags.contains '0' && !p.flags.contains '-' && isNumber
    then width - front.length - ds.length else 0
  let text := front.toList ++ List.replicate zeros '0' ++ ds
  let text := if p.letter.isUpper then text.map Char.toUpper else text
  padded p.flags width (Octets.bytes (String.ofList text))

/-- An argument as a place wants it. -/
def converted (by' : Printer) (quoted : String → String) (p : Slot) (width : Nat)
    (precision : Option Nat) (s : String) : Printed :=
  let cut (b : Bytes) : Bytes := match precision with
    | some n => b.take n
    | none => b
  match p.letter with
  | 's' => .after [] (padded p.flags width (cut (Octets.bytes s)))
  | 'q' => .after [] (padded p.flags width (cut (Octets.bytes (quoted s))))
  | 'c' => .after [] (padded p.flags width [(Octets.bytes s).headD 0])
  | 'b' =>
      let (b, stop) := unescaped (by' = .utility) s.toList
      { Printed.after [] (padded p.flags width (cut b)) with stopped := stop }
  | letter =>
      if ['a', 'e', 'f', 'g'].contains letter.toLower then
        let (x, complaints) := fraction by' s
        .after complaints (fractionText p width precision x)
      else
        let (n, complaints) := numeral by' (.of letter) s
        .after complaints (numberText p width precision n)

def widest : Int := 2147483647

/-- A width or a precision that an argument says, and what is wrong with it; none if the printer
gives up.  A script takes what is left of a number in 32 bits. -/
def measured (by' : Printer) (what : String) (low : Int) (s : String) :
    Option Int × List String :=
  let (n, faults) := numeral by' .signed s
  match by' with
  | .script => (some (Int.bmod n 4294967296), faults)
  | .utility =>
      if low ≤ n && n ≤ widest then (some n, faults)
      else (none, faults ++ ["invalid " ++ what ++ ": '" ++ s ++ "'"])

/-- The width of a place, what is wrong with it, and the arguments behind it. -/
def Slot.widthFrom (p : Slot) (by' : Printer) (args : List String) :
    (Option Int × List String) × List String :=
  match p.width with
  | some n => ((some n, []), args)
  | none => (measured by' "field width" (-widest - 1) (args.headD ""), args.tail)

/-- The precision of a place, below zero if it has none, what is wrong with it, and the arguments
behind it. -/
def Slot.precisionFrom (p : Slot) (by' : Printer) (args : List String) :
    (Option Int × List String) × List String :=
  match p.precision with
  | none => ((some (-1), []), args)
  | some (some n) => ((some n, []), args)
  | some none =>
      (measured by' "precision" Span.signed.low (args.headD ""), args.tail)

/-- Whether a place is wider than anything that can be printed. -/
def Slot.isTooWide (p : Slot) : Bool :=
  p.width.any (fun n => widest < n) || p.precision.any fun q => q.any fun n => widest < n

/-- One use of a format: what it prints, and the arguments it leaves. -/
def useOnce (by' : Printer) (quoted : String → String) :
    List Part → List String → Printed × List String
  | [], args => (⟨[], false⟩, args)
  | .bytes b :: ps, args =>
      let (r, rest) := useOnce by' quoted ps args
      ({ r with pieces := .ok b :: r.pieces }, rest)
  | .mistake stars text :: _, args =>
      let faults := (args.take stars).flatMap fun s =>
        (measured by' "field width" (-widest - 1) s).2
      (⟨(faults ++ [text]).map Except.error, true⟩, [])
  | .stop :: _, _ => (⟨[], true⟩, [])
  | .slot p :: ps, args =>
      let ((width?, faults), args) := p.widthFrom by' args
      let ((precision?, more), args) := p.precisionFrom by' args
      match width?, precision? with
      | none, _ => (⟨faults.map Except.error, true⟩, [])
      | _, none => (⟨(faults ++ more).map Except.error, true⟩, [])
      | some width, some precision =>
          let p := if width < 0 then { p with flags := '-' :: p.flags } else p
          let here : Printed :=
            if !p.isTooWide then
              converted by' quoted p width.natAbs
                (if precision < 0 then none else some precision.toNat) (args.headD "")
            else if by' = .script then ⟨[.error "xvsnprintf failed"], true⟩
            else .after [] []
          let first := (faults ++ more).map Except.error ++ here.pieces
          if here.stopped then (⟨first, true⟩, [])
          else
            let (r, rest) := useOnce by' quoted ps args.tail
            (⟨first ++ r.pieces, r.stopped⟩, rest)

/-- Uses a format until no argument is left, but no more than the given number of times. -/
def useAll (by' : Printer) (quoted : String → String) (ps : List Part) :
    Nat → List String → Printed
  | 0, _ => ⟨[], false⟩
  | times + 1, args =>
      let (here, rest) := useOnce by' quoted ps args
      if here.stopped || rest.isEmpty then here
      else
        let r := useAll by' quoted ps times rest
        ⟨here.pieces ++ r.pieces, r.stopped⟩

/-- Arguments put into a format.  A format without a place for one is used once; a utility warns
of the arguments that it has no place for. -/
def formatted (by' : Printer) (quoted : String → String) (format : String) (args : List String) :
    Printed :=
  let ps := parts by' format.toList
  let places := ps.any fun p => match p with
    | .slot _ => true
    | _ => false
  let tooWide := ps.any fun p => match p with
    | .slot p => p.isTooWide
    | _ => false
  let r := useAll by' quoted ps (if places then args.length + 1 else 1) args
  let r := if by' = .utility && tooWide && !r.stopped
    then { r with pieces := r.pieces ++ [.error "write error"] } else r
  match by', places || r.stopped, args with
  | .utility, false, a :: _ => { r with
      pieces := r.pieces ++
        [.error ("warning: ignoring excess arguments, starting with '" ++ a ++ "'")] }
  | _, _, _ => r

/-- Whether a complaint is about the format, and not about an argument. -/
def isAboutFormat (text : String) : Bool :=
  text = "missing format character" || text = "xvsnprintf failed"
    || text.endsWith "invalid directive"

/-- The unit behind a span of time, in milliseconds. -/
def unitMillis : List Char → Option Nat
  | [] => some 1000
  | ['s'] => some 1000
  | ['m'] => some 60000
  | ['h'] => some 3600000
  | ['d'] => some 86400000
  | _ => none

/-- A span of time that does not end, in milliseconds. -/
def endlessMillis : Nat := 1000000000000000

/-- A span of time in milliseconds: seconds that may have a fraction, or another unit. -/
def millis? (s : String) : Option Nat :=
  let cs := match s.toList with
    | '+' :: cs => cs
    | cs => cs
  let n := Decimal.numeralAt cs
  if n.size = 0 || n.magnitude = .notNumber then none
  else
    (unitMillis (cs.drop n.size)).map fun unit =>
      match n.magnitude with
      | .finite x => let (num, den) := x.toRatio; min (num * unit / den) endlessMillis
      | _ => endlessMillis

end BatchRunner.Printing
