/-
**Bytes shown as text.**

Utilities that show bytes as numbers, and that write them with letters only and read that back.

Main definitions:

* `Utility.Dump.Form`, `Utility.dump` — bytes shown as numbers;
* `Utility.Dump.encode`, `Utility.Dump.decode?` — bytes written with sixty-four characters.
-/
import BatchRunner.Decimal.Numeral
import BatchRunner.Decimal.Places
import BatchRunner.Machine.Utility.Text

set_option autoImplicit false

namespace BatchRunner.Utility

namespace Dump

/-! ### Numbers -/

/-- How bytes are shown. -/
inductive Form where
  | octal (size : Nat)
  | hex (size : Nat)
  | signed (size : Nat)
  | unsigned (size : Nat)
  | float (size : Nat)
  | char
  | name
  deriving DecidableEq, Repr

namespace Form

/-- The number of bytes that are shown together. -/
def size : Form → Nat
  | octal n => n
  | hex n => n
  | signed n => n
  | unsigned n => n
  | float n => n
  | _ => 1

/-- The widths of numbers of one, two, four and eight bytes. -/
def widthOf (a b c d : Nat) (size : Nat) : Nat :=
  if size = 1 then a else if size = 2 then b else if size = 4 then c else d

/-- The width of what is shown, without the gap before it. -/
def width : Form → Nat
  | octal n => widthOf 3 6 11 22 n
  | hex n => 2 * n
  | signed n => widthOf 4 6 11 20 n
  | unsigned n => widthOf 3 5 10 20 n
  | float n => if n = 4 then 15 else 24
  | _ => 3

end Form

/-- A number in a base, with zeros before it. -/
def padded (base width n : Nat) : String :=
  let ds := Nat.toDigits base n
  String.ofList (List.replicate (width - ds.length) '0' ++ ds)

/-- The names of the bytes below the blank. -/
def controlNames : List String :=
  ["nul", "soh", "stx", "etx", "eot", "enq", "ack", "bel", "bs", "ht", "nl", "vt", "ff", "cr",
    "so", "si", "dle", "dc1", "dc2", "dc3", "dc4", "nak", "syn", "etb", "can", "em", "sub", "esc",
    "fs", "gs", "rs", "us", "sp"]

def escapes : List (Nat × String) :=
  [(0, "\\0"), (7, "\\a"), (8, "\\b"), (9, "\\t"), (10, "\\n"), (11, "\\v"), (12, "\\f"),
    (13, "\\r")]

/-- The binary digits that the fraction of a number of so many bytes has. -/
def fractionBits (size : Nat) : Nat := if size = 4 then 23 else 52

/-- A magnitude rounded to so many binary digits. -/
def rounded (digits : Nat) (x : Decimal.Binary64) : Nat × Nat :=
  let drop := (x.mantissa.log2 + 1) - digits
  let (num, den) := x.toRatio
  let unit := Nat.pow 2 drop * (if x.exponent < 0 then 1 else Nat.pow 2 x.exponent.toNat)
  (Decimal.Binary64.roundDiv num unit * unit, den)

/-- **A number with a fraction, written with as few digits as lead back to it.** -/
def floatText (size n : Nat) : String :=
  let bits := fractionBits size
  let fraction := n % Nat.pow 2 bits
  let highest := Nat.pow 2 (8 * size - 1 - bits) - 1
  let exponent := n / Nat.pow 2 bits % (highest + 1)
  let sign := if n / Nat.pow 2 (8 * size - 1) = 1 then "-" else ""
  if exponent = highest then sign ++ (if fraction = 0 then "inf" else "nan")
  else
    let lowest : Int := 1 - (highest / 2 : Nat) - bits
    let x : Decimal.Binary64 := if exponent = 0 then ⟨fraction, lowest⟩
      else ⟨fraction + Nat.pow 2 bits, lowest + (exponent - 1 : Nat)⟩
    let least := if exponent = 0 then 1 else if size = 4 then 6 else 15
    let text (digits : Nat) : List Char := Decimal.general digits false 'e' x
    let leadsBack (digits : Nat) : Bool :=
      match (Decimal.numeralAt (text digits)).magnitude with
      | .finite y =>
          let kept := if exponent = 0 then max 1 (x.mantissa.log2 + 1) else bits + 1
          let (a, b) := rounded kept y
          let (c, d) := x.toRatio
          a * d = c * b
      | _ => false
    let digits := ((List.range 17).map fun k => k + least).find? leadsBack
    sign ++ String.ofList (text (digits.getD 17))

/-- Some bytes as they are shown.  The first one counts least; missing ones are zero. -/
def Form.show' (f : Form) (bs : Bytes) : String :=
  let n := bs.foldr (fun b n => 256 * n + b.toNat) 0
  match f with
  | octal _ => padded 8 f.width n
  | hex _ => padded 16 f.width n
  | unsigned _ => Lines.padLeft f.width (toString n)
  | float size => Lines.padLeft f.width (floatText size n)
  | signed size =>
      let half := Nat.pow 2 (8 * size - 1)
      Lines.padLeft f.width (if n < half then toString n else "-" ++ toString (2 * half - n))
  | char =>
      Lines.padLeft 3 ((escapes.lookup n).getD
        (if 32 ≤ n && n < 127 then String.singleton (Char.ofNat n) else padded 8 3 n))
  | name =>
      let m := n % 128
      Lines.padLeft 3 ((controlNames[m]?).getD
        (if m = 127 then "del" else String.singleton (Char.ofNat m)))

def groups (size : Nat) : Nat → Bytes → List Bytes
  | 0, _ => []
  | fuel + 1, b => if b.isEmpty then [] else b.take size :: groups size fuel (b.drop size)

/-- The forms that a text asks for, each with whether the characters are shown behind it. -/
def forms : Nat → List Char → Except String (List (Form × Bool))
  | 0, _ => .ok []
  | _, [] => .ok []
  | fuel + 1, c :: cs =>
      let ds := cs.takeWhile Char.isDigit
      let rest := cs.drop ds.length
      let letterSize : Option Nat := match rest with
        | 'C' :: _ => some 1
        | 'S' :: _ => some 2
        | 'I' :: _ => some 4
        | 'L' :: _ => some 8
        | _ => none
      let letterSize := if c ≠ 'f' then letterSize else match rest with
        | 'F' :: _ => some 4
        | 'D' :: _ => some 8
        | _ => none
      let (size, rest) := match ds, letterSize with
        | [], some n => (n, rest.tail)
        | [], none => (if c = 'f' then 8 else 4, rest)
        | ds, _ => ((String.ofList ds).toNat?.getD 4, rest)
      let isSized := if c = 'f' then size = 4 || size = 8
        else [1, 2, 4, 8].contains size || c = 'c' || c = 'a'
      let form? : Option Form := match c with
        | 'o' => some (.octal size)
        | 'x' => some (.hex size)
        | 'd' => some (.signed size)
        | 'u' => some (.unsigned size)
        | 'f' => some (.float size)
        | 'c' => some .char
        | 'a' => some .name
        | _ => none
      match form?, isSized with
      | some _, false => .error ("invalid type string '" ++ String.ofList (c :: cs)
          ++ "';\nthis system doesn't provide a " ++ toString size ++ "-byte "
          ++ (if c = 'f' then "floating point" else "integral") ++ " type")
      | none, _ => .error ("invalid character '" ++ String.singleton c ++ "' in type string '"
          ++ String.ofList (c :: cs) ++ "'")
      | some f, true => do
          let rest := if f = .char || f = .name then cs else rest
          let (shown, rest) := match rest with
            | 'z' :: rest => (true, rest)
            | rest => (false, rest)
          return (f, shown) :: (← forms fuel rest)

def formOf? : Char → Option Form
  | 'a' => some .name
  | 'b' => some (.octal 1)
  | 'c' => some .char
  | 'd' => some (.unsigned 2)
  | 'o' => some (.octal 2)
  | 'x' => some (.hex 2)
  | 's' => some (.signed 2)
  | 'i' => some (.signed 4)
  | 'l' => some (.signed 8)
  | 'f' => some (.float 4)
  | 'F' => some (.float 8)
  | 'e' => some (.float 8)
  | 'h' => some (.hex 2)
  | 'H' => some (.hex 4)
  | 'B' => some (.octal 2)
  | 'D' => some (.unsigned 4)
  | 'O' => some (.octal 4)
  | 'X' => some (.hex 4)
  | 'I' => some (.signed 8)
  | 'L' => some (.signed 8)
  | _ => none

/-- What is shown of bytes. -/
structure Style where
  forms : List (Form × Bool)
  /-- The base of addresses, if they are shown. -/
  base : Option Nat
  perLine : Nat
  /-- Whether lines are shown that are like the one before. -/
  all : Bool

namespace Style

def address (s : Style) (n : Nat) : String :=
  match s.base with
  | some base => padded base (if base = 16 then 6 else 7) n
  | none => ""

def lineWidth (s : Style) : Nat :=
  (s.forms.map fun f => (f.1.width + 1) * (s.perLine / f.1.size)).foldl max 0

def formLine (s : Style) (f : Form × Bool) (b : Bytes) : String :=
  let fields := s.perLine / f.1.size
  let gap := s.lineWidth / fields - f.1.width
  let text := String.join ((groups f.1.size (b.length + 1) b).map fun g =>
    String.ofList (List.replicate gap ' ') ++ f.1.show' g)
  if !f.2 then text
  else
    text ++ String.ofList (List.replicate (s.lineWidth - text.length) ' ') ++ "  >"
      ++ String.ofList (b.map fun x =>
        if 32 ≤ x && x < 127 then Octets.char x else '.') ++ "<"

def line (s : Style) (n : Nat) (b : Bytes) : String :=
  let start := s.address n
  let blank := String.ofList (List.replicate start.length ' ')
  String.join (s.forms.zipIdx.map fun (f, i) =>
    (if i = 0 then start else blank) ++ s.formLine f b ++ "\n")

/-- Lines of bytes.  A star stands for lines that are like the one before. -/
def lines (s : Style) : Nat → Option Bytes → Bool → List Bytes → List String
  | _, _, _, [] => []
  | n, before?, starred, b :: bs =>
      if !s.all && before? = some b && b.length = s.perLine then
        (if starred then [] else ["*\n"]) ++ lines s (n + b.length) before? true bs
      else s.line n b :: lines s (n + b.length) (some b) false bs

def bytes (s : Style) (start : Nat) (b : Bytes) : String :=
  String.join (s.lines start none false (groups s.perLine (b.length + 1) b))
    ++ (if s.base.isSome then s.address (start + b.length) ++ "\n" else "")

end Style

/-! ### Sixty-four characters -/

def alphabet : List Char :=
  "ABCDEFGHIJKLMNOPQRSTUVWXYZabcdefghijklmnopqrstuvwxyz0123456789+/".toList

def digit (n : Nat) : Char := (alphabet[n % 64]?).getD 'A'

/-- **Bytes written with sixty-four characters**, three bytes as four. -/
def encode : Bytes → List Char
  | a :: b :: c :: rest =>
      let n := 65536 * a.toNat + 256 * b.toNat + c.toNat
      digit (n / 262144) :: digit (n / 4096) :: digit (n / 64) :: digit n :: encode rest
  | [a, b] =>
      let n := 65536 * a.toNat + 256 * b.toNat
      [digit (n / 262144), digit (n / 4096), digit (n / 64), '=']
  | [a] => [digit (a.toNat / 4), digit (16 * a.toNat), '=', '=']
  | [] => []

/-- The bytes that at most four characters stand for, and whether they are four that fit. -/
def decodeFour (cs : List Char) : Bytes × Bool :=
  let value (n : Nat) : Option Nat := cs[n]?.bind fun c => alphabet.idxOf? c
  match value 0, value 1 with
  | some x, some y =>
      let one := UInt8.ofNat (4 * x + y / 16)
      match value 2 with
      | none => ([one], cs.drop 2 = ['=', '='])
      | some z =>
          let two := UInt8.ofNat (16 * y + z / 4)
          match value 3 with
          | none => ([one, two], cs.drop 3 = ['='])
          | some u => ([one, two, UInt8.ofNat (64 * z + u)], true)
  | _, _ => ([], false)

/-- **The bytes that characters stand for**, up to the first four that stand for none, and whether
all of them stand for some. -/
def decode? : List Char → Bytes × Bool
  | [] => ([], true)
  | c :: cs =>
      let (b, ok) := decodeFour (c :: cs.take 3)
      if !ok then (b, false)
      else
        let (rest, ok) := decode? (cs.drop 3)
        (b ++ rest, ok)
termination_by cs => cs.length
decreasing_by simp only [List.length_cons, List.length_drop]; omega

def wrap (width : Nat) : Nat → List Char → List Char
  | 0, cs => cs
  | fuel + 1, cs =>
      if cs.isEmpty then []
      else if width = 0 then cs
      else cs.take width ++ '\n' :: wrap width fuel (cs.drop width)

end Dump

def dumpOptions : List Opt :=
  [⟨'A', "address-radix", .value⟩, ⟨'t', "format", .value⟩, ⟨'N', "read-bytes", .value⟩,
    ⟨'j', "skip-bytes", .value⟩, ⟨'w', "width", .maybe⟩, ⟨'v', "output-duplicates", .nothing⟩]
    ++ flags "abcdoxsilfFehHBDOXIL"

def dump (w : Host) (p : Proc) (args : List String) : Host :=
  withArguments w p dumpOptions args fun g =>
    let asked := g.options.foldlM (fun fs o =>
      if o.1 = 't' then (Dump.forms (o.2.length + 1) o.2.toList).map (fs ++ ·)
      else .ok (match Dump.formOf? o.1 with
        | some f => fs ++ [(f, false)]
        | none => fs)) ([] : List (Dump.Form × Bool))
    match asked with
    | .error text => refuse w p text
    | .ok fs =>
        let base := match g.value? 'A' with
          | some "n" => none
          | some "d" => some 10
          | some "x" => some 16
          | _ => some 8
        let perLine := match g.value? 'w' with
          | none => 16
          | some n => (Builtin.count? n).getD 32
        let style : Dump.Style :=
          ⟨if fs.isEmpty then [(.octal 2, false)] else fs, base, perLine, g.has 'v'⟩
        let complaint (a : String) (e : IoError) : String :=
          (if a = "-" then "'standard input'" else shown a) ++ ": " ++ reason e
        let isInput := (sources g).contains "-"
        let (found, failed, w) := gather complaint p (sources g) w
        let b := found.flatMap Prod.snd
        let start := ((g.value? 'j').bind size?).getD 0
        if failed && found.isEmpty && !isInput then w.settle p 1
        else if b.length < start then
          refuse w p "cannot skip past end of combined input"
        else
          let b := b.drop start
          let b := match (g.value? 'N').bind size? with
            | some n => b.take n
            | none => b
          showInTurn (p.withStatus (if failed then 1 else 0))
            (.ok (Octets.bytes (style.bytes start b)) :: closing p (sources g) "standard input") w

def base64Options : List Opt :=
  [⟨'d', "decode", .nothing⟩, ⟨'i', "ignore-garbage", .nothing⟩, ⟨'w', "wrap", .value⟩]

/-- Writes bytes with sixty-four characters, or reads them back. -/
def base64 (w : Host) (p : Proc) (args : List String) : Host :=
  withArguments w p base64Options args fun g =>
      match (g.value? 'w').filter fun n => (Builtin.count? n).isNone, g.operands with
      | some n, _ => refuse w p ("invalid wrap size: '" ++ n ++ "'")
      | none, _ :: extra :: _ => misuse w p ("extra operand '" ++ extra ++ "'")
      | none, operands =>
          match contents w p (operands.headD "-") with
          | .error e =>
              let source := operands.headD "-"
              if source = "-" || e = .os .isDir then refuse w p ("read error: " ++ reason e)
              else refuse w p (plainComplaint source e)
          | .ok (b, w) =>
              if g.has 'd' then
                let cs := (b.map Octets.char).filter fun c =>
                  c ≠ '\n' && (!g.has 'i' || Dump.alphabet.contains c || c = '=')
                let (out, ok) := Dump.decode? cs
                if ok then w.print p out
                else showInTurn (p.withStatus 1) [.ok out, .error "invalid input"] w
              else
                let width := ((g.value? 'w').bind Builtin.count?).getD 76
                w.print p ((Dump.wrap width (b.length * 2 + 2) (Dump.encode b)).map Octets.byte)

end BatchRunner.Utility
