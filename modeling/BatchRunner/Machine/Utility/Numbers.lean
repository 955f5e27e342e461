/-
**Utilities that count and calculate.**

Main definitions:

* `Decimals`, `Decimals.parse?` — numbers with a fixed number of decimal places;
* `Utility.range` — the numbers from one to another;
* `Utility.Sum.evaluate` — the value of an expression whose parts are arguments;
* `Utility.calculate` — a utility that prints such a value.
-/
import BatchRunner.Machine.Utility.Lines
import BatchRunner.Machine.Utility.Arguments
import BatchRunner.Text.Regular

set_option autoImplicit false

namespace BatchRunner

/-- A number with a fixed number of decimal places: how many units of the last place it is. -/
structure Decimals where
  units : Int
  places : Nat
  deriving DecidableEq, Repr

namespace Decimals

/-- The same number with more decimal places. -/
def rescale (d : Decimals) (places : Nat) : Int :=
  d.units * (Nat.pow 10 (places - d.places) : Nat)

/-- Reads a number with a decimal point, or a whole number to the base of sixteen. -/
def parse? (s : String) : Option Decimals :=
  let (negative, cs) := match (s.toList.dropWhile fun c => c = ' ' || c = '\t') with
    | '-' :: cs => (true, cs)
    | '+' :: cs => (false, cs)
    | cs => (false, cs)
  let signed (n : Nat) : Int := if negative then -(n : Int) else n
  match cs with
  | '0' :: 'x' :: ds => hex? ds |>.map fun n => ⟨signed n, 0⟩
  | '0' :: 'X' :: ds => hex? ds |>.map fun n => ⟨signed n, 0⟩
  | cs =>
      let whole := cs.takeWhile Char.isDigit
      let rest := cs.drop whole.length
      let (fraction, rest) := match rest with
        | '.' :: rest => (rest.takeWhile Char.isDigit, rest.dropWhile Char.isDigit)
        | rest => ([], rest)
      if whole.isEmpty && fraction.isEmpty then none
      else
        let n := (String.ofList ('0' :: whole ++ fraction)).toNat?.getD 0
        match rest with
        | [] => some ⟨signed n, fraction.length⟩
        | e :: rest =>
            let (down, ds) := match rest with
              | '-' :: ds => (true, ds)
              | '+' :: ds => (false, ds)
              | ds => (false, ds)
            if (e = 'e' || e = 'E') && !ds.isEmpty && ds.all Char.isDigit then
              let k := min 400 ((String.ofList ds).toNat?.getD 0)
              if down then some ⟨signed n, fraction.length + k⟩
              else if fraction.length ≤ k then
                some ⟨signed (n * Nat.pow 10 (k - fraction.length)), 0⟩
              else some ⟨signed n, fraction.length - k⟩
            else none
where
  /-- The number that digits to the base of sixteen are. -/
  hex? (ds : List Char) : Option Nat :=
    if ds.isEmpty then none
    else ds.foldlM (fun n c =>
      if c.isDigit then some (16 * n + (c.toNat - 48))
      else if 'a' ≤ c.toLower && c.toLower ≤ 'f' then some (16 * n + (c.toLower.toNat - 87))
      else none) 0

/-- The text of units of a decimal place, with zeros in front up to a width. -/
def text (places width : Nat) (units : Int) : String :=
  let ds := Nat.toDigits 10 units.natAbs
  let ds := List.replicate (places + 1 - ds.length) '0' ++ ds
  let whole := ds.take (ds.length - places)
  let cs := if places = 0 then whole else whole ++ '.' :: ds.drop (ds.length - places)
  let sign := if units < 0 then ['-'] else []
  String.ofList (sign ++ List.replicate (width - sign.length - cs.length) '0' ++ cs)

end Decimals

namespace Utility

/-! ### Ranges -/

/-- A format with one place for a number: what stands before and behind it, and how wide it is. -/
structure NumberFormat where
  before : String
  zeros : Bool
  left : Bool
  width : Nat
  precision : Option Nat
  letter : Char
  behind : String

/-- Reads a format with one place for a number. -/
def numberFormat (s : String) : Except String NumberFormat :=
  let literal (cs : List Char) : String :=
    String.ofList (percent cs)
  let before := beforePlace s.toList
  match s.toList.drop before.length with
  | '%' :: rest =>
      let flags := rest.takeWhile fun c => ['-', '+', '#', '0', ' ', '\x27'].contains c
      let rest := rest.drop flags.length
      let width := rest.takeWhile Char.isDigit
      let rest := rest.drop width.length
      let (precision, rest) := match rest with
        | '.' :: rest =>
            let ds := rest.takeWhile Char.isDigit
            (some ((String.ofList ds).toNat?.getD 0), rest.drop ds.length)
        | rest => (none, rest)
      match rest with
      | [] => .error ("format '" ++ s ++ "' ends in %")
      | c :: behind =>
          if !(['g', 'f', 'e', 'G', 'F', 'E', 'a', 'A'].contains c) then
            .error ("format '" ++ s ++ "' has unknown %" ++ String.singleton c ++ " directive")
          else if (beforePlace behind).length < behind.length then
            .error ("format '" ++ s ++ "' has too many % directives")
          else
            .ok ⟨literal before, flags.contains '0', flags.contains '-',
              (String.ofList width).toNat?.getD 0, precision, c, literal behind⟩
  | _ => .error ("format '" ++ s ++ "' has no % directive")
where
  /-- The characters in front of the first place for a number. -/
  beforePlace : List Char → List Char
    | '%' :: '%' :: cs => '%' :: '%' :: beforePlace cs
    | '%' :: _ => []
    | c :: cs => c :: beforePlace cs
    | [] => []
  /-- Two signs for places stand for one. -/
  percent : List Char → List Char
    | '%' :: '%' :: cs => '%' :: percent cs
    | c :: cs => c :: percent cs
    | [] => []

def NumberFormat.apply (f : NumberFormat) (places : Nat) (units : Int) : String :=
  let (places, units) : Nat × Int := match f.precision, f.letter with
    | some k, 'f' => fixed k
    | none, 'f' => fixed 6
    | _, _ => shortest places places units
  let plain := Decimals.text places 0 units
  let padded := if f.left then plain ++ String.ofList (List.replicate (f.width - plain.length) ' ')
    else if f.zeros then Decimals.text places f.width units
    else Lines.padLeft f.width plain
  f.before ++ padded ++ f.behind
where
  /-- The number with so many decimal places. -/
  fixed (k : Nat) : Nat × Int :=
    if places ≤ k then (k, units * (Nat.pow 10 (k - places) : Nat))
    else (k, units / (Nat.pow 10 (places - k) : Nat))
  /-- The number without zeros at its end. -/
  shortest : Nat → Nat → Int → Nat × Int
    | 0, places, units => (places, units)
    | fuel + 1, places, units =>
        if places ≠ 0 && units % 10 = 0 then shortest fuel (places - 1) (units / 10)
        else (places, units)

/-- The numbers from one to another, in steps. -/
def range (w : Host) (p : Proc) (args : List String) : Host :=
  let isNumber (a : String) : Bool := (Decimals.parse? a).isSome && a.startsWith "-"
  let opts : List Opt := [⟨'s', "separator", .value⟩, ⟨'w', "equal-width", .nothing⟩,
    ⟨'f', "format", .value⟩]
  let count := optionCount isNumber args
  match parse opts false (args.take count ++ ["--"] ++ args.drop count) with
  | .error text => misuse w p text
  | .ok g =>
      let operands := if g.operands.head? = some "--" then g.operands.tail else g.operands
      match operands.find? fun a => (Decimals.parse? a).isNone with
      | some a =>
          if operands.length ≤ 3 then misuse w p ("invalid floating point argument: '" ++ a ++ "'")
          else misuse w p ("extra operand '" ++ (operands[3]?).getD "" ++ "'")
      | none =>
          match operands.filterMap Decimals.parse? with
          | [b] => shown g ⟨1, 0⟩ ⟨1, 0⟩ b (operands.headD "")
          | [a, b] => shown g a ⟨1, 0⟩ b ""
          | [a, d, b] => shown g a d b ((operands[1]?).getD "")
          | [] => misuse w p "missing operand"
          | _ => misuse w p ("extra operand '" ++ (operands[3]?).getD "" ++ "'")
where
  /-- How many arguments are options and their values. -/
  optionCount (isNumber : String → Bool) : List String → Nat
    | [] => 0
    | a :: as =>
        if isNumber a || !a.startsWith "-" || a = "--" || a = "-" then 0
        else if ["-s", "-f"].contains a then
          match as with
          | _ :: as => optionCount isNumber as + 2
          | [] => 1
        else optionCount isNumber as + 1
  /-- Shows the numbers. -/
  shown (g : Given) (a d b : Decimals) (step : String) : Host :=
    if d.units = 0 then misuse w p ("invalid Zero increment value: '" ++ step ++ "'")
    else
      let places := max a.places d.places
      let all := max places b.places
      let first := a.rescale all
      let by' := d.rescale all
      let last := b.rescale all
      let n := (Int.fdiv (last - first) by' + 1).toNat
      let drop : Int := (Nat.pow 10 (all - places) : Nat)
      let unit (i : Nat) : Int := (first + by' * (i : Int)) / drop
      let ends := [unit 0, unit (n - 1), last / drop]
      let width := if g.has 'w' then
        (ends.map fun u => (Decimals.text places 0 u).length).foldl max 0 else 0
      let sep := (g.value? 's').getD "\n"
      match (g.value? 'f').map numberFormat with
      | some (.error text) => refuse w p text
      | some (.ok f) => printed n sep fun i => f.apply places (unit i)
      | none => printed n sep fun i => Decimals.text places width (unit i)
  /-- Prints texts with something between them. -/
  printed (n : Nat) (sep : String) (text : Nat → String) : Host :=
    if n = 0 then w.settle p 0
    else w.print p (Octets.bytes (sep.intercalate ((List.range n).map text) ++ "\n"))

/-! ### Sums -/

namespace Sum

/-- Why an expression has no value. -/
inductive Mistake where
  | missing
  | missingAfter (s : String)
  | unexpected (s : String)
  | unclosed (s : String)
  | notInteger
  | divisionByZero
  | expression (text : String)
  deriving DecidableEq, Repr

def Mistake.message : Mistake → String
  | missing => "missing operand"
  | missingAfter s => "syntax error: missing argument after '" ++ s ++ "'"
  | unexpected s => "syntax error: unexpected " ++ (if s = ")" then "')'" else
      "argument '" ++ s ++ "'")
  | unclosed s => "syntax error: expecting ')' after '" ++ s ++ "'"
  | notInteger => "non-integer argument"
  | divisionByZero => "division by zero"
  | expression text => text

/-- Whether a text is a whole number. -/
def isInteger (s : String) : Bool :=
  match s.toList with
  | '-' :: cs => !cs.isEmpty && cs.all Char.isDigit
  | cs => !cs.isEmpty && cs.all Char.isDigit

def integer (s : String) : Except Mistake Int :=
  if isInteger s then .ok (s.toInt?.getD 0) else .error .notInteger

/-- Whether a value counts as nothing. -/
def isNull (s : String) : Bool :=
  s = "" || isInteger s && s.toList.all fun c => c = '0' || c = '-'

/-- What a text is to an expression: the part within its first group, or how much it fits. -/
def fitting (s pattern : String) : Except Mistake String :=
  match Regular.parse false pattern with
  | .error text => .error (.expression text)
  | .ok r =>
      let grouped := (Regular.mark? false pattern.toList).isSome || hasGroup pattern.toList
      let subject : Regular.Subject := ⟨s.toList.toArray, false⟩
      match r.matchAt? subject 0 with
      | none => .ok (if grouped then "" else "0")
      | some m =>
          if grouped then .ok (String.ofList ((m.group? subject 1).getD []))
          else .ok (toString (m.stop - m.start))
where
  /-- Whether a pattern has a group. -/
  hasGroup : List Char → Bool
    | '\\' :: '(' :: _ => true
    | '\\' :: _ :: cs => hasGroup cs
    | _ :: cs => hasGroup cs
    | [] => false

def comparison (op a b : String) : Bool :=
  let c := if isInteger a && isInteger b then compare (a.toInt?.getD 0) (b.toInt?.getD 0)
    else Lines.compareBytes (Octets.bytes a) (Octets.bytes b)
  match op with
  | "<" => c = .lt
  | "<=" => c ≠ .gt
  | ">" => c = .gt
  | ">=" => c ≠ .lt
  | "!=" => c ≠ .eq
  | _ => c = .eq

/-- The operators, those that bind least first. -/
def levels : List (List String) :=
  [["|"], ["&"], ["<", "<=", "=", "==", "!=", ">=", ">"], ["+", "-"], ["*", "/", "%"], [":"]]

/-- The value of two values under an operator. -/
def apply (op a b : String) : Except Mistake String :=
  match op with
  | "|" => .ok (if !isNull a then a else if !isNull b then b else "0")
  | "&" => .ok (if isNull a || isNull b then "0" else a)
  | ":" => fitting a b
  | "+" => do return toString ((← integer a) + (← integer b))
  | "-" => do return toString ((← integer a) - (← integer b))
  | "*" => do return toString ((← integer a) * (← integer b))
  | "/" => do
      let x ← integer a
      let y ← integer b
      if y = 0 then throw .divisionByZero
      return toString (Int.tdiv x y)
  | "%" => do
      let x ← integer a
      let y ← integer b
      if y = 0 then throw .divisionByZero
      return toString (Int.tmod x y)
  | op => .ok (if comparison op a b then "1" else "0")

/-- What is left to read, and the argument before it. -/
structure State where
  rest : List String
  before : String

def State.next (s : State) : Except Mistake (String × State) :=
  match s.rest with
  | [] => .error (.missingAfter s.before)
  | a :: as => .ok (a, ⟨as, a⟩)

mutual

/-- Reads operators of some levels. -/
def readLevel : Nat → List (List String) → State → Except Mistake (String × State)
  | 0, _, _ => .error .missing
  | fuel + 1, [], s => readValue fuel s
  | fuel + 1, ops :: more, s => do
      let (a, s) ← readLevel fuel more s
      readMore fuel ops more a s

/-- Reads more operators of a level behind a value. -/
def readMore : Nat → List String → List (List String) → String → State →
    Except Mistake (String × State)
  | 0, _, _, _, _ => .error .missing
  | fuel + 1, ops, more, a, s =>
      match s.rest with
      | op :: rest =>
          if ops.contains op then do
            let (b, s) ← readLevel fuel more ⟨rest, op⟩
            let c ← apply op a b
            readMore fuel ops more c s
          else .ok (a, s)
      | [] => .ok (a, s)

/-- Reads a value, or what a word at its head makes of those behind it. -/
def readValue : Nat → State → Except Mistake (String × State)
  | 0, _ => .error .missing
  | fuel + 1, s => do
      let (a, s) ← s.next
      match a with
      | "+" => s.next
      | "(" => do
          let (v, s) ← readLevel fuel levels s
          match s.rest with
          | ")" :: rest => return (v, ⟨rest, ")"⟩)
          | [] => throw (.unclosed s.before)
          | x :: _ => throw (.unclosed x)
      | ")" => throw (.unexpected ")")
      | "length" => do
          let (v, s) ← readValue fuel s
          return (toString v.length, s)
      | "match" => do
          let (v, s) ← readValue fuel s
          let (r, s) ← readValue fuel s
          return (← fitting v r, s)
      | "index" => do
          let (v, s) ← readValue fuel s
          let (cs, s) ← readValue fuel s
          let at' := (v.toList.findIdx? fun c => cs.toList.contains c).map (· + 1)
          return (toString (at'.getD 0), s)
      | "substr" => do
          let (v, s) ← readValue fuel s
          let (i, s) ← readValue fuel s
          let (n, s) ← readValue fuel s
          match i.toInt?, n.toInt? with
          | some i, some n =>
              if i ≤ 0 || n ≤ 0 then return ("", s)
              else return (String.ofList ((v.toList.drop (i.toNat - 1)).take n.toNat), s)
          | _, _ => return ("", s)
      | a => return (a, s)

end

/-- **The value of an expression whose parts are arguments.** -/
def evaluate (args : List String) : Except Mistake String := do
  if args.isEmpty then throw .missing
  let (v, s) ← readLevel (16 * args.length + 16) levels ⟨args, ""⟩
  match s.rest with
  | [] => return v
  | a :: _ => throw (.unexpected a)

end Sum

/-- Prints the value of an expression.  The status says whether it counts as nothing. -/
def calculate (w : Host) (p : Proc) (args : List String) : Host :=
  let args := if args.head? = some "--" then args.tail else args
  match Sum.evaluate args with
  | .ok v => w.write (p.withStatus (if Sum.isNull v then 1 else 0)) (Octets.bytes (v ++ "\n"))
  | .error .missing => misuseWith 2 w p Sum.Mistake.missing.message
  | .error e => (grumble w p e.message).settle p 2

end Utility

end BatchRunner
