/-
**The utility that numbers lines.**

A text has pages, and a page has a header, a body and a footer.  Lines of their own mark where these
begin, and in each of them other lines may be numbered.

Main definitions:

* `Numbering.Which` — the lines of a part that are numbered;
* `Numbering.Style` — how numbers are written;
* `Numbering.number` — numbers lines;
* `Utility.numberLines` — the utility.
-/
import BatchRunner.Machine.Utility.Text
import BatchRunner.Text.Regular

set_option autoImplicit false

namespace BatchRunner

namespace Numbering

/-- The lines of a part of a page that are numbered. -/
inductive Which where
  | all
  /-- Those that are not empty. -/
  | filled
  | none
  /-- Those in which an expression is found. -/
  | fitting (r : Regular)

def Which.ofText (s : String) : Except String (Option Which) :=
  match s.toList with
  | ['a'] => .ok (some .all)
  | ['t'] => .ok (some .filled)
  | ['n'] => .ok (some .none)
  | 'p' :: cs => (Regular.parse false (String.ofList cs)).map fun r => some (.fitting r)
  | _ => .ok Option.none

/-- The parts of a page. -/
inductive Part where
  | header
  | body
  | footer
  deriving DecidableEq, Repr

inductive Column where
  | left
  | right
  /-- On the right, behind zeros. -/
  | zeros
  deriving DecidableEq, Repr

/-- **How lines are numbered.** -/
structure Style where
  which : Part → Which
  column : Column
  width : Nat
  /-- What stands between a number and its line. -/
  between : Bytes
  first : Int
  step : Int
  /-- Of so many empty lines in a row only the last is numbered. -/
  blanks : Nat
  /-- Whether the numbers go on where a part of a page begins. -/
  goesOn : Bool
  /-- What a line that begins a part of a page is made of. -/
  mark : Bytes

structure Place where
  part : Part
  next : Int
  /-- The number of empty lines since the last number. -/
  blanks : Nat
  deriving DecidableEq, Repr

namespace Style

def column' (s : Style) (n : Int) : String :=
  let ds := toString n.natAbs
  let sign := if n < 0 then "-" else ""
  let gap (c : Char) : String :=
    String.ofList (List.replicate (s.width - sign.length - ds.length) c)
  match s.column with
  | .left => sign ++ ds ++ gap ' '
  | .right => gap ' ' ++ sign ++ ds
  | .zeros => sign ++ gap '0' ++ ds

/-- The part of a page that a line begins. -/
def begins? (s : Style) (l : Bytes) : Option Part :=
  if s.mark.isEmpty then none
  else if l = s.mark ++ s.mark ++ s.mark then some .header
  else if l = s.mark ++ s.mark then some .body
  else if l = s.mark then some .footer else none

def isNumbered (s : Style) (at' : Place) (l : Bytes) : Bool :=
  match s.which at'.part with
  | .all => !l.isEmpty || s.blanks ≤ at'.blanks + 1
  | .filled => !l.isEmpty
  | .none => false
  | .fitting r => (r.find? ⟨(l.map Octets.char).toArray, false⟩ 0).isSome

/-- A line with its number or what stands for it, and where the numbering is then. -/
def line (s : Style) (at' : Place) (l : Bytes) : Bytes × Place :=
  match s.begins? l with
  | some part => ([Lines.ending], { at' with
      part := part
      next := if s.goesOn then at'.next else s.first })
  | none =>
      if s.isNumbered at' l then
        (Octets.bytes (s.column' at'.next) ++ s.between ++ l ++ [Lines.ending],
          { at' with next := at'.next + s.step, blanks := 0 })
      else
        (List.replicate (s.width + s.between.length) 32 ++ l ++ [Lines.ending],
          { at' with blanks := if l.isEmpty then at'.blanks + 1 else at'.blanks })

/-- **Numbers lines.** -/
def lines (s : Style) : Place → List Bytes → Bytes × Place
  | at', [] => ([], at')
  | at', l :: ls =>
      let (b, at') := s.line at' l
      let (rest, at') := s.lines at' ls
      (b ++ rest, at')

end Style

end Numbering

namespace Utility

def numberingOptions : List Opt :=
  [⟨'b', "body-numbering", .value⟩, ⟨'h', "header-numbering", .value⟩,
    ⟨'f', "footer-numbering", .value⟩, ⟨'d', "section-delimiter", .value⟩,
    ⟨'i', "line-increment", .value⟩, ⟨'l', "join-blank-lines", .value⟩,
    ⟨'n', "number-format", .value⟩, ⟨'p', "no-renumber", .nothing⟩,
    ⟨'s', "number-separator", .value⟩, ⟨'v', "starting-line-number", .value⟩,
    ⟨'w', "number-width", .value⟩]

/-- A number that an option is given, which is not less than the least one. -/
def numberOption (g : Given) (letter : Char) (what : String) (least? : Option Int) (usual : Int) :
    Except String Int :=
  match g.value? letter with
  | none => .ok usual
  | some s =>
      let text := if s.startsWith "+" then String.ofList (s.toList.drop 1) else s
      match text.toInt? with
      | none => .error ("invalid " ++ what ++ ": '" ++ s ++ "'")
      | some n =>
          if least?.any (n < ·) then
            .error ("invalid " ++ what ++ ": '" ++ s ++ "': Numerical result out of range")
          else .ok n

/-- What lines of each part are numbered, or what is wrong with the options. -/
def numberedParts (g : Given) : Except String (List (Numbering.Part × Numbering.Which) × List String)
    := do
  let parts : List (Char × Numbering.Part × String × Numbering.Which) :=
    [('b', .body, "body", .filled), ('h', .header, "header", .none),
      ('f', .footer, "footer", .none)]
  let read ← parts.mapM fun (c, part, name, usual) =>
    match g.value? c with
    | none => Except.ok ((part, usual), [])
    | some s => do
        match ← Numbering.Which.ofText s with
        | some which => return ((part, which), [])
        | none =>
            return ((part, usual), ["invalid " ++ name ++ " numbering style: '" ++ s ++ "'"])
  return (read.map Prod.fst, read.flatMap Prod.snd)

/-- How lines are to be numbered, and what is wrong with the options. -/
def numberingStyle (g : Given) : Except String (Numbering.Style × List String) := do
  let first ← numberOption g 'v' "starting line number" none 1
  let step ← numberOption g 'i' "line number increment" none 1
  let blanks ← numberOption g 'l' "line number of blank lines" (some 1) 1
  let width ← numberOption g 'w' "line number field width" (some 1) 6
  let (parts, wrong) ← numberedParts g
  let column : Option Numbering.Column := match (g.value? 'n').getD "rn" with
    | "ln" => some .left
    | "rn" => some .right
    | "rz" => some .zeros
    | _ => none
  let wrong := wrong ++ (if column.isSome then []
    else ["invalid line numbering format: '" ++ (g.value? 'n').getD "" ++ "'"])
  let which (x : Numbering.Part) : Numbering.Which :=
    ((parts.find? fun y => y.1 = x).map Prod.snd).getD .none
  let mark := match (g.value? 'd').map String.toList with
    | none => "\\:"
    | some [c] => String.ofList [c, ':']
    | some cs => String.ofList cs
  return ({
    which := which
    column := column.getD .right
    width := width.toNat
    between := Octets.bytes ((g.value? 's').getD "\t")
    first := first
    step := step
    blanks := blanks.toNat
    goesOn := g.has 'p'
    mark := Octets.bytes mark }, wrong)

/-- **Numbers lines.** -/
def numberLines (w : Host) (p : Proc) (args : List String) : Host :=
  withArguments w p numberingOptions args fun g =>
    match numberingStyle g with
    | .error text => refuse w p text
    | .ok (style, []) =>
        let (found, w) := collect p (sources g) w
        let (_, pieces) := found.foldl (fun (at', pieces) x =>
          let (b, at') := style.lines at' (Lines.bodies (x.2.toOption.getD []))
          (at', pieces ++ [b])) ((⟨.body, style.first, 0⟩ : Numbering.Place), ([] : List Bytes))
        showEach w p "-" found pieces
    | .ok (_, wrong) =>
        let w := wrong.dropLast.foldl (fun w text => grumble w p text) w
        misuse w p (wrong.getLastD "")

end Utility

end BatchRunner
