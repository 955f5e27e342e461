/-
**Utilities that put lines into another shape.**

Main definitions:

* `Shapes.fold` — breaks lines that are too long;
* `Shapes.cutsBefore`, `Shapes.recordsAt` — the places where a text is cut into records;
* `Utility.paste`, `Utility.fold`, `Utility.backwards`, `Utility.reversed` — utilities.
-/
import BatchRunner.Machine.Utility.Characters
import BatchRunner.Machine.Utility.Reading
import BatchRunner.Text.Regular

set_option autoImplicit false

namespace BatchRunner

namespace Shapes

/-- The column behind a byte.  With `inBytes` every byte takes one. -/
def column (inBytes : Bool) (n : Nat) (x : UInt8) : Nat :=
  if inBytes then n + 1
  else if x = 8 then n - 1
  else if x = 13 then 0
  else if x = 9 then n + 8 - n % 8
  else n + 1

def columnOf (inBytes : Bool) (l : Bytes) : Nat := l.foldl (column inBytes) 0

/-- A line broken where it gets too long.  The part that is not complete is held in reverse order.
With `atBlanks` it is broken behind its last blank, if it has one. -/
def foldLine (inBytes atBlanks : Bool) (width : Nat) : Bytes → Bytes → Bytes
  | part, [] => part.reverse
  | part, x :: xs =>
      if column inBytes (columnOf inBytes part.reverse) x ≤ width || part.isEmpty then
        foldLine inBytes atBlanks width (x :: part) xs
      else
        let tail := if atBlanks then part.takeWhile fun y => !Lines.isBlank y else part
        if atBlanks && tail.length < part.length then
          (part.drop tail.length).reverse ++ Lines.ending
            :: (if column inBytes (columnOf inBytes tail.reverse) x ≤ width || tail.isEmpty then
              foldLine inBytes atBlanks width (x :: tail) xs
            else tail.reverse ++ Lines.ending :: foldLine inBytes atBlanks width [x] xs)
        else part.reverse ++ Lines.ending :: foldLine inBytes atBlanks width [x] xs

/-- **Breaks lines that are too long.** -/
def fold (inBytes atBlanks : Bool) (width : Nat) (b : Bytes) : Bytes :=
  (Lines.split b).flatMap fun l =>
    foldLine inBytes atBlanks width [] (Lines.body l) ++ l.drop (Lines.body l).length

/-- The places where separators stand, from the last to the first.  The function says where one ends
that begins at a place; none reaches into one behind it. -/
def separators (stop? : Nat → Option Nat) : Nat → Nat → List (Nat × Nat)
  | 0, _ => []
  | n + 1, limit =>
      match (stop? n).filter fun m => n < m && m ≤ limit with
      | some m => (n, m) :: separators stop? n n
      | none => separators stop? n limit

/-- Bytes cut at places, which are in decreasing order, the last piece first. -/
def pieces (b : Bytes) : List Nat → List Bytes
  | [] => [b]
  | n :: ns => b.drop n :: pieces (b.take n) ns

/-- **Records in the opposite order.**  A separator belongs to the record before it, or to the one
behind it. -/
def backwards (attachedBefore : Bool) (stop? : Nat → Option Nat) (b : Bytes) : Bytes :=
  let cuts := (separators stop? b.length b.length).map fun x =>
    if attachedBefore then x.1 else x.2
  (pieces b cuts).flatten

end Shapes

namespace Utility

def pasteOptions : List Opt :=
  [⟨'d', "delimiters", .value⟩, ⟨'s', "serial", .nothing⟩, ⟨'z', "zero-terminated", .nothing⟩]

/-- Every so many-th of some items, from a place on. -/
def everyNth {α : Type} (step start : Nat) (l : List α) : List α :=
  (l.zipIdx.filter fun x => x.2 % step = start).map Prod.fst

/-- The lines of files.  Where standard input is named several times its lines are dealt out. -/
def dealt (zero : Bool) (found : List (String × Bytes)) : List (List Bytes) :=
  let inputs := found.filter fun f => isInput f.1
  let whole := records zero (inputs.flatMap Prod.snd)
  let go (sofar : Nat × List (List Bytes)) (f : String × Bytes) : Nat × List (List Bytes) :=
    if isInput f.1 then (sofar.1 + 1, sofar.2 ++ [everyNth inputs.length sofar.1 whole])
    else (sofar.1, sofar.2 ++ [records zero f.2])
  (found.foldl go (0, [])).2

/-- **Puts lines of files next to each other.** -/
def paste (w : Host) (p : Proc) (args : List String) : Host :=
  withArguments w p pasteOptions args fun g =>
    let text := ((g.value? 'd').getD "\t").toList
    let unended := (text.reverse.takeWhile (· = '\\')).length % 2 = 1
    let seps := (Characters.unescape text).map fun c =>
      if c = ('\x00', true) then 0 else Octets.byte c.1
    let zero := g.has 'z'
    if unended then
      refuse w p ("delimiter list ends with an unescaped backslash: " ++ String.ofList text)
    else
      let (found, w) := collect p (sources g) w
      if g.has 's' then
        showEach w p "-" found (found.map fun x =>
          joinRecords zero [Lines.joinInTurn seps (records zero (x.2.toOption.getD []))])
      else
        match found.filter fun x => x.2.toOption.isNone with
        | (a, .error e) :: more =>
            if isInput a then
              showInTurn (p.withStatus 1) ((List.replicate (more.length + 1)
                (.error (plainComplaint a e))) ++ closing p (found.map Prod.fst) "-") w
            else refuse w p (plainComplaint a e)
        | _ =>
            let files := dealt zero (found.filterMap fun x => x.2.toOption.map fun b => (x.1, b))
            w.print p (joinRecords zero (Lines.paste seps files))

def foldOptions : List Opt :=
  [⟨'w', "width", .value⟩, ⟨'b', "bytes", .nothing⟩, ⟨'s', "spaces", .nothing⟩]

/-- Arguments in which a number that stands for a width is written as an option. -/
def withWidth (args : List String) : List String :=
  args.map fun a =>
    match a.toList with
    | '-' :: c :: cs => if (c :: cs).all Char.isDigit then "-w" ++ String.ofList (c :: cs) else a
    | _ => a

/-- **Breaks lines that are too long.** -/
def fold (w : Host) (p : Proc) (args : List String) : Host :=
  withArguments w p foldOptions (withWidth args) fun g =>
    let text := (g.value? 'w').getD "80"
    match Builtin.count? text with
    | some 0 =>
        refuse w p ("invalid number of columns: '" ++ text ++ "': Numerical result out of range")
    | some n => filterEach w p g (Shapes.fold (g.has 'b') (g.has 's') n)
    | none => refuse w p ("invalid number of columns: '" ++ text ++ "'")

def backwardsOptions : List Opt :=
  [⟨'b', "before", .nothing⟩, ⟨'r', "regex", .nothing⟩, ⟨'s', "separator", .value⟩]

/-- **Shows records in the opposite order.** -/
def backwards (w : Host) (p : Proc) (args : List String) : Host :=
  withArguments w p backwardsOptions args fun g =>
    let text := (g.value? 's').getD "\n"
    let parsed : Except String Regular := if g.has 'r' then Regular.parse false text else .ok .empty
    match parsed with
    | .error why => refuse w p why
    | .ok r =>
        if text = "" && g.has 'r' then refuse w p "separator cannot be empty"
        else
          let sep := if text = "" then [0] else Octets.bytes text
          let turned (b : Bytes) : Bytes :=
            let subject : Regular.Subject := ⟨(b.map Octets.char).toArray, false⟩
            Shapes.backwards (g.has 'b') (fun n =>
              if g.has 'r' then (r.matchAt? subject n).map Regular.Match.stop
              else if sep.isPrefixOf (b.drop n) then some (n + sep.length) else none) b
          let (found, w) := collect p (sources g) w
          let status := if found.any fun x => x.2.toOption.isNone then 1 else 0
          showInTurn (p.withStatus status) ((found.map fun (a, x) =>
            match x with
            | .ok b => .ok (if text = "\n" && !g.has 'r' && !g.has 'b' then
                (Lines.split b).reverse.flatten else turned b)
            | .error e =>
                if a = "-" then .error ("'standard input': read error: "
                  ++ reason (if e = .os .isDir then .os .invalid else e))
                else if e = .os .isDir then .error (shown a ++ ": read error: " ++ reason e)
                else .error ("failed to open " ++ inQuotes a ++ " for reading: " ++ reason e))
            ++ closing p (sources g) "-") w

/-- **Shows the characters of each line in the opposite order.** -/
def reversed (w : Host) (p : Proc) (args : List String) : Host :=
  withArguments w p [] args fun g =>
    let (found, w) := collect p (sources g) w
    let status := if found.any fun x => x.2.toOption.isNone then 1 else 0
    showInTurn (p.withStatus status) (found.map fun (a, x) =>
      match x with
      | .ok b => .ok ((Lines.split b).flatMap fun l =>
          (Lines.body l).reverse ++ l.drop (Lines.body l).length)
      | .error e => .error ("cannot open " ++ a ++ ": " ++ reason e)) w

end Utility

end BatchRunner
