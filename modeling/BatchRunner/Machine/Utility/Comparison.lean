/-
**Utilities that compare files.**

Main definitions:

* `Comparison.Side`, `Comparison.walk` — the lines of two files side by side, in order;
* `Comparison.differences` — the places where bytes differ;
* `Utility.compareSorted`, `Utility.compareFiles` — utilities.
-/
import BatchRunner.Machine.Utility.Reading

set_option autoImplicit false

namespace BatchRunner

namespace Comparison

/-! ### Sorted files -/

/-- The lines of a file that are still to come, and the last two that have been read. -/
structure Side where
  rest : List Bytes
  last : Option Bytes
  beforeLast : Option Bytes
  /-- Whether it has been said that the lines are not in order. -/
  warned : Bool
  deriving DecidableEq, Repr

/-- How strictly the order of lines is checked. -/
inductive Check where
  | never
  /-- Only where a line is in one of the files alone. -/
  | usual
  /-- A line that is out of order is the end. -/
  | strict
  deriving DecidableEq, Repr

/-- What is shown: a line of the first file, of the second or of both, or a complaint about the
order of a file. -/
inductive Event where
  | line (column : Nat) (l : Bytes)
  | disorder (file : Nat)
  deriving DecidableEq, Repr

/-- Reads the next line of a file, and says whether the lines are out of order. -/
def Side.next (s : Side) (isChecked : Bool) : Side × Bool :=
  let isBad (a? b? : Option Bytes) : Bool := match a?, b? with
    | some a, some b => Lines.compareBytes a b = .gt
    | _, _ => false
  match s.rest with
  | l :: rest =>
      let bad := isChecked && !s.warned && isBad s.last (some l)
      (⟨rest, some l, s.last, s.warned || bad⟩, bad)
  | [] =>
      let bad := isChecked && !s.warned && isBad s.beforeLast s.last
      (⟨[], none, s.last, s.warned || bad⟩, bad)

/-- **The lines of two files side by side.**  Once a line has been seen that only one of them has,
the order is checked. -/
def walk (check : Check) : Nat → Bool → Side → Side → List Event
  | 0, _, _, _ => []
  | fuel + 1, unpaired, a, b =>
      let (order, shown) : Ordering × List Event := match a.last, b.last with
        | some x, some y =>
            match Lines.compareBytes x y with
            | .lt => (.lt, [.line 0 x])
            | .gt => (.gt, [.line 1 y])
            | .eq => (.eq, [.line 2 y])
        | some x, none => (.lt, [.line 0 x])
        | none, some y => (.gt, [.line 1 y])
        | none, none => (.eq, [])
      if shown.isEmpty then []
      else
        let unpaired := unpaired || order ≠ .eq
        let checked := match check with
          | .never => false
          | .usual => unpaired
          | .strict => true
        let (a, badA) := if order = .gt then (a, false) else a.next checked
        let (b, badB) := if order = .lt then (b, false) else b.next checked
        let complaints := (if badA then [Event.disorder 1] else [])
          ++ (if badB then [Event.disorder 2] else [])
        shown ++ complaints
          ++ (if check = .strict && !complaints.isEmpty then [] else walk check fuel unpaired a b)

def sideBySide (check : Check) (xs ys : List Bytes) : List Event :=
  let side (ls : List Bytes) : Side := ⟨ls.tail, ls.head?, none, false⟩
  walk check (xs.length + ys.length + 1) false (side xs) (side ys)

/-! ### Bytes -/

/-- The places where bytes differ, with the bytes, from the given number on. -/
def differences : Nat → Bytes → Bytes → List (Nat × UInt8 × UInt8)
  | n, x :: xs, y :: ys =>
      if x = y then differences (n + 1) xs ys else (n, x, y) :: differences (n + 1) xs ys
  | _, _, _ => []

/-- A byte in octal digits, at least three places wide. -/
def octal (x : UInt8) : String := Lines.padLeft 3 (String.ofList (Nat.toDigits 8 x.toNat))

/-- A byte as it is shown beside its number: what is no letter or sign stands behind marks. -/
def visible (x : UInt8) : String :=
  let low (y : UInt8) : String :=
    if y < 32 then "^" ++ String.singleton (Octets.char (y + 64))
    else if y = 127 then "^?" else String.singleton (Octets.char y)
  if x < 128 then low x else "M-" ++ low (x - 128)

end Comparison

namespace Utility

def compareSortedOptions : List Opt :=
  flags "123" ++ [⟨'n', "nocheck-order", .nothing⟩, ⟨'c', "check-order", .nothing⟩,
    ⟨'>', "output-delimiter", .value⟩, ⟨'t', "total", .nothing⟩, ⟨'z', "zero-terminated", .nothing⟩]

/-- **Compares the lines of two sorted files.** -/
def compareSorted (w : Host) (p : Proc) (args : List String) : Host :=
  withArguments w p compareSortedOptions args fun g =>
    match g.operands with
    | [] => misuse w p "missing operand"
    | [a] => misuse w p ("missing operand after '" ++ a ++ "'")
    | [a, b] =>
        match contents w p a with
        | .error e => refuse w p (plainComplaint a e)
        | .ok (x, w) =>
            match contents w p b with
            | .error e => refuse w p (plainComplaint b e)
            | .ok (y, w) => sideBySide w g (records (g.has 'z') x) (records (g.has 'z') y)
    | _ :: _ :: extra :: _ => misuse w p ("extra operand '" ++ extra ++ "'")
where
  /-- Shows lines side by side. -/
  sideBySide (w : Host) (g : Given) (xs ys : List Bytes) : Host :=
    let check : Comparison.Check := match (g.lastOf? ['n', 'c']).map Prod.fst with
      | some 'n' => .never
      | some _ => .strict
      | none => .usual
    let sep := ((g.value? '>').map fun s => if s = "" then [0] else Octets.bytes s).getD [9]
    let isShown (n : Nat) : Bool := !g.has (Char.ofNat ('1'.toNat + n))
    let indent (n : Nat) : Bytes := ((List.range n).filter isShown).flatMap fun _ => sep
    let events := Comparison.sideBySide check xs ys
    let count (n : Nat) : String := toString (events.filter fun e => match e with
      | .line c _ => c = n
      | .disorder _ => false).length
    let disordered := events.any fun e => match e with
      | .disorder _ => true
      | .line .. => false
    let shown := events.map fun e => match e with
      | .line c l => .ok (if isShown c then indent c ++ joinRecords (g.has 'z') [l] else [])
      | .disorder n => .error ("file " ++ toString n ++ " is not in sorted order")
    let total := joinRecords (g.has 'z') [Lines.between sep [Octets.bytes (count 0),
      Octets.bytes (count 1), Octets.bytes (count 2), Octets.bytes "total"]]
    let ending := (if g.has 't' && !(check = .strict && disordered) then [.ok total] else [])
      ++ (if disordered && check = .usual then [.error "input is not in sorted order"] else [])
    showInTurn (p.withStatus (if disordered then 1 else 0)) (shown ++ ending) w

def compareOptions : List Opt :=
  [⟨'b', "print-bytes", .nothing⟩, ⟨'i', "ignore-initial", .value⟩, ⟨'l', "verbose", .nothing⟩,
    ⟨'n', "bytes", .value⟩, ⟨'s', "quiet", .nothing⟩, ⟨'s', "silent", .nothing⟩]

/-- How many bytes are passed over in the two files. -/
def skipsOf (g : Given) : Option (Nat × Nat) :=
  let given : Option (Nat × Nat) := match (g.value? 'i').map fun s => s.splitOn ":" with
    | none => some (0, 0)
    | some [a] => (size? a).map fun n => (n, n)
    | some [a, b] => (size? a).bind fun n => (size? b).map fun m => (n, m)
    | some _ => none
  match given, (g.operands.drop 2).map size? with
  | some (n, m), skips =>
      if skips.any Option.isNone then none
      else some ((skips[0]?.bind id).getD n, (skips[1]?.bind id).getD m)
  | none, _ => none

/-- **Compares the bytes of two files.** -/
def compareFiles (w : Host) (p : Proc) (args : List String) : Host :=
  match parse compareOptions true args with
  | .error text => misuseWith 2 w p text
  | .ok g =>
      match g.operands, skipsOf g with
      | [], _ =>
          ((grumble w p ("missing operand after " ++ inQuotes p.shell.name)).grumble p
            (p.shell.name ++ ": Try '" ++ p.shell.name
              ++ " --help' for more information.")).settle p 2
      | _, none => misuseWith 2 w p ("invalid --ignore-initial value '"
          ++ (g.value? 'i').getD "" ++ "'")
      | a :: more, some (n, m) =>
          let b := more.headD "-"
          match contents w p a with
          | .error e => quiet g w (plainComplaint a e) 2
          | .ok (x, w) =>
              match contents w p b with
              | .error e => quiet g w (plainComplaint b e) 2
              | .ok (y, w) =>
                  let limit (z : Bytes) : Bytes := match (g.value? 'n').bind size? with
                    | some k => z.take k
                    | none => z
                  result w g a b (limit (x.drop n)) (limit (y.drop m))
where
  /-- A complaint, unless none is wanted. -/
  quiet (g : Given) (w : Host) (text : String) (status : Nat) : Host :=
    (if g.has 's' then w else grumble w p text).settle p status
  /-- Shows where the bytes of files differ. -/
  result (w : Host) (g : Given) (a b : String) (x y : Bytes) : Host :=
    let (shorter, z) := if x.length < y.length then (a, x) else (b, y)
    let lines := (z.filter (· = Lines.ending)).length
    let atEnd := "EOF on " ++ shorter ++ (if z.isEmpty then " which is empty"
      else " after byte " ++ toString z.length
        ++ (if g.has 'l' then ""
          else if z.getLast? = some Lines.ending then ", line " ++ toString lines
          else ", in line " ++ toString (lines + 1)))
    let pair (c d : UInt8) (wide : Bool) : String :=
      if !g.has 'b' then Comparison.octal c ++ " " ++ Comparison.octal d
      else
        let left := Comparison.visible c
        let gap := String.ofList (List.replicate (if wide then 4 - left.length else 0) ' ')
        Comparison.octal c ++ " " ++ left ++ gap ++ " " ++ Comparison.octal d ++ " "
          ++ Comparison.visible d
    match Comparison.differences 1 x y with
    | [] => if x.length = y.length then w.settle p 0 else quiet g w atEnd 1
    | (n, c, d) :: more =>
        if g.has 's' then w.settle p 1
        else if g.has 'l' then
          let width := (toString (max x.length y.length)).length
          let rows := ((n, c, d) :: more).map fun (n, c, d) =>
            Lines.padLeft width (toString n) ++ " " ++ pair c d true ++ "\n"
          showInTurn (p.withStatus 1) (.ok (Octets.bytes (String.join rows))
            :: (if x.length = y.length then [] else [.error atEnd])) w
        else
          let line := ((x.take (n - 1)).filter (· = Lines.ending)).length + 1
          w.write (p.withStatus 1) (Octets.bytes (a ++ " " ++ b ++ " differ: "
            ++ (if g.has 'b' then "byte " else "char ") ++ toString n ++ ", line " ++ toString line
            ++ (if g.has 'b' then " is " ++ pair c d false else "") ++ "\n"))

end Utility

end BatchRunner
