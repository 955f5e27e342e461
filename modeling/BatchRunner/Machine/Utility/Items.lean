/-
**The utility that runs programs with items.**

Items are read, and commands are made of as many of them as fit.

Main definitions:

* `Items.Item`, `Items.read` — an item, and the items of a text;
* `Items.Room`, `Items.commands` — how much fits into a command, and the commands;
* `Utility.forItems` — the utility.
-/
import BatchRunner.Machine.Utility.Text

set_option autoImplicit false

namespace BatchRunner

namespace Items

/-- Something that is read. -/
structure Item where
  text : String
  /-- Whether a line ends behind it. -/
  endsLine : Bool
  deriving DecidableEq, Repr

/-- What is said about a quote that is not closed. -/
def unmatched (quote : Char) : String :=
  "unmatched " ++ (if quote = '\x22' then "double" else "single")
    ++ " quote; by default quotes are special to xargs unless you use the -0 option"

/-- **The items of a text**, in which quotes and backslashes are heeded, up to a quote that is not
closed.  An item ends at a blank, unless whole lines are items. -/
def read (lines : Bool) : Option Char → Option (List Char) → List Char →
    List Item × Option String
  | some q, _, [] => ([], some (unmatched q))
  | none, item?, [] =>
      (((item?.filter (· ≠ [])).map fun cs => ⟨String.ofList cs.reverse, false⟩).toList, none)
  | some q, item?, c :: cs =>
      if c = '\n' then ([], some (unmatched q))
      else if c = q then read lines none item? cs
      else read lines (some q) (some (c :: item?.getD [])) cs
  | none, none, c :: cs =>
      if c.isWhitespace then read lines none none cs
      else if c = '\\' then
        match cs with
        | d :: cs => read lines none (some [d]) cs
        | [] => ([], none)
      else if c = '\x27' || c = '\x22' then read lines (some c) (some []) cs
      else read lines none (some [c]) cs
  | none, some item, c :: cs =>
      let done (endsLine : Bool) : List Item × Option String :=
        let (rest, wrong) := read lines none none cs
        (⟨String.ofList item.reverse, endsLine⟩ :: rest, wrong)
      if c = '\n' then done true
      else if (c = ' ' || c = '\t') && !lines then done false
      else if c = '\\' then
        match cs with
        | d :: cs => read lines none (some (d :: item)) cs
        | [] => read lines none (some item) []
      else if c = '\x27' || c = '\x22' then read lines (some c) (some item) cs
      else read lines none (some (c :: item)) cs
termination_by _ _ cs => cs.length

/-- The items between the places where a character stands. -/
def between (sep : Char) (text : String) : List Item :=
  let parts := text.splitOn (String.singleton sep)
  (if parts.getLast? = some "" then parts.dropLast else parts).map fun s => ⟨s, true⟩

/-- How much fits into a command. -/
structure Room where
  /-- How many bytes, with one more behind each word. -/
  bytes : Nat
  items : Option Nat
  lines : Option Nat
  /-- Whether items that do not fit are a mistake even if a limit of items or lines is not
  reached. -/
  strict : Bool
  deriving DecidableEq, Repr

def cost (s : String) : Nat := s.length + 1

/-- A command that is being filled. -/
structure Filling where
  items : List String
  bytes : Nat
  lines : Nat
  deriving DecidableEq, Repr

/-- **The commands that items are put into**, and what is wrong with the items behind them. -/
def commands (room : Room) (command : List String) (x : Filling) :
    List Item → List (List String) × Option String
  | [] => (if x.items.isEmpty then [] else [command ++ x.items.reverse], none)
  | i :: is =>
      let own := (command.map cost).foldl (· + ·) 0
      let fresh : Filling := ⟨[], own, 0⟩
      let size := cost i.text
      let full := command ++ x.items.reverse
      if room.bytes < own + size then
        (if x.items.isEmpty then [] else [full], some "argument line too long")
      else
        let tight := decide (room.bytes < x.bytes + size)
        if tight && room.strict && (room.items.isSome || room.lines.isSome) then
          ([], some "argument list too long")
        else
          let before := if tight then [full] else []
          let y := if tight then fresh else x
          let y : Filling := ⟨i.text :: y.items, y.bytes + size,
            if i.endsLine then y.lines + 1 else y.lines⟩
          if room.items.any (· ≤ y.items.length) || room.lines.any (· ≤ y.lines) then
            let (rest, wrong) := commands room command fresh is
            (before ++ (command ++ y.items.reverse) :: rest, wrong)
          else
            let (rest, wrong) := commands room command y is
            (before ++ rest, wrong)

end Items

namespace Utility

def itemOptions : List Opt :=
  [⟨'n', "max-args", .value⟩, ⟨'I', "", .value⟩, ⟨'0', "null", .nothing⟩,
    ⟨'a', "arg-file", .value⟩, ⟨'d', "delimiter", .value⟩, ⟨'E', "", .value⟩, ⟨'e', "eof", .maybe⟩,
    ⟨'r', "no-run-if-empty", .nothing⟩, ⟨'L', "", .value⟩, ⟨'l', "max-lines", .maybe⟩,
    ⟨'P', "max-procs", .value⟩, ⟨'t', "verbose", .nothing⟩, ⟨'x', "exit", .nothing⟩,
    ⟨'s', "max-chars", .value⟩, ⟨'i', "replace", .maybe⟩, ⟨'o', "open-tty", .nothing⟩,
    ⟨'p', "interactive", .nothing⟩]

/-- A number that an option is given, not less than the least one. -/
def itemNumber (g : Given) (c : Char) (least : Nat) : Except String (Option Nat) :=
  match g.value? c with
  | none => .ok none
  | some "" => .ok (some 1)
  | some s =>
      match Builtin.count? s with
      | none => .error ("invalid number \x22" ++ s ++ "\x22 for -" ++ String.singleton c
          ++ " option")
      | some n =>
          if n < least then
            .error ("value " ++ s ++ " for -" ++ String.singleton c ++ " option should be >= "
              ++ toString least)
          else .ok (some n)

/-- The character that a text says separates items. -/
def delimiterOf (s : String) : Char :=
  match s.toList with
  | '\\' :: c :: cs =>
      let (b, _) := Printing.escape true true c cs
      (b.head?.map Octets.char).getD '\n'
  | c :: _ => c
  | [] => '\n'

/-- The most bytes that a command takes. -/
def commandMax : Nat := 131072

/-- The commands to run, and what is wrong with the items behind them. -/
def itemCommands (g : Given) (room : Items.Room) (text : String) :
    List (List String) × Option String :=
  let command := if g.operands.isEmpty then ["echo"] else g.operands
  let placeholder? := (g.value? 'I').or ((g.value? 'i').map fun s =>
    if s = "" then "\x7b\x7d" else s)
  let delimiter? := if g.has '0' then some '\x00' else (g.value? 'd').map delimiterOf
  let (found, wrong) := match delimiter? with
    | some d => (Items.between d text, none)
    | none => Items.read placeholder?.isSome none none text.toList
  let found := match (g.value? 'E').or (g.value? 'e'), delimiter? with
    | some last, none => if last = "" then found else found.takeWhile fun i => i.text ≠ last
    | _, _ => found
  match placeholder? with
  | some mark =>
      (found.map fun i => command.take 1 ++ (command.drop 1).map fun a => a.replace mark i.text,
        wrong)
  | none =>
      if found.isEmpty then (if g.has 'r' || wrong.isSome then [] else [command], wrong)
      else
        let (runs, tooLong) := Items.commands room command
          ⟨[], (command.map Items.cost).foldl (· + ·) 0, 0⟩ found
        (runs, tooLong.or wrong)

/-- **Runs programs with items that are read.** -/
def forItems (w : Host) (p : Proc) (args : List String) : Host :=
  let numbers (g : Given) : Except String (Items.Room × Nat) := do
    let items ← itemNumber g 'n' 1
    let lines ← itemNumber g 'L' 1
    let others ← itemNumber g 'l' 1
    let most ← itemNumber g 'P' 0
    let bytes ← itemNumber g 's' 1
    return (⟨bytes.getD commandMax, items, lines.or others, g.has 'x'⟩, most.getD 1)
  match parse itemOptions false args with
  | .error text => misuse w p text
  | .ok g =>
      match numbers g, contents w p ((g.value? 'a').getD "-") with
      | .error text, _ => misuse w p text
      | .ok (room, most), .error e =>
          if g.has 'a' then
            refuse w p ("Cannot open input file " ++ inQuotes ((g.value? 'a').getD "") ++ ": "
              ++ reason e)
          else
            let (runs, _) := itemCommands g room ""
            let why := "error closing file"
              ++ (if e = .os .isDir then "" else ": " ++ reason e)
            w.settle (p.push [.batch ⟨[], runs, most, g.has 't', false, some why, 0⟩]) 0
      | .ok (room, most), .ok (b, w) =>
          let (runs, wrong) := itemCommands g room (Octets.ofBytes b)
          let asked := if g.has 'p' then runs.head? else none
          if let some argv := asked then
            let w := w.emitTo p 2 (Octets.bytes (" ".intercalate (argv.map shownWord)))
            refuse w p ("failed to open /dev/tty for reading: " ++ Errno.noDevice.text)
          else
          w.settle (p.push [.batch ⟨[], runs, most, g.has 't', g.has 'a', wrong, 0⟩]) 0

end Utility

end BatchRunner
