/-
**The utility that looks at repeated lines.**

Main definitions:

* `Utility.Apart` — where empty lines keep groups of lines apart;
* `Utility.unique` — the utility.
-/
import BatchRunner.Machine.Utility.Reading

set_option autoImplicit false

namespace BatchRunner.Utility

/-- Where empty lines keep groups of lines apart. -/
inductive Apart where
  | nowhere
  | before
  | between
  | after
  | around
  deriving DecidableEq, Repr

def Apart.ofWord : String → Apart
  | "prepend" => before
  | "append" => after
  | "both" => around
  | "none" => nowhere
  | _ => between

def Apart.lines (x : Apart) (groups : List (List Bytes)) : List Bytes :=
  match x with
  | nowhere => groups.flatten
  | before => groups.flatMap ([] :: ·)
  | between => (groups.zipIdx.flatMap fun (g, n) => if n = 0 then g else [] :: g)
  | after => groups.flatMap (· ++ [[]])
  | around => (groups.flatMap ([] :: ·)) ++ (if groups.isEmpty then [] else [[]])

def uniqueOptions : List Opt :=
  [⟨'c', "count", .nothing⟩, ⟨'d', "repeated", .nothing⟩, ⟨'u', "unique", .nothing⟩,
    ⟨'i', "ignore-case", .nothing⟩, ⟨'f', "skip-fields", .value⟩, ⟨'s', "skip-chars", .value⟩,
    ⟨'w', "check-chars", .value⟩, ⟨'D', "", .nothing⟩, ⟨'?', "all-repeated", .maybe⟩,
    ⟨'#', "group", .maybe⟩, ⟨'z', "zero-terminated", .nothing⟩]

/-- Arguments in which numbers that stand for options are written as such. -/
def withSkips (args : List String) : List String :=
  let options := args.takeWhile fun a => a ≠ "--"
  options.map (fun a =>
    match a.toList with
    | '-' :: c :: cs => if (c :: cs).all Char.isDigit then "-f" ++ String.ofList (c :: cs) else a
    | '+' :: c :: cs => if (c :: cs).all Char.isDigit then "-s" ++ String.ofList (c :: cs) else a
    | _ => a) ++ args.drop options.length

def skipMistake? (g : Given) : Option String :=
  [('f', "fields to skip"), ('s', "bytes to skip"), ('w', "bytes to compare")].findSome?
    fun (c, what) =>
      (g.value? c).bind fun s =>
        if (Builtin.count? s).isSome then none else some (s ++ ": invalid number of " ++ what)

def uniqueLines (g : Given) (ls : List Bytes) : List Bytes :=
  let number (c : Char) : Nat := ((g.value? c).bind Builtin.count?).getD 0
  let key (l : Bytes) : Bytes :=
    let l := (Lines.dropFields none (number 'f') l).drop (number 's')
    let l := if g.has 'w' then l.take (number 'w') else l
    if g.has 'i' then l.map Lines.lower else l
  let groups := Lines.groups (fun a b => key a = key b) ls
  let all := g.has 'D' || g.has '?'
  if g.has '#' then
    (Apart.ofWord ((g.value? '#').getD "")).lines (groups.map fun x => x.1 :: x.2)
  else
    let kept := groups.filter fun x =>
      (!g.has 'd' && !all || !x.2.isEmpty) && (!g.has 'u' || x.2.isEmpty)
    if all then
      let apart : Apart := match g.value? '?' with
        | some "" => .nowhere
        | some s => Apart.ofWord s
        | none => .nowhere
      apart.lines (kept.map fun x => x.1 :: x.2)
    else
      kept.map fun x =>
        (if g.has 'c' then Octets.bytes (Lines.padLeft 7 (toString (x.2.length + 1)) ++ " ")
          else []) ++ x.1

/-- **Leaves out lines that repeat the one before.** -/
def unique (w : Host) (p : Proc) (args : List String) : Host :=
  withArguments w p uniqueOptions (withSkips args) fun g =>
    let all := g.has 'D' || g.has '?'
    match skipMistake? g, g.operands with
    | some text, _ => refuse w p text
    | none, _ :: _ :: extra :: _ => misuse w p ("extra operand '" ++ extra ++ "'")
    | none, operands =>
        if g.has '#' && (g.has 'c' || g.has 'd' || all || g.has 'u') then
          misuse w p "--group is mutually exclusive with -c/-d/-D/-u"
        else if all && g.has 'c' then
          misuse w p "printing all duplicated lines and repeat counts is meaningless"
        else
          let source := operands.headD "-"
          match contents w p source with
          | .error e =>
              if source = "-" || e = .os .isDir
              then refuse w p ("error reading " ++ inQuotes source ++ ": " ++ reason e)
              else refuse w p (plainComplaint source e)
          | .ok (b, w) =>
              let out := joinRecords (g.has 'z') (uniqueLines g (records (g.has 'z') b))
              match operands with
              | [_, path] =>
                  if path = "-" then w.print p out
                  else
                    match w.files.writeFile p.cwd (Octets.unpack path) out with
                    | .ok t => Host.settle (w.withFiles t) p 0
                    | .error e => refuse w p (plainComplaint path e)
              | _ => w.print p out

end BatchRunner.Utility
