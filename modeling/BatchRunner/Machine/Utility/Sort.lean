/-
**The utility that puts lines in order.**

Main definitions:

* `Utility.sortManner`, `Utility.clash?` — how letters say lines are compared, and letters that
  contradict each other;
* `Utility.sortKey` — a part of lines that they are compared by, as it is written;
* `Utility.sort` — the utility.
-/
import BatchRunner.Machine.Utility.Order
import BatchRunner.Machine.Utility.Text

set_option autoImplicit false

namespace BatchRunner.Utility

/-- The letters that say how lines are compared. -/
def mannerLetters : List Char := "bdfghiMnRrV".toList

/-- How letters say lines are compared.  The letters behind the end of a part say whether blanks
before it count. -/
def sortManner (atStart atStop : List Char) : Lines.Manner :=
  let all := atStart ++ atStop
  let measures : List (Char × Lines.Measure) :=
    [('n', .number), ('h', .scaled), ('g', .general), ('M', .month), ('V', .version)]
  { measure := ((measures.find? fun m => all.contains m.1).map Prod.snd).getD .text
    reverse := all.contains 'r'
    fold := all.contains 'f'
    unblankStart := atStart.contains 'b'
    unblankStop := atStop.contains 'b'
    plain := all.contains 'd'
    visible := all.contains 'i' }

def clash? (letters : List Char) : Option String :=
  let count (cs : List Char) : Nat := (cs.filter fun c => letters.contains c).length
  let loose := if count ['V', 'R', 'd', 'i'] = 0 then 0 else 1
  if count ['n', 'g', 'h', 'M'] + loose ≤ 1 then none
  else
    let kept := mannerLetters.filter fun c => letters.contains c && c ≠ 'b' && c ≠ 'r'
      && (c ≠ 'i' || !letters.contains 'd')
    some ("options '-" ++ String.ofList kept ++ "' are incompatible")

/-- A count at the beginning of a text, and the rest. -/
def sortCount (what : String) (s : List Char) : Except String (Nat × List Char) :=
  let ds := s.takeWhile Char.isDigit
  if ds.isEmpty then
    .error (what ++ ": invalid count at start of '" ++ String.ofList s ++ "'")
  else .ok ((String.ofList ds).toNat?.getD 0, s.drop ds.length)

/-- **A part of lines that they are compared by.**  With no letters it is compared as whole lines
are. -/
def sortKey (whole : Lines.Manner) (s : String) : Except String Lines.Key := do
  let wrong {α : Type} (what : String) : Except String α :=
    .error (what ++ ": invalid field specification '" ++ s ++ "'")
  let (field, rest) ← sortCount "invalid number at field start" s.toList
  if field = 0 then wrong "field number is zero"
  let (byte, rest) ← match rest with
    | '.' :: rest => sortCount "invalid number after '.'" rest
    | rest => .ok (1, rest)
  if byte = 0 then wrong "character offset is zero"
  let isManner (c : Char) : Bool := mannerLetters.contains c
  let first := rest.takeWhile isManner
  let (stop, last, rest) ← match rest.dropWhile isManner with
    | ',' :: rest => do
        let (field, rest) ← sortCount "invalid number after ','" rest
        if field = 0 then wrong "field number is zero"
        let (byte, rest) ← match rest with
          | '.' :: rest => sortCount "invalid number after '.'" rest
          | rest => .ok (0, rest)
        pure (some (field, byte), rest.takeWhile isManner, rest.dropWhile isManner)
    | rest => .ok (none, [], rest)
  if !rest.isEmpty then wrong "stray character in field spec"
  match clash? (first ++ last) with
  | some text => .error text
  | none =>
      return ⟨(field, byte), stop,
        if first.isEmpty && last.isEmpty then whole else sortManner first last⟩

def sortOptions : List Opt :=
  [⟨'n', "numeric-sort", .nothing⟩, ⟨'r', "reverse", .nothing⟩, ⟨'u', "unique", .nothing⟩,
    ⟨'f', "ignore-case", .nothing⟩, ⟨'b', "ignore-leading-blanks", .nothing⟩,
    ⟨'h', "human-numeric-sort", .nothing⟩, ⟨'g', "general-numeric-sort", .nothing⟩,
    ⟨'i', "ignore-nonprinting", .nothing⟩, ⟨'M', "month-sort", .nothing⟩,
    ⟨'V', "version-sort", .nothing⟩, ⟨'R', "random-sort", .nothing⟩,
    ⟨'d', "dictionary-order", .nothing⟩, ⟨'s', "stable", .nothing⟩, ⟨'m', "merge", .nothing⟩,
    ⟨'z', "zero-terminated", .nothing⟩, ⟨'c', "", .nothing⟩, ⟨'C', "", .nothing⟩,
    ⟨'?', "check", .maybe⟩, ⟨'k', "key", .value⟩, ⟨'t', "field-separator", .value⟩,
    ⟨'o', "output", .value⟩, ⟨'S', "buffer-size", .value⟩, ⟨'T', "temporary-directory", .value⟩,
    ⟨'#', "sort", .value⟩, ⟨'%', "parallel", .value⟩, ⟨'%', "batch-size", .value⟩]

/-- The letter of an option that is written out: how to sort, and how to check. -/
def sortLetter : Char × String → Char
  | ('#', "numeric") => 'n'
  | ('#', "general-numeric") => 'g'
  | ('#', "human-numeric") => 'h'
  | ('#', "month") => 'M'
  | ('#', "random") => 'R'
  | ('#', "version") => 'V'
  | ('?', "quiet") => 'C'
  | ('?', "silent") => 'C'
  | ('?', _) => 'c'
  | (c, _) => c

/-- The byte that separates fields, if one is given. -/
def separatorOf : Option String → Except String (Option UInt8)
  | none => .ok none
  | some "" => .error "empty tab"
  | some "\\0" => .ok (some 0)
  | some t =>
      match t.toList with
      | [c] => .ok (some (Octets.byte c))
      | _ => .error ("multi-character tab '" ++ t ++ "'")

/-- What is said about a file that cannot be sorted. -/
def sortComplaint (a : String) (e : IoError) : String :=
  (if e = .os .isDir then "read failed: "
    else if a = "-" then "stat failed: " else "cannot read: ") ++ plainComplaint a e

def sortingOf (g : Given) : Except String Lines.Sorting := do
  let letters := g.options.map sortLetter
  let whole := sortManner letters letters
  let keys ← (g.options.filter fun o => o.1 = 'k').mapM fun o => sortKey whole o.2
  match clash? letters with
  | some text => throw text
  | none => pure ()
  let sep ← separatorOf (g.value? 't')
  return ⟨keys, sep, whole, letters.contains 's' || letters.contains 'u'⟩

/-- **Lines in order.** -/
def sort (w : Host) (p : Proc) (args : List String) : Host :=
  match parse sortOptions true args with
  | .error text => misuseWith 2 w p text
  | .ok g =>
      let letters := g.options.map sortLetter
      let stop (text : String) : Host := (grumble w p text).settle p 2
      let checks := letters.contains 'c' || letters.contains 'C'
      match sortingOf g, g.operands with
      | .error text, _ => stop text
      | .ok order, operands =>
          if checks && 1 < operands.length then
            misuseWith 2 w p ("extra operand '" ++ (operands[1]?).getD "" ++ "' not allowed with -"
              ++ (if letters.contains 'c' then "c" else "C"))
          else
            let (found, w) := collect p (sources g) w
            match found.find? fun x => x.2.toOption.isNone with
            | some (a, .error e) => (grumble w p (sortComplaint a e)).settle p 2
            | _ => arrange w g letters checks order (found.filterMap fun x => x.2.toOption)
where
  /-- Checks the order of what has been read, or shows it in order. -/
  arrange (w : Host) (g : Given) (letters : List Char) (checks : Bool) (order : Lines.Sorting)
      (found : List Bytes) : Host :=
    let zero := letters.contains 'z'
    let once := letters.contains 'u'
    let lists := found.map (records zero)
    let ls := lists.flatten
    if checks then
      let outOfOrder := (ls.zip ls.tail).zipIdx.find? fun ((a, b), _) =>
        order.compare a b = .gt || once && order.compare a b = .eq
      match outOfOrder with
      | none => w.settle p 0
      | some ((_, b), n) =>
          let w := if letters.contains 'C' then w
            else grumble w p ((sources g).headD "-" ++ ":" ++ toString (n + 2) ++ ": disorder: "
              ++ Octets.ofBytes b)
          w.settle p 1
    else
      let ls := if letters.contains 'm' then Lines.merge order lists else Lines.sort order ls
      let ls := if once then Lines.dropAlike (fun a b => order.compare a b = .eq) ls else ls
      let out := joinRecords zero ls
      match g.value? 'o' with
      | none => w.print p out
      | some path =>
          match w.files.writeFile p.cwd (Octets.unpack path) out with
          | .ok t => Host.settle (w.withFiles t) p 0
          | .error e => (grumble w p ("open failed: " ++ plainComplaint path e)).settle p 2

end BatchRunner.Utility
