/-
**Utilities that print.**

Main definitions:

* `Utility.echo`, `Utility.cat`, `Utility.parts`, `Utility.count` — utilities;
* `Utility.cut`, `Utility.replace`, `Utility.baseName`, `Utility.dirName` — more of them.
-/
import BatchRunner.Machine.Utility.Characters
import BatchRunner.Machine.Utility.Reading

set_option autoImplicit false

namespace BatchRunner.Utility

/-- Echoes arguments as they are, unless an option asks for escapes to be replaced. -/
def echo (w : Host) (p : Proc) (args : List String) : Host :=
  let isOption (a : String) : Bool := match a.toList with
    | '-' :: c :: cs => (c :: cs).all fun x => ['n', 'e', 'E'].contains x
    | _ => false
  let os := (args.takeWhile isOption).flatMap fun a => a.toList.drop 1
  let args := args.dropWhile isOption
  let ended := !os.contains 'n'
  let escaped := (os.filter fun c => c = 'e' || c = 'E').getLast? = some 'e'
  w.print p (if escaped then Printing.echoEscaped true ended args
    else Printing.echoPlain ended args)

/-- Sleeps for the sum of the given spans. -/
def sleep (w : Host) (p : Proc) (args : List String) : Host :=
  withArguments w p [] args fun g =>
    match g.operands.filter fun a => (Printing.millis? a).isNone with
    | [] =>
        if g.operands.isEmpty then misuse w p "missing operand"
        else
          let span := (g.operands.filterMap Printing.millis?).foldl (· + ·) 0
          w.settle { p with wake := w.clock + span } 0
    | bad =>
        let w := bad.dropLast.foldl (fun w a => grumble w p (invalid a)) w
        misuse w p (invalid (bad.getLastD ""))
where
  /-- What is said about a span that is none. -/
  invalid (a : String) : String := "invalid time interval '" ++ a ++ "'"

def repeatLine (w : Host) (p : Proc) (argv : List String) : Host :=
  let args := if argv.tail.head? = some "--" then argv.tail.tail else argv.tail
  let line := Octets.bytes (" ".intercalate (if args.isEmpty then ["y"] else args)) ++ [10]
  let times := Host.pipeMax / line.length + 1
  w.print { p with tasks := .utility "yes" argv :: p.tasks } (List.replicate times line).flatten

/-! ### Whole files -/

/-- A byte so that it can be seen.  The high ones are shown as the others behind a mark. -/
def visibleByte (b : UInt8) : Bytes :=
  let low := b % 128
  let body : Bytes := if low < 32 then [94, low + 64] else if low = 127 then [94, 63] else [low]
  if b < 128 then body else [77, 45] ++ body

/-- What copying shows of bytes. -/
structure CopyView where
  numbers : Bool
  /-- Only lines that are not empty have numbers. -/
  sparse : Bool
  /-- Of several empty lines one is left. -/
  squeezed : Bool
  ends : Bool
  tabs : Bool
  others : Bool

namespace CopyView

def shownText (v : CopyView) (ended : Bool) (text : Bytes) : Bytes :=
  let (text, last) := if v.ends && ended && text.getLast? = some 13 && !v.others
    then (text.dropLast, [94, 77]) else (text, [])
  let shown (b : UInt8) : Bytes :=
    if b = 9 then (if v.tabs then [94, 73] else [b])
    else if v.others then visibleByte b else [b]
  text.flatMap shown ++ last

/-- Lines as they are shown, the first of which has the given number. -/
def shownLines (v : CopyView) (n : Nat) (before : Option Bytes) : List Bytes → Bytes
  | [] => []
  | l :: ls =>
      let text := Lines.body l
      let empty := text.isEmpty
      if v.squeezed && empty && before.any List.isEmpty then shownLines v n before ls
      else
        let numbered := v.numbers && !(v.sparse && empty)
        let number := if numbered then Octets.bytes (Lines.padLeft 6 (toString n) ++ "\t") else []
        let ended := l.length ≠ text.length
        number ++ v.shownText ended text ++ (if ended && v.ends then [36] else [])
          ++ (if ended then [10] else [])
          ++ shownLines v (if numbered then n + 1 else n) (some text) ls

end CopyView

def catOptions : List Opt :=
  [⟨'b', "number-nonblank", .nothing⟩, ⟨'n', "number", .nothing⟩, ⟨'s', "squeeze-blank", .nothing⟩,
    ⟨'v', "show-nonprinting", .nothing⟩, ⟨'E', "show-ends", .nothing⟩,
    ⟨'T', "show-tabs", .nothing⟩, ⟨'A', "show-all", .nothing⟩] ++ flags "etu"

/-- Copies files, or standard input, to standard output. -/
def cat (w : Host) (p : Proc) (args : List String) : Host :=
  withArguments w p catOptions args fun g =>
    if g.options.all fun o => o.1 = 'u' then
      w.settle (p.push ((sources g).map fun a =>
        if isInput a then Task.copy else Task.copyFile a)) 0
    else
      let any (letters : List Char) : Bool := letters.any g.has
      let v : CopyView := ⟨any ['n', 'b'], g.has 'b', g.has 's', any ['A', 'e', 'E'],
        any ['A', 't', 'T'], any ['A', 'e', 't', 'v']⟩
      filterAll w p "closing standard input" g fun b => v.shownLines 1 none (Lines.split b)

/-! ### Parts -/

/-- The options of utilities that show parts of files. -/
def portionOptions : List Opt :=
  [⟨'n', "lines", .value⟩, ⟨'c', "bytes", .value⟩, ⟨'q', "quiet", .nothing⟩, ⟨'q', "silent", .nothing⟩,
    ⟨'v', "verbose", .nothing⟩, ⟨'z', "zero-terminated", .nothing⟩, ⟨'f', "follow", .nothing⟩,
    ⟨'F', "", .nothing⟩]

/-- Arguments in which a number that stands for an option is written as one.  The letter behind it
says what is counted. -/
def withCount (first : Bool) (args : List String) : List String :=
  let counted (sign : List Char) (cs : List Char) : Option (List String) :=
    let ds := cs.takeWhile Char.isDigit
    let number := String.ofList (sign ++ ds)
    if ds.isEmpty then none
    else
      match cs.drop ds.length with
      | [] => some ["-n" ++ number]
      | ['c'] => some ["-c" ++ number]
      | ['b'] => some ["-c" ++ number ++ "b"]
      | ['k'] => if first then some ["-c" ++ number ++ "K"] else none
      | ['l'] => if first then none else some ["-n" ++ number]
      | ['f'] => if first then none else some ["-n" ++ number, "-f"]
      | ['q'] => if first then some ["-n" ++ number, "-q"] else none
      | ['v'] => if first then some ["-n" ++ number, "-v"] else none
      | _ => none
  match args with
  | a :: rest =>
      let written := match a.toList with
        | '-' :: cs => counted [] cs
        | '+' :: cs => if first then none else counted ['+'] cs
        | _ => none
      (written.getD [a]) ++ rest
  | [] => []

/-- The letter behind a number that stands for an option which says nothing there. -/
def trailing? (first : Bool) : List String → Option Char
  | a :: _ =>
      match a.toList with
      | '-' :: cs =>
          let rest := cs.dropWhile Char.isDigit
          if first && rest.length < cs.length then
            rest.find? fun c => !("bcklmqvz".toList.contains c)
          else none
      | _ => none
  | [] => none

/-- The part that is asked for, and whether it is counted in bytes. -/
def portion (first : Bool) (g : Given) : Except String (Lines.Portion × Bool) :=
  match g.lastOf? ['n', 'c'] with
  | none => .ok (if first then .first 10 else .last 10, false)
  | some (o, text) =>
      let (sign, digits) := match text.toList with
        | '-' :: cs => ('-', String.ofList cs)
        | '+' :: cs => ('+', String.ofList cs)
        | _ => (' ', text)
      match size? digits with
      | none =>
          .error ("invalid number of " ++ (if o = 'c' then "bytes" else "lines") ++ ": '" ++ text
            ++ "'")
      | some n =>
          let what : Lines.Portion :=
            if first then (if sign = '-' then .allButLast n else .first n)
            else if sign = '+' then .fromOn n else .last n
          .ok (what, o = 'c')

/-- A part of bytes, counted in bytes or in lines, or in records that zeros end. -/
def partOf (what : Lines.Portion) (inBytes zero : Bool) (b : Bytes) : Bytes :=
  if inBytes then what.of b
  else if zero then
    let all := records true b
    let part := what.of all
    let isOpen := b.getLast?.any (· ≠ 0)
    let reachesEnd := match what with
      | .first n => all.length ≤ n
      | .allButLast n => n = 0
      | _ => true
    let out := joinRecords true part
    if isOpen && reachesEnd && !part.isEmpty then out.dropLast else out
  else (what.of (Lines.split b)).flatten

/-- Shows parts of files, each under its name if there are several. -/
def parts (w : Host) (p : Proc) (first : Bool) (args : List String) : Host :=
  if let some c := trailing? first args then
    misuse w p ("invalid trailing option -- " ++ String.singleton c)
  else withArguments w p portionOptions (withCount first args) fun g =>
    match portion first g with
    | .error text => refuse w p text
    | .ok (what, inBytes) =>
        let titled := g.has 'v' || 1 < (sources g).length && !g.has 'q'
        let follows := !first && (g.has 'f' || g.has 'F') && !g.operands.isEmpty
          && g.operands.any fun a => w.files.isPresent p.cwd (Octets.unpack a)
        show' what inBytes (g.has 'z') titled
          (if follows then w.clock + Printing.endlessMillis else p.wake) (sources g) true false w
where
  /-- Shows the parts of files one after the other, and goes on at the given time. -/
  show' (what : Lines.Portion) (inBytes zero titled : Bool) (wake : Nat) :
      List String → Bool → Bool → Host → Host
    | [], _, failed, w => w.settle { p with wake := wake } (if failed then 1 else 0)
    | a :: as, isFirst, failed, w =>
        match contents w p a with
        | .error e =>
            let verb := if !first && isInput a && e = .os .badStream then "cannot fstat "
              else if isInput a || e = .os .isDir then "error reading " else "cannot open "
            let w := grumble w p (verb ++ inQuotes (if a = "-" then "standard input" else a)
              ++ (if verb = "cannot open " then " for reading: " else ": ") ++ reason e)
            let w := if as.isEmpty && a = "-" && e = .os .badStream
              then grumble w p (plainComplaint a e) else w
            show' what inBytes zero titled wake as isFirst true w
        | .ok (b, w) =>
            let title := if titled then Octets.bytes ((if isFirst then "" else "\n") ++ "==> "
              ++ (if isInput a then "standard input" else a) ++ " <==\n") else []
            let w := Host.write w p (title ++ partOf what inBytes zero b)
            match w.proc? p.id with
            | some q => if q.tasks.length < p.tasks.length || q.ended.isSome then w
                else show' what inBytes zero titled wake as false failed w
            | none => w

def countOptions : List Opt :=
  [⟨'l', "lines", .nothing⟩, ⟨'w', "words", .nothing⟩, ⟨'c', "bytes", .nothing⟩,
    ⟨'m', "chars", .nothing⟩, ⟨'L', "max-line-length", .nothing⟩, ⟨'t', "total", .value⟩]

/-- The width of the widest line, where a tab leads to the next of the places for tabs. -/
def widest (b : Bytes) : Nat :=
  let step (x : Nat × Nat) (c : UInt8) : Nat × Nat :=
    if c = 10 || c = 12 || c = 13 then (0, max x.1 x.2)
    else if c = 9 then (x.1 + 8 - x.1 % 8, x.2)
    else if 32 ≤ c && c ≤ 126 then (x.1 + 1, x.2) else x
  let (last, most) := b.foldl step (0, 0)
  max last most

/-- **Counts lines, words and bytes.** -/
def count (w : Host) (p : Proc) (args : List String) : Host :=
  withArguments w p countOptions args fun g =>
    let (found, w) := collect p (sources g) w
    let isPlain := !(g.has 'l' || g.has 'w' || g.has 'c' || g.has 'm' || g.has 'L')
    let counts (b : Bytes) : List Nat :=
      (if isPlain || g.has 'l' then [(b.filter (· = 10)).length] else [])
        ++ (if isPlain || g.has 'w' then [Lines.wordCount b] else [])
        ++ (if g.has 'm' then [b.length] else [])
        ++ (if isPlain || g.has 'c' then [b.length] else [])
        ++ (if g.has 'L' then [widest b] else [])
    let isFile (a : String) : Bool :=
      if isInput a then
        match p.stream? 0 with
        | some (.file _) => true
        | some _ => false
        | none => true
      else
        match w.files.found? p.cwd (Octets.unpack a) with
        | some (.file _) => true
        | some _ => false
        | none => true
    let rows := found.filterMap fun (a, x) =>
      match x with
      | .ok b => some (a, counts b)
      | .error e => if isInput a || e = .os .isDir then some (a, counts []) else none
    let size := (found.filterMap fun x => x.2.toOption).foldl (fun n b => n + b.length) 0
    let single := (counts []).length = 1 && found.length = 1
    let onlyTotal := g.value? 't' = some "only"
    let width := if single || onlyTotal then 0
      else if found.all fun x => isFile x.1 then (toString size).length else 7
    let sums := (counts []).zipIdx.map fun (_, i) =>
      let column := rows.map fun r => (r.2[i]?).getD 0
      if g.has 'L' && i + 1 = (counts []).length then column.foldl max 0
      else column.foldl (· + ·) 0
    let line (name : String) (ns : List Nat) : Bytes :=
      Octets.bytes (" ".intercalate (ns.map (fun n => Lines.padLeft width (toString n))
        ++ (if name = "" then [] else [name])) ++ "\n")
    let title (a : String) : String := if g.operands.isEmpty then "" else a
    let rowsInTurn := found.flatMap fun (a, x) =>
      let row := if onlyTotal then [] else (rows.filter fun r => r.1 = a).take 1
      let row := row.map fun r => Except.ok (line (title a) r.2)
      match x with
      | .ok _ => row
      | .error e =>
          let name := if title a = "" then "'standard input'" else shown a
          .error (name ++ ": " ++ reason e) :: row
    let hasTotal := match g.value? 't' with
      | some "always" => true
      | some "only" => true
      | some "never" => false
      | _ => 1 < found.length
    let total := if hasTotal then [Except.ok (line (if onlyTotal then "" else "total") sums)]
      else []
    let status := if found.any fun x => x.2.toOption.isNone then 1 else 0
    showInTurn (p.withStatus status) (rowsInTurn ++ total ++ closing p (sources g) "-") w

/-- The ranges that a list of numbers stands for. -/
def ranges (what : Char) (s : String) : Except String Lines.Ranges :=
  let zero := if what = 'f' then "fields are numbered from 1"
    else "byte/character positions are numbered from 1"
  let invalid (x : String) : String :=
    (if what = 'f' then "invalid field value '" else "invalid byte/character position '") ++ x
      ++ "'"
  let number (x : String) : Except String Nat :=
    if x.toList.all Char.isDigit then
      match x.toNat? with
      | some 0 => .error zero
      | some n => .ok n
      | none => .error zero
    else .error (invalid x)
  (s.map fun c => if c = ' ' || c = '\t' then ',' else c).splitOn "," |>.mapM fun x =>
    match x.splitOn "-" with
    | [a] => do let n ← number a; return (n, some n)
    | ["", ""] => .error "invalid range with no endpoint: -"
    | [a, ""] => do return (← number a, none)
    | ["", b] => do return (1, some (← number b))
    | [a, b] => do
        let a ← number a
        let b ← number b
        if b < a then throw "invalid decreasing range"
        return (a, some b)
    | _ => .error (invalid x)

def cutOptions : List Opt :=
  [⟨'b', "bytes", .value⟩, ⟨'c', "characters", .value⟩, ⟨'f', "fields", .value⟩,
    ⟨'d', "delimiter", .value⟩, ⟨'s', "only-delimited", .nothing⟩, ⟨'n', "", .nothing⟩,
    ⟨'z', "zero-terminated", .nothing⟩, ⟨'!', "complement", .nothing⟩,
    ⟨'>', "output-delimiter", .value⟩]

def cut (w : Host) (p : Proc) (args : List String) : Host :=
  withArguments w p cutOptions args fun g =>
    match g.options.filter fun o => ['b', 'c', 'f'].contains o.1 with
    | [] => misuse w p "you must specify a list of bytes, characters, or fields"
    | [(what, list)] =>
        match ranges what list, g.value? 'd' with
        | .error text, _ => misuse w p text
        | .ok rs, d? =>
            if d?.any fun d => 1 < d.length then
              misuse w p "the delimiter must be a single character"
            else if what ≠ 'f' && d?.isSome then
              misuse w p "an input delimiter may be specified only when operating on fields"
            else if what ≠ 'f' && g.has 's' then
              misuse w p ("suppressing non-delimited lines makes sense\n"
                ++ "\tonly when operating on fields")
            else
              let wanted (n : Nat) : Bool := rs.has n != g.has '!'
              let d := (d?.map fun d => (d.toList.head?.map Octets.byte).getD 0).getD 9
              let sep? := (g.value? '>').map Octets.bytes
              filterEach w p g fun b =>
                joinRecords (g.has 'z') ((records (g.has 'z') b).filterMap fun l =>
                  if what = 'f' then Lines.cutFields d (sep?.getD [d]) (g.has 's') wanted l
                  else some (Lines.cutPlaces (sep?.getD [])
                    (fun n => if g.has '!' then wanted n && !wanted (n - 1) else rs.starts n)
                    wanted l))
    | _ => misuse w p "only one list may be specified"

/-- Replaces, deletes or squeezes characters. -/
def replace (w : Host) (p : Proc) (args : List String) : Host :=
  withArguments w p [⟨'c', "complement", .nothing⟩, ⟨'C', "", .nothing⟩, ⟨'d', "delete", .nothing⟩,
      ⟨'s', "squeeze-repeats", .nothing⟩, ⟨'t', "truncate-set1", .nothing⟩] args fun g =>
    let delete := g.has 'd'
    let squeeze := g.has 's'
    let least := if delete == squeeze then 2 else 1
    let most := if delete && !squeeze then 1 else 2
    match g.operands with
    | [] => misuse w p "missing operand"
    | first :: rest =>
        if g.operands.length < least then
          let w := grumble w p ("missing operand after '" ++ first ++ "'")
          let w := w.grumble p (if squeeze then
            "Two strings must be given when both deleting and squeezing repeats."
            else "Two strings must be given when translating.")
          (w.grumble p ("Try '" ++ p.shell.name ++ " --help' for more information.")).settle p 1
        else if most < g.operands.length then
          let w := grumble w p ("extra operand '" ++ (g.operands[most]?).getD "" ++ "'")
          let w := if g.operands.length = 2 then w.grumble p
            "Only one string may be given when deleting without squeezing repeats." else w
          (w.grumble p ("Try '" ++ p.shell.name ++ " --help' for more information.")).settle p 1
        else
          let one := Characters.items first
          let two := Characters.items (rest.headD "")
          let wrong := (Characters.mistake? one).or ((Characters.mistake? two).or
            (Characters.refusal? (!delete && !rest.isEmpty) (g.has 'c' || g.has 'C') (g.has 't')
              one two))
          match wrong with
          | some text => refuse w p text
          | none =>
              let unended (s : String) : Bool :=
                (s.toList.reverse.takeWhile (· = '\\')).length % 2 = 1
              let w := g.operands.foldl (fun w s => if unended s then grumble w p
                "warning: an unescaped backslash at end of string is not portable" else w) w
              let set₁ := if g.has 'c' || g.has 'C' then Characters.others (Characters.members one)
                else Characters.members one
              if !delete && !rest.isEmpty && !g.has 't' && !set₁.isEmpty
                  && (Characters.aligned set₁.length two).isEmpty then
                refuse w p "when not truncating set1, string2 must be non-empty"
              else
                let set₂ := if g.has 't' then Characters.members two
                  else Characters.aligned set₁.length two
                let within (cs : List Char) : UInt8 → Bool := fun b =>
                  cs.contains (Octets.char b)
                let table := (set₁.zip set₂).reverse
                let change (b : UInt8) : UInt8 :=
                  ((table.lookup (Octets.char b)).map Octets.byte).getD b
                match contents w p "-" with
                | .error e => refuse w p ("read error: " ++ reason e)
                | .ok (b, w) =>
                    let b := if delete then b.filter fun x => !within set₁ x
                      else if rest.isEmpty then b else b.map change
                    let b := if !squeeze then b
                      else Characters.squeeze (within (if rest.isEmpty then set₁ else set₂)) b
                    w.print p b

/-! ### Paths -/

/-- A path without slashes at its end. -/
def trimmedPath (s : String) : List Char :=
  match (s.toList.reverse.dropWhile (· = '/')).reverse with
  | [] => if s = "" then [] else ['/']
  | cs => cs

/-- The last name of a path, without an ending. -/
def lastPart (ending path : String) : String :=
  let cs := trimmedPath path
  let name := if cs = ['/'] then cs else (cs.reverse.takeWhile (· ≠ '/')).reverse
  let name := if ending.toList.isSuffixOf name && ending.toList ≠ name
    then name.take (name.length - ending.length) else name
  String.ofList name

def baseName (w : Host) (p : Proc) (args : List String) : Host :=
  let options : List Opt :=
    [⟨'a', "multiple", .nothing⟩, ⟨'s', "suffix", .value⟩, ⟨'z', "zero", .nothing⟩]
  match parse options false args with
  | .error text => misuse w p text
  | .ok g =>
      let several := g.has 'a' || g.has 's'
      let ending := (g.value? 's').getD ""
      let stop := if g.has 'z' then "\x00" else "\n"
      match g.operands with
      | [] => misuse w p "missing operand"
      | path :: rest =>
          if several then
            w.print p (Octets.bytes (String.join ((path :: rest).map fun a =>
              lastPart ending a ++ stop)))
          else
            match rest with
            | _ :: extra :: _ => misuse w p ("extra operand '" ++ extra ++ "'")
            | rest => w.print p (Octets.bytes (lastPart (rest.headD "") path ++ stop))

def dirName (w : Host) (p : Proc) (args : List String) : Host :=
  withArguments w p [⟨'z', "zero", .nothing⟩] args fun g =>
    if g.operands.isEmpty then misuse w p "missing operand"
    else
      w.print p (Octets.bytes (String.join (g.operands.map fun path =>
        let cs := trimmedPath path
        let dir := cs.reverse.dropWhile (· ≠ '/')
        (if cs = ['/'] then "/" else if dir = [] then "."
          else String.ofList (trimmedPath (String.ofList dir.reverse)))
          ++ (if g.has 'z' then "\x00" else "\n"))))

end BatchRunner.Utility
