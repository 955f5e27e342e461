/-
**Finding files.**

A utility goes through directories and tests each entry.  The tests are joined by "and", "or" and
"not", and some of them act on the entry.  An act that runs a program interrupts the test of the
entry, which begins anew with what has come of the acts so far.

Main definitions:

* `Finder.parse` — reads a test from arguments;
* `Finder.check` — tests an entry;
* `Walk.goOn` — goes on with a walk;
* `Utility.find` — the utility.
-/
import BatchRunner.Machine.Mode
import BatchRunner.Machine.Utility.Interpreter
import BatchRunner.Machine.Utility.Listing
import BatchRunner.Machine.Utility.Times

set_option autoImplicit false

namespace BatchRunner

open Utility

namespace Finder

/-! ### Reading tests -/

/-- What tests are read with. -/
structure Setting where
  files : FileTree
  cwd : Place
  now : Nat
  /-- How regular expressions are written. -/
  dialect : String

/-- What is said about arguments that make no test. -/
abbrev Reading := Except String (Finder × List String)

def patternOf (fold : Bool) (s : String) : List Script.Pattern.Atom :=
  go false (s.toList.map fun c => if fold then c.toLower else c) []
where
  /-- Goes through the characters; one behind a backslash stands for itself. -/
  go (escaped : Bool) : List Char → List (Char × Bool) → List Script.Pattern.Atom
    | [], acc => Script.Pattern.ofMarked acc.reverse
    | '\\' :: cs, acc =>
        if escaped then go false cs (('\\', true) :: acc) else go true cs acc
    | c :: cs, acc => go false cs ((c, escaped) :: acc)

/-- A number with a sign that says whether more or less is wanted. -/
def count? (s : String) : Option Count :=
  match s.toList with
  | '+' :: cs => (Builtin.count? (String.ofList cs)).map fun n => ⟨.gt, n⟩
  | '-' :: cs => (Builtin.count? (String.ofList cs)).map fun n => ⟨.lt, n⟩
  | _ => (Builtin.count? s).map fun n => ⟨.eq, n⟩

def dialects : List (String × Char) :=
  [("findutils-default", 'm'), ("ed", 'b'), ("emacs", 'm'), ("gnu-awk", 'e'), ("grep", 'b'),
    ("posix-awk", 'e'), ("awk", 'e'), ("posix-basic", 'b'), ("posix-egrep", 'e'), ("egrep", 'e'),
    ("posix-extended", 'e'), ("posix-minimal-basic", 'b'), ("sed", 'b')]

/-- A regular expression whose groups are marked by backslashes, with groups that are not. -/
def swapGroups : List Char → List Char
  | [] => []
  | '\\' :: c :: cs =>
      if ['(', ')', '|'].contains c then c :: swapGroups cs else '\\' :: c :: swapGroups cs
  | c :: cs =>
      if ['(', ')', '|', '\x7b', '\x7d'].contains c then '\\' :: c :: swapGroups cs
      else c :: swapGroups cs

def expressionOf (dialect : String) (s : String) : Except String Regular :=
  match dialects.lookup dialect with
  | some 'b' => Regular.parse false s
  | some 'e' => Regular.parse true s
  | _ => Regular.parse true (String.ofList (swapGroups s.toList))

/-- The letters of units of size, and how many bytes they are. -/
def sizeUnits : List (Char × Nat) :=
  [('b', 512), ('c', 1), ('w', 2), ('k', 1024), ('M', 1048576), ('G', 1073741824)]

/-- The words up to a semicolon, or up to a plus sign behind the mark for paths, and what follows. -/
def commandWords : List String → List String → Option (List String × Bool × List String)
  | [], _ => none
  | ";" :: rest, acc => if acc.isEmpty then none else some (acc.reverse, false, rest)
  | "+" :: rest, acc =>
      if acc.head? = some "\x7b\x7d" && 1 < acc.length then
        some (acc.tail.reverse, true, rest)
      else commandWords rest ("+" :: acc)
  | a :: rest, acc => commandWords rest (a :: acc)

def factLetters : List Char := "abcdDfFgGhHiklmMnpPsStuUyYZ".toList

def formatOf : Nat → List Char → Bytes → Except String (List Piece)
  | 0, _, _ => .ok []
  | _, [], acc => .ok (if acc.isEmpty then [] else [.text acc])
  | _, '\\' :: 'c' :: _, acc => .ok [.text acc]
  | fuel + 1, '\\' :: c :: cs, acc =>
      let (b, n) := Printing.escape false false c cs
      formatOf fuel (cs.drop n) (acc ++ b)
  | _, ['%'], _ => .error "error: % at end of format string"
  | fuel + 1, '%' :: '%' :: cs, acc => formatOf fuel cs (acc ++ [37])
  | fuel + 1, '%' :: cs, acc =>
      let marks := cs.takeWhile fun c => "-+ 0#".toList.contains c
      let cs := cs.drop marks.length
      let width := cs.takeWhile Char.isDigit
      let cs := cs.drop width.length
      let (most, cs) := match cs with
        | '.' :: rest =>
            let ds := rest.takeWhile Char.isDigit
            (some ((String.ofList ds).toNat?.getD 0), rest.drop ds.length)
        | _ => (none, cs)
      let plain (letter sub : Char) : Piece :=
        .fact letter sub (marks.contains '-') (marks.contains '0')
          ((String.ofList width).toNat?.getD 0) most
      let before : List Piece := if acc.isEmpty then [] else [.text acc]
      match cs with
      | [] => .error "error: % at end of format string"
      | c :: rest =>
          if ['A', 'C', 'T'].contains c then
            match rest with
            | [] => .error ("error: %" ++ String.singleton c ++ " must be followed by a time field")
            | sub :: rest => (formatOf fuel rest []).map fun ps => before ++ plain 'T' sub :: ps
          else if factLetters.contains c then
            (formatOf fuel rest []).map fun ps => before ++ plain c ' ' :: ps
          else formatOf fuel rest (acc ++ Octets.bytes ("%" ++ String.singleton c))
  | fuel + 1, c :: cs, acc => formatOf fuel cs (acc ++ [Octets.byte c])

def valued? (e : Setting) (a v : String) : Option (Except String Finder) :=
  let invalid : Except String Finder := .error ("invalid argument \x60" ++ v ++ "' to \x60" ++ a
    ++ "'")
  let counted (make : Count → Finder) : Except String Finder :=
    match count? v with
    | some c => .ok (make c)
    | none => invalid
  let reference (make : FileTree.Facts → Finder) : Except String Finder :=
    match e.files.stat e.cwd (Octets.unpack v) with
    | .ok (place, x) => .ok (make (e.files.factsOf place x))
    | .error err => .error (inQuotes v ++ ": " ++ reason err)
  let kinds (followed : Bool) : Except String Finder :=
    let parts := v.splitOn ","
    match v.toList.filter (· ≠ ',') |>.find? fun c =>
        !(['f', 'd', 'l', 'c', 'b', 'p', 's'].contains c) with
    | some c => .error ("Unknown argument to " ++ a ++ ": " ++ String.singleton c)
    | none =>
        if parts.any fun s => 1 < s.length then
          .error ("Must separate multiple arguments to " ++ a ++ " using: ','")
        else if parts.any (· = "") then
          .error ("Last file type in list argument to " ++ a ++ " is missing, i.e., list is ending"
            ++ " on: ','")
        else .ok (.kind (v.toList.filter (· ≠ ',')) followed)
  match a with
  | "-name" => some (.ok (.name (patternOf false v) false))
  | "-iname" => some (.ok (.name (patternOf true v) true))
  | "-path" => some (.ok (.path (patternOf false v) false))
  | "-wholename" => some (.ok (.path (patternOf false v) false))
  | "-ipath" => some (.ok (.path (patternOf true v) true))
  | "-iwholename" => some (.ok (.path (patternOf true v) true))
  | "-lname" => some (.ok (.target (patternOf false v) false))
  | "-ilname" => some (.ok (.target (patternOf true v) true))
  | "-regex" => some ((expressionOf e.dialect v).map fun r => .expression r false)
  | "-iregex" => some ((expressionOf e.dialect v).map fun r => .expression r true)
  | "-type" => some (kinds false)
  | "-xtype" => some (kinds true)
  | "-size" => some (
      let cs := v.toList
      let letter := cs.getLast?.getD ' '
      let (text, unit?) := if letter.isDigit then (v, some 512)
        else (String.ofList cs.dropLast, sizeUnits.lookup letter)
      match unit?, count? text with
      | some unit, some c => .ok (.size unit c)
      | none, _ => .error ("invalid -size type \x60" ++ String.singleton letter ++ "'")
      | _, none => .error ("Invalid argument \x60" ++ v ++ "' to -size"))
  | "-newer" => some (reference fun f => .newer f.time)
  | "-anewer" => some (reference fun f => .newer f.time)
  | "-cnewer" => some (reference fun f => .newer f.time)
  | "-newermt" => some (match Dates.ofText? e.now v with
      | some ms => .ok (.newer ms.toNat)
      | none => .error ("I cannot figure out how to interpret " ++ inQuotes v
          ++ " as a date or time"))
  | "-mtime" => some (counted (.age 86400000 false))
  | "-atime" => some (counted (.age 86400000 false))
  | "-ctime" => some (counted (.age 86400000 false))
  | "-mmin" => some (counted (.age 60000 true))
  | "-amin" => some (counted (.age 60000 true))
  | "-cmin" => some (counted (.age 60000 true))
  | "-perm" => some (
      let (how, text) := match v.toList with
        | '-' :: cs => ('-', String.ofList cs)
        | '/' :: cs => ('/', String.ofList cs)
        | _ => ('=', v)
      match Mode.change? text 0 false 0 with
      | some bits => .ok (.mode how bits)
      | none => .error ("invalid mode " ++ inQuotes v))
  | "-user" => some (if v = "root" then .ok (.always true) else match Builtin.count? v with
      | some n => .ok (.always (n = 0))
      | none => .error (inQuotes v ++ " is not the name of a known user"))
  | "-group" => some (if v = "root" then .ok (.always true) else match Builtin.count? v with
      | some n => .ok (.always (n = 0))
      | none => .error (inQuotes v ++ " is not the name of an existing group"))
  | "-uid" => some (counted fun c => .always (c.holds 0))
  | "-gid" => some (counted fun c => .always (c.holds 0))
  | "-links" => some (counted .links)
  | "-inum" => some (counted .number)
  | "-samefile" => some (reference fun f => .same f.number)
  | "-printf" => some ((formatOf (v.length + 1) v.toList []).map fun ps => .format ps none)
  | "-fprint" => some (.ok (.print 10 (some v)))
  | "-fprint0" => some (.ok (.print 0 (some v)))
  | "-maxdepth" => some (.ok (.always true))
  | "-mindepth" => some (.ok (.always true))
  | "-regextype" => some (.ok (.always true))
  | _ => none

def plain? (a : String) : Option Finder :=
  [("-depth", .always true), ("-d", .always true), ("-mount", .always true),
    ("-xdev", .always true), ("-noleaf", .always true), ("-follow", .always true),
    ("-daystart", .always true), ("-warn", .always true), ("-nowarn", .always true),
    ("-ignore_readdir_race", .always true), ("-noignore_readdir_race", .always true),
    ("-true", .always true), ("-false", .always false), ("-empty", .empty),
    ("-nouser", .always false), ("-nogroup", .always false), ("-readable", .always true),
    ("-writable", .always true), ("-executable", .runnable), ("-print", .print 10 none),
    ("-print0", .print 0 none), ("-ls", .list), ("-delete", .delete), ("-prune", .prune),
    ("-quit", .quit)].lookup a

def joiners : List String := ["-o", "-or", "-a", "-and", ","]

mutual

/-- Tests of which the last one counts. -/
def readList (e : Setting) : Nat → List String → Reading
  | 0, as => .ok (.always true, as)
  | fuel + 1, as => do
      let (f, as) ← readEither e fuel as
      match as with
      | "," :: as =>
          if as.isEmpty then throw "expected an expression after ','"
          let (g, as) ← readList e fuel as
          return (.last f g, as)
      | as => return (f, as)

/-- Tests of which one has to hold. -/
def readEither (e : Setting) : Nat → List String → Reading
  | 0, as => .ok (.always true, as)
  | fuel + 1, as => do
      let (f, as) ← readBoth e fuel as
      match as with
      | a :: as =>
          if a = "-o" || a = "-or" then
            if as.isEmpty then throw ("expected an expression after '" ++ a ++ "'")
            let (g, as) ← readEither e fuel as
            return (.either f g, as)
          else return (f, a :: as)
      | [] => return (f, [])

/-- Tests that all have to hold. -/
def readBoth (e : Setting) : Nat → List String → Reading
  | 0, as => .ok (.always true, as)
  | fuel + 1, as => do
      let (f, as) ← readOne e fuel as
      match as with
      | [] => return (f, [])
      | a :: as =>
          if a = "-a" || a = "-and" then
            if as.isEmpty then throw ("expected an expression after '" ++ a ++ "'")
            let (g, as) ← readBoth e fuel as
            return (.both f g, as)
          else if joiners.contains a || a = ")" then return (f, a :: as)
          else
            let (g, as) ← readBoth e fuel (a :: as)
            return (.both f g, as)

def readOne (e : Setting) : Nat → List String → Reading
  | 0, as => .ok (.always true, as)
  | _, [] => .error "invalid expression"
  | fuel + 1, a :: as =>
      if a = "!" || a = "-not" then
        if as.isEmpty then .error ("expected an expression after '" ++ a ++ "'")
        else do
          let (f, as) ← readOne e fuel as
          return (.no f, as)
      else if a = "(" then do
        match as with
        | [] => throw ("invalid expression; expected to find a ')' but didn't see one. Perhaps you "
            ++ "need an extra predicate after '('")
        | ")" :: _ => throw "invalid expression; empty parentheses are not allowed."
        | as =>
            let (f, as) ← readList e fuel as
            match as with
            | ")" :: as => return (f, as)
            | _ => throw ("invalid expression; I was expecting to find a ')' somewhere but did not"
                ++ " see one.")
      else if joiners.contains a then
        .error ("invalid expression; you have used a binary operator '" ++ a
          ++ "' with nothing before it.")
      else if ["-exec", "-execdir", "-ok", "-okdir"].contains a then
        let there := a.endsWith "dir"
        let asks := a.startsWith "-ok"
        match commandWords as [] with
        | some (argv, false, rest) => .ok (.run argv there asks, rest)
        | some (argv, true, rest) =>
            if asks then .error ("missing argument to \x60" ++ a ++ "'")
            else .ok (.gather argv there, rest)
        | none => .error ("missing argument to \x60" ++ a ++ "'")
      else if a = "-fprintf" then
        match as with
        | file :: text :: rest => do
            let ps ← formatOf (text.length + 1) text.toList []
            return (.format ps (some file), rest)
        | _ => .error ("missing argument to \x60" ++ a ++ "'")
      else
        match plain? a, valued? e a (as.headD ""), as with
        | some f, _, as => .ok (f, as)
        | none, some _, [] => .error ("missing argument to \x60" ++ a ++ "'")
        | none, some f, _ :: as => f.map fun f => (f, as)
        | none, none, _ =>
            if a.startsWith "-" then .error ("unknown predicate \x60" ++ a ++ "'")
            else .error ("paths must precede expression: \x60" ++ a ++ "'")

end

/-- **Reads a test from arguments.** -/
def parse (e : Setting) (args : List String) : Except String Finder :=
  if args.isEmpty then .ok (.always true)
  else do
    let (f, rest) ← readList e (6 * args.length + 6) args
    match rest with
    | [] => return f
    | ")" :: _ => throw "invalid expression; you have too many ')'"
    | a :: _ => throw ("invalid expression; you have used a binary operator '" ++ a
        ++ "' with nothing before it.")

/-- Whether a test has a part of a kind. -/
def hasPart (is : Finder → Bool) : Finder → Bool
  | no f => f.hasPart is
  | both a b => a.hasPart is || b.hasPart is
  | either a b => a.hasPart is || b.hasPart is
  | last a b => a.hasPart is || b.hasPart is
  | f => is f

/-- Whether a test does more than testing. -/
def acts (f : Finder) : Bool :=
  f.hasPart fun x => match x with
    | print _ _ => true
    | format _ _ => true
    | list => true
    | delete => true
    | run _ _ _ => true
    | gather _ _ => true
    | _ => false

def deletes (f : Finder) : Bool :=
  f.hasPart fun x => match x with
    | delete => true
    | _ => false

def files : Finder → List String
  | print _ (some file) => [file]
  | format _ (some file) => [file]
  | no f => f.files
  | both a b => a.files ++ b.files
  | either a b => a.files ++ b.files
  | last a b => a.files ++ b.files
  | _ => []

/-! ### Facts -/

structure Entry where
  stop : Stop
  place : Place
  node : Node
  facts : FileTree.Facts

def kindLetter (f : FileTree.Facts) : Char := if f.kind = '-' then 'f' else f.kind

def followedKind (t : FileTree) (cwd : Place) (path : String) : Char :=
  match t.stat cwd (Octets.unpack path) with
  | .ok (place, x) => kindLetter (t.factsOf place x)
  | .error (.os .linkLoop) => 'L'
  | .error _ => 'N'

/-- A part of a time.  Seconds have a fraction. -/
def timePart (time : Nat) (sub : Char) : String :=
  let fraction := "." ++ Instant.padded 10 (time % 1000 * 10000000)
  match sub with
  | '@' => toString (time / 1000) ++ fraction
  | 'S' => Dates.formatted time "%S" ++ fraction
  | 'T' => Dates.formatted time "%T" ++ fraction
  | 'X' => Dates.formatted time "%T" ++ fraction
  | '+' => Dates.formatted time "%F+%T" ++ fraction
  | 'c' => Dates.formatted time "%a %b %e %T" ++ fraction ++ Dates.formatted time " %Y"
  | c => (Dates.field? time c).getD ""

/-- The path of the directory that an entry is in. -/
def dirOf (path : String) : String :=
  let cs := path.toList.reverse.dropWhile (· = '/')
  let rest := cs.dropWhile (· ≠ '/')
  if rest.isEmpty then "." else String.ofList rest.tail.reverse

/-- The last name of a path, with its slashes if it has nothing else. -/
def lastName (path : String) : String :=
  match (path.splitOn "/").filter (· ≠ "") |>.getLast? with
  | some n => n
  | none => "/"

def factText (t : FileTree) (cwd : Place) (x : Entry) (letter sub : Char) : String :=
  let f := x.facts
  let path := x.stop.path
  match letter with
  | 'p' => path
  | 'f' => lastName path
  | 'h' => dirOf path
  | 'H' => x.stop.root
  | 'P' => String.ofList ((path.toList.drop x.stop.root.length).dropWhile (· = '/'))
  | 's' => toString f.size
  | 'd' => toString x.stop.depth
  | 'y' => String.singleton (kindLetter f)
  | 'Y' => String.singleton (if f.kind = 'l' then followedKind t cwd path else kindLetter f)
  | 'm' => String.ofList (Nat.toDigits 8 f.mode)
  | 'M' => String.singleton f.kind ++ FileTree.modeText f.mode
  | 'n' => toString f.links
  | 'l' => match x.node with
      | .link to' => Octets.pack to'
      | _ => ""
  | 'i' => toString f.number
  | 'b' => toString (2 * f.blocks)
  | 'k' => toString f.blocks
  | 'T' => timePart f.time sub
  | 't' => timePart f.time 'c'
  | 'a' => timePart f.time 'c'
  | 'c' => timePart f.time 'c'
  | 'u' => "root"
  | 'g' => "root"
  | 'U' => "0"
  | 'G' => "0"
  | _ => ""

def Piece.fill (t : FileTree) (cwd : Place) (x : Entry) : Piece → Bytes
  | .text b => b
  | .fact letter sub left zeros width most =>
      let s := factText t cwd x letter sub
      let s := match most with
        | some n => if ['d', 'm'].contains letter then s else String.ofList (s.toList.take n)
        | none => s
      let fill := List.replicate (width - s.length)
        (if zeros && ['d', 'm'].contains letter && !left then '0' else ' ')
      Octets.bytes (if left then s ++ String.ofList fill else String.ofList fill ++ s)

def listLine (now : Nat) (x : Entry) : String :=
  let f := x.facts
  let view := Dates.formatted f.time (if f.time ≤ now && now < f.time + Listing.halfYear then
    "%b %e %H:%M" else "%b %e  %Y")
  Listing.toRight 9 (toString f.number) ++ " " ++ Listing.toRight 6 (toString f.blocks) ++ " "
    ++ String.singleton f.kind ++ FileTree.modeText f.mode ++ " "
    ++ Listing.toRight 3 (toString f.links) ++ " " ++ Listing.toLeft 8 "root" ++ " "
    ++ Listing.toLeft 8 "root" ++ " " ++ Listing.toRight 8 (toString f.size) ++ " " ++ view ++ " "
    ++ String.join (x.stop.path.toList.map (Listing.escape ['\\', ' ', '\x22']))
    ++ (match x.node with
      | .link to' => " -> " ++ String.join
          ((Octets.pack to').toList.map (Listing.escape ['\\', ' ', '\x22']))
      | _ => "") ++ "\n"

/-! ### Testing -/

/-- What has come of a test so far. -/
structure Result where
  out : Bytes
  files : FileTree
  failures : List String
  /-- What has come of the acts that are carried out already. -/
  known : List Bool
  /-- What has come of all acts. -/
  outcomes : List Bool
  gathered : List (List String × Option String × List String)
  pruned : Bool
  stopped : Bool

/-- What a test says of an entry, or the program it has to run first. -/
inductive Verdict where
  | settled (value : Bool) (r : Result)
  | awaits (argv : List String) (there asks : Bool) (r : Result)

/-- Goes on once an act has been carried out: with what came of it before, or by doing it. -/
def Result.act (r : Result) (go : Result → Bool × Result) : Verdict :=
  match r.known with
  | b :: rest => .settled b { r with known := rest, outcomes := r.outcomes ++ [b] }
  | [] =>
      let (b, r) := go r
      .settled b { r with outcomes := r.outcomes ++ [b] }

/-- Deletes an entry. -/
def remove (cwd : Place) (x : Entry) (r : Result) : Bool × Result :=
  if x.stop.path = "." then (true, r)
  else
    let path := Octets.unpack x.stop.path
    let done := if x.node.isDir then r.files.removeDir cwd path else r.files.unlink cwd path
    match done with
    | .ok t => (true, { r with files := t })
    | .error e => (false, { r with
        failures := r.failures ++ ["cannot delete " ++ inQuotes x.stop.path ++ ": " ++ reason e] })

/-- Adds bytes to what is shown, or to a file. -/
def Result.display (r : Result) (cwd : Place) (file : Option String) (b : Bytes) : Verdict :=
  match file with
  | none => .settled true { r with out := r.out ++ b }
  | some file => r.act fun r =>
      let done : Except IoError FileTree := do
        let (h, t) ← r.files.openAppend cwd (Octets.unpack file)
        return (← (t.write h b).mapError .os).1
      (true, { r with files := done.toOption.getD r.files })

/-- The words of a command with a path in the place of its mark. -/
def withPath (argv : List String) (path : String) : List String :=
  argv.map fun a => a.replace "\x7b\x7d" path

/-- The path of an entry, seen from the directory it is in. -/
def herePath (path : String) : String := "./" ++ lastName path

/-- Whether a test holds that does nothing. -/
def holds (t : FileTree) (cwd : Place) (now : Nat) (x : Entry) : Finder → Bool
  | always b => b
  | name p fold =>
      let last := (lastName x.stop.path).toList
      Script.Pattern.fits p (if fold then last.map Char.toLower else last)
  | Finder.path p fold =>
      let cs := x.stop.path.toList
      Script.Pattern.fits p (if fold then cs.map Char.toLower else cs)
  | target p fold =>
      match x.node with
      | .link s =>
          let cs := (Octets.pack s).toList
          Script.Pattern.fits p (if fold then cs.map Char.toLower else cs)
      | _ => false
  | expression r fold =>
      let s : Regular.Subject := ⟨x.stop.path.toList.toArray, fold⟩
      (r.ends s ⟨0, []⟩).any fun e => e.place = s.text.size
  | kind letters followed =>
      letters.contains (if followed && x.facts.kind = 'l' then
        (match followedKind t cwd x.stop.path with
          | 'N' => 'l'
          | c => c)
        else kindLetter x.facts)
  | empty =>
      match x.node with
      | .file _ => x.facts.size = 0
      | .dir es => es.isEmpty
      | _ => false
  | size unit c => c.holds ((x.facts.size + unit - 1) / unit)
  | newer time => time < x.facts.time
  | age unit up c =>
      let old := now - x.facts.time
      c.holds (if up then (old + unit - 1) / unit else old / unit)
  | mode how bits =>
      let m := x.facts.mode
      if how = '-' then m &&& bits = bits
      else if how = '/' then bits = 0 || m &&& bits ≠ 0 else m = bits
  | links c => c.holds x.facts.links
  | number c => c.holds x.facts.number
  | same n => x.facts.number = n
  | runnable => Right.pass.isIn x.facts.mode
  | _ => true

/-- **Tests an entry.** -/
def check (cwd : Place) (now : Nat) (x : Entry) : Finder → Result → Verdict
  | print ending file, r => r.display cwd file (Octets.bytes x.stop.path ++ [ending])
  | format ps file, r => r.display cwd file (ps.flatMap (Piece.fill r.files cwd x))
  | list, r => .settled true { r with out := r.out ++ Octets.bytes (listLine now x) }
  | delete, r => r.act (remove cwd x)
  | prune, r => .settled true { r with pruned := true }
  | quit, r => .settled true { r with stopped := true }
  | run argv there asks, r =>
      match r.known with
      | b :: rest => .settled b { r with known := rest, outcomes := r.outcomes ++ [b] }
      | [] =>
          .awaits (withPath argv (if there then herePath x.stop.path else x.stop.path)) there asks r
  | gather argv there, r =>
      let dir := if there then some (dirOf x.stop.path) else none
      let path := if there then herePath x.stop.path else x.stop.path
      let fits (g : List String × Option String × List String) : Bool :=
        g.1 = argv && g.2.1 = dir
      let gathered := if r.gathered.any fits then
          r.gathered.map fun g => if fits g then (g.1, g.2.1, g.2.2 ++ [path]) else g
        else r.gathered ++ [(argv, dir, [path])]
      .settled true { r with gathered := gathered }
  | no f, r =>
      match check cwd now x f r with
      | .settled b r => .settled (!b) r
      | v => v
  | both f g, r =>
      match check cwd now x f r with
      | .settled true r => if r.stopped then .settled true r else check cwd now x g r
      | v => v
  | either f g, r =>
      match check cwd now x f r with
      | .settled false r => if r.stopped then .settled false r else check cwd now x g r
      | v => v
  | last f g, r =>
      match check cwd now x f r with
      | .settled _ r => if r.stopped then .settled true r else check cwd now x g r
      | v => v
  | f, r => .settled (holds r.files cwd now x f) r

end Finder

/-! ### Walking -/

namespace Walk

/-- What a walk finds at a path. -/
def look (x : Walk) (t : FileTree) (cwd : Place) (s : Stop) : Except IoError (Place × Node) :=
  let followed := x.follow = 'L' || x.follow = 'H' && s.depth = 0
  match entryAt? t cwd s.path, followed with
  | some (place, .link target), true =>
      match t.stat cwd (Octets.unpack s.path) with
      | .ok found => .ok found
      | .error _ => .ok (place, .link target)
  | some found, _ => .ok found
  | none, _ => .error (entryError t cwd s.path)

/-- The entries of a directory that a walk has come to. -/
def below (x : Walk) (s : Stop) (place : Place) : Node → List Stop
  | .dir es =>
      if x.most.any (· ≤ s.depth) then []
      else es.map fun e =>
        ⟨Path.join s.path (Octets.pack e.1), s.root, s.depth + 1, place :: s.above, false⟩
  | _ => []

/-- Leaves the first entry behind, with what has come of its test. -/
def passed (x : Walk) (r : Finder.Result) (next : List Stop) : Walk :=
  { x with
    ahead := if r.stopped then [] else next
    out := x.out ++ r.out.drop x.shown
    outcomes := []
    shown := 0
    gathered := r.gathered
    status := if r.failures.isEmpty then x.status else 1 }

/-- Shows what has been gathered to be shown. -/
def flush (x : Walk) (w : Host) (p : Proc) : Walk × Host :=
  ({ x with out := [] }, w.emitTo p 1 x.out)

/-- Starts a program, and waits for it.  If it cannot be started, that counts as a failure. -/
def launch (x : Walk) (w : Host) (p : Proc) (argv : List String) (dir : Option String)
    (input : Stream) (counts : Bool) : Host :=
  let cwd := (dir.bind fun d => (w.files.stat p.cwd (Octets.unpack d)).toOption).map Prod.fst
  let q := { p with cwd := cwd.getD p.cwd }
  match lookUp w q q.shell argv with
  | .error e =>
      let w := grumble w p (inQuotes (argv.headD "") ++ ": " ++ e.text)
      w.setProc (p.push [.walk (if counts then { x with status := 1 }
        else { x with outcomes := x.outcomes ++ [false] })])
  | .ok found =>
      let (id, w) := startChild w q input found
      w.setProc (p.push [.walk { x with child := some (id, counts) }])

/-- The end of a walk: what has been gathered is run, and then the utility ends. -/
def close (x : Walk) (w : Host) (p : Proc) : Host :=
  match x.gathered with
  | (argv, dir, paths) :: rest =>
      let (x, w) := x.flush w p
      { x with gathered := rest }.launch w p (argv ++ paths) dir
        ((p.stream? 0).getD .nothing) true
  | [] => w.write (p.withStatus x.status) x.out

/-- Comes back from a program that has ended. -/
def resume (x : Walk) (w : Host) (p : Proc) (id : Nat) (counts : Bool) : Host :=
  let ended := ((w.proc? id).bind Proc.ended).getD 0
  let w := w.forget id
  let x := { x with child := none }
  w.setProc (p.push [.walk (if counts then { x with status := if ended = 0 then x.status else 1 }
    else { x with outcomes := x.outcomes ++ [decide (ended = 0)] })])

/-- Tests the first entry. -/
def visit (x : Walk) (w : Host) (p : Proc) (s : Stop) (rest : List Stop) : Host :=
  let onward (x : Walk) (w : Host) : Host := w.setProc (p.push [.walk x])
  match x.look w.files p.cwd s with
  | .error e =>
      let (x, w) := x.flush w p
      onward { x with ahead := rest, status := 1, outcomes := [], shown := 0 }
        (grumble w p (inQuotes s.path ++ ": " ++ reason e))
  | .ok (place, node) =>
      let isLoop := node.isDir && s.above.contains place
      let opens := node.isDir && !x.most.any (· ≤ s.depth)
      let refused := opens && !w.files.permits .read place node
      let refusal := inQuotes s.path ++ ": " ++ Errno.denied.text
      if isLoop then
        let (x, w) := x.flush w p
        onward { x with ahead := rest, status := 1 }
          (grumble w p ("File system loop detected; " ++ inQuotes s.path
            ++ " is part of the same file system loop as "
            ++ inQuotes (loopStart s place) ++ "."))
      else if x.deepFirst && !s.ready then
        let ready := { s with ready := true } :: rest
        if refused then
          let (x, w) := x.flush w p
          onward { x with ahead := ready, status := 1 } (grumble w p refusal)
        else onward { x with ahead := x.below s place node ++ ready } w
      else
        let next (pruned : Bool) : List Stop :=
          if x.deepFirst || pruned || refused then rest else x.below s place node ++ rest
        let leave (x : Walk) (pruned : Bool) (w : Host) : Host :=
          if refused && !x.deepFirst && !pruned then
            let (x, w) := x.flush w p
            onward { x with status := 1 } (grumble w p refusal)
          else onward x w
        if s.depth < x.least then leave { x with ahead := next false } false w
        else
          let entry : Finder.Entry := ⟨s, place, node, w.files.factsOf place node⟩
          let start : Finder.Result :=
            ⟨[], w.files, [], x.outcomes, [], x.gathered, false, false⟩
          let shown (r : Finder.Result) : Host :=
            r.failures.foldl (fun w text => grumble w p text) (w.withFiles r.files)
          match x.test.check p.cwd x.time entry start with
          | .settled _ r => leave (x.passed r (next r.pruned)) (r.pruned || r.stopped) (shown r)
          | .awaits argv there asks r =>
              let x := { x with
                out := x.out ++ r.out.drop x.shown
                shown := r.out.length
                outcomes := r.outcomes
                status := if r.failures.isEmpty then x.status else 1 }
              let (x, w) := x.flush (shown r) p
              let dir := if there then some (Finder.dirOf s.path) else none
              if asks then
                let stream := (p.stream? 0).getD .nothing
                let w := Host.emitTo w p 2 (Octets.bytes ("< " ++ argv.headD "" ++ " ... " ++ s.path
                  ++ " > ? "))
                let answer := (Host.peek w stream).takeWhile (· ≠ 10)
                let w := Host.consume w stream (answer.length + 1)
                if Progress.isYes answer then x.launch w p argv dir .nothing false
                else onward { x with outcomes := x.outcomes ++ [false] } w
              else x.launch w p argv dir ((p.stream? 0).getD .nothing) false
where
  /-- The path at which a loop begins. -/
  loopStart (s : Stop) (place : Place) : String :=
    let steps := (s.above.takeWhile (· ≠ place)).length + 1
    (List.range steps).foldl (fun path _ => Finder.dirOf path) s.path

/-- **Goes on with a walk.** -/
def goOn (x : Walk) (w : Host) (p : Proc) : Host :=
  match x.child, x.ahead with
  | some (id, counts), _ => x.resume w p id counts
  | none, s :: rest => x.visit w p s rest
  | none, [] => x.close w p

end Walk

namespace Utility

/-- The number that stands behind an option. -/
def depthOf (name : String) : List String → Except String (Option Nat)
  | a :: v :: as =>
      if a = name then
        match Builtin.count? v with
        | some n => .ok (some n)
        | none =>
            .error ("Expected a positive decimal integer argument to " ++ name ++ ", but got '"
              ++ v ++ "'")
      else depthOf name (v :: as)
  | _ => .ok none

/-- The kind of regular expressions that is asked for. -/
def dialectOf : List String → Except String String
  | "-regextype" :: v :: _ =>
      if (Finder.dialects.lookup v).isSome then .ok v
      else
        .error ("Unknown regular expression type " ++ inQuotes v ++ "; valid types are "
          ++ ", ".intercalate (Finder.dialects.map fun d => inQuotes d.1) ++ ".")
  | _ :: as => dialectOf as
  | [] => .ok "emacs"

def patternTests : List String :=
  ["-name", "-iname", "-path", "-ipath", "-wholename", "-iwholename", "-lname", "-ilname"]

/-- **Finds files.** -/
def find (w : Host) (p : Proc) (args : List String) : Host :=
  let links := args.takeWhile fun a => ["-H", "-L", "-P"].contains a
  let args := args.drop links.length
  let isPath (a : String) : Bool :=
    !(a.startsWith "-" && 1 < a.length) && a ≠ "(" && a ≠ "!"
  let roots := args.takeWhile isPath
  let tests := args.drop roots.length
  let plan := do
    let dialect ← dialectOf tests
    let most ← depthOf "-maxdepth" tests
    let least ← depthOf "-mindepth" tests
    return (← Finder.parse ⟨w.files, p.cwd, w.clock, dialect⟩ tests, most, least)
  match plan with
  | .error text =>
      let stray := "paths must precede expression: \x60"
      let w := grumble w p text
      let word := String.ofList ((text.toList.drop stray.length).dropLast)
      let before := (tests.takeWhile (· ≠ word)).reverse
      let guess := before.drop 1 |>.head?
      let w := match text.startsWith stray && w.files.isPresent p.cwd (Octets.unpack word),
          guess with
        | true, some a =>
            if patternTests.contains a then
              grumble w p ("possible unquoted pattern after predicate \x60" ++ a ++ "'?")
            else w
        | _, _ => w
      Host.settle w p 1
  | .ok (f, most, least) =>
      let follow := if tests.contains "-follow" then 'L'
        else ((links.getLast?.bind fun a => a.toList.getLast?).getD 'P')
      let starts := (if roots.isEmpty then ["."] else roots).map fun a =>
        (⟨a, a, 0, [], false⟩ : Stop)
      let files := f.files.foldl (fun t path =>
        ((FileTree.create t p.cwd (Octets.unpack path)).toOption.map Prod.snd).getD t) w.files
      Host.setProc (w.withFiles files) ((p.withStatus 0).push [.walk {
        test := if f.acts then f else .both f (.print 10 none)
        follow := follow
        most := most
        least := least.getD 0
        deepFirst := f.deletes || tests.contains "-depth" || tests.contains "-d"
        time := w.clock
        ahead := starts
        out := []
        outcomes := []
        shown := 0
        child := none
        gathered := []
        status := 0 }])

def findAsks (args : List String) : Bool := args.any fun a => a = "-ok" || a = "-okdir"

end Utility

end BatchRunner
