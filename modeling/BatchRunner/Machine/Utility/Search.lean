/-
**Looking for lines.**

A utility looks in files for the lines that expressions fit, and shows them, or counts them, or says
which files hold some.

Main definitions:

* `Utility.Quest` — what is looked for in a line;
* `Utility.Row`, `Utility.rows` — a line of a file, and whether it is shown;
* `Utility.search` — the utility.
-/
import BatchRunner.Machine.Utility.Text
import BatchRunner.Text.Ordered

set_option autoImplicit false

namespace BatchRunner.Utility

/-- What is looked for in a line. -/
structure Quest where
  expressions : List Regular
  /-- Whether of the ways to fit a part the first one counts, and not the longest part. -/
  ordered : Bool
  /-- Whether capitals and small letters are alike. -/
  fold : Bool
  /-- Whether it has to be the whole line. -/
  whole : Bool
  /-- Whether it has to be made of whole words. -/
  words : Bool
  /-- Whether the other lines are wanted. -/
  inverted : Bool

namespace Quest

def subject (q : Quest) (l : Bytes) : Regular.Subject :=
  ⟨(l.map Octets.char).toArray, q.fold⟩

/-- Where the wanted part begins and ends that is found at a place. -/
def partAt? (q : Quest) (s : Regular.Subject) (n : Nat) : Option (Nat × Nat) :=
  let trails := (q.expressions.flatMap fun r => r.ends s ⟨n, []⟩).filter fun t =>
    (!q.whole || n = 0 && t.place = s.text.size)
      && (!q.words || !s.wordBefore n && !s.wordAt t.place)
  let best := if q.ordered then trails.head? else Regular.furthest trails
  best.map fun t => (((t.groups.find? fun g => g.1 = 0).map fun g => g.2.1).getD n, t.place)

/-- The first wanted part that begins at one of the places from a given one on. -/
def partFrom? (q : Quest) (s : Regular.Subject) : Nat → Nat → Option (Nat × Nat)
  | 0, _ => none
  | count + 1, n =>
      match q.partAt? s n with
      | some part => some part
      | none => partFrom? q s count (n + 1)

/-- Whether a line has a wanted part. -/
def fits (q : Quest) (l : Bytes) : Bool :=
  let s := q.subject l
  (q.partFrom? s (s.text.size + 1) 0).isSome

def selects (q : Quest) (l : Bytes) : Bool := q.fits l != q.inverted

/-- The wanted parts of a line that are not empty. -/
def parts (q : Quest) (l : Bytes) : List (Nat × Bytes) :=
  let s := q.subject l
  let rec go : Nat → Nat → List (Nat × Bytes)
    | 0, _ => []
    | fuel + 1, n =>
        match q.partFrom? s (s.text.size + 1 - n) n with
        | none => []
        | some (a, b) =>
            if a = b then go fuel (b + 1) else (a, (l.take b).drop a) :: go fuel b
  go (l.length + 1) 0

end Quest

/-- A line of a file. -/
structure Row where
  number : Nat
  offset : Nat
  text : Bytes
  selected : Bool

/-- The lines of a file.  Behind as many selected ones as are wanted, none are selected. -/
def rows (q : Quest) : Option Nat → Nat → Nat → List Bytes → List Row
  | _, _, _, [] => []
  | most?, n, offset, l :: ls =>
      let selected := most? ≠ some 0 && q.selects l
      ⟨n, offset, l, selected⟩
        :: rows q (if selected then most?.map (· - 1) else most?) (n + 1) (offset + l.length + 1) ls

/-- The lines that are shown: those that are selected, and those around them. -/
def visible (before after : Nat) (rs : List Row) : List Row :=
  let rec later : Nat → List Row → List (Row × Bool)
    | _, [] => []
    | near, r :: rs =>
        if r.selected then (r, true) :: later after rs
        else (r, near ≠ 0) :: later (near - 1) rs
  let rec earlier : Nat → List (Row × Bool) → List (Row × Bool)
    | _, [] => []
    | near, (r, shown) :: rs =>
        if r.selected then (r, true) :: earlier before rs
        else (r, shown || near ≠ 0) :: earlier (near - 1) rs
  ((earlier 0 (later 0 rs).reverse).reverse.filter Prod.snd).map Prod.fst

/-- How what is found is shown. -/
structure Finding where
  quest : Quest
  options : Given
  named : Bool
  before : Nat
  after : Nat
  /-- Whether lines that are not next to each other are kept apart. -/
  apart : Bool
  most? : Option Nat
  /-- Whether what is found stands out in colours. -/
  coloured : Bool
  /-- What standard input is called. -/
  label : String

namespace Finding

/-- Whether nothing is shown but whether there is something. -/
def quiet (f : Finding) : Bool := f.options.has 'q'

/-- Whether directories are searched. -/
def deep (f : Finding) : Bool :=
  f.options.has 'r' || f.options.has 'R' || f.options.value? 'd' = some "recurse"

/-- Whether only the names of files are shown. -/
def listing (f : Finding) : Bool := f.options.has 'l' || f.options.has 'L'

def paint (f : Finding) (colour text : String) : String :=
  if f.coloured && text ≠ "" then
    "\x1b[" ++ colour ++ "m\x1b[K" ++ text ++ "\x1b[m\x1b[K"
  else text

def ending (f : Finding) : Bytes := if f.options.has 'z' then [0] else [10]

/-- What separates the parts before a line from each other and from the line. -/
def mark (f : Finding) (r : Row) : String := f.paint "36" (if r.selected then ":" else "-")

def heading (f : Finding) (name : String) (r : Row) (offset : Nat) : Bytes :=
  let sep := f.mark r
  let nothing := if f.options.has 'Z' then "\x00" else sep
  let parts := (if f.named then f.paint "35" name ++ nothing else "")
    ++ (if f.options.has 'n' then f.paint "32" (toString r.number) ++ sep else "")
    ++ (if f.options.has 'b' then f.paint "32" (toString offset) ++ sep else "")
  Octets.bytes (if f.options.has 'T' && parts ≠ "" then parts ++ "\t" else parts)

/-- A line in which what is found stands out. -/
def highlighted (f : Finding) (r : Row) : Bytes :=
  if !f.coloured || !r.selected || f.quest.inverted then r.text
  else
    let (at', out) := (f.quest.parts r.text).foldl (fun (at', out) (a, part) =>
      (a + part.length, out ++ (r.text.take a).drop at'
        ++ Octets.bytes (f.paint "01;31" (Octets.ofBytes part)))) (0, ([] : Bytes))
    out ++ r.text.drop at'

def line (f : Finding) (name : String) (r : Row) : Bytes :=
  if f.options.has 'o' then
    if r.selected && !f.quest.inverted then
      (f.quest.parts r.text).flatMap fun (a, part) =>
        f.heading name r (r.offset + a)
          ++ Octets.bytes (f.paint "01;31" (Octets.ofBytes part)) ++ f.ending
    else []
  else f.heading name r r.offset ++ f.highlighted r ++ f.ending

/-- Lines as they are shown, with marks where lines are left out. -/
def lines (f : Finding) (name : String) : Bool → Nat → List Row → Bytes
  | _, _, [] => []
  | used, last, r :: rs =>
      (if f.apart && used && r.number ≠ last + 1 then
        Octets.bytes (f.paint "36" "--" ++ "\n") else [])
        ++ f.line name r ++ lines f name true r.number rs

/-- Whether the lines of a file are not shown, because they are no text. -/
def isBinary (f : Finding) (b : Bytes) : Bool :=
  !f.options.has 'z' && b.contains 0 && !f.options.has 'a' && !f.quiet && !f.listing
    && !f.options.has 'c'

/-- What is shown of a file, and whether a line of it is selected. -/
def ofFile (f : Finding) (used : Bool) (name : String) (b : Bytes) : Bytes × Bool :=
  let rs := rows f.quest f.most? 1 0 (records (f.options.has 'z') b)
  let ignored := f.options.has 'I' && b.contains 0 && !f.options.has 'z'
  let count := if ignored then 0 else (rs.filter Row.selected).length
  let nameLine := Octets.bytes (f.paint "35" name ++ (if f.options.has 'Z' then "\x00" else "\n"))
  let out := if f.quiet then []
    else if f.options.has 'L' then (if count = 0 then nameLine else [])
    else if f.options.has 'l' then (if count = 0 then [] else nameLine)
    else if f.options.has 'c' then
      Octets.bytes ((if f.named then f.paint "35" name
        ++ (if f.options.has 'Z' then "\x00" else f.paint "36" ":") else "")
          ++ toString count ++ "\n")
    else if f.isBinary b || ignored then []
    else f.lines name (used && f.apart) 0 (visible f.before f.after rs)
  (out, count ≠ 0)

end Finding

def searchOptions : List Opt :=
  [⟨'E', "extended-regexp", .nothing⟩, ⟨'F', "fixed-strings", .nothing⟩,
    ⟨'G', "basic-regexp", .nothing⟩, ⟨'P', "perl-regexp", .nothing⟩, ⟨'e', "regexp", .value⟩,
    ⟨'f', "file", .value⟩, ⟨'i', "ignore-case", .nothing⟩, ⟨'!', "no-ignore-case", .nothing⟩,
    ⟨'y', "", .nothing⟩, ⟨'w', "word-regexp", .nothing⟩, ⟨'x', "line-regexp", .nothing⟩,
    ⟨'v', "invert-match", .nothing⟩, ⟨'m', "max-count", .value⟩, ⟨'b', "byte-offset", .nothing⟩,
    ⟨'n', "line-number", .nothing⟩, ⟨'H', "with-filename", .nothing⟩,
    ⟨'h', "no-filename", .nothing⟩, ⟨'o', "only-matching", .nothing⟩, ⟨'q', "quiet", .nothing⟩,
    ⟨'q', "silent", .nothing⟩, ⟨'a', "text", .nothing⟩, ⟨'r', "recursive", .nothing⟩,
    ⟨'R', "dereference-recursive", .nothing⟩, ⟨'L', "files-without-match", .nothing⟩,
    ⟨'l', "files-with-matches", .nothing⟩, ⟨'c', "count", .nothing⟩, ⟨'Z', "null", .nothing⟩,
    ⟨'z', "null-data", .nothing⟩, ⟨'s', "no-messages", .nothing⟩, ⟨'T', "initial-tab", .nothing⟩,
    ⟨'B', "before-context", .value⟩, ⟨'A', "after-context", .value⟩, ⟨'C', "context", .value⟩,
    ⟨'d', "directories", .value⟩, ⟨'D', "devices", .value⟩, ⟨'I', "", .nothing⟩,
    ⟨'%', "color", .maybe⟩, ⟨'%', "colour", .maybe⟩, ⟨'+', "include", .value⟩,
    ⟨'-', "exclude", .value⟩, ⟨'/', "exclude-dir", .value⟩, ⟨'@', "label", .value⟩,
    ⟨'#', "binary-files", .value⟩, ⟨'~', "line-buffered", .nothing⟩] ++ flags "Uu"

/-- Arguments in which numbers that stand for options are written as such. -/
def withContext (args : List String) : List String :=
  let options := args.takeWhile fun a => a ≠ "--"
  options.map (fun a =>
    match a.toList with
    | '-' :: c :: cs =>
        if (c :: cs).all Char.isDigit then "-C" ++ String.ofList (c :: cs) else a
    | _ => a) ++ args.drop options.length

def searchMisuse (w : Host) (p : Proc) (text? : Option String) : Host :=
  let w := match text? with
    | some text => grumble w p text
    | none => w
  ((w.grumble p ("Usage: " ++ p.shell.name ++ " [OPTION]... PATTERNS [FILE]...")).grumble p
    ("Try '" ++ p.shell.name ++ " --help' for more information.")).settle p 2

def textLines (s : String) : List String := s.splitOn "\n"

/-- The expression that fits a text and nothing else. -/
def literally (s : String) : Regular :=
  s.toList.foldr (fun c r => .seq (.ofChar c) r) .empty

def namePattern (pattern name : String) : Bool :=
  Script.Pattern.fits (Script.Pattern.ofMarked (pattern.toList.map fun c => (c, false))) name.toList

/-- Whether files of a name are looked at. -/
def isSearched (g : Given) (name : String) : Bool :=
  let given (c : Char) : List String := (g.options.filter fun o => o.1 = c).map Prod.snd
  let base := (name.splitOn "/").getLastD ""
  ((given '+').isEmpty || (given '+').any fun x => namePattern x base)
    && !(given '-').any fun x => namePattern x base

/-- Whether directories on the way to a file are looked at. -/
def isEntered (g : Given) (path : String) : Bool :=
  let given := (g.options.filter fun o => o.1 = '/').map Prod.snd
  !((path.splitOn "/").dropLast.any fun d => given.any fun x => namePattern x d)

/-- The files below a directory, and the directories that cannot be read. -/
def filesBelow (g : Given) (t : FileTree) (cwd : Place) (path : String) : List String :=
  match t.stat cwd (Octets.unpack path) with
  | .ok (place, x) =>
      if !t.permits .read place x then [path]
      else
        let closed := (Node.listing x).filter fun e =>
          e.2.isDir && !t.permits .read (place ++ Path.pieces e.1) e.2
        (Node.listing x).filterMap fun e =>
          let name := Octets.pack e.1
          if closed.any fun d => (d.1 ++ "/").isPrefixOf e.1 then none
          else
            match e.2 with
            | .file _ =>
                if isSearched g name && isEntered g name then some (Path.join path name) else none
            | .dir _ =>
                if closed.any fun d => d.1 = e.1 then some (Path.join path name) else none
            | _ => none
  | .error _ => []

/-! ### Doubtful expressions -/

/-- What stands behind a bracket at the head of an expression, up to the closing one. -/
def behindBracket (cs : List Char) : List Char :=
  let cs := if cs.head? = some '^' then cs.drop 1 else cs
  let cs := if cs.head? = some ']' then cs.drop 1 else cs
  (cs.dropWhile (· ≠ ']')).drop 1

/-- **What is doubtful about an expression**: backslashes before characters that need none, and
repetitions of nothing. -/
def doubts (extended : Bool) : Nat → Bool → List Char → List String
  | 0, _, _ => []
  | _, _, [] => []
  | fuel + 1, atStart, '\\' :: c :: cs =>
      let named := "wWsSbB<>\x60\x27123456789".toList.contains c
      let plain := ".[]\\*^$\x7d".toList.contains c
        || (if extended then "()|\x7b+?" else "()|\x7b+?").toList.contains c
      let warning := if named || plain then []
        else if c.isWhitespace then ["stray \\ before white space"]
        else ["stray \\ before " ++ String.singleton c]
      let still := "bB<>\x60\x27".toList.contains c && atStart
        || !extended && ['(', '|'].contains c
      warning ++ doubts extended fuel still cs
  | fuel + 1, _, '[' :: cs => doubts extended fuel false (behindBracket cs)
  | fuel + 1, atStart, c :: cs =>
      let warning := if extended && atStart then
          (if ['*', '+', '?'].contains c then [String.singleton c ++ " at start of expression"]
          else if c = '\x7b' && (Regular.bounds true cs).isSome then
            ["\x7b...\x7d at start of expression"] else [])
        else []
      let still := extended && ['(', '|'].contains c || atStart && ['^', '$'].contains c
      warning ++ doubts extended fuel still cs

/-- What is looked for, and what remains of the arguments. -/
def questOf (w : Host) (p : Proc) (g : Given) : Except String (List String × List String × Host) :=
  match g.options.filter fun o => o.1 = 'e' || o.1 = 'f' with
  | [] =>
      match g.operands with
      | text :: rest => .ok (textLines text, rest, w)
      | [] => .error ""
  | os => do
      let (texts, w) ← os.foldlM (fun (texts, w) o =>
        if o.1 = 'e' then .ok (texts ++ textLines o.2, w)
        else
          match contents w p o.2 with
          | .ok (b, w) => .ok (texts ++ (Lines.bodies b).map Octets.ofBytes, w)
          | .error e => .error (plainComplaint o.2 e)) (([] : List String), w)
      return (texts, g.operands, w)

/-- Whether a file is also where a process writes. -/
def isOutput (w : Host) (p : Proc) (path : String) : Bool :=
  let id? := if isInput path then (p.stream? 0).bind target? else
    match w.files.found? p.cwd (Octets.unpack path) with
    | some (.file id) => some id
    | _ => none
  match id?, (p.stream? 1).bind target? with
  | some a, some b => a = b
  | _, _ => false
where
  /-- The file that a stream leads to. -/
  target? : Stream → Option Nat
    | .file n =>
        match w.outer.handles[n]? with
        | some ⟨⟨.file id, _, _⟩, _⟩ => some id
        | _ => none
    | _ => none

/-- Looks in files one after the other, and shows what is found. -/
def searchFiles (f : Finding) (p : Proc) :
    List String → List (Except String Bytes) → Bool → Bool → Host → Host
  | [], out, found, failed, w =>
      showInTurn (p.withStatus (if failed then 2 else if found then 0 else 1)) out.reverse w
  | a :: as, out, found, failed, w =>
      let name := if isInput a then f.label else a
      let isDir := !isInput a && match w.files.found? p.cwd (Octets.unpack a) with
        | some (.dir _) => true
        | _ => false
      let risky := !f.quiet && !f.listing && !f.options.has 'c' && f.most?.all (1 < ·)
      let silent := f.options.has 's'
      if isDir then
        if f.options.value? 'd' = some "skip" then searchFiles f p as out found failed w
        else
          let why := if f.deep then Errno.denied else .isDir
          searchFiles f p as (if silent then out else .error (a ++ ": " ++ why.text) :: out)
            found true w
      else if risky && isOutput w p a then
        searchFiles f p as (.error (name ++ ": input file is also the output") :: out) found true w
      else
        match contents w p a with
        | .error e =>
            searchFiles f p as (if silent then out else .error (name ++ ": " ++ reason e) :: out)
              found true w
        | .ok (b, w) =>
            let used := out.any fun x => x.toOption.any fun b => !b.isEmpty
            let (more, some') := f.ofFile used name b
            let binary := if some' && f.isBinary b then [.error (name ++ ": binary file matches")]
              else []
            if some' && f.quiet then w.settle p 0
            else searchFiles f p as (binary ++ .ok more :: out) (found || some') failed w

def numberOf? (g : Given) (letters : List Char) : Except String (Option Nat) :=
  match g.lastOf? letters with
  | none => .ok none
  | some (_, v) =>
      match Builtin.count? v with
      | some n => .ok (some n)
      | none => .error v

def expressionOf (kind : Option Char) (s : String) : Except String Regular :=
  if kind = some 'F' then .ok (literally s)
  else if kind = some 'P' then Regular.Ordered.parse s
  else Regular.parse (kind = some 'E') s

def doubtsOf (kind : Option Char) (texts : List String) : List String :=
  if kind = some 'F' || kind = some 'P' then []
  else texts.flatMap fun s => doubts (kind = some 'E') (s.length + 1) true s.toList

/-- How a search is to be done, and in which files. -/
def findingOf (w : Host) (p : Proc) (g : Given) :
    Except String (Finding × List String × Host) := do
  let context (letters : List Char) : Except String (Option Nat) :=
    match numberOf? g letters with
    | .ok n => .ok n
    | .error v => .error (v ++ ": invalid context length argument")
  let before ← context ['B', 'C']
  let after ← context ['A', 'C']
  let most? ← match numberOf? g ['m'] with
    | .ok n => .ok n
    | .error v => if v.startsWith "-" then .ok none else .error "invalid max count"
  let (texts, files, w) ← questOf w p g
  let kind := (g.lastOf? ['E', 'F', 'G', 'P']).map Prod.fst
  if g.has 'P' && (g.has 'E' || g.has 'F' || g.has 'G') then throw "conflicting matchers specified"
  let expressions ← texts.mapM (expressionOf kind)
  let deep := g.has 'r' || g.has 'R' || g.value? 'd' = some "recurse"
  let isDir (a : String) : Bool := match w.files.found? p.cwd (Octets.unpack a) with
    | some (.dir _) => true
    | _ => false
  let named := match g.lastOf? ['H', 'h'] with
    | some (c, _) => c = 'H'
    | none => 1 < files.length || deep && (files.isEmpty || files.any isDir)
  let files := if !deep then (if files.isEmpty then ["-"] else files)
    else if files.isEmpty then
      (filesBelow g w.files p.cwd ".").map fun a => String.ofList (a.toList.drop 2)
    else files.flatMap fun a => if isDir a then filesBelow g w.files p.cwd a else [a]
  let files := files.filter fun a => isInput a || isDir a || isSearched g a
  let quest : Quest := ⟨expressions, kind = some 'P',
    (g.lastOf? ['i', 'y', '!']).any fun o => o.1 ≠ '!', g.has 'x', g.has 'w' && !g.has 'x',
    g.has 'v'⟩
  let coloured := g.value? '%' = some "always"
  return (⟨quest, g, named, before.getD 0, after.getD 0, before.isSome || after.isSome, most?,
    coloured, (g.value? '@').getD "(standard input)"⟩, files,
    (doubtsOf kind texts).foldl (fun w text => grumble w p ("warning: " ++ text)) w)

/-- **Looks for lines.** -/
def search (w : Host) (p : Proc) (args : List String) : Host :=
  match parse searchOptions true (withContext args) with
  | .error text => searchMisuse w p (some text)
  | .ok g =>
      match findingOf w p g with
      | .error text => if text = "" then searchMisuse w p none else (grumble w p text).settle p 2
      | .ok (f, files, w) =>
          if f.most? = some 0 then w.settle p 1 else searchFiles f p files [] false false w

def searchReads (args : List String) : Bool :=
  match parse searchOptions true (withContext args) with
  | .error _ => false
  | .ok g =>
      let given := g.options.any fun o => o.1 = 'e' || o.1 = 'f'
      let files := if given then g.operands else g.operands.tail
      (files.isEmpty && !g.has 'r' && !g.has 'R' && (given || !g.operands.isEmpty))
        || files.any isInput || g.options.any fun o => o.1 = 'f' && isInput o.2

/-- Whether a search of standard input has all it needs in what it holds so far. -/
def searchDone (args : List String) (b : Bytes) : Bool :=
  match parse searchOptions true (withContext args) with
  | .error _ => false
  | .ok g =>
      let texts := match (g.options.filter fun o => o.1 = 'e').map Prod.snd with
        | [] => g.operands.take 1
        | es => es
      let kind := (g.lastOf? ['E', 'F', 'G', 'P']).map Prod.fst
      let most := if g.has 'q' then 1 else ((g.value? 'm').bind Builtin.count?).getD 0
      let parsed := (texts.flatMap textLines).filterMap fun s => (expressionOf kind s).toOption
      let quest : Quest := ⟨parsed, kind = some 'P', g.has 'i', g.has 'x',
        g.has 'w' && !g.has 'x', g.has 'v'⟩
      most ≠ 0 && most ≤ ((Lines.bodies b).filter quest.selects).length

end BatchRunner.Utility
