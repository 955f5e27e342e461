/-
**Listing files.**

Main definitions:

* `Listing.View` — what is listed, in which order, and how it is shown;
* `Listing.Item` — an entry that is listed;
* `Listing.render` — how items are shown together;
* `Utility.list` — the utility.
-/
import BatchRunner.Instant
import BatchRunner.Machine.Utility.Columns
import BatchRunner.Machine.Utility.Order
import BatchRunner.Machine.Utility.Times

set_option autoImplicit false

namespace BatchRunner

namespace Listing

/-- How items are laid out. -/
inductive Form where
  | single
  | long
  | columns
  | across
  | commas
  deriving DecidableEq, Repr

/-- What the order of items goes by. -/
inductive Rank where
  | name
  | size
  | time
  | extension
  | version
  | width
  | nothing
  deriving DecidableEq, Repr

/-- Which marks stand behind names. -/
inductive Marks where
  | nothing
  | slash
  | kinds
  | all
  deriving DecidableEq, Repr

/-- How names are written. -/
inductive Quoting where
  | plain
  | escaped
  | quoted
  /-- In quotes if that is needed, with or without escapes. -/
  | word (escapes : Bool)
  /-- In quotes, with or without escapes. -/
  | alwaysWord (escapes : Bool)
  deriving DecidableEq, Repr

inductive Following where
  | no
  /-- Links that are named and lead to directories. -/
  | toDirs
  /-- Links that are named. -/
  | named
  | all
  deriving DecidableEq, Repr

inductive TimeStyle where
  | usual
  | full
  | long
  | short
  | given (format : String)
  deriving DecidableEq, Repr

/-- **What is listed, in which order, and how it is shown.** -/
structure View where
  form : Form
  rank : Rank
  reverse : Bool
  /-- Whether names that begin with a dot are listed. -/
  hidden : Bool
  /-- Whether the directory itself and the one above are listed. -/
  dots : Bool
  marks : Marks
  quoting : Quoting
  /-- Whether characters that cannot be shown become question marks. -/
  masked : Bool
  numbers : Bool
  blocks : Bool
  /-- The base of the letters behind sizes, if there are any. -/
  scale : Option Nat
  owner : Bool
  group : Bool
  numeric : Bool
  deep : Bool
  asEntry : Bool
  following : Following
  /-- Names that are not listed. -/
  ignored : List (List Script.Pattern.Atom)
  dirsFirst : Bool
  coloured : Bool
  page : Columns.Page
  style : TimeStyle
  zero : Bool

structure Item where
  name : String
  place : Place
  node : Node
  facts : FileTree.Facts
  /-- Where it leads, if it is a link. -/
  target : Option String
  /-- What it leads to, if it is a link and there is something. -/
  goal : Option FileTree.Facts

def Item.of (t : FileTree) (name : String) (place : Place) (x : Node) : Item :=
  match x with
  | .link target => ⟨name, place, x, t.factsOf place x, some (Octets.pack target),
      t.facts? place.dropLast target⟩
  | x => ⟨name, place, x, t.factsOf place x, none, none⟩

/-- The part of a name behind its last point, with the point. -/
def extension (name : String) : String :=
  let cs := name.toList
  if cs.contains '.' then
    String.ofList ('.' :: (cs.reverse.takeWhile (· ≠ '.')).reverse)
  else ""

def order (v : View) (a b : Item) : Ordering :=
  let names := Lines.compareBytes (Octets.bytes a.name) (Octets.bytes b.name)
  let c := match v.rank with
    | .name => names
    | .nothing => names
    | .size => (compare b.facts.size a.facts.size).then names
    | .time => (compare b.facts.time a.facts.time).then names
    | .extension => (Lines.compareBytes (Octets.bytes (extension a.name))
        (Octets.bytes (extension b.name))).then names
    | .version =>
        (Lines.compareVersions (Octets.bytes a.name) (Octets.bytes b.name)).then names
    | .width => (compare a.name.length b.name.length).then names
  if v.reverse then c.swap else c

/-- Whether an item is a directory, or a link that leads to one. -/
def Item.isDirLike (x : Item) : Bool := x.facts.kind = 'd' || x.goal.any fun f => f.kind = 'd'

def sorted (v : View) (items : List Item) : List Item :=
  let l := items.mergeSort fun a b => order v a b ≠ .gt
  if v.dirsFirst then (l.filter Item.isDirLike) ++ l.filter fun x => !x.isDirLike else l

/-! ### Names -/

def escape (others : List Char) (c : Char) : String :=
  if Utility.isHidden c || 127 < c.toNat then Utility.hiddenText c
  else if others.contains c then String.ofList ['\\', c] else String.singleton c

def written (v : View) (name : String) : String :=
  let inWord (escapes : Bool) : String :=
    if escapes || name.toList.all fun c => !Utility.isHidden c then Utility.inQuotes name
    else "'" ++ name.replace "'" "'\\''" ++ "'"
  let s := match v.quoting with
    | .plain => name
    | .escaped => String.join (name.toList.map (escape ['\\', ' ']))
    | .quoted => "\x22" ++ String.join (name.toList.map (escape ['\\', '\x22'])) ++ "\x22"
    | .word escapes => if Utility.shownWord name = name then name else inWord escapes
    | .alwaysWord escapes => inWord escapes
  if v.masked then
    String.ofList (s.toList.map fun c => if Utility.isHidden c || 127 < c.toNat then '?' else c)
  else s

/-- The mark behind a name of something. -/
def mark (m : Marks) (f : FileTree.Facts) : String :=
  match m, f.kind with
  | .nothing, _ => ""
  | _, 'd' => "/"
  | .slash, _ => ""
  | _, 'l' => "@"
  | .all, '-' => if f.mode &&& 0o111 ≠ 0 then "*" else ""
  | _, _ => ""

def colour (f : FileTree.Facts) : String :=
  match f.kind with
  | 'd' =>
      if f.mode &&& 0o1002 = 0o1002 then "30;42" else if f.mode &&& 0o002 ≠ 0 then "34;42"
      else if f.mode &&& 0o1000 ≠ 0 then "37;44" else "01;34"
  | 'l' => "01;36"
  | 'c' => "40;33;01"
  | _ =>
      if f.mode &&& 0o4000 ≠ 0 then "37;41" else if f.mode &&& 0o2000 ≠ 0 then "30;43"
      else if f.mode &&& 0o111 ≠ 0 then "01;32" else ""

/-- A name in its colour. -/
def inColour (v : View) (f : FileTree.Facts) (s : String) : String :=
  let c := colour f
  if !v.coloured || c = "" then s else "\x1b[" ++ c ++ "m" ++ s ++ "\x1b[0m"

/-- A size with a letter, rounded up. -/
def scaled (base : Nat) (n : Nat) : String :=
  let letters := if base = 1000 then "kMGTPE" else "KMGTPE"
  go letters.toList base
where
  /-- Tries one letter after the other. -/
  go : List Char → Nat → String
    | [], _ => toString n
    | c :: cs, unit =>
        if n < base then toString n
        else
          let tenths := (10 * n + unit - 1) / unit
          let whole := (n + unit - 1) / unit
          if tenths < 100 then
            toString (tenths / 10) ++ "." ++ toString (tenths % 10) ++ String.singleton c
          else if whole < base then toString whole ++ String.singleton c
          else go cs (unit * base)

def sizeText (v : View) (n : Nat) : String :=
  match v.scale with
  | some base => scaled base n
  | none => toString n

def blocksText (v : View) (n : Nat) : String :=
  match v.scale with
  | some base => scaled base (1024 * n)
  | none => toString n

/-- Half a year, in milliseconds. -/
def halfYear : Nat := 31556952 / 2 * 1000

def timeText (v : View) (now time : Nat) : String :=
  let recent := time ≤ now && now < time + halfYear
  Dates.formatted time (match v.style with
    | .usual => if recent then "%b %e %H:%M" else "%b %e  %Y"
    | .full => "%Y-%m-%d %H:%M:%S.%N %z"
    | .long => "%Y-%m-%d %H:%M"
    | .short => if recent then "%m-%d %H:%M" else "%Y-%m-%d "
    | .given format => format)

/-! ### Items -/

/-- A text with blanks before it, up to a width. -/
def toRight (width : Nat) (s : String) : String :=
  String.ofList (List.replicate (width - s.length) ' ') ++ s

/-- A text with blanks behind it, up to a width. -/
def toLeft (width : Nat) (s : String) : String :=
  s ++ String.ofList (List.replicate (width - s.length) ' ')

def greatest (l : List String) : Nat := l.foldl (fun n s => max n s.length) 0

/-- Texts with blanks before them, so that they are equally long. -/
def alignRight (l : List String) : List String := l.map (toRight (greatest l))

/-- What stands before names: numbers and blocks. -/
def fronts (v : View) (items : List Item) : List String :=
  let align (l : List String) : List String := if v.form = .commas then l else alignRight l
  let numbers := if v.numbers then
      (align (items.map fun x => toString x.facts.number)).map (· ++ " ")
    else items.map fun _ => ""
  let blocks := if v.blocks then
      (align (items.map fun x => blocksText v x.facts.blocks)).map (· ++ " ")
    else items.map fun _ => ""
  (numbers.zip blocks).map fun x => x.1 ++ x.2

/-- Names as they are written.  If some have quotes, the others get a blank. -/
def names (v : View) (items : List Item) : List String :=
  let plain := items.map fun x => written v x.name
  let aligned := (v.quoting = .word true || v.quoting = .word false) && (v.form = .long
    || (v.form = .columns || v.form = .across) && v.page.width ≠ 0)
  let some' := plain.any fun s => s.startsWith "'" || s.startsWith "\x22"
  if aligned && some' then
    plain.map fun s => if s.startsWith "'" || s.startsWith "\x22" then s else " " ++ s
  else plain

/-- A name with its colour, its mark and, in a long listing, where it leads. -/
def named (v : View) (x : Item) (name : String) : String :=
  let shown := inColour v x.facts name
  match v.form, x.target with
  | .long, some target =>
      shown ++ " -> " ++ (match x.goal with
        | some f => inColour v f (written v target) ++ mark v.marks f
        | none => written v target)
  | _, _ => shown ++ mark v.marks x.facts

def longLines (v : View) (now : Nat) (items : List Item) : List String :=
  let links := alignRight (items.map fun x => toString x.facts.links)
  let sizes := alignRight (items.map fun x => sizeText v x.facts.size)
  let who := if v.numeric then "0" else "root"
  let people := (if v.owner then who ++ " " else "") ++ (if v.group then who ++ " " else "")
  let heads := (fronts v items).zip (links.zip sizes)
  (items.zip (heads.zip (names v items))).map fun (x, (front, links, size), name) =>
    front ++ String.singleton x.facts.kind ++ FileTree.modeText x.facts.mode ++ " " ++ links ++ " "
      ++ people ++ size ++ " " ++ timeText v now x.facts.time ++ " " ++ named v x name

/-- **How items are shown together.** -/
def render (v : View) (now : Nat) (items : List Item) : String :=
  let words := ((fronts v items).zip (items.zip (names v items))).map fun (front, x, name) =>
    front ++ named v x name
  let ending := if v.zero then "\x00" else "\n"
  if items.isEmpty then ""
  else
    match v.form with
    | .single => String.join (words.map (· ++ ending))
    | .long => String.join ((longLines v now items).map (· ++ ending))
    | .columns => Columns.downwards v.page words
    | .across => Columns.across v.page words
    | .commas => Columns.withCommas v.page words

/-- The first line of the listing of a directory. -/
def totalLine (v : View) (items : List Item) : String :=
  if v.form = .long || v.blocks then
    "total " ++ blocksText v (items.foldl (fun n x => n + x.facts.blocks) 0) ++ "\n"
  else ""

/-! ### Directories -/

def itemsOf (v : View) (t : FileTree) (place : Place) (es : List (String × Node)) : List Item :=
  let followed (n : String) (x : Node) : Item :=
    let here := place ++ [n]
    match v.following, x with
    | .all, .link target =>
        match t.stat place target with
        | .ok (place, y) => Item.of t (Octets.pack n) place y
        | .error _ => Item.of t (Octets.pack n) here x
    | _, x => Item.of t (Octets.pack n) here x
  let fits (n : String) : Bool := v.ignored.all fun p => !Script.Pattern.fits p n.toList
  let listed := (es.filter fun e =>
    (v.hidden || !(Octets.pack e.1).startsWith ".") && fits (Octets.pack e.1)).map fun e =>
      followed e.1 e.2
  let dots := if v.dots && !place.isGone then
      [Item.of t "." place (.dir es)] ++
        (match t.node? place.dropLast with
          | some x => [Item.of t ".." place.dropLast x]
          | none => [])
    else []
  sorted v (dots ++ listed)

/-- A directory that is to be listed: its path, its place and its entries. -/
abbrev Dir := String × Place × List (String × Node)

def subdirs (path : String) (items : List Item) : List Dir :=
  items.filterMap fun x =>
    match x.node with
    | .dir es =>
        if x.name = "." || x.name = ".." then none
        else some (path ++ (if path.endsWith "/" then "" else "/") ++ x.name, x.place, es)
    | _ => none

/-- The directories that are listed if those below are listed too, with their items. -/
def deepDirs (v : View) (t : FileTree) : Nat → List Dir → List (Dir × List Item)
  | 0, _ => []
  | _, [] => []
  | fuel + 1, d :: ds =>
      let items := if t.permits .read d.2.1 (.dir d.2.2) then itemsOf v t d.2.1 d.2.2 else []
      (d, items) :: deepDirs v t fuel (subdirs d.1 items ++ ds)

def dirs (v : View) (t : FileTree) (ds : List Dir) : List (Dir × List Item) :=
  if v.deep then deepDirs v t ((Node.listing t.root).length + ds.length + 1) ds
  else ds.map fun d => (d, itemsOf v t d.2.1 d.2.2)

end Listing

namespace Utility

open Listing

def listOptions : List Opt :=
  flags "1CfglmnopstuvxcUSXikLHNQqbBh" ++
    [⟨'a', "all", .nothing⟩, ⟨'A', "almost-all", .nothing⟩, ⟨'b', "escape", .nothing⟩,
      ⟨'B', "ignore-backups", .nothing⟩, ⟨'d', "directory", .nothing⟩,
      ⟨'F', "", .nothing⟩, ⟨'φ', "classify", .maybe⟩, ⟨'ε', "file-type", .nothing⟩,
      ⟨'ι', "indicator-style", .value⟩, ⟨'G', "no-group", .nothing⟩,
      ⟨'h', "human-readable", .nothing⟩, ⟨'σ', "si", .nothing⟩, ⟨'i', "inode", .nothing⟩,
      ⟨'I', "ignore", .value⟩, ⟨'η', "hide", .value⟩, ⟨'L', "dereference", .nothing⟩,
      ⟨'n', "numeric-uid-gid", .nothing⟩, ⟨'N', "literal", .nothing⟩,
      ⟨'q', "hide-control-chars", .nothing⟩, ⟨'χ', "show-control-chars", .nothing⟩,
      ⟨'Q', "quote-name", .nothing⟩, ⟨'κ', "quoting-style", .value⟩, ⟨'r', "reverse", .nothing⟩,
      ⟨'R', "recursive", .nothing⟩, ⟨'s', "size", .nothing⟩, ⟨'ς', "sort", .value⟩,
      ⟨'τ', "time-style", .value⟩, ⟨'θ', "full-time", .nothing⟩, ⟨'T', "tabsize", .value⟩,
      ⟨'w', "width", .value⟩, ⟨'γ', "group-directories-first", .nothing⟩, ⟨'λ', "color", .maybe⟩,
      ⟨'ω', "format", .value⟩, ⟨'ζ', "zero", .nothing⟩]

/-- Chooses if there is a word. -/
def chosen {α : Type} (g : Given) (letter : Char) (of' : String) (choices : List (List String × α))
    (usual : α) : Except String α :=
  match g.value? letter with
  | some word => choose of' word choices
  | none => .ok usual

def formOf (g : Given) : Except String Form := do
  let form ← chosen g 'ω' "--format" [(["verbose", "long"], Form.long), (["commas"], .commas),
    (["horizontal", "across"], .across), (["vertical"], .columns), (["single-column"], .single)]
    .single
  match (g.options.filter fun o => "1Cglmnoxωθ".toList.contains o.1).reverse with
  | ('C', _) :: _ => return .columns
  | ('x', _) :: _ => return .across
  | ('m', _) :: _ => return .commas
  | ('ω', _) :: _ => return form
  | ('1', _) :: rest =>
      -- A single column is no change for a long listing.
      return if rest.any fun o => "glnoθ".toList.contains o.1 then .long else .single
  | [] => return .single
  | _ => return .long

def viewOf (p : Proc) (g : Given) : Except String View := do
  let form ← formOf g
  let sort ← chosen g 'ς' "--sort" [(["none"], Rank.nothing), (["time"], .time), (["size"], .size),
    (["extension"], .extension), (["version"], .version), (["width"], .width)] .name
  let rank := match g.lastOf? ['t', 'S', 'X', 'v', 'U', 'f', 'ς'] with
    | some ('t', _) => Rank.time
    | some ('S', _) => .size
    | some ('X', _) => .extension
    | some ('v', _) => .version
    | some ('ς', _) => sort
    | some _ => .nothing
    | none => if (g.has 'c' || g.has 'u') && form ≠ .long then .time else .name
  let style ← chosen g 'ι' "--indicator-style" [(["none"], Marks.nothing), (["slash"], .slash),
    (["file-type"], .kinds), (["classify"], .all)] .nothing
  let classify ← chosen g 'φ' "--classify" [(["always", "yes", "force", ""], Marks.all),
    (["never", "no", "none"], .nothing), (["auto", "tty", "if-tty"], .nothing)] .all
  let marks := match g.lastOf? ['F', 'φ', 'p', 'ε', 'ι'] with
    | some ('F', _) => Marks.all
    | some ('φ', v) => if v = "" then .all else classify
    | some ('p', _) => .slash
    | some ('ε', _) => .kinds
    | some _ => style
    | none => .nothing
  let quote ← chosen g 'κ' "--quoting-style" [(["literal"], Quoting.plain),
    (["shell"], .word false), (["shell-always"], .alwaysWord false), (["shell-escape"], .word true),
    (["shell-escape-always"], .alwaysWord true), (["c"], .quoted), (["c-maybe"], .quoted),
    (["escape"], .escaped), (["locale"], .alwaysWord true), (["clocale"], .quoted)] .plain
  let quoting := match g.lastOf? ['b', 'N', 'Q', 'κ'] with
    | some ('b', _) => Quoting.escaped
    | some ('Q', _) => .quoted
    | some ('κ', _) => quote
    | _ => .plain
  let coloured ← match g.value? 'λ' with
    | some "" => .ok true
    | some word => choose "--color" word [(["always", "yes", "force"], true),
        (["never", "no", "none"], false), (["auto", "tty", "if-tty"], false)]
    | none => .ok false
  let timeStyle ← match g.value? 'τ' with
    | none => .ok TimeStyle.usual
    | some s =>
        match s.toList with
        | '+' :: cs => .ok (.given (String.ofList cs))
        | _ =>
            match [("full-iso", TimeStyle.full), ("long-iso", .long), ("iso", .short),
                ("locale", .usual)].find? fun x => s ≠ "" && x.1.startsWith s with
            | some x => .ok x.2
            | none => .error (noChoice s "time style" ["[posix-]full-iso", "[posix-]long-iso",
                "[posix-]iso", "[posix-]locale",
                "+FORMAT (e.g., +%H:%M) for a 'date'-style format"])
  let width ← match g.value? 'w' with
    | some s => match Builtin.count? s with
        | some n => .ok n
        | none => .error ("invalid line width: " ++ inQuotes s)
    | none => .ok (((p.shell.environment.lookup "COLUMNS").bind Builtin.count?).getD 80)
  let tab ← match g.value? 'T' with
    | some s => match Builtin.count? s with
        | some n => .ok n
        | none => .error ("invalid tab size: " ++ inQuotes s)
    | none => .ok 8
  let all := g.has 'a' || g.has 'f'
  let texts (c : Char) : List String := (g.options.filter fun o => o.1 = c).map Prod.snd
  let hides := if all || g.has 'A' then [] else texts 'η'
  let backups := if g.has 'B' then ["*~", ".*~"] else []
  let pattern (s : String) : List Script.Pattern.Atom :=
    Script.Pattern.ofMarked (s.toList.map fun c => (c, false))
  return {
    form := form
    rank := rank
    reverse := g.has 'r' && rank ≠ .nothing
    hidden := all || g.has 'A'
    dots := all && (g.lastOf? ['a', 'A', 'f']).any fun o => o.1 ≠ 'A'
    marks := marks
    quoting := quoting
    masked := (g.lastOf? ['q', 'χ']).any fun o => o.1 = 'q'
    numbers := g.has 'i'
    blocks := g.has 's'
    scale := match g.lastOf? ['h', 'σ'] with
      | some ('h', _) => some 1024
      | some _ => some 1000
      | none => none
    owner := !g.has 'g'
    group := !g.has 'o' && !g.has 'G'
    numeric := g.has 'n'
    deep := g.has 'R' && !g.has 'd'
    asEntry := g.has 'd'
    following := match g.lastOf? ['L', 'H'] with
      | some ('L', _) => .all
      | some _ => .named
      | none => if g.has 'd' || marks = .all || form = .long then .no else .toDirs
    ignored := (texts 'I' ++ hides ++ backups).map pattern
    dirsFirst := g.has 'γ'
    coloured := coloured
    page := ⟨width, tab⟩
    style := if (g.lastOf? ['τ', 'θ']).any fun o => o.1 = 'θ' then .full else timeStyle
    zero := g.has 'ζ' }

def operandItem (v : View) (t : FileTree) (cwd : Place) (a : String) : Except IoError Item :=
  let entry := entryAt? t cwd a
  let target := t.stat cwd (Octets.unpack a)
  let asEntry : Except IoError Item := match entry with
    | some (place, x) => .ok (Item.of t a place x)
    | none => .error (entryError t cwd a)
  match v.following, target with
  | .no, _ => asEntry
  | .toDirs, .ok (place, x) => if x.isDir then .ok (Item.of t a place x) else asEntry
  | .toDirs, .error e => match entry with
      | some (place, x) => .ok (Item.of t a place x)
      | none => .error e
  | _, .ok (place, x) => .ok (Item.of t a place x)
  | _, .error e => .error e

/-- **Lists the names in directories.** -/
def list (w : Host) (p : Proc) (args : List String) : Host :=
  match parse listOptions true args with
  | .error text => misuseWith 2 w p text
  | .ok g =>
      match viewOf p g with
      | .error text =>
          if text.startsWith "invalid line" || text.startsWith "invalid tab" then
            (grumble w p text).settle p 2
          else if (text.splitOn "time style").length = 2 then misuseWith 2 w p text
          else misuse w p text
      | .ok v =>
          let t := w.files
          let operands := if g.operands.isEmpty then ["."] else g.operands
          let found := operands.map fun a => (a, operandItem v t p.cwd a)
          let w := found.foldl (fun w x => match x.2 with
            | .ok _ => w
            | .error e => grumble w p ("cannot access " ++ inQuotes x.1 ++ ": " ++ reason e)) w
          let items := sorted v (found.filterMap fun x => x.2.toOption)
          let isListed (x : Item) : Bool := x.facts.kind = 'd' && !v.asEntry
          let plain := render v w.clock (items.filter fun x => !isListed x)
          let starts : List Dir := items.filterMap fun x => match isListed x, x.node with
            | true, .dir es => some (x.name, x.place, es)
            | _, _ => none
          let titled := 1 < operands.length || v.deep
          let blocks := (dirs v t starts).map fun (d, items) =>
            if t.permits .read d.2.1 (.dir d.2.2) then
              .ok ((if titled then written v d.1 ++ ":\n" else "") ++ totalLine v items
                ++ render v w.clock items)
            else .error ("cannot open directory " ++ inQuotes d.1 ++ ": " ++ Errno.denied.text)
          let blocks := (if plain = "" then [] else [Except.ok plain]) ++ blocks
          let missed := found.any fun x => x.2.toOption.isNone
          let status := if missed || starts.any fun d => !t.permits .read d.2.1 (.dir d.2.2) then 2
            else if blocks.any fun b => b.toOption.isNone then 1 else 0
          showInTurn (p.withStatus status) (blocksInTurn v true v.coloured blocks) w
where
  /-- Blocks that are shown, with blank lines between them.  Before the first colour there is a
  sequence that ends colours. -/
  blocksInTurn (v : View) (isFirst uncoloured : Bool) :
      List (Except String String) → List (Except String Bytes)
    | [] => []
    | .error text :: rest => .error text :: blocksInTurn v isFirst uncoloured rest
    | .ok text :: rest =>
        let text := if isFirst then text else "\n" ++ text
        let turns := uncoloured && text.toList.contains '\x1b'
        let text := if turns then
            let before := text.toList.takeWhile (· ≠ '\x1b')
            String.ofList before ++ "\x1b[0m" ++ String.ofList (text.toList.drop before.length)
          else text
        .ok (Octets.bytes text) :: blocksInTurn v false (uncoloured && !turns) rest

end Utility

end BatchRunner
