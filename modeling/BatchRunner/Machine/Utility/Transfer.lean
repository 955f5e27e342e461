/-
**Utilities that lead from one path to another.**

What is at a path is copied, moved or linked to another path, or into the directory that the other
path leads to.  What is there already may be kept, replaced or set aside.

Main definitions:

* `Utility.Backup`, `Utility.backupName` — how a file is set aside;
* `Utility.routes` — the pairs of paths that arguments stand for;
* `Utility.copy`, `Utility.move`, `Utility.link` — utilities.
-/
import BatchRunner.Files.Facts
import BatchRunner.Machine.Utility.Progress
import BatchRunner.Machine.Utility.Text

set_option autoImplicit false

namespace BatchRunner.Utility

/-- The node that the last name of a path stands for. -/
def entryAt? (t : FileTree) (cwd : Place) (path : String) : Option (Place × Node) :=
  match t.locate cwd .entry (Octets.unpack path) with
  | .ok (.node place x) => some (place, x)
  | _ => none

/-- Why the last name of a path stands for nothing. -/
def entryError (t : FileTree) (cwd : Place) (path : String) : IoError :=
  match t.locate cwd .entry (Octets.unpack path) with
  | .error e => e
  | .ok _ => .os .noEntry

/-- A complaint about a word that is none of those it may be. -/
def noChoice (word of' : String) (choices : List String) : String :=
  "invalid argument " ++ inQuotes word ++ " for " ++ inQuotes of' ++ "\nValid arguments are:"
    ++ String.join (choices.map fun c => "\n  - " ++ c)

/-- The one of some words that a word begins, or a complaint. -/
def choose {α : Type} (of' word : String) (choices : List (List String × α)) : Except String α :=
  match choices.find? fun c => c.1.any fun s => word ≠ "" && s.startsWith word with
  | some (_, x) => .ok x
  | none => .error (noChoice word of'
      (choices.map fun c => ", ".intercalate (c.1.map fun s => "'" ++ s ++ "'")))

/-! ### Setting aside -/

/-- What is done with a file that is in the way. -/
inductive Backup where
  | none
  /-- It gets a suffix. -/
  | simple
  /-- It gets a number if another one has got a number already, and else a suffix. -/
  | existing
  /-- It gets a number. -/
  | numbered
  deriving DecidableEq, Repr

def backupOptions : List Opt :=
  [⟨'b', "", .nothing⟩, ⟨'β', "backup", .maybe⟩, ⟨'S', "suffix", .value⟩]

/-- The words for ways to set aside. -/
def backupWords : List (String × Backup) :=
  [("none", .none), ("off", .none), ("simple", .simple), ("never", .simple),
    ("existing", .existing), ("nil", .existing), ("numbered", .numbered), ("t", .numbered)]

/-- How a file is set aside, and the suffix. -/
def backupOf (p : Proc) (g : Given) : Except String (Backup × String) :=
  let suffix := ((g.value? 'S').orElse fun _ =>
    p.shell.environment.lookup "SIMPLE_BACKUP_SUFFIX").getD "~"
  let suffix := if suffix = "" || suffix.toList.contains '/' then "~" else suffix
  let usual := (p.shell.environment.lookup "VERSION_CONTROL").getD "existing"
  let read (of' word : String) : Except String Backup :=
    match backupWords.find? fun x => word ≠ "" && x.1.startsWith word with
    | some (_, b) => .ok b
    | none => .error (noChoice word of' ["'none', 'off'", "'simple', 'never'", "'existing', 'nil'",
        "'numbered', 't'"])
  match g.lastOf? ['b', 'β'], g.has 'S' with
  | none, false => .ok (.none, suffix)
  | some ('β', word), _ =>
      if word = "" then (read "$VERSION_CONTROL" usual).map fun b => (b, suffix)
      else (read "backup type" word).map fun b => (b, suffix)
  | _, _ => (read "$VERSION_CONTROL" usual).map fun b => (b, suffix)

/-- The number of a file that has been set aside under a number. -/
def backupNumber? (base name : String) : Option Nat :=
  let front := base ++ ".~"
  if name.startsWith front && name.endsWith "~" then
    Builtin.count? (String.ofList ((name.toList.drop front.length).dropLast))
  else none

/-- The path under which a file is set aside. -/
def backupName (b : Backup) (suffix : String) (t : FileTree) (cwd : Place) (path : String) :
    String :=
  let base := lastPart "" path
  let names := match t.locateParent cwd (Octets.unpack path) with
    | .ok (_, es, _) => es.map fun (e : String × Node) => Octets.pack e.1
    | .error _ => []
  let numbers := names.filterMap (backupNumber? base)
  let next := path ++ ".~" ++ toString (numbers.foldl max 0 + 1) ++ "~"
  match b with
  | .numbered => next
  | .existing => if numbers.isEmpty then path ++ suffix else next
  | _ => path ++ suffix

/-! ### Pairs of paths -/

/-- Why arguments make no pairs of paths: the complaint, and whether it is about how the utility is
used. -/
abbrev Refusal := String × Bool

/-- A complaint about a directory that is none. -/
def notDir (t : FileTree) (cwd : Place) (what path : String) : Refusal :=
  (what ++ " " ++ inQuotes path ++ ": " ++ (if t.isPresent cwd (Octets.unpack path) then
    Errno.notDir.text else Errno.noEntry.text), false)

/-- Where something goes that goes into a directory. -/
def within (dir source : String) : String :=
  let base := lastPart "" source
  Path.join dir (if base = ".." then "." else base)

/-- **The pairs of paths that arguments stand for**: from each of some paths to a path, or into a
directory, which is given too. -/
def routes (w : Host) (p : Proc) (g : Given) :
    Except Refusal (List (String × String) × Option String) :=
  let t := w.files
  let isDir (a : String) : Bool := t.isDir p.cwd (Octets.unpack a)
  let into (sources : List String) (dir : String) : List (String × String) × Option String :=
    (sources.map fun a => (a, within dir a), some dir)
  match g.value? 't', g.operands with
  | some _, [] => .error ("missing file operand", true)
  | some dir, operands =>
      if g.has 'T' then
        .error ("cannot combine --target-directory (-t) and --no-target-directory (-T)", false)
      else if isDir dir then .ok (into operands dir)
      else .error (notDir t p.cwd "target directory" dir)
  | none, [] => .error ("missing file operand", true)
  | none, [a] => .error ("missing destination file operand after " ++ inQuotes a, true)
  | none, [a, b] =>
      if !g.has 'T' && isDir b then .ok (into [a] b) else .ok ([(a, b)], none)
  | none, a :: b :: c :: rest =>
      if g.has 'T' then .error ("extra operand " ++ inQuotes c, true)
      else
        let dir := (c :: rest).getLastD c
        if isDir dir then .ok (into ((a :: b :: c :: rest).dropLast) dir)
        else .error (notDir t p.cwd "target" dir)

/-- The end of a utility that cannot be used so. -/
def turnDown (w : Host) (p : Proc) (r : Refusal) : Host :=
  if r.2 then misuse w p r.1 else refuse w p r.1

def routeOptions : List Opt :=
  [⟨'t', "target-directory", .value⟩, ⟨'T', "no-target-directory", .nothing⟩]

/-- What is done about a file that is in the way. -/
inductive Clash where
  | replace
  | ask
  /-- The file stays, which is a failure for some. -/
  | keep
  /-- The file stays. -/
  | skip
  deriving DecidableEq, Repr

/-- The options about files that are in the way. -/
def clashOptions : List Opt :=
  [⟨'f', "force", .nothing⟩, ⟨'i', "interactive", .nothing⟩, ⟨'n', "no-clobber", .nothing⟩,
    ⟨'u', "", .nothing⟩, ⟨'υ', "update", .maybe⟩]

/-- What is done about a file that is in the way, and whether it also stays if it is newer. -/
def clashOf (g : Given) : Except String (Clash × Bool) :=
  let clash := match g.lastOf? ['f', 'i', 'n'] with
    | some ('i', _) => Clash.ask
    | some ('n', _) => Clash.keep
    | _ => Clash.replace
  match g.lastOf? ['u', 'υ'] with
  | none => .ok (clash, false)
  | some ('u', _) => .ok (clash, true)
  | some (_, word) =>
      if word = "" || "older".startsWith word then .ok (clash, true)
      else if "none".startsWith word then .ok (if clash = .keep then clash else .skip, false)
      else if "all".startsWith word then .ok (clash, false)
      else .error (noChoice word "--update" ["'all'", "'none'", "'older'"])

/-! ### Copying -/

inductive Follow where
  | all
  | named
  | no
  deriving DecidableEq, Repr

/-- What is made instead of a copy. -/
inductive Substitute where
  | none
  | name
  | link
  deriving DecidableEq, Repr

/-- How files are copied. -/
structure Copying where
  deep : Bool
  follow : Follow
  /-- Whether permission bits and times are copied. -/
  faithful : Bool
  /-- Whether names of one file stay names of one file. -/
  keepsNames : Bool
  substitute : Substitute
  clash : Clash
  older : Bool
  force : Bool
  removeFirst : Bool
  backup : Backup
  suffix : String
  verbose : Bool

/-- How far copying has come. -/
structure CopyState where
  progress : Progress
  /-- Where files have been copied to. -/
  made : List Place
  /-- The files that have been copied, with the paths of the copies. -/
  copied : List (Nat × String)

namespace CopyState

/-- Goes on with other progress. -/
def on (s : CopyState) (f : Progress → Progress) : CopyState := { s with progress := f s.progress }

def files (s : CopyState) : FileTree := s.progress.files

/-- Goes on with the files that an operation leaves, or complains. -/
def try' (s : CopyState) (p : Proc) (what : String) (r : Except IoError FileTree) : CopyState :=
  s.on fun x => match r with
    | .ok t => x.withFiles t
    | .error e => x.complain p (what ++ ": " ++ reason e)

end CopyState

/-- Sets aside the file that is in the way, if that is asked for.  What will be said about it is
given too. -/
def setAside (b : Backup) (suffix : String) (cwd : Place) (path : String) (t : FileTree) :
    FileTree × String :=
  if b = .none then (t, "")
  else
    let name := backupName b suffix t cwd path
    match t.rename cwd (Octets.unpack path) (Octets.unpack name) with
    | .ok t => (t, name)
    | .error _ => (t, "")

/-- Whether two nodes at two places are the same. -/
def isSame (a b : Place × Node) : Bool := a.1 = b.1 || FileTree.isSameFile a.2 b.2

/-- Makes a copy of something that is no directory, where nothing is in the way any more that has
to go. -/
def Copying.make (c : Copying) (p : Proc) (a to' : String) (source : Place × Node) (isNew : Bool)
    (s : CopyState) : CopyState :=
  let t := s.files
  let from' := Octets.unpack a
  let path := Octets.unpack to'
  let facts := t.factsOf source.1 source.2
  let cleared := if c.force then (t.unlink p.cwd path).toOption.getD t else t
  match c.substitute, source.2 with
  | .link, _ =>
      if !Path.isAbsolute a && (lastPart "" to' ≠ to' && !to'.startsWith "./") then
        s.on fun x => x.complain p
          (shown to' ++ ": can make relative symbolic links only in current directory")
      else
        s.try' p ("cannot create symbolic link " ++ inQuotes to' ++ " to " ++ inQuotes a)
          (cleared.makeLink p.cwd from' path)
  | .name, .link target =>
      s.try' p ("cannot create symbolic link " ++ inQuotes to') (cleared.makeLink p.cwd target path)
  | .name, _ =>
      s.try' p ("cannot create hard link " ++ inQuotes to' ++ " to " ++ inQuotes a)
        (cleared.makeName p.cwd from' path)
  | .none, .link target =>
      s.try' p ("cannot create symbolic link " ++ inQuotes to') (t.makeLink p.cwd target path)
  | .none, x =>
      let id? := match x with
        | .file id => some id
        | _ => none
      match id?.bind fun id => if c.keepsNames then s.copied.lookup id else none with
      | some earlier =>
          let t := (t.unlink p.cwd path).toOption.getD t
          s.try' p ("cannot create hard link " ++ inQuotes to' ++ " to " ++ inQuotes earlier)
            (t.makeName p.cwd (Octets.unpack earlier) path)
      | none =>
          let bytes := ((id?.bind t.file?).map File.bytes).getD []
          let isDangling := isNew && (entryAt? t p.cwd to').isSome
          let done : Except IoError FileTree := do
            let t ← t.writeFile p.cwd path bytes
            let t ← if c.faithful then t.setMode p.cwd path facts.mode
              else if isNew then t.setMode p.cwd path (unmasked (facts.mode &&& 0o777) p.mask)
              else .ok t
            if c.faithful then t.setTime p.cwd path facts.time else return t
          if isDangling then
            s.on fun x => x.complain p ("not writing through dangling symlink " ++ inQuotes to')
          else
            let s := s.try' p ("cannot create regular file " ++ inQuotes to') done
            { s with copied := (id?.map fun id => (id, to')).toList ++ s.copied }

def Copying.plain (c : Copying) (p : Proc) (a to' : String) (source : Place × Node)
    (s : CopyState) : CopyState :=
  let t := s.files
  let path := Octets.unpack to'
  let isFile := match source.2 with
    | .file _ => true
    | _ => false
  let asEntry := !isFile || c.removeFirst || c.substitute ≠ .none || c.backup ≠ .none
  let dest := if asEntry then entryAt? t p.cwd to' else (t.stat p.cwd path).toOption
  let failed (text : String) : CopyState := s.on fun x => x.complain p text
  let named (s : CopyState) : CopyState :=
    match entryAt? s.files p.cwd to' with
    | some (place, _) => { s with made := place :: s.made }
    | none => s
  match dest with
  | none =>
      let s := s.on fun x => x.note c.verbose (inQuotes a ++ " -> " ++ inQuotes to')
      named (c.make p a to' source true s)
  | some d =>
      let same := isSame source d
      if same && c.substitute = .name then s
      else if same && !(c.removeFirst && source.1 ≠ d.1) then
        failed (inQuotes a ++ " and " ++ inQuotes to' ++ " are the same file")
      else if c.older && (t.factsOf source.1 source.2).time ≤ (t.factsOf d.1 d.2).time then s
      else if c.clash = .keep || c.clash = .skip then s
      else
        let (agreed, x) := if c.clash = .ask then
            s.progress.ask p ("overwrite " ++ inQuotes to' ++ "?")
          else (true, s.progress)
        let s := { s with progress := x }
        if !agreed then s.on Progress.failing
        else if !d.2.isDir
            && (entryAt? s.files p.cwd to').any (fun e => s.made.contains e.1) then
          s.on fun x => x.complain p
            ("will not overwrite just-created " ++ inQuotes to' ++ " with " ++ inQuotes a)
        else if d.2.isDir then
          s.on fun x => x.complain p
            ("cannot overwrite directory " ++ inQuotes to' ++ " with non-directory")
        else
          let (t, aside) := setAside c.backup c.suffix p.cwd to' s.files
          let gone := aside = "" && (c.removeFirst || !isFile && c.substitute = .none)
          let t := if gone then (t.unlink p.cwd path).toOption.getD t else t
          let s := s.on fun x => ((x.withFiles t).note (gone && c.verbose)
            ("removed " ++ inQuotes to')).note c.verbose (inQuotes a ++ " -> " ++ inQuotes to'
              ++ (if aside = "" then "" else " (backup: " ++ inQuotes aside ++ ")"))
          named (c.make p a to' source (gone || aside ≠ "") s)

mutual

/-- Copies a node to a path, into a directory that is there already if it is one. -/
def Copying.node (c : Copying) (p : Proc) (a to' : String) (place : Place) :
    Node → CopyState → CopyState
  | .dir es, s =>
      let path := Octets.unpack to'
      let facts := s.files.factsOf place (.dir es)
      let filled (s : CopyState) : CopyState :=
        if s.files.permits .read place (.dir es) then c.among p a to' place es s
        else s.on fun x => x.complain p ("cannot access " ++ inQuotes a ++ ": " ++ Errno.denied.text)
      match entryAt? s.files p.cwd to' with
      | some (_, .dir _) => c.settle p to' facts none (filled s)
      | some _ =>
          s.on fun x => x.complain p ("cannot overwrite non-directory " ++ inQuotes to'
            ++ " with directory " ++ inQuotes a)
      | none =>
          match s.files.makeDir p.cwd path with
          | .error e =>
              s.on fun x => x.complain p
                ("cannot create directory " ++ inQuotes to' ++ ": " ++ reason e)
          | .ok t =>
              let mode := unmasked facts.mode p.mask
              let t := (t.setMode p.cwd path (mode ||| 0o700)).toOption.getD t
              let s := s.on fun x => (x.withFiles t).note c.verbose
                (inQuotes a ++ " -> " ++ inQuotes to')
              c.settle p to' facts (some mode) (filled s)
  | .file id, s => c.plain p a to' (place, .file id) s
  | .link target, s => c.plain p a to' (place, .link target) s
  | .device d, s => c.plain p a to' (place, .device d) s

/-- Copies the entries of a directory into another one. -/
def Copying.among (c : Copying) (p : Proc) (a to' : String) (place : Place) :
    List (String × Node) → CopyState → CopyState
  | [], s => s
  | (n, x) :: es, s =>
      let name := Octets.pack n
      let s := match s.files.demand .pass place with
        | .ok () => c.node p (Path.join a name) (Path.join to' name) (place ++ [n]) x s
        | .error e => s.on fun x => x.complain p
            ("cannot stat " ++ inQuotes (Path.join a name) ++ ": " ++ reason e)
      c.among p a to' place es s

/-- Gives a directory the permission bits that a new one is to have, or the permission bits and the
time of another one. -/
def Copying.settle (c : Copying) (p : Proc) (to' : String) (facts : FileTree.Facts)
    (mode : Option Nat) (s : CopyState) : CopyState :=
  if !c.faithful then
    s.on fun x => match mode with
      | some mode => x.withFiles
          ((x.files.setMode p.cwd (Octets.unpack to') mode).toOption.getD x.files)
      | none => x
  else s.on fun x =>
    let t := (x.files.setMode p.cwd (Octets.unpack to') facts.mode).toOption.getD x.files
    x.withFiles ((t.setTime p.cwd (Octets.unpack to') facts.time).toOption.getD t)

end

mutual

/-- A node with what its links lead to in the place of the links. -/
def followed (t : FileTree) : Nat → Place → Node → Node
  | 0, _, x => x
  | fuel + 1, place, .dir es => .dir (followedAmong t fuel place es)
  | fuel + 1, place, .link target =>
      match t.stat place.dropLast target with
      | .ok (place, x) => followed t fuel place x
      | .error _ => .link target
  | _ + 1, _, x => x

/-- Entries with what their links lead to in the place of the links. -/
def followedAmong (t : FileTree) : Nat → Place → List (String × Node) → List (String × Node)
  | 0, _, es => es
  | _ + 1, _, [] => []
  | fuel + 1, place, (n, x) :: es =>
      (n, followed t fuel (place ++ [n]) x) :: followedAmong t fuel place es

end

def followMax : Nat := 200

def Copying.one (c : Copying) (p : Proc) (s : CopyState) (a to' : String) : CopyState :=
  let t := s.files
  let failed (text : String) : CopyState := s.on fun x => x.complain p text
  let source : Except IoError (Place × Node) := match entryAt? t p.cwd a, c.follow with
    | some (place, .link target), .no => .ok (place, .link target)
    | _, _ => t.stat p.cwd (Octets.unpack a)
  match source with
  | .error e => failed ("cannot stat " ++ inQuotes a ++ ": " ++ reason e)
  | .ok (place, .dir es) =>
      if !c.deep then failed ("-r not specified; omitting directory " ++ inQuotes a)
      else
        let inside := match t.locateParent p.cwd (Octets.unpack to') with
          | .ok (place', _, _) => place.isPrefixOf place'
          | .error _ => false
        let x := if c.follow = .all then followed t followMax place (.dir es) else .dir es
        let s := c.node p a to' place x s
        if inside then
          s.on fun x => x.complain p ("cannot copy a directory, " ++ inQuotes a ++ ", into itself, "
            ++ inQuotes to')
        else s
  | .ok source => c.plain p a to' source s

/-- The directories above a path that are to be made below a directory, the highest first. -/
def dirsAbove (a : String) : List String :=
  let names := (a.splitOn "/").filter (· ≠ "")
  (List.range (names.length - 1)).map fun n =>
    (if Path.isAbsolute a then "/" else "") ++ "/".intercalate (names.take (n + 1))

/-- Makes the directories that a path has above it below a directory. -/
def Copying.above (c : Copying) (p : Proc) (s : CopyState) (a dir : String) : CopyState :=
  (dirsAbove a).foldl (fun s d =>
    let to' := Path.join dir (String.ofList (d.toList.dropWhile (· = '/')))
    match s.files.makeDir p.cwd (Octets.unpack to') with
    | .ok t => s.on fun x => (x.withFiles t).note c.verbose (d ++ " -> " ++ to')
    | .error _ => s) s

def copyOptions : List Opt :=
  routeOptions ++ clashOptions ++ backupOptions ++
    [⟨'r', "recursive", .nothing⟩, ⟨'R', "", .nothing⟩, ⟨'a', "archive", .nothing⟩,
      ⟨'v', "verbose", .nothing⟩, ⟨'p', "", .nothing⟩, ⟨'π', "preserve", .maybe⟩,
      ⟨'ν', "no-preserve", .value⟩, ⟨'d', "", .nothing⟩, ⟨'P', "no-dereference", .nothing⟩,
      ⟨'L', "dereference", .nothing⟩, ⟨'H', "", .nothing⟩, ⟨'l', "link", .nothing⟩,
      ⟨'s', "symbolic-link", .nothing⟩, ⟨'ρ', "remove-destination", .nothing⟩,
      ⟨'α', "parents", .nothing⟩, ⟨'x', "one-file-system", .nothing⟩, ⟨'σ', "sparse", .value⟩,
      ⟨'λ', "reflink", .maybe⟩, ⟨'τ', "strip-trailing-slashes", .nothing⟩]

def copyingOf (p : Proc) (g : Given) : Except Refusal Copying := do
  let (backup, suffix) ← (backupOf p g).mapError (·, true)
  let (clash, older) ← (clashOf g).mapError (·, true)
  let deep := g.has 'r' || g.has 'R' || g.has 'a'
  if g.has 'l' && g.has 's' then
    throw ("cannot make both hard and symbolic links", true)
  if clash = .keep && backup ≠ .none then
    throw ("options --backup and --no-clobber are mutually exclusive", true)
  let keeps (what : String) : Bool := (g.value? 'π').any fun v =>
    v = "" && what ≠ "links" || (v.splitOn ",").any fun x => x = what || x = "all"
  return {
    deep := deep
    follow := match g.lastOf? ['P', 'd', 'L', 'H', 'a'] with
      | some ('L', _) => .all
      | some ('H', _) => .named
      | some _ => .no
      | none => if deep && !g.has 'l' then .no else .all
    faithful := g.has 'p' || g.has 'a' || keeps "mode" || keeps "timestamps"
    keepsNames := g.has 'a' || g.has 'd' || keeps "links"
    substitute := if g.has 'l' then .name else if g.has 's' then .link else .none
    clash := clash
    older := older
    force := g.has 'f'
    removeFirst := g.has 'ρ'
    backup := backup
    suffix := suffix
    verbose := g.has 'v' }

/-- **Copies files**, and with an option directories. -/
def copy (w : Host) (p : Proc) (args : List String) : Host :=
  withArguments w p copyOptions args fun g =>
    let stripped (a : String) : String :=
      if g.has 'τ' then String.ofList ((a.toList.reverse.dropWhile (· = '/')).reverse) else a
    let g := { g with operands := g.operands.map stripped }
    let w := if g.has 'n' then grumble w p ("warning: behavior of -n is non-portable and may "
      ++ "change in future; use --update=none instead") else w
    match copyingOf p g with
    | .error r => turnDown w p r
    | .ok c =>
        match routes w p g with
        | .error r => turnDown w p r
        | .ok (pairs, dir?) =>
            if g.has 'α' && dir?.isNone then
              misuse w p "with --parents, the destination must be a directory"
            else
              let go (s : CopyState × List Place) (pair : String × String) :
                  CopyState × List Place :=
                match entryAt? w.files p.cwd pair.1 with
                | some (place, x) =>
                    if s.2.contains place && c.backup = .none then
                      (s.1.on fun y => y.warn p ("warning: source "
                        ++ (if x.isDir then "directory " else "file ") ++ inQuotes pair.1
                        ++ " specified more than once"), s.2)
                    else (step c g s.1 pair dir?, place :: s.2)
                | none => (step c g s.1 pair dir?, s.2)
              ((pairs.foldl go (⟨Progress.start w, [], []⟩, [])).1.progress).finish p
where
  /-- Copies from one path to another. -/
  step (c : Copying) (g : Given) (s : CopyState) (pair : String × String)
      (dir? : Option String) : CopyState :=
    match g.has 'α', dir? with
    | true, some dir =>
        if (entryAt? s.files p.cwd pair.1).isNone then c.one p s pair.1 pair.2
        else
          let to' := Path.join dir (String.ofList (pair.1.toList.dropWhile (· = '/')))
          c.one p (c.above p s pair.1 dir) pair.1 to'
    | _, _ => c.one p s pair.1 pair.2

/-! ### Moving -/

def moveOptions : List Opt :=
  routeOptions ++ clashOptions ++ backupOptions ++
    [⟨'v', "verbose", .nothing⟩, ⟨'κ', "no-copy", .nothing⟩,
      ⟨'τ', "strip-trailing-slashes", .nothing⟩]

structure Moving where
  clash : Clash
  older : Bool
  backup : Backup
  suffix : String
  verbose : Bool

def Moving.one (m : Moving) (p : Proc) (s : Progress) (a to' : String) : Progress :=
  let t := s.files
  let failed (text : String) : Progress := s.complain p text
  match entryAt? t p.cwd a with
  | none => failed ("cannot stat " ++ inQuotes a ++ ": " ++ reason (entryError t p.cwd a))
  | some source =>
      let before := entryAt? t p.cwd to'
      if before.isNone && entryError t p.cwd to' = .os .notDir then
        failed ("cannot stat " ++ inQuotes to' ++ ": " ++ reason (entryError t p.cwd to'))
      else if before.any fun y => y.1 = source.1 then
        failed (inQuotes a ++ " and " ++ inQuotes to' ++ " are the same file")
      else if m.older && before.any fun y => !source.2.isDir
          && (t.factsOf source.1 source.2).time ≤ (t.factsOf y.1 y.2).time then s
      else if m.clash = .keep && before.isSome then failed ("not replacing " ++ inQuotes to')
      else if m.clash = .skip && before.isSome then s
      else
        let (agreed, s) := if m.clash = .ask && before.isSome then
            s.ask p ("overwrite " ++ inQuotes to' ++ "?")
          else (true, s)
        let failed (text : String) : Progress := s.complain p text
        if !agreed then s.failing
        else
          match source.2.isDir, before.map fun y => y.2.isDir, decide (m.backup = .none) with
          | true, some false, true =>
              failed ("cannot overwrite non-directory " ++ inQuotes to' ++ " with directory "
                ++ inQuotes a)
          | false, some true, true =>
              failed ("cannot overwrite directory " ++ inQuotes to' ++ " with non-directory")
          | _, _, _ =>
              let (t, aside) := if before.isSome then
                  setAside m.backup m.suffix p.cwd to' s.files else (s.files, "")
              let same := aside = "" && before.any fun y => FileTree.isSameFile source.2 y.2
              let moved := if same then t.unlink p.cwd (Octets.unpack a)
                else t.rename p.cwd (Octets.unpack a) (Octets.unpack to')
              match moved with
              | .ok t =>
                  (s.withFiles t).note m.verbose ("renamed " ++ inQuotes a ++ " -> " ++ inQuotes to'
                    ++ (if aside = "" then "" else " (backup: " ++ inQuotes aside ++ ")"))
              | .error e =>
                  s.complain p (match e with
                    | .os .invalid => "cannot move " ++ inQuotes a
                        ++ " to a subdirectory of itself, " ++ inQuotes to'
                    | .os .notEmpty => "cannot overwrite " ++ inQuotes to' ++ ": " ++ reason e
                    | e => "cannot move " ++ inQuotes a ++ " to " ++ inQuotes to' ++ ": "
                        ++ reason e)

/-- **Gives something another path.** -/
def move (w : Host) (p : Proc) (args : List String) : Host :=
  withArguments w p moveOptions args fun g =>
    let plan : Except Refusal (Moving × List (String × String)) := do
      let (backup, suffix) ← (backupOf p g).mapError (·, true)
      let (clash, older) ← (clashOf g).mapError (·, true)
      if clash = .keep && backup ≠ .none then
        throw ("options --backup and --no-clobber are mutually exclusive", true)
      let stripped (a : String) : String :=
        if g.has 'τ' then String.ofList ((a.toList.reverse.dropWhile (· = '/')).reverse) else a
      let (pairs, _) ← routes w p { g with operands := g.operands.map stripped }
      return (⟨clash, older, backup, suffix, g.has 'v'⟩, pairs)
    match plan with
    | .error r => turnDown w p r
    | .ok (m, pairs) =>
        ((Progress.start w).through pairs fun s pair => m.one p s pair.1 pair.2).finish p

/-! ### Linking -/

def linkOptions : List Opt :=
  routeOptions ++ backupOptions ++ flags "dF" ++
    [⟨'s', "symbolic", .nothing⟩, ⟨'f', "force", .nothing⟩, ⟨'i', "interactive", .nothing⟩,
      ⟨'n', "no-dereference", .nothing⟩, ⟨'v', "verbose", .nothing⟩, ⟨'r', "relative", .nothing⟩,
      ⟨'P', "physical", .nothing⟩, ⟨'L', "logical", .nothing⟩]

def wayFrom : Place → Place → List String
  | a :: as, b :: bs => if a = b then wayFrom as bs else (a :: as).map (fun _ => "..") ++ b :: bs
  | as, bs => as.map (fun _ => "..") ++ bs

/-- A path as it is seen from the directory that a link will be in. -/
def relativePath (t : FileTree) (cwd : Place) (target path : String) : String :=
  let place? := match t.locate cwd .target (Octets.unpack target) with
    | .ok (.node place _) => some place
    | .ok (.absent dir name) => some (dir ++ [name])
    | .error _ => none
  match place?, t.locateParent cwd (Octets.unpack path) with
  | some place, .ok (dir, _, _) =>
      let way := wayFrom dir place
      Octets.pack (if way.isEmpty then "." else "/".intercalate way)
  | _, _ => target

def linkTo (p : Proc) (g : Given) (b : Backup) (suffix : String) (s : Progress)
    (target path : String) : Progress :=
  let symbolic := g.has 's'
  let t := s.files
  let failed (text : String) : Progress := s.complain p text
  let arrow := if symbolic then " -> " else " => "
  let source := if symbolic || !g.has 'L' then entryAt? t p.cwd target
    else (t.stat p.cwd (Octets.unpack target)).toOption
  let before := entryAt? t p.cwd path
  let replaces := g.has 'f' || g.has 'i' || b ≠ .none
  if !symbolic && source.isNone then
    failed ("failed to access " ++ inQuotes target ++ ": " ++ reason (entryError t p.cwd target))
  else if !symbolic && source.any fun x => x.2.isDir then
    failed (shown target ++ ": hard link not allowed for directory")
  else if replaces && before.any fun x => x.2.isDir then
    failed (shown path ++ ": cannot overwrite directory")
  else
    let same := before.any fun y =>
      ((t.stat p.cwd (Octets.unpack target)).toOption.orElse fun _ => source).any fun x =>
        x.1 = y.1
    if g.has 'f' && same && (b = .none || !symbolic) then
      failed (inQuotes target ++ " and " ++ inQuotes path ++ " are the same file")
    else
      let (agreed, s) := if g.has 'i' && before.isSome then
          s.ask p ("replace " ++ inQuotes path ++ "?")
        else (true, s)
      if !agreed then s.failing
      else
        let (t, aside) := if before.isSome then setAside b suffix p.cwd path s.files
          else (s.files, "")
        let t := if aside = "" && (g.has 'f' || g.has 'i') && before.isSome then
            (t.unlink p.cwd (Octets.unpack path)).toOption.getD t else t
        let text := if g.has 'r' then relativePath t p.cwd target path else target
        let made : Except IoError FileTree :=
          if symbolic then t.makeLink p.cwd (Octets.unpack text) (Octets.unpack path)
          else if g.has 'L' then
            match source with
            | some (_, x) => t.putNew p.cwd (Octets.unpack path) x
            | none => .error (.os .noEntry)
          else t.makeName p.cwd (Octets.unpack target) (Octets.unpack path)
        match made with
        | .ok t => (s.withFiles t).note (g.has 'v')
            ((if aside = "" then "" else inQuotes aside ++ " ~ ") ++ inQuotes path ++ arrow
              ++ inQuotes text)
        | .error e =>
            let whole := if symbolic then text = "" || e = .os .nameTooLong
              else e ≠ .os .exist && e ≠ .os .noSpace
            s.complain p ("failed to create " ++ (if symbolic then "symbolic link " else "hard link ")
              ++ inQuotes path ++ (if whole then arrow ++ inQuotes text else "") ++ ": " ++ reason e)

/-- **Makes symbolic links, or second names.** -/
def link (w : Host) (p : Proc) (args : List String) : Host :=
  withArguments w p linkOptions args fun g =>
    let isLink (path : String) : Bool := match entryAt? w.files p.cwd path with
      | some (_, .link _) => true
      | _ => false
    let plan : Except Refusal (Backup × String × List (String × String)) := do
      let (b, suffix) ← (backupOf p g).mapError (·, true)
      if g.has 'r' && !g.has 's' then throw ("cannot do --relative without --symbolic", false)
      let pairs ← match g.value? 't', g.operands with
        | none, [target] =>
            if g.has 'T' then
              throw ("missing destination file operand after " ++ inQuotes target, true)
            else pure [(target, within "." target)]
        | none, [target, path] =>
            if g.has 'n' && isLink path then pure [(target, path)]
            else (routes w p g).map Prod.fst
        | _, _ => (routes w p g).map Prod.fst
      return (b, suffix, pairs)
    match plan with
    | .error r => turnDown w p r
    | .ok (b, suffix, pairs) =>
        ((Progress.start w).through pairs fun s pair =>
          linkTo p g b suffix s pair.1 pair.2).finish p

/-- Gives one file a second name. -/
def linkOne (w : Host) (p : Proc) (args : List String) : Host :=
  match args with
  | [a, b] =>
      match w.files.makeName p.cwd (Octets.unpack a) (Octets.unpack b) with
      | .ok t => Host.settle (w.withFiles t) p 0
      | .error e =>
          refuse w p ("cannot create link " ++ inQuotes b ++ " to " ++ inQuotes a ++ ": "
            ++ reason e)
  | [] => misuse w p "missing operand"
  | [a] => misuse w p ("missing operand after " ++ inQuotes a)
  | _ :: _ :: extra :: _ => misuse w p ("extra operand " ++ inQuotes extra)

end BatchRunner.Utility
