/-
**Utilities that change files.**

Main definitions:

* `Utility.forPaths` — does something to each of some paths;
* `Utility.mkdir`, `Utility.rmdir`, `Utility.rm` — utilities that make and remove;
* `Utility.tee`, `Utility.truncate` — utilities that write.
-/
import BatchRunner.Machine.Mode
import BatchRunner.Machine.Utility.Transfer

set_option autoImplicit false

namespace BatchRunner.Utility

/-- Does something to each of some paths, and complains about those it fails for. -/
def forPaths (w : Host) (p : Proc) (args : List String) (what behind : String)
    (act : FileTree → String → Except IoError Unit × FileTree) (note : String → String) : Host :=
  let (w, failed) := args.foldl
    (fun (w, failed) a =>
      match act w.files (Octets.unpack a) with
      | (.ok (), t) =>
          (Host.emitTo (w.withFiles t) p 1 (Octets.bytes (note a)), failed)
      | (.error e, t) =>
          (grumble (w.withFiles t) p (what ++ " " ++ inQuotes a ++ behind ++ ": " ++ reason e),
            true))
    (w, false)
  w.settle p (if failed then 1 else 0)

/-- Nothing is noted. -/
def silent (_ : String) : String := ""

/-- The result of an operation and the tree it leaves. -/
def outcome (t : FileTree) : Except IoError FileTree → Except IoError Unit × FileTree
  | .ok t' => (.ok (), t')
  | .error e => (.error e, t)

/-- Makes a directory, and with an option those above it too. -/
def makeOne (p : Proc) (g : Given) (mode : Option Nat) (s : Progress) (a : String) : Progress :=
  let all := if g.has 'p' then dirsAbove a ++ [a] else [a]
  let step (x : Progress × Bool) (d : String) : Progress × Bool :=
    let (s, going) := x
    let path := Octets.unpack d
    if !going then (s, false)
    else
      match s.files.makeDir p.cwd path with
      | .ok t =>
          let t := match mode, decide (d = a) with
            | some m, true => (t.setMode p.cwd path m).toOption.getD t
            | _, _ => t
          ((s.withFiles t).note (g.has 'v')
            (p.shell.name ++ ": created directory " ++ inQuotes d), true)
      | .error e =>
          if g.has 'p' && e = .os .exist && s.files.isDir p.cwd path then (s, true)
          else
            let e := if e = .os .exist && d ≠ a then .os .notDir else e
            (s.complain p ("cannot create directory " ++ inQuotes d ++ ": " ++ reason e), false)
  (all.foldl step (s, true)).1

def mkdir (w : Host) (p : Proc) (args : List String) : Host :=
  withArguments w p [⟨'p', "parents", .nothing⟩, ⟨'v', "verbose", .nothing⟩,
      ⟨'m', "mode", .value⟩] args fun g =>
    let mode := (g.value? 'm').map fun m => (m, Mode.change? m p.mask true 0o777)
    match g.operands, mode with
    | [], _ => misuse w p "missing operand"
    | _, some (m, none) => refuse w p ("invalid mode " ++ inQuotes m)
    | operands, mode =>
        ((Progress.start w).through operands (makeOne p g (mode.bind Prod.snd))).finish p

/-- Removes an empty directory, and with an option those above it too. -/
def removeOne (p : Proc) (g : Given) (s : Progress) (a : String) : Progress :=
  let all := if g.has 'p' then a :: (dirsAbove a).reverse else [a]
  let step (x : Progress × Bool) (d : String) : Progress × Bool :=
    let (s, going) := x
    if !going then (s, false)
    else
      let s := s.note (g.has 'v') (p.shell.name ++ ": removing directory, " ++ inQuotes d)
      match s.files.removeDir p.cwd (Octets.unpack d) with
      | .ok t => (s.withFiles t, true)
      | .error e =>
          if g.has 'ι' && e = .os .notEmpty then (s, false)
          else
            (s.complain p ("failed to remove " ++ (if d = a then "" else "directory ")
              ++ inQuotes d ++ ": " ++ reason e), false)
  (all.foldl step (s, true)).1

def rmdir (w : Host) (p : Proc) (args : List String) : Host :=
  withArguments w p [⟨'p', "parents", .nothing⟩, ⟨'v', "verbose", .nothing⟩,
      ⟨'ι', "ignore-fail-on-non-empty", .nothing⟩] args fun g =>
    if g.operands.isEmpty then misuse w p "missing operand"
    else ((Progress.start w).through g.operands (removeOne p g)).finish p

/-! ### Removing -/

/-- What something is called before it is removed. -/
def kindName (t : FileTree) : Node → String
  | .dir _ => "directory"
  | .link _ => "symbolic link"
  | .device _ => "character special file"
  | .file id =>
      if (t.file? id).any fun f => !f.bytes.isEmpty then "regular file" else "regular empty file"

/-- Removes a name, or a directory that is empty by now, and says whether that was done. -/
def removeName (p : Proc) (verbose isDir : Bool) (path : String) (s : Progress) :
    Bool × Progress :=
  let done := if isDir then s.files.removeDir p.cwd (Octets.unpack path)
    else s.files.unlink p.cwd (Octets.unpack path)
  match done with
  | .ok t => (true, (s.withFiles t).note verbose
      ((if isDir then "removed directory " else "removed ") ++ inQuotes path))
  | .error e => (false, s.complain p ("cannot remove " ++ inQuotes path ++ ": " ++ reason e))

/-- Asks before a name is removed.  Says whether nothing failed. -/
def removeAsked (p : Proc) (asks verbose : Bool) (path : String) (x : Node) (s : Progress) :
    Bool × Progress :=
  let (agreed, s) := if asks then
      s.ask p ("remove " ++ kindName s.files x ++ " " ++ inQuotes path ++ "?")
    else (true, s)
  if agreed then removeName p verbose x.isDir path s else (true, s)

mutual

/-- Removes a node and what is below it, the latter first.  A directory stays if something below it
could not be removed or was not to be entered. -/
def removeDeep (p : Proc) (asks verbose : Bool) (path : String) :
    Node → Progress → Bool × Progress
  | .dir [], s => removeAsked p asks verbose path (.dir []) s
  | .dir (e :: es), s =>
      let (agreed, s) := if asks then
          s.ask p ("descend into directory " ++ inQuotes path ++ "?")
        else (true, s)
      match agreed, s.files.namesIn p.cwd (Octets.unpack path) with
      | false, _ => (false, s)
      | true, .error e =>
          (false, s.complain p ("cannot remove " ++ inQuotes path ++ ": " ++ reason e))
      | true, .ok _ =>
          match removeAmong p asks verbose path (e :: es) s with
          | (true, s) => removeAsked p asks verbose path (.dir (e :: es)) s
          | (false, s) => (false, s)
  | .file id, s => removeAsked p asks verbose path (.file id) s
  | .link target, s => removeAsked p asks verbose path (.link target) s
  | .device d, s => removeAsked p asks verbose path (.device d) s

def removeAmong (p : Proc) (asks verbose : Bool) (path : String) :
    List (String × Node) → Progress → Bool × Progress
  | [], s => (true, s)
  | (n, x) :: es, s =>
      let (ok, s) := removeDeep p asks verbose (Path.join path (Octets.pack n)) x s
      let (more, s) := removeAmong p asks verbose path es s
      (ok && more, s)

end

/-- Whether a path ends in a name that no directory is removed by. -/
def endsInDots (a : String) : Bool :=
  match (a.splitOn "/").filter (· ≠ "") |>.getLast? with
  | some n => n = "." || n = ".."
  | none => false

def removePath (p : Proc) (g : Given) (asks : Bool) (s : Progress) (a : String) : Progress :=
  let deep := g.has 'r' || g.has 'R'
  let verbose := g.has 'v'
  let forced := (g.lastOf? ['f', 'i']).any fun o => o.1 = 'f'
  let failed (text : String) : Progress :=
    s.complain p ("cannot remove " ++ inQuotes a ++ ": " ++ text)
  match s.files.locate p.cwd .entry (Octets.unpack a) with
  | .error e => if forced && Program.isMissing (Program.errnoOf e) then s else failed (reason e)
  | .ok (.absent _ _) => if forced then s else failed Errno.noEntry.text
  | .ok (.node [] _) =>
      if deep then
        ((s.complain p ("it is dangerous to operate recursively on " ++ inQuotes "/")).complain p
          "use --no-preserve-root to override this failsafe")
      else failed Errno.isDir.text
  | .ok (.node _ (.dir es)) =>
      if deep && endsInDots a then
        s.complain p ("refusing to remove '.' or '..' directory: skipping " ++ inQuotes a)
      else if deep then
        (removeDeep p asks verbose a (.dir es) s).2
      else if g.has 'd' then
        if es.isEmpty then (removeAsked p asks verbose a (.dir []) s).2
        else failed Errno.notEmpty.text
      else failed Errno.isDir.text
  | .ok (.node _ x) => (removeAsked p asks verbose a x s).2

def removeOptions : List Opt :=
  [⟨'f', "force", .nothing⟩, ⟨'r', "recursive", .nothing⟩, ⟨'R', "", .nothing⟩,
    ⟨'v', "verbose", .nothing⟩, ⟨'d', "dir", .nothing⟩, ⟨'i', "", .nothing⟩, ⟨'I', "", .nothing⟩,
    ⟨'ι', "interactive", .maybe⟩, ⟨'/', "preserve-root", .maybe⟩,
    ⟨'ξ', "one-file-system", .nothing⟩]

/-- When a question is asked before removing: an option that stands for never, once, or always. -/
def removalAsks (g : Given) : Except String Char :=
  match g.lastOf? ['f', 'i', 'I', 'ι'] with
  | none => .ok 'f'
  | some ('ι', word) =>
      if word = "" then .ok 'i'
      else
        match [("never", 'f'), ("no", 'f'), ("none", 'f'), ("once", 'I'), ("always", 'i'),
            ("yes", 'i')].find? fun x => x.1.startsWith word with
        | some (_, c) => .ok c
        | none => .error (noChoice word "--interactive" ["'never', 'no', 'none'", "'once'",
            "'always', 'yes'"])
  | some (c, _) => .ok c

/-- Removes files, and with an option directories. -/
def rm (w : Host) (p : Proc) (args : List String) : Host :=
  match parse removeOptions true args with
  | .error text =>
      let meant := args.find? fun a => a.startsWith "-" && (entryAt? w.files p.cwd a).isSome
      misuse w p (match meant with
        | some a => text ++ "\nTry '" ++ p.shell.name ++ " ./" ++ a ++ "' to remove the file "
            ++ inQuotes a ++ "."
        | none => text)
  | .ok g =>
      match removalAsks g, g.operands with
      | .error text, _ => misuse w p text
      | .ok _, [] => if g.has 'f' then w.settle p 0 else misuse w p "missing operand"
      | .ok c, operands =>
          let deep := g.has 'r' || g.has 'R'
          let n := operands.length
          let s := Progress.start w
          let (agreed, s) := if c = 'I' && (deep || 3 < n) then
              s.ask p ("remove " ++ toString n ++ (if n = 1 then " argument" else " arguments")
                ++ (if deep then " recursively?" else "?"))
            else (true, s)
          (if agreed then s.through operands (removePath p g (c = 'i')) else s).finish p

/-! ### Writing -/

/-- Copies standard input to standard output and to files. -/
def tee (w : Host) (p : Proc) (args : List String) : Host :=
  withArguments w p [⟨'a', "append", .nothing⟩, ⟨'i', "ignore-interrupts", .nothing⟩] args fun g =>
    let input : Bytes × List (Except String Bytes) × Host := match contents w p "-" with
      | .ok (b, w) => (b, [], w)
      | .error e =>
          ([], .error ("read error: " ++ reason e) :: closing p ["-"] "standard input", w)
    let (b, wrong, w) := input
    let (w, failed) := g.operands.foldl
      (fun (w, failed) a =>
        let written : Except IoError FileTree := do
          let (h, t) ← if g.has 'a' then w.files.openAppend p.cwd (Octets.unpack a)
            else w.files.create p.cwd (Octets.unpack a)
          return (← (t.write h b).mapError .os).1
        match written with
        | .ok t => (w.withFiles t, failed)
        | .error e => (grumble w p (shown a ++ ": " ++ reason e), true))
      (w, false)
    showInTurn (p.withStatus (if failed || !wrong.isEmpty then 1 else 0)) (.ok b :: wrong) w

/-- How a size follows from the one that is there. -/
inductive Resizing where
  | exactly
  | longer
  | shorter
  | atMost
  | atLeast
  /-- The next smaller multiple. -/
  | below
  /-- The next larger multiple. -/
  | above
  deriving DecidableEq, Repr

namespace Resizing

/-- How a size is to follow, and what stands behind the sign that says so. -/
def ofText (s : String) : Resizing × String :=
  match s.toList with
  | '+' :: cs => (.longer, String.ofList cs)
  | '-' :: cs => (.shorter, String.ofList cs)
  | '<' :: cs => (.atMost, String.ofList cs)
  | '>' :: cs => (.atLeast, String.ofList cs)
  | '/' :: cs => (.below, String.ofList cs)
  | '%' :: cs => (.above, String.ofList cs)
  | _ => (.exactly, s)

def size (r : Resizing) (old n : Nat) : Nat :=
  match r with
  | .exactly => n
  | .longer => old + n
  | .shorter => old - n
  | .atMost => min old n
  | .atLeast => max old n
  | .below => old / n * n
  | .above => (old + n - 1) / n * n

end Resizing

def blockSize : Nat := 4096

def truncate (w : Host) (p : Proc) (args : List String) : Host :=
  withArguments w p [⟨'s', "size", .value⟩, ⟨'c', "no-create", .nothing⟩,
      ⟨'r', "reference", .value⟩, ⟨'o', "io-blocks", .nothing⟩] args fun g =>
    let asked := (g.value? 's').map Resizing.ofText
    let number (s : String) : Except String Nat := match size? s with
      | none => .error ("Invalid number: " ++ inQuotes ((g.value? 's').getD ""))
      | some n =>
          if 9223372036854775807 < n then
            .error ("Invalid number: " ++ inQuotes s ++ ": Value too large for defined data type")
          else .ok n
    let size := (asked.map fun a => number a.2).getD (.ok 0)
    let how := (asked.map Prod.fst).getD .longer
    match size, g.operands with
    | .error text, _ => refuse w p text
    | .ok n, operands =>
        if (how = .below || how = .above) && n = 0 then refuse w p "division by zero"
        else if asked.isNone && !g.has 'r' then
          misuse w p "you must specify either '--size' or '--reference'"
        else if g.has 'r' && how = .exactly then
          misuse w p "you must specify a relative '--size' with '--reference'"
        else if g.has 'o' && asked.isNone then
          misuse w p "'--io-blocks' was specified but '--size' was not"
        else if operands.isEmpty then misuse w p "missing file operand"
        else
          let model := (g.value? 'r').map fun a =>
            (a, (w.files.facts? p.cwd (Octets.unpack a)).map FileTree.Facts.size)
          match model with
          | some (a, none) => refuse w p ("cannot stat " ++ inQuotes a ++ ": "
              ++ (match w.files.stat p.cwd (Octets.unpack a) with
                | .error e => reason e
                | .ok _ => ""))
          | _ =>
              let n := if g.has 'o' then n * blockSize else n
              let base? := model.bind Prod.snd
              forPaths w p operands "cannot open" " for writing"
                (fun t a =>
                  if g.has 'c' && !t.isPresent p.cwd a then (.ok (), t)
                  else
                    outcome t (do
                      let (h, t) ← t.openAppend p.cwd a
                      match h.target with
                      | .file id =>
                          let bytes := ((t.file? id).map File.bytes).getD []
                          let size := how.size (base?.getD bytes.length) n
                          return t.rewrite id
                            (bytes.take size ++ List.replicate (size - bytes.length) 0)
                      | _ => return t))
                silent

def unlinkOne (w : Host) (p : Proc) (args : List String) : Host :=
  match args with
  | [] => misuse w p "missing operand"
  | [a] =>
      match w.files.unlink p.cwd (Octets.unpack a) with
      | .ok t => Host.settle (w.withFiles t) p 0
      | .error e => refuse w p ("cannot unlink " ++ inQuotes a ++ ": " ++ reason e)
  | _ :: extra :: _ => misuse w p ("extra operand " ++ inQuotes extra)

end BatchRunner.Utility
