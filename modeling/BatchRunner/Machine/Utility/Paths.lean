/-
**Utilities that show paths.**

A path without links and dots is found name by name: a link is replaced by its target, and a name
that is missing may be kept, if it comes last or if that is asked for.

Main definitions:

* `Utility.Canonical`, `Utility.Canonical.walk` — what is asked of a path, and finding it;
* `Utility.relativeText` — a place seen from another one;
* `Utility.readLink`, `Utility.realPaths` — utilities.
-/
import BatchRunner.Machine.Utility.Transfer

set_option autoImplicit false

namespace BatchRunner.Utility

/-- What is asked of a path without links and dots. -/
structure Canonical where
  /-- Everything on the way has to be there. -/
  existing : Bool
  /-- Nothing has to be there. -/
  missing : Bool
  /-- Links stand for themselves. -/
  linked : Bool

namespace Canonical

/-- Follows names from a place. -/
def walk (c : Canonical) (t : FileTree) (links : Nat) (here : Place) (names : List String) :
    Except Errno Place :=
  match names with
  | [] => .ok here
  | n :: rest =>
      if n = "." then c.walk t links here rest
      else if n = ".." then c.walk t links here.dropLast rest
      else
        let next := here ++ [n]
        match t.node? next with
        | some (.link target) =>
            if c.linked then c.walk t links next rest
            else
              match links with
              | 0 => .error .linkLoop
              | links + 1 =>
                  c.walk t links (if Path.isAbsolute target then [] else here)
                    (Path.pieces target ++ rest)
        | some x =>
            if x.isDir || rest.isEmpty || c.missing then c.walk t links next rest
            else .error .notDir
        | none =>
            if c.missing || (rest.isEmpty && !c.existing) then c.walk t links next rest
            else .error .noEntry
termination_by (links, names.length)

/-- **The place that a path leads to**, seen from a directory. -/
def place (c : Canonical) (t : FileTree) (cwd : Place) (path : String) : Except Errno Place :=
  if path = "" then .error .noEntry
  else
    match c.walk t linkMax (if Path.isAbsolute path then [] else cwd) (Path.pieces path) with
    | .error e => .error e
    | .ok p =>
        if Path.endsInSlash path && !c.missing && (t.node? p).any fun x => !x.isDir then
          .error .notDir
        else .ok p

end Canonical

def placeText (place : Place) : String := Octets.pack (Place.path place)

/-- A path that leads from one place to another, as it is shown. -/
def relativeText (start stop : Place) : String :=
  match wayFrom start stop with
  | [] => "."
  | names => Octets.pack ("/".intercalate names)

def pathEnd (g : Given) : Bytes := [if g.has 'z' then 0 else 10]

/-! ### Links -/

def readLinkOptions : List Opt :=
  [⟨'f', "canonicalize", .nothing⟩, ⟨'e', "canonicalize-existing", .nothing⟩,
    ⟨'m', "canonicalize-missing", .nothing⟩, ⟨'n', "no-newline", .nothing⟩,
    ⟨'q', "quiet", .nothing⟩, ⟨'s', "silent", .nothing⟩, ⟨'v', "verbose", .nothing⟩,
    ⟨'z', "zero", .nothing⟩]

def readLink (w : Host) (p : Proc) (args : List String) : Host :=
  withArguments w p readLinkOptions args fun g =>
    let target (a : String) : Except Errno String :=
      match g.lastOf? ['f', 'e', 'm'] with
      | some (o, _) =>
          (Canonical.place ⟨o = 'e', o = 'm', false⟩ w.files p.cwd (Octets.unpack a)).map placeText
      | none =>
          match w.files.locate p.cwd .entry (Octets.unpack a) with
          | .ok (.node _ (.link target)) => .ok (Octets.pack target)
          | .ok (.node _ _) => .error .invalid
          | .ok (.absent _ _) => .error .noEntry
          | .error (.os e) => .error e
          | .error _ => .error .noEntry
    if g.operands.isEmpty then misuse w p "missing operand"
    else
      let many := 1 < g.operands.length
      let w := if g.has 'n' && many
        then grumble w p "ignoring --no-newline with multiple arguments" else w
      let ending := if g.has 'n' && !many then [] else pathEnd g
      let loud := (g.lastOf? ['v', 'q', 's']).any fun o => o.1 = 'v'
      let (w, failed) := g.operands.foldl
        (fun (w, failed) a =>
          match target a with
          | .ok s => (Host.emitTo w p 1 (Octets.bytes s ++ ending), failed)
          | .error e => (if loud then grumble w p (shown a ++ ": " ++ e.text) else w, true))
        (w, false)
      Host.settle w p (if failed then 1 else 0)

/-! ### Paths without links -/

def realPathOptions : List Opt :=
  [⟨'e', "canonicalize-existing", .nothing⟩, ⟨'m', "canonicalize-missing", .nothing⟩,
    ⟨'L', "logical", .nothing⟩, ⟨'P', "physical", .nothing⟩, ⟨'q', "quiet", .nothing⟩,
    ⟨'s', "no-symlinks", .nothing⟩, ⟨'s', "strip", .nothing⟩, ⟨'z', "zero", .nothing⟩,
    ⟨'>', "relative-to", .value⟩, ⟨'<', "relative-base", .value⟩]

/-- Shows the paths without links and dots of what paths lead to. -/
def realPaths (w : Host) (p : Proc) (args : List String) : Host :=
  withArguments w p realPathOptions args fun g =>
    let mode := (g.lastOf? ['e', 'm']).map Prod.fst
    let way := (g.lastOf? ['L', 'P', 's']).map Prod.fst
    let find (a : String) : Except Errno Place :=
      let path := Octets.unpack a
      let path := if way = some 'L' && path ≠ ""
        then Place.path (Builtin.normalSteps []
          ((if Path.isAbsolute path then path else Place.path p.cwd ++ "/" ++ path).splitOn "/"))
        else path
      Canonical.place ⟨mode = some 'e', mode = some 'm', way = some 's'⟩ w.files p.cwd path
    let given (c : Char) : Except String (Option Place) := match g.value? c with
      | none => .ok none
      | some a => match find a with
          | .ok place => .ok (some place)
          | .error e => .error (shown a ++ ": " ++ e.text)
    match given '>', given '<' with
    | .error text, _ => refuse w p text
    | _, .error text => refuse w p text
    | .ok start?, .ok base? =>
        let start? := start?.or base?
        let text (place : Place) : String :=
          match start?, base? with
          | some start, some base =>
              if base.isPrefixOf place && base.isPrefixOf start then relativeText start place
              else placeText place
          | some start, none => relativeText start place
          | none, _ => placeText place
        if g.operands.isEmpty then misuse w p "missing operand"
        else
          let (w, failed) := g.operands.foldl
            (fun (w, failed) a =>
              match find a with
              | .ok place =>
                  (Host.emitTo w p 1 (Octets.bytes (text place) ++ pathEnd g), failed)
              | .error e => (if g.has 'q' then w else grumble w p (shown a ++ ": " ++ e.text), true))
            (w, false)
          Host.settle w p (if failed then 1 else 0)

end BatchRunner.Utility
