/-
**What a path leads to.**

Names are followed one by one from a starting directory, and each directory on the way must give
the right to.  Links are replaced by their targets, at most forty of them; a final link is followed
or not as the operation demands.  A trailing slash demands a directory, and no file can be made
under a name in front of one.

Main definitions:

* `File`, `FileTree` — what a file holds; the tree, the files its nodes stand for, and the directory
  that relative paths start from;
* `Right`, `FileTree.permits` — what permission bits give the owner, who all of this belongs to;
* `Found` — an existing node, or a name missing in an existing directory;
* `FileTree.walk` — follows names;
* `FileTree.locate`, `FileTree.locateParent` — what a path leads to, and the directory and last
  name an entry would be made under.
-/
import BatchRunner.Files.Errno
import BatchRunner.Files.Node
import BatchRunner.Path

set_option autoImplicit false

namespace BatchRunner

/-- A file: its permission bits, its contents, and when these were last changed, in milliseconds
since the start of 1970. -/
structure File where
  mode : Nat
  bytes : Bytes
  time : Nat
  deriving DecidableEq, Repr

/-- What is known of a directory besides its entries: its permission bits, and when an entry was
last made or removed. -/
structure DirInfo where
  mode : Nat
  time : Nat
  deriving DecidableEq, Repr

/-- A right that permission bits give the owner of something. -/
inductive Right where
  | read
  | write
  /-- To run a file, or to look up names in a directory. -/
  | pass
  deriving DecidableEq, Repr

namespace Right

/-- The permission bit of a right. -/
def bit : Right → Nat
  | read => 0o400
  | write => 0o200
  | pass => 0o100

/-- Whether permission bits give a right. -/
def isIn (r : Right) (mode : Nat) : Bool := mode &&& r.bit ≠ 0

end Right

/-- The permissions that are usually not given to new files. -/
def usualMask : Nat := 0o022

/-- Permission bits without those of a mask. -/
def unmasked (bits mask : Nat) : Nat := bits - (bits &&& mask)

/-- A directory that nothing can be made in. -/
structure Seal where
  place : Place
  /-- Why no directory can be made there. -/
  forDirs : Errno
  /-- Why nothing else can be made there. -/
  forFiles : Errno
  deriving DecidableEq, Repr

/-- The files of a machine. -/
structure FileTree where
  root : Node
  /-- The directory that relative paths start from. -/
  cwd : Place
  /-- The files by number.  One that no node stands for any more is still there for those who have
  it open. -/
  files : List File
  seals : List Seal
  /-- What is known of directories.  Of those that are not among them nothing is known that is not
  usual. -/
  dirs : List (Place × DirInfo)
  /-- The permissions that new files do not get. -/
  mask : Nat
  /-- The time. -/
  now : Nat
  /-- Directories that have been moved, and where to, or that have been removed.  Who is in one of
  them has not followed yet. -/
  moves : List (Place × Option Place)

/-- What the names of a path lead to. -/
inductive Found where
  | node (place : Place) (x : Node)
  /-- The directory exists, but has no entry of the last name. -/
  | absent (dir : Place) (name : String)

/-- The longest name a directory entry can have, in bytes. -/
def nameMax : Nat := 255

/-- The length from which on a path is refused, in bytes. -/
def pathMax : Nat := 4096

/-- The largest number of links that are followed. -/
def linkMax : Nat := 40

/-- The names to follow for a path.  A trailing slash stands for an empty name. -/
def stepsOf (path : String) : List String :=
  Path.pieces path ++ (if Path.endsInSlash path then [""] else [])

/-- The names to follow for a path that a file may be made at.  The slash stays with the last name,
so that the name can be refused before it is looked up. -/
def stepsToMake (path : String) : List String :=
  match Path.endsInSlash path, (Path.pieces path).getLast? with
  | true, some n =>
      if n = "." ∨ n = ".." then stepsOf path else (Path.pieces path).dropLast ++ [n ++ "/"]
  | _, _ => stepsOf path

/-- What is wanted of a path. -/
inductive Aim where
  /-- What its last name stands for, even if that is a link. -/
  | entry
  /-- What it leads to. -/
  | target
  /-- What it leads to, or where that can be made. -/
  | making
  deriving DecidableEq, Repr

/-- The names to follow for the target of a link that comes last. -/
def Aim.steps (aim : Aim) (target : String) : List String :=
  if aim = .making then stepsToMake target else stepsOf target

def Place.path (place : Place) : String := "/" ++ "/".intercalate place

namespace Place

/-- The name that a directory which has been removed is remembered by. -/
def goneName (name : String) : String :=
  if name.startsWith "\x00" then name else "\x00" ++ name

/-- Whether a place is that of a directory which has been removed.  Nothing is there any more but the
way back. -/
def isGone (place : Place) : Bool := place.getLast?.any fun n => n.startsWith "\x00"

/-- Where somebody is who was in a place before a directory was moved or removed. -/
def after (place : Place) (move : Place × Option Place) : Place :=
  if !move.1.isPrefixOf place then place
  else
    match move.2 with
    | some to' => to' ++ place.drop move.1.length
    | none =>
        move.1.dropLast ++ (place.drop (move.1.length - 1)).map goneName

end Place

namespace FileTree

/-- The path of the directory that relative paths start from. -/
def cwdPath (t : FileTree) : String := Place.path t.cwd

/-- The current directory as the program learns of it.  One that has been removed has no path. -/
def currentDir (t : FileTree) : Except Errno String :=
  if t.cwd.isGone then .error .noEntry else .ok t.cwdPath

def node? (t : FileTree) (place : Place) : Option Node := t.root.find? place

def file? (t : FileTree) (id : Nat) : Option File := t.files[id]?

def seal? (t : FileTree) (place : Place) : Option Seal := t.seals.find? fun s => s.place = place

/-- What is known of the directory at a place. -/
def dirInfo (t : FileTree) (place : Place) : DirInfo :=
  (t.dirs.lookup place).getD ⟨unmasked 0o777 usualMask, 0⟩

/-- Whether the permission bits of a node give a right. -/
def permits (t : FileTree) (r : Right) (place : Place) : Node → Bool
  | .file id => r.isIn (((t.file? id).map File.mode).getD 0)
  | .dir _ => r.isIn (t.dirInfo place).mode
  | .link _ => true
  | .device _ => true

/-- Demands a right on the directory at a place. -/
def demand (t : FileTree) (r : Right) (place : Place) : Except IoError Unit :=
  if r.isIn (t.dirInfo place).mode then .ok () else .error (.os .denied)

/-- Follows names from the directory `here`.  A link that comes last is replaced by its target too,
unless the entry itself is wanted. -/
def walk (t : FileTree) (aim : Aim) (links : Nat) (here : Place) (names : List String) :
    Except Errno Found :=
  match names with
  | [] =>
      match t.node? here with
      | some x => .ok (.node here x)
      | none => if here.isGone then .ok (.node here (.dir [])) else .error .noEntry
  | n :: rest =>
      match t.node? here with
      | none =>
          if here.isGone && (n = "" || n = ".") then t.walk aim links here rest
          else if here.isGone && n = ".." then t.walk aim links here.dropLast rest
          else .error .noEntry
      | some (.dir es) =>
          if n = "" then t.walk aim links here rest
          else if !Right.pass.isIn (t.dirInfo here).mode then .error .denied
          else if n = "." then t.walk aim links here rest
          else if n = ".." then t.walk aim links here.dropLast rest
          else if n.toList.getLast? = some '/' then .error .isDir
          else if nameMax < n.utf8ByteSize then .error .nameTooLong
          else
            match Entries.get? n es with
            | none => if rest = [] then .ok (.absent here n) else .error .noEntry
            | some (.link target) =>
                if rest = [] ∧ aim = .entry then .ok (.node (here ++ [n]) (.link target))
                else
                  match links with
                  | 0 => .error .linkLoop
                  | links + 1 =>
                      if target = "" then .error .noEntry
                      else
                        t.walk aim links (if Path.isAbsolute target then [] else here)
                          (if rest = [] then aim.steps target else stepsOf target ++ rest)
            | some _ => t.walk aim links (here ++ [n]) rest
      | some _ => .error .notDir
termination_by (links, names.length)

/-- Refuses paths that no operation accepts. -/
def checkPath (path : String) : Except IoError Unit :=
  if path.toList.any (· = '\x00') then .error .nulInPath
  else if path = "" then .error (.os .noEntry)
  else if pathMax ≤ path.utf8ByteSize then .error (.os .nameTooLong)
  else .ok ()

/-- The directory a path starts from. -/
def start (base : Place) (path : String) : Place :=
  if Path.isAbsolute path then [] else base

/-- What a path leads to, seen from the directory `base`. -/
def locate (t : FileTree) (base : Place) (aim : Aim) (path : String) :
    Except IoError Found := do
  checkPath path
  (t.walk aim linkMax (start base path) (aim.steps path)).mapError .os

/-- The last name of a path, as far as an entry can be made or removed under it. -/
inductive LastName where
  | name (n : String)
  | dot
  | dotDot
  | root
  deriving DecidableEq, Repr

def lastName (path : String) : LastName :=
  match (Path.pieces path).getLast? with
  | none => .root
  | some "." => .dot
  | some ".." => .dotDot
  | some n => .name n

/-- The directory that the last name of a path stands in, and that name. -/
def locateParent (t : FileTree) (base : Place) (path : String) :
    Except IoError (Place × List (String × Node) × LastName) := do
  checkPath path
  let found ← (t.walk .target linkMax (start base path) (Path.pieces path).dropLast).mapError .os
  match found with
  | .node place (.dir es) =>
      match place.isGone, lastName path with
      | true, .name _ => throw (.os .noEntry)
      | _, last => return (place, es, last)
  | .node _ _ => throw (.os .notDir)
  | .absent _ _ => throw (.os .noEntry)

end FileTree

end BatchRunner
