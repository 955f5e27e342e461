/-
**What is known of files.**

Main definitions:

* `FileTree.Facts`, `FileTree.factsOf` — kind, permission bits, size, time and names of a node;
* `FileTree.Facts.modeText` — permission bits as they are listed.
-/
import BatchRunner.Files.Operations

set_option autoImplicit false

namespace BatchRunner.FileTree

/-- What is known of a node. -/
structure Facts where
  /-- The letter of its kind: `-` for a file, `d` for a directory, `l` for a link, `c` for a
  device. -/
  kind : Char
  mode : Nat
  /-- How many names it has. -/
  links : Nat
  size : Nat
  /-- When it was changed, in milliseconds since the start of 1970. -/
  time : Nat
  /-- A number that no other file has. -/
  number : Nat
  deriving DecidableEq, Repr

def dirSize : Nat := 4096

def nameCount (t : FileTree) (id : Nat) : Nat :=
  ((Node.listing t.root).filter fun e => FileTree.isSameFile e.2 (.file id)).length

/-- A number for the node at a place that is no file. -/
def placeNumber (place : Place) : Nat :=
  (Place.path place).foldl (fun n c => (n * 31 + c.toNat) % 1000003) 1000003

/-- **What is known of a node** at a place. -/
def factsOf (t : FileTree) (place : Place) : Node → Facts
  | .file id =>
      let f := (t.file? id).getD ⟨0, [], 0⟩
      ⟨'-', f.mode, t.nameCount id, f.bytes.length, f.time, id⟩
  | .dir es =>
      let info := t.dirInfo place
      ⟨'d', info.mode, 2 + (es.filter fun e => e.2.isDir).length, dirSize, info.time,
        placeNumber place⟩
  | .link target => ⟨'l', 0o777, 1, target.utf8ByteSize, 0, placeNumber place⟩
  | .device _ => ⟨'c', 0o666, 1, 0, 0, placeNumber place⟩

/-- What is known of what a path leads to. -/
def facts? (t : FileTree) (base : Place) (path : String) : Option Facts :=
  match t.stat base path with
  | .ok (place, x) => some (t.factsOf place x)
  | .error _ => none

/-- Permission bits in letters. -/
def modeText (mode : Nat) : String :=
  let has (bit : Nat) : Bool := mode &&& bit ≠ 0
  let three (r w x special : Nat) (with' without : Char) : List Char :=
    [if has r then 'r' else '-', if has w then 'w' else '-',
      if has special then (if has x then with' else without) else if has x then 'x' else '-']
  String.ofList (three 0o400 0o200 0o100 0o4000 's' 'S' ++ three 0o040 0o020 0o010 0o2000 's' 'S'
    ++ three 0o004 0o002 0o001 0o1000 't' 'T')

/-- How many blocks of 1024 bytes a node takes. -/
def Facts.blocks (f : Facts) : Nat :=
  if f.kind = '-' || f.kind = 'd' then (f.size + 4095) / 4096 * 4 else 0

end BatchRunner.FileTree
