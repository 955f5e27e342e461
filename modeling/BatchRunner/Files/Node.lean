/-
**Files, links and directories as a tree.**

A node stands for a file, a symbolic link, a device or a directory of named nodes.  Files are known
by their numbers, so that one file may have several names, and keeps what it holds under another
name or under none.  A place is the list of names that leads to a node from the root directory.

Main definitions:

* `Node`, `Place` — the tree and the addresses in it;
* `Device` — what is no file but can be read and written like one;
* `Entries.get?`, `Entries.set`, `Entries.erase` — the entries of a directory;
* `Node.find?`, `Node.put`, `Node.remove` — the node at a place, and changing it;
* `Node.listing` — every node below a directory, in order of its path.

Main results:

* `Entries.get?_set_self`, `Entries.get?_set_of_ne` — writing an entry and reading it, or another;
* `Entries.get?_erase_self`, `Entries.get?_erase_of_ne` — the same for erasing.
-/

set_option autoImplicit false

namespace BatchRunner

/-- The contents of a file. -/
abbrev Bytes := List UInt8

def bytesOf (s : String) : Bytes := s.toUTF8.toList

/-- The text that the bytes encode, if they encode one. -/
def textOf? (b : Bytes) : Option String := String.fromUTF8? ⟨b.toArray⟩

/-- The names from the root directory to a node. -/
abbrev Place := List String

/-- What can be read and written like a file, but keeps nothing. -/
inductive Device where
  /-- Takes everything and gives nothing. -/
  | null
  /-- Takes nothing, for want of room, and gives zeros without end. -/
  | full
  /-- Takes everything, and gives zeros without end. -/
  | zero
  /-- The stream with the given number of whoever opens it. -/
  | own (fd : Nat)
  deriving DecidableEq, Repr

/-- A node of the tree. -/
inductive Node where
  /-- The file with the given number. -/
  | file (id : Nat)
  /-- A symbolic link. -/
  | link (target : String)
  | device (d : Device)
  | dir (entries : List (String × Node))

namespace Entries

def get? (name : String) : List (String × Node) → Option Node
  | [] => none
  | (n, x) :: es => if n = name then some x else get? name es

/-- Writes the entry of a name, in place if there is one. -/
def set (name : String) (x : Node) : List (String × Node) → List (String × Node)
  | [] => [(name, x)]
  | (n, y) :: es => if n = name then (n, x) :: es else (n, y) :: set name x es

/-- Erases the entry of a name. -/
def erase (name : String) : List (String × Node) → List (String × Node)
  | [] => []
  | (n, y) :: es => if n = name then erase name es else (n, y) :: erase name es

@[simp] theorem get?_set_self (name : String) (x : Node) (es : List (String × Node)) :
    get? name (set name x es) = some x := by
  induction es with
  | nil => simp [set, get?]
  | cons e es ih => by_cases h : e.1 = name <;> simp [set, get?, h, ih]

theorem get?_set_of_ne {name other : String} (h : other ≠ name) (x : Node)
    (es : List (String × Node)) : get? other (set name x es) = get? other es := by
  induction es with
  | nil => simp [set, get?, Ne.symm h]
  | cons e es ih =>
      by_cases hn : e.1 = name
      · simp [set, get?, hn, Ne.symm h]
      · simp [set, get?, hn, ih]

@[simp] theorem get?_erase_self (name : String) (es : List (String × Node)) :
    get? name (erase name es) = none := by
  induction es with
  | nil => rfl
  | cons e es ih => by_cases h : e.1 = name <;> simp [erase, get?, h, ih]

theorem get?_erase_of_ne {name other : String} (h : other ≠ name) (es : List (String × Node)) :
    get? other (erase name es) = get? other es := by
  induction es with
  | nil => rfl
  | cons e es ih =>
      by_cases hn : e.1 = name
      · simp [erase, get?, hn, Ne.symm h, ih]
      · simp [erase, get?, hn, ih]

end Entries

namespace Node

def find? : Place → Node → Option Node
  | [], x => some x
  | n :: ns, .dir es => (Entries.get? n es).bind (find? ns)
  | _ :: _, _ => none

/-- Puts a node at a place whose directory exists. -/
def put (new : Node) : Place → Node → Node
  | [], _ => new
  | [n], .dir es => .dir (Entries.set n new es)
  | n :: m :: ns, .dir es =>
      match Entries.get? n es with
      | some x => .dir (Entries.set n (put new (m :: ns) x) es)
      | none => .dir es
  | _ :: _, x => x

/-- Removes the node at a place, with everything below it. -/
def remove : Place → Node → Node
  | [], x => x
  | [n], .dir es => .dir (Entries.erase n es)
  | n :: m :: ns, .dir es =>
      match Entries.get? n es with
      | some x => .dir (Entries.set n (remove (m :: ns) x) es)
      | none => .dir es
  | _ :: _, x => x

/-- Whether a node is a directory. -/
def isDir : Node → Bool
  | .dir _ => true
  | _ => false

def names : Node → List String
  | .dir es => es.map Prod.fst
  | _ => []

mutual

/-- Every node below a node, with the path that leads to it. -/
def walk (path : String) : Node → List (String × Node)
  | .dir es => walkEntries path es
  | _ => []

/-- Every node in a list of entries and below, with the path that leads to it. -/
def walkEntries (path : String) : List (String × Node) → List (String × Node)
  | [] => []
  | (n, x) :: es =>
      let p := if path = "" then n else path ++ "/" ++ n
      (p, x) :: walk p x ++ walkEntries path es

end

/-- Every node below a node in increasing order of its path, compared byte by byte. -/
def listing (x : Node) : List (String × Node) :=
  (walk "" x).mergeSort fun a b => decide (bytesOf a.1 ≤ bytesOf b.1)

end Node

end BatchRunner
