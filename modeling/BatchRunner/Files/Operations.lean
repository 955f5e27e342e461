/-
**Operations on a file tree.**

Each operation is a function of the tree; one that fails midway also gives the tree it leaves
behind.  Paths are seen from a directory that is given with them.

Main definitions:

* `Handle`, `FileTree.write` — something open for writing, and writing through it;
* `FileTree.create`, `FileTree.createNew` — opening a file for writing, emptied or new;
* `FileTree.rename`, `FileTree.makeName` — giving a node another name, or a second one;
* `FileTree.makeDirAll`, `FileTree.removeDirAll` — a directory with its ancestors, and with
  everything below it;
* `FileTree.isDir`, `FileTree.isPresent`, `FileTree.readText` — asking about a path.

Main results:

* `FileTree.file?_setFile_self`, `FileTree.file?_setFile_of_ne` — changing a file changes no other.
-/
import BatchRunner.Files.Resolve

set_option autoImplicit false

namespace BatchRunner

/-- What can be open. -/
inductive Opened where
  /-- The file with the given number. -/
  | file (id : Nat)
  | device (d : Device)
  deriving DecidableEq, Repr

/-- Something open for writing. -/
structure Handle where
  target : Opened
  /-- Where the next byte goes. -/
  offset : Nat
  /-- Whether every write goes to the end instead. -/
  append : Bool
  deriving DecidableEq, Repr

/-- Overwrites bytes from an offset on; a gap is filled with zeros. -/
def splice (bytes : Bytes) (offset : Nat) (new : Bytes) : Bytes :=
  bytes.take offset ++ List.replicate (offset - bytes.length) 0 ++ new
    ++ bytes.drop (offset + new.length)

@[simp] theorem splice_at_end (bytes new : Bytes) :
    splice bytes bytes.length new = bytes ++ new := by
  simp [splice]

namespace FileTree

/-- Sets what is known of a directory. -/
def setDirInfo (t : FileTree) (place : Place) (info : DirInfo) : FileTree :=
  { t with dirs := (place, info) :: t.dirs.filter fun d => d.1 ≠ place }

/-- Takes note that the entries of a directory are changed now. -/
def noteChange (t : FileTree) (place : Place) : FileTree :=
  t.setDirInfo place { t.dirInfo place with time := t.now }

/-- Takes note that a directory has been moved, or removed. -/
def noteMove (t : FileTree) (place : Place) (to? : Option Place) : FileTree :=
  let others := t.dirs.filter fun d => !to?.any fun to' => to'.isPrefixOf d.1
  { t with
    moves := t.moves ++ [(place, to?)]
    dirs := others.filterMap fun (at', info) =>
      if place.isPrefixOf at' then to?.map fun to' => (to' ++ at'.drop place.length, info)
      else some (at', info) }

def put (t : FileTree) (place : Place) (x : Node) : FileTree :=
  { t.noteChange place.dropLast with root := Node.put x place t.root }

/-- Removes a node and what is below it. -/
def remove (t : FileTree) (place : Place) : FileTree :=
  { t.noteChange place.dropLast with root := t.root.remove place }

/-- Changes the file with a number. -/
def setFile (t : FileTree) (id : Nat) (f : File) : FileTree :=
  { t with files := t.files.set id f }

theorem file?_setFile_self {t : FileTree} {id : Nat} (h : (t.file? id).isSome) (g : File) :
    (t.setFile id g).file? id = some g := by
  have : id < t.files.length := by simpa [file?] using h
  simp [setFile, file?, this]

theorem file?_setFile_of_ne {t : FileTree} {id other : Nat} (h : other ≠ id) (g : File) :
    (t.setFile id g).file? other = t.file? other := by
  simp [setFile, file?, List.getElem?_set_ne (Ne.symm h)]

/-- Changes what the file with a number holds. -/
def rewrite (t : FileTree) (id : Nat) (bytes : Bytes) : FileTree :=
  match t.file? id with
  | some f => t.setFile id { f with bytes := bytes, time := t.now }
  | none => t

/-- Makes a file at a place, with the next number. -/
def addFile (t : FileTree) (place : Place) (f : File) : Nat × FileTree :=
  (t.files.length, { t.put place (.file t.files.length) with files := t.files ++ [f] })

/-- **Writes through a handle** and moves it behind what it wrote. -/
def write (t : FileTree) (h : Handle) (new : Bytes) : Except Errno (FileTree × Handle) :=
  match h.target with
  | .file id =>
      match t.file? id with
      | none => .ok (t, h)
      | some f =>
          let offset := if h.append then f.bytes.length else h.offset
          .ok (t.setFile id { f with bytes := splice f.bytes offset new, time := t.now },
            { h with offset := offset + new.length })
  | .device d => if d = .full ∧ new ≠ [] then .error .noSpace else .ok (t, h)

/-! ### Asking -/

/-- The node a path leads to, links followed. -/
def stat (t : FileTree) (base : Place) (path : String) : Except IoError (Place × Node) := do
  match ← t.locate base .target path with
  | .node place x => return (place, x)
  | .absent _ _ => throw (.os .noEntry)

/-- The node a path leads to, if it leads anywhere. -/
def found? (t : FileTree) (base : Place) (path : String) : Option Node :=
  match t.stat base path with
  | .ok (_, x) => some x
  | .error _ => none

def fileAt? (t : FileTree) (base : Place) (path : String) : Option File :=
  match t.found? base path with
  | some (.file id) => t.file? id
  | _ => none

/-- Whether a path leads to a directory. -/
def isDir (t : FileTree) (base : Place) (path : String) : Bool :=
  (t.found? base path).any Node.isDir

/-- Whether a path leads to anything. -/
def isPresent (t : FileTree) (base : Place) (path : String) : Bool := (t.found? base path).isSome

/-- Whether a path leads to a file with contents. -/
def isNonemptyFile (t : FileTree) (base : Place) (path : String) : Bool :=
  (t.fileAt? base path).any fun f => !f.bytes.isEmpty

/-- The contents of a file that may be read. -/
def bytesIfReadable (t : FileTree) (id : Nat) : Except IoError Bytes :=
  match t.file? id with
  | some f => if Right.read.isIn f.mode then .ok f.bytes else .error (.os .denied)
  | none => .ok []

/-- The contents of the file a path leads to. -/
def readBytes (t : FileTree) (base : Place) (path : String) : Except IoError Bytes := do
  match ← t.stat base path with
  | (_, .file id) => t.bytesIfReadable id
  | (place, .dir _) =>
      t.demand .read place
      throw (.os .isDir)
  | (_, _) => return []

/-- The contents of a file that holds text. -/
def readText (t : FileTree) (base : Place) (path : String) : Except IoError String := do
  let bytes ← t.readBytes base path
  match textOf? bytes with
  | some text => return text
  | none => throw .notText

/-- The names in the directory a path leads to. -/
def namesIn (t : FileTree) (base : Place) (path : String) : Except IoError (List String) := do
  let (place, x) ← t.stat base path
  if !x.isDir then throw (.os .notDir)
  t.demand .read place
  return x.names

/-- **Every node below the directory that relative paths start from**, in increasing order of its
path, if all of them may be read. -/
def readAll (t : FileTree) : Except IoError (List (String × Node)) :=
  let top := (t.node? t.cwd).getD (.dir [])
  let isHidden (path : String) (y : Node) : Bool :=
    let here := t.cwd ++ Path.pieces path
    match y with
    | .dir es => !t.permits .read here y || (!es.isEmpty && !t.permits .pass here y)
    | _ => !t.permits .read here y
  if (("", top) :: Node.walk "" top).any fun e => isHidden e.1 e.2 then .error (.os .denied)
  else .ok top.listing

/-! ### Files -/

/-- Makes an empty file in a directory, unless that is sealed. -/
def makeFile (t : FileTree) (dir : Place) (name : String) : Except IoError (Handle × FileTree) := do
  match t.seal? dir with
  | some s => throw (.os s.forFiles)
  | none =>
      t.demand .write dir
      let (id, t) := t.addFile (dir ++ [name]) ⟨unmasked 0o666 t.mask, [], t.now⟩
      return (⟨.file id, 0, false⟩, t)

/-- Refuses to open a file for writing that may not be written. -/
def demandWritable (t : FileTree) (id : Nat) : Except IoError Unit :=
  if (t.file? id).all fun f => Right.write.isIn f.mode then .ok () else .error (.os .denied)

/-- Opens a file for writing: an existing one is emptied, a missing one is made. -/
def create (t : FileTree) (base : Place) (path : String) : Except IoError (Handle × FileTree) := do
  match ← t.locate base .making path with
  | .node _ (.file id) =>
      t.demandWritable id
      return (⟨.file id, 0, false⟩, t.rewrite id [])
  | .node _ (.device d) => return (⟨.device d, 0, false⟩, t)
  | .node _ _ => throw (.os .isDir)
  | .absent dir name => t.makeFile dir name

/-- Makes a file and opens it for writing; whatever has the name already is left alone, and so is
what a link of that name leads to. -/
def createNew (t : FileTree) (base : Place) (path : String) :
    Except IoError (Handle × FileTree) := do
  match ← t.locate base .entry path with
  | .node _ _ => throw (.os .exist)
  | .absent dir name => t.makeFile dir name

/-- Opens a file for writing at its end; a missing one is made. -/
def openAppend (t : FileTree) (base : Place) (path : String) :
    Except IoError (Handle × FileTree) := do
  match ← t.locate base .making path with
  | .node _ (.file id) =>
      t.demandWritable id
      return (⟨.file id, 0, true⟩, t)
  | .node _ (.device d) => return (⟨.device d, 0, true⟩, t)
  | .node _ _ => throw (.os .isDir)
  | .absent dir name =>
      let (h, t) ← t.makeFile dir name
      return ({ h with append := true }, t)

def writeFile (t : FileTree) (base : Place) (path : String) (bytes : Bytes) :
    Except IoError FileTree := do
  let (h, t) ← t.create base path
  return (← (t.write h bytes).mapError .os).1

/-- Sets the permission bits of a file or a directory. -/
def setMode (t : FileTree) (base : Place) (path : String) (mode : Nat) :
    Except IoError FileTree := do
  match ← t.stat base path with
  | (_, .file id) =>
      return ((t.file? id).map fun f => t.setFile id { f with mode := mode }).getD t
  | (place, .dir _) => return t.setDirInfo place { t.dirInfo place with mode := mode }
  | (_, _) => return t

def setTime (t : FileTree) (base : Place) (path : String) (time : Nat) :
    Except IoError FileTree := do
  match ← t.stat base path with
  | (_, .file id) =>
      return ((t.file? id).map fun f => t.setFile id { f with time := time }).getD t
  | (place, .dir _) => return t.setDirInfo place { t.dirInfo place with time := time }
  | (_, _) => return t

/-! ### Names -/

/-- Removes a name that is not a directory's. -/
def unlink (t : FileTree) (base : Place) (path : String) : Except IoError FileTree := do
  match ← t.locateParent base path with
  | (place, es, .name n) =>
      if nameMax < n.utf8ByteSize then throw (.os .nameTooLong)
      match Entries.get? n es with
      | none => throw (.os .noEntry)
      | some (.dir _) =>
          t.demand .write place
          throw (.os .isDir)
      | some _ =>
          if Path.endsInSlash path then throw (.os .notDir)
          t.demand .write place
          return t.remove (place ++ [n])
  | (_, _, _) => throw (.os .isDir)

/-- Puts a node that is no directory under a name that is not taken. -/
def putNew (t : FileTree) (base : Place) (path : String) (x : Node) : Except IoError FileTree := do
  match ← t.locateParent base path with
  | (place, es, .name n) =>
      if nameMax < n.utf8ByteSize then throw (.os .nameTooLong)
      match Entries.get? n es, t.seal? place with
      | some _, _ => throw (.os .exist)
      | none, some s => throw (.os s.forFiles)
      | none, none =>
          if Path.endsInSlash path then throw (.os .noEntry)
          t.demand .write place
          return t.put (place ++ [n]) x
  | (_, _, _) => throw (.os .exist)

def makeLink (t : FileTree) (base : Place) (target path : String) : Except IoError FileTree := do
  checkPath target
  t.putNew base path (.link target)

/-- Gives a node that is no directory a second name. -/
def makeName (t : FileTree) (base : Place) (old new : String) : Except IoError FileTree := do
  match ← t.locate base .entry old with
  | .absent _ _ => throw (.os .noEntry)
  | .node _ (.dir _) => throw (.os .notPermitted)
  | .node _ x => t.putNew base new x

/-- Whether two nodes are the same file. -/
def isSameFile : Node → Node → Bool
  | .file a, .file b => a = b
  | _, _ => false

/-- **Gives a node another name.**  What had that name before is replaced, if it is of the same
kind; a directory must be empty to be replaced. -/
def rename (t : FileTree) (base : Place) (old new : String) : Except IoError FileTree := do
  let (dir, es, last) ← t.locateParent base old
  let (dir', es', last') ← t.locateParent base new
  let .name n := last | throw (.os .busy)
  let .name n' := last' | throw (.os .busy)
  if nameMax < n.utf8ByteSize ∨ nameMax < n'.utf8ByteSize then throw (.os .nameTooLong)
  let some x := Entries.get? n es | throw (.os .noEntry)
  let place := dir ++ [n]
  let place' := dir' ++ [n']
  let slashed := Path.endsInSlash old || Path.endsInSlash new
  if slashed && !x.isDir then throw (.os .notDir)
  if place = place' then return t
  if place.isPrefixOf place' then throw (.os .invalid)
  if place'.isPrefixOf place then throw (.os .notEmpty)
  if (Entries.get? n' es').any (isSameFile x) then return t
  t.demand .write dir
  t.demand .write dir'
  if x.isDir && dir ≠ dir' then t.demand .write place
  let moved := (t.remove place).put place' x
  let moved := if x.isDir then moved.noteMove place (some place') else moved
  match Entries.get? n' es' with
  | none =>
      match t.seal? dir' with
      | some s => throw (.os s.forFiles)
      | none => return moved
  | some y =>
      match x.isDir, y with
      | true, .dir [] => return { moved with moves := t.moves ++ (place', none) ::
          (moved.moves.drop t.moves.length) }
      | true, .dir _ => throw (.os .notEmpty)
      | true, _ => throw (.os .notDir)
      | false, .dir _ => throw (.os .isDir)
      | false, _ => return moved

/-! ### Directories -/

/-- Makes a directory in an existing one. -/
def makeDir (t : FileTree) (base : Place) (path : String) : Except IoError FileTree := do
  match ← t.locateParent base path with
  | (place, es, .name n) =>
      if nameMax < n.utf8ByteSize then throw (.os .nameTooLong)
      match Entries.get? n es, t.seal? place with
      | some _, _ => throw (.os .exist)
      | none, some s => throw (.os s.forDirs)
      | none, none =>
          t.demand .write place
          return (t.put (place ++ [n]) (.dir [])).setDirInfo (place ++ [n])
            ⟨unmasked 0o777 t.mask, t.now⟩
  | (_, _, _) => throw (.os .exist)

/-- Removes an empty directory. -/
def removeDir (t : FileTree) (base : Place) (path : String) : Except IoError FileTree := do
  match ← t.locateParent base path with
  | (place, es, .name n) =>
      if nameMax < n.utf8ByteSize then throw (.os .nameTooLong)
      match Entries.get? n es with
      | none => throw (.os .noEntry)
      | some _ => t.demand .write place
      match Entries.get? n es with
      | some (.dir []) => return (t.remove (place ++ [n])).noteMove (place ++ [n]) none
      | some (.dir _) => throw (.os .notEmpty)
      | _ => throw (.os .notDir)
  | (_, _, .dot) => throw (.os .invalid)
  | (_, _, .dotDot) => throw (.os .notEmpty)
  | (_, _, .root) => throw (.os .busy)

/-- Climbs from a path to its nearest ancestor that exists or can be made, and makes that.  Gives
the paths passed on the way, the highest first. -/
def climb (base : Place) (below : List String) : List String → FileTree →
    Except IoError (List String) × FileTree
  | [], t => (.ok below, t)
  | p :: ps, t =>
      if p = "" then (.ok below, t)
      else
        match t.makeDir base p with
        | .ok t' => (.ok below, t')
        | .error (.os e) =>
            if e = .noEntry then climb base (p :: below) ps t
            else if e = .exist ∧ t.isDir base p then (.ok below, t)
            else (.error (.os e), t)
        | .error e => (.error e, t)

/-- Makes directories one after the other; one that is there already is left alone. -/
def descend (base : Place) : List String → FileTree → Except IoError Unit × FileTree
  | [], t => (.ok (), t)
  | p :: ps, t =>
      match t.makeDir base p with
      | .ok t' => descend base ps t'
      | .error e =>
          if e = .os .exist ∧ t.isDir base p then descend base ps t else (.error e, t)

/-- **Makes a directory together with the ancestors it lacks.** -/
def makeDirAll (t : FileTree) (base : Place) (path : String) : Except IoError Unit × FileTree :=
  if path = "" then (.ok (), t)
  else
    match climb base [] (path :: Path.ancestors path) t with
    | (.error e, t') => (.error e, t')
    | (.ok below, t') => descend base below t'

/-- Takes an entry out of the directory at a place. -/
def dropEntry (t : FileTree) (place : Place) (n : String) (x : Node) : Except IoError FileTree := do
  t.demand .write place
  let t' := t.remove (place ++ [n])
  return if x.isDir then t'.noteMove (place ++ [n]) none else t'

mutual

/-- Removes everything below a node, up to the first thing that cannot be removed. -/
def clear (t : FileTree) (place : Place) : Node → Except IoError Unit × FileTree
  | .dir es =>
      match t.demand .read place with
      | .ok _ => t.clearEntries place es
      | .error e => (.error e, t)
  | _ => (.ok (), t)

/-- Removes entries of a directory with everything below them, one after the other. -/
def clearEntries (t : FileTree) (place : Place) :
    List (String × Node) → Except IoError Unit × FileTree
  | [] => (.ok (), t)
  | (n, x) :: es =>
      match t.demand .pass place with
      | .error e => (.error e, t)
      | .ok _ =>
          match t.clear (place ++ [n]) x with
          | (.error e, t') => (.error e, t')
          | (.ok _, t') =>
              match t'.dropEntry place n x with
              | .error e => (.error e, t')
              | .ok t'' => t''.clearEntries place es

end

/-- **Removes a directory with everything below it.**  Of a link only the link is removed.  The
contents go first, so a directory that cannot be removed by its path is left empty, and one whose
contents cannot all be removed is left with the rest; if the path leads nowhere any more because
something on it was among the contents, that is no failure. -/
def removeDirAll (t : FileTree) (base : Place) (path : String) : Except IoError Unit × FileTree :=
  match t.locate base .entry path with
  | .error e => (.error e, t)
  | .ok (.absent _ _) => (.error (.os .noEntry), t)
  | .ok (.node _ (.link _)) =>
      match t.unlink base path with
      | .ok t' => (.ok (), t')
      | .error e => (.error e, t)
  | .ok (.node place (.dir es)) =>
      match t.clear place (.dir es) with
      | (.error e, t') => (.error e, t')
      | (.ok _, t') =>
          let base := (t'.moves.drop t.moves.length).foldl Place.after base
          match t'.removeDir base path with
          | .ok t'' => (.ok (), t'')
          | .error e => (if e = .os .noEntry then .ok () else .error e, t')
  | .ok (.node _ _) => (.error (.os .notDir), t)

end FileTree

end BatchRunner
