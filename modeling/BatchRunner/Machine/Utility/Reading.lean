/-
**What utilities read and show.**

Main definitions:

* `Utility.contents`, `Utility.collect` — what a file or standard input holds, and several of them;
* `Utility.records`, `Utility.joinRecords` — bytes as records, and records as bytes;
* `Utility.showInTurn` — outputs and complaints, one after the other;
* `Utility.filterEach`, `Utility.filterAll` — what is made of files, one by one or together.
-/
import BatchRunner.Machine.Utility.Arguments
import BatchRunner.Machine.Utility.Lines

set_option autoImplicit false

namespace BatchRunner.Utility

/-- How much is read at most of what never ends. -/
def endlessMax : Nat := 1000000

def isEndless : Stream → Bool
  | .device .zero _ => true
  | .device .full _ => true
  | _ => false

def drain (w : Host) (s : Stream) : Except IoError (Bytes × Host) :=
  if s = .folder then .error (.os .isDir)
  else if w.accessOf s = .writing then .error (.os .badStream)
  else if w.isDry s || w.hasMore s && !isEndless s then .ok (w.take s)
  else .ok (List.replicate endlessMax 0, w)

/-- What a file holds, or standard input.  A file that a process has open is read from its
beginning if it is opened by the number of its stream. -/
def contents (w : Host) (p : Proc) (path : String) : Except IoError (Bytes × Host) :=
  if isInput path then
    match p.stream? 0 with
    | some s => drain w s
    | none => .error (.os .badStream)
  else
    match w.files.found? p.cwd (Octets.unpack path) with
    | some (.device (.own n)) =>
        match p.stream? n with
        | none => .error (.os .noEntry)
        | some s =>
            match w.fileOf? s with
            | some id => .ok (((w.files.file? id).map File.bytes).getD [], w)
            | none => drain w s
    | some (.device d) =>
        .ok (if d = .zero ∨ d = .full then List.replicate endlessMax 0 else [], w)
    | _ => (w.files.readBytes p.cwd (Octets.unpack path)).map fun b => (b, w)

/-- What files hold, each with its name, or why it cannot be read. -/
def collect (p : Proc) : List String → Host → List (String × Except IoError Bytes) × Host
  | [], w => ([], w)
  | a :: as, w =>
      match contents w p a with
      | .ok (b, w) =>
          let (rest, w) := collect p as w
          ((a, .ok b) :: rest, w)
      | .error e =>
          let (rest, w) := collect p as w
          ((a, .error e) :: rest, w)

/-- What files hold, each with its name.  About those that cannot be read there is a complaint. -/
def gather (complaint : String → IoError → String) (p : Proc) (as : List String) (w : Host) :
    List (String × Bytes) × Bool × Host :=
  let (found, w) := collect p as w
  let w := found.foldl (fun w x =>
    match x.2 with
    | .error e => grumble w p (complaint x.1 e)
    | .ok _ => w) w
  (found.filterMap fun x => x.2.toOption.map fun b => (x.1, b),
    found.any fun x => x.2.toOption.isNone, w)

/-- Shows outputs and complaints in turn, until one of them cannot be shown. -/
def showInTurn (p : Proc) : List (Except String Bytes) → Host → Host
  | [], w => w.setProc p
  | .error text :: rest, w => showInTurn p rest (grumble w p text)
  | .ok b :: rest, w =>
      let w := Host.write w p b
      match w.proc? p.id with
      | some q =>
          if q.tasks.length < p.tasks.length || q.ended.isSome then w else showInTurn p rest w
      | none => w

/-- What is said about a file that cannot be read. -/
def plainComplaint (a : String) (e : IoError) : String := shown a ++ ": " ++ reason e

/-- The operands, or standard input if there are none. -/
def sources (g : Given) : List String := if g.operands.isEmpty then ["-"] else g.operands

/-- What a utility says once more at its end if standard input is to be read, but is closed. -/
def closing (p : Proc) (as : List String) (name : String) : List (Except String Bytes) :=
  if as.contains "-" && (p.stream? 0).isNone then
    [.error (name ++ ": " ++ reason (.os .badStream))]
  else []

/-- Shows what is made of the contents of files one after the other, and complains where one cannot
be read. -/
def showEach (w : Host) (p : Proc) (input : String) (found : List (String × Except IoError Bytes))
    (pieces : List Bytes) : Host :=
  let status := if found.any fun x => x.2.toOption.isNone then 1 else 0
  let shown := (found.zip pieces).map fun ((a, x), piece) =>
    match x with
    | .ok _ => .ok piece
    | .error e => .error (plainComplaint a e)
  showInTurn (p.withStatus status) (shown ++ closing p (found.map Prod.fst) input) w

/-- Prints what a function makes of the contents of each file. -/
def filterEach (w : Host) (p : Proc) (g : Given) (f : Bytes → Bytes) : Host :=
  let (found, w) := collect p (sources g) w
  showEach w p "-" found (found.map fun x => f (x.2.toOption.getD []))

/-- The pieces that lists of bytes add to what a function makes of all of them. -/
def piecesOf (f : Bytes → Bytes) (before : Bytes) : List Bytes → List Bytes
  | [] => []
  | b :: bs => (f (before ++ b)).drop (f before).length :: piecesOf f (before ++ b) bs

/-- Prints what a function makes of the contents of files together. -/
def filterAll (w : Host) (p : Proc) (input : String) (g : Given) (f : Bytes → Bytes) : Host :=
  let (found, w) := collect p (sources g) w
  showEach w p input found (piecesOf f [] (found.map fun x => x.2.toOption.getD []))

/-- Records of bytes, each without the byte that ends it. -/
def records (zero : Bool) (b : Bytes) : List Bytes :=
  if !zero then Lines.bodies b
  else
    let parts := Lines.splitAt 0 b
    if parts.getLast? = some [] then parts.dropLast else parts

def joinRecords (zero : Bool) (ls : List Bytes) : Bytes :=
  ls.flatMap fun l => l ++ [if zero then 0 else Lines.ending]

/-! ### Sizes -/

def multipliers : List (String × Nat) :=
  [("", 1), ("b", 512), ("kB", 1000), ("K", 1024), ("k", 1024), ("KiB", 1024), ("MB", 1000000),
    ("M", 1048576), ("m", 1048576), ("G", 1073741824)]

/-- A size with a letter that may multiply it. -/
def size? (s : String) : Option Nat :=
  let ds := s.toList.takeWhile Char.isDigit
  if ds.isEmpty then none
  else (multipliers.lookup (String.ofList (s.toList.drop ds.length))).map fun m =>
    (String.ofList ds).toNat?.getD 0 * m

end BatchRunner.Utility
