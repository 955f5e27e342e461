/-
**Conditions on texts, numbers and files.**

A condition is given as a list of words.  An operator counts as a text where it could not be one.

Main definitions:

* `Condition.holds` — whether a condition holds, or what is wrong with it.
-/
import BatchRunner.Files.Facts
import BatchRunner.Script.Arithmetic
import BatchRunner.Text.Octets

set_option autoImplicit false

namespace BatchRunner.Condition

def unaryOps : List String :=
  ["-r", "-w", "-x", "-e", "-f", "-d", "-c", "-b", "-p", "-u", "-g", "-k", "-s", "-t", "-z", "-n",
    "-h", "-O", "-G", "-L", "-S"]

def binaryOps : List String :=
  ["=", "!=", "<", ">", "-eq", "-ne", "-ge", "-gt", "-le", "-lt", "-nt", "-ot", "-ef"]

/-- What a path leads to. -/
inductive Subject where
  | nothing
  | pipe
  | node (x : Node)

/-- Where a condition is to hold: the files, the directory that paths start from, and what the
streams of a process are by number. -/
structure Scene where
  files : FileTree
  cwd : Place
  stream : Nat → Subject

namespace Scene

def subject (t : Scene) (path : String) : Subject :=
  match t.files.found? t.cwd (Octets.unpack path) with
  | some (.device (.own n)) => t.stream n
  | some x => .node x
  | none => .nothing

def file? (t : Scene) (path : String) : Option File :=
  match t.subject path with
  | .node (.file id) => t.files.file? id
  | _ => none

def time? (t : Scene) (path : String) : Option Nat :=
  match t.subject path with
  | .nothing => none
  | _ => some (((t.files.facts? t.cwd (Octets.unpack path)).map FileTree.Facts.time).getD 0)

end Scene

def unary (t : Scene) (op s : String) : Bool :=
  let hasBit (bit : Nat) : Bool := match t.subject s with
    | .node _ => (t.files.facts? t.cwd (Octets.unpack s)).any fun f => f.mode &&& bit ≠ 0
    | _ => false
  let isDir := match t.subject s with
    | .node (.dir _) => true
    | _ => false
  match op with
  | "-n" => s ≠ ""
  | "-z" => s = ""
  | "-d" => isDir
  | "-s" => ((t.file? s).any fun f => !f.bytes.isEmpty) || isDir
  | "-f" => (t.file? s).isSome
  | "-r" => permits .read
  | "-w" => permits .write
  | "-x" => permits .pass && (isDir || (t.file? s).isSome)
  | "-u" => hasBit 0o4000
  | "-g" => hasBit 0o2000
  | "-k" => hasBit 0o1000
  | "-c" => match t.subject s with
      | .node (.device _) => true
      | _ => false
  | "-p" => match t.subject s with
      | .pipe => true
      | _ => false
  | "-L" => isLink
  | "-h" => isLink
  | "-e" => isThere
  | "-O" => isThere
  | "-G" => isThere
  | _ => false
where
  /-- Whether what the path leads to gives a right. -/
  permits (r : Right) : Bool := isThere && match t.files.stat t.cwd (Octets.unpack s) with
    | .ok (place, x) => t.files.permits r place x
    | .error _ => false
  /-- Whether the path leads to anything. -/
  isThere : Bool := match t.subject s with
    | .nothing => false
    | _ => true
  /-- Whether the path is that of a link.  What stands for a stream of a process is one. -/
  isLink : Bool := match t.files.locate t.cwd .entry (Octets.unpack s) with
    | .ok (.node _ (.link _)) => true
    | .ok (.node _ (.device (.own _))) => isThere
    | _ => false

def number (s : String) : Except String Int :=
  match Script.Arithmetic.decimal? s with
  | some n => .ok n
  | none => .error ("Illegal number: " ++ s)

def binary (t : Scene) (a op b : String) : Except String Bool :=
  let there (s : String) := t.files.stat t.cwd (Octets.unpack s)
  let compare (f : Int → Int → Bool) : Except String Bool := do return f (← number a) (← number b)
  match op with
  | "=" => .ok (a = b)
  | "!=" => .ok (a ≠ b)
  | "<" => .ok (a < b)
  | ">" => .ok (b < a)
  | "-eq" => compare fun x y => x = y
  | "-ne" => compare fun x y => x ≠ y
  | "-lt" => compare fun x y => x < y
  | "-le" => compare fun x y => x ≤ y
  | "-gt" => compare fun x y => y < x
  | "-ge" => compare fun x y => y ≤ x
  | "-nt" => .ok (((t.time? a).bind fun x => (t.time? b).map fun y => decide (y < x)).getD false)
  | "-ot" => .ok (((t.time? a).bind fun x => (t.time? b).map fun y => decide (x < y)).getD false)
  | "-ef" => .ok (match there a, there b with
      | .ok (p, x), .ok (q, y) => p = q || FileTree.isSameFile x y
      | _, _ => false)
  | _ => .ok false

/-- What a word of a condition is. -/
inductive Kind where
  | ended
  | text
  | unary (op : String)
  | binary (op : String)
  | not
  | and
  | or
  | opening
  | closing
  deriving DecidableEq, Repr

/-- What the first of some words is.  An operator before one text is a text itself if nothing can
follow it, or if an operator between two texts does. -/
def kind : List String → Kind
  | [] => .ended
  | s :: rest =>
      if unaryOps.contains s then
        match rest with
        | [] => .text
        | [_] => .unary s
        | o :: _ => if binaryOps.contains o then .text else .unary s
      else if binaryOps.contains s then .binary s
      else if s = "!" then .not
      else if s = "-a" then .and
      else if s = "-o" then .or
      else if s = "(" then (if rest.isEmpty then .text else .opening)
      else if s = ")" then .closing
      else .text

mutual

/-- A condition with "or" in it.  Conditions are read from their first word, of the kind given, and
leave the words from their last one on. -/
def readOr (t : Scene) : Nat → Kind → List String →
    Except String (Bool × List String)
  | 0, _, _ => .error "argument expected"
  | fuel + 1, k, ws => do
      let (a, ws) ← readAnd t fuel k ws
      if kind ws.tail = .or then
        let (b, ws) ← readOr t fuel (kind (ws.drop 2)) (ws.drop 2)
        return (a || b, ws)
      return (a, ws)

/-- A condition with "and" in it. -/
def readAnd (t : Scene) : Nat → Kind → List String →
    Except String (Bool × List String)
  | 0, _, _ => .error "argument expected"
  | fuel + 1, k, ws => do
      let (a, ws) ← readNot t fuel k ws
      if kind ws.tail = .and then
        let (b, ws) ← readAnd t fuel (kind (ws.drop 2)) (ws.drop 2)
        return (a && b, ws)
      return (a, ws)

/-- A condition that may be negated.  A missing condition does not hold, so a lone negation
does. -/
def readNot (t : Scene) : Nat → Kind → List String →
    Except String (Bool × List String)
  | 0, _, _ => .error "argument expected"
  | fuel + 1, k, ws =>
      if k = .not then do
        let next := kind ws.tail
        let (a, ws) ← readNot t fuel next (if next = .ended then ws else ws.tail)
        return (!a, ws)
      else readPrimary t fuel k ws

/-- A condition in parentheses, on one text, or on two. -/
def readPrimary (t : Scene) : Nat → Kind → List String →
    Except String (Bool × List String)
  | 0, _, _ => .error "argument expected"
  | fuel + 1, k, ws =>
      match k, ws with
      | .ended, ws => .ok (false, ws)
      | .opening, _ :: ws =>
          if kind ws = .closing then .ok (false, ws)
          else do
            let (a, ws) ← readOr t fuel (kind ws) ws
            if kind ws.tail ≠ .closing then throw "closing paren expected"
            return (a, ws.tail)
      | .unary op, _ :: ws =>
          match ws with
          | [] => .error (op ++ ": argument expected")
          | s :: _ => do
              if op = "-t" then let _ ← number s
              return (unary t op s, ws)
      | _, a :: ws =>
          match kind ws, ws.tail with
          | .binary op, [] => .error (op ++ ": argument expected")
          | .binary op, b :: rest => do return (← binary t a op b, b :: rest)
          | _, _ => .ok (a ≠ "", a :: ws)
      | _, [] => .ok (false, [])

end

/-- **Whether a condition holds**, or what is wrong with it.  Among three or four words a negation
at the head is of all the others. -/
def holds (t : Scene) (words : List String) : Except String Bool := do
  let simple := match words with
    | [_, op, _] => binaryOps.contains op
    | _ => false
  let few := !simple && (words.length = 3 || words.length = 4)
  let enclosed := few && words.head? = some "(" && words.getLast? = some ")"
  let negated := few && words.head? = some "!"
  let words := if enclosed then words.dropLast.tail else if negated then words.tail else words
  let (b, rest) ← readOr t (8 * words.length + 8) (if simple then .text else kind words) words
  match rest with
  | op :: _ :: _ => throw (if op = "" then "unexpected operator" else op ++ ": unexpected operator")
  | _ => return xor negated b

end BatchRunner.Condition
