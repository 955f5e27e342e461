/-
**Copying blocks of bytes.**

What is read comes in blocks of one size, and what is written goes out in blocks of another.  In
between bytes can be converted.

Main definitions:

* `Blocks.Plan`, `Blocks.plan` — what operands ask for;
* `Blocks.Plan.converted` — bytes after the conversions;
* `Utility.copyBlocks` — copies blocks of bytes.
-/
import BatchRunner.Machine.Utility.Text

set_option autoImplicit false

namespace BatchRunner

namespace Blocks

/-- A number of blocks, or of bytes if it says so. -/
structure Amount where
  count : Nat
  inBytes : Bool
  deriving DecidableEq, Repr

/-- The number of bytes that blocks of a size come to. -/
def Amount.bytes (a : Amount) (size : Nat) : Nat := if a.inBytes then a.count else a.count * size

structure Plan where
  source : Option String
  target : Option String
  /-- The size of the blocks that are read. -/
  taken : Nat
  /-- The size of the blocks that are written. -/
  given : Nat
  /-- Whether both sizes were set together, so that blocks are written as they are read. -/
  together : Bool
  /-- The size of records. -/
  record : Nat
  count : Option Amount
  skip : Amount
  seek : Amount
  conversions : List String
  status : String
  flags : List String

/-- What is copied if no operand says otherwise. -/
def Plan.usual : Plan :=
  ⟨none, none, 512, 512, false, 0, none, ⟨0, false⟩, ⟨0, false⟩, [], "", []⟩

def conversionNames : List String :=
  ["ascii", "ebcdic", "ibm", "block", "unblock", "lcase", "ucase", "sparse", "swab", "sync", "excl",
    "nocreat", "notrunc", "noerror", "fdatasync", "fsync"]

/-- What can be said about reading and writing. -/
def flagNames : List String :=
  ["append", "direct", "directory", "dsync", "sync", "fullblock", "nonblock", "noatime", "nocache",
    "noctty", "nofollow", "count_bytes", "skip_bytes", "seek_bytes"]

/-- A complaint, and whether it tells how to get help. -/
abbrev Fault := String × Bool

/-- The number that a text is: a product of sizes. -/
def number? (s : String) : Option Nat :=
  (s.splitOn "x").foldlM (fun n part => (Utility.size? part).map (n * ·)) 1

/-- The number that a text is, or a complaint. -/
def number (s : String) : Except Fault Nat :=
  match number? s with
  | some n =>
      if n < Nat.pow 2 63 then .ok n
      else .error ("invalid number: '" ++ s ++ "': Value too large for defined data type", false)
  | none => .error ("invalid number: '" ++ s ++ "'", false)

/-- A number that is not zero, or a complaint. -/
def size (s : String) : Except Fault Nat := do
  let n ← number s
  if n = 0 then throw ("invalid number: '" ++ s ++ "'", false)
  return n

/-- A number of blocks, or of bytes if a letter behind it says so. -/
def amount (s : String) : Except Fault Amount := do
  if s.endsWith "B" && (number? s).isNone then
    return ⟨← number (String.ofList s.toList.dropLast), true⟩
  return ⟨← number s, false⟩

/-- Words with commas between them, each of which has to be known. -/
def words (known : List String) (complaint s : String) : Except Fault (List String) :=
  let ws := s.splitOn ","
  match ws.find? fun x => !known.contains x with
  | some x => .error (complaint ++ ": '" ++ x ++ "'", true)
  | none => .ok ws

def Plan.add (plan : Plan) (operand : String × Option String) : Except Fault Plan := do
  let some s := operand.2
    | throw ("unrecognized operand '" ++ operand.1 ++ "'", true)
  match operand.1 with
  | "if" => return { plan with source := some s }
  | "of" => return { plan with target := some s }
  | "bs" => let n ← size s; return { plan with taken := n, given := n, together := true }
  | "ibs" => let n ← size s; return if plan.together then plan else { plan with taken := n }
  | "obs" => let n ← size s; return if plan.together then plan else { plan with given := n }
  | "cbs" => return { plan with record := ← size s }
  | "count" => return { plan with count := some (← amount s) }
  | "skip" => return { plan with skip := ← amount s }
  | "iseek" => return { plan with skip := ← amount s }
  | "seek" => return { plan with seek := ← amount s }
  | "oseek" => return { plan with seek := ← amount s }
  | "conv" =>
      let ws ← words conversionNames "invalid conversion" s
      return { plan with conversions := plan.conversions ++ ws }
  | "iflag" => return { plan with flags := plan.flags ++ (← words flagNames "invalid input flag" s) }
  | "oflag" =>
      return { plan with flags := plan.flags ++ (← words flagNames "invalid output flag" s) }
  | "status" =>
      let ws ← words ["none", "noxfer", "progress"] "invalid status level" s
      return { plan with status := ws.getLastD "" }
  | name => throw ("unrecognized operand '" ++ name ++ "=" ++ s ++ "'", true)

/-- **What operands ask for.** -/
def plan (operands : List (String × Option String)) : Except Fault Plan := do
  let plan ← operands.foldlM Plan.add Plan.usual
  let has (c : String) : Bool := plan.conversions.contains c
  if 1 < (["ascii", "ebcdic", "ibm"].filter has).length then
    throw ("cannot combine any two of \x7bascii,ebcdic,ibm\x7d", false)
  if has "block" && has "unblock" && plan.record ≠ 0 then
    throw ("cannot combine block and unblock", false)
  if has "lcase" && has "ucase" then throw ("cannot combine lcase and ucase", false)
  if has "excl" && has "nocreat" then throw ("cannot combine excl and nocreat", false)
  let inBytes (a : Amount) (flag : String) : Amount :=
    { a with inBytes := a.inBytes || plan.flags.contains flag }
  return { plan with
    count := plan.count.map fun a => inBytes a "count_bytes"
    skip := inBytes plan.skip "skip_bytes"
    seek := inBytes plan.seek "seek_bytes" }

/-- Bytes with each two in the opposite order. -/
def swapped : Bytes → Bytes
  | a :: b :: rest => b :: a :: swapped rest
  | bs => bs

/-- Lines as records of one size, filled up with blanks, and how many lines are too long. -/
def recorded (size : Nat) (b : Bytes) : Bytes × Nat :=
  let lines := Lines.bodies b
  (lines.flatMap fun l => l.take size ++ List.replicate (size - l.length) 32,
    (lines.filter fun l => size < l.length).length)

/-- Records of one size as lines, without the blanks at their end. -/
def unrecorded (size : Nat) : Nat → Bytes → Bytes
  | 0, _ => []
  | fuel + 1, b =>
      if b.isEmpty then []
      else
        ((b.take size).reverse.dropWhile (· = 32)).reverse ++ [Lines.ending]
          ++ unrecorded size fuel (b.drop size)

namespace Plan

def has (plan : Plan) (c : String) : Bool := plan.conversions.contains c

/-- Bytes after the conversions, and how many records were too long. -/
def converted (plan : Plan) (b : Bytes) : Bytes × Nat :=
  let missing := (plan.taken - b.length % plan.taken) % plan.taken
  let filler : UInt8 := if plan.has "block" || plan.has "unblock" then 32 else 0
  let b := if plan.has "sync" then b ++ List.replicate missing filler else b
  let b := if plan.has "swab" then swapped b else b
  let b := if plan.has "ucase" then b.map Lines.upper
    else if plan.has "lcase" then b.map Lines.lower else b
  if plan.record = 0 then (b, 0)
  else if plan.has "block" then recorded plan.record b
  else if plan.has "unblock" then (unrecorded plan.record (b.length + 1) b, 0)
  else (b, 0)

/-- How many blocks of a size bytes come to: whole ones, and whether one is incomplete. -/
def blockCount (size length : Nat) : String :=
  toString (length / size) ++ "+" ++ (if length % size = 0 then "0" else "1")

/-- What is said at the end about how much was read and written. -/
def report (plan : Plan) (read written tooLong : Nat) : List String :=
  if plan.status = "none" then []
  else
    let out := if plan.together && plan.record = 0 && !plan.has "sync" then read else written
    [blockCount plan.taken read ++ " records in", blockCount plan.given out ++ " records out"]
      ++ (if tooLong = 0 then []
        else [toString tooLong ++ " truncated record" ++ (if tooLong = 1 then "" else "s")])

/-- The bytes of a file after a copy into it. -/
def fileAfter (plan : Plan) (old b : Bytes) : Bytes :=
  let keeps := plan.has "notrunc"
  let start := if plan.flags.contains "append" then (if keeps then old.length else 0)
    else plan.seek.bytes plan.given
  old.take start ++ List.replicate (start - old.length) 0 ++ b
    ++ (if keeps then old.drop (start + b.length) else [])

end Plan

end Blocks

namespace Utility

/-- **Copies blocks of bytes.** -/
def copyBlocks (w : Host) (p : Proc) (args : List String) : Host :=
  match Blocks.plan (args.map Builtin.cut) with
  | .error (text, helps) =>
      match args.find? fun a => a.startsWith "-" with
      | some a => misuse w p ((if a.startsWith "--" then "unrecognized option '" ++ a
          else "invalid option -- '" ++ String.ofList ((a.toList.drop 1).take 1)) ++ "'")
      | none => if helps then misuse w p text else refuse w p text
  | .ok plan =>
      let skipped := plan.skip.bytes plan.taken
      let most? := plan.count.map fun a => a.bytes plan.taken
      let endless := plan.source = some "/dev/zero" || plan.source = some "/dev/full"
      let source : Except IoError (Bytes × Host) :=
        if endless then .ok (List.replicate (most?.getD endlessMax + skipped) 0, w)
        else contents w p (plan.source.getD "-")
      let name := match plan.source with
        | some path => shown path
        | none => "'standard input'"
      match source with
      | .error e =>
          match plan.source with
          | some path =>
              if e = .os .isDir then refuse w p ("error reading '" ++ path ++ "': " ++ reason e)
              else refuse w p ("failed to open '" ++ path ++ "': " ++ reason e)
          | none => refuse w p ("error reading 'standard input': " ++ reason e)
      | .ok (b, w) =>
          let w := if b.length < skipped && plan.status ≠ "none"
            then grumble w p (name ++ ": cannot skip to specified offset") else w
          let b := b.drop skipped
          let b := match most? with
            | some n => b.take n
            | none => b
          let (out, tooLong) := plan.converted b
          let speak (w : Host) : Host :=
            (plan.report b.length out.length tooLong).foldl (fun w text => Host.grumble w p text) w
          match plan.target with
          | none =>
              let w := Host.write w p out
              match w.proc? p.id with
              | some q => if q.tasks.length < p.tasks.length || q.ended.isSome then w
                  else (speak w).settle q 0
              | none => w
          | some path =>
              let failed (e : IoError) : Host :=
                refuse w p ("failed to open '" ++ path ++ "': " ++ reason e)
              let isThere := w.files.isPresent p.cwd (Octets.unpack path)
              if plan.has "excl" && isThere then failed (.os .exist)
              else if plan.has "nocreat" && !isThere then failed (.os .noEntry)
              else
                let old := ((w.files.readBytes p.cwd (Octets.unpack path)).toOption).getD []
                match w.files.writeFile p.cwd (Octets.unpack path) (plan.fileAfter old out) with
                | .ok t => Host.settle (speak (w.withFiles t)) p 0
                | .error e => failed e

end Utility

end BatchRunner
