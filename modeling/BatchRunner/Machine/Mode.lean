/-
**Permission bits as they are asked for.**

A mode is written in octal digits, or as clauses that say who is given what.

Main definitions:

* `Mode.Clause`, `Mode.clauses?` — what a text says;
* `Mode.apply` — the permission bits after clauses;
* `Mode.change?` — the permission bits that a text asks for;
* `Mode.allowed?` — the permission bits that new files are to have.
-/

set_option autoImplicit false

namespace BatchRunner.Mode

/-- Where the bits of a clause come from. -/
inductive Source where
  /-- They are given. -/
  | bits (n : Nat)
  /-- They are given, and no other bit is kept. -/
  | exactly (n : Nat)
  /-- They are given, and the bits to run a file too if somebody may run it. -/
  | alsoIfRun (n : Nat)
  /-- They are those that somebody has: the number of places to shift. -/
  | like (shift : Nat)
  deriving DecidableEq, Repr

/-- One change of permission bits. -/
structure Clause where
  /-- The bits that are affected; none if nobody is named. -/
  who : Nat
  operation : Char
  source : Source
  deriving DecidableEq, Repr

/-- The bits of those that letters stand for. -/
def whoBits (cs : List Char) : Nat :=
  cs.foldl (fun n c => n ||| (match c with
    | 'u' => 0o4700
    | 'g' => 0o2070
    | 'o' => 0o1007
    | _ => 0o7777)) 0

/-- The bits of what letters permit, to everybody. -/
def permBits (cs : List Char) : Nat :=
  cs.foldl (fun n c => n ||| (match c with
    | 'r' => 0o444
    | 'w' => 0o222
    | 'x' => 0o111
    | 's' => 0o6000
    | 't' => 0o1000
    | _ => 0)) 0

/-- What letters behind an operation stand for. -/
def source? : List Char → Option Source
  | ['u'] => some (.like 6)
  | ['g'] => some (.like 3)
  | ['o'] => some (.like 0)
  | cs =>
      if cs.all fun c => "rwxst".toList.contains c then some (.bits (permBits cs))
      else if cs.all fun c => "rwxstX".toList.contains c then
        some (.alsoIfRun (permBits (cs.filter (· ≠ 'X'))))
      else none

def isOperation (c : Char) : Bool := ['+', '-', '='].contains c

/-- The changes behind those who are named. -/
def changes? (who : Nat) : Nat → List Char → Option (List Clause)
  | 0, _ => none
  | _, [] => some []
  | fuel + 1, c :: cs =>
      if !isOperation c then none
      else do
        let letters := cs.takeWhile fun x => !isOperation x
        let source ← source? letters
        let more ← changes? who fuel (cs.drop letters.length)
        return ⟨who, c, source⟩ :: more

/-- The changes that a text between commas stands for. -/
def clause? (s : String) : Option (List Clause) :=
  let who := s.toList.takeWhile fun c => ['u', 'g', 'o', 'a'].contains c
  let rest := s.toList.drop who.length
  if rest.isEmpty then none else changes? (whoBits who) (rest.length + 1) rest

/-- **The changes that a text stands for.** -/
def clauses? (s : String) : Option (List Clause) :=
  if s = "" then none
  else if s.toList.all fun c => '0' ≤ c && c ≤ '7' then
    let n := s.toList.foldl (fun n c => 8 * n + (c.toNat - '0'.toNat)) 0
    if n ≤ 0o7777 then some [⟨0o7777, '=', if 4 < s.length then .exactly n else .bits n⟩]
    else none
  else ((s.splitOn ",").mapM clause?).map List.flatten

/-- Permission bits after a change.  Where nobody is named, bits of the mask are not given. -/
def applyOne (mask : Nat) (isDir : Bool) (mode : Nat) (c : Clause) : Nat :=
  let without (a b : Nat) : Nat := a - (a &&& b)
  let wanted := match c.source with
    | .bits n => n
    | .exactly n => n
    | .alsoIfRun n => if isDir || mode &&& 0o111 ≠ 0 then n ||| 0o111 else n
    | .like shift => ((mode >>> shift) &&& 7) * 0o111
  let kept := match c.source with
    | .exactly _ => 0
    | source => if isDir && source ≠ .bits 0o6000 then 0o6000 else 0
  let value := if c.who = 0 then without wanted mask else wanted &&& c.who
  match c.operation with
  | '+' => mode ||| value
  | '-' => without mode value
  | _ =>
      let preserved := (if c.who = 0 then 0 else without 0o7777 c.who) ||| kept
      (mode &&& preserved) ||| value

/-- **Permission bits after changes.** -/
def apply (mask : Nat) (isDir : Bool) (mode : Nat) (cs : List Clause) : Nat :=
  cs.foldl (applyOne mask isDir) mode

/-- The permission bits that a text asks for, from those before. -/
def change? (s : String) (mask : Nat) (isDir : Bool) (before : Nat) : Option Nat :=
  (clauses? s).map (apply mask isDir before)

/-! ### What new files are allowed -/

/-- The bits of those that letters stand for, once for each.  Without a letter everybody is
meant. -/
def places (cs : List Char) : Nat :=
  if cs.isEmpty then 0o111
  else cs.foldl (fun n c => n ||| (match c with
    | 'u' => 0o100
    | 'g' => 0o010
    | 'o' => 0o001
    | _ => 0o111)) 0

/-- What letters permit to one of those who may have permissions. -/
def share (old : Nat) (cs : List Char) : Nat :=
  (cs.foldl (fun n c => n ||| (match c with
    | 'r' => 4
    | 'w' => 2
    | 'x' => 1
    | 'u' => old >>> 6
    | 'g' => old >>> 3
    | 'o' => old
    | 'X' => if old &&& 0o111 = 0 then 0 else 1
    | _ => 0)) 0) &&& 7

/-- Bits after a change that bits in some places take part in. -/
def altered (operation : Char) (bits places share : Nat) : Nat :=
  match operation with
  | '+' => bits ||| places * share
  | '-' => bits &&& (0o777 - places * share)
  | _ => places * share ||| bits &&& (0o777 - places * 7)

/-- The permission bits after clauses that are read one after the other.  What one of them takes
over from others are the bits that those had at the beginning. -/
def allowedFrom? (old : Nat) : Nat → Nat → List Char → Nat → Option Nat
  | 0, _, _, _ => none
  | _ + 1, _, [], bits => some bits
  | fuel + 1, who, cs, bits =>
      let names := cs.takeWhile fun c => "augo".toList.contains c
      let who := if names.isEmpty && who ≠ 0 then who else who ||| places names
      match cs.drop names.length with
      | [] => some bits
      | op :: rest =>
          if !(['=', '+', '-'].contains op) then none
          else
            let letters := rest.takeWhile fun c => "rwxugoXs".toList.contains c
            let bits := altered op bits who (share old letters)
            match rest.drop letters.length with
            | [] => some bits
            | ',' :: more => allowedFrom? old fuel 0 more bits
            | c :: more =>
                if ['=', '+', '-'].contains c then allowedFrom? old fuel who (c :: more) bits
                else none

/-- The permission bits that new files are to have, as clauses say. -/
def allowed? (cs : List Char) (old : Nat) : Option Nat :=
  allowedFrom? old (cs.length + 1) 0 cs old

end BatchRunner.Mode
