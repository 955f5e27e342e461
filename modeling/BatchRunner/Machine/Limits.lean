/-
**Limits on what a process may use.**

There are two limits on each resource: the one that counts, and the highest that it can be raised
to.  Nobody can raise the second one.

Main definitions:

* `Resource`, `Resource.all` — what can be limited;
* `Limits.Query` — what is asked about limits;
* `Limits.change` — the limits after a change.
-/
import BatchRunner.Machine.Basic

set_option autoImplicit false

namespace BatchRunner

/-- Something that can be limited: its letter, what it is called, how many units make one that is
shown, and the limits that hold at the beginning. -/
structure Resource where
  letter : Char
  name : String
  unit : Nat
  soft : Option Nat
  hard : Option Nat

namespace Resource

/-- What can be limited. -/
def all : List Resource :=
  [⟨'t', "time(seconds)", 1, none, none⟩, ⟨'f', "file(blocks)", 512, none, none⟩,
    ⟨'d', "data(kbytes)", 1024, none, none⟩, ⟨'s', "stack(kbytes)", 1024, some 8388608, none⟩,
    ⟨'c', "coredump(blocks)", 512, some 0, none⟩, ⟨'m', "memory(kbytes)", 1024, none, none⟩,
    ⟨'l', "locked memory(kbytes)", 1024, some 8388608, some 8388608⟩,
    ⟨'p', "process", 1, none, none⟩, ⟨'n', "nofiles", 1, some 1048576, some 1048576⟩,
    ⟨'v', "vmemory(kbytes)", 1024, none, none⟩, ⟨'w', "locks", 1, none, none⟩,
    ⟨'r', "rtprio", 1, some 0, some 0⟩]

def limits (r : Resource) (p : Proc) : Option Nat × Option Nat :=
  (p.limits.lookup r.letter).getD (r.soft, r.hard)

/-- A limit as it is shown. -/
def shown (r : Resource) (limit : Option Nat) : String :=
  (limit.elim "unlimited" fun n => toString (n / r.unit)) ++ "\n"

end Resource

namespace Limits

/-- What is asked about limits. -/
structure Query where
  /-- Which of the two limits is meant, if not both. -/
  side : Option Char
  everything : Bool
  letter : Char
  args : List String

def query (q : Query) : List String → Except Char Query
  | [] => .ok { q with args := [] }
  | a :: as =>
      match a.toList with
      | ['-', '-'] => .ok { q with args := as }
      | '-' :: c :: cs => do
          let q ← (c :: cs).foldlM (fun q c =>
            if c = 'H' || c = 'S' then .ok { q with side := some c }
            else if c = 'a' then .ok { q with everything := true }
            else if Resource.all.any fun r => r.letter = c then .ok { q with letter := c }
            else .error c) q
          query q as
      | _ => .ok { q with args := a :: as }

def isWithin : Option Nat → Option Nat → Bool
  | _, none => true
  | some a, some b => a ≤ b
  | none, some _ => false

/-- The limits after one of them, or both, have been set. -/
def change (side : Option Char) (value : Option Nat) (old : Option Nat × Option Nat) :
    Except Errno (Option Nat × Option Nat) :=
  let soft := if side = some 'H' then old.1 else value
  let hard := if side = some 'S' then old.2 else value
  if !isWithin soft hard then .error .invalid
  else if !isWithin hard old.2 then .error .notPermitted
  else .ok (soft, hard)

end Limits

end BatchRunner
