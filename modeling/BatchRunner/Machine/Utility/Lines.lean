/-
**Lines of bytes.**

What utilities do to the lines they read, as functions of bytes.

Main definitions:

* `Lines.split`, `Lines.body` — the lines of bytes, with and without their ends;
* `Lines.Portion`, `Lines.Portion.of` — a part at the beginning or the end;
* `Lines.Ranges`, `Lines.cutFields`, `Lines.cutPlaces` — parts of lines by number;
* `Lines.compareBytes` — the order of bytes;
* `Lines.groups` — lines that are alike and next to each other;
* `Lines.paste` — lines next to each other.

Main results:

* `Lines.flatten_split` — no byte is lost;
* `Lines.flatten_groups` — no line is lost.
-/
import BatchRunner.Text.Octets

set_option autoImplicit false

namespace BatchRunner.Lines

def ending : UInt8 := 10

/-- Puts a byte before lines. -/
def addFirst (b : UInt8) : List Bytes → List Bytes
  | l :: ls => if b = ending then [b] :: l :: ls else (b :: l) :: ls
  | [] => [[b]]

/-- **The lines of bytes**, each with its end.  The last one may have none. -/
def split (b : Bytes) : List Bytes := b.foldr addFirst []

theorem flatten_split (b : Bytes) : (split b).flatten = b := by
  have key (x : UInt8) (ls : List Bytes) : (addFirst x ls).flatten = x :: ls.flatten := by
    cases ls with
    | nil => rfl
    | cons l ls => by_cases h : x = ending <;> simp [addFirst, h]
  induction b with
  | nil => rfl
  | cons x b ih =>
      have : split (x :: b) = addFirst x (split b) := rfl
      rw [this, key, ih]

def body (l : Bytes) : Bytes := if l.getLast? = some ending then l.dropLast else l

def bodies (b : Bytes) : List Bytes := (split b).map body

/-- Whether a byte is white space. -/
def isGap (x : UInt8) : Bool := x = 32 || (9 ≤ x && x ≤ 13)

/-- Whether a byte is a blank within a line. -/
def isBlank (x : UInt8) : Bool := x = 32 || x = 9

def wordCount (b : Bytes) : Nat :=
  (b.foldl
    (fun (n, inside) x => if isGap x then (n, false) else (if inside then n else n + 1, true))
    ((0 : Nat), false)).1

/-! ### Portions -/

/-- A part of something that has an order. -/
inductive Portion where
  /-- So many from the beginning. -/
  | first (n : Nat)
  /-- All but so many at the end. -/
  | allButLast (n : Nat)
  /-- So many at the end. -/
  | last (n : Nat)
  /-- From the one with the given number on. -/
  | fromOn (n : Nat)
  deriving DecidableEq, Repr

/-- The part of a list. -/
def Portion.of {α : Type} : Portion → List α → List α
  | first n, l => l.take n
  | allButLast n, l => l.take (l.length - n)
  | last n, l => l.drop (l.length - n)
  | fromOn n, l => l.drop (n - 1)

/-! ### Parts of lines -/

/-- Numbers from the first to the last of each pair; without a last one, all from the first on. -/
abbrev Ranges := List (Nat × Option Nat)

namespace Ranges

/-- Whether a number is in one of the ranges. -/
def has (rs : Ranges) (n : Nat) : Bool := rs.any fun r => r.1 ≤ n && r.2.all (n ≤ ·)

/-- Whether a number is the first of a range that does not begin within another one. -/
def starts (rs : Ranges) (n : Nat) : Bool :=
  (rs.any fun r => r.1 = n) && !rs.any fun r => r.1 < n && r.2.all (n ≤ ·)

end Ranges

def splitAt (d : UInt8) : Bytes → List Bytes
  | [] => [[]]
  | x :: xs =>
      if x = d then [] :: splitAt d xs
      else
        match splitAt d xs with
        | l :: ls => (x :: l) :: ls
        | [] => [[x]]

def between (sep : Bytes) : List Bytes → Bytes
  | [] => []
  | [l] => l
  | l :: ls => l ++ sep ++ between sep ls

/-- The fields of a line with numbers in ranges.  A line without fields is shown whole, or not at
all. -/
def cutFields (d : UInt8) (sep : Bytes) (onlyFields : Bool) (wanted : Nat → Bool) (l : Bytes) :
    Option Bytes :=
  match splitAt d l with
  | [whole] => if onlyFields then none else some whole
  | fs => some (between sep ((fs.zipIdx.filter fun (_, n) => wanted (n + 1)).map Prod.fst))

/-- The bytes of a line with numbers in ranges.  What is put between the ranges stands before each
place where one begins. -/
def cutPlaces (sep : Bytes) (starts wanted : Nat → Bool) (l : Bytes) : Bytes :=
  let kept := (l.zipIdx.map fun (x, n) => (x, n + 1)).filter fun x => wanted x.2
  kept.zipIdx.flatMap fun ((x, n), i) =>
    (if i ≠ 0 && starts n && !sep.isEmpty then sep else []) ++ [x]

/-! ### Bytes -/

/-- The first field of a line, with the blanks before it. -/
def blankField (l : Bytes) : Bytes :=
  let gap := l.takeWhile isBlank
  gap ++ (l.drop gap.length).takeWhile fun x => !isBlank x

/-- Drops so many fields at the beginning, and what separates them from the rest. -/
def dropFields (sep : Option UInt8) : Nat → Bytes → Bytes
  | 0, l => l
  | n + 1, l =>
      match sep with
      | none => dropFields sep n (l.drop (blankField l).length)
      | some d => dropFields sep n ((l.dropWhile fun x => x ≠ d).drop 1)

def isDigit (x : UInt8) : Bool := 48 ≤ x && x ≤ 57

def natOf (ds : Bytes) : Nat := ds.foldl (fun n d => 10 * n + (d.toNat - 48)) 0

def lower (x : UInt8) : UInt8 := if 65 ≤ x && x ≤ 90 then x + 32 else x

def upper (x : UInt8) : UInt8 := if 97 ≤ x && x ≤ 122 then x - 32 else x

def isLetter (x : UInt8) : Bool := 97 ≤ lower x && lower x ≤ 122

def compareBytes (a b : Bytes) : Ordering :=
  if a = b then .eq else if a < b then .lt else .gt

/-! ### Groups -/

/-- Lines that are alike and next to each other, each group as its first line and their number. -/
def groups (alike : Bytes → Bytes → Bool) : List Bytes → List (Bytes × List Bytes)
  | [] => []
  | l :: ls =>
      match groups alike ls with
      | (m, more) :: gs => if alike l m then (l, m :: more) :: gs else (l, []) :: (m, more) :: gs
      | [] => [(l, [])]

theorem flatten_groups (alike : Bytes → Bytes → Bool) (ls : List Bytes) :
    (groups alike ls).flatMap (fun g => g.1 :: g.2) = ls := by
  induction ls with
  | nil => rfl
  | cons l ls ih =>
      rw [groups]
      split
      · rename_i m more gs h
        rw [h] at ih
        split <;> simpa using ih
      · rename_i h
        rw [h] at ih
        simpa using ih

/-! ### Shapes -/

def padLeft (width : Nat) (s : String) : String :=
  String.ofList (List.replicate (width - s.length) ' ') ++ s

/-- The separators to use in turn, from the one with a number on. -/
def separatorAt (seps : Bytes) (n : Nat) : Bytes :=
  match seps[n % max 1 seps.length]? with
  | some 0 => []
  | some x => [x]
  | none => []

def joinInTurn (seps : Bytes) (ls : List Bytes) : Bytes :=
  ls.zipIdx.flatMap fun (l, n) => (if n = 0 then [] else separatorAt seps (n - 1)) ++ l

/-- Puts lines with the same number next to each other. -/
def paste (seps : Bytes) (files : List (List Bytes)) : List Bytes :=
  let most := (files.map List.length).foldl max 0
  (List.range most).map fun n => joinInTurn seps (files.map fun f => (f[n]?).getD [])

end BatchRunner.Lines
