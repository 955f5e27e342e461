/-
**Replacing and deleting characters.**

A set of characters is written as a text, in which there may be ranges, classes and repetitions.
The characters of one set are replaced by those of another in order.

Main definitions:

* `Characters.Item`, `Characters.items` — what a set is written with;
* `Characters.members`, `Characters.aligned` — the characters of a set, alone and beside another;
* `Characters.refusal?` — why a set cannot be used;
* `Characters.squeeze` — leaves out characters that repeat the one before.
-/
import BatchRunner.Script.Pattern
import BatchRunner.Text.Octets

set_option autoImplicit false

namespace BatchRunner.Characters

/-- What a set is written with. -/
inductive Item where
  | char (c : Char)
  | range (a b : Char)
  | named (name : String)
  /-- All characters that are like one: it alone. -/
  | alike (c : Char)
  /-- A character so many times, or as often as it takes. -/
  | many (c : Char) (n : Option Nat)
  deriving DecidableEq, Repr

def isOctal (c : Char) : Bool := '0' ≤ c && c ≤ '7'

def ofOctal (ds : List Char) : Char :=
  Char.ofNat ((ds.foldl (fun n d => n * 8 + (d.toNat - 48)) 0) % 256)

/-- The characters of a text, and whether a backslash stood before. -/
def unescape : List Char → List (Char × Bool)
  | [] => []
  | '\\' :: [] => [('\\', true)]
  | '\\' :: c :: rest =>
      let ds := ((c :: rest).take 3).takeWhile isOctal
      if ds.isEmpty then (((controls.lookup c).getD c), true) :: unescape rest
      else (ofOctal ds, true) :: unescape (rest.drop (ds.length - 1))
  | c :: rest => (c, false) :: unescape rest
termination_by cs => cs.length
decreasing_by all_goals simp only [List.length_cons, List.length_drop]; omega
where
  /-- The characters that letters stand for behind a backslash. -/
  controls : List (Char × Char) :=
    [('a', '\x07'), ('b', '\x08'), ('f', '\x0c'), ('n', '\n'), ('r', '\r'), ('t', '\t'),
      ('v', '\x0b')]

/-- The number within a repetition; zero stands for as often as it takes. -/
def repeats? (ds : List Char) : Option (Option Nat) :=
  if ds.all Char.isDigit then
    let n := if ds.head? = some '0' then ds.foldl (fun n d => n * 8 + (d.toNat - 48)) 0
      else ds.foldl (fun n d => n * 10 + (d.toNat - 48)) 0
    some (if n = 0 then none else some n)
  else none

/-- What stands within brackets at the head of characters, and how many it takes. -/
def bracketed? (cs : List (Char × Bool)) : Option (Item × Nat) :=
  match cs with
  | ('[', false) :: (':', false) :: rest =>
      let name := rest.takeWhile fun c => c ≠ (':', false)
      match rest.drop name.length with
      | (':', false) :: (']', false) :: _ =>
          some (.named (String.ofList (name.map Prod.fst)), name.length + 4)
      | _ => none
  | ('[', false) :: ('=', false) :: (c, _) :: ('=', false) :: (']', false) :: _ =>
      some (.alike c, 5)
  | ('[', false) :: (c, _) :: ('*', false) :: rest =>
      let ds := rest.takeWhile fun c => c ≠ (']', false)
      match rest.drop ds.length, repeats? (ds.map Prod.fst) with
      | _ :: _, some n => some (.many c n, ds.length + 4)
      | _, _ => none
  | _ => none

/-- **What a set is written with.** -/
def itemsOf : Nat → List (Char × Bool) → List Item
  | 0, _ => []
  | _, [] => []
  | fuel + 1, (c, q) :: rest =>
      match bracketed? ((c, q) :: rest) with
      | some (i, n) => i :: itemsOf fuel (((c, q) :: rest).drop n)
      | none =>
          match rest with
          | ('-', false) :: (d, _) :: rest => .range c d :: itemsOf fuel rest
          | rest => .char c :: itemsOf fuel rest

def items (s : String) : List Item := itemsOf s.length (unescape s.toList)

def class? (name : String) : Option (List Char) :=
  (Script.Pattern.classes.lookup name).map fun ranges =>
    ((List.range 256).map Char.ofNat).filter fun c => ranges.any fun r => r.1 ≤ c && c ≤ r.2

/-- What is wrong with a set, if anything is. -/
def mistake? (is : List Item) : Option String :=
  is.findSome? fun i => match i with
    | .range a b =>
        if b < a then
          some ("range-endpoints of '" ++ String.ofList [a, '-', b]
            ++ "' are in reverse collating sequence order")
        else none
    | .named n => if (class? n).isSome then none else some ("invalid character class '" ++ n ++ "'")
    | _ => none

def between (a b : Char) : List Char :=
  (List.range (b.toNat + 1 - a.toNat)).map fun n => Char.ofNat (a.toNat + n)

/-- The characters of an item; one that is repeated as often as it takes fills the given number. -/
def Item.members (fill : Nat) : Item → List Char
  | char c => [c]
  | alike c => [c]
  | range a b => Characters.between a b
  | named n => (class? n).getD []
  | many c (some n) => List.replicate n c
  | many c none => List.replicate fill c

/-- **The characters of a set, in order.** -/
def members (is : List Item) : List Char := is.flatMap (Item.members 0)

/-- **The characters of a set, as many as there are in another.**  The last one is repeated, unless
something says what fills the gap. -/
def aligned (count : Nat) (is : List Item) : List Char :=
  let here := is.flatMap (Item.members (count - (members is).length))
  match here.getLast? with
  | some c => here ++ List.replicate (count - here.length) c
  | none => here

/-- Whether an item is the class of all capitals, or that of all small letters. -/
def Item.isCase : Item → Bool
  | named n => n = "upper" || n = "lower"
  | _ => false

/-- Whether an item repeats a character as often as it takes. -/
def Item.isEndless : Item → Bool
  | many _ none => true
  | _ => false

/-- The places at which items for capitals or small letters begin. -/
def casePlaces (fill : Nat) : Nat → List Item → List Nat
  | _, [] => []
  | n, i :: is =>
      (if i.isCase then [n] else []) ++ casePlaces fill (n + (i.members fill).length) is

/-- **Why a set cannot be replaced by another, or be used for anything else**, if there is a
reason. -/
def refusal? (replacing complement cut : Bool) (one two : List Item) : Option String :=
  let isNamed (i : Item) : Bool := match i with
    | .named _ => true
    | _ => false
  let isAlike (i : Item) : Bool := match i with
    | .alike _ => true
    | _ => false
  let endless := (two.filter Item.isEndless).length
  let size := if complement then 256 - (members one).eraseDups.length else (members one).length
  let fill := size - (members two).length
  let there := (aligned size two).length
  let misplaced := !complement && (casePlaces fill 0 two).any fun n =>
    !(casePlaces 0 0 one).contains n
  if one.any Item.isEndless then some "the [c*] repeat construct may not appear in string1"
  else if 1 < endless then some "only one [c*] repeat construct may appear in string2"
  else if !replacing then
    if endless = 0 then none
    else some "the [c*] construct may appear in string2 only when translating"
  else if two.any isAlike then
    some "[=c=] expressions may not appear in string2 when translating"
  else if two.any fun i => isNamed i && !i.isCase then
    some ("when translating, the only character classes that may appear in\n"
      ++ "string2 are 'upper' and 'lower'")
  else if misplaced then some "misaligned [:upper:] and/or [:lower:] construct"
  else if !cut && (members two).length + (if endless = 0 then 0 else fill) < size
      && there ≠ 0 && two.getLast?.any isNamed then
    some ("when translating with string1 longer than string2,\n"
      ++ "the latter string must not end with a character class")
  else if complement && one.any isNamed
      && !((aligned size two).eraseDups.length = 1 && there = size) then
    some ("when translating with complemented character classes,\n"
      ++ "string2 must map all characters in the domain to one")
  else none

def others (cs : List Char) : List Char :=
  ((List.range 256).map Char.ofNat).filter fun c => !cs.contains c

/-- Leaves out bytes of a kind that repeat the one before. -/
def squeeze (which : UInt8 → Bool) : Bytes → Bytes
  | a :: b :: rest =>
      if a = b && which a then squeeze which (b :: rest) else a :: squeeze which (b :: rest)
  | b => b

end BatchRunner.Characters
