/-
**The arguments of utilities.**

An option is a letter behind a dash, alone or with others, or a name behind two dashes.  Some
options take a value.  Behind two dashes that stand alone there are no options.

Main definitions:

* `Utility.Opt`, `Utility.Takes` — an option that a utility has, and what it takes;
* `Utility.Given`, `Utility.parse` — the options and the other arguments that a utility is given;
* `Utility.misuse`, `Utility.withArguments` — a complaint about arguments, and going on with them.
-/
import BatchRunner.Machine.Builtin

set_option autoImplicit false

namespace BatchRunner.Utility

inductive Takes where
  | nothing
  | value
  /-- A value that may be left out: it is written right behind the option, or behind an equals
  sign. -/
  | maybe
  deriving DecidableEq, Repr

structure Opt where
  letter : Char
  /-- Its name, if it has one. -/
  name : String
  takes : Takes
  deriving DecidableEq, Repr

/-- Options without values and without names. -/
def flags (letters : String) : List Opt := letters.toList.map fun c => ⟨c, "", .nothing⟩

def values (letters : String) : List Opt := letters.toList.map fun c => ⟨c, "", .value⟩

/-- The options that a utility is given, with their values, and its other arguments. -/
structure Given where
  options : List (Char × String)
  operands : List String
  deriving DecidableEq, Repr

namespace Given

def has (g : Given) (c : Char) : Bool := g.options.any fun o => o.1 = c

def value? (g : Given) (c : Char) : Option String :=
  ((g.options.filter fun o => o.1 = c).getLast?).map Prod.snd

def lastOf? (g : Given) (letters : List Char) : Option (Char × String) :=
  (g.options.filter fun o => letters.contains o.1).getLast?

def withOptions (g : Given) (os : List (Char × String)) : Given :=
  { g with options := os ++ g.options }

end Given

/-- The options that letters behind a dash stand for, and whether the next argument is the value of
the last. -/
def parseLetters (opts : List Opt) (next? : Option String) :
    List Char → Except String (List (Char × String) × Bool)
  | [] => .ok ([], false)
  | c :: cs =>
      match opts.find? fun o => o.letter = c with
      | none => .error ("invalid option -- '" ++ String.singleton c ++ "'")
      | some o =>
          match o.takes, cs, next? with
          | .nothing, cs, _ => do
              let (os, used) ← parseLetters opts next? cs
              return ((c, "") :: os, used)
          | .maybe, cs, _ => .ok ([(c, String.ofList cs)], false)
          | .value, d :: ds, _ => .ok ([(c, String.ofList (d :: ds))], false)
          | .value, [], some v => .ok ([(c, v)], true)
          | .value, [], none =>
              .error ("option requires an argument -- '" ++ String.singleton c ++ "'")

/-- The option whose name, or the beginning of whose name, stands behind two dashes, with its value,
and whether the next argument is that value. -/
def parseName (opts : List Opt) (next? : Option String) (a : String) :
    Except String (List (Char × String) × Bool) :=
  let (name, value?) := Builtin.cut (String.ofList (a.toList.drop 2))
  let fitting := opts.filter fun o => o.name ≠ "" ∧ name.toList.isPrefixOf o.name.toList
  let fitting := match fitting.filter fun o => o.name = name with
    | [] => fitting
    | exact' => exact'
  match fitting with
  | [] => .error ("unrecognized option '" ++ a ++ "'")
  | [o] =>
      match o.takes, value?, next? with
      | .nothing, some _, _ => .error ("option '--" ++ o.name ++ "' doesn't allow an argument")
      | .value, none, some v => .ok ([(o.letter, v)], true)
      | .value, none, none => .error ("option '--" ++ o.name ++ "' requires an argument")
      | _, value?, _ => .ok ([(o.letter, value?.getD "")], false)
  | _ =>
      .error ("option '" ++ a ++ "' is ambiguous; possibilities:"
        ++ String.join (fitting.map fun o => " '--" ++ o.name ++ "'"))

/-- **The options and the other arguments that a utility is given.**  If they are not mixed, no
options come behind the first other argument. -/
def parse (opts : List Opt) (mixed : Bool) : List String → Except String Given
  | [] => .ok ⟨[], []⟩
  | a :: as =>
      let go (parsed : Except String (List (Char × String) × Bool)) : Except String Given := do
        let (os, used) ← parsed
        match used, as with
        | true, _ :: rest => return (← parse opts mixed rest).withOptions os
        | _, rest => return (← parse opts mixed rest).withOptions os
      match a.toList with
      | ['-', '-'] => .ok ⟨[], as⟩
      | '-' :: '-' :: _ => go (parseName opts as.head? a)
      | '-' :: c :: cs => go (parseLetters opts as.head? (c :: cs))
      | _ =>
          if !mixed then .ok ⟨[], a :: as⟩
          else do
            let g ← parse opts mixed as
            return { g with operands := a :: g.operands }
termination_by as => as.length

/-- A complaint of a utility. -/
def grumble (w : Host) (p : Proc) (text : String) : Host :=
  w.grumble p (p.shell.name ++ ": " ++ text)

/-- A complaint about the arguments of a utility, which leaves the given status. -/
def misuseWith (status : Nat) (w : Host) (p : Proc) (text : String) : Host :=
  ((grumble w p text).grumble p
    ("Try '" ++ p.shell.name ++ " --help' for more information.")).settle p status

/-- A complaint about the arguments of a utility. -/
def misuse (w : Host) (p : Proc) (text : String) : Host := misuseWith 1 w p text

/-- A complaint that is the end of a utility. -/
def refuse (w : Host) (p : Proc) (text : String) : Host := (grumble w p text).settle p 1

/-- **Goes on with the arguments of a utility.** -/
def withArguments (w : Host) (p : Proc) (opts : List Opt) (args : List String)
    (go : Given → Host) : Host :=
  match parse opts true args with
  | .error text => misuse w p text
  | .ok g => go g

/-! ### Names -/

/-- Whether a character can only be shown as an escape. -/
def isHidden (c : Char) : Bool := c < ' ' || c = '\x7f'

/-- Whether a character of a name makes quotes necessary.  Some do at the beginning only, and some
only alone. -/
def isSpecial (name : List Char) (place : Nat) (c : Char) : Bool :=
  isHidden c || " !\x22$&\x27()*;<=>?[\\^\x60|".toList.contains c
    || ['#', '~'].contains c && place = 0 || ['\x7b', '\x7d'].contains c && name.length = 1

/-- Whether a character of a name may stand between double quotes. -/
def isDoubleSafe (name : List Char) (place : Nat) (c : Char) : Bool :=
  c.isAlphanum || " \x27%+,-./:]_".toList.contains c
    || ['#', '~'].contains c && place = 0 || ['\x7b', '\x7d'].contains c && name.length = 1

/-- A character that can only be shown as an escape. -/
def hiddenText (c : Char) : String :=
  match [('\x07', 'a'), ('\x08', 'b'), ('\x0c', 'f'), ('\n', 'n'), ('\r', 'r'), ('\t', 't'),
      ('\x0b', 'v')].lookup c with
  | some letter => String.ofList ['\\', letter]
  | none =>
      let ds := Nat.toDigits 8 c.toNat
      String.ofList ('\\' :: List.replicate (3 - ds.length) '0' ++ ds)

/-- A text between quotes.  Escapes stand in quotes of their own. -/
def quotedText (escaping : Bool) : List Char → String
  | [] => "'"
  | c :: cs =>
      if isHidden c then (if escaping then "" else "'$'") ++ hiddenText c ++ quotedText true cs
      else
        (if escaping then "''" else "")
          ++ (if c = '\x27' then "'\\''" else String.singleton c) ++ quotedText false cs

/-- **A name in quotes**, so that it reads back. -/
def inQuotes (s : String) : String :=
  let cs := s.toList
  if cs.contains '\x27' && cs.zipIdx.all fun (c, n) => isDoubleSafe cs n c then
    "\x22" ++ s ++ "\x22"
  else "'" ++ quotedText false cs

/-- A word as it is shown: in quotes if that is needed. -/
def shownWord (s : String) : String :=
  if s ≠ "" ∧ s.toList.zipIdx.all fun (c, n) => !isSpecial s.toList n c then s else inQuotes s

/-- A name as it is shown before a colon: in quotes if that is needed. -/
def shown (s : String) : String :=
  if s.toList.contains ':' then inQuotes s else shownWord s

/-- The text of a failure, without the number of the system's error. -/
def reason : IoError → String
  | .os n => n.text
  | e => e.message

/-- Whether an operand stands for standard input. -/
def isInput (a : String) : Bool := ["-", "/dev/stdin", "/dev/fd/0", "/proc/self/fd/0"].contains a

end BatchRunner.Utility
