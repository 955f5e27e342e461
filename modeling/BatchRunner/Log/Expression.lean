/-
**Patterns for the values of particulars.**

A directive may ask for a value by a regular expression.  No value is ever compared with one, but an
expression that is wrong spoils the directive.  Letters have no tables behind them here, so that
classes of letters, word boundaries and matching without regard to case are wrong, unless an
expression asks for bytes in place of characters.

An expression is read from left to right.  All that matters is which options are on, which groups
are open, whether there is something that could be repeated, and how deep everything is nested.

Main definitions:

* `Log.Expression.Options`, `Log.Expression.State` — what has been read so far;
* `Log.Expression.escape?`, `Log.Expression.class?` — what stands behind a backslash or a bracket;
* `Log.Expression.isValid` — whether a text is an expression.
-/
import BatchRunner.Text.Alphanumeric
import BatchRunner.Text.Blank

set_option autoImplicit false

namespace BatchRunner.Log.Expression

/-- The options that matter for whether an expression is right. -/
structure Options where
  /-- Case makes no difference. -/
  fold : Bool
  /-- Characters are meant, and not bytes. -/
  chars : Bool
  /-- White space and remarks are left out. -/
  spaced : Bool
  deriving DecidableEq, Repr

/-- Whether case makes no difference between characters.  There is no table of these, so that only
what has no characters of its own can be right. -/
def Options.foldsChars (o : Options) : Bool := o.fold && o.chars

def Options.usual : Options := ⟨false, true, false⟩

/-- The text behind white space and remarks, if these are left out. -/
def skip (o : Options) : List Char → List Char
  | [] => []
  | c :: cs =>
      if !o.spaced then c :: cs
      else if Text.isWhite c then skip o cs
      else if c = '#' then skip o (cs.dropWhile (· ≠ '\n'))
      else c :: cs
termination_by cs => cs.length
decreasing_by
  · simp
  · have := (List.dropWhile_suffix (fun c : Char => decide (c ≠ '\n')) (l := cs)).length_le
    simp only [List.length_cons]
    omega

/-! ### Escapes -/

/-- What stands behind a backslash. -/
inductive Escape where
  /-- A character.  It may be given as a byte. -/
  | char (code : Nat) (byte : Bool)
  /-- A class of characters, possibly all others. -/
  | letters (negated : Bool)
  | wordBoundary
  | anchor
  deriving DecidableEq, Repr

def metaChars : List Char := "\\.+*?()|[]\x7b\x7d^$#&-~".toList

/-- Whether a character stands for itself behind a backslash. -/
def isEscapable (c : Char) : Bool :=
  metaChars.contains c || (c.toNat < 128 && !c.isAlphanum && c ≠ '<' && c ≠ '>')

def hexValue? (c : Char) : Option Nat :=
  if c.isDigit then some (c.toNat - '0'.toNat)
  else if 'a' ≤ c ∧ c ≤ 'f' then some (c.toNat - 'a'.toNat + 10)
  else if 'A' ≤ c ∧ c ≤ 'F' then some (c.toNat - 'A'.toNat + 10)
  else none

def hexDigits? (o : Options) : Nat → Nat → List Char → Option (Nat × List Char)
  | 0, n, cs => some (n, cs)
  | digits + 1, n, cs =>
      match skip o cs with
      | [] => none
      | c :: cs => (hexValue? c).bind fun d => hexDigits? o digits (16 * n + d) cs

/-- Hexadecimal digits up to a closing brace. -/
def bracedHex? (o : Options) (some? : Bool) (n : Nat) : List Char → Option (Nat × List Char)
  | [] => none
  | c :: cs =>
      if c = '\x7d' then (if some? then some (n, cs) else none)
      else if o.spaced && Text.isWhite c then bracedHex? o some? n cs
      else (hexValue? c).bind fun d => bracedHex? o true (16 * n + d) cs

/-- Whether a number is that of a character. -/
def isCode (n : Nat) : Bool := n < 0xd800 || (0xdfff < n && n < 0x110000)

/-- A character given by its number, behind the letter that says how. -/
def hex? (o : Options) (digits : Nat) (cs : List Char) : Option (Escape × List Char) :=
  match skip o cs with
  | '\x7b' :: cs =>
      (bracedHex? o false 0 cs).bind fun (n, cs) =>
        if isCode n then some (.char n false, cs) else none
  | cs =>
      (hexDigits? o digits 0 cs).bind fun (n, cs) =>
        if isCode n then some (.char n (digits = 2), cs) else none

/-- **What stands behind a backslash.**  Classes by name are always wrong. -/
def escape? (o : Options) : List Char → Option (Escape × List Char)
  | [] => none
  | c :: cs =>
      if isEscapable c then some (.char c.toNat false, cs)
      else if ['d', 's', 'w'].contains c then some (.letters false, cs)
      else if ['D', 'S', 'W'].contains c then some (.letters true, cs)
      else if ['a', 'f', 't', 'n', 'r', 'v'].contains c then some (.char 0 false, cs)
      else if ['A', 'z'].contains c then some (.anchor, cs)
      else if ['b', 'B', '<', '>'].contains c then some (.wordBoundary, cs)
      else if c = 'x' then hex? o 2 cs
      else if c = 'u' then hex? o 4 cs
      else if c = 'U' then hex? o 8 cs
      else none

/-- Whether an escape is right outside of classes. -/
def Escape.isRight (o : Options) : Escape → Bool
  | .char n byte => !o.foldsChars && !(byte && 128 ≤ n && !o.chars)
  | .letters negated => !o.chars && !negated
  | .wordBoundary => !o.chars
  | .anchor => true

/-! ### Depth -/

def depthMax : Nat := 250

/-- The depth of parts that stand next to each other.  A part alone is not nested in anything. -/
def together : List Nat → Nat
  | [] => 0
  | [h] => h
  | hs => 1 + hs.foldl max 0

/-! ### Classes -/

def classNames : List String :=
  ["alnum", "alpha", "ascii", "blank", "cntrl", "digit", "graph", "lower", "print", "punct",
    "space", "upper", "word", "xdigit"]

/-- A class with a name between colons: whether it is negated, and what stands behind it. -/
def namedClass? (cs : List Char) : Option (Bool × List Char) :=
  match cs with
  | ':' :: cs =>
      let (negated, cs) := match cs with
        | '^' :: cs => (true, cs)
        | cs => (false, cs)
      let name := cs.takeWhile (· ≠ ':')
      match cs.drop name.length with
      | ':' :: ']' :: rest =>
          if classNames.contains (String.ofList name) then some (negated, rest) else none
      | _ => none
  | _ => none

/-- A member of a class: a character, or a class. -/
inductive Member where
  | char (code : Nat)
  | letters
  deriving DecidableEq, Repr

def member? (o : Options) : List Char → Option (Member × List Char)
  | [] => none
  | '\\' :: cs =>
      (escape? o cs).bind fun (e, cs) =>
        match e with
        | .char n byte =>
            if !o.chars && (128 ≤ n || (byte && 128 ≤ n)) then none else some (.char n, cs)
        | .letters negated => if !o.chars && !negated then some (.letters, cs) else none
        | _ => none
  | c :: cs => if !o.chars && 128 ≤ c.toNat then none else some (.char c.toNat, cs)

/-- Reads a member of a class, or the members from one to another. -/
def range? (o : Options) (cs : List Char) : Option (List Char) := do
  let (a, cs) ← member? o cs
  match skip o cs with
  | [] => none
  | '-' :: cs =>
      match skip o cs with
      | ']' :: _ => some ('-' :: cs)
      | '-' :: _ => some ('-' :: cs)
      | cs =>
          let (b, cs) ← member? o cs
          match a, b with
          | .char m, .char n => if m ≤ n then some cs else none
          | _, _ => none
  | cs => some cs

def dashes (o : Options) : Nat → Nat → List Char → Nat × List Char
  | 0, n, cs => (n, cs)
  | fuel + 1, n, cs =>
      match cs with
      | '-' :: cs => dashes o fuel (n + 1) (skip o cs)
      | cs => (n, cs)

/-- Leaves out dashes at the beginning of a class. -/
def leadingDashes (o : Options) (cs : List Char) : Nat × List Char := dashes o cs.length 0 cs

/-- The beginning of a class: it may be negated, and a bracket that comes first is a member.  Gives
the number of members that have been read. -/
def opened? (o : Options) (cs : List Char) : Option (Nat × List Char) :=
  let (negated, cs) := match skip o cs with
    | '^' :: cs => (true, skip o cs)
    | cs => (false, cs)
  if negated && !o.chars then none
  else
    let (n, cs) := leadingDashes o cs
    match n, cs with
    | _, [] => none
    | 0, ']' :: cs => if o.foldsChars || (skip o cs).isEmpty then none else some (1, skip o cs)
    | n, cs => if o.foldsChars && n ≠ 0 then none else some (n, cs)

/-- What has been read of a class: the depths of its members, and of what stands before the last
operator. -/
structure Reading where
  members : List Nat
  before : Option Nat

namespace Reading

/-- A class of which so many characters have been read. -/
def start (n : Nat) : Reading := ⟨List.replicate n 0, none⟩

def add (r : Reading) (depth : Nat) : Reading := { r with members := depth :: r.members }

def depth (r : Reading) : Nat :=
  match r.before with
  | none => together r.members
  | some h => 1 + max h (together r.members)

/-- What has been read behind an operator. -/
def operator (r : Reading) : Reading := ⟨[], some r.depth⟩

end Reading

/-- Reads the members of a class that has some other classes around it.  Gives its depth. -/
def members? (o : Options) : Nat → Reading → List Reading → List Char → Option (Nat × List Char)
  | 0, _, _, _ => none
  | fuel + 1, here, outer, cs =>
      match skip o cs with
      | [] => none
      | '[' :: cs =>
          match namedClass? cs with
          | some (negated, cs) =>
              if (negated && !o.chars) || o.foldsChars then none
              else members? o fuel (here.add 0) outer cs
          | none =>
              (opened? o cs).bind fun (n, cs) => members? o fuel (.start n) (here :: outer) cs
      | ']' :: cs =>
          match outer with
          | [] => some (1 + here.depth, cs)
          | r :: outer => members? o fuel (r.add (1 + here.depth)) outer cs
      | '&' :: '&' :: cs => members? o fuel here.operator outer cs
      | '-' :: '-' :: cs => members? o fuel here.operator outer cs
      | '~' :: '~' :: cs => members? o fuel here.operator outer cs
      | cs =>
          if o.foldsChars then none
          else (range? o cs).bind (members? o fuel (here.add 0) outer)

/-- **The depth of a class**, whose bracket has been read, and what stands behind it. -/
def class? (o : Options) (cs : List Char) : Option (Nat × List Char) :=
  (opened? o cs).bind fun (n, cs) => members? o (2 * cs.length + 2) (.start n) [] cs

/-! ### Groups -/

/-- Turns an option on or off, if there is one of that letter. -/
def Options.turn? (o : Options) (on : Bool) (c : Char) : Option Options :=
  if c = 'i' then some { o with fold := on }
  else if c = 'u' then some { o with chars := on }
  else if c = 'x' then some { o with spaced := on }
  else if ['m', 's', 'U', 'R'].contains c then some o
  else none

/-- Reads letters of options.  Each may come once, as may the dash before those that are turned off,
which cannot come last.  Gives the character that ends them. -/
def flags? (o : Options) (seen : List Char) (on : Bool) (last : Char) :
    List Char → Option (Options × Bool × Char × List Char)
  | [] => none
  | c :: cs =>
      if c = ':' ∨ c = ')' then if last = '-' then none else some (o, seen.isEmpty, c, cs)
      else if seen.contains c then none
      else if c = '-' then flags? o (c :: seen) false c cs
      else (o.turn? on c).bind fun o => flags? o (c :: seen) on c cs

/-- Whether a character may be part of the name of a group. -/
def isNameChar (first : Bool) (c : Char) : Bool :=
  c = '_' || (Text.isAlphanumeric c && !(first && c.isDigit))
    || (!first && ['.', '[', ']'].contains c)

def name? (cs : List Char) : Option (String × List Char) :=
  let name := cs.takeWhile (· ≠ '>')
  match name, cs.drop name.length with
  | c :: more, '>' :: rest =>
      if isNameChar true c && more.all (isNameChar false) then some (String.ofList name, rest)
      else none
  | _, _ => none

/-- A part of an expression: how deep it is, and whether it could be repeated. -/
structure Item where
  depth : Nat
  repeatable : Bool

/-- What has been read of a group: the parts that stand next to each other, the last first, and the
depths of the alternatives before them. -/
structure Level where
  items : List Item
  branches : List Nat

namespace Level

/-- A group of which nothing has been read. -/
def start : Level := ⟨[], []⟩

def add (l : Level) (i : Item) : Level := { l with items := i :: l.items }

/-- The depth of the parts that stand next to each other. -/
def row (l : Level) : Nat := together (l.items.map Item.depth)

def branch (l : Level) : Level := ⟨[], l.row :: l.branches⟩

def depth (l : Level) : Nat := together (l.row :: l.branches)

/-- Repeats the last part, if that is possible. -/
def repeat? (l : Level) : Option Level :=
  match l.items with
  | ⟨depth, true⟩ :: items => some { l with items := ⟨depth + 1, true⟩ :: items }
  | _ => none

end Level

/-- What has been read so far. -/
structure State where
  options : Options
  level : Level
  /-- What was read before the groups that are open, and the options there. -/
  outer : List (Options × Level)
  names : List String

def State.enter (s : State) (o : Options) : State :=
  { s with options := o, level := .start, outer := (s.options, s.level) :: s.outer }

/-- Adds a part that could be repeated. -/
def State.item (s : State) (depth : Nat) : State := { s with level := s.level.add ⟨depth, true⟩ }

/-- Opens a group with a name that no other has. -/
def State.enterNamed? (s : State) (cs : List Char) : Option (State × List Char) :=
  (name? cs).bind fun (name, cs) =>
    if s.names.contains name then none
    else some ({ s.enter s.options with names := name :: s.names }, cs)

/-- What stands behind an opening parenthesis. -/
def State.group? (s : State) (cs : List Char) : Option (State × List Char) :=
  match skip s.options cs with
  | '?' :: '=' :: _ => none
  | '?' :: '!' :: _ => none
  | '?' :: '<' :: '=' :: _ => none
  | '?' :: '<' :: '!' :: _ => none
  | '?' :: 'P' :: '<' :: cs => s.enterNamed? cs
  | '?' :: '<' :: cs => s.enterNamed? cs
  | '?' :: cs =>
      (flags? s.options [] true ' ' cs).bind fun (o, none?, last, cs) =>
        if last = ':' then some (s.enter o, cs)
        else if none? then none
        else some ({ s with options := o, level := s.level.add ⟨0, false⟩ }, cs)
  | cs => some (s.enter s.options, cs)

/-! ### Expressions -/

/-- A number of repetitions, in front of which there may be white space. -/
def count? (cs : List Char) : Option (Nat × List Char) :=
  let cs := cs.dropWhile Text.isWhite
  let ds := cs.takeWhile Char.isDigit
  let n := ds.foldl (fun n d => 10 * n + (d.toNat - '0'.toNat)) 0
  if ds.isEmpty || 4294967295 < n then none
  else some (n, (cs.drop ds.length).dropWhile Text.isWhite)

/-- What stands behind a number of repetitions in braces. -/
def counts? (o : Options) (cs : List Char) : Option (List Char) := do
  let (a, cs) ← count? (skip o cs)
  match cs with
  | '\x7d' :: cs => some cs
  | ',' :: cs =>
      match skip o cs with
      | '\x7d' :: cs => some cs
      | cs =>
          let (b, cs) ← count? cs
          match cs with
          | '\x7d' :: cs => if a ≤ b then some cs else none
          | _ => none
  | _ => none

/-- What stands behind a repetition, which may be followed by a question mark. -/
def lazily : List Char → List Char
  | '?' :: cs => cs
  | cs => cs

/-- Reads one part of an expression. -/
def State.part? (s : State) (c : Char) (cs : List Char) : Option (State × List Char) :=
  let o := s.options
  let repeated (cs : List Char) : Option (State × List Char) :=
    s.level.repeat?.map fun l => ({ s with level := l }, lazily cs)
  if c = '(' then s.group? cs
  else if c = ')' then
    match s.outer with
    | [] => none
    | (o, l) :: os =>
        some ({ s with
          options := o, level := l.add ⟨1 + s.level.depth, true⟩, outer := os }, cs)
  else if c = '|' then some ({ s with level := s.level.branch }, cs)
  else if c = '[' then (class? o cs).map fun (depth, cs) => (s.item depth, cs)
  else if c = '*' ∨ c = '+' ∨ c = '?' then repeated cs
  else if c = '\x7b' then (counts? o cs).bind repeated
  else if c = '\\' then
    (escape? o cs).bind fun (e, cs) => if e.isRight o then some (s.item 0, cs) else none
  else if c = '.' then if o.chars then some (s.item 0, cs) else none
  else if c = '^' ∨ c = '$' then some (s.item 0, cs)
  else if o.foldsChars then none
  else some (s.item 0, cs)

/-- Reads the parts of an expression. -/
def State.isRight (s : State) : Nat → List Char → Bool
  | 0, _ => false
  | fuel + 1, cs =>
      match skip s.options cs with
      | [] => s.outer.isEmpty && s.level.depth ≤ depthMax
      | c :: cs =>
          match s.part? c cs with
          | some (s, cs) => s.isRight fuel cs
          | none => false

/-- **Whether a text is an expression** that is not nested too deep. -/
def isValid (text : String) : Bool :=
  State.isRight ⟨.usual, .start, [], []⟩ (text.length + 1) text.toList

/-! ### Numbers -/

/-- Whether a text is a number, with a sign, a fraction and an exponent allowed. -/
def isNumber (text : String) : Bool :=
  let unsigned (cs : List Char) : List Char := match cs with
    | '+' :: cs => cs
    | '-' :: cs => cs
    | cs => cs
  let cs := unsigned text.toList
  let whole := cs.takeWhile Char.isDigit
  let (fraction, rest) := match cs.drop whole.length with
    | '.' :: cs => (cs.takeWhile Char.isDigit, cs.dropWhile Char.isDigit)
    | cs => ([], cs)
  let word := String.ofList (cs.map Char.toLower)
  let isExponent := match rest with
    | [] => true
    | e :: cs =>
        (e = 'e' || e = 'E') && !(unsigned cs).isEmpty && (unsigned cs).all Char.isDigit
  ["inf", "infinity", "nan"].contains word || (!(whole ++ fraction).isEmpty && isExponent)

/-- **Whether a text can be asked for as a value**: a number or an expression. -/
def isValue (text : String) : Bool := isNumber text || isValid text

end BatchRunner.Log.Expression
