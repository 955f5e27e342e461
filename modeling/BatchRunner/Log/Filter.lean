/-
**Which events are written.**

A filter is a list of directives.  Each sets a level for all parts or for the parts whose name
starts with a given text, and may be limited to events that have a given particular.  The longest
text that fits decides, and among equal ones a directive that asks for a particular; an event that
no directive fits is not written.  Directives for the events within a span of work fit nothing,
because no event happens within one.

Main definitions:

* `Log.Threshold`, `Log.Directive`, `Log.Filter` — filters;
* `Log.Directive.parse?`, `Log.Filter.parse?` — read one directive, and a comma-separated list;
* `Log.defaultDirectives` — the list used when none is given;
* `Log.Filter.admits` — whether an event is written.
-/
import BatchRunner.Log.Event
import BatchRunner.Log.Expression
import BatchRunner.Text.Alphanumeric
import BatchRunner.Text.Blank

set_option autoImplicit false

namespace BatchRunner.Log

/-- The least important level that is written; `none` writes nothing. -/
abbrev Threshold := Option Level

/-- A particular that a directive asks for, and possibly the value it is to have. -/
structure Wanted where
  name : String
  value : Option String
  deriving DecidableEq, Repr

/-- A level, for all parts or for those whose name starts with `target`. -/
structure Directive where
  target : Option String
  /-- The span of work that events must be within. -/
  span : Option String
  field : Option Wanted
  threshold : Threshold
  deriving DecidableEq, Repr

abbrev Filter := List Directive

/-- The lower-case form of an ASCII text. -/
def lower (s : String) : String := String.ofList (s.toList.map Char.toLower)

/-- Reads a decimal number, a plus sign in front allowed. -/
def number? (s : String) : Option Nat :=
  let ds := match s.toList with
    | '+' :: ds => ds
    | ds => ds
  if ds ≠ [] ∧ ds.all Char.isDigit then
    some (ds.foldl (fun n c => n * 10 + (c.toNat - '0'.toNat)) 0)
  else none

/-- Reads a threshold: the word of a level in any case, `off`, or a number from zero to five. -/
def Threshold.parse? (s : String) : Option Threshold :=
  match number? s with
  | some 0 => some none
  | some (n + 1) => (Level.all[n]?).map some
  | none =>
      if lower s = "off" then some none
      else (Level.all.find? fun l => l.word = lower s).map some

/-- A text without the white space around it. -/
def trimmed (cs : List Char) : List Char :=
  ((cs.dropWhile Text.isWhite).reverse.dropWhile Text.isWhite).reverse

/-- Whether a directive may start with a character, an opening bracket apart. -/
def startsDirective (c : Char) : Bool :=
  c = '-' || c = ':' || c = '_' || Text.isAlphanumeric c

namespace Directive

/-- A directive for everything. -/
def universal : Directive := ⟨none, none, none, some .trace⟩

/-- What part of a directive is being read, and where it began. -/
inductive Stage where
  | start
  | name
  | span (since : Nat)
  | field (since : Nat)
  /-- Behind the particular. -/
  | closing
  /-- Behind the brackets. -/
  | closed
  | level (since : Nat)
  deriving DecidableEq, Repr

/-- A text without its first bytes, if these are whole characters. -/
def dropBytes? : Nat → List Char → Option (List Char)
  | 0, cs => some cs
  | _ + 1, [] => none
  | n + 1, c :: cs => if c.utf8Size ≤ n + 1 then dropBytes? (n + 1 - c.utf8Size) cs else none
termination_by _ cs => cs.length

/-- The first bytes of a text, if these are whole characters. -/
def takeBytes? : Nat → List Char → Option (List Char)
  | 0, _ => some []
  | _ + 1, [] => none
  | n + 1, c :: cs =>
      if c.utf8Size ≤ n + 1 then (takeBytes? (n + 1 - c.utf8Size) cs).map (c :: ·) else none
termination_by _ cs => cs.length

/-- What stands in a text between two positions, which are counted in bytes. -/
def between? (text : List Char) (i j : Nat) : Option String := do
  return String.ofList (← takeBytes? (j - i) (← dropBytes? i text))

/-- Reads a particular, whose value must be one that can be asked for. -/
def wanted? (s : String) : Option Wanted :=
  let name := s.toList.takeWhile (· ≠ '=')
  let value := match s.toList.drop name.length with
    | _ :: value => some (String.ofList (value.takeWhile (· ≠ '=')))
    | [] => none
  if s ≠ "" ∧ value.all Expression.isValue then some ⟨String.ofList name, value⟩ else none

/-- What one character at the position `i` of a text adds to a directive.  The characters that end
its pieces take one byte each. -/
def next? (text : List Char) (i : Nat) (c : Char) (d : Directive) :
    Stage → Option (Directive × Stage)
  | .start =>
      if c = '[' then some (d, .span (i + 1))
      else if startsDirective c then some (d, .name)
      else none
  | .name =>
      if c = '=' then
        (between? text 0 i).map fun s => ({ d with target := some s }, .level (i + 1))
      else if c = '[' then
        (between? text 0 i).map fun s => ({ d with target := some s }, .span (i + 1))
      else some (d, .name)
  | .span k =>
      if c = ']' then (between? text k i).map fun s => ({ d with span := some s }, .closed)
      else if c = '\x7b' then
        (between? text k i).map fun s =>
          ({ d with span := if s = "" then none else some s }, .field (i + 1))
      else some (d, .span k)
  | .field k =>
      if c = '\x7d' then
        ((between? text k i).bind wanted?).map fun f => ({ d with field := some f }, .closing)
      else some (d, .field k)
  | .closing => if c = ']' then some (d, .closed) else none
  | .closed => if c = '=' then some (d, .level (i + 1)) else none
  | .level k => some (d, .level k)

/-- What the end of a text makes of a directive.  A lone text is a level, or else a name that is
opened for all levels, as is one without a level behind its equals sign. -/
def finish? (text : List Char) (d : Directive) : Stage → Option Directive
  | .name =>
      let s := String.ofList text
      match Threshold.parse? s with
      | some t => some { d with threshold := t }
      | none => some { d with target := some s }
  | .level k =>
      (dropBytes? k text).bind fun cs =>
        let s := String.ofList cs
        if s = "" then some d else (Threshold.parse? s).map fun t => { d with threshold := t }
  | .closed => some d
  | _ => none

def scan? (text : List Char) : List Char → Nat → Directive → Stage → Option Directive
  | [], _, d, stage => d.finish? text stage
  | c :: cs, i, d, stage =>
      match next? text i c d stage with
      | none => none
      | some (d, stage) => scan? text cs (i + c.utf8Size) d stage

/-- **Reads one directive.**  White space around it takes no part in finding its pieces, but the
pieces are cut out of the text as it stands, so that white space moves them. -/
def parse? (s : String) : Option Directive :=
  scan? s.toList (trimmed s.toList) 0 universal .start

/-- Whether a directive can fit an event that is not within a span. -/
def isPlain (d : Directive) : Bool := d.span.isNone && d.field.all fun f => f.value.isNone

/-- Whether a directive fits an event.  Its message is one of its particulars. -/
def fits (d : Directive) (e : Event) : Bool :=
  (d.target.all fun t => t.toList.isPrefixOf e.part.target.toList)
    && d.field.all fun f => f.name = "message" || e.fields.any fun x => x.1 = f.name

/-- How long the text is that a part must start with; none at all is less than an empty one. -/
def reach (d : Directive) : Nat :=
  match d.target with
  | none => 0
  | some t => t.utf8ByteSize + 1

/-- Whether one directive goes before another that fits the same event. -/
def outranks (a b : Directive) : Bool :=
  if a.reach ≠ b.reach then b.reach < a.reach
  else
    match a.field, b.field with
    | some f, some g => g.name < f.name
    | some _, none => true
    | none, _ => false

end Directive

def cutCommas (s : String) : List String :=
  (s.splitOn ",").filter (· ≠ "")

/-- Adds a directive; a later one replaces an earlier one for the same events. -/
def Filter.add (f : Filter) (d : Directive) : Filter :=
  f.filter (fun e => !(e.target = d.target && e.field = d.field)) ++ [d]

/-- **Reads a list of directives;** one that cannot be read spoils the whole list. -/
def Filter.parse? (s : String) : Option Filter :=
  ((cutCommas s).mapM Directive.parse?).map fun ds =>
    (ds.filter Directive.isPlain).foldl Filter.add []

/-- The names of the runner's own parts. -/
def runnerTargets : List String := ["ptabench_core", "ptabench"]

/-- The list of directives used when none is given: warnings from everywhere, and the given level
from the runner itself. -/
def defaultDirectives (level : Level) : String :=
  String.join ("warn" :: runnerTargets.map fun t => "," ++ t ++ "=" ++ level.word)

/-- The first among the directives that fit an event. -/
def Filter.best? (f : Filter) (e : Event) : Option Directive :=
  (f.filter fun d => d.fits e).foldl
    (fun best d =>
      match best with
      | none => some d
      | some b => if d.outranks b then some d else some b)
    none

/-- **Whether an event is written.** -/
def Filter.admits (f : Filter) (e : Event) : Bool :=
  match (f.best? e).bind Directive.threshold with
  | some l => e.level.rank ≤ l.rank
  | none => false

end BatchRunner.Log
