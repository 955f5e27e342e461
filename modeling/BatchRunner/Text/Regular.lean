/-
**Regular expressions and what they fit.**

An expression fits parts of a text.  Of the parts that begin first the longest one counts.  There
are two ways to write expressions: in the basic one groups, alternatives and repetitions with
numbers are marked by backslashes, in the extended one backslashes take such meanings away.

Main definitions:

* `Regular` — expressions;
* `Regular.parse` — reads an expression;
* `Regular.ends` — where the parts that begin at a place end;
* `Regular.find?` — the first part of a text that an expression fits.
-/
import BatchRunner.Script.Pattern

set_option autoImplicit false

namespace BatchRunner

/-- A regular expression. -/
inductive Regular where
  | empty
  /-- One character within one of the ranges, or within none. -/
  | one (negated : Bool) (ranges : List (Char × Char))
  | any
  | seq (a b : Regular)
  | either (a b : Regular)
  /-- At least and at most so many times. -/
  | times (r : Regular) (least : Nat) (most : Option Nat)
  | group (n : Nat) (r : Regular)
  /-- What a group has fitted. -/
  | again (n : Nat)
  | lineStart
  | lineEnd
  /-- A place where a word begins or ends, as far as that is wanted. -/
  | edge (atStart atEnd : Bool)
  /-- A place where no word begins or ends. -/
  | noEdge
  /-- At least and at most so many times, where fewer are preferred. -/
  | fewest (r : Regular) (least : Nat) (most : Option Nat)
  /-- A place that an expression does or does not fit from on. -/
  | ahead (wanted : Bool) (r : Regular)
  /-- A place that an expression does or does not fit up to. -/
  | behind (wanted : Bool) (r : Regular)
  /-- The place where the part that counts begins. -/
  | cutoff
  deriving DecidableEq, Repr

namespace Regular

/-! ### Fitting -/

/-- A place in a text, and the groups fitted on the way there: their numbers, and where they begin
and end. -/
structure Trail where
  place : Nat
  groups : List (Nat × Nat × Nat)
  deriving DecidableEq, Repr

/-- A text to be searched. -/
structure Subject where
  text : Array Char
  /-- Whether capitals and small letters are alike. -/
  fold : Bool

/-- Whether a character is in one of some ranges. -/
def within (fold : Bool) (ranges : List (Char × Char)) (c : Char) : Bool :=
  let has (c : Char) : Bool := ranges.any fun r => r.1 ≤ c && c ≤ r.2
  has c || fold && (has c.toLower || has c.toUpper)

/-- Whether a character can be part of a word. -/
def inWord (c : Char) : Bool := c.isAlphanum || c = '_'

/-- Whether a character of a word stands at a place. -/
def Subject.wordAt (s : Subject) (n : Nat) : Bool := (s.text[n]?).any inWord

/-- Whether a character of a word stands before a place. -/
def Subject.wordBefore (s : Subject) (n : Nat) : Bool := n ≠ 0 && s.wordAt (n - 1)

/-- Leaves out trails to places that an earlier one leads to. -/
def tidy : List Trail → List Nat → List Trail
  | [], _ => []
  | t :: ts, seen =>
      if seen.contains t.place then tidy ts seen else t :: tidy ts (t.place :: seen)

/-- The trails after so many more steps at most, the longest first. -/
def repeated (step : Trail → List Trail) : Nat → List Trail → List Nat → List Trail
  | 0, here, _ => here
  | n + 1, here, seen =>
      let seen := here.map Trail.place ++ seen
      let next := tidy (here.flatMap step) seen
      if next.isEmpty then here else tidy (repeated step n next seen ++ here) []

/-- The trails after exactly so many steps. -/
def exactly (step : Trail → List Trail) : Nat → List Trail → List Trail
  | 0, here => here
  | n + 1, here => exactly step n (tidy (here.flatMap step) [])

/-- The trails after so many more steps at most, the shortest first. -/
def growing (step : Trail → List Trail) : Nat → List Trail → List Nat → List Trail
  | 0, here, _ => here
  | n + 1, here, seen =>
      let seen := here.map Trail.place ++ seen
      let next := tidy (here.flatMap step) seen
      if next.isEmpty then here else here ++ growing step n next seen

def alike (fold : Bool) (a b : Char) : Bool := a = b || fold && a.toLower = b.toLower

/-- **Where the parts end that an expression fits from a place on**, with the groups on the way. -/
def ends (s : Subject) : Regular → Trail → List Trail
  | empty, t => [t]
  | one negated ranges, t =>
      match s.text[t.place]? with
      | some c =>
          if within s.fold ranges c != negated then [{ t with place := t.place + 1 }] else []
      | none => []
  | any, t => if t.place < s.text.size then [{ t with place := t.place + 1 }] else []
  | seq a b, t => tidy ((ends s a t).flatMap (ends s b)) []
  | either a b, t => tidy (ends s a t ++ ends s b t) []
  | times r least most, t =>
      let first := exactly (ends s r) least [t]
      let more := match most with
        | some n => n - least
        | none => s.text.size + 1
      repeated (ends s r) more first []
  | group n r, t => (ends s r t).map fun u =>
      { u with groups := (n, t.place, u.place) :: u.groups.filter fun g => g.1 ≠ n }
  | again n, t =>
      match t.groups.find? fun g => g.1 = n with
      | none => []
      | some (_, a, b) =>
          let same := (List.range (b - a)).all fun i =>
            match s.text[a + i]?, s.text[t.place + i]? with
            | some x, some y => alike s.fold x y
            | _, _ => false
          if same then [{ t with place := t.place + (b - a) }] else []
  | lineStart, t => if t.place = 0 then [t] else []
  | lineEnd, t => if t.place = s.text.size then [t] else []
  | edge atStart atEnd, t =>
      let before := s.wordBefore t.place
      let here := s.wordAt t.place
      if atStart && !before && here || atEnd && before && !here then [t] else []
  | noEdge, t => if s.wordBefore t.place == s.wordAt t.place then [t] else []
  | fewest r least most, t =>
      let more := match most with
        | some n => n - least
        | none => s.text.size + 1
      growing (ends s r) more (exactly (ends s r) least [t]) []
  | ahead wanted r, t => if !(ends s r t).isEmpty == wanted then [t] else []
  | behind wanted r, t =>
      let fits := (List.range (t.place + 1)).any fun n =>
        (ends s r { t with place := n }).any fun u => u.place = t.place
      if fits == wanted then [t] else []
  | cutoff, t => [{ t with groups := (0, t.place, t.place) :: t.groups.filter fun g => g.1 ≠ 0 }]

/-- The trail that leads furthest. -/
def furthest : List Trail → Option Trail
  | [] => none
  | t :: ts =>
      match furthest ts with
      | some u => some (if t.place < u.place then u else t)
      | none => some t

/-- A part of a text that an expression fits. -/
structure Match where
  start : Nat
  stop : Nat
  groups : List (Nat × Nat × Nat)
  deriving DecidableEq, Repr

/-- The longest part that begins at a place. -/
def matchAt? (r : Regular) (s : Subject) (n : Nat) : Option Match :=
  (furthest (r.ends s ⟨n, []⟩)).map fun t => ⟨n, t.place, t.groups⟩

/-- The first part that begins at one of the places from a given one on. -/
def findFrom (r : Regular) (s : Subject) : Nat → Nat → Option Match
  | 0, _ => none
  | count + 1, n => (r.matchAt? s n).or (findFrom r s count (n + 1))

/-- **The first part of a text that an expression fits**, from a place on. -/
def find? (r : Regular) (s : Subject) (n : Nat) : Option Match :=
  r.findFrom s (s.text.size + 1 - n) n

def Match.group? (m : Match) (s : Subject) (n : Nat) : Option (List Char) :=
  let part (a b : Nat) : List Char := (s.text.toList.take b).drop a
  if n = 0 then some (part m.start m.stop)
  else (m.groups.find? fun g => g.1 = n).map fun g => part g.2.1 g.2.2

/-! ### Reading -/

/-- The classes that a letter stands for behind a backslash. -/
def shorthand? : Char → Option Regular
  | 'w' => some (.one false wordRanges)
  | 'W' => some (.one true wordRanges)
  | 's' => some (.one false spaceRanges)
  | 'S' => some (.one true spaceRanges)
  | 'b' => some (.edge true true)
  | 'B' => some .noEdge
  | '<' => some (.edge true false)
  | '>' => some (.edge false true)
  | _ => none
where
  /-- The characters of words. -/
  wordRanges : List (Char × Char) := [('a', 'z'), ('A', 'Z'), ('0', '9'), ('_', '_')]
  /-- White space. -/
  spaceRanges : List (Char × Char) := [(' ', ' '), ('\t', '\r')]

def ofChar (c : Char) : Regular := .one false [(c, c)]

/-- The ranges within brackets up to the closing one, and what follows.  A closing bracket that
comes first is a character like others. -/
def ranges : Nat → Bool → List Char → Except String (List (Char × Char) × List Char)
  | 0, _, _ => .error unmatched
  | _, _, [] => .error unmatched
  | fuel + 1, isFirst, c :: cs =>
      if c = ']' && !isFirst then .ok ([], cs)
      else
        match c, cs with
        | '[', ':' :: rest =>
            let name := rest.takeWhile fun x => x ≠ ':'
            match rest.drop name.length with
            | ':' :: ']' :: rest =>
                match Script.Pattern.classes.lookup (String.ofList name) with
                | some rs => do
                    let (more, rest) ← ranges fuel false rest
                    return (rs ++ more, rest)
                | none => .error "Invalid character class name"
            | _ => .error unmatched
        | '[', '=' :: x :: '=' :: ']' :: rest => do
            let (more, rest) ← ranges fuel false rest
            return ((x, x) :: more, rest)
        | '[', '.' :: x :: '.' :: ']' :: rest => do
            let (more, rest) ← ranges fuel false rest
            return ((x, x) :: more, rest)
        | c, '-' :: d :: rest =>
            if d = ']' then do
              let (more, rest) ← ranges fuel false cs
              return ((c, c) :: more, rest)
            else if d < c then .error "Invalid range end"
            else do
              let (more, rest) ← ranges fuel false rest
              return ((c, d) :: more, rest)
        | c, cs => do
            let (more, rest) ← ranges fuel false cs
            return ((c, c) :: more, rest)
where
  /-- What is said about a bracket that is not closed. -/
  unmatched : String := "Unmatched [, [^, [:, [., or [="

/-- The numbers of a repetition, and what follows its end. -/
def bounds (extended : Bool) (cs : List Char) : Option (Nat × Option Nat × List Char) :=
  let first := cs.takeWhile Char.isDigit
  let rest := cs.drop first.length
  let number (ds : List Char) : Nat := (String.ofList ds).toNat?.getD 0
  let closed (cs : List Char) : Option (List Char) := match extended, cs with
    | true, '\x7d' :: cs => some cs
    | false, '\\' :: '\x7d' :: cs => some cs
    | _, _ => none
  match rest with
  | ',' :: rest =>
      let second := rest.takeWhile Char.isDigit
      (closed (rest.drop second.length)).map fun cs =>
        (number first, if second.isEmpty then none else some (number second), cs)
  | rest =>
      if first.isEmpty then none
      else (closed rest).map fun cs => (number first, some (number first), cs)

/-- What stands at the head of an expression. -/
inductive Mark where
  | open'
  | close
  | bar
  | star
  | plus
  | question
  | brace
  deriving DecidableEq, Repr

/-- The mark at the head of an expression, and what follows it. -/
def mark? (extended : Bool) : List Char → Option (Mark × List Char)
  | '*' :: cs => some (.star, cs)
  | '\\' :: c :: cs => if extended then none else (plain? c).map fun m => (m, cs)
  | c :: cs => if extended then (plain? c).map fun m => (m, cs) else none
  | [] => none
where
  /-- The mark that a character is. -/
  plain? : Char → Option Mark
    | '(' => some .open'
    | ')' => some .close
    | '|' => some .bar
    | '+' => some .plus
    | '?' => some .question
    | '\x7b' => some .brace
    | _ => none

/-- What has been read of an expression: it, how many groups there are, and what follows. -/
abbrev Reading := Except String (Regular × Nat × List Char)

def suffixes (extended : Bool) : Nat → Regular → List Char → Except String (Regular × List Char)
  | 0, r, cs => .ok (r, cs)
  | fuel + 1, r, cs =>
      match mark? extended cs with
      | some (.star, cs) => suffixes extended fuel (.times r 0 none) cs
      | some (.plus, cs) => suffixes extended fuel (.times r 1 none) cs
      | some (.question, cs) => suffixes extended fuel (.times r 0 (some 1)) cs
      | some (.brace, rest) =>
          match bounds extended rest with
          | some (a, b, cs) =>
              if b.any (· < a) then .error "Invalid content of \\\x7b\\\x7d"
              else suffixes extended fuel (.times r a b) cs
          | none =>
              if extended then .ok (r, cs)
              else if isClosed rest then .error "Invalid content of \\\x7b\\\x7d"
              else .error "Unmatched \\\x7b"
      | _ => .ok (r, cs)
where
  /-- Whether a repetition with numbers ends somewhere. -/
  isClosed : List Char → Bool
    | '\\' :: '\x7d' :: _ => true
    | _ :: cs => isClosed cs
    | [] => false

/-- Whether an expression, or an alternative of one, ends here. -/
def endsHere (extended : Bool) (depth : Nat) (cs : List Char) : Bool :=
  match mark? extended cs with
  | some (.bar, _) => true
  | some (.close, _) => depth ≠ 0 || !extended
  | _ => cs.isEmpty

mutual

/-- Alternatives. -/
def readEither (extended : Bool) : Nat → Nat → Nat → List Char → Reading
  | 0, _, _, _ => .error "Regular expression too big"
  | fuel + 1, depth, n, cs => do
      let (r, n, cs) ← readSeq extended fuel depth n true cs
      match mark? extended cs with
      | some (.bar, cs) =>
          let (s, n, cs) ← readEither extended fuel depth n cs
          return (.either r s, n, cs)
      | _ => return (r, n, cs)

def readSeq (extended : Bool) : Nat → Nat → Nat → Bool → List Char → Reading
  | 0, _, _, _, _ => .error "Regular expression too big"
  | fuel + 1, depth, n, isFirst, cs => do
      if endsHere extended depth cs then return (.empty, n, cs)
      let (r, n, cs) ← readOne extended fuel depth n isFirst cs
      let still := isFirst && r = .lineStart && !extended
      let (r, cs) ← if r = .lineStart && !extended then pure (r, cs)
        else suffixes extended cs.length r cs
      let (s, n, cs) ← readSeq extended fuel depth n still cs
      return (.seq r s, n, cs)

def readOne (extended : Bool) : Nat → Nat → Nat → Bool → List Char → Reading
  | 0, _, _, _, _ => .error "Regular expression too big"
  | fuel + 1, depth, n, isFirst, cs =>
      match mark? extended cs with
      | some (.open', rest) => do
          let m := n + 1
          let (r, n, rest) ← readEither extended fuel (depth + 1) m rest
          match mark? extended rest with
          | some (.close, rest) => return (.group m r, n, rest)
          | _ => .error "Unmatched ( or \\("
      | some (.close, rest) =>
          if extended then .ok (ofChar ')', n, rest) else .error "Unmatched ) or \\)"
      | some (.star, rest) =>
          if isFirst then (if extended then .ok (.empty, n, rest) else .ok (ofChar '*', n, rest))
          else .error "Invalid preceding regular expression"
      | some (m, rest) =>
          if extended && m ≠ .brace then .ok (.empty, n, rest)
          else if m = .brace && !extended then .error "Invalid preceding regular expression"
          else .ok (ofChar (literal m), n, rest)
      | none =>
          match cs with
          | '\\' :: [] => .error "Trailing backslash"
          | '\\' :: c :: rest =>
              if '1' ≤ c && c ≤ '9' then
                let k := c.toNat - '0'.toNat
                if k ≤ n then .ok (.again k, n, rest) else .error "Invalid back reference"
              else
                match shorthand? c with
                | some r => .ok (r, n, rest)
                | none => .ok (ofChar c, n, rest)
          | '.' :: rest => .ok (.any, n, rest)
          | '^' :: rest =>
              if extended || isFirst then .ok (.lineStart, n, rest) else .ok (ofChar '^', n, rest)
          | '$' :: rest =>
              if extended || endsHere extended depth rest then .ok (.lineEnd, n, rest)
              else .ok (ofChar '$', n, rest)
          | ['['] => .error "Invalid regular expression"
          | ['[', '^'] => .error "Invalid regular expression"
          | '[' :: '^' :: rest => do
              let (rs, rest) ← ranges (rest.length + 1) true rest
              return (.one true rs, n, rest)
          | '[' :: rest => do
              let (rs, rest) ← ranges (rest.length + 1) true rest
              return (.one false rs, n, rest)
          | c :: rest => .ok (ofChar c, n, rest)
          | [] => .ok (.empty, n, [])
where
  /-- The character of a mark that has no meaning where it stands. -/
  literal : Mark → Char
    | .plus => '+'
    | .question => '?'
    | .brace => '\x7b'
    | _ => '|'

end

/-- **Reads an expression**, in the basic or in the extended way. -/
def parse (extended : Bool) (s : String) : Except String Regular := do
  let (r, _, rest) ← readEither extended (4 * s.length + 4) 0 0 s.toList
  if rest.isEmpty then return r
  else throw "Unmatched ) or \\)"

end Regular

end BatchRunner
