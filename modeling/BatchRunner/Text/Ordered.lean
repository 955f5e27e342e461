/-
**Expressions whose ways of fitting are in order.**

Of the ways in which such an expression fits a part of a text the first one counts: alternatives
are tried from left to right, and repetitions are as long or as short as they ask for.  Letters
behind backslashes stand for classes and for characters, and a question mark behind a parenthesis
says what a group is for.

Main definitions:

* `Regular.Ordered.Reader` — what reading goes by;
* `Regular.Ordered.parse` — reads an expression.
-/
import BatchRunner.Text.Regular

set_option autoImplicit false

namespace BatchRunner.Regular.Ordered

/-- What reading goes by: the number of groups so far, and whether capitals and small letters are
alike from here on. -/
structure Reader where
  groups : Nat
  fold : Bool
  deriving DecidableEq, Repr

abbrev Reading := Except String (Regular × Reader × List Char)

/-! ### Characters -/

def digits : List (Char × Char) := [('0', '9')]

def blanks : List (Char × Char) := [(' ', ' '), ('\t', '\t')]

/-- The class that a letter stands for, and whether it is that of all other characters. -/
def class? : Char → Option (Bool × List (Char × Char))
  | 'd' => some (false, digits)
  | 'D' => some (true, digits)
  | 'w' => some (false, shorthand?.wordRanges)
  | 'W' => some (true, shorthand?.wordRanges)
  | 's' => some (false, shorthand?.spaceRanges)
  | 'S' => some (true, shorthand?.spaceRanges)
  | 'h' => some (false, blanks)
  | 'H' => some (true, blanks)
  | 'N' => some (true, [('\n', '\n')])
  | _ => none

/-- The character that a letter stands for. -/
def control? : Char → Option Char
  | 'a' => some '\x07'
  | 'e' => some '\x1b'
  | 'f' => some '\x0c'
  | 'n' => some '\n'
  | 'r' => some '\r'
  | 't' => some '\t'
  | _ => none

/-- The value of a digit to base sixteen. -/
def hexValue? (c : Char) : Option Nat :=
  if c.isDigit then some (c.toNat - 48)
  else if 'a' ≤ c.toLower && c.toLower ≤ 'f' then some (c.toLower.toNat - 87)
  else none

def valueOf (base : Nat) (ds : List Char) : Nat :=
  ds.foldl (fun n c => n * base + (hexValue? c).getD 0) 0

/-- A character given by its number behind an `x`, and what follows. -/
def hex? (cs : List Char) : Except String (Char × List Char) :=
  match cs with
  | '\x7b' :: cs =>
      let ds := cs.takeWhile fun c => (hexValue? c).isSome
      match ds, cs.drop ds.length with
      | _ :: _, '\x7d' :: rest => .ok (Char.ofNat (valueOf 16 ds), rest)
      | _, _ => .error "non-hex character in \\x\x7b\x7d (closing brace missing?)"
  | cs =>
      let ds := (cs.take 2).takeWhile fun c => (hexValue? c).isSome
      .ok (Char.ofNat (valueOf 16 ds), cs.drop ds.length)

/-- The characters within brackets that a part of them stands for. -/
abbrev Members := List (Char × Char)

def outside (rs : Members) : Members :=
  let inside (n : Nat) : Bool := rs.any fun r => r.1.toNat ≤ n && n ≤ r.2.toNat
  ((List.range 256).filter fun n => !inside n).map fun n => (Char.ofNat n, Char.ofNat n)

/-- One character within brackets, or a class of them. -/
def memberAt (cs : List Char) : Except String ((Char ⊕ Members) × List Char) :=
  match cs with
  | '\\' :: c :: rest =>
      match class? c, control? c with
      | some (negated, rs), _ => .ok (.inr (if negated then outside rs else rs), rest)
      | none, some x => .ok (.inl x, rest)
      | none, none =>
          if c = 'x' then (hex? rest).map fun (x, rest) => (.inl x, rest)
          else if c = 'b' then .ok (.inl '\x08', rest)
          else if c.isDigit then
            let ds := (c :: rest).take 3 |>.takeWhile fun c => '0' ≤ c && c ≤ '7'
            .ok (.inl (Char.ofNat (valueOf 8 ds)), (c :: rest).drop (max 1 ds.length))
          else .ok (.inl c, rest)
  | '[' :: ':' :: more =>
      let name := more.takeWhile fun c => c.isAlpha || c = '^'
      match more.drop name.length with
      | ':' :: ']' :: rest =>
          let (negated, word) := match name with
            | '^' :: word => (true, word)
            | word => (false, word)
          match Script.Pattern.classes.lookup (String.ofList word) with
          | some rs => .ok (.inr (if negated then outside rs else rs), rest)
          | none =>
              if word = "word".toList then .ok (.inr shorthand?.wordRanges, rest)
              else .error "unknown POSIX class name"
      | _ => .ok (.inl '[', ':' :: more)
  | c :: rest => .ok (.inl c, rest)
  | [] => .error "missing terminating ] for character class"

/-- The characters within brackets, up to the closing one. -/
def members : Nat → Bool → List Char → Except String (Members × List Char)
  | 0, _, _ => .error "missing terminating ] for character class"
  | fuel + 1, isFirst, cs =>
      match isFirst, cs with
      | false, ']' :: rest => .ok ([], rest)
      | _, cs => do
          let (a, rest) ← memberAt cs
          match a, rest with
          | .inl a, '-' :: d :: more =>
              if d = ']' then
                let (rs, rest) ← members fuel false rest
                return ((a, a) :: rs, rest)
              else
                match ← memberAt (d :: more) with
                | (.inl b, rest) =>
                    if b < a then throw "range out of order in character class"
                    let (rs, rest) ← members fuel false rest
                    return ((a, b) :: rs, rest)
                | (.inr bs, rest) =>
                    let (rs, rest) ← members fuel false rest
                    return ((a, a) :: ('-', '-') :: bs ++ rs, rest)
          | .inl a, rest =>
              let (rs, rest) ← members fuel false rest
              return ((a, a) :: rs, rest)
          | .inr as, rest =>
              let (rs, rest) ← members fuel false rest
              return (as ++ rs, rest)

/-- A character, or either case of it. -/
def ofCharIn (r : Reader) (c : Char) : Regular :=
  if r.fold then .one false [(c.toLower, c.toLower), (c.toUpper, c.toUpper)] else ofChar c

/-- Ranges of characters, in either case. -/
def folded (r : Reader) (rs : Members) : Members :=
  if !r.fold then rs
  else rs ++ (rs.flatMap fun (a, b) =>
    ((List.range (b.toNat + 1 - a.toNat)).map fun n => Char.ofNat (a.toNat + n)).filterMap fun c =>
      if c.isUpper then some (c.toLower, c.toLower)
      else if c.isLower then some (c.toUpper, c.toUpper) else none)

/-! ### Repetitions -/

/-- The numbers of a repetition, and what follows its end, if it is one. -/
def counts? (cs : List Char) : Option (Nat × Option Nat × List Char) :=
  match cs.head?.any Char.isDigit with
  | true => bounds true cs
  | false => none

/-- A repetition behind something: how often, and what follows. -/
def quantifier? : List Char → Option (Nat × Option Nat × List Char)
  | '*' :: cs => some (0, none, cs)
  | '+' :: cs => some (1, none, cs)
  | '?' :: cs => some (0, some 1, cs)
  | '\x7b' :: cs => counts? cs
  | _ => none

def repeated (r : Regular) (cs : List Char) : Except String (Regular × List Char) :=
  match quantifier? cs with
  | none => .ok (r, cs)
  | some (least, most, cs) =>
      if most.any (· < least) then .error "numbers out of order in \x7b\x7d quantifier"
      else
        match cs with
        | '?' :: cs => .ok (.fewest r least most, cs)
        | '+' :: cs => .ok (.times r least most, cs)
        | cs => .ok (.times r least most, cs)

/-! ### Groups -/

inductive Purpose where
  | capture
  | nothing
  | look (ahead wanted : Bool)
  /-- An option from here on. -/
  | option (fold : Bool)
  | remark
  deriving DecidableEq, Repr

/-- What a group is for, and what follows that. -/
def purpose (cs : List Char) : Except String (Purpose × List Char) :=
  match cs with
  | '?' :: ':' :: cs => .ok (.nothing, cs)
  | '?' :: '>' :: cs => .ok (.nothing, cs)
  | '?' :: '=' :: cs => .ok (.look true true, cs)
  | '?' :: '!' :: cs => .ok (.look true false, cs)
  | '?' :: '<' :: '=' :: cs => .ok (.look false true, cs)
  | '?' :: '<' :: '!' :: cs => .ok (.look false false, cs)
  | '?' :: 'i' :: ')' :: cs => .ok (.option true, cs)
  | '?' :: '-' :: 'i' :: ')' :: cs => .ok (.option false, cs)
  | '?' :: '#' :: cs => .ok (.remark, (cs.dropWhile (· ≠ ')')).drop 1)
  | '?' :: 'P' :: '<' :: cs => .ok (.capture, (cs.dropWhile (· ≠ '>')).drop 1)
  | '?' :: '<' :: cs => .ok (.capture, (cs.dropWhile (· ≠ '>')).drop 1)
  | ['?'] => .error "missing closing parenthesis"
  | '?' :: _ => .error "unrecognized character after (? or (?-"
  | cs => .ok (.capture, cs)

/-- What stands for what has been read within a group. -/
def Purpose.close (p : Purpose) (n : Nat) (r : Regular) : Regular :=
  match p with
  | .capture => .group n r
  | .look true wanted => .ahead wanted r
  | .look false wanted => .behind wanted r
  | _ => r

/-- What a letter stands for behind a backslash, and what follows. -/
def escapeAt (r : Reader) (c : Char) (rest : List Char) : Except String (Regular × List Char) :=
  match class? c, control? c with
  | some (negated, rs), _ => .ok (.one negated rs, rest)
  | none, some x => .ok (ofChar x, rest)
  | none, none =>
      if '1' ≤ c && c ≤ '9' then
        let n := c.toNat - '0'.toNat
        if n ≤ r.groups then .ok (.again n, rest)
        else .error "reference to non-existent subpattern"
      else if c = '0' then
        let ds := (rest.take 2).takeWhile fun c => '0' ≤ c && c ≤ '7'
        .ok (ofChar (Char.ofNat (valueOf 8 ds)), rest.drop ds.length)
      else if c = 'x' then (hex? rest).map fun (x, rest) => (ofCharIn r x, rest)
      else if c = 'b' then .ok (.edge true true, rest)
      else if c = 'B' then .ok (.noEdge, rest)
      else if c = 'A' || c = 'G' then .ok (.lineStart, rest)
      else if c = 'z' || c = 'Z' then .ok (.lineEnd, rest)
      else if c = 'K' then .ok (.cutoff, rest)
      else if c = 'E' then .ok (.empty, rest)
      else if c.isAlpha then .error "unrecognized character follows \\"
      else .ok (ofCharIn r c, rest)

def literal (r : Reader) : List Char → Regular × List Char
  | '\\' :: 'E' :: rest => (.empty, rest)
  | c :: cs =>
      let (more, rest) := literal r cs
      (.seq (ofCharIn r c) more, rest)
  | [] => (.empty, [])

mutual

/-- Alternatives. -/
def readEither : Nat → Reader → List Char → Reading
  | 0, _, _ => .error "regular expression is too large"
  | fuel + 1, x, cs => do
      let (r, y, cs) ← readSeq fuel x cs
      match cs with
      | '|' :: cs =>
          let (s, y, cs) ← readEither fuel { y with fold := x.fold } cs
          return (.either r s, y, cs)
      | cs => return (r, y, cs)

def readSeq : Nat → Reader → List Char → Reading
  | 0, _, _ => .error "regular expression is too large"
  | fuel + 1, x, cs =>
      match cs with
      | [] => .ok (.empty, x, [])
      | '|' :: _ => .ok (.empty, x, cs)
      | ')' :: _ => .ok (.empty, x, cs)
      | _ => do
          let (r, x, cs) ← readOne fuel x cs
          let (s, x, cs) ← readSeq fuel x cs
          return (.seq r s, x, cs)

/-- One thing with the repetition behind it. -/
def readOne : Nat → Reader → List Char → Reading
  | 0, _, _ => .error "regular expression is too large"
  | fuel + 1, x, cs => do
      if (quantifier? cs).isSome then throw "quantifier does not follow a repeatable item"
      match cs with
      | '(' :: rest =>
          let (p, rest) ← purpose rest
          match p with
          | .remark => return (.empty, x, rest)
          | .option fold => return (.empty, { x with fold := fold }, rest)
          | p =>
              let n := x.groups + 1
              let inner := if p = .capture then { x with groups := n } else x
              let (r, y, rest) ← readEither fuel inner rest
              match rest with
              | ')' :: rest =>
                  let (r, rest) ← repeated (p.close n r) rest
                  return (r, { y with fold := x.fold }, rest)
              | _ => throw "missing closing parenthesis"
      | '[' :: '^' :: rest =>
          let (rs, rest) ← members (rest.length + 1) true rest
          let (r, rest) ← repeated (.one true (folded x rs)) rest
          return (r, x, rest)
      | '[' :: rest =>
          let (rs, rest) ← members (rest.length + 1) true rest
          let (r, rest) ← repeated (.one false (folded x rs)) rest
          return (r, x, rest)
      | '\\' :: 'Q' :: rest =>
          let (r, rest) := literal x rest
          return (r, x, rest)
      | '\\' :: c :: rest =>
          let (r, rest) ← escapeAt x c rest
          let (r, rest) ← repeated r rest
          return (r, x, rest)
      | ['\\'] => throw "\\ at end of pattern"
      | '.' :: rest =>
          let (r, rest) ← repeated .any rest
          return (r, x, rest)
      | '^' :: rest => return (.lineStart, x, rest)
      | '$' :: rest => return (.lineEnd, x, rest)
      | c :: rest =>
          let (r, rest) ← repeated (ofCharIn x c) rest
          return (r, x, rest)
      | [] => return (.empty, x, [])

end

/-- **Reads an expression**, or says what is wrong with it. -/
def parse (s : String) : Except String Regular := do
  let (r, _, rest) ← readEither (4 * s.length + 8) ⟨0, false⟩ s.toList
  if rest.isEmpty then return r
  else throw "unmatched closing parenthesis"

end BatchRunner.Regular.Ordered
