/-
**Arithmetic in scripts.**

Expressions over whole numbers of 64 bits, which wrap around.  Parameters may be assigned to within
an expression.  What stands before a place where an expression is wrong is evaluated first.

Main definitions:

* `Script.Arithmetic.Expr`, `Script.Arithmetic.parse` — expressions, and reading one;
* `Script.Arithmetic.Expr.eval` — the value of an expression, and what it assigns;
* `Script.Arithmetic.evaluate` — both for a text.
-/
import BatchRunner.Script.Word

set_option autoImplicit false

namespace BatchRunner.Script.Arithmetic

def modulus : Nat := 18446744073709551616

def largest : Int := 9223372036854775807

def wrap (n : Int) : Int := Int.bmod n modulus

/-- The operators between two values, in groups that bind less and less. -/
def precedences : List (List String) :=
  [["*", "/", "%"], ["+", "-"], ["<<", ">>"], ["<", "<=", ">", ">="], ["==", "!="], ["&"], ["^"],
    ["|"]]

inductive Expr where
  | number (n : Int)
  | param (name : String)
  | unary (op : Char) (a : Expr)
  | binary (op : String) (a b : Expr)
  | both (a b : Expr)
  | either (a b : Expr)
  | choose (test yes no : Expr)
  /-- Assigns a value, or what an operator makes of the value so far and another one. -/
  | assign (name : String) (op : Option String) (a : Expr)
  /-- An expression behind which something is wrong. -/
  | broken (a : Expr) (cause : String)
  deriving DecidableEq, Repr

/-- An expression that is wrong from its first token on. -/
def Expr.wrong (cause : String) : Expr := .broken (.number 0) cause

/-- What is wrong first with the form of an expression. -/
def Expr.flaw? : Expr → Option String
  | .number _ => none
  | .param _ => none
  | .unary _ a => a.flaw?
  | .binary _ a b => a.flaw?.or b.flaw?
  | .both a b => a.flaw?.or b.flaw?
  | .either a b => a.flaw?.or b.flaw?
  | .choose t a b => t.flaw?.or (a.flaw?.or b.flaw?)
  | .assign _ _ a => a.flaw?
  | .broken a cause => a.flaw?.or (some cause)

/-! ### Reading -/

inductive Token where
  | number (n : Int)
  | name (s : String)
  | op (s : String)
  deriving DecidableEq, Repr

/-- The operators, longer ones before their beginnings. -/
def operators : List String :=
  ["<<=", ">>=", "&&", "||", "<<", ">>", "<=", ">=", "==", "!=", "*=", "/=", "%=", "+=", "-=",
    "&=", "^=", "|=", "=", "<", ">", "&", "|", "^", "+", "-", "*", "/", "%", "!", "~", "?", ":",
    "(", ")"]

/-- The value of a digit. -/
def digitValue (c : Char) : Nat :=
  if c.isDigit then c.toNat - 48 else if c.isUpper then c.toNat - 55 else c.toNat - 87

/-- Whether a character is a digit to the given base. -/
def isDigitTo (base : Nat) (c : Char) : Bool :=
  if c.isDigit then c.toNat - 48 < base
  else base = 16 && ('a' ≤ c && c ≤ 'f' || 'A' ≤ c && c ≤ 'F')

def valueOf (base : Nat) (ds : List Char) : Nat :=
  ds.foldl (fun n d => n * base + digitValue d) 0

/-- The number at the head of a text, and how many characters it takes.  A leading zero makes it
octal, with an `x` behind it hexadecimal, and with a `b` binary. -/
def numberAt (cs : List Char) : Nat × Nat :=
  let decimal := cs.takeWhile (isDigitTo 10)
  match cs with
  | '0' :: x :: rest =>
      let hex := rest.takeWhile (isDigitTo 16)
      let binary := rest.takeWhile (isDigitTo 2)
      if (x = 'x' ∨ x = 'X') ∧ hex ≠ [] then (valueOf 16 hex, hex.length + 2)
      else if (x = 'b' ∨ x = 'B') ∧ binary ≠ [] then (valueOf 2 binary, binary.length + 2)
      else
        let octal := cs.takeWhile (isDigitTo 8)
        (valueOf 8 octal, octal.length)
  | _ => (valueOf 10 decimal, decimal.length)

/-- The tokens of an expression, as far as there are any, and whether anything is left. -/
def tokens : Nat → List Char → List Token × Bool
  | 0, cs => ([], !cs.isEmpty)
  | _, [] => ([], false)
  | fuel + 1, c :: cs =>
      let more (t : Token) (n : Nat) : List Token × Bool :=
        let (ts, left) := tokens fuel ((c :: cs).drop n)
        (t :: ts, left)
      if c = ' ' ∨ c = '\t' ∨ c = '\n' then tokens fuel cs
      else if c.isDigit then
        let (n, k) := numberAt (c :: cs)
        more (.number (min largest n)) k
      else if isNameStart c then
        let name := c :: cs.takeWhile isNameChar
        more (.name (String.ofList name)) name.length
      else
        match operators.find? fun o => o.toList.isPrefixOf (c :: cs) with
        | some o => more (.op o) o.length
        | none => ([], true)

/-- The operator that an assignment applies first; none for a plain one. -/
def assignment? (o : String) : Option (Option String) :=
  if o = "=" then some none
  else if ["*=", "/=", "%=", "+=", "-=", "<<=", ">>=", "&=", "^=", "|="].contains o then
    some (some (String.ofList o.toList.dropLast))
  else none

mutual

/-- Reads an assignment, or a choice.  Nothing is left behind a place where an expression is
wrong. -/
def readAssignment : Nat → List Token → Expr × List Token
  | 0, _ => (.wrong "expecting primary", [])
  | fuel + 1, ts =>
      match ts with
      | .name s :: .op o :: rest =>
          match assignment? o with
          | some op =>
              let (a, ts) := readAssignment fuel rest
              (.assign s op a, ts)
          | none => readChoice fuel ts
      | ts => readChoice fuel ts

def readChoice : Nat → List Token → Expr × List Token
  | 0, _ => (.wrong "expecting primary", [])
  | fuel + 1, ts =>
      let (a, ts) := readEither fuel ts
      match ts with
      | .op "?" :: ts =>
          let (b, ts) := readAssignment fuel ts
          match ts with
          | .op ":" :: ts =>
              let (c, ts) := readChoice fuel ts
              (.choose a b c, ts)
          | _ => (.choose a b (.wrong "expecting ':'"), [])
      | ts => (a, ts)

/-- Reads what is joined by "or". -/
def readEither : Nat → List Token → Expr × List Token
  | 0, _ => (.wrong "expecting primary", [])
  | fuel + 1, ts =>
      let (a, ts) := readBoth fuel ts
      match ts with
      | .op "||" :: ts =>
          let (b, ts) := readEither fuel ts
          (.either a b, ts)
      | ts => (a, ts)

/-- Reads what is joined by "and". -/
def readBoth : Nat → List Token → Expr × List Token
  | 0, _ => (.wrong "expecting primary", [])
  | fuel + 1, ts =>
      let (a, ts) := readBinary fuel precedences.reverse ts
      match ts with
      | .op "&&" :: ts =>
          let (b, ts) := readBoth fuel ts
          (.both a b, ts)
      | ts => (a, ts)

/-- Reads what is joined by operators of the given groups, those that bind least first. -/
def readBinary : Nat → List (List String) → List Token → Expr × List Token
  | 0, _, _ => (.wrong "expecting primary", [])
  | fuel + 1, [], ts => readPrimary fuel ts
  | fuel + 1, group :: groups, ts =>
      let (a, ts) := readBinary fuel groups ts
      readBinaryRest fuel group groups a ts

def readBinaryRest : Nat → List String → List (List String) → Expr → List Token →
    Expr × List Token
  | 0, _, _, a, _ => (.broken a "expecting primary", [])
  | fuel + 1, group, groups, a, ts =>
      match ts with
      | .op o :: rest =>
          if group.contains o then
            let (b, ts) := readBinary fuel groups rest
            readBinaryRest fuel group groups (.binary o a b) ts
          else (a, ts)
      | ts => (a, ts)

def readPrimary : Nat → List Token → Expr × List Token
  | 0, _ => (.wrong "expecting primary", [])
  | fuel + 1, ts =>
      match ts with
      | .number n :: ts => (.number n, ts)
      | .name s :: ts => (.param s, ts)
      | .op "(" :: ts =>
          let (a, ts) := readAssignment fuel ts
          match ts with
          | .op ")" :: ts => (a, ts)
          | _ => (.broken a "expecting ')'", [])
      | .op "+" :: ts => readPrimary fuel ts
      | .op "-" :: ts =>
          let (a, ts) := readPrimary fuel ts
          (.unary '-' a, ts)
      | .op "!" :: ts =>
          let (a, ts) := readPrimary fuel ts
          (.unary '!' a, ts)
      | .op "~" :: ts =>
          let (a, ts) := readPrimary fuel ts
          (.unary '~' a, ts)
      | _ => (.wrong "expecting primary", [])

end

def parse (text : String) : Expr :=
  let (ts, left) := tokens (text.length + 1) text.toList
  let (e, rest) := readAssignment (16 * (ts.length + 2)) ts
  if left || !rest.isEmpty then .broken e "expecting EOF" else e

/-! ### Values -/

/-- Why an expression has no value. -/
inductive Fault where
  /-- Its form is wrong. -/
  | malformed (cause : String)
  | zeroDivision
  /-- The value of a parameter is not a number. -/
  | notNumber (text : String)
  deriving DecidableEq, Repr

def truth (b : Bool) : Int := if b then 1 else 0

/-- Whether a character may stand around a number. -/
def isSpace (c : Char) : Bool := c = ' ' || ('\t' ≤ c && c ≤ '\r')

/-- Whether there is a number of that size. -/
def isInRange (n : Int) : Bool := -largest - 1 ≤ n && n ≤ largest

/-- The number that a text is, with white space around it, read by a function that says how many
characters it takes. -/
def numberBy? (read : List Char → Nat × Nat) (s : String) : Option Int :=
  let cs := s.toList.dropWhile isSpace
  let (negative, cs) := match cs with
    | '-' :: cs => (true, cs)
    | '+' :: cs => (false, cs)
    | cs => (false, cs)
  let (n, k) := read cs
  let value : Int := if negative then -n else n
  if (cs.head?.any Char.isDigit) && (cs.drop k).all isSpace && isInRange value then some value
  else none

/-- The number that a text is; none at all is zero. -/
def number? (s : String) : Option Int :=
  if s.toList.all isSpace then some 0 else numberBy? numberAt s

def decimal? (s : String) : Option Int :=
  numberBy? (fun cs =>
    let ds := cs.takeWhile (isDigitTo 10)
    (valueOf 10 ds, ds.length)) s

/-- A number without some of its low bits. -/
def shiftRight (a : Int) (n : Nat) : Int := Int.fdiv a (Nat.pow 2 n : Nat)

/-- The bits of a number. -/
def bits (a : Int) : Nat := (a % (modulus : Int)).toNat

/-- What an operator makes of two values. -/
def apply (op : String) (a b : Int) : Except Fault Int :=
  match op with
  | "*" => .ok (wrap (a * b))
  | "/" => if b = 0 then .error .zeroDivision else .ok (wrap (Int.tdiv a b))
  | "%" => if b = 0 then .error .zeroDivision else .ok (Int.tmod a b)
  | "+" => .ok (wrap (a + b))
  | "-" => .ok (wrap (a - b))
  | "<<" => .ok (wrap (a * (Nat.pow 2 (bits b % 64) : Nat)))
  | ">>" => .ok (shiftRight a (bits b % 64))
  | "<" => .ok (truth (a < b))
  | "<=" => .ok (truth (a ≤ b))
  | ">" => .ok (truth (b < a))
  | ">=" => .ok (truth (b ≤ a))
  | "==" => .ok (truth (a = b))
  | "!=" => .ok (truth (a ≠ b))
  | "&" => .ok (wrap (Nat.land (bits a) (bits b) : Nat))
  | "^" => .ok (wrap (Nat.xor (bits a) (bits b) : Nat))
  | _ => .ok (wrap (Nat.lor (bits a) (bits b) : Nat))

/-- What has been assigned, the last first. -/
abbrev Assigned := List (String × Int)

/-- The value of a parameter. -/
def look (env : String → Option String) (set : Assigned) (name : String) : Except Fault Int :=
  match set.lookup name with
  | some n => .ok n
  | none =>
      let text := (env name).getD ""
      match number? text with
      | some n => .ok n
      | none => .error (.notNumber text)

/-- An expression that is not evaluated needs the right form still. -/
def Expr.skip (a : Expr) (s : Assigned) : Except Fault Assigned :=
  match a.flaw? with
  | some cause => .error (.malformed cause)
  | none => .ok s

/-- **The value of an expression, and what it assigns.** -/
def Expr.eval (env : String → Option String) : Expr → Assigned → Except Fault (Int × Assigned)
  | .number n, s => .ok (n, s)
  | .param name, s => return (← look env s name, s)
  | .unary op a, s => do
      let (x, s) ← a.eval env s
      return (if op = '-' then wrap (-x) else if op = '!' then truth (x = 0) else -x - 1, s)
  | .binary op a b, s => do
      let (x, s) ← a.eval env s
      let (y, s) ← b.eval env s
      return (← apply op x y, s)
  | .both a b, s => do
      let (x, s) ← a.eval env s
      if x = 0 then return (0, ← b.skip s)
      let (y, s) ← b.eval env s
      return (truth (y ≠ 0), s)
  | .either a b, s => do
      let (x, s) ← a.eval env s
      if x ≠ 0 then return (1, ← b.skip s)
      let (y, s) ← b.eval env s
      return (truth (y ≠ 0), s)
  | .choose t a b, s => do
      let (x, s) ← t.eval env s
      if x ≠ 0 then
        let (y, s) ← a.eval env s
        return (y, ← b.skip s)
      else b.eval env (← a.skip s)
  | .assign name op a, s => do
      let (x, s) ← a.eval env s
      let value ← match op with
        | none => .ok x
        | some op => do
            let y ← look env s name
            apply op y x
      return (value, (name, value) :: s)
  | .broken a cause, s => do
      let _ ← a.eval env s
      throw (.malformed cause)

/-- **The value of a text, and what it assigns**, or what is wrong with it. -/
def evaluate (env : String → Option String) (text : String) :
    Except String (Int × Assigned) :=
  let wrong (s : String) : String := "arithmetic expression: " ++ s ++ ": \"" ++ text ++ "\""
  match (parse text).eval env [] with
  | .ok r => .ok r
  | .error (.malformed cause) => .error (wrong cause)
  | .error .zeroDivision => .error (wrong "division by zero")
  | .error (.notNumber s) => .error ("Illegal number: " ++ s)

end BatchRunner.Script.Arithmetic
