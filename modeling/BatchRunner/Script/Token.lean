/-
**The words and operators of a script.**

A script is cut into words and operators.  Quotes, parameters, scripts within a script and
expressions are read by descent; the text of a here-document is read at the end of the line that
asks for it.

Main definitions:

* `Script.Cursor` — where reading is;
* `Script.readPieces` — reads a word up to where it ends;
* `Script.readInner` — goes through a script within a script up to where it is closed;
* `Script.Token`, `Script.tokens` — words, operators and redirections of a text.
-/
import BatchRunner.Script.Word

set_option autoImplicit false

namespace BatchRunner.Script

/-- Where reading is. -/
structure Cursor where
  rest : List Char
  line : Nat
  deriving Repr

namespace Cursor

/-- Leaves out characters, and counts the lines they end. -/
def skip (c : Cursor) (n : Nat) : Cursor :=
  ⟨c.rest.drop n, c.line + ((c.rest.take n).filter (· = '\n')).length⟩

/-- Leaves out the end of a line, if it is next, without counting it. -/
def pastLineEnd (c : Cursor) : Cursor :=
  if c.rest.head? = some '\n' then { c with rest := c.rest.tail } else c

end Cursor

/-! ### Texts that are read later -/

/-- The script between backquotes, and how many characters it takes, the closing backquote included.
A backslash before a character with a meaning of its own is left out. -/
def backquoted? (quoted : Bool) : List Char → Option (List Char × Nat)
  | [] => none
  | '\x60' :: _ => some ([], 1)
  | '\\' :: c :: cs =>
      (backquoted? quoted cs).map fun (s, n) =>
        (if c = '$' ∨ c = '\x60' ∨ c = '\\' ∨ (quoted = true ∧ c = '\x22') then c :: s
          else '\\' :: c :: s, n + 2)
  | c :: cs => (backquoted? quoted cs).map fun (s, n) => (c :: s, n + 1)

/-! ### Words -/

/-- What a word is part of, which decides where it ends and what is special in it. -/
inductive Style where
  | plain
  | double
  /-- Within the braces of a parameter, which may stand between quotes. -/
  | braces (quoted : Bool)
  /-- The text of a here-document. -/
  | here
  /-- An arithmetic expression, with the parentheses that are open in it. -/
  | expression (depth : Nat)
  deriving DecidableEq, Repr

def isOperatorChar (c : Char) : Bool := "&|;<>()\n".toList.contains c

/-- Whether a character is a blank within a line. -/
def isBlankChar (c : Char) : Bool := c = ' ' || c = '\t'

/-- Adds a character to pieces, the last first. -/
def addChar (ps : List Piece) (x : Char) (quoted : Bool) : List Piece :=
  match ps with
  | .text s q :: rest =>
      if q = quoted then .text (s.push x) q :: rest
      else .text (String.singleton x) quoted :: ps
  | _ => .text (String.singleton x) quoted :: ps

/-- What is said when a text ends within a word. -/
def Style.lacking : Style → String
  | .braces false => "Missing '\x7d'"
  | .expression _ => "Missing '))'"
  | _ => "Unterminated quoted string"

/-- The characters that lose their meaning behind a backslash. -/
def Style.escapable : Style → List Char
  | .here => ['$', '\x60', '\\']
  | .braces _ => ['$', '\x60', '\x22', '\\', '\x7d']
  | _ => ['$', '\x60', '\x22', '\\']

/-- Whether all text in a word is quoted. -/
def Style.isQuoted : Style → Bool
  | .plain => false
  | .braces q => q
  | _ => true

/-- The sign of a change, and how many characters it takes. -/
def changeSign? : List Char → Option (Change × Bool × Nat)
  | ':' :: '-' :: _ => some (.instead, true, 2)
  | ':' :: '=' :: _ => some (.assign, true, 2)
  | ':' :: '?' :: _ => some (.require, true, 2)
  | ':' :: '+' :: _ => some (.whenSet, true, 2)
  | '-' :: _ => some (.instead, false, 1)
  | '=' :: _ => some (.assign, false, 1)
  | '?' :: _ => some (.require, false, 1)
  | '+' :: _ => some (.whenSet, false, 1)
  | '%' :: '%' :: _ => some (.dropEnd true, false, 2)
  | '%' :: _ => some (.dropEnd false, false, 1)
  | '#' :: '#' :: _ => some (.dropStart true, false, 2)
  | '#' :: _ => some (.dropStart false, false, 1)
  | _ => none

/-- Whether the word of a change is a pattern. -/
def Change.isPattern : Change → Bool
  | .dropEnd _ => true
  | .dropStart _ => true
  | _ => false

/-- The name of the parameter at the head of a text. -/
def paramName : List Char → List Char
  | [] => []
  | c :: cs =>
      if c.isDigit then c :: cs.takeWhile Char.isDigit
      else if isSpecial c then [c]
      else if isNameStart c then c :: cs.takeWhile isNameChar
      else []

/-- How many steps reading a text can take. -/
def fuelFor (cs : List Char) : Nat := 4 * cs.length + 16

/-! ### Tokens -/

/-- A token of a script. -/
inductive Token where
  | word (line : Nat) (w : Word)
  | op (line : Nat) (text : String)
  /-- A redirection of the stream with the given number. -/
  | redirect (line : Nat) (fd : Option Nat) (text : String)
  /-- The text of the here-document with the given number. -/
  | here (line : Nat) (number : Nat)
  deriving Repr

/-- The operators, longer ones before their beginnings. -/
def operators : List String :=
  ["&&", "||", ";;", "<<-", "<<", "<&", "<>", ">>", ">&", ">|", "&", "|", ";", "<", ">", "(", ")"]

def operatorAt? (cs : List Char) : Option String :=
  operators.find? fun o => o.toList.isPrefixOf cs

/-- A here-document whose text has not been read. -/
structure Wanted where
  number : Nat
  /-- Whether tabs at the start of lines are left out. -/
  stripped : Bool
  /-- Whether its text stands for itself. -/
  literal : Bool
  delimiter : String

/-- How far a script has been cut. -/
structure Cutting where
  cursor : Cursor
  /-- The tokens, the last first. -/
  tokens : List Token
  /-- The here-documents whose text begins on the next line. -/
  wanted : List Wanted
  /-- The texts of the here-documents that have been read. -/
  bodies : List (Nat × Word)
  /-- Set behind the operator of a here-document, until its delimiter has been read. -/
  stripping : Option Bool

namespace Cutting

/-- The lines of a here-document, and how many characters they take with its delimiter. -/
def bodyLines (w : Wanted) : Nat → List Char → List (List Char) × Nat
  | 0, _ => ([], 0)
  | fuel + 1, cs =>
      if cs.isEmpty then ([], 0)
      else
        let whole := cs.takeWhile (· ≠ '\n')
        let line := if w.stripped then whole.dropWhile (· = '\t') else whole
        if String.ofList line = w.delimiter then ([], whole.length + 1)
        else
          let (ls, n) := bodyLines w fuel (cs.drop (whole.length + 1))
          ((line ++ if whole.length < cs.length then ['\n'] else []) :: ls, n + whole.length + 1)

def push (c : Cutting) (t : Token) : Cutting := { c with tokens := t :: c.tokens }

def isQuotedWord (w : Word) : Bool :=
  w.any fun p => match p with
    | .text _ q => q
    | _ => false

def literalText (w : Word) : String :=
  String.join (w.map fun p => match p with
    | .text s _ => s
    | .param name _ => "$" ++ name
    | _ => "")

end Cutting

/-- What a token of a script within a script is part of, as far as parentheses go. -/
inductive Nest where
  | parens
  /-- A choice by patterns, before the word that is looked at. -/
  | subject
  /-- The same, behind that word. -/
  | heading
  /-- The same, within patterns. -/
  | patterns
  /-- The same, within commands. -/
  | clauses
  deriving DecidableEq, Repr

/-- How far a script within a script has been gone through: what is open, and whether a command may
begin. -/
structure Nesting where
  nests : List Nest
  fresh : Bool

namespace Nesting

/-- The words behind which a command begins. -/
def openers : List String :=
  ["!", "do", "elif", "else", "if", "then", "until", "while", "\x7b"]

/-- Goes on to the next token; `none` if it closes the script. -/
def next? (n : Nesting) (t : Token) : Option Nesting :=
  match n.nests, t with
  | .subject :: ns, .word _ _ => some ⟨.heading :: ns, false⟩
  | .heading :: ns, .word _ w =>
      some (if bare? w = some "in" then ⟨.patterns :: ns, true⟩ else n)
  | .heading :: _, .op _ "\n" => some n
  | .patterns :: ns, .word _ w =>
      some (if n.fresh && bare? w = some "esac" then ⟨ns, false⟩ else { n with fresh := false })
  | .patterns :: ns, .op _ ")" => some ⟨.clauses :: ns, true⟩
  | .patterns :: _, .op _ "\n" => some n
  | .patterns :: _, _ => some { n with fresh := false }
  | ns, .word _ w =>
      match if n.fresh then bare? w else none with
      | some "case" => some ⟨.subject :: ns, false⟩
      | some "esac" => some ⟨if ns.head? = some .clauses then ns.tail else ns, false⟩
      | some s => some { n with fresh := openers.contains s }
      | none => some { n with fresh := false }
  | ns, .op _ "(" => some ⟨.parens :: ns, true⟩
  | .parens :: ns, .op _ ")" => some ⟨ns, true⟩
  | _, .op _ ")" => none
  | .clauses :: ns, .op _ ";;" => some ⟨.patterns :: ns, true⟩
  | _, .op _ _ => some { n with fresh := true }
  | _, _ => some { n with fresh := false }

end Nesting

/-- What stands between two quotes, which is there even if it is empty.  The arguments of the script
alone are as many as there are. -/
def closedQuotes (w : Word) : Word :=
  match w with
  | [.param "@" _] => w
  | _ =>
      let isText : Piece → Bool := fun p => match p with
        | .text _ true => true
        | _ => false
      if w.any isText then w else .text "" true :: w

mutual

/-- Reads pieces up to the end of a word; those read before come in reverse. -/
def readPieces : Nat → Style → Cursor → List Piece → Except Complaint (Word × Cursor)
  | 0, style, c, _ => .error ⟨c.line, style.lacking⟩
  | fuel + 1, style, c, ps =>
      let quoted := style.isQuoted
      match c.rest with
      | [] =>
          if style = .plain ∨ style = .here then .ok (ps.reverse, c)
          else .error ⟨c.line, style.lacking⟩
      | x :: xs =>
          let next := c.skip 1
          if style = .plain ∧ (isBlankChar x ∨ isOperatorChar x) then .ok (ps.reverse, c)
          else if style = .double ∧ x = '\x22' then .ok (ps.reverse, next)
          else if (style = .braces true ∨ style = .braces false) ∧ x = '\x7d' then
            .ok (ps.reverse, next)
          else if x = '$' then do
            let (p, c) ← readDollar fuel quoted next
            readPieces fuel style c (p :: ps)
          else if x = '\x60' then
            match backquoted? quoted xs with
            | none => .error ⟨(next.skip xs.length).line, "EOF in backquote substitution"⟩
            | some (s, n) =>
                readPieces fuel style (next.skip n)
                  (.output 1 (String.ofList s) quoted .backquote :: ps)
          else if x = '\\' then
            match xs with
            | [] => readPieces fuel style next (addChar ps '\\' true)
            | y :: _ =>
                if y = '\n' then readPieces fuel style (next.skip 1) ps
                else if quoted = false ∨ style.escapable.contains y then
                  readPieces fuel style (next.skip 1) (addChar ps y true)
                else readPieces fuel style (next.skip 1) (addChar (addChar ps '\\' true) y true)
          else
            match style with
            | .expression depth =>
                if x = '(' then
                  readPieces fuel (.expression (depth + 1)) next (addChar ps x true)
                else if x = ')' then
                  match depth, xs with
                  | 0, ')' :: _ => .ok (ps.reverse, next.skip 1)
                  | 0, _ => .error ⟨c.line, style.lacking⟩
                  | depth + 1, _ =>
                      readPieces fuel (.expression depth) next (addChar ps x true)
                else readPieces fuel style next (addChar ps x true)
            | .here => readPieces fuel style next (addChar ps x true)
            | .double => readPieces fuel style next (addChar ps x true)
            | _ =>
                if x = '\x22' then do
                  let (w, c) ← readPieces fuel .double next []
                  readPieces fuel style c ((closedQuotes w).reverse ++ ps)
                else if x = '\x27' ∧ quoted = false then
                  let inside := xs.takeWhile (· ≠ '\x27')
                  if inside.length < xs.length then
                    readPieces fuel style (next.skip (inside.length + 1))
                      (.text (String.ofList inside) true :: ps)
                  else .error ⟨(next.skip xs.length).line, "Unterminated quoted string"⟩
                else readPieces fuel style next (addChar ps x quoted)

/-- Reads what stands behind a dollar sign. -/
def readDollar : Nat → Bool → Cursor → Except Complaint (Piece × Cursor)
  | 0, _, c => .error ⟨c.line, Style.plain.lacking⟩
  | fuel + 1, quoted, c =>
      match c.rest with
      | '\x7b' :: _ => readBraces fuel quoted (c.skip 1)
      | '(' :: '(' :: _ => do
          let (w, c) ← readPieces fuel (.expression 0) (c.skip 2) []
          return (.sum w quoted, c)
      | '(' :: _ => do
          let start := c.skip 1
          let (stop, closing) ← readInner fuel ⟨[], true⟩ ⟨start, [], [], [], none⟩
          let taken := start.rest.length - stop.rest.length
          let size := if closing = .missing then taken else taken - 1
          return (.output c.line (String.ofList (start.rest.take size)) quoted closing, stop)
      | x :: cs =>
          if isSpecial x then .ok (.param (String.singleton x) quoted, c.skip 1)
          else if isNameStart x then
            let name := x :: cs.takeWhile isNameChar
            .ok (.param (String.ofList name) quoted, c.skip name.length)
          else .ok (.text "$" quoted, c)
      | [] => .ok (.text "$" quoted, c)

/-- Reads a parameter within braces, behind the opening one. -/
def readBraces : Nat → Bool → Cursor → Except Complaint (Piece × Cursor)
  | 0, _, c => .error ⟨c.line, (Style.braces false).lacking⟩
  | fuel + 1, quoted, c =>
      let broken (c : Cursor) : Except Complaint (Piece × Cursor) := do
        let (_, c) ← readPieces fuel (.braces quoted) c.pastLineEnd []
        return (.broken, c)
      let measured := match c.rest with
        | '#' :: cs =>
            if (cs.drop (paramName cs).length).head? = some '\x7d' then paramName cs else []
        | _ => []
      let isOdd := match c.rest with
        | '#' :: x :: '\x7d' :: _ => x ≠ '\x7d' && !isNameChar x && !isSpecial x
        | _ => false
      if measured ≠ [] then
        .ok (.length (String.ofList measured) quoted, c.skip (measured.length + 2))
      else if isOdd then broken c
      else
        let name := paramName c.rest
        let c' := c.skip name.length
        if name = [] then broken c
        else
          match c'.rest with
          | '\x7d' :: _ => .ok (.param (String.ofList name) quoted, c'.skip 1)
          | rest =>
              match changeSign? rest with
              | none => broken (c'.skip (if rest.head? = some ':' then 1 else 0))
              | some (change, orEmpty, n) => do
                  let (w, c) ←
                    readPieces fuel (.braces (quoted && !change.isPattern)) (c'.skip n) []
                  return (.changed (String.ofList name) quoted change orEmpty w, c)

/-- Goes through a script within a script up to where it is closed. -/
def readInner : Nat → Nesting → Cutting → Except Complaint (Cursor × Closing)
  | 0, _, c => .ok (c.cursor, .missing)
  | fuel + 1, n, c =>
      if c.cursor.rest.isEmpty then .ok (c.cursor, .missing)
      else do
        let before := c.tokens.length
        let c ← readToken fuel c
        match c.tokens with
        | [] => readInner fuel n c
        | t :: _ =>
            if c.tokens.length = before then readInner fuel n c
            else
              match n.next? t with
              | some n => readInner fuel n c
              | none => return (c.cursor, .parenthesis)

def readBody : Nat → Cutting → Wanted → Except Complaint Cutting
  | 0, c, _ => .ok c
  | fuel + 1, c, w => do
      let (ls, n) := Cutting.bodyLines w (c.cursor.rest.length + 1) c.cursor.rest
      let body := ls.flatten
      let word : Word ←
        if w.literal then .ok [.text (String.ofList body) true]
        else
          match readPieces fuel .here ⟨body, c.cursor.line⟩ [] with
          | .ok (word, _) => .ok word
          | .error e =>
              if e.text = Style.double.lacking
              then .error ⟨e.line + 1, (Style.braces false).lacking⟩
              else .error { e with line := e.line + 1 }
      return { c with cursor := c.cursor.skip n, bodies := (w.number, word) :: c.bodies }

def readWord : Nat → Cutting → Except Complaint Cutting
  | 0, c => .ok c
  | fuel + 1, c => do
      let line := c.cursor.line
      let (w, cursor) ← readPieces fuel .plain c.cursor []
      let c := { c with cursor := cursor }
      match c.stripping with
      | none => return if w.isEmpty then c else c.push (.word line w)
      | some stripped =>
          let number := c.bodies.length + c.wanted.length
          return { c.push (.here line number) with
            stripping := none
            wanted := c.wanted ++
              [⟨number, stripped, Cutting.isQuotedWord w, Cutting.literalText w⟩] }

/-- Reads the next token.  At the end of a line the here-documents begin that it asks for. -/
def readToken : Nat → Cutting → Except Complaint Cutting
  | 0, c => .ok c
  | fuel + 1, c =>
      let cs := c.cursor.rest
      let digits := cs.takeWhile Char.isDigit
      let behind := cs.drop digits.length
      match cs with
      | [] => .ok c
      | '\n' :: _ =>
          c.wanted.foldlM (readBody fuel)
            { c.push (.op c.cursor.line "\n") with cursor := c.cursor.skip 1, wanted := [] }
      | '\\' :: '\n' :: _ => .ok { c with cursor := c.cursor.skip 2 }
      | '#' :: _ =>
          .ok { c with cursor := c.cursor.skip (cs.takeWhile (· ≠ '\n')).length }
      | x :: _ =>
          if isBlankChar x then .ok { c with cursor := c.cursor.skip 1 }
          else
            match operatorAt? behind with
            | none => readWord fuel c
            | some o =>
                let line := c.cursor.line
                if o.startsWith "<" || o.startsWith ">" then
                  let op := if o = "<<-" then "<<" else o
                  .ok { c.push (.redirect line (String.ofList digits).toNat? op) with
                    cursor := c.cursor.skip (digits.length + o.length)
                    stripping :=
                      if o = "<<" then some false else if o = "<<-" then some true else none }
                else if digits = [] then
                  .ok { c.push (.op line o) with cursor := c.cursor.skip o.length }
                else readWord fuel c

end

namespace Cutting

/-- Reads all tokens, and what is wrong with the text behind them. -/
def run : Nat → Cutting → Cutting × Option Complaint
  | 0, c => (c, none)
  | fuel + 1, c =>
      if c.cursor.rest.isEmpty then (c, none)
      else
        match readToken (fuelFor c.cursor.rest) c with
        | .error e => (c, some e)
        | .ok c => run fuel c

/-- Puts the text of a here-document in its place. -/
def fillHere (bodies : List (Nat × Word)) : Token → Token
  | .here line number => .word line ((bodies.lookup number).getD [])
  | t => t

end Cutting

/-- The tokens of a text, what is wrong behind them, and the last line. -/
structure Tokens where
  list : List Token
  mistake : Option Complaint
  lastLine : Nat

/-- **Cuts a text into tokens.**  A text that is wrong somewhere gives the tokens before that. -/
def tokens (line : Nat) (text : String) : Tokens :=
  let cs := text.toList
  let (c, e) := Cutting.run (cs.length + 1) ⟨⟨cs, line⟩, [], [], [], none⟩
  ⟨c.tokens.reverse.map (Cutting.fillHere c.bodies), e, c.cursor.line⟩

/-- The word that a text is within quotes.  One that cannot be read stands for itself. -/
def quotedWord (text : String) : Word :=
  let cs := text.toList
  match readPieces (fuelFor cs) .here ⟨cs, 1⟩ [] with
  | .ok (w, _) => w
  | .error _ => [.text text true]

end BatchRunner.Script
