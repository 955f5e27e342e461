/-
**Scripts.**

Commands are read from tokens by descent through the grammar.  A script is read one line of
commands at a time, so what stands before a mistake is still carried out, and what one line says
about words decides how the next ones are read.

Main definitions:

* `Script.Redirect`, `Script.Command` — the commands;
* `Script.Aliases` — the words that stand for other texts where a command begins;
* `Script`, `Script.ofText`, `Script.next?` — a script, and reading its next line of commands.
-/
import BatchRunner.Script.Token

set_option autoImplicit false

namespace BatchRunner

namespace Script

/-- A redirection of a stream. -/
structure Redirect where
  fd : Nat
  op : String
  target : Word
  deriving Repr

/-- A command. -/
inductive Command where
  | simple (line : Nat) (assigned : List (String × Word)) (words : List Word)
      (redirects : List Redirect)
  /-- The output of the first is the input of the second. -/
  | pipe (a b : Command)
  | negated (c : Command)
  /-- The second runs if the first succeeds. -/
  | both (a b : Command)
  /-- The second runs if the first fails. -/
  | either (a b : Command)
  | inOrder (a b : Command)
  | background (c : Command)
  | subshell (line : Nat) (c : Command) (redirects : List Redirect)
  | group (line : Nat) (c : Command) (redirects : List Redirect)
  | choose (test yes no : Command)
  /-- Repeats the body as long as the test succeeds, or as long as it fails. -/
  | loop (wanted : Bool) (test body : Command)
  | each (line : Nat) (name : String) (words : List Word) (body : Command)
  /-- Runs what stands with the first pattern that fits. -/
  | among (line : Nat) (word : Word) (cases : List (List Word × Command))
  | define (name : String) (body : Command)
  | skip
  deriving Repr

def keywords : List String :=
  ["!", "case", "do", "done", "elif", "else", "esac", "fi", "for", "if", "in", "then", "until",
    "while", "\x7b", "\x7d"]

/-- How a token is named when it is unexpected. -/
def Token.shown : Token → String
  | .word _ w =>
      match (bare? w).filter keywords.contains with
      | some s => "\"" ++ s ++ "\""
      | none => "word"
  | .op _ s => if s = "\n" then "newline" else "\"" ++ s ++ "\""
  | .redirect _ _ _ => "redirection"
  | .here _ _ => "word"

def Token.line : Token → Nat
  | .word n _ => n
  | .op n _ => n
  | .redirect n _ _ => n
  | .here n _ => n

def Token.lineBehind : Token → Nat
  | .op n "\n" => n + 1
  | t => t.line

/-- The line that stands for the end of the text. -/
def lineOfEnd : Nat := 0

/-- What is expected at some place of a script. -/
inductive Expected where
  | nothing
  /-- A word or an operator with a meaning of its own. -/
  | mark (s : String)
  | word
  deriving DecidableEq, Repr

/-- The complaint about the first of the given tokens, where something else is expected. -/
def unexpectedFor (expected : Expected) (ts : List Token) : Complaint :=
  let more := match expected with
    | .mark s => " (expecting \"" ++ s ++ "\")"
    | .word => " (expecting word)"
    | .nothing => ""
  match ts with
  | [] => ⟨lineOfEnd, "end of file unexpected" ++ more⟩
  | t :: _ => ⟨t.lineBehind, t.shown ++ " unexpected" ++ more⟩

/-- The complaint about the first of the given tokens. -/
def unexpected (ts : List Token) : Complaint := unexpectedFor .nothing ts

def firstWord? : List Token → Option String
  | .word _ w :: _ => bare? w
  | _ => none

def firstLine (ts : List Token) : Nat := (ts.head?.map Token.line).getD lineOfEnd

/-- Takes a word with a meaning of its own. -/
def expect (s : String) (ts : List Token) : Except Complaint (List Token) :=
  if firstWord? ts = some s then .ok ts.tail else .error (unexpectedFor (.mark s) ts)

def expectOp (s : String) (ts : List Token) : Except Complaint (List Token) :=
  match ts with
  | .op n o :: rest => if o = s then .ok rest else .error (unexpectedFor (.mark s) (.op n o :: rest))
  | ts => .error (unexpectedFor (.mark s) ts)

def skipLines : List Token → List Token
  | .op _ "\n" :: ts => skipLines ts
  | ts => ts

/-- Whether the first token ends the list of commands before it. -/
def endsList : List Token → Bool
  | [] => true
  | .op _ ")" :: _ => true
  | .op _ ";;" :: _ => true
  | ts => (firstWord? ts).any
      ["do", "done", "elif", "else", "esac", "fi", "then", "\x7d"].contains

/-- The stream that an operator redirects when none is named. -/
def usualStream (op : String) : Nat := if op.startsWith "<" then 0 else 1

def readRedirects : List Token → Except Complaint (List Redirect × List Token)
  | .redirect _ fd op :: .word _ w :: ts => do
      let (rs, ts) ← readRedirects ts
      return (⟨fd.getD (usualStream op), op, w⟩ :: rs, ts)
  | .redirect _ _ _ :: ts => .error (unexpected ts)
  | ts => .ok ([], ts)

/-- A word that assigns to a parameter, cut at its first equals sign. -/
def assignment? : Word → Option (String × Word)
  | .text s false :: ps =>
      let name := s.toList.takeWhile isNameChar
      match name, s.toList.drop name.length with
      | c :: cs, '=' :: rest =>
          if isNameStart c then
            some (String.ofList (c :: cs),
              if rest.isEmpty then ps else .text (String.ofList rest) false :: ps)
          else none
      | _, _ => none
  | _ => none

/-- The words that stand for other texts where a command begins. -/
abbrev Aliases := List (String × String)

/-- Whether a text ends in a note, so that the rest of the line behind it belongs to the note. -/
def endsInNote (text : String) : Bool :=
  (tokens 1 (text ++ ";")).list.length = (tokens 1 text).list.length
    && (tokens 1 text).mistake.isNone

def fromLineEnd : List Token → List Token
  | [] => []
  | .op n "\n" :: ts => .op n "\n" :: ts
  | _ :: ts => fromLineEnd ts

/-- Puts the texts in place that the first of the given tokens stands for.  Each word is replaced at
most once; behind a text that ends in a blank, the next word may be replaced too. -/
def expandAliases (aliases : Aliases) : Nat → List String → List Token → List Token
  | 0, _, ts => ts
  | fuel + 1, used, ts =>
      match ts with
      | .word line w :: rest =>
          match (bare? w).filter fun s => !used.contains s && !keywords.contains s with
          | none => ts
          | some s =>
              match aliases.lookup s with
              | none => ts
              | some text =>
                  let rest := if endsInNote text then fromLineEnd rest
                    else if text.toList.getLast?.any isBlankChar then
                      expandAliases aliases fuel used rest
                    else rest
                  expandAliases aliases fuel (s :: used) ((tokens line text).list ++ rest)
      | ts => ts

/-- Puts the texts in place that the first of the given tokens stands for. -/
def unalias (aliases : Aliases) (ts : List Token) : List Token :=
  if aliases.isEmpty then ts else expandAliases aliases (2 * aliases.length + 2) [] ts

/-- The given tokens, with the text in place that the first one stands for if that is nothing or
begins with the end of a line. -/
def unaliasEnd (aliases : Aliases) (ts : List Token) : List Token :=
  match unalias aliases ts with
  | [] => []
  | .op n "\n" :: rest => .op n "\n" :: rest
  | _ => ts

/-- The parts of a simple command. -/
structure Parts where
  assigned : List (String × Word)
  words : List Word
  redirects : List Redirect

/-- Reads the parts of a simple command.  Assignments stand before the first word. -/
def readParts : List Token → Parts → Except Complaint (Parts × List Token)
  | .word _ w :: ts, p =>
      match p.words, assignment? w with
      | [], some a => readParts ts { p with assigned := p.assigned ++ [a] }
      | _, _ => readParts ts { p with words := p.words ++ [w] }
  | .redirect _ fd op :: .word _ w :: ts, p =>
      readParts ts { p with redirects := p.redirects ++ [⟨fd.getD (usualStream op), op, w⟩] }
  | .redirect _ _ _ :: ts, _ => .error (unexpected ts)
  | ts, p => .ok (p, ts)

/-- Whether the first of the given tokens stands before the first word of a simple command. -/
def isLeading : List Token → Bool
  | .word _ w :: _ => (assignment? w).isSome
  | .redirect _ _ _ :: _ => true
  | _ => false

/-- Puts the text in place that the first word of a simple command stands for, behind assignments
and redirections. -/
def unaliasFirst (aliases : Aliases) : List Token → List Token
  | .redirect n fd op :: t :: ts => .redirect n fd op :: t :: unaliasFirst aliases ts
  | t :: ts =>
      if isLeading (t :: ts) then t :: unaliasFirst aliases ts else unalias aliases (t :: ts)
  | [] => []

def readSimple (aliases : Aliases) (ts : List Token) : Except Complaint (Command × List Token) := do
  let ts := if isLeading ts then unaliasFirst aliases ts else ts
  let (p, rest) ← readParts ts ⟨[], [], []⟩
  if p.assigned.isEmpty && p.words.isEmpty && p.redirects.isEmpty then throw (unexpected ts)
  return (.simple (firstLine ts) p.assigned p.words p.redirects, rest)

def readWords : List Token → List Word × List Token
  | .word _ w :: ts => let (ws, ts) := readWords ts; (w :: ws, ts)
  | ts => ([], ts)

/-- The words of a loop up to the end of the line or a semicolon, or the arguments if none are
named. -/
def readValues (ts : List Token) : Except Complaint (List Word × List Token) :=
  let ts := skipLines ts
  if firstWord? ts = some "in" then
    let (ws, ts) := readWords ts.tail
    match ts with
    | .op _ ";" :: ts => .ok (ws, ts)
    | .op _ "\n" :: ts => .ok (ws, ts)
    | ts => .error (unexpected ts)
  else
    .ok ([[.param "@" true]], match ts with
      | .op _ ";" :: ts => ts
      | ts => ts)

/-- Reads the patterns of a case, behind an opening parenthesis if there is one. -/
def readPatterns : List Token → Except Complaint (List Word × List Token)
  | .word _ w :: .op _ "|" :: ts => do
      let (ws, ts) ← readPatterns ts
      return (w :: ws, ts)
  | .word _ w :: ts => .ok ([w], ts)
  | ts => .error (unexpected ts)

/-- The word that is defined as a function, if the given tokens define one. -/
def definedWord? : List Token → Option Word
  | .word _ w :: .op _ "(" :: _ =>
      if (assignment? w).isSome || (bare? w).any keywords.contains then none else some w
  | _ => none

/-- The commands that control a script.  No function can have the name of one. -/
def controlNames : List String :=
  [".", ":", "break", "continue", "eval", "exec", "exit", "export", "local", "readonly", "return",
    "set", "shift", "times", "trap", "unset"]

def isFunctionName (s : String) : Bool := isName s && !controlNames.contains s

/-- What a list of commands is part of. -/
inductive Extent where
  /-- It ends with its line. -/
  | line
  /-- It goes on to a word that closes it. -/
  | block
  /-- The same, and it may be empty. -/
  | body
  deriving DecidableEq, Repr

mutual

/-- Reads commands in order, of which some may have been read before. -/
def readList (aliases : Aliases) (extent : Extent) : Nat → Bool → List Token →
    Except Complaint (Option Command × List Token)
  | 0, _, ts => .error (unexpected ts)
  | fuel + 1, begun, ts =>
      let ts := unaliasEnd aliases (if extent = Extent.line then ts else skipLines ts)
      let atLineEnd := match ts with
        | [] => true
        | .op _ "\n" :: _ => true
        | _ => false
      let ended := (extent = Extent.body || (begun && extent = Extent.block)) && endsList ts
      if !ts.isEmpty && atLineEnd && extent ≠ Extent.line then
        readList aliases extent fuel begun ts
      else if atLineEnd || ended then .ok (none, ts)
      else do
        let (c, ts) ← readAndOr aliases fuel ts
        match ts with
        | .op _ ";" :: ts => readMore aliases extent fuel c ts
        | .op _ "&" :: ts => readMore aliases extent fuel (.background c) ts
        | .op n "\n" :: ts =>
            if extent = Extent.line then return (some c, .op n "\n" :: ts)
            else readMore aliases extent fuel c ts
        | [] => return (some c, [])
        | ts => if extent = Extent.line then throw (unexpected ts) else return (some c, ts)

/-- Reads the commands behind a separator, if there are any. -/
def readMore (aliases : Aliases) (extent : Extent) : Nat → Command → List Token →
    Except Complaint (Option Command × List Token)
  | 0, _, ts => .error (unexpected ts)
  | fuel + 1, c, ts => do
      let (d, ts) ← readList aliases extent fuel true ts
      match d with
      | none => return (some c, ts)
      | some d => return (some (.inOrder c d), ts)

/-- Reads commands up to a word that closes them. -/
def readBlock (aliases : Aliases) : Nat → List Token → Except Complaint (Command × List Token)
  | 0, ts => .error (unexpected ts)
  | fuel + 1, ts => do
      let (c, ts) ← readList aliases .block fuel false ts
      return (c.getD .skip, ts)

/-- Reads pipelines joined by what depends on success. -/
def readAndOr (aliases : Aliases) : Nat → List Token → Except Complaint (Command × List Token)
  | 0, ts => .error (unexpected ts)
  | fuel + 1, ts => do
      let (c, ts) ← readPipeline aliases fuel ts
      readAndOrRest aliases fuel c ts

def readAndOrRest (aliases : Aliases) : Nat → Command → List Token →
    Except Complaint (Command × List Token)
  | 0, _, ts => .error (unexpected ts)
  | fuel + 1, c, ts =>
      match ts with
      | .op _ "&&" :: ts => do
          let (d, ts) ← readPipeline aliases fuel (skipLines ts)
          readAndOrRest aliases fuel (.both c d) ts
      | .op _ "||" :: ts => do
          let (d, ts) ← readPipeline aliases fuel (skipLines ts)
          readAndOrRest aliases fuel (.either c d) ts
      | ts => .ok (c, ts)

def readPipeline (aliases : Aliases) : Nat → List Token → Except Complaint (Command × List Token)
  | 0, ts => .error (unexpected ts)
  | fuel + 1, ts =>
      if firstWord? ts = some "!" then do
        let (c, ts) ← readPipes aliases fuel ts.tail
        return (.negated c, ts)
      else readPipes aliases fuel ts

def readPipes (aliases : Aliases) : Nat → List Token → Except Complaint (Command × List Token)
  | 0, ts => .error (unexpected ts)
  | fuel + 1, ts => do
      let (c, ts) ← readCommand aliases fuel ts
      match ts with
      | .op _ "|" :: ts =>
          let (d, ts) ← readPipes aliases fuel (skipLines ts)
          return (.pipe c d, ts)
      | ts => return (c, ts)

def readCommand (aliases : Aliases) : Nat → List Token → Except Complaint (Command × List Token)
  | 0, ts => .error (unexpected ts)
  | fuel + 1, ts =>
      let ts := unalias aliases ts
      let line := firstLine ts
      match ts with
      | .op _ "(" :: ts => do
          let (c, ts) ← readBlock aliases fuel ts
          let ts ← expectOp ")" ts
          let (rs, ts) ← readRedirects ts
          return (.subshell line c rs, ts)
      | ts =>
          match definedWord? ts, firstWord? ts with
          | some w, _ =>
              match ts.drop 2 with
              | .op _ ")" :: ts =>
                  match (bare? w).filter isFunctionName with
                  | none => .error ⟨line, "Bad function name"⟩
                  | some name => do
                      let (c, ts) ← readCommand aliases fuel (skipLines ts)
                      return (.define name c, ts)
              | .word n _ :: _ => .error ⟨n, "word unexpected (expecting \x22)\x22)"⟩
              | ts => .error (unexpectedFor (.mark ")") ts)
          | none, first? => match first? with
          | some "\x7b" => do
              let (c, ts) ← readBlock aliases fuel ts.tail
              let ts ← expect "\x7d" ts
              let (rs, ts) ← readRedirects ts
              return (.group line c rs, ts)
          | some "if" => do
              let (c, ts) ← readBranches aliases fuel ts.tail
              let (rs, ts) ← readRedirects ts
              return (.group line c rs, ts)
          | some "while" => readLoop aliases true fuel line ts.tail
          | some "until" => readLoop aliases false fuel line ts.tail
          | some "for" =>
              match ts.tail with
              | .word _ w :: ts =>
                  match (bare? w).filter isName with
                  | none => .error ⟨line, "Bad for loop variable"⟩
                  | some name => do
                      let (ws, ts) ← readValues ts
                      let ts ← expect "do" (skipLines ts)
                      let (c, ts) ← readBlock aliases fuel ts
                      let ts ← expect "done" ts
                      let (rs, ts) ← readRedirects ts
                      return (.group line (.each line name ws c) rs, ts)
              | _ => .error ⟨line, "Bad for loop variable"⟩
          | some "case" =>
              match ts.tail with
              | .word _ w :: ts => do
                  let ts ← expect "in" (skipLines ts)
                  let (cs, ts) ← readCases aliases fuel (skipLines ts)
                  let (rs, ts) ← readRedirects ts
                  return (.group line (.among line w cs) rs, ts)
              | ts => .error (unexpectedFor .word ts)
          | some s =>
              if keywords.contains s then .error (unexpected ts) else readSimple aliases ts
          | none => readSimple aliases ts

/-- Reads the cases of a choice by patterns, up to the word that closes it. -/
def readCases (aliases : Aliases) : Nat → List Token →
    Except Complaint (List (List Word × Command) × List Token)
  | 0, ts => .error (unexpected ts)
  | fuel + 1, ts =>
      if firstWord? ts = some "esac" then .ok ([], ts.tail)
      else do
        let (ws, ts) ← readPatterns (match ts with
          | .op _ "(" :: ts => ts
          | ts => ts)
        let ts ← expectOp ")" ts
        let (c, ts) ← readList aliases .body fuel false ts
        let ts := skipLines ts
        if firstWord? ts = some "esac" then return ([(ws, c.getD .skip)], ts.tail)
        let ts ← expectOp ";;" ts
        let (cs, ts) ← readCases aliases fuel (skipLines ts)
        return ((ws, c.getD .skip) :: cs, ts)

/-- Reads a loop behind its opening word. -/
def readLoop (aliases : Aliases) (wanted : Bool) : Nat → Nat → List Token →
    Except Complaint (Command × List Token)
  | 0, _, ts => .error (unexpected ts)
  | fuel + 1, line, ts => do
      let (t, ts) ← readBlock aliases fuel ts
      let ts ← expect "do" ts
      let (c, ts) ← readBlock aliases fuel ts
      let ts ← expect "done" ts
      let (rs, ts) ← readRedirects ts
      return (.group line (.loop wanted t c) rs, ts)

/-- Reads the branches of a choice behind its opening word. -/
def readBranches (aliases : Aliases) : Nat → List Token → Except Complaint (Command × List Token)
  | 0, ts => .error (unexpected ts)
  | fuel + 1, ts => do
      let (t, ts) ← readBlock aliases fuel ts
      let ts ← expect "then" ts
      let (a, ts) ← readBlock aliases fuel ts
      match firstWord? ts with
      | some "elif" =>
          let (b, ts) ← readBranches aliases fuel ts.tail
          return (.choose t a b, ts)
      | some "else" =>
          let (b, ts) ← readBlock aliases fuel ts.tail
          let ts ← expect "fi" ts
          return (.choose t a b, ts)
      | _ =>
          let ts ← expect "fi" ts
          return (.choose t a .skip, ts)

end

/-- Reads the commands of a script within a script.  They may end before it does. -/
def readInside (aliases : Aliases) (ts : List Token) :
    Except Complaint (Option Command × List Token) :=
  readList aliases .body (16 * (ts.length + 1) + 64) false ts

/-- The scripts within a word, each with the line on which it begins and with how it is closed. -/
def innerScripts : Word → List (Nat × String × Closing)
  | [] => []
  | .output line text _ closing :: ps => (line, text, closing) :: innerScripts ps
  | .changed _ _ _ _ w :: ps => innerScripts w ++ innerScripts ps
  | .sum w _ :: ps => innerScripts w ++ innerScripts ps
  | _ :: ps => innerScripts ps

mutual

/-- What is wrong with the scripts within the words of some tokens. -/
def innerMistake? (aliases : Aliases) : Nat → List Token → Option Complaint
  | 0, _ => none
  | fuel + 1, ts =>
      ts.findSome? fun t => match t with
        | .word _ w => (innerScripts w).findSome? (scriptMistake? aliases fuel)
        | _ => none

/-- What is wrong with a script within a word.  Behind the commands of one in parentheses, nothing
may stand but the closing one. -/
def scriptMistake? (aliases : Aliases) : Nat → Nat × String × Closing → Option Complaint
  | 0, _ => none
  | fuel + 1, (line, text, closing) =>
      let ts := tokens line text
      let located (e : Complaint) : Complaint :=
        if e.line = lineOfEnd then ts.mistake.getD { e with line := ts.lastLine } else e
      let all := if closing = .parenthesis then ts.list ++ [.op ts.lastLine ")"] else ts.list
      match innerMistake? aliases fuel ts.list with
      | some e => some e
      | none =>
          match readInside aliases all with
          | .error e => some (located e)
          | .ok (_, rest) =>
              if closing = .backquote then (if rest.isEmpty then ts.mistake else none)
              else
                match expectOp ")" (skipLines rest) with
                | .error e => some (located e)
                | .ok _ => none

end

/-- The tokens before the one that a complaint is about. -/
def beforeFault (e : Complaint) : List Token → List Token
  | [] => []
  | t :: ts =>
      if t.lineBehind = e.line && e.text.startsWith (t.shown ++ " unexpected") then []
      else t :: beforeFault e ts

/-- How deep scripts within scripts are looked at. -/
def depthMax : Nat := 40

end Script

/-- A script: the tokens that have not been read, what is wrong with the text behind them, its last
line, and the line that reading has got to. -/
structure Script where
  unread : List Script.Token
  mistake : Option Script.Complaint
  lastLine : Nat
  line : Nat
  /-- The lines that have not been read, by number, if they may be shown when they are. -/
  lines : List (Nat × String)
  deriving Repr

namespace Script

/-- The script of a text that begins on the given line. -/
def ofText (line : Nat) (text : String) : Script :=
  let ts := Script.tokens line text
  ⟨ts.list, ts.mistake, ts.lastLine, line, []⟩

/-- The script of a file.  Its lines may be shown. -/
def ofFile (text : String) : Script :=
  let lines := (text.splitOn "\n").zipIdx.map fun (l, n) => (n + 1, l ++ "\n")
  let lines := match lines.reverse with
    | (n, l) :: rest =>
        let l := String.ofList l.toList.dropLast
        (if l = "" then rest else (n, l) :: rest).reverse
    | [] => []
  { ofText 1 text with lines := lines }

/-- The lines from the one on that is read next.  The end of the line before it is still to be
read. -/
def linesFrom (unread : List Token) (lines : List (Nat × String)) : List (Nat × String) :=
  match unread with
  | _ :: t :: _ => lines.filter fun l => t.line ≤ l.1
  | _ => []

/-- Whether a token is not the end of a line. -/
def Token.isWithinLine : Token → Bool
  | .op _ "\n" => false
  | _ => true

/-- The line that reading has got to behind tokens: the end of a line leads to the next one. -/
def lineAfter (lastLine : Nat) (read : List Token) : Nat :=
  match read.getLast? with
  | some (.op line "\n") => line + 1
  | _ => lastLine

def isEmpty (s : Script) : Bool := (skipLines s.unread).isEmpty && s.mistake.isNone

/-- **Reads the next line of commands.**  Where a script breaks off within a word, that is the
mistake, and not that it ends. -/
def next? (aliases : Aliases) (s : Script) : Option (Except Complaint (Option Command) × Script) :=
  match skipLines s.unread with
  | [] => s.mistake.map fun e => (.error e, ⟨[], none, s.lastLine, s.lastLine, []⟩)
  | t :: ts =>
      let ended (e : Complaint) : Option (Except Complaint (Option Command) × Script) :=
        some (.error e, ⟨[], none, s.lastLine, s.lastLine, s.lines.filter fun l => e.line < l.1⟩)
      match readList aliases .line (16 * (ts.length + 1) + 64) false (t :: ts) with
      | .ok (c, rest) =>
          let read := (t :: ts).take (ts.length + 1 - rest.length)
          let broken? := if rest.isEmpty && read.getLast?.any Token.isWithinLine
            then s.mistake else none
          match (innerMistake? aliases depthMax read).or broken? with
          | none =>
              some (.ok c, { s with
                unread := rest
                line := lineAfter s.lastLine read
                lines := linesFrom rest s.lines })
          | some e => ended e
      | .error e =>
          let inner? := innerMistake? aliases depthMax (beforeFault e (t :: ts))
          ended (inner?.getD
            (if e.line = lineOfEnd then s.mistake.getD { e with line := s.lastLine } else e))

/-- The lines that have been read between two states of a script. -/
def linesBetween (before after : Script) : List String :=
  (before.lines.take (before.lines.length - after.lines.length)).map Prod.snd

/-- **The commands of a script within a script**, if there are any. -/
def inner? (aliases : Aliases) (line : Nat) (text : String) : Option Command :=
  match readInside aliases (Script.tokens line text).list with
  | .ok (c, _) => c
  | .error _ => none

end Script

end BatchRunner
