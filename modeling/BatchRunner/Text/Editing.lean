/-
**Editing a stream of lines.**

An editing script is a list of commands.  Each line of the input is put into a space, the commands
that are meant for the line change the space one after the other, and in the end the space is
printed.

Main definitions:

* `Editing.Address`, `Editing.Action`, `Editing.Command` — the commands;
* `Editing.Fault`, `Editing.parse` — reads a script, which may be at fault somewhere;
* `Editing.State`, `Editing.run` — carries out a script on lines.
-/
import BatchRunner.Text.Regular

set_option autoImplicit false

namespace BatchRunner.Editing

/-! ### Commands -/

/-- An expression that is sought.  If none is given, it is the one that was sought last. -/
structure Sought where
  regular? : Option Regular
  fold : Bool
  deriving Repr

/-- What lines are addressed. -/
inductive Address where
  | line (n : Nat)
  /-- A line, and every so many lines after it. -/
  | every (first step : Nat)
  | last
  | fitting (s : Sought)
  /-- So many lines behind the first one addressed. -/
  | after (n : Nat)
  /-- The next line whose number is a multiple. -/
  | multiple (n : Nat)
  deriving Repr

/-- A part of what is put in place of something. -/
inductive Part where
  | text (cs : List Char)
  /-- What a group has fitted; the group with number zero is everything. -/
  | group (n : Nat)
  /-- How letters that follow are changed. -/
  | shift (c : Char)
  deriving Repr

structure Substitution where
  sought : Sought
  parts : List Part
  /-- The first of the places where it is made. -/
  first : Nat
  everywhere : Bool
  print : Bool
  file? : Option String
  deriving Repr

inductive Action where
  | openBlock
  | closeBlock
  | label (name : String)
  | substitute (s : Substitution)
  /-- Replaces characters by others. -/
  | exchange (table : List (Char × Char))
  | append (text : List Char)
  | insert (text : List Char)
  | change (text : List Char)
  | branch (name : String)
  | branchIf (name : String)
  | branchUnless (name : String)
  | quit (status : Nat)
  | quitSilently (status : Nat)
  | readFile (path : String)
  | writeFile (path : String)
  | writeFirst (path : String)
  | list (width : Option Nat)
  /-- One of the commands that are only a letter. -/
  | simple (c : Char)
  deriving Repr

/-- A command, and the lines that it is meant for. -/
structure Command where
  first? : Option Address
  second? : Option Address
  negated : Bool
  action : Action
  deriving Repr

/-! ### Reading -/

/-- What is wrong with a script, and how much of it is left where that is noticed. -/
structure Fault where
  left : Option Nat
  text : String
  deriving Repr

/-- A fault that is noticed before the given rest. -/
def fault {α : Type} (cs : List Char) (text : String) : Except Fault α :=
  .error ⟨some cs.length, text⟩

/-- Whether a character is white space within a line. -/
def isBlank (c : Char) : Bool := c = ' ' || c = '\t'

def isSpace (c : Char) : Bool := isBlank c || ('\n' ≤ c && c ≤ '\r')

def number (cs : List Char) : Nat × List Char :=
  let ds := cs.takeWhile Char.isDigit
  ((String.ofList ds).toNat?.getD 0, cs.drop ds.length)

/-- How many characters within brackets belong together, up to the closing bracket. -/
def bracketLength (cs : List Char) : Nat :=
  let lead := match cs with
    | '^' :: ']' :: _ => 2
    | '^' :: _ => 1
    | ']' :: _ => 1
    | _ => 0
  let rec inside : Nat → List Char → Nat
    | 0, _ => 0
    | _, [] => 0
    | fuel + 1, '[' :: ':' :: cs =>
        let name := cs.takeWhile fun c => c ≠ ':' && c ≠ ']'
        match cs.drop name.length with
        | ':' :: ']' :: rest => name.length + 4 + inside fuel rest
        | _ => 2 + inside fuel cs
    | fuel + 1, c :: cs => if c = ']' then 1 else 1 + inside fuel cs
  lead + inside cs.length (cs.drop lead)

/-- The text up to a delimiter, and what follows that.  In an expression the delimiter can stand
between brackets. -/
def delimited (d : Char) (isExpression : Bool) : Nat → List Char → Option (List Char × List Char)
  | 0, _ => none
  | _, [] => none
  | fuel + 1, c :: cs =>
      let add (front : List Char) (rest : List Char) :=
        (delimited d isExpression fuel rest).map fun (s, rest) => (front ++ s, rest)
      if c = d then some ([], cs)
      else if c = '\n' && isExpression then none
      else if c = '\\' then
        match cs with
        | [] => none
        | x :: rest =>
            if x = 'n' && isExpression && d ≠ 'n' then add ['\n'] rest
            else if x = '\n' then add (if isExpression then ['\n'] else ['\\', '\n']) rest
            else if x = d && !(!isExpression && x = '&') then add [x] rest
            else add ['\\', x] rest
      else if c = '[' && isExpression then
        let n := bracketLength cs
        if (cs.take n).contains '\n' then none
        else add ('[' :: cs.take n) (cs.drop n)
      else add [c] cs

/-- The character that a letter stands for behind a backslash. -/
def escape? : Char → Option Char
  | 'a' => some '\x07'
  | 'f' => some '\x0c'
  | 'n' => some '\n'
  | 'r' => some '\r'
  | 't' => some '\t'
  | 'v' => some '\x0b'
  | _ => none

/-- An expression in which letters behind backslashes are replaced by what they stand for. -/
def unescaped : List Char → List Char
  | '\\' :: c :: cs =>
      match escape? c with
      | some x => x :: unescaped cs
      | none => '\\' :: c :: unescaped cs
  | c :: cs => c :: unescaped cs
  | [] => []

/-- The parts of what is put in place of something. -/
def partsOf : List Char → List Part
  | [] => []
  | '\\' :: c :: cs =>
      let rest := partsOf cs
      if c.isDigit then .group (c.toNat - '0'.toNat) :: rest
      else if ['U', 'L', 'u', 'l', 'E'].contains c then .shift c :: rest
      else .text [(escape? c).getD c] :: rest
  | '&' :: cs => .group 0 :: partsOf cs
  | c :: cs => .text [c] :: partsOf cs

def groupCount : Regular → Nat
  | .seq a b => max (groupCount a) (groupCount b)
  | .either a b => max (groupCount a) (groupCount b)
  | .times r _ _ => groupCount r
  | .group n r => max n (groupCount r)
  | _ => 0

def soughtOf (extended fold : Bool) (text rest : List Char) : Except Fault Sought :=
  if text.isEmpty then .ok ⟨none, fold⟩
  else
    match Regular.parse extended (String.ofList (unescaped text)) with
    | .ok r => .ok ⟨some r, fold⟩
    | .error e => fault rest e

def skipBlanks (cs : List Char) : List Char := cs.dropWhile isBlank

def address? (extended : Bool) (cs : List Char) : Except Fault (Option Address × List Char) :=
  let expression (d : Char) (cs : List Char) : Except Fault (Option Address × List Char) :=
    match delimited d true (cs.length + 1) cs with
    | none => fault (cs.dropWhile (· ≠ '\n')) "unterminated address regex"
    | some (text, rest) => do
        let marks := rest.takeWhile fun c => c = 'I' || c = 'M' || isBlank c
        let rest := rest.drop marks.length
        let s ← soughtOf extended (marks.contains 'I') text rest
        return (some (.fitting s), rest)
  match cs with
  | '/' :: rest => expression '/' rest
  | '\\' :: d :: rest => expression d rest
  | '$' :: rest => .ok (some .last, rest)
  | '+' :: rest => let (n, rest) := number (skipBlanks rest); .ok (some (.after n), rest)
  | '~' :: rest => let (n, rest) := number (skipBlanks rest); .ok (some (.multiple n), rest)
  | c :: rest =>
      if c.isDigit then
        let (n, rest) := number (c :: rest)
        match skipBlanks rest with
        | '~' :: rest =>
            let (m, rest) := number (skipBlanks rest)
            .ok (some (if m = 0 then .line n else .every n m), rest)
        | _ => .ok (some (.line n), rest)
      else .ok (none, c :: rest)
  | [] => .ok (none, [])

def endOfCommand (cs : List Char) : Except Fault (List Char) :=
  match skipBlanks cs with
  | [] => .ok []
  | c :: rest =>
      if c = '\n' || c = ';' then .ok rest
      else if c = '\x7d' || c = '#' then .ok (c :: rest)
      else fault rest "extra characters after command"

def textBody : List Char → List Char × List Char
  | [] => ([], [])
  | '\n' :: cs => ([], cs)
  | '\\' :: '\n' :: cs => let (s, rest) := textBody cs; ('\n' :: s, rest)
  | '\\' :: c :: cs => let (s, rest) := textBody cs; ((escape? c).getD c :: s, rest)
  | c :: cs => let (s, rest) := textBody cs; (c :: s, rest)

/-- The text that stands behind the letter of a command that brings text. -/
def textOf (cs : List Char) : Except Fault (List Char × List Char) :=
  let ended (x : List Char × List Char) : List Char × List Char := (x.1 ++ ['\n'], x.2)
  match skipBlanks cs with
  | [] => fault [] "expected \\ after \x60a', \x60c' or \x60i'"
  | '\\' :: rest =>
      match skipBlanks rest with
      | '\n' :: text => .ok (if text.isEmpty then ([], []) else ended (textBody text))
      | [] => .ok ([], [])
      | _ =>
          match rest with
          | c :: rest => let (s, rest) := textBody rest; .ok (ended (c :: s, rest))
          | [] => .ok (ended ([], []))
  | text => .ok (ended (textBody text))

/-- The name of a label, and what follows it. -/
def labelOf (cs : List Char) : String × List Char :=
  let cs := skipBlanks cs
  let name := cs.takeWhile fun c => !isSpace c && c ≠ ';'
  (String.ofList name, cs.drop name.length)

/-- The name of a file, up to the end of the line. -/
def pathOf (cs : List Char) : Except Fault (String × List Char) :=
  let cs := skipBlanks cs
  let name := cs.takeWhile (· ≠ '\n')
  if name.isEmpty then fault cs "missing filename in r/R/w/W commands"
  else .ok (String.ofList name, cs.drop (name.length + 1))

def readMarks : Nat → Substitution → Bool → List Char →
    Except Fault ((Substitution × Bool) × List Char)
  | 0, s, numbered, cs => .ok ((s, numbered), cs)
  | _, s, numbered, [] => .ok ((s, numbered), [])
  | fuel + 1, s, numbered, c :: cs =>
      if c = 'i' || c = 'I' then
        readMarks fuel { s with sought := { s.sought with fold := true } } numbered cs
      else if c = 'm' || c = 'M' then readMarks fuel s numbered cs
      else if c = 'p' then
        if s.print then fault cs "multiple \x60p' options to \x60s' command"
        else readMarks fuel { s with print := true } numbered cs
      else if c = 'g' then
        if s.everywhere then fault cs "multiple \x60g' options to \x60s' command"
        else readMarks fuel { s with everywhere := true } numbered cs
      else if c = 'w' then do
        let (path, rest) ← pathOf cs
        return (({ s with file? := some path }, numbered), rest)
      else if c.isDigit then
        let (n, rest) := number (c :: cs)
        if numbered then fault rest "multiple number options to \x60s' command"
        else if n = 0 then fault rest "number option to \x60s' command may not be zero"
        else readMarks fuel { s with first := n } true rest
      else if isBlank c then readMarks fuel s numbered cs
      else if c = '\x7d' || c = '#' then .ok ((s, numbered), c :: cs)
      else if c = '\n' || c = ';' then .ok ((s, numbered), cs)
      else fault cs "unknown option to \x60s'"

/-- What follows where a text with a delimiter breaks off. -/
def brokenOff (d : Char) (isExpression : Bool) (cs : List Char) : List Char :=
  if isExpression && d ≠ '\n' then cs.dropWhile (· ≠ '\n') else []

def readSubstitution (extended : Bool) (cs : List Char) : Except Fault (Action × List Char) :=
  let broken {α : Type} (rest : List Char) : Except Fault α :=
    fault rest "unterminated \x60s' command"
  match cs with
  | [] => broken []
  | d :: cs =>
      match delimited d true (cs.length + 1) cs with
      | none => broken (brokenOff d true cs)
      | some (what, cs) =>
          match delimited d false (cs.length + 1) cs with
          | none => broken []
          | some (by_, cs) => do
              let parts := partsOf by_
              let ((s, _), rest) ←
                readMarks (cs.length + 1) ⟨⟨none, false⟩, parts, 1, false, false, none⟩ false cs
              let sought ← soughtOf extended s.sought.fold what rest
              let most := parts.foldl (fun n p => match p with
                | .group m => max n m
                | _ => n) 0
              match sought.regular? with
              | some r =>
                  if groupCount r < most then
                    fault rest ("invalid reference \\" ++ toString most
                      ++ " on \x60s' command's RHS")
                  else return (.substitute { s with sought := sought }, rest)
              | none => return (.substitute { s with sought := sought }, rest)

def exchanged : List Char → List Char
  | '\\' :: c :: cs => (if c = '\\' then ['\\'] else match escape? c with
      | some x => [x]
      | none => ['\\', c]) ++ exchanged cs
  | c :: cs => c :: exchanged cs
  | [] => []

/-- Reads an exchange of characters behind its letter. -/
def readExchange (cs : List Char) : Except Fault (Action × List Char) :=
  let broken {α : Type} : Except Fault α := fault [] "unterminated \x60y' command"
  match cs with
  | [] => broken
  | d :: cs =>
      match delimited d false (cs.length + 1) cs with
      | none => broken
      | some (a, cs) =>
          match delimited d false (cs.length + 1) cs with
          | none => broken
          | some (b, cs) => do
              let a := exchanged a
              let b := exchanged b
              if a.length ≠ b.length then
                fault cs "strings for \x60y' command are different lengths"
              else
                let rest ← endOfCommand cs
                return (.exchange (a.zip b), rest)

/-- Reads what stands behind the addresses of a command. -/
def readAction (extended : Bool) (one? two? : Option Address) (depth : Nat) :
    List Char → Except Fault (Action × List Char)
  | [] => fault [] "missing command"
  | c :: cs =>
      if c = '\x7b' then .ok (.openBlock, cs)
      else if c = '\x7d' then
        if depth = 0 then fault cs "unexpected \x60\x7d'"
        else if one?.isSome then fault cs "\x7d doesn't want any addresses"
        else do return (.closeBlock, ← endOfCommand cs)
      else if c = ':' then
        if one?.isSome then fault cs ": doesn't want any addresses"
        else
          let (name, rest) := labelOf cs
          if name = "" then fault rest "\":\" lacks a label" else .ok (.label name, rest)
      else if c = 's' then readSubstitution extended cs
      else if c = 'y' then readExchange cs
      else if c = 'a' then do let (t, rest) ← textOf cs; return (.append t, rest)
      else if c = 'i' then do let (t, rest) ← textOf cs; return (.insert t, rest)
      else if c = 'c' then do let (t, rest) ← textOf cs; return (.change t, rest)
      else if c = 'b' then let (n, rest) := labelOf cs; .ok (.branch n, rest)
      else if c = 't' then let (n, rest) := labelOf cs; .ok (.branchIf n, rest)
      else if c = 'T' then let (n, rest) := labelOf cs; .ok (.branchUnless n, rest)
      else if c = 'r' then do let (f, rest) ← pathOf cs; return (.readFile f, rest)
      else if c = 'w' then do let (f, rest) ← pathOf cs; return (.writeFile f, rest)
      else if c = 'W' then do let (f, rest) ← pathOf cs; return (.writeFirst f, rest)
      else if c = 'q' || c = 'Q' || c = 'l' then
        if c ≠ 'l' && two?.isSome then fault cs "command only uses one address"
        else
          let cs := skipBlanks cs
          let (n, rest) := number cs
          let given := rest.length < cs.length
          do
            let rest ← endOfCommand rest
            return (if c = 'q' then .quit n else if c = 'Q' then .quitSilently n
              else .list (if given then some n else none), rest)
      else if "=dDFgGhHnNpPzx".toList.contains c then
        do return (.simple c, ← endOfCommand cs)
      else fault cs ("unknown command: \x60" ++ String.singleton c ++ "'")

/-- Whether an address is one that only a second address can be. -/
def isRelative : Address → Bool
  | .after _ => true
  | .multiple _ => true
  | _ => false

/-- Reads the commands of a script, in which so many blocks are open. -/
def readCommands (extended : Bool) : Nat → Nat → List Char →
    Except Fault (List Command × Nat)
  | 0, depth, _ => .ok ([], depth)
  | fuel + 1, depth, cs =>
      match cs.dropWhile fun c => isSpace c || c = ';' with
      | [] => .ok ([], depth)
      | '#' :: cs => readCommands extended fuel depth (cs.dropWhile (· ≠ '\n'))
      | cs => do
          let (one?, cs) ← address? extended cs
          if one?.any isRelative then
            fault cs "invalid usage of +N or ~N as first address"
          else
            let cs := if one?.isSome then skipBlanks cs else cs
            let (two?, cs) ← match one?, cs with
              | some _, ',' :: cs => do
                  let (two?, rest) ← address? extended (skipBlanks cs)
                  match two? with
                  | some two => pure (some two, skipBlanks rest)
                  | none => fault rest.tail "unexpected \x60,'"
              | _, cs => pure (none, cs)
            let fromNothing := match one?, two? with
              | some (.line 0), some (.fitting _) => false
              | some (.line 0), _ => true
              | _, _ => false
            if fromNothing then fault cs.tail "invalid usage of line address 0"
            else
              let (negated, cs) := match cs with
                | '!' :: cs => (true, skipBlanks cs)
                | cs => (false, cs)
              match negated, cs with
              | true, '!' :: rest => fault rest "multiple \x60!'s"
              | _, _ =>
                  match one?, cs with
                  | some _, '#' :: rest => fault rest "comments don't accept any addresses"
                  | _, _ =>
                      let (action, rest) ← readAction extended one? two? depth cs
                      let depth := match action with
                        | .openBlock => depth + 1
                        | .closeBlock => depth - 1
                        | _ => depth
                      let (more, depth) ← readCommands extended fuel depth rest
                      return (⟨one?, two?, negated, action⟩ :: more, depth)

/-- **Reads a script** that comes in several pieces.  A fault is given with the number of the piece
and the number of characters read of it. -/
def parse (extended : Bool) (pieces : List String) :
    Except (Nat × Nat × String) (List Command) := do
  let rec go : Nat → Nat → List String → Except (Nat × Nat × String) (List Command)
    | _, depth, [] =>
        if depth = 0 then .ok [] else .error (1, 0, "unmatched \x60\x7b'")
    | n, depth, text :: rest =>
        match readCommands extended (text.length + 1) depth text.toList with
        | .error e => .error (n, (e.left.map fun k => text.length - k).getD 0, e.text)
        | .ok (cs, depth) => do return cs ++ (← go (n + 1) depth rest)
  go 1 0 pieces

def missingLabel? (cs : List Command) : Option String :=
  let labels := cs.filterMap fun c => match c.action with
    | .label n => some n
    | _ => none
  cs.findSome? fun c =>
    let check (n : String) : Option String :=
      if n = "" || labels.contains n then none else some n
    match c.action with
    | .branch n => check n
    | .branchIf n => check n
    | .branchUnless n => check n
    | _ => none

def soughtIn (cs : List Command) : List Sought :=
  let ofAddress : Option Address → List Sought
    | some (.fitting s) => [s]
    | _ => []
  cs.flatMap fun c => ofAddress c.first? ++ ofAddress c.second? ++ match c.action with
    | .substitute s => [s.sought]
    | _ => []

/-- Whether what was sought last is to be sought, but nothing ever is before. -/
def seeksNothing (cs : List Command) : Bool :=
  ((soughtIn cs).head?.map fun s => s.regular?.isNone).getD false

/-! ### Running -/

/-- A line of the input. -/
structure Entry where
  text : List Char
  /-- Whether it has an end. -/
  ended : Bool
  /-- The file it is from. -/
  file : String
  /-- Whether no line follows it that counts as the same input. -/
  isLast : Bool

/-- What is written to a file, or to standard output if the file has no name. -/
structure Sink where
  path : String
  text : List Char
  /-- Whether the end of the last line is still to be written. -/
  lacking : Bool

/-- What is to be printed at the end of a cycle. -/
inductive Queued where
  | text (cs : List Char)
  | file (path : String)

/-- How far a range of lines has been gone through. -/
inductive Progress where
  | outside
  /-- Within the range, and possibly up to a given line. -/
  | within (stop : Option Nat)

structure State where
  /-- The lines that have not been read. -/
  input : List Entry
  count : Nat
  line : Entry
  space : List Char
  hold : List Char
  queue : List Queued
  /-- Whether a substitution has been made since the last line was read. -/
  changed : Bool
  /-- What was sought last. -/
  sought? : Option Regular
  progress : List (Nat × Progress)
  sinks : List Sink

structure Setting where
  script : Array Command
  silent : Bool
  /-- The contents of files. -/
  read : String → List Char
  /-- Whether lines of different files are numbered on their own. -/
  separate : Bool

namespace State

/-- Writes a text to a sink, with the end of a line behind it if that is wanted. -/
def write (s : State) (path : String) (text : List Char) (ended : Bool) : State :=
  let path := if path = "/dev/stdout" then "" else path
  { s with sinks := s.sinks.map fun k =>
      if k.path = path then
        { k with
          text := k.text ++ (if k.lacking then ['\n'] else []) ++ text
            ++ (if ended then ['\n'] else [])
          lacking := !ended }
      else k }

def writeRaw (s : State) (text : List Char) : State :=
  if text.isEmpty then s
  else { s with sinks := s.sinks.map fun k =>
      if k.path = "" then
        { k with
          text := k.text ++ (if k.lacking then ['\n'] else []) ++ text
          lacking := false }
      else k }

def print (s : State) : State := s.write "" s.space s.line.ended

/-- Prints what is to be printed at the end of a cycle. -/
def flush (s : State) (read : String → List Char) : State :=
  { s.queue.foldl (fun s q => match q with
      | .text cs => s.writeRaw cs
      | .file path => s.writeRaw (read path)) s with queue := [] }

def next? (s : State) (separate : Bool) : Option State :=
  match s.input with
  | [] => none
  | e :: rest =>
      let fresh := separate && s.count ≠ 0 && s.line.isLast
      some { s with input := rest, line := e, count := if fresh then 1 else s.count + 1 }

/-- The first part of a text that is sought. -/
def find? (s : State) (x : Sought) (text : Regular.Subject) (n : Nat) :
    Option Regular.Match × State :=
  match x.regular?.or s.sought? with
  | some r => (r.find? { text with fold := x.fold } n, { s with sought? := some r })
  | none => (none, s)

/-- Whether an address is the current line. -/
def isAt (s : State) : Address → Bool × State
  | .line n => (s.count = n, s)
  | .every first step => (first ≤ s.count && (s.count - first) % step = 0, s)
  | .last => (s.line.isLast, s)
  | .fitting x =>
      let (m, s) := s.find? x ⟨s.space.toArray, x.fold⟩ 0
      (m.isSome, s)
  | _ => (false, s)

/-- Takes note of how far a range has been gone through. -/
def setProgress (s : State) (pc : Nat) (x : Progress) : State :=
  { s with progress := (pc, x) :: s.progress.filter fun e => e.1 ≠ pc }

/-- The start of a range, if the current line is it. -/
def enter (s : State) (pc : Nat) (one two : Address) : Bool × State :=
  let (here, s) := s.isAt one
  if !here then (false, s)
  else
    match two with
    | .line n => (true, if n ≤ s.count then s else s.setProgress pc (.within (some n)))
    | .after n => (true, if n = 0 then s else s.setProgress pc (.within (some (s.count + n))))
    | .multiple n =>
        (true, if n = 0 || s.count % n = 0 then s
          else s.setProgress pc (.within (some ((s.count / n + 1) * n))))
    | _ => (true, s.setProgress pc (.within none))

/-- Whether a range has been entered and not left, or one that begins before the first line has not
been left. -/
def progressOf (s : State) (pc : Nat) (one : Address) : Progress :=
  match s.progress.lookup pc with
  | some x => x
  | none => match one with
      | .line 0 => .within none
      | _ => .outside

/-- Whether a command is meant for the current line. -/
def selects (s : State) (pc : Nat) (c : Command) : Bool × State :=
  let (here, s) := match c.first?, c.second? with
    | none, _ => (true, s)
    | some one, none => s.isAt one
    | some one, some two =>
        match s.progressOf pc one with
        | .within (some n) =>
            if n < s.count then (s.setProgress pc .outside).enter pc one two
            else (true, if s.count = n then s.setProgress pc .outside else s)
        | .within none =>
            let (there, s) := s.isAt two
            (true, if there then s.setProgress pc .outside else s)
        | .outside => s.enter pc one two
  (here != c.negated, s)

end State

/-! ### Substituting -/

/-- How letters are changed: from now on, and the next one only. -/
structure Shift where
  always : Char
  once : Char

def shifted (how c : Char) : Char :=
  if how = 'U' || how = 'u' then c.toUpper else if how = 'L' || how = 'l' then c.toLower else c

/-- A text after changes of its letters. -/
def Shift.apply (x : Shift) (cs : List Char) : List Char × Shift :=
  match cs with
  | [] => ([], x)
  | c :: cs =>
      (shifted x.once (if x.once = ' ' then shifted x.always c else c) :: cs.map (shifted x.always),
        { x with once := ' ' })

def expansion (m : Regular.Match) (s : Regular.Subject) : Shift → List Part → List Char
  | _, [] => []
  | x, .text cs :: ps => let (out, x) := x.apply cs; out ++ expansion m s x ps
  | x, .group n :: ps =>
      let (out, x) := x.apply ((m.group? s n).getD [])
      out ++ expansion m s x ps
  | x, .shift c :: ps =>
      expansion m s (if c = 'E' then ⟨' ', ' '⟩ else if c = 'u' || c = 'l' then { x with once := c }
        else { x with always := c }) ps

/-- The characters from a place up to another one. -/
def between (s : Regular.Subject) (a b : Nat) : List Char := (s.text.extract a b).toList

/-- Makes a substitution from a place on.  A part that is empty and follows the one before it does
not count. -/
def substituteFrom (x : Substitution) (r : Regular) (s : Regular.Subject) :
    Nat → Nat → Nat → Option Nat → List Char × Bool
  | 0, start, _, _ => (between s start s.text.size, false)
  | fuel + 1, start, seen, before? =>
      match if start ≤ s.text.size then r.find? s start else none with
      | none => (between s start s.text.size, false)
      | some m =>
          let lead := between s start m.start
          let isEmpty := m.start = m.stop
          let skipped := isEmpty && before? = some m.start
          let seen := if skipped then seen else seen + 1
          let counts := !skipped && x.first ≤ seen
          let here := if counts then expansion m s ⟨' ', ' '⟩ x.parts else between s m.start m.stop
          if counts && !x.everywhere then
            (lead ++ here ++ between s m.stop s.text.size, true)
          else
            let passed := if isEmpty then between s m.stop (m.stop + 1) else []
            let (rest, more) := substituteFrom x r s fuel (if isEmpty then m.stop + 1 else m.stop)
              seen (some m.stop)
            (lead ++ here ++ passed ++ rest, counts || more)

/-! ### Listing -/

def listed (c : Char) : List Char :=
  match c with
  | '\\' => "\\\\".toList
  | '\x07' => "\\a".toList
  | '\x08' => "\\b".toList
  | '\x0c' => "\\f".toList
  | '\n' => "\\n".toList
  | '\r' => "\\r".toList
  | '\t' => "\\t".toList
  | '\x0b' => "\\v".toList
  | c =>
      if ' ' ≤ c && c ≤ '~' then [c]
      else
        let digit (k : Nat) : Char := Char.ofNat ('0'.toNat + k % 8)
        ['\\', digit (c.toNat / 64), digit (c.toNat / 8), digit c.toNat]

/-- A listing in lines of at most the given width. -/
def wrapped (width : Nat) : Nat → List (List Char) → List Char
  | _, [] => ['$', '\n']
  | used, x :: xs =>
      if 1 < width && width - 1 < used + x.length then
        '\\' :: '\n' :: x ++ wrapped width x.length xs
      else x ++ wrapped width (used + x.length) xs

/-! ### Commands -/

/-- What happens after a command. -/
inductive After where
  | onTo (pc : Nat)
  /-- The cycle ends as if the script did. -/
  | endCycle
  /-- The cycle ends, and nothing is printed. -/
  | newCycle
  /-- The script begins again with what is left. -/
  | restart
  /-- Everything ends, and what is in the space is printed unless that is not wanted. -/
  | stop (status : Nat) (silently : Bool)

/-- Where a block ends that is open to the given depth. -/
def blockEnd (script : Array Command) : Nat → Nat → Nat → Nat
  | 0, pc, _ => pc
  | fuel + 1, pc, depth =>
      match script[pc]? with
      | none => pc
      | some c =>
          match c.action with
          | .openBlock => blockEnd script fuel (pc + 1) (depth + 1)
          | .closeBlock => if depth = 1 then pc + 1 else blockEnd script fuel (pc + 1) (depth - 1)
          | _ => blockEnd script fuel (pc + 1) depth

/-- Where a label is. -/
def jump (script : Array Command) (name : String) : After :=
  match script.findIdx? fun c => match c.action with
    | .label n => n = name
    | _ => false with
  | some pc => .onTo pc
  | none => .endCycle

/-- Prints the space unless that is not wanted. -/
def autoPrint (x : Setting) (s : State) : State := if x.silent then s else s.print

/-- Carries out a command that is only a letter. -/
def performSimple (x : Setting) (pc : Nat) (s : State) (c : Char) : State × After :=
  let on (s : State) : State × After := (s, .onTo (pc + 1))
  let head := s.space.takeWhile (· ≠ '\n')
  let several := head.length < s.space.length
  match c with
  | '=' => on (s.writeRaw ((toString s.count ++ "\n").toList))
  | 'd' => (s, .newCycle)
  | 'D' =>
      if several then ({ s with space := s.space.drop (head.length + 1) }, .restart)
      else (s, .newCycle)
  | 'F' => on (s.writeRaw ((s.line.file ++ "\n").toList))
  | 'g' => on { s with space := s.hold }
  | 'G' => on { s with space := s.space ++ '\n' :: s.hold }
  | 'h' => on { s with hold := s.space }
  | 'H' => on { s with hold := s.hold ++ '\n' :: s.space }
  | 'x' => on { s with space := s.hold, hold := s.space }
  | 'z' => on { s with space := [] }
  | 'p' => on s.print
  | 'P' => on (s.write "" head true)
  | 'n' =>
      if s.input.isEmpty then (s, .stop 0 false)
      else
        match ((autoPrint x s).flush x.read).next? x.separate with
        | some s => on { s with space := s.line.text }
        | none => (s, .stop 0 false)
  | 'N' =>
      if s.input.isEmpty then (s, .stop 0 false)
      else
        match (s.flush x.read).next? x.separate with
        | some t => on { t with space := s.space ++ '\n' :: t.line.text }
        | none => (s, .stop 0 false)
  | _ => on s

/-- Carries out a command. -/
def perform (x : Setting) (pc : Nat) (s : State) (c : Command) : State × After :=
  let on (s : State) : State × After := (s, .onTo (pc + 1))
  match c.action with
  | .openBlock => on s
  | .closeBlock => on s
  | .label _ => on s
  | .substitute y =>
      match y.sought.regular?.or s.sought? with
      | none => on s
      | some r =>
          let subject : Regular.Subject := ⟨s.space.toArray, y.sought.fold⟩
          let (text, made) := substituteFrom y r subject (s.space.length + 2) 0 0 none
          let s := { s with sought? := some r }
          if !made then on s
          else
            let s := { s with space := text, changed := true }
            let s := if y.print then s.print else s
            on (match y.file? with
              | some path => s.write path s.space true
              | none => s)
  | .exchange table =>
      on { s with space := s.space.map fun c => (table.lookup c).getD c }
  | .append t => on { s with queue := s.queue ++ [.text t] }
  | .insert t => on (s.writeRaw t)
  | .change t =>
      let inside := match s.progress.lookup pc with
        | some (.within _) => c.second?.isSome && !c.negated
        | _ => false
      (if inside then s else s.writeRaw t, .newCycle)
  | .branch name => (s, if name = "" then .endCycle else jump x.script name)
  | .branchIf name =>
      if s.changed then
        ({ s with changed := false }, if name = "" then .endCycle else jump x.script name)
      else on s
  | .branchUnless name =>
      if s.changed then on { s with changed := false }
      else (s, if name = "" then .endCycle else jump x.script name)
  | .quit n => (s, .stop n false)
  | .quitSilently n => (s, .stop n true)
  | .readFile path => on { s with queue := s.queue ++ [.file path] }
  | .writeFile path => on (s.write path s.space true)
  | .writeFirst path => on (s.write path (s.space.takeWhile (· ≠ '\n')) true)
  | .list width? =>
      on (s.writeRaw (wrapped (width?.getD 70) 0 (s.space.map listed)))
  | .simple c => performSimple x pc s c

/-- Carries out a script from a command on, and gives the status that it leaves. -/
def runFrom (x : Setting) : Nat → Nat → State → State × Nat
  | 0, _, s => (s, 0)
  | fuel + 1, pc, s =>
      let nextLine (s : State) : State × Nat :=
        match s.next? x.separate with
        | some s => runFrom x fuel 0 { s with space := s.line.text, changed := false }
        | none => (s, 0)
      match x.script[pc]? with
      | none => nextLine ((autoPrint x s).flush x.read)
      | some c =>
          let (here, s) := s.selects pc c
          if !here then
            match c.action with
            | .openBlock => runFrom x fuel (blockEnd x.script x.script.size (pc + 1) 1) s
            | _ => runFrom x fuel (pc + 1) s
          else
            match perform x pc s c with
            | (s, .onTo pc) => runFrom x fuel pc s
            | (s, .endCycle) => nextLine ((autoPrint x s).flush x.read)
            | (s, .newCycle) => nextLine (s.flush x.read)
            | (s, .restart) => runFrom x fuel 0 (s.flush x.read)
            | (s, .stop n silently) =>
                (if silently then s else (autoPrint x s).flush x.read, n)

/-- The most commands that are carried out. -/
def commandMax : Nat := 2000000

/-- What comes of a script. -/
structure Result where
  /-- What is written. -/
  sinks : List Sink
  status : Nat
  /-- The number of lines that are not read. -/
  left : Nat

/-- **Carries out a script on lines.** -/
def run (x : Setting) (lines : List Entry) (paths : List String) : Result :=
  let sinks := ("" :: paths).map fun p => (⟨p, [], false⟩ : Sink)
  let start : State :=
    ⟨lines, 0, ⟨[], true, "-", false⟩, [], [], [], false, none, [], sinks⟩
  match start.next? x.separate with
  | none => ⟨sinks, 0, 0⟩
  | some s =>
      let (s, n) := runFrom x commandMax 0 { s with space := s.line.text }
      ⟨s.sinks, n, s.input.length⟩

/-- The files that a script writes to. -/
def pathsOf (cs : List Command) : List String :=
  (cs.filterMap fun c => match c.action with
    | .writeFile p => some p
    | .writeFirst p => some p
    | .substitute s => s.file?
    | _ => none).eraseDups.filter (· ≠ "/dev/stdout")

end BatchRunner.Editing
