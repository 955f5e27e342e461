/-
**What the words of a script stand for.**

Values are put into a word from left to right.  Where the output of a script is wanted that has not
been run, the expansion stops; the script is run, and the expansion begins anew with its output.

Main definitions:

* `Shell.param?`, `Shell.assign` — the value of a parameter, and setting it;
* `Halt`, `Expanding` — why an expansion stops, and expansions;
* `Expanding.fields` — the arguments that words give: what is not quoted is split at blanks, and
  patterns are replaced by the names of files;
* `Expanding.wordsOf` — the same for a command, where assignments are not split;
* `Expanding.single` — the one text a word gives where nothing is split.
-/
import BatchRunner.Machine.Basic
import BatchRunner.Script.Arithmetic
import BatchRunner.Script.Pattern

set_option autoImplicit false

namespace BatchRunner

namespace Shell

def named? (s : Shell) (name : String) : Option Variable :=
  s.vars.find? fun v => v.name = name

def has (s : Shell) (letter : Char) : Bool := s.options.contains letter

def param? (s : Shell) (name : String) : Option String :=
  match name with
  | "@" => if s.args.isEmpty then none else some (" ".intercalate s.args)
  | "*" => if s.args.isEmpty then none else some (" ".intercalate s.args)
  | "#" => some (toString s.args.length)
  | "?" => some (toString s.status)
  | "$" => some (toString s.leader)
  | "!" => s.background.map toString
  | "0" => some s.name
  | "-" => some (String.ofList (s.options.filter fun o => ' ' ≤ o))
  | name =>
      if name ≠ "" ∧ name.toList.all Char.isDigit then s.args[(name.toNat?.getD 0) - 1]?
      else (s.named? name).bind Variable.value

/-- Puts a parameter in the place of the one with its name. -/
def put (s : Shell) (v : Variable) : Shell :=
  if (s.named? v.name).isSome then
    { s with vars := s.vars.map fun x => if x.name = v.name then v else x }
  else { s with vars := s.vars ++ [v] }

/-- Changes a parameter that can still be changed. -/
def alter (s : Shell) (name : String) (f : Variable → Variable) : Shell :=
  let v := (s.named? name).getD ⟨name, none, false, false⟩
  if v.fixed then s else s.put (f v)

/-- Sets a parameter.  One that can no longer be changed stays as it is.  The one that says which
argument is looked at next for options also starts that anew. -/
def assign (s : Shell) (name value : String) : Shell :=
  let s := s.alter name fun v => { v with value := some value, exported := v.exported || s.has 'a' }
  if name = "OPTIND" then
    { s with cursor := ⟨max 1 (if value.toList.all Char.isDigit then value.toNat?.getD 1 else 1),
        none⟩ }
  else s

def drop (s : Shell) (name : String) : Shell :=
  { s with vars := s.vars.filter fun v => v.name ≠ name }

def putBack (s : Shell) (saved : Saved) : Shell :=
  saved.foldl (fun s v => match v.2 with
    | some x => s.put x
    | none => s.drop v.1) s

def environment (s : Shell) : List (String × String) :=
  (s.vars.filter Variable.exported).filterMap fun v => v.value.map fun x => (v.name, x)

/-- What a script that is started sees of itself. -/
def fresh (env : List (String × String)) (leader : Nat) (name : String) (args : List String) :
    Shell where
  name := name
  args := args
  cursor := .start
  vars := (usual.filter fun v => (env.lookup v.1).isNone).map (fun v =>
      ⟨v.1, some v.2, false, false⟩)
    |>.append (env.map fun v => ⟨v.1, some (if v.1 = "IFS" then " \t\n" else v.2), true, false⟩)
  functions := []
  aliases := []
  dir := ""
  located := []
  options := []
  speaker := none
  frames := []
  traps := []
  status := 0
  leader := leader
  background := none
  jobs := []
  reached := 1
where
  /-- The parameters that every script has. -/
  usual : List (String × String) :=
    [("IFS", " \t\n"), ("OPTIND", "1"), ("PATH", usualPath), ("PS1", "# "), ("PS2", "> "),
      ("PS4", "+ ")]

/-- The home directories of the users of the machine. -/
def homes : List (String × String) :=
  [("root", "/root"), ("daemon", "/usr/sbin"), ("bin", "/bin"), ("sys", "/dev"), ("sync", "/bin"),
    ("games", "/usr/games"), ("man", "/var/cache/man"), ("lp", "/var/spool/lpd"),
    ("mail", "/var/mail"), ("news", "/var/spool/news"), ("uucp", "/var/spool/uucp"),
    ("proxy", "/bin"), ("www-data", "/var/www"), ("backup", "/var/backups"),
    ("list", "/var/list"), ("irc", "/run/ircd"), ("_apt", "/nonexistent"),
    ("nobody", "/nonexistent")]

/-- The directory that a tilde before the name of a user stands for. -/
def home? (s : Shell) (user : String) : Option String :=
  if user = "" then s.param? "HOME" else homes.lookup user

/-- The characters that words are split at. -/
def separators (s : Shell) : List Char :=
  ((s.param? "IFS").map String.toList).getD [' ', '\t', '\n']

end Shell

open Script (Marked)

/-- Why an expansion stops. -/
inductive Halt where
  /-- The output of a script is wanted, which sees the given shell. -/
  | output (line : Nat) (script : String) (shell : Shell)
  /-- Something is wrong, so that the script ends. -/
  | mistake (text : String)
  /-- The same for what should have been noticed when the script was read. -/
  | late (text : String)

/-- What an expansion changes and uses up. -/
structure Draft where
  shell : Shell
  /-- The outputs of scripts that have not been used. -/
  outputs : List Output

abbrev Expanding := StateT Draft (Except Halt)

/-- Arguments under construction: those that are complete, and the one that is not. -/
structure Fields where
  done : List (List Marked)
  open? : Option (List Marked)
  /-- Whether the last argument was ended by white space. -/
  blank : Bool

namespace Fields

def none : Fields := ⟨[], Option.none, false⟩

def add (f : Fields) (cs : List Marked) : Fields :=
  { f with open? := some (f.open?.getD [] ++ cs), blank := false }

def close (f : Fields) : Fields := { f with done := f.done ++ f.open?.toList, open? := Option.none }

/-- What stands between the arguments of a script where they are split one after the other. -/
def border : Char := '\x00'

/-- Whether a character is white space that words can be split at, or stands between arguments. -/
def isGap (c : Char) : Bool := c = ' ' || c = '\t' || c = '\n' || c = border

/-- Adds a character of a value that is split. -/
def addSplit (separators : List Char) (f : Fields) (c : Char) : Fields :=
  if !separators.contains c then f.add [(c, false)]
  else if isGap c then
    match f.open? with
    | some _ => { f.close with blank := true }
    | Option.none => f
  else
    match f.open?, f.blank with
    | some _, _ => { f.close with blank := false }
    | Option.none, true => { f with blank := false }
    | Option.none, false => { f with done := f.done ++ [[]] }

def split (separators : List Char) (f : Fields) (s : String) : Fields :=
  s.toList.foldl (addSplit separators) f

/-- Adds values that are split, and that are apart from each other. -/
def splitAll (separators : List Char) (f : Fields) (ss : List String) : Fields :=
  f.split (border :: separators) ((String.singleton border).intercalate ss)

/-- Adds values, each an argument of its own. -/
def addAll (f : Fields) : List (Fields → Fields) → Fields
  | [] => f
  | [a] => a f
  | a :: as => addAll (a f).close as

end Fields

namespace Expanding

/-- A text whose characters are quoted or not. -/
def mark (quoted : Bool) (s : String) : List Marked := s.toList.map fun c => (c, quoted)

/-- The characters of a text with marks. -/
def unmark (cs : List Marked) : String := String.ofList (cs.map Prod.fst)

def shell : Expanding Shell := return (← get).shell

def setShell (s : Shell) : Expanding Unit := modify fun d => { d with shell := s }

def wrong {α : Type} (text : String) : Expanding α := throw (.mistake text)

/-- Sets a parameter, unless it can no longer be changed. -/
def assign (name value : String) : Expanding Unit := do
  let s ← shell
  if (s.named? name).any Variable.fixed then wrong (name ++ ": is read only")
  setShell (s.assign name value)

/-- The value of a parameter that is used without a substitute. -/
def valueOf (name : String) : Expanding String := do
  let s ← shell
  match s.param? name with
  | some value => return value
  | none =>
      if s.has 'u' && name ≠ "@" && name ≠ "*" then wrong (name ++ ": parameter not set")
      return ""

def outputOf (line : Nat) (script : String) : Expanding String := do
  let d ← get
  match d.outputs with
  | [] => throw (.output line script d.shell)
  | s :: rest =>
      set { d with outputs := rest }
      return s.text

def addValue (splitting quoted : Bool) (s : String) (f : Fields) : Expanding Fields := do
  if quoted || !splitting then return f.add (mark quoted s)
  return f.split (← shell).separators s

/-- What stands between the arguments of the script where they are one text. -/
def between (s : Shell) : String :=
  match s.param? "IFS", s.separators with
  | none, _ => " "
  | some _, c :: _ => String.singleton c
  | some _, [] => ""

/-- Whether a parameter stands for all arguments of the script. -/
def isAll (name : String) : Bool := name = "@" || name = "*"

/-- The texts that the arguments of the script are: each one, or all of them as one. -/
def arguments (splitting quoted each : Bool) (s : Shell) : List String :=
  if !splitting || (quoted && !each) then [(between s).intercalate s.args] else s.args

/-- Adds texts that the arguments of the script have led to. -/
def addArguments (splitting quoted : Bool) (texts : List String) (f : Fields) :
    Expanding Fields := do
  let separators := (← shell).separators
  if quoted || !splitting then return f.addAll (texts.map fun a f => f.add (mark quoted a))
  else return f.splitAll separators texts

def addParam (splitting quoted : Bool) (name : String) (f : Fields) : Expanding Fields := do
  if isAll name then
    addArguments splitting quoted (arguments splitting quoted (name = "@") (← shell)) f
  else addValue splitting quoted (← valueOf name) f

/-- Whether a parameter has no value, or an empty one if that counts.  The arguments of the script
are always there. -/
def isMissing (splitting quoted : Bool) (name : String) (orEmpty : Bool) (s : Shell) : Bool :=
  if isAll name then
    let texts := arguments splitting quoted (name = "@") s
    orEmpty && (texts.isEmpty || texts = [""])
  else
    match s.param? name with
    | none => true
    | some value => orEmpty && value = ""

/-- The texts that the value of a parameter is, which is used without a substitute; none if it has
no value. -/
def textsOf? (splitting quoted : Bool) (name : String) : Expanding (Option (List String)) := do
  let s ← shell
  if isAll name then return some (arguments splitting quoted (name = "@") s)
  else
    let value ← valueOf name
    return (s.param? name).map fun _ => [value]

/-- Adds the value of a parameter that something is taken off. -/
def addTrimmed (splitting quoted : Bool) (name : String)
    (trim : List (List Char) → List (List Char)) (value : List String) (f : Fields) :
    Expanding Fields := do
  let texts := (trim (value.map String.toList)).map String.ofList
  if isAll name then addArguments splitting quoted texts (if quoted then f.add [] else f)
  else addValue splitting quoted (texts.headD "") f

/-- Where in a word a tilde stands for a directory. -/
structure Tildes where
  /-- At the start. -/
  first : Bool
  /-- Behind each colon. -/
  later : Bool

namespace Tildes

/-- Nowhere. -/
def never : Tildes := ⟨false, false⟩

/-- At the start of an argument. -/
def leading : Tildes := ⟨true, false⟩

/-- In each path of a value that is assigned. -/
def paths : Tildes := ⟨true, true⟩

/-- Replaces a tilde at the start of a text, and the name of a user behind it, by a directory.  The
text says how it begins and how it goes on; the beginning is quoted.  The name has to be complete:
a slash ends it, and so does the end of the text if that is one of the word as well. -/
def resolve (s : Shell) (complete : Bool) : List Char → List (String × Bool)
  | '~' :: cs =>
      let user := cs.takeWhile (· ≠ '/')
      let rest := cs.dropWhile (· ≠ '/')
      match s.home? (String.ofList user), complete || !rest.isEmpty with
      | some home, true => [(home, true), (String.ofList rest, false)]
      | _, _ => [(String.ofList ('~' :: cs), false)]
  | cs => [(String.ofList cs, false)]

/-- The parts of a text with the tildes replaced, and whether they are quoted.  With `last`, no
piece of the word follows. -/
def parts (t : Tildes) (s : Shell) (last : Bool) (text : String) : List (String × Bool) :=
  let at? (possible complete : Bool) (part : String) : List (String × Bool) :=
    if possible then resolve s complete part.toList else [(part, false)]
  if t.later then
    match text.splitOn ":" with
    | [] => []
    | part :: rest =>
        at? t.first (last || !rest.isEmpty) part ++ behind at? rest
  else at? t.first last text
where
  /-- The parts behind colons. -/
  behind (at? : Bool → Bool → String → List (String × Bool)) :
      List String → List (String × Bool)
    | [] => []
    | part :: rest => (":", false) :: at? true (last || !rest.isEmpty) part ++ behind at? rest

end Tildes

mutual

/-- Adds a piece of a word to arguments.  Text within a word that takes the place of a value is
split as that would be.  With `last`, no piece of the word follows. -/
def addPiece (splitting inner : Bool) (t : Tildes) (last : Bool) :
    Script.Piece → Fields → Expanding Fields
  | .text s true, f => return f.add (mark true s)
  | .text s false, f => do
      (t.parts (← shell) last s).foldlM (fun f (s, quoted) =>
        if inner && !quoted then addValue splitting false s f
        else return f.add (mark quoted s)) f
  | .param name quoted, f => addParam splitting quoted name f
  | .length name quoted, f => do
      addValue splitting quoted (toString (← valueOf name).length) f
  | .output line script quoted _, f => do
      addValue splitting quoted (← outputOf line script) f
  | .sum word quoted, f => do
      let g ← addPieces false false .never word Fields.none
      let s ← shell
      match Script.Arithmetic.evaluate s.param? (unmark (g.open?.getD [])) with
      | .error text => wrong text
      | .ok (n, assigned) =>
          assigned.reverse.forM fun a => assign a.1 (toString a.2)
          addValue splitting quoted (toString n) f
  | .changed name quoted change orEmpty word, f => do
      let s ← shell
      let missing := isMissing splitting quoted name orEmpty s
      let within : Tildes := if quoted then .never else ⟨true, t.later⟩
      match change with
      | .instead =>
          if missing then addPieces splitting (!quoted) within word f
          else addParam splitting quoted name f
      | .whenSet => if missing then return f else addPieces splitting (!quoted) within word f
      | .assign =>
          if !missing then addParam splitting quoted name f
          else
            let g ← addPieces false false .leading word Fields.none
            let value := unmark (g.open?.getD [])
            if !Script.isName name then wrong "Bad substitution"
            assign name value
            addValue splitting quoted value f
      | .require =>
          if !missing then addParam splitting quoted name f
          else
            let g ← addPieces false false .leading word Fields.none
            let text := unmark (g.open?.getD [])
            wrong (name ++ ": " ++
              (if word.isEmpty then
                (if orEmpty then "parameter not set or null" else "parameter not set") else text))
      | .dropEnd longest =>
          match ← textsOf? splitting quoted name with
          | none => addValue splitting quoted "" f
          | some value =>
              let g ← addPieces false false .leading word Fields.none
              let p := Script.Pattern.ofMarked (g.open?.getD [])
              addTrimmed splitting quoted name (Script.Pattern.dropEndOfAll longest p) value f
      | .dropStart longest =>
          match ← textsOf? splitting quoted name with
          | none => addValue splitting quoted "" f
          | some value =>
              let g ← addPieces false false .leading word Fields.none
              let p := Script.Pattern.ofMarked (g.open?.getD [])
              addTrimmed splitting quoted name (Script.Pattern.dropStartOfAll longest p) value f
  | .broken, _ => wrong "Bad substitution"

def addPieces (splitting inner : Bool) (t : Tildes) : List Script.Piece → Fields → Expanding Fields
  | [], f => return f
  | p :: ps, f => do
      let f ← addPiece splitting inner t ps.isEmpty p f
      addPieces splitting inner ⟨false, t.later⟩ ps f

end

/-- The text a word gives where nothing is split, with the marks of its characters. -/
def markedWith (t : Tildes) (w : Script.Word) : Expanding (List Marked) := do
  return ((← addPieces false false t w Fields.none).open?).getD []

/-- The text a word gives where nothing is split, with the marks of its characters. -/
def marked (w : Script.Word) : Expanding (List Marked) := markedWith .leading w

/-- **The one text a word gives where nothing is split.** -/
def single (w : Script.Word) : Expanding String := return unmark (← marked w)

/-- The value that a word gives a parameter. -/
def assigned (w : Script.Word) : Expanding String := return unmark (← markedWith .paths w)

/-! ### Names of files -/

/-- The parts of a text between slashes. -/
def components : List Marked → List (List Marked)
  | [] => [[]]
  | (c, q) :: cs =>
      if c = '/' then [] :: components cs
      else
        match components cs with
        | part :: parts => ((c, q) :: part) :: parts
        | [] => [[(c, q)]]

/-- The names in the directory that a path leads to. -/
def namesIn (t : FileTree) (cwd : Place) (path : String) : List String :=
  match t.namesIn cwd (if path = "" then "." else Octets.unpack path) with
  | .ok names => "." :: ".." :: names.map Octets.pack
  | .error _ => []

/-- The paths that fit patterns for the parts of a path, behind a path that is given. -/
def paths (t : FileTree) (cwd : Place) : List (List Marked) → String → List String
  | [], path => [path]
  | part :: parts, path =>
      let p := Script.Pattern.ofMarked part
      let found :=
        if Script.Pattern.isOpen p then
          (namesIn t cwd path).filter fun n =>
            Script.Pattern.fits p n.toList
              && (n.toList.head? ≠ some '.' || p.head? = some (.char '.'))
        else [unmark part]
      found.flatMap fun n =>
        if parts.isEmpty then
          match t.locate cwd .entry (Octets.unpack (path ++ (if n = "" then "." else n))) with
          | .ok (.node _ _) => [path ++ n]
          | _ => []
        else if n = "" || t.isDir cwd (Octets.unpack (path ++ n ++ "/.")) then
          paths t cwd parts (path ++ n ++ "/")
        else []

/-- The names of files that an argument stands for; itself if there are none. -/
def filesFor (t : FileTree) (cwd : Place) (plain : Bool) (field : List Marked) : List String :=
  if plain || !Script.Pattern.isOpen (Script.Pattern.ofMarked field) then [unmark field]
  else
    match paths t cwd (components (Script.Pattern.escaped field)) "" with
    | [] => [unmark field]
    | found => Octets.sorted found

def fieldsOf (t : FileTree) (cwd : Place) (w : Script.Word) : Expanding (List String) := do
  let f ← addPieces true false .leading w Fields.none
  let plain := (← shell).has 'f'
  return f.close.done.flatMap (filesFor t cwd plain)

/-- **The arguments that words give.** -/
def fields (t : FileTree) (cwd : Place) : List Script.Word → Expanding (List String)
  | [] => return []
  | w :: ws => do
      let here ← fieldsOf t cwd w
      return here ++ (← fields t cwd ws)

/-- The commands whose arguments are read as assignments. -/
def declarers : List String := ["alias", "export", "local", "readonly"]

/-- Whether the words of a command that are known say that assignments follow. -/
def declares : List String → Bool
  | "command" :: "-p" :: rest => declares ("command" :: rest)
  | "command" :: "--" :: name :: _ => declarers.contains name
  | "command" :: rest => declares rest
  | name :: _ => declarers.contains name
  | [] => false
termination_by words => words.length

/-- The name before the equals sign of a word that looks like an assignment, and its value. -/
def assignment? : Script.Word → Option (String × Script.Word)
  | .text s false :: ps =>
      let name := String.ofList (s.toList.takeWhile Script.isNameChar)
      match s.toList.dropWhile Script.isNameChar with
      | '=' :: rest =>
          if !Script.isName name then none
          else some (name, if rest.isEmpty then ps else .text (String.ofList rest) false :: ps)
      | _ => none
  | _ => none

/-- The words of a command, behind those that are known.  Where assignments follow, their values
are not split. -/
def wordsOf (t : FileTree) (cwd : Place) (known : List String) :
    List Script.Word → Expanding (List String)
  | [] => return known
  | w :: ws => do
      let here ← match declares known, assignment? w with
        | true, some (name, value) => pure [name ++ "=" ++ (← assigned value)]
        | _, _ => fieldsOf t cwd w
      wordsOf t cwd (known ++ here) ws

end Expanding

end BatchRunner
