/-
**Editing files line by line.**

A utility carries out an editing script on the lines of files, or of standard input.  It prints what
comes out, or puts that in the place of each file.

Main definitions:

* `Utility.EditJob`, `Utility.editJob` — what the arguments ask for;
* `Utility.edit` — the utility;
* `Utility.editDone` — whether a script ends before its input does.
-/
import BatchRunner.Machine.Utility.Text
import BatchRunner.Text.Editing

set_option autoImplicit false

namespace BatchRunner.Utility

/-- What the arguments of the editor ask for. -/
structure EditJob where
  script : List Editing.Command
  silent : Bool
  separate : Bool
  /-- Set if each file is replaced; what is added to the name of the old one, if it is kept. -/
  inPlace? : Option String
  files : List String

def editOptions : List Opt :=
  [⟨'n', "quiet", .nothing⟩, ⟨'n', "silent", .nothing⟩, ⟨'e', "expression", .value⟩, ⟨'f', "file", .value⟩,
    ⟨'E', "regexp-extended", .nothing⟩, ⟨'r', "", .nothing⟩, ⟨'s', "separate", .nothing⟩,
    ⟨'u', "unbuffered", .nothing⟩, ⟨'z', "null-data", .nothing⟩, ⟨'l', "line-length", .value⟩,
    ⟨'p', "posix", .nothing⟩]

/-- Arguments without the option to replace files, and what is added to the names of old ones. -/
def withoutInPlace : List String → List String × Option String
  | [] => ([], none)
  | "--" :: as => ("--" :: as, none)
  | a :: as =>
      let (rest, later) := withoutInPlace as
      match a.toList with
      | '-' :: cs =>
          let before := cs.takeWhile fun c => ['n', 'E', 'r', 's', 'u', 'z'].contains c
          match cs.drop before.length with
          | 'i' :: suffix =>
              (if before.isEmpty then rest else String.ofList ('-' :: before) :: rest,
                later.or (some (String.ofList suffix)))
          | _ =>
              if a = "--in-place" then (rest, later.or (some ""))
              else if a.startsWith "--in-place=" then
                (rest, later.or (some (String.ofList (a.toList.drop 11))))
              else (a :: rest, later)
      | _ => (a :: rest, later)

/-- The pieces of a script, and what stands for each in complaints. -/
def scriptPieces (w : Host) (p : Proc) (os : List (Char × String)) :
    Except String (List (String × Option String) × Host) :=
  os.foldlM (fun (pieces, w) o =>
    if o.1 = 'e' then .ok (pieces ++ [(o.2, none)], w)
    else
      match contents w p o.2 with
      | .ok (b, w) => .ok (pieces ++ [(Octets.ofBytes b, some o.2)], w)
      | .error e => .error ("couldn't open file " ++ o.2 ++ ": " ++ reason e))
    (([] : List (String × Option String)), w)

/-- What is said about a fault in a script. -/
def faultText (pieces : List (String × Option String)) (n left : Nat) (text : String) : String :=
  match pieces[n - 1]? with
  | some (script, some file) =>
      let line := ((script.toList.take left).filter (· = '\n')).length + 1
      "file " ++ file ++ " line " ++ toString line ++ ": " ++ text
  | _ => "-e expression #" ++ toString n ++ ", char " ++ toString left ++ ": " ++ text

/-- What the arguments of the editor ask for, or a complaint and the status that it leaves. -/
def editJob (w : Host) (p : Proc) (args : List String) :
    Except (String × Nat) (EditJob × Host) := do
  let (args, inPlace?) := withoutInPlace args
  let bad {α : Type} (x : Except String α) (status : Nat) : Except (String × Nat) α :=
    x.mapError fun text => (text, status)
  let g ← bad (parse editOptions true args) 1
  let os := g.options.filter fun o => o.1 = 'e' || o.1 = 'f'
  let (os, files) := match os, g.operands with
    | [], text :: files => ([('e', text)], files)
    | os, files => (os, files)
  if os.isEmpty then throw ("no script", 1)
  let (pieces, w) ← bad (scriptPieces w p os) 4
  let script ← (Editing.parse (g.has 'E' || g.has 'r') (pieces.map Prod.fst)).mapError
    fun (n, left, text) => (faultText pieces n left text, 1)
  if Editing.seeksNothing script then
    throw (faultText pieces 1 0 "no previous regular expression", 1)
  match Editing.missingLabel? script with
  | some name => throw ("can't find label for jump to \x60" ++ name ++ "'", 4)
  | none =>
      let first := (pieces.head?.map Prod.fst).getD ""
      let silent := g.has 'n' || first = "#n" || first.startsWith "#n\n"
      return (⟨script, silent, g.has 's' || inPlace?.isSome, inPlace?, files⟩, w)

def editEntries (file : String) (isLastFile : Bool) (b : Bytes) : List Editing.Entry :=
  let ls := Lines.split b
  ls.zipIdx.map fun (l, i) =>
    ⟨(Lines.body l).map Octets.char, (Lines.body l).length < l.length, file,
      isLastFile && i + 1 = ls.length⟩

def EditJob.setting (j : EditJob) (w : Host) (p : Proc) : Editing.Setting where
  script := j.script.toArray
  silent := j.silent
  read path := ((w.files.readBytes p.cwd (Octets.unpack path)).toOption.getD []).map Octets.char
  separate := j.separate

def writeSinks (p : Proc) (sinks : List Editing.Sink) (w : Host) : Host :=
  sinks.foldl (fun w k =>
    if k.path = "" then w
    else
      match w.files.writeFile p.cwd (Octets.unpack k.path) (k.text.map Octets.byte) with
      | .ok t => w.withFiles t
      | .error e => grumble w p ("couldn't open file " ++ k.path ++ ": " ++ reason e)) w

def printedBy (sinks : List Editing.Sink) : Bytes :=
  ((sinks.find? fun k => k.path = "").map fun k => k.text.map Octets.byte).getD []

/-- The lines of files, one file after the other, and the status that is left by those that cannot
be read. -/
def editInput (p : Proc) (separate : Bool) : List String → Host → List Editing.Entry × Nat × Host
  | [], w => ([], 0, w)
  | a :: as, w =>
      match contents w p a with
      | .ok (b, w) =>
          let (rest, status, w) := editInput p separate as w
          (editEntries a (separate || rest.isEmpty) b ++ rest, status, w)
      | .error e =>
        if a = "-" || e = .os .isDir then
          ([], 4, grumble w p ("read error on " ++ (if a = "-" then "stdin" else a) ++ ": "
            ++ reason e))
        else
          let (rest, status, w) :=
            editInput p separate as (grumble w p ("can't read " ++ a ++ ": " ++ reason e))
          (rest, max status 2, w)

/-- Puts what comes out of a file in its place. -/
def replaceFile (w : Host) (p : Proc) (suffix path : String) (f : File) (b : Bytes) :
    Except IoError FileTree := do
  let name := Octets.unpack path
  let t ← if suffix = "" then w.files.unlink p.cwd name
    else
      let kept := if suffix.contains '*' then
        suffix.replace "*" path else path ++ suffix
      w.files.rename p.cwd name (Octets.unpack kept)
  let t ← t.writeFile p.cwd name b
  t.setMode p.cwd name f.mode

def editInPlace (j : EditJob) (p : Proc) (suffix : String) : List String → Nat → Host → Host
  | [], status, w => w.settle p status
  | a :: as, status, w =>
      match w.files.found? p.cwd (Octets.unpack a) with
      | some (.file id) =>
          match w.files.file? id with
          | none => editInPlace j p suffix as status w
          | some f =>
              let r := Editing.run (j.setting w p) (editEntries a true f.bytes)
                (Editing.pathsOf j.script)
              let w := writeSinks p r.sinks w
              match replaceFile w p suffix a f (printedBy r.sinks) with
              | .ok t =>
                  if r.status ≠ 0 || r.left ≠ 0 then Host.settle (w.withFiles t) p r.status
                  else editInPlace j p suffix as status (w.withFiles t)
              | .error e =>
                  (grumble w p ("couldn't open temporary file: " ++ reason e)).settle p 4
      | some _ =>
          editInPlace j p suffix as 4
            (grumble w p ("couldn't edit " ++ a ++ ": not a regular file"))
      | none =>
          editInPlace j p suffix as (max status 2)
            (grumble w p ("can't read " ++ a ++ ": No such file or directory"))

/-- **Edits lines.** -/
def edit (w : Host) (p : Proc) (args : List String) : Host :=
  match editJob w p args with
  | .error (text, status) => (grumble w p text).settle p status
  | .ok (j, w) =>
      match j.inPlace? with
      | some suffix =>
          if j.files.isEmpty then (grumble w p "no input files").settle p 4
          else editInPlace j p suffix j.files 0 w
      | none =>
          let empties := (Editing.pathsOf j.script).map fun path =>
            (⟨path, [], false⟩ : Editing.Sink)
          let w := writeSinks p empties w
          let (lines, status, w) := editInput p j.separate
            (if j.files.isEmpty then ["-"] else j.files) w
          let r := Editing.run (j.setting w p) lines (Editing.pathsOf j.script)
          let w := writeSinks p r.sinks w
          Host.write w (p.withStatus (if r.status = 0 then status else r.status))
            (printedBy r.sinks)

/-- Whether the editor reads standard input. -/
def editReads (args : List String) : Bool :=
  match parse editOptions true (withoutInPlace args).1 with
  | .error _ => false
  | .ok g =>
      let given := g.options.any fun o => o.1 = 'e' || o.1 = 'f'
      let files := if given then g.operands else g.operands.tail
      (withoutInPlace args).2.isNone && (files.isEmpty && (given || !g.operands.isEmpty)
        || files.any isInput)

/-- Whether a script ends the work before the input ends that has been read so far. -/
def editDone (w : Host) (p : Proc) (args : List String) (b : Bytes) : Bool :=
  match editJob w p args with
  | .error _ => false
  | .ok (j, w) =>
      let quits := j.script.any fun c => match c.action with
        | .quit _ => true
        | .quitSilently _ => true
        | _ => false
      let whole := (editEntries "-" false b).filter Editing.Entry.ended
      let more : Editing.Entry := ⟨[], true, "-", false⟩
      quits && (Editing.run (j.setting w p) (whole ++ [more]) (Editing.pathsOf j.script)).left ≠ 0

end BatchRunner.Utility
