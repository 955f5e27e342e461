/-
**Finding and loading programs.**

A name without a slash is looked for in the directories of a search path.  A program is either one
of the machine's own utilities, or a script that names its interpreter in its first line.

Main definitions:

* `Program.image` — what a file is as a program;
* `Program.execute` — the utility that the file at a path ends up at, and the arguments it gets;
* `Program.resolve`, `Program.resolveWithin` — the same for a command, whose program may have to be
  looked for, when it is launched and when a script runs it;
* `Program.standardFiles` — a file tree with the utilities in their places;
* `Host.library` — the files that programs are loaded from.
-/
import BatchRunner.Machine.Basic

set_option autoImplicit false

namespace BatchRunner.Program

def utilities : List String :=
  ["[", "base64", "basename", "cat", "chmod", "cmp", "comm", "cp", "cut", "dash", "dd", "dirname",
    "echo", "env", "expr", "false", "find", "fold", "grep", "head", "id", "kill", "link", "ln",
    "ls", "mkdir", "mv", "nice", "nl", "nohup", "od", "paste", "printenv", "printf", "pwd",
    "readlink", "realpath", "rev", "rm", "rmdir", "sed", "seq", "setsid", "sh", "sleep", "sort",
    "sync", "tac", "tail", "tee", "test", "timeout", "touch", "tr", "true", "truncate", "tty",
    "uname", "uniq", "unlink", "wc", "which", "whoami", "xargs", "yes"]

/-- What a file is as a program. -/
inductive Image where
  | utility (name : String)
  | script (interpreter : String) (argument : Option String)
  deriving DecidableEq, Repr

/-- How the file of a utility begins. -/
def magic : Bytes := [0x7f, 0x45, 0x4c, 0x46]

/-- How a script that names its interpreter begins. -/
def interpreterMark : Bytes := [0x23, 0x21]

/-- How much of a file is looked at to find its interpreter. -/
def interpreterReach : Nat := 256

/-- Whether a byte separates an interpreter from its argument. -/
def isGap (b : UInt8) : Bool := b = 32 || b = 9

/-- Bytes up to the first that is zero. -/
def untilZero (bs : Bytes) : Bytes := bs.takeWhile fun b => b ≠ 0

/-- Whether a byte ends the name of an interpreter. -/
def isTerminator (b : UInt8) : Bool := isGap b || b = 0

/-- The interpreter and its argument, from the rest of a first line.  An argument that begins with a
zero is empty. -/
def interpreterLine (bs : Bytes) : Option Image := do
  let bs := ((bs.dropWhile isGap).reverse.dropWhile isGap).reverse
  if bs.isEmpty then none
  let name := bs.takeWhile fun b => !isTerminator b
  let argument? := match bs.drop name.length with
    | [] => none
    | b :: rest => if b = 0 then none else some (untilZero (rest.dropWhile isGap))
  return .script (Octets.ofBytes name) (argument?.map Octets.ofBytes)

/-- The first line behind the mark of a script, as far as it is looked at.  Behind the end of a file
there are zeros, and behind a zero no end of a line is looked for.  A line without an end counts only
if the interpreter ends before what is looked at does. -/
def firstLine? (bytes : Bytes) : Option Bytes :=
  let seen := ((bytes.take interpreterReach) ++ List.replicate (interpreterReach - bytes.length) 0)
    |>.drop interpreterMark.length
  let line := seen.takeWhile fun b => b ≠ 10 && b ≠ 0
  if (seen.drop line.length).head? = some 10 then some line
  else if (seen.dropWhile isGap).any isTerminator then some seen.dropLast
  else none

/-- What contents are as a program. -/
def image (bytes : Bytes) : Except Errno Image :=
  if magic.isPrefixOf bytes then
    match (textOf? (bytes.drop magic.length)).filter utilities.contains with
    | some name => .ok (.utility name)
    | none => .error .badImage
  else if interpreterMark.isPrefixOf bytes then
    match (firstLine? bytes).bind interpreterLine with
    | some i => .ok i
    | none => .error .badImage
  else .error .badImage

/-- The system's part of a failure. -/
def errnoOf : IoError → Errno
  | .os e => e
  | _ => .noEntry

def argumentMax : Nat := 131071

/-- The files that programs are loaded from. -/
structure Library where
  files : FileTree
  /-- The files that are open for writing.  They are not run. -/
  written : List Nat

/-- A program that has been found: the utility that does its work, the arguments it gets, and the
file that the utility is in. -/
structure Found where
  utility : String
  argv : List String
  file : Nat
  deriving Repr

/-- Loads the program at a path: the file it is in, and what it is. -/
def load (l : Library) (cwd : Place) (path : String) (argv : List String) :
    Except Errno (Nat × Image) :=
  let found := if path = "" then .error (.os .denied) else l.files.stat cwd (Octets.unpack path)
  match found with
  | .error e => .error (errnoOf e)
  | .ok (_, .file id) =>
      let f := (l.files.file? id).getD ⟨0, [], 0⟩
      if !Right.pass.isIn f.mode then .error .denied
      else if l.written.contains id then .error .textBusy
      else if argv.any fun a => argumentMax < a.length then .error .tooLong
      else (image f.bytes).map fun i => (id, i)
  | .ok (_, _) => .error .denied

/-- The largest number of interpreters on the way to a utility. -/
def interpreterMax : Nat := 5

def follow (l : Library) (cwd : Place) (argv : List String) : Nat → String × Nat × Image →
    Except Errno Found
  | _, (_, id, .utility name) => .ok ⟨name, argv, id⟩
  | 0, _ => .error .linkLoop
  | n + 1, (path, _, .script interpreter argument) =>
      let argv' := interpreter :: argument.toList ++ path :: argv.tail
      match load l cwd interpreter argv' with
      | .error e => .error e
      | .ok i => follow l cwd argv' n (interpreter, i)

/-- **The utility that the file at a path ends up at**, and the arguments it gets. -/
def execute (l : Library) (cwd : Place) (argv : List String) (path : String) :
    Except Errno Found := do
  follow l cwd argv interpreterMax (path, ← load l cwd path argv)

/-! ### Search paths -/

/-- The paths that a name without a slash may stand for.  An empty directory is the current one. -/
def candidates (searchPath name : String) : List String :=
  (searchPath.splitOn ":").map fun d => if d = "" then name else d ++ "/" ++ name

/-- The paths that a name stands for when it is launched.  A directory too long for any path counts
as the current one, and if it comes last as none. -/
def launchCandidates (searchPath name : String) : List String :=
  let dirs := searchPath.splitOn ":"
  let dirs := if dirs.getLast?.any isTooLong then dirs.dropLast else dirs
  dirs.map fun d => if d = "" || isTooLong d then name else d ++ "/" ++ name
where
  /-- Whether a directory is too long for any path. -/
  isTooLong (d : String) : Bool := pathMax ≤ d.length

/-- The search path where none is given. -/
def plainPath : String := "/bin:/usr/bin"

/-- Tries paths in order.  A program that may not be run does not end the search, but is what is
said when it finds nothing else; other failures than that and missing files end it. -/
def search (l : Library) (cwd : Place) (argv : List String) (denied : Bool) (last : Errno) :
    List String → Except Errno Found
  | [] => .error (if denied then .denied else last)
  | path :: paths =>
      match execute l cwd argv path with
      | .ok found => .ok found
      | .error e =>
          if e = .denied then search l cwd argv true e paths
          else if e = .noEntry ∨ e = .notDir then search l cwd argv denied e paths
          else .error e

/-- **The utility a command ends up at, and its arguments.** -/
def resolve (l : Library) (cwd : Place) (path? : Option String) (argv : List String) :
    Except Errno Found :=
  let name := argv.headD ""
  if name = "" then .error .noEntry
  else if name.toList.contains '/' then execute l cwd argv name
  else if nameMax < name.length then .error .nameTooLong
  else search l cwd argv false .noEntry (launchCandidates (path?.getD plainPath) name)

/-- The interpreter of scripts that do not name one. -/
def usualInterpreter : String := "/bin/sh"

/-- What the file at a path ends up at when a script runs it.  A file that is no program by itself
is run as a script. -/
def executeWithin (l : Library) (cwd : Place) (argv : List String) (path : String) :
    Except Errno Found :=
  match execute l cwd argv path with
  | .error e =>
      if e = .badImage then
        execute l cwd (usualInterpreter :: path :: argv.tail) usualInterpreter
      else .error e
  | found => found

/-- Whether a failure means that there is no such file. -/
def isMissing (e : Errno) : Bool := e = .noEntry || e = .notDir

/-- Tries paths in order, as a script does.  The last failure counts that is not for a missing
file. -/
def searchWithin (l : Library) (cwd : Place) (argv : List String) (last : Errno) :
    List String → Except Errno Found
  | [] => .error last
  | path :: paths =>
      match executeWithin l cwd argv path with
      | .ok found => .ok found
      | .error e => searchWithin l cwd argv (if isMissing e then last else e) paths

/-- Why a script cannot run a program, and the status it then has. -/
structure Refusal where
  text : String
  status : Nat
  deriving Repr

def Refusal.ofErrno (e : Errno) : Refusal where
  text := if isMissing e then "not found" else e.text
  status := if isMissing e || e = .linkLoop || e = .nameTooLong then 127 else 126

/-- **The utility that a command of a script ends up at, and its arguments.** -/
def resolveWithin (l : Library) (cwd : Place) (searchPath : String) (argv : List String) :
    Except Refusal Found :=
  let name := argv.headD ""
  if name.toList.contains '/' then (executeWithin l cwd argv name).mapError Refusal.ofErrno
  else
    let paths := candidates searchPath name
    let kinds := paths.map fun path => l.files.stat cwd (Octets.unpack path)
    let isFile := kinds.any fun k => match k with
      | .ok (_, .file _) => true
      | _ => false
    if isFile then (searchWithin l cwd argv .noEntry paths).mapError Refusal.ofErrno
    else
      let last := kinds.foldl (fun last k => match k with
        | .ok _ => .denied
        | .error e => if isMissing (errnoOf e) then last else errnoOf e) Errno.noEntry
      .error { Refusal.ofErrno last with status := 127 }

/-! ### Utilities -/

def utilityFile (name : String) : File := ⟨0o755, magic ++ bytesOf name, 0⟩

def devices : List (String × Device) :=
  [("full", .full), ("null", .null), ("random", .zero), ("stderr", .own 2), ("stdin", .own 0),
    ("stdout", .own 1), ("urandom", .zero), ("zero", .zero)]

/-- The directories that the system keeps for itself. -/
def seals : List Seal :=
  [⟨["proc"], .noEntry, .noEntry⟩, ⟨["sys"], .notPermitted, .denied⟩]

/-- A file tree with the utilities in their places, and an empty directory to work in, at a time. -/
def standardFiles (cwd : Place) (now : Nat) : FileTree :=
  let tools := Node.dir (utilities.zipIdx.map fun (u, n) => (u, .file n))
  let empty (names : List String) : List (String × Node) := names.map fun n => (n, .dir [])
  let usr := Node.dir ([("bin", tools)] ++ empty ["lib", "local", "sbin", "share"])
  let fds := Node.dir ((List.range 10).map fun n => (toString n, .device (.own n)))
  let dev := Node.dir (devices.map (fun (n, d) => (n, .device d))
    ++ [("fd", fds), ("shm", .dir [])])
  let root := Node.dir ([("bin", .link "usr/bin"), ("dev", dev), ("lib", .link "usr/lib"),
    ("sbin", .link "usr/sbin"), ("usr", usr)] ++ empty ["boot", "etc", "home", "media", "mnt",
      "opt", "proc", "root", "run", "srv", "sys", "tmp", "var"])
  let withDir (x : Node) (place : Place) : Node :=
    if (x.find? place).isSome then x else Node.put (.dir []) place x
  { root := (List.range cwd.length).foldl (fun x n => withDir x (cwd.take (n + 1))) root
    cwd := cwd
    files := utilities.map utilityFile
    seals := seals
    dirs := []
    mask := usualMask
    now := now
    moves := [] }

end BatchRunner.Program

namespace BatchRunner.Host

/-- The files that programs are loaded from on a machine. -/
def library (w : Host) : Program.Library := ⟨w.files, w.writtenFiles⟩

end BatchRunner.Host
