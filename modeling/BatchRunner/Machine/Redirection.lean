/-
**Redirections.**

Main definitions:

* `Redirection`, `Redirection.expand` — a redirection whose target is known;
* `Host.redirectAll` — carries out redirections in order.
-/
import BatchRunner.Machine.Control
import BatchRunner.Machine.Program

set_option autoImplicit false

namespace BatchRunner

/-- A redirection whose target is known. -/
structure Redirection where
  fd : Nat
  op : String
  target : String
  deriving Repr

/-- Whether a text stands for a stream that is to get a second number, or for none. -/
def Redirection.isStream (target : String) : Bool :=
  match target.toList with
  | [c] => c = '-' || c.isDigit
  | _ => false

def Redirection.expand (rs : List Script.Redirect) : Expanding (List Redirection) :=
  rs.mapM fun r => do
    let target ← Expanding.single r.target
    if (r.op = "<&" || r.op = ">&") && !isStream target then
      throw (.late "Syntax error: Bad fd number")
    return ⟨r.fd, r.op, target⟩

namespace Host

/-- The file that a stream of a process is, opened anew; any other stream as it is. -/
def openOwn (w : Host) (p : Proc) (fd : Nat) (emptied : Bool) (h : Handle) (a : Access) :
    Except IoError (Stream × Host) :=
  match p.stream? fd with
  | none => .error (.os .noEntry)
  | some (.file n) =>
      match w.outer.handles[n]? with
      | some ⟨⟨.file id, _, _⟩, _⟩ =>
          let w := if emptied then w.withFiles (w.files.rewrite id []) else w
          let (n, w) := Host.openFile w { h with target := .file id } a
          .ok (.file n, w)
      | _ => .ok (.file n, w)
  | some s => .ok (s, w)

def openHandle (w : Host) (p : Proc) (emptied : Bool) (a : Access) (h : Handle) :
    Except IoError (Stream × Host) :=
  match h.target with
  | .file _ => let (n, w) := w.openFile h a; .ok (.file n, w)
  | .device (.own fd) => w.openOwn p fd emptied h a
  | .device d => .ok (.device d a, w)

def openToRead (w : Host) (p : Proc) (path : String) (a : Access) :
    Except IoError (Stream × Host) := do
  match ← w.files.stat p.cwd (Octets.unpack path) with
  | (_, .file id) => w.openHandle p false a ⟨.file id, 0, false⟩
  | (_, .device d) => w.openHandle p false a ⟨.device d, 0, false⟩
  | (_, _) => if a = .both then throw (.os .isDir) else return (.folder, w)

/-- Opens a path for writing.  A program that runs cannot be changed. -/
def openToWrite (w : Host) (p : Proc) (atEnd : Bool) (path : String) (a : Access) :
    Except IoError (Stream × Host) := do
  if let some (.file id) := w.files.found? p.cwd (Octets.unpack path) then
    if w.isRun id then throw (.os .textBusy)
  let (h, t) ← if atEnd then w.files.openAppend p.cwd (Octets.unpack path)
    else w.files.create p.cwd (Octets.unpack path)
  Host.openHandle (w.withFiles t) p (!atEnd) a h

/-- What is said about a path that cannot be opened. -/
def openComplaint (verb missing path : String) : IoError → String
  | .os e => verb ++ " " ++ path ++ ": " ++ (if Program.isMissing e then missing else e.text)
  | e => verb ++ " " ++ path ++ ": " ++ e.message

/-- The streams of a process with another one put in. -/
def swapped (p : Proc) (fd : Nat) (s : Stream) : Streams :=
  (fd, s) :: p.streams.filter fun x => x.1 ≠ fd

/-- A second number for a stream, or none for a dash. -/
def duplicate (w : Host) (p : Proc) (r : Redirection) : Except String (Host × Proc) :=
  if r.target = "-" then .ok (w, { p with streams := p.streams.filter fun s => s.1 ≠ r.fd })
  else
    match (r.target.toNat?).bind p.stream? with
    | some s => .ok (w, { p with streams := swapped p r.fd s })
    | none => .error (r.target ++ ": Bad file descriptor")

/-- Carries out a redirection, or says why it cannot be. -/
def redirect (w : Host) (p : Proc) (r : Redirection) : Except String (Host × Proc) :=
  let opened (x : Except IoError (Stream × Host)) (verb missing : String) :
      Except String (Host × Proc) :=
    match x with
    | .ok (s, w) => .ok (w, { p with streams := swapped p r.fd s })
    | .error e => .error (openComplaint verb missing r.target e)
  let isKept : Bool := p.shell.has 'C' && (w.files.fileAt? p.cwd (Octets.unpack r.target)).isSome
  match r.op with
  | "<&" => w.duplicate p r
  | ">&" => w.duplicate p r
  | "<<" =>
      let (n, w) := w.makePipe
      .ok (w.emit (.drain n) (Octets.bytes r.target),
        { p with streams := swapped p r.fd (.source n) })
  | "<" => opened (w.openToRead p r.target .reading) "cannot open" "No such file"
  | ">>" =>
      opened (w.openToWrite p true r.target .writing) "cannot create" "Directory nonexistent"
  | "<>" =>
      if w.files.isPresent p.cwd (Octets.unpack r.target) then
        opened (w.openToRead p r.target .both) "cannot create" "Directory nonexistent"
      else opened (w.openToWrite p false r.target .both) "cannot create" "Directory nonexistent"
  | op =>
      if op = ">" && isKept then .error (openComplaint "cannot create" "" r.target (.os .exist))
      else
        opened (w.openToWrite p false r.target .writing) "cannot create" "Directory nonexistent"

/-- **Carries out redirections in order**, or says what is wrong with the first that cannot be. -/
def redirectAll (w : Host) (p : Proc) : List Redirection → Except String (Host × Proc)
  | [] => .ok (w, p)
  | r :: rs => do
      let (w, p) ← w.redirect p r
      w.redirectAll p rs

end Host

end BatchRunner
