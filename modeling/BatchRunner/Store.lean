/-
**The artifact store.**

Each job has one artifact, a file below the output root that is named for the job.  A file with
contents says that the job has been attempted.

Main definitions:

* `Store` — an output root;
* `Store.artifact` — the path of a job's artifact;
* `Store.prepare`, `Store.clean` — making the output root usable, and removing it;
* `Store.holds`, `Store.writePlaceholder`, `Store.openForWrite` — asking for an artifact, settling
  one that is not to be computed, and opening one to be written.
-/
import BatchRunner.Fault
import BatchRunner.Files.Operations

set_option autoImplicit false

namespace BatchRunner

/-- What stands in the artifact of a job that is known not to finish. -/
def placeholderText : String := "predicted unscalable."

/-- The directory that holds the artifacts. -/
structure Store where
  root : String
  deriving DecidableEq, Repr

namespace Store

def artifactName (job : Job) : String :=
  job.program.token ++ "_" ++ job.variant.token ++ ".o"

def artifact (s : Store) (job : Job) : String := Path.join s.root (artifactName job)

/-- Makes the output root a directory, if it is not one yet; says whether it had to be made. -/
def prepare (s : Store) (t : FileTree) : Except StoreError Bool × FileTree :=
  if t.isDir t.cwd s.root then (.ok false, t)
  else if t.isPresent t.cwd s.root then (.error (.conflict s.root), t)
  else
    match t.makeDirAll t.cwd s.root with
    | (.ok (), t') => (.ok true, t')
    | (.error e, t') => (.error (.io s.root e), t')

/-- Removes the output root with everything in it; says whether there was anything to remove. -/
def clean (s : Store) (t : FileTree) : Except StoreError Bool × FileTree :=
  if t.isDir t.cwd s.root then
    match t.removeDirAll t.cwd s.root with
    | (.ok (), t') => (.ok true, t')
    | (.error e, t') => (.error (.io s.root e), t')
  else if t.isPresent t.cwd s.root then (.error (.conflict s.root), t)
  else (.ok false, t)

/-- Whether a job has been attempted: its artifact is a file with contents. -/
def holds (s : Store) (job : Job) (t : FileTree) : Bool :=
  t.isNonemptyFile t.cwd (s.artifact job)

/-- Settles the artifact of a job that is not to be run.  An artifact that is there already is left
alone; says whether the placeholder was written. -/
def writePlaceholder (s : Store) (job : Job) (t : FileTree) : Except StoreError Bool × FileTree :=
  match t.createNew t.cwd (s.artifact job) with
  | .ok (h, t') =>
      match t'.write h (bytesOf placeholderText) with
      | .ok (t'', _) => (.ok true, t'')
      | .error e => (.error (.io (s.artifact job) (.os e)), t')
  | .error (.os e) =>
      if e = .exist then (.ok false, t) else (.error (.io (s.artifact job) (.os e)), t)
  | .error e => (.error (.io (s.artifact job) e), t)

/-- Opens the artifact of a job, emptied. -/
def openForWrite (s : Store) (job : Job) (t : FileTree) : Except StoreError (Handle × FileTree) :=
  (t.create t.cwd (s.artifact job)).mapError (.io (s.artifact job))

end Store

end BatchRunner
