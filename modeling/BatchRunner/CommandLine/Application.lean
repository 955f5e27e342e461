/-
**Carrying out a command line.**

What goes wrong before the first job ends the run; what goes wrong with a job does not.

Main definitions:

* `CommandLine.Paint` — whether texts stand out;
* `CommandLine.Verdict` — how a command line ends;
* `CommandLine.Options.run` — carries out what a command line asks for;
* `CommandLine.carryOut` — the same from the arguments on, with what the console shows.
-/
import BatchRunner.CommandLine.Arguments
import BatchRunner.CommandLine.Help
import BatchRunner.Console
import BatchRunner.Scheduler

set_option autoImplicit false

namespace BatchRunner.CommandLine

open Text.Terminal (styled)

/-- Whether texts stand out. -/
structure Paint where
  /-- Whether what is said about the command line does. -/
  texts : Bool
  /-- Whether the lines of events do. -/
  events : Bool
  deriving DecidableEq, Repr

namespace Paint

/-- Whether a variable of an environment holds anything. -/
def holds (env : String → Option String) (name : String) : Bool := (env name).getD "" ≠ ""

/-- What an environment asks for.  The console is not a terminal, so texts stand out only if that is
enforced. -/
def ofEnvironment (env : String → Option String) : Paint :=
  let allowed := !holds env "NO_COLOR"
  ⟨allowed && holds env "CLICOLOR_FORCE", allowed⟩

/-- The bytes of a text.  Where texts do not stand out, what a terminal would obey is left out, also
from what is quoted. -/
def shown (p : Paint) (text : String) : Bytes :=
  if p.texts then bytesOf text else Text.Terminal.plain (bytesOf text)

end Paint

/-- How a command line ends. -/
inductive Verdict where
  | done
  /-- The command line does not make sense. -/
  | refused (text : String)
  /-- Something failed, for the given causes. -/
  | failed (text : String) (causes : List String)
  /-- The program breaks off. -/
  | aborted (text : String)
  deriving DecidableEq, Repr

namespace Verdict

def code : Verdict → Nat
  | done => 0
  | refused _ => 2
  | failed _ _ => 1
  | aborted _ => 101

/-- A text whose further lines are set in. -/
def setIn (margin text : String) : String := ("\n" ++ margin).intercalate (text.splitOn "\n")

/-- The lines of causes.  More than one are numbered. -/
def causeLines : List String → List String
  | [c] => ["    " ++ setIn "    " c]
  | cs => cs.zipIdx.map fun (c, n) =>
      let number := toString n
      String.ofList (List.replicate (5 - number.length) ' ') ++ number ++ ": " ++ setIn "       " c

def complaint (paint : Paint) : Verdict → Bytes
  | done => []
  | refused text =>
      paint.shown (styled [.bold, .red] "error:" ++ " " ++ text ++ "\n\n"
        ++ usageLine ++ "\n\nFor more information, try " ++ literal "--help" ++ ".\n")
  | failed text causes =>
      bytesOf ("Error: " ++ text ++ "\n"
        ++ (if causes.isEmpty then ""
          else "\nCaused by:\n" ++ String.join ((causeLines causes).map (· ++ "\n"))))
  | aborted text => bytesOf (text ++ "\n")

end Verdict

/-- The verdict on a failure that is put into a context. -/
def Verdict.inContext (context : String) (f : Fault) : Verdict :=
  .failed context (f.message :: f.causes)

section

variable {ε : Type}

/-- Removes the output directory. -/
def removeOutputs (store : Store) (w : World ε) : Verdict × World ε :=
  match store.clean w.files with
  | (.error e, t) => (.inContext "Failed to remove previous outputs" (.store e), w.withFiles t)
  | (.ok false, t) => (.done, w.withFiles t)
  | (.ok true, t) =>
      (.done, (w.withFiles t).log
        ⟨.info, .store, "Removed previous outputs", [("root", .text store.root)]⟩)

/-- The tables a command line names, or those that are built in. -/
def loadTables (path? : Option String) (t : FileTree) : Except TableError Exclusion.Tables :=
  match path? with
  | none => .ok .builtin
  | some path =>
      match t.readText t.cwd path with
      | .error e => .error (.read path e)
      | .ok text => (Exclusion.Tables.parse text).mapError .document

/-- Makes the output directory usable. -/
def useOutputs (store : Store) (w : World ε) : Except StoreError Unit × World ε :=
  match store.prepare w.files with
  | (.error e, t) => (.error e, w.withFiles t)
  | (.ok false, t) => (.ok (), w.withFiles t)
  | (.ok true, t) =>
      (.ok (), (w.withFiles t).log
        ⟨.debug, .store, "Created output root", [("root", .text store.root)]⟩)

/-- Writes a report and says so. -/
def writeReport (path : String) (r : Report) (w : World ε) : Verdict × World ε :=
  match w.writeFile path (bytesOf r.value.pretty) with
  | .error e => (.failed ("Failed to write report to " ++ path) [e.message], w)
  | .ok w =>
      match w.print ("Report written to " ++ path ++ "\n") with
      | .error e => (.aborted ("failed printing to stdout: " ++ (IoError.os e).message), w)
      | .ok w => (.done, w)

/-- Runs jobs, sums them up, and reports on them. -/
def runJobs (s : Scheduler) (launch : Launcher ε) (report? : Option String) (jobs : List Job)
    (w : World ε) : Verdict × World ε :=
  let (r, w) := s.run launch jobs w
  let w := w.log ⟨.info, .commandLine, r.summary, []⟩
  match report? with
  | none => (.done, w)
  | some path => writeReport path r w

/-- **Carries out what a command line asks for.** -/
def Options.run (o : Options) (launch : Launcher ε) (w : World ε) : Verdict × World ε :=
  match w.files.currentDir with
  | .error e => (.failed "Failed to read current directory" [(IoError.os e).message], w)
  | .ok cwd =>
      let config := o.config cwd
      if o.clean then removeOutputs ⟨config.outputRoot⟩ w
      else
        match (Selection.ofTokens o.targets o.all).bind Selection.jobs with
        | .error e => (.refused e.message, w)
        | .ok jobs =>
            match loadTables o.exclusions w.files with
            | .error e => (.failed e.message (Fault.exclusion e).causes, w)
            | .ok tables =>
                let s : Scheduler := ⟨config, .ofTables tables config.contextMode⟩
                match useOutputs s.store w with
                | (.error e, w) => (.inContext "Cannot use output directory" (.store e), w)
                | (.ok (), w) => runJobs s launch (o.report.map (Path.join cwd)) jobs w

/-- The name and version of the program. -/
def versionLine : String := "ptabench 0.1.0\n"

def filterOf (env : String → Option String) (verbose : Bool) : Log.Filter :=
  ((env "RUST_LOG").bind Log.Filter.parse?).getD
    ((Log.Filter.parse? (Log.defaultDirectives (if verbose then .debug else .info))).getD [])

/-- **Carries out a command line**; gives the exit code and how the console shows events. -/
def carryOut (face : Log.Face) (env : String → Option String) (args : List String)
    (launch : Launcher ε) (w : World ε) : Nat × Console × World ε :=
  let paint := Paint.ofEnvironment env
  let still : Console := ⟨false, [], face, paint.events⟩
  match Options.parse env args with
  | .error .version => (0, still, w.display (.out (paint.shown versionLine)))
  | .error .help => (0, still, w.display (.out (paint.shown (helpText env))))
  | .error (.refused r) =>
      let v := Verdict.refused r.message
      (v.code, still, w.display (.err (v.complaint paint)))
  | .ok o =>
      let (v, w) := o.run launch w
      (v.code, ⟨o.json, filterOf env o.verbose, face, paint.events⟩,
        w.display (.err (v.complaint paint)))

end

end BatchRunner.CommandLine
