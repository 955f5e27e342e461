/-
**Launchers that only rehearse.**

A rehearsed launcher starts nothing.  It writes a fixed text to the sink and ends as the first
matching rule says; every call it gets is kept.

Main definitions:

* `Rehearsal.Ending`, `Rehearsal.Rule` — how a rehearsed run ends, and which runs end so;
* `Rehearsal.launch` — the launcher.
-/
import BatchRunner.World

set_option autoImplicit false

namespace BatchRunner.Rehearsal

/-- How a rehearsed run ends. -/
inductive Ending where
  | status (s : Status)
  /-- The engine could not be started. -/
  | launchError (e : Errno)
  | waitError (e : Errno)
  | emptyCommand

/-- What happens to the calls one of whose arguments contains a text. -/
structure Rule where
  contains : String
  output : String
  ending : Ending

/-- What a rehearsed run writes when nothing else is said. -/
def standardOutput : String := "analysis finished\n"

/-- What happens to calls no rule is for. -/
def standard : Rule := ⟨"", standardOutput, .status .completed⟩

/-- Whether a list occurs within another. -/
def occursIn (needle : List Char) : List Char → Bool
  | [] => needle.isEmpty
  | c :: cs => needle.isPrefixOf (c :: cs) || occursIn needle cs

def ruleFor (rules : List Rule) (argv : List String) : Rule :=
  (rules.find? fun r => argv.any fun a => occursIn r.contains.toList a.toList).getD standard

def Ending.result (argv : List String) : Ending → Except LaunchError Status
  | .status s => .ok s
  | .launchError e => .error (.launch (argv.headD "") (.os e))
  | .waitError e => .error (.wait (.os e))
  | .emptyCommand => .error .emptyCommand

/-- **The launcher that follows rules.** -/
def launch (rules : List Rule) : Launcher (List Call) := fun call w =>
  let rule := ruleFor rules call.argv
  let files := match call.sink with
    | .inherit => w.files
    | .file h =>
        match w.files.write h (bytesOf rule.output) with
        | .ok (t, _) => t
        | .error _ => w.files
  (rule.ending.result call.argv, { w with files := files, outer := w.outer ++ [call] })

end BatchRunner.Rehearsal
