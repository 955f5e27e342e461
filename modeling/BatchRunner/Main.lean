/-
**The command line program.**

A command line is carried out on a machine that holds nothing but its own utilities: engines are
started there, artifacts are kept there, and nothing outside is touched.  What the console shows is
printed, and the exit code is passed on.

Main definitions:

* `CommandLine.environment` — the variables a command line depends on;
* `main` — the program.
-/
import BatchRunner.CommandLine.Application
import BatchRunner.Machine.Launch

set_option autoImplicit false

namespace BatchRunner.CommandLine

/-- The variables of the environment that a command line and its engines depend on. -/
def environmentNames : List String :=
  ["RUST_LOG", "PATH", "NO_COLOR", "CLICOLOR_FORCE"] ++ Setting.settings.filterMap Setting.envName?

/-- Looks up the variables that a command line depends on. -/
def environment : IO (List (String × String)) :=
  environmentNames.filterMapM fun name => return (← IO.getEnv name).map fun value => (name, value)

def workingPlace : IO Place :=
  return Path.names (← IO.currentDir).toString

/-- Carries out a command line on a fresh machine, and lets the machine run until nobody writes to
the console any more. -/
def carryOutFresh (env : List (String × String)) (cwd : Place) (clock : Nat) (args : List String) :
    Nat × Bytes × Bytes :=
  let machine := { Machine.idle with
    env := env ++ Machine.idle.env.filter fun v => (env.lookup v.1).isNone }
  let (code, console, w) := carryOut .standard (fun name => env.lookup name) args Host.launch
    (⟨Program.standardFiles cwd clock, [], clock, none, machine⟩ : Host)
  let w := Host.advance w (fun v => !v.isWatched) none
  (code, console.output w, console.errors w)

end BatchRunner.CommandLine

open BatchRunner in
/-- **The program.** -/
def main (args : List String) : IO UInt32 := do
  let env ← CommandLine.environment
  let cwd ← CommandLine.workingPlace
  let (code, out, err) := CommandLine.carryOutFresh env cwd (← IO.monoMsNow) args
  (← IO.getStdout).write ⟨out.toArray⟩
  (← IO.getStderr).write ⟨err.toArray⟩
  return code.toUInt32
