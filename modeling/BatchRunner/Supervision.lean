/-
**Watching over an engine.**

An engine leads a process group of its own.  The watch over it ends when the engine exits, when its
budget runs out, when waiting for it fails, or when the watch is abandoned.  Unless the engine was
seen to exit, its whole group is ended, so that nothing it started can go on writing; the notice is
added to its output only after that.

Main definitions:

* `Supervision.Ending` — what can end a watch;
* `Supervision.Act`, `Supervision.Ending.acts` — what is done about it, in order;
* `Supervision.Ending.result` — what a watch gives.
-/
import BatchRunner.Config
import BatchRunner.Fault
import BatchRunner.Log.Event
import BatchRunner.Outcome

set_option autoImplicit false

namespace BatchRunner.Supervision

/-- What can end the watch over an engine. -/
inductive Ending where
  /-- The engine exited by itself, as the number says. -/
  | exited (status : Nat)
  /-- The budget ran out first. -/
  | deadline
  | waitFailed (e : IoError)
  /-- Nobody is interested in the engine any more. -/
  | abandoned
  deriving DecidableEq, Repr

/-- Something done at the end of a watch. -/
inductive Act where
  /-- Ends every process in the group of the engine. -/
  | signalGroup
  /-- Takes note that the leader has ended, after which its number means nothing. -/
  | reapLeader
  | report (e : Log.Event)
  /-- Adds the notice to the output of the engine, if that goes into a file. -/
  | addNotice
  deriving DecidableEq, Repr

/-- What is said when the budget has run out. -/
def noticeText : String := "Time is out!"

/-- The line that is added to the output of an engine whose budget has run out. -/
def noticeLine : String := noticeText ++ "\n"

def exitEvent (status elapsed : Nat) : Log.Event :=
  ⟨.debug, .supervisor, "Engine exited",
    [("status", .text ("ExitStatus(unix_wait_status(" ++ toString status ++ "))")),
      ("elapsed_ms", .span elapsed)]⟩

def deadlineEvent (budget : Budget) : Log.Event :=
  ⟨.warn, .supervisor, noticeText, [("limit_secs", .number budget.seconds)]⟩

/-- The event of a notice that could not be added. -/
def noticeFailedEvent (e : IoError) : Log.Event :=
  ⟨.warn, .supervisor, "Failed to record timeout in artifact", [("error", .text e.message)]⟩

/-- **What is done at the end of a watch, in order.** -/
def Ending.acts (budget : Budget) (elapsed : Nat) : Ending → List Act
  | .exited status => [.reapLeader, .report (exitEvent status elapsed)]
  | .deadline => [.signalGroup, .reapLeader, .report (deadlineEvent budget), .addNotice]
  | .waitFailed _ => [.signalGroup]
  | .abandoned => [.signalGroup, .reapLeader]

/-- What a watch gives: a status, unless it was abandoned. -/
def Ending.result : Ending → Except LaunchError (Option Status)
  | .exited _ => .ok (some .completed)
  | .deadline => .ok (some .timedOut)
  | .waitFailed e => .error (.wait e)
  | .abandoned => .ok none

end BatchRunner.Supervision
