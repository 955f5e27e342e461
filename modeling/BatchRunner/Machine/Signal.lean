/-
**Signals.**

Main definitions:

* `Signal.names`, `Signal.ofText?` — the signals and how they are named;
* `Signal.description?` — what is said of a process that a signal ended;
* `Signal.Request`, `Signal.request` — the arguments of a command that sends a signal;
* `Signal.isTarget` — the processes such an argument stands for.
-/
import BatchRunner.Machine.Basic

set_option autoImplicit false

namespace BatchRunner.Signal

/-- The names of the signals in order.  The first stands for the end of a script, and some have only
their number. -/
def names : List String :=
  ["EXIT", "HUP", "INT", "QUIT", "ILL", "TRAP", "ABRT", "BUS", "FPE", "KILL", "USR1", "SEGV",
    "USR2", "PIPE", "ALRM", "TERM", "16", "CHLD", "CONT", "STOP", "TSTP", "TTIN", "TTOU",
    "URG", "XCPU", "XFSZ", "VTALRM", "PROF", "WINCH", "IO", "PWR", "SYS", "32", "33", "RTMIN"]
    ++ (List.range 15).map (fun n => "RTMIN+" ++ toString (n + 1))
    ++ (List.range 14).map (fun n => "RTMAX-" ++ toString (14 - n)) ++ ["RTMAX"]

/-- What is said of processes that signals ended, in the order of the signals. -/
def descriptions : List String :=
  ["", "Hangup", "Interrupt", "Quit", "Illegal instruction", "Trace/breakpoint trap", "Aborted",
    "Bus error", "Floating point exception", "Killed", "User defined signal 1",
    "Segmentation fault", "User defined signal 2", "Broken pipe", "Alarm clock", "Terminated",
    "Stack fault", "Child exited", "Continued", "Stopped (signal)", "Stopped",
    "Stopped (tty input)", "Stopped (tty output)", "Urgent I/O condition",
    "CPU time limit exceeded", "File size limit exceeded", "Virtual timer expired",
    "Profiling timer expired", "Window changed", "I/O possible", "Power failure",
    "Bad system call"]

def quiet : List Nat := [2, 13]

/-- **What is said of a process that a signal ended.** -/
def description? (ended : Nat) : Option String :=
  let n := ended % 256
  if n = 0 ∨ quiet.contains n then none
  else some (descriptions.getD n ("Unknown signal " ++ toString n))

def count : Nat := 65

/-- **The signal that a text names**, by its number or its name in either case. -/
def ofText? (s : String) : Option Nat :=
  if s ≠ "" ∧ s.toList.all Char.isDigit then s.toNat?.filter (· < count)
  else names.findIdx? fun n => n = s.map Char.toUpper

/-- The signal that is sent where none is named. -/
def usual : Nat := 15

/-- The same for a signal that is to be sent. -/
def toSend? (s : String) : Option Nat :=
  (ofText? s).filter fun n => n ≠ 0 || s.toList.all Char.isDigit

/-- What the arguments of a command that sends a signal ask for. -/
inductive Request where
  | send (signal : Nat) (targets : List String)
  | list (codes : List String)
  | wrong (text : String)
  deriving Repr

/-- How the command that sends signals is used. -/
def usage : String :=
  "Usage: kill [-s sigspec | -signum | -sigspec] [pid | job]... or\nkill -l [exitstatus]"

/-- The request that options lead to: whether signals are to be listed, the signal, and the rest. -/
def settled (list : Bool) (signal? : Option Nat) (rest : List String) : Request :=
  match list, signal? with
  | true, none => .list rest
  | true, some _ => if rest.isEmpty then .list [] else .wrong usage
  | false, n? => if rest.isEmpty then .wrong usage else .send (n?.getD usual) rest

def options (list : Bool) (signal? : Option Nat) : List String → Request
  | [] => settled list signal? []
  | a :: rest =>
      match a.toList with
      | ['-', '-'] => settled list signal? rest
      | '-' :: c :: cs =>
          let letters := (c :: cs).takeWhile (· = 'l')
          let list := list || !letters.isEmpty
          match (c :: cs).drop letters.length with
          | [] => options list signal? rest
          | 's' :: value =>
              match value, rest with
              | [], [] => .wrong "No arg for -s option"
              | [], v :: rest => named list v rest
              | value, rest => named list (String.ofList value) rest
          | o :: _ => .wrong ("Illegal option -" ++ String.singleton o)
      | _ => settled list signal? (a :: rest)
where
  /-- Goes on with the signal that a text names. -/
  named (list : Bool) (text : String) (rest : List String) : Request :=
    match toSend? text with
    | some n => settled list (some n) (if rest.head? = some "--" then rest.tail else rest)
    | none => .wrong ("invalid signal number or name: " ++ text)

/-- **What the arguments of a command that sends a signal ask for.** -/
def request : List String → Request
  | [] => .wrong usage
  | a :: rest =>
      match a.toList with
      | '-' :: cs =>
          match toSend? (String.ofList cs) with
          | some n => settled false (some n) rest
          | none => options false none (a :: rest)
      | _ => .send usual (a :: rest)

def target? (s : String) : Option Int :=
  match s.toList with
  | '-' :: cs => if !cs.isEmpty && cs.all Char.isDigit then s.toInt? else none
  | cs => if !cs.isEmpty && cs.all Char.isDigit then s.toInt? else none

/-- **Whether a process is meant by the target of a signal**: a process by its number, the sender's
own group by zero, another group by its negated number. -/
def isTarget (sender : Proc) (n : Int) (q : Proc) : Bool :=
  if n = 0 then q.group = sender.group
  else if n < 0 then (q.group : Int) = -n
  else (q.id : Int) = n

end BatchRunner.Signal
