/-
**What a console shows.**

Main definitions:

* `Console` — which events are shown, and how;
* `Console.outText`, `Console.errText` — everything written to the two outputs of a console;
* `Console.output`, `Console.errors` — what arrives there, also when the output is out of order.
-/
import BatchRunner.Log.Filter
import BatchRunner.World

set_option autoImplicit false

namespace BatchRunner

/-- How events are shown. -/
structure Console where
  /-- Whether events are JSON objects. -/
  json : Bool
  filter : Log.Filter
  face : Log.Face
  /-- Whether the parts of a plain line stand out. -/
  painted : Bool

namespace Console

def line (c : Console) (time : Nat) (e : Log.Event) : String :=
  (if c.json then e.jsonLine c.face time else if c.painted then e.paintedLine c.face time
    else e.plainLine c.face time) ++ "\n"

/-- What is written to the output: the events that are shown, between the output of engines. -/
def outText (c : Console) (chunks : List Chunk) : Bytes :=
  chunks.flatMap fun x => match x with
    | .event time e => if c.filter.admits e then bytesOf (c.line time e) else []
    | .out b => b
    | .err _ => []

/-- What is written to the other output: complaints. -/
def errText (chunks : List Chunk) : Bytes :=
  chunks.flatMap fun x => match x with
    | .err b => b
    | _ => []

section

variable {ε : Type}

def output (c : Console) (w : World ε) : Bytes :=
  if w.outage.isSome then [] else c.outText w.console

/-- What is said about an event that cannot be shown. -/
def lossText (e : Errno) : String :=
  "[tracing-subscriber] Unable to write an event to the Writer for this Subscriber! Error: "
    ++ (IoError.os e).message ++ "\n\n"

/-- What arrives at the other output: complaints, also about events that cannot be shown. -/
def errors (c : Console) (w : World ε) : Bytes :=
  match w.outage.filter fun e => e ≠ .badStream with
  | none => errText w.console
  | some e => w.console.flatMap fun x => match x with
      | .event _ event => if c.filter.admits event then bytesOf (lossText e) else []
      | .err b => b
      | .out _ => []

end

end Console

end BatchRunner
