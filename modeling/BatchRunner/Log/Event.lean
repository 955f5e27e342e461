/-
**Log events and their lines.**

An event says what happened, how important it is, which part of the runner says so, and with which
particulars.  It is written as a plain line or as a JSON object.

Main definitions:

* `Log.Level`, `Log.Part`, `Log.Event` — events;
* `Log.Face` — how times are written;
* `Log.Event.plainLine`, `Log.Event.paintedLine`, `Log.Event.jsonLine` — the ways to write one.
-/
import BatchRunner.Instant
import BatchRunner.Json.Value
import BatchRunner.Text.Terminal

set_option autoImplicit false

namespace BatchRunner.Log

open Text.Terminal (styled)

/-- How important an event is, the most important first. -/
inductive Level where
  | error
  | warn
  | info
  | debug
  | trace
  deriving DecidableEq, Repr

namespace Level

/-- The levels, the most important first. -/
def all : List Level := [error, warn, info, debug, trace]

def word : Level → String
  | error => "error"
  | warn => "warn"
  | info => "info"
  | debug => "debug"
  | trace => "trace"

def label : Level → String
  | error => "ERROR"
  | warn => "WARN"
  | info => "INFO"
  | debug => "DEBUG"
  | trace => "TRACE"

/-- How a level stands out. -/
def style : Level → Text.Terminal.Style
  | error => .red
  | warn => .yellow
  | info => .green
  | debug => .blue
  | trace => .purple

/-- A level counts up from the most important one. -/
def rank : Level → Nat
  | error => 1
  | warn => 2
  | info => 3
  | debug => 4
  | trace => 5

end Level

/-- The part of the runner an event comes from. -/
inductive Part where
  | scheduler
  | store
  | supervisor
  | commandLine
  deriving DecidableEq, Repr

/-- The name under which filters know a part. -/
def Part.target : Part → String
  | .scheduler => "ptabench_core::scheduler"
  | .store => "ptabench_core::store"
  | .supervisor => "ptabench_core::supervisor"
  | .commandLine => "ptabench"

/-- A particular of an event. -/
inductive Datum where
  | text (s : String)
  | number (n : Int)
  /-- A measured span of time in milliseconds. -/
  | span (ms : Nat)
  deriving DecidableEq, Repr

/-- Something that happened. -/
structure Event where
  level : Level
  part : Part
  message : String
  fields : List (String × Datum)
  deriving DecidableEq, Repr

/-- How times are written: those of events, and those that were measured. -/
structure Face where
  instant : Nat → String
  span : Nat → String

/-- The times of events as calendar texts, and the measured ones as numbers. -/
def Face.standard : Face := ⟨fun ms => (Instant.ofMillis ms).renderMicros, fun ms => toString ms⟩

def Datum.plain (face : Face) : Datum → String
  | .text s => s
  | .number n => toString n
  | .span ms => face.span ms

def Datum.json (face : Face) : Datum → String
  | .text s => Json.literal s
  | .number n => toString n
  | .span ms => face.span ms

namespace Event

/-- The plain line of an event: time, level, message, particulars. -/
def plainLine (e : Event) (face : Face) (time : Nat) : String :=
  let label := e.level.label
  face.instant time ++ " " ++ String.ofList (List.replicate (5 - label.length) ' ') ++ label ++ " "
    ++ e.message
    ++ String.join (e.fields.map fun f => " " ++ f.1 ++ "=" ++ f.2.plain face)

/-- The plain line of an event, with parts that stand out. -/
def paintedLine (e : Event) (face : Face) (time : Nat) : String :=
  let label := e.level.label
  styled [.dimmed] (face.instant time) ++ " "
    ++ styled [e.level.style] (String.ofList (List.replicate (5 - label.length) ' ') ++ label) ++ " "
    ++ e.message
    ++ String.join (e.fields.map fun f =>
        " " ++ styled [.italic] f.1 ++ styled [.dimmed] "=" ++ f.2.plain face)

def jsonLine (e : Event) (face : Face) (time : Nat) : String :=
  let member (key value : String) : String := Json.literal key ++ ":" ++ value
  let fields := member "message" (Json.literal e.message)
    ++ String.join (e.fields.map fun f => "," ++ member f.1 (f.2.json face))
  "\x7b" ++ member "timestamp" (Json.literal (face.instant time)) ++ ","
    ++ member "level" (Json.literal e.level.label) ++ ","
    ++ member "fields" ("\x7b" ++ fields ++ "\x7d") ++ "\x7d"

end Event

end BatchRunner.Log
