/-
**Selections of targets and the job matrix they stand for.**

A selection names analyses and benchmarks.  The matrix pairs every selected variant with every
selected program, variant by variant.

Main definitions:

* `Selection.ofTokens` — sorts mixed tokens into variants and programs;
* `Selection.jobs` — the jobs of the matrix, in order;
* `UsageError` — why there is none.
-/
import BatchRunner.Analysis
import BatchRunner.Benchmark

set_option autoImplicit false

namespace BatchRunner

/-- One analysis of one program. -/
structure Job where
  variant : Variant
  program : Program
  deriving DecidableEq, Repr

/-- Why the targets of a run are refused. -/
inductive UsageError where
  /-- No program was named and nothing else says which ones to take. -/
  | noBenchmarks
  /-- A token that is in neither catalog. -/
  | unknownTarget (token : String)
  deriving DecidableEq, Repr

/-- The text shown for a refused selection. -/
def UsageError.message : UsageError → String
  | .noBenchmarks => "benchmark(s) not specified"
  | .unknownTarget token => "unknown analysis or benchmark: " ++ token

/-- Variants and programs to pair, and whether an empty side stands for its whole catalog. -/
structure Selection where
  analyses : List Variant
  benchmarks : List Program
  all : Bool
  deriving DecidableEq, Repr

/-- Adds a member at the end unless it is there already. -/
def addNew {α : Type} [DecidableEq α] (xs : List α) (x : α) : List α :=
  if x ∈ xs then xs else xs ++ [x]

namespace Selection

def nothing (all : Bool) : Selection := ⟨[], [], all⟩

/-- Reads one more token.  A token that is in both catalogs would name a variant. -/
def add (s : Selection) (token : String) : Except UsageError Selection :=
  match (Catalog.ofToken? token : Option Variant) with
  | some v => .ok { s with analyses := addNew s.analyses v }
  | none =>
      match (Catalog.ofToken? token : Option Program) with
      | some p => .ok { s with benchmarks := addNew s.benchmarks p }
      | none => .error (.unknownTarget token)

/-- Reads tokens in order; the first unknown one is reported. -/
def ofTokens (tokens : List String) (all : Bool) : Except UsageError Selection :=
  tokens.foldlM add (nothing all)

/-- The variants that take part: those named, else all of them if asked for, else the
context-insensitive one. -/
def variants (s : Selection) : List Variant :=
  if s.analyses ≠ [] then s.analyses
  else if s.all then Variant.all
  else [Variant.insens]

/-- The programs that take part: those named, else all of them if asked for. -/
def programs (s : Selection) : List Program :=
  if s.benchmarks ≠ [] then s.benchmarks
  else if s.all then Program.all
  else []

/-- **The job matrix:** every variant with every program, variant by variant. -/
def jobs (s : Selection) : Except UsageError (List Job) :=
  if s.programs = [] then .error .noBenchmarks
  else .ok (s.variants.flatMap fun v => s.programs.map fun p => ⟨v, p⟩)

end Selection

end BatchRunner
