/-
**Validated exclusion tables and predictions.**

In a valid table no variant occurs twice and no program occurs twice for a variant.  Tables are
validated entry by entry in document order, the default one first; the first violation is reported.

Main definitions:

* `Exclusion.Table` — for each listed variant, which programs it lists;
* `Exclusion.Table.ofRaw` — validates the entries of one table;
* `Exclusion.Tables`, `Exclusion.Tables.parse`, `Exclusion.Tables.builtin` — both tables, from a
  text or as built in;
* `Exclusion.Predictor` — the table of one mode, asked about jobs.
-/
import BatchRunner.Exclusion.Document
import BatchRunner.Selection

set_option autoImplicit false

namespace BatchRunner.Exclusion

/-- The programs an entry lists. -/
abbrev Listed := Program → Bool

/-- For each variant that has an entry, the programs that entry lists. -/
structure Table where
  row? : Variant → Option Listed

/-- A repeat in a table. -/
inductive Repeat where
  | variant (v : Variant)
  | program (v : Variant) (p : Program)
  deriving DecidableEq, Repr

namespace Table

/-- The table without entries. -/
def nothing : Table := ⟨fun _ => none⟩

/-- Adds an entry. -/
def insert (t : Table) (v : Variant) (ps : Listed) : Table :=
  ⟨fun w => if w = v then some ps else t.row? w⟩

@[simp] theorem row?_nothing (v : Variant) : nothing.row? v = none := rfl

@[simp] theorem row?_insert_self (t : Table) (v : Variant) (ps : Listed) :
    (t.insert v ps).row? v = some ps := by simp [insert]

theorem row?_insert_of_ne {t : Table} {v w : Variant} {ps : Listed} (h : w ≠ v) :
    (t.insert v ps).row? w = t.row? w := by simp [insert, h]

/-- Collects the programs of an entry; the first one that comes again is reported. -/
def collect (seen : Listed) : List Program → Except Program Listed
  | [] => .ok seen
  | p :: ps => if seen p then .error p else collect (fun q => q = p || seen q) ps

def addAll (t : Table) : RawTable → Except Repeat Table
  | [] => .ok t
  | (v, ps) :: rest =>
      if (t.row? v).isSome then .error (.variant v)
      else
        match collect (fun _ => false) ps with
        | .error p => .error (.program v p)
        | .ok listed => addAll (t.insert v listed) rest

/-- **Validates the entries of a table.** -/
def ofRaw (raw : RawTable) : Except Repeat Table := addAll nothing raw

def lists (t : Table) (v : Variant) (p : Program) : Bool :=
  match t.row? v with
  | some ps => ps p
  | none => false

/-- The entries in the order of the catalogs. -/
def toList (t : Table) : List (Variant × List Program) :=
  Variant.all.filterMap fun v => (t.row? v).map fun ps => (v, Program.all.filter ps)

end Table

/-- Why a document is refused. -/
inductive DocumentError where
  | malformed (fault : Json.Fault)
  | repeated (mode : Mode) (what : Repeat)
  deriving DecidableEq, Repr

/-- The text shown for a refused document. -/
def DocumentError.message : DocumentError → String
  | .malformed f => "exclusion table is malformed: " ++ f.message
  | .repeated m (.variant v) =>
      "exclusion table lists " ++ v.token ++ " more than once (" ++ m.token ++ " context)"
  | .repeated m (.program v p) =>
      "exclusion table lists " ++ p.token ++ " more than once for " ++ v.token ++ " (" ++ m.token
        ++ " context)"

/-- One validated table per context mode. -/
structure Tables where
  default : Table
  empty : Table

namespace Tables

def ofMode (t : Tables) : Mode → Table
  | .default => t.default
  | .empty => t.empty

def validate (mode : Mode) (raw : RawTable) : Except DocumentError Table :=
  (Table.ofRaw raw).mapError (.repeated mode)

/-- Validates a document, its default table first. -/
def ofDocument (d : Document) : Except DocumentError Tables := do
  let default ← validate .default d.default
  let empty ← validate .empty d.empty
  return ⟨default, empty⟩

/-- **Reads and validates a document.** -/
def parse (text : String) : Except DocumentError Tables := do
  let d ← (Document.parse text).mapError .malformed
  ofDocument d

/-- The table that lists exactly the given programs. -/
def listing (raw : RawTable) : Table :=
  ⟨fun v => (raw.find? fun e => e.1 = v).map fun e => fun p => decide (p ∈ e.2)⟩

/-- The tables used when no document is given. -/
def builtin : Tables where
  default := listing
    [(.obj2, [.eclipse]),
      (.obj3, [.bloat, .chart, .eclipse, .xalan, .checkstyle, .findbugs]),
      (.eObj3, [.chart, .eclipse, .checkstyle]),
      (.type3, [.eclipse])]
  empty := listing
    [(.obj2, [.eclipse]),
      (.obj3, [.antlr, .bloat, .chart, .eclipse, .pmd, .xalan, .checkstyle, .findbugs, .jpc]),
      (.eObj3, [.eclipse])]

end Tables

/-- The table of one context mode, chosen once for a run. -/
structure Predictor where
  mode : Mode
  table : Table

namespace Predictor

def ofTables (t : Tables) (mode : Mode) : Predictor := ⟨mode, t.ofMode mode⟩

/-- Whether a job is known not to finish. -/
def predicts (p : Predictor) (job : Job) : Bool := p.table.lists job.variant job.program

end Predictor

end BatchRunner.Exclusion
