/-
**Exclusion documents.**

A document lists, for each context mode, the programs that each variant is known not to finish on.
It is an object with the two fields `default` and `empty`, in either order, or a list of the two
tables.  Entries are kept as they are written, repeats included; what repeats mean is decided in
`BatchRunner.Exclusion.Table`.

Main definitions:

* `Exclusion.RawTable`, `Exclusion.Document` — tables as they are written;
* `Exclusion.Document.parse` — reads a whole text.
-/
import BatchRunner.Analysis
import BatchRunner.Benchmark
import BatchRunner.Json.Reader

set_option autoImplicit false

namespace BatchRunner.Exclusion

open BatchRunner.Json

/-- The entries of one table in the order of the document. -/
abbrev RawTable := List (Variant × List Program)

/-- Both tables of a document. -/
structure Document where
  default : RawTable
  empty : RawTable
  deriving DecidableEq, Repr

def programs : Reader (List Program) := (member Program).list "a sequence"

def rawTable : Reader RawTable :=
  (memberKey Variant).entries programs "a map from analysis variant to benchmark programs"

def fieldNames : List String := ["default", "empty"]

/-- Past the bracket that closes a list, if it comes next; a comma in its place is passed too. -/
def closeList (c : Cursor) : Cursor :=
  let c := c.skipBlanks
  match c.next? with
  | some ']' => c.skip
  | some ',' => c.skip.skipBlanks
  | _ => c

/-- Past the brace that closes an object, if it comes next. -/
def closeObject (c : Cursor) : Cursor :=
  let c := c.skipBlanks
  match c.next? with
  | some '\x7d' => c.skip
  | _ => c

/-- Which of the two fields have been read. -/
structure Fields where
  default : Option RawTable
  empty : Option RawTable

/-- The number of fields still to be read. -/
def Fields.missing (s : Fields) : Nat :=
  (if s.default.isNone then 1 else 0) + (if s.empty.isNone then 1 else 0)

/-- The document, if both fields have been read; else the first that has not. -/
def Fields.complete (s : Fields) : Except Cause Document :=
  match s.default, s.empty with
  | none, _ => .error (.missingField "default")
  | some _, none => .error (.missingField "empty")
  | some d, some e => .ok ⟨d, e⟩

/-- A field that may be read next. -/
inductive Field where
  | default
  | empty

/-- The field a key stands for; a field that has been read cannot come again. -/
def Fields.select (s : Fields) (key : String) : Except Cause Field :=
  if key = "default" then
    if s.default.isSome then .error (.duplicateField key) else .ok .default
  else if key = "empty" then
    if s.empty.isSome then .error (.duplicateField key) else .ok .empty
  else .error (.unknownField key fieldNames)

def Fields.set (s : Fields) (f : Field) (t : RawTable) : Fields :=
  match f with
  | .default => { s with default := some t }
  | .empty => { s with empty := some t }

theorem Fields.missing_set_lt {s : Fields} {key : String} {f : Field} (t : RawTable)
    (h : s.select key = .ok f) : (s.set f t).missing < s.missing := by
  obtain ⟨d, e⟩ := s
  unfold select at h
  split at h
  · split at h
    · simp at h
    · next hd =>
        obtain rfl : Field.default = f := by simpa using h
        simp_all [set, missing]
  · split at h
    · split at h
      · simp at h
      · next he =>
          obtain rfl : Field.empty = f := by simpa using h
          simp_all [set, missing]
    · simp at h

/-- Reads the fields of a document from behind the opening brace to behind the closing one.  A
refusal that concerns the fields themselves is reported behind the closing brace, if that comes
next. -/
def readFields (s : Fields) (first : Bool) (c : Cursor) : Except Fault (Document × Cursor) :=
  match nextKey first c with
  | .error f => .error f
  | .ok (false, c₁) =>
      match s.complete with
      | .error cause => (closeObject c₁).failHere cause
      | .ok d => .ok (d, c₁.skip)
  | .ok (true, c₁) =>
      match readText c₁.skip with
      | .error f => .error f
      | .ok (xs, c₂) =>
          match _h : s.select (String.ofList xs) with
          | .error cause => (closeObject c₂).failHere cause
          | .ok field =>
              match readColon c₂ with
              | .error f => .error f
              | .ok c₃ =>
                  match rawTable.run c₃ with
                  | .error f => .error f
                  | .ok (t, c₄) => readFields (s.set field t) false c₄
termination_by s.missing
decreasing_by exact Fields.missing_set_lt t _h

/-- How many elements a document has when it is a list. -/
def listForm : String := "struct RawTables with 2 elements"

/-- Reads the table at the given index of a document in list form. -/
def readTableAt (index : Nat) (c : Cursor) : Except Fault (RawTable × Cursor) :=
  match nextElement (index == 0) c with
  | .error f => .error f
  | .ok (false, c₁) => (closeList c₁).failHere (.badLength index listForm)
  | .ok (true, c₁) => rawTable.run c₁

/-- Reads the bracket that closes a document in list form. -/
def readListEnd (c : Cursor) : Except Fault Cursor :=
  let c := c.skipBlanks
  match c.next? with
  | none => c.failAhead .endInList
  | some ']' => .ok c.skip
  | some ',' =>
      let c := c.skip.skipBlanks
      c.failAhead (if c.next? = some ']' then .trailingComma else .trailingCharacters)
  | some _ => c.failAhead .trailingCharacters

/-- Reads a document in list form from behind its opening bracket to behind its closing one. -/
def readPair (c : Cursor) : Except Fault (Document × Cursor) := do
  let (d, c) ← readTableAt 0 c
  let (e, c) ← readTableAt 1 c
  let c ← readListEnd c
  return (⟨d, e⟩, c)

def readDocument (c : Cursor) : Except Fault (Document × Cursor) :=
  let c := c.skipBlanks
  match c.next? with
  | none => c.failAhead .endInValue
  | some '\x7b' => readFields ⟨none, none⟩ true c.skip
  | some '[' => readPair c.skip
  | some _ => .error (wrongKind "struct RawTables" c)

/-- **Reads a whole text as a document.** -/
def Document.parse (text : String) : Except Fault Document := decode readDocument text

end BatchRunner.Exclusion
