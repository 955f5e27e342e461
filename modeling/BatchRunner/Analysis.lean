/-
**Pointer-analysis variants and context modes.**

A variant names the context abstraction an engine is asked for: context-insensitive, object- or
type-sensitive with one to three levels, with or without the elaborated heap (`e-`), and the two
precise variants.  A context mode says which context static calls get.

Main definitions:

* `Variant`, `Variant.token`, `Variant.name`, `Variant.all` — the variants, how they are written, their
  order;
* `Mode`, `Mode.token` — the two context modes.

Main results:

* `instLawfulCatalogVariant`, `instLawfulCatalogMode` — tokens tell members apart, and names are
  tokens.
-/
import BatchRunner.Catalog

set_option autoImplicit false

namespace BatchRunner

/-- A context abstraction of the analysis. -/
inductive Variant where
  | insens
  | obj1
  | eObj1
  | obj2
  | eObj2
  | obj3
  | eObj3
  | type1
  | eType1
  | type2
  | eType2
  | type3
  | eType3
  | pPrecise1
  | precise1
  deriving DecidableEq, Repr

namespace Variant

/-- The variants from the coarsest on. -/
def all : List Variant :=
  [insens, obj1, eObj1, obj2, eObj2, obj3, eObj3, type1, eType1, type2, eType2, type3, eType3,
    pPrecise1, precise1]

/-- How a variant is written on a command line. -/
def token : Variant → String
  | insens => "insens"
  | obj1 => "1o"
  | eObj1 => "e-1o"
  | obj2 => "2o"
  | eObj2 => "e-2o"
  | obj3 => "3o"
  | eObj3 => "e-3o"
  | type1 => "1t"
  | eType1 => "e-1t"
  | type2 => "2t"
  | eType2 => "e-2t"
  | type3 => "3t"
  | eType3 => "e-3t"
  | pPrecise1 => "p-1p"
  | precise1 => "1p"

/-- How a variant is written in a document. -/
def name : Variant → String
  | insens => "insens"
  | obj1 => "1o"
  | eObj1 => "e-1o"
  | obj2 => "2o"
  | eObj2 => "e-2o"
  | obj3 => "3o"
  | eObj3 => "e-3o"
  | type1 => "1t"
  | eType1 => "e-1t"
  | type2 => "2t"
  | eType2 => "e-2t"
  | type3 => "3t"
  | eType3 => "e-3t"
  | pPrecise1 => "p-1p"
  | precise1 => "1p"

/-- The capitalised identifier of a variant, used where a name without dashes is wanted. -/
def ident : Variant → String
  | insens => "Insens"
  | obj1 => "Obj1"
  | eObj1 => "EObj1"
  | obj2 => "Obj2"
  | eObj2 => "EObj2"
  | obj3 => "Obj3"
  | eObj3 => "EObj3"
  | type1 => "Type1"
  | eType1 => "EType1"
  | type2 => "Type2"
  | eType2 => "EType2"
  | type3 => "Type3"
  | eType3 => "EType3"
  | pPrecise1 => "PPrecise1"
  | precise1 => "Precise1"

instance : Catalog Variant := ⟨all, token, name⟩

instance : LawfulCatalog Variant where
  mem_all x := by cases x <;> decide
  token_injective x y := by cases x <;> cases y <;> decide
  name_eq_token x := by cases x <;> rfl

end Variant

/-- Which context static calls get: a virtualised one, or the empty one. -/
inductive Mode where
  | default
  | empty
  deriving DecidableEq, Repr

namespace Mode

def token : Mode → String
  | default => "default"
  | empty => "empty"

/-- The capitalised identifier of a mode, as log lines show it. -/
def ident : Mode → String
  | default => "Default"
  | empty => "Empty"

instance : Catalog Mode := ⟨[default, empty], token, token⟩

instance : LawfulCatalog Mode where
  mem_all x := by cases x <;> decide
  token_injective x y := by cases x <;> cases y <;> decide
  name_eq_token _ := rfl

end Mode

end BatchRunner
