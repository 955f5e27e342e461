/-
**Catalogs: finite types whose members are written as tokens.**

Analysis variants, benchmark programs, context modes and run states are all closed lists.  Each
member has a token, which stands for it on command lines, and a name, which stands for it in
documents.  The order of the list is the order in which members are sorted and shown, and reading a
token or a name is looking it up in the list.

Main definitions:

* `Catalog` — the list of members, their tokens and their names;
* `Catalog.ofToken?`, `Catalog.ofName?` — the member that has a given token, or a given name;
* `Catalog.index`, `Catalog.sort` — the position in the list, and sorting by it;
* `LawfulCatalog` — every member is listed, no two members share a token, and names are tokens.

Main results:

* `Catalog.ofToken?_eq_some_iff` — a text is read as `x` exactly when it is the token of `x`;
* `Catalog.ofToken?_token` — a token is read back as its member;
* `Catalog.ofName?_eq_ofToken?` — the two ways of reading a text agree.
-/

set_option autoImplicit false

namespace BatchRunner

/-- A closed list of members, each with a text for command lines and one for documents. -/
class Catalog (α : Type) where
  /-- Every member, in the order in which members are sorted and shown. -/
  all : List α
  /-- The text that stands for a member on a command line. -/
  token : α → String
  /-- The text that stands for a member in a document. -/
  name : α → String

/-- A catalog whose list is complete, whose tokens tell the members apart, and whose documents use
those tokens. -/
class LawfulCatalog (α : Type) [Catalog α] : Prop where
  mem_all : ∀ x : α, x ∈ (Catalog.all : List α)
  token_injective : ∀ x y : α, Catalog.token x = Catalog.token y → x = y
  name_eq_token : ∀ x : α, Catalog.name x = Catalog.token x

namespace Catalog

variable {α : Type} [Catalog α]

/-- The member whose token is `text`, if there is one. -/
def ofToken? (text : String) : Option α :=
  (all : List α).find? fun x => token x == text

/-- The member whose name is `text`, if there is one. -/
def ofName? (text : String) : Option α :=
  (all : List α).find? fun x => name x == text

def tokens (α : Type) [Catalog α] : List String :=
  (all : List α).map token

def names (α : Type) [Catalog α] : List String :=
  (all : List α).map name

/-- The position of a member in the list. -/
def index [BEq α] (x : α) : Nat :=
  (all : List α).idxOf x

/-- Sorts by position in the list; repeats are kept. -/
def sort [BEq α] (xs : List α) : List α :=
  xs.mergeSort fun x y => index x ≤ index y

variable [LawfulCatalog α]

/-- **A text is read as `x` exactly when it is the token of `x`.** -/
theorem ofToken?_eq_some_iff {text : String} {x : α} :
    ofToken? text = some x ↔ token x = text := by
  constructor
  · intro h
    simpa using List.find?_some h
  · intro h
    cases hf : (ofToken? text : Option α) with
    | none =>
        have := List.find?_eq_none.1 hf x (LawfulCatalog.mem_all x)
        simp [h] at this
    | some y =>
        have hy : token y = text := by simpa using List.find?_some hf
        rw [LawfulCatalog.token_injective y x (hy.trans h.symm)]

@[simp] theorem ofToken?_token (x : α) : ofToken? (token x) = some x :=
  ofToken?_eq_some_iff.2 rfl

/-- A text is not read exactly when no member has it as its token. -/
theorem ofToken?_eq_none_iff {text : String} :
    (ofToken? text : Option α) = none ↔ ∀ x : α, token x ≠ text := by
  constructor
  · intro h x hx
    rw [← hx, ofToken?_token] at h
    cases h
  · intro h
    cases hf : (ofToken? text : Option α) with
    | none => rfl
    | some y => exact absurd (ofToken?_eq_some_iff.1 hf) (h y)

/-- **A text is the name of a member exactly when it is the token of that member.** -/
theorem ofName?_eq_ofToken? (text : String) : (ofName? text : Option α) = ofToken? text := by
  unfold ofName? ofToken?
  simp only [LawfulCatalog.name_eq_token]

end Catalog

end BatchRunner
