/-
**Path texts.**

A path is kept as the text it was given as, because messages, arguments and reports show it
unchanged.  This module holds what can be said about the text alone; what a path leads to is the
business of `BatchRunner.Files.Resolve`.

Main definitions:

* `Path.join` — one path below another, without normalising either;
* `Path.pieces` — the names between the slashes;
* `Path.ancestors` — the proper ancestors of a path, nearest first.

Main results:

* `Path.join_of_isAbsolute`, `Path.join_empty` — an absolute path replaces what it is joined to,
  and nothing is added in front of a path joined to the empty one.
-/

set_option autoImplicit false

namespace BatchRunner.Path

/-- Whether a path starts at the root directory. -/
def isAbsolute (path : String) : Bool :=
  path.toList.head? == some '/'

def endsInSlash (path : String) : Bool :=
  path.toList.getLast? == some '/'

/-- The path `path` seen from the directory `dir`.  A slash is added between the two unless `dir`
is empty or ends in one; an absolute `path` stands for itself. -/
def join (dir path : String) : String :=
  if isAbsolute path then path
  else if dir = "" ∨ endsInSlash dir then dir ++ path
  else dir ++ "/" ++ path

@[simp] theorem join_of_isAbsolute {dir path : String} (h : isAbsolute path = true) :
    join dir path = path := by
  simp [join, h]

@[simp] theorem join_empty {path : String} : join "" path = path := by
  by_cases h : isAbsolute path = true <;> simp [join, h]

/-- Cuts a text at every slash. -/
def cut : List Char → List (List Char)
  | [] => [[]]
  | c :: cs =>
      match cut cs with
      | [] => [[c]]
      | w :: ws => if c = '/' then [] :: w :: ws else (c :: w) :: ws

/-- The non-empty names between the slashes of a path. -/
def pieces (path : String) : List String :=
  (cut path.toList).filterMap fun w => if w = [] then none else some (String.ofList w)

/-- The names of a path without the ones that stay where they are: a dot counts only in front. -/
def names (path : String) : List String :=
  match pieces path with
  | [] => []
  | p :: ps =>
      let rest := ps.filter (· ≠ ".")
      if p = "." ∧ isAbsolute path then rest else p :: rest

/-- Puts names together again. -/
def ofNames (absolute : Bool) (ns : List String) : String :=
  (if absolute then "/" else "") ++ "/".intercalate ns

/-- The proper ancestors of a path, nearest first.  The last one is the root directory, or the
empty path for a relative one. -/
def ancestors (path : String) : List String :=
  let ns := names path
  (List.range ns.length).reverse.map fun k => ofNames (isAbsolute path) (ns.take k)

end BatchRunner.Path
