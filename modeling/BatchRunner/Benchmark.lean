/-
**Benchmark programs and where their inputs lie.**

Main definitions:

* `Program`, `Program.token`, `Program.name`, `Program.all` — the programs, how they are written, their
  order;
* `Layout`, `Program.layout` — whether a program is one archive of a shared directory or an
  application directory of its own.
-/
import BatchRunner.Catalog

set_option autoImplicit false

namespace BatchRunner

/-- A program that analyses are run on. -/
inductive Program where
  | antlr
  | bloat
  | chart
  | eclipse
  | fop
  | luindex
  | lusearch
  | pmd
  | xalan
  | checkstyle
  | findbugs
  | jpc
  deriving DecidableEq, Repr

/-- How the inputs of a program are laid out under the benchmarks root. -/
inductive Layout where
  /-- One archive, with its dependencies beside it, in the directory all such programs share. -/
  | archive
  /-- A directory of its own, whose main archive is named `jar`. -/
  | directory (jar : String)
  deriving DecidableEq, Repr

namespace Program

/-- The programs, those of the shared directory first. -/
def all : List Program :=
  [antlr, bloat, chart, eclipse, fop, luindex, lusearch, pmd, xalan, checkstyle, findbugs, jpc]

/-- How a program is written on a command line. -/
def token : Program → String
  | antlr => "antlr"
  | bloat => "bloat"
  | chart => "chart"
  | eclipse => "eclipse"
  | fop => "fop"
  | luindex => "luindex"
  | lusearch => "lusearch"
  | pmd => "pmd"
  | xalan => "xalan"
  | checkstyle => "checkstyle"
  | findbugs => "findbugs"
  | jpc => "JPC"

/-- How a program is written in a document. -/
def name : Program → String
  | antlr => "antlr"
  | bloat => "bloat"
  | chart => "chart"
  | eclipse => "eclipse"
  | fop => "fop"
  | luindex => "luindex"
  | lusearch => "lusearch"
  | pmd => "pmd"
  | xalan => "xalan"
  | checkstyle => "checkstyle"
  | findbugs => "findbugs"
  | jpc => "JPC"

/-- The capitalised identifier of a program. -/
def ident : Program → String
  | antlr => "Antlr"
  | bloat => "Bloat"
  | chart => "Chart"
  | eclipse => "Eclipse"
  | fop => "Fop"
  | luindex => "Luindex"
  | lusearch => "Lusearch"
  | pmd => "Pmd"
  | xalan => "Xalan"
  | checkstyle => "Checkstyle"
  | findbugs => "Findbugs"
  | jpc => "Jpc"

/-- Where the inputs of a program lie. -/
def layout : Program → Layout
  | checkstyle => .directory "checkstyle-5.7-all"
  | findbugs => .directory "findbugs"
  | jpc => .directory "JPCApplication"
  | _ => .archive

instance : Catalog Program := ⟨all, token, name⟩

instance : LawfulCatalog Program where
  mem_all x := by cases x <;> decide
  token_injective x y := by cases x <;> cases y <;> decide
  name_eq_token x := by cases x <;> rfl

end Program

end BatchRunner
