/-
**The engine command of a job.**

Main definitions:

* `Command.inputs` — the arguments that say where a program's inputs are;
* `Command.synthesize` — the whole command line of a job.
-/
import BatchRunner.Config
import BatchRunner.Path
import BatchRunner.Selection

set_option autoImplicit false

namespace BatchRunner.Command

/-- The arguments that name a program's main archive, entry point, libraries and reflection log
below the benchmarks root. -/
def inputs (root : String) (p : Program) : List String :=
  let name := p.token
  match p.layout with
  | .archive =>
      let dir := Path.join root "dacapo"
      ["-apppath", Path.join dir (name ++ ".jar"),
        "-mainclass", "dacapo." ++ name ++ ".Main",
        "-libpath", Path.join dir (name ++ "-deps.jar"),
        "-reflectionlog", Path.join dir (name ++ "-refl.log")]
  | .directory jar =>
      let dir := Path.join (Path.join root "applications") name
      ["-apppath", Path.join dir (jar ++ ".jar"),
        "-libpath", dir,
        "-reflectionlog", Path.join dir (name ++ "-refl.log")]

/-- The argument that asks for the empty static context, if it is wanted. -/
def contextOption : Mode → List String
  | .default => []
  | .empty => ["-sctx=empty"]

/-- **The command of a job:** the engine, the global options, the variant, the context, and the
inputs of the program. -/
def synthesize (job : Job) (c : Config) : List String :=
  c.engine ++ c.globalOptions ++ ["-pta=" ++ job.variant.token] ++ contextOption c.contextMode
    ++ inputs c.benchmarksRoot job.program

end BatchRunner.Command
