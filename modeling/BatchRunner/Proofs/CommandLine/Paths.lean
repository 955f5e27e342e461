/-
**What the paths of a command line mean.**

The engine is started in a directory of its own, so a relative path would not mean to it what it
means to whoever wrote the command line.  All paths are therefore put below the path of the
directory that the command line is given in, before anything is put below them.  What the engine is
told to read, and where a result is kept, then means everywhere what the paths that were given mean
in that directory.

Main definitions:

* `Path.below` — names below a directory;
* `Command.Input`, `Command.Input.names` — what an engine is told to read, and where it lies below
  the directory of all inputs;
* `Command.value?` — the value of a flag in a command.

Main results:

* `Command.value?_synthesize` — the value of each flag is the path of its input;
* `CommandLine.Options.paths_anchored` — **the paths of a command line mean everywhere what they
  mean where it is given**.
-/
import BatchRunner.Command
import BatchRunner.CommandLine.Arguments
import BatchRunner.Proofs.Files.Hollow
import BatchRunner.Proofs.Files.Standpoint
import BatchRunner.Proofs.Rehearsal
import BatchRunner.Proofs.Store.Artifact

set_option autoImplicit false

namespace BatchRunner

/-! ### Names below a directory -/

namespace Path

/-- Names below a directory, one below the other. -/
def below (dir : String) (names : List String) : String := names.foldl join dir

/-- Names below a joined path are joined to the same directory. -/
theorem below_join (cwd dir : String) (names : List String) :
    below (join cwd dir) names = join cwd (below dir names) := by
  induction names generalizing dir with
  | nil => rfl
  | cons n names ih =>
      have hnext : below (join cwd dir) (n :: names) = below (join cwd (join dir n)) names := by
        rw [← join_assoc]
        rfl
      rw [hnext, ih]
      rfl

end Path

/-! ### The flags of a command -/

namespace Command

/-- What an engine is told to read. -/
inductive Input where
  /-- The main archive of the program. -/
  | application
  /-- What the program depends on. -/
  | libraries
  /-- What is known of its use of reflection. -/
  | reflection
  deriving DecidableEq, Repr

namespace Input

def flag : Input → String
  | application => "-apppath"
  | libraries => "-libpath"
  | reflection => "-reflectionlog"

/-- The names that lead to an input from the directory of all inputs. -/
def names (p : Program) (i : Input) : List String :=
  match p.layout, i with
  | .archive, application => ["dacapo", p.token ++ ".jar"]
  | .archive, libraries => ["dacapo", p.token ++ "-deps.jar"]
  | .archive, reflection => ["dacapo", p.token ++ "-refl.log"]
  | .directory jar, application => ["applications", p.token, jar ++ ".jar"]
  | .directory _, libraries => ["applications", p.token]
  | .directory _, reflection => ["applications", p.token, p.token ++ "-refl.log"]

end Input

/-- **The value of a flag**: the argument behind its last occurrence. -/
def value? (flag : String) : List String → Option String
  | a :: b :: rest => (value? flag (b :: rest)).or (if a = flag then some b else none)
  | _ => none

section

variable {flag v : String} {args : List String} {pairs : List (String × String)}

theorem value?_cons_of_ne (h : v ≠ flag) : value? flag (v :: args) = value? flag args := by
  cases args with
  | nil => rfl
  | cons b rest => rw [value?, if_neg h, Option.or_none]

/-- What comes in front of a flag does not change its value. -/
theorem value?_append (h : value? flag args = some v) (front : List String) :
    value? flag (front ++ args) = some v := by
  induction front with
  | nil => exact h
  | cons a front ih =>
      cases hrest : front ++ args with
      | nil =>
          rw [hrest] at ih
          cases ih
      | cons b rest =>
          rw [hrest] at ih
          rw [List.cons_append, hrest, value?, ih, Option.some_or]

/-- Flags and their values, as they are written in a command. -/
def spread (pairs : List (String × String)) : List String := pairs.flatMap fun x => [x.1, x.2]

/-- Where no value can be mistaken for a flag, the value of a flag is the one that was written. -/
theorem value?_spread (h : ∀ x ∈ pairs, x.2 ≠ flag) :
    value? flag (spread pairs) = pairs.reverse.lookup flag := by
  induction pairs with
  | nil => rfl
  | cons x pairs ih =>
      obtain ⟨name, text⟩ := x
      have hrest := ih fun y hy => h y (List.mem_cons_of_mem _ hy)
      have hspread : spread ((name, text) :: pairs) = name :: text :: spread pairs := rfl
      have hlast : [(name, text)].lookup flag = if name = flag then some text else none := by
        by_cases hflag : name = flag
        · rw [hflag, List.lookup_cons_self, if_pos rfl]
        · have hother : (flag == name) = false := by simpa using Ne.symm hflag
          rw [List.lookup_cons, hother, if_neg hflag, List.lookup_nil]
      rw [hspread, value?, value?_cons_of_ne (h (name, text) List.mem_cons_self), hrest,
        List.reverse_cons, List.lookup_append, hlast]

end

/-- The main class of a program that has one, behind its flag. -/
def mainClass (p : Program) : List (String × String) :=
  match p.layout with
  | .archive => [("-mainclass", "dacapo." ++ p.token ++ ".Main")]
  | .directory _ => []

/-- An input below a directory, behind its flag. -/
def Input.argument (root : String) (p : Program) (i : Input) : String × String :=
  (i.flag, Path.below root (i.names p))

theorem inputs_eq (root : String) (p : Program) :
    inputs root p = spread (Input.application.argument root p :: mainClass p ++
      [Input.libraries.argument root p, Input.reflection.argument root p]) := by
  unfold inputs Input.argument Input.names mainClass
  cases p.layout <;> rfl

/-- No path below an absolute one is mistaken for a flag. -/
theorem argument_ne_flag {root : String} (hroot : Path.isAbsolute root = true) (p : Program)
    (i j : Input) : (i.argument root p).2 ≠ j.flag := by
  have hbelow : ∀ names : List String, Path.isAbsolute (Path.below root names) = true := by
    intro names
    induction names generalizing root with
    | nil => exact hroot
    | cons n names ih => exact ih (Path.isAbsolute_join_of_isAbsolute hroot)
  intro h
  have habs := hbelow (i.names p)
  rw [show Path.below root (i.names p) = j.flag from h] at habs
  cases j <;> exact absurd habs (by decide)

/-- No main class is mistaken for a flag. -/
theorem mainClass_ne_flag (p : Program) (i : Input) : ∀ x ∈ mainClass p, x.2 ≠ i.flag := by
  intro x hx h
  unfold mainClass at hx
  cases hlayout : p.layout with
  | archive =>
      obtain rfl : x = ("-mainclass", "dacapo." ++ p.token ++ ".Main") := by
        simpa [hlayout] using hx
      have hfirst := congrArg (fun s => s.toList.head?) h
      cases i <;> simp [Input.flag] at hfirst
  | directory jar => simp [hlayout] at hx

/-- **The value of each flag is the path of its input**, whichever the layout. -/
theorem value?_inputs {root : String} (hroot : Path.isAbsolute root = true) (p : Program)
    (i : Input) :
    value? i.flag (inputs root p) = some (Path.below root (i.names p)) := by
  rw [inputs_eq, value?_spread]
  · unfold mainClass Input.argument
    cases p.layout <;> cases i <;> rfl
  · intro x hx
    simp only [List.cons_append, List.mem_cons, List.mem_append, List.not_mem_nil, or_false] at hx
    rcases hx with rfl | hx | rfl | rfl
    · exact argument_ne_flag hroot p _ i
    · exact mainClass_ne_flag p i x hx
    · exact argument_ne_flag hroot p _ i
    · exact argument_ne_flag hroot p _ i

/-- Whatever the engine and its options are, the value of each flag in a command is the path of its
input. -/
theorem value?_synthesize {c : Config} (hroot : Path.isAbsolute c.benchmarksRoot = true) (job : Job)
    (i : Input) :
    value? i.flag (synthesize job c) =
      some (Path.below c.benchmarksRoot (i.names job.program)) := by
  unfold synthesize
  exact value?_append (value?_inputs hroot job.program i) _

theorem below_names_ne_empty (root : String) (p : Program) (i : Input) :
    Path.below root (i.names p) ≠ "" := by
  have htoken : p.token ≠ "" := by cases p <;> decide
  unfold Input.names
  cases p.layout <;> cases i <;> refine Path.join_ne_empty ?_ <;> simp [htoken]

end Command

/-! ### The paths of a command line -/

namespace CommandLine

/-- **The paths of a command line mean everywhere what they mean where it is given.**  What the
engine is told to read, and where a result is kept, are absolute paths, and wherever they are seen
from they lead to what the paths that were given lead to from the directory of the command line.
The exception is a path that is short enough only as it was given.  None of them depends on where
the engine is started. -/
theorem Options.paths_anchored (o : Options) (job : Job) {cwd : String}
    (hcwd : Path.isAbsolute cwd = true) :
    (∀ i : Command.Input, ∃ path,
      Command.value? i.flag (Command.synthesize job (o.config cwd)) = some path ∧
        Path.Anchored cwd (Path.below o.benchmarks (i.names job.program)) path) ∧
    Path.Anchored cwd (Path.join o.outputPath (Store.artifactName job))
      (Store.artifact ⟨(o.config cwd).outputRoot⟩ job) ∧
    ∀ dir, Command.synthesize job ({ o with engineDir := dir }.config cwd) =
        Command.synthesize job (o.config cwd) ∧
      Store.artifact ⟨({ o with engineDir := dir }.config cwd).outputRoot⟩ job =
        Store.artifact ⟨(o.config cwd).outputRoot⟩ job := by
  refine ⟨fun i => ?_, ?_, fun dir => ⟨rfl, rfl⟩⟩
  · have hroot : Path.isAbsolute (o.config cwd).benchmarksRoot = true :=
      Path.isAbsolute_join_of_isAbsolute hcwd
    refine ⟨_, Command.value?_synthesize hroot job i, ?_⟩
    -- it does not matter whether the names are put below the directory before or after it is joined
    have hpath : Path.below (o.config cwd).benchmarksRoot (i.names job.program) =
        Path.join cwd (Path.below o.benchmarks (i.names job.program)) := Path.below_join _ _ _
    rw [hpath]
    exact Path.anchored_join hcwd (Command.below_names_ne_empty o.benchmarks job.program i)
  · have hname : Store.artifactName job ≠ "" := (Store.plainName_artifactName job).ne_empty
    have hpath : Store.artifact ⟨(o.config cwd).outputRoot⟩ job =
        Path.join cwd (Path.join o.outputPath (Store.artifactName job)) := Path.join_assoc _ _ _
    rw [hpath]
    exact Path.anchored_join hcwd (Path.join_ne_empty hname)

end CommandLine

/-! ### A machine with its inputs elsewhere -/

namespace Rehearsal

open CommandLine

/-- A machine whose starting directory has a link to the directory of all inputs. -/
def yard : FileTree where
  root := .dir [("home", .dir [
    ("bench", .dir [("dacapo", .dir [("fop.jar", .file 0)])]),
    ("runner", .dir [("inputs", .link "../bench"), ("pta", .dir [])])])]
  cwd := ["home", "runner"]
  files := [⟨0o644, bytesOf "fop", 0⟩]
  seals := []
  dirs := []
  mask := usualMask
  now := 0
  moves := []

theorem pass_yard (place : Place) : Right.pass.isIn (yard.dirInfo place).mode = true :=
  FileTree.pass_of_lookup_eq_none rfl

theorem seeks_yard {dir : Place} {es : List (String × Node)} {n : String}
    (h : FileTree.PlainName n) (hdir : yard.node? dir = some (.dir es)) : yard.Seeks dir es n :=
  ⟨h, hdir, pass_yard dir⟩

theorem isPathOf_yard : yard.IsPathOf yard.cwdPath yard.cwd := by
  have hnames : ∀ n ∈ yard.cwd, Path.IsName n ∧ FileTree.PlainName n := by decide
  exact FileTree.isPathOf_path hnames (by decide) rfl fun dir _ _ => pass_yard dir

/-- The link leads to the directory of all inputs. -/
theorem walk_inputs (aim : Aim) {rest : List String} (hrest : rest ≠ []) :
    yard.walk aim linkMax yard.cwd ("inputs" :: rest) =
      yard.walk aim 39 ["home", "bench"] rest := by
  have hsteps : stepsOf "../bench" = ["..", "bench"] := by decide
  have hrelative : Path.isAbsolute "../bench" = false := by decide
  have hlink : yard.walk aim (39 + 1) yard.cwd ("inputs" :: rest) =
      yard.walk aim 39 yard.cwd (".." :: "bench" :: rest) := by
    rw [(seeks_yard (by decide) rfl).walk_of_get?_eq_link rfl (by decide) fun h => absurd h hrest,
      hsteps, hrelative]
    rfl
  have hup : yard.walk aim 39 yard.cwd (".." :: "bench" :: rest) =
      yard.walk aim 39 ["home"] ("bench" :: rest) := by
    have hdir : yard.node? yard.cwd =
        some (.dir [("inputs", .link "../bench"), ("pta", .dir [])]) := rfl
    rw [FileTree.walk]
    simp only [hdir, pass_yard]
    rfl
  have hdown : yard.walk aim 39 ["home"] ("bench" :: rest) =
      yard.walk aim 39 ["home", "bench"] rest :=
    (seeks_yard (by decide) rfl).walk_of_get? rfl (by simp)
  exact hlink.trans (hup.trans hdown)

/-- The input of the job is found behind the link. -/
theorem walk_archive :
    yard.walk .target linkMax yard.cwd ["inputs", "dacapo", "fop.jar"] =
      .ok (.node ["home", "bench", "dacapo", "fop.jar"] (.file 0)) := by
  rw [walk_inputs .target (by simp),
    (seeks_yard (by decide) rfl).walk_of_get? rfl (by simp),
    (seeks_yard (by decide) rfl).walk_of_get? rfl (by simp)]
  exact FileTree.walk_of_node? rfl

/-- The artifact of the job is missing there. -/
theorem walk_artifact :
    yard.walk .making linkMax yard.cwd ["inputs", "fop_1t.o"] =
      .ok (.absent ["home", "bench"] "fop_1t.o") := by
  rw [walk_inputs .making (by simp)]
  exact (seeks_yard (by decide) rfl).walk_of_get?_eq_none rfl

/-- A command line by which inputs and results are behind the link. -/
def linkOptions : Options :=
  { Reading.empty.options with benchmarks := "inputs/", outputPath := "inputs", engineDir := "pta" }

/-- From where the engine is started, the input is found behind the link of the directory that the
command line is given in, and the artifact is missing behind it. -/
theorem input_found_by_engine :
    yard.IsPathOf yard.cwdPath yard.cwd ∧
      Command.value? "-apppath" (Command.synthesize fop (linkOptions.config yard.cwdPath)) =
        some "/home/runner/inputs/dacapo/fop.jar" ∧
      yard.locate ["home", "runner", "pta"] .target "/home/runner/inputs/dacapo/fop.jar" =
        .ok (.node ["home", "bench", "dacapo", "fop.jar"] (.file 0)) ∧
      yard.locate ["home", "runner", "pta"] .making "/home/runner/inputs/fop_1t.o" =
        .ok (.absent ["home", "bench"] "fop_1t.o") := by
  obtain ⟨hinputs, hartifact, -⟩ := linkOptions.paths_anchored fop isPathOf_yard.absolute
  obtain ⟨path, hvalue, hinput⟩ := hinputs .application
  have hpath : Command.value? "-apppath" (Command.synthesize fop (linkOptions.config yard.cwdPath)) =
      some "/home/runner/inputs/dacapo/fop.jar" := rfl
  obtain rfl : "/home/runner/inputs/dacapo/fop.jar" = path :=
    Option.some.inj (hpath.symm.trans hvalue)
  refine ⟨isPathOf_yard, hpath, ?_, ?_⟩
  · rw [hinput.same isPathOf_yard (fun h => absurd h (by decide))]
    exact FileTree.locate_eq_ok_iff.2 ⟨rfl, walk_archive⟩
  · have hsame := hartifact.same isPathOf_yard (fun h => absurd h (by decide))
      ["home", "runner", "pta"] .making
    exact hsame.trans (FileTree.locate_eq_ok_iff.2 ⟨rfl, walk_artifact⟩)

end Rehearsal

/-! ### Paths that get lost -/

namespace Path

/-- A path with slashes at its end. -/
def stretch (path : String) (n : Nat) : String := path ++ String.ofList (List.replicate n '/')

theorem toList_stretch (path : String) (n : Nat) :
    (stretch path n).toList = path.toList ++ List.replicate n '/' := by
  rw [stretch, String.toList_append, String.toList_ofList]

/-- Slashes at the end add no names. -/
theorem pieces_stretch (path : String) (n : Nat) : pieces (stretch path n) = pieces path := by
  have hslashes : ∀ cs, namesAmong (cut (cs ++ List.replicate n '/')) = namesAmong (cut cs) := by
    induction n with
    | zero => simp
    | succ n ih =>
        intro cs
        have hnone : namesAmong (cut (List.replicate n '/')) = [] := ih []
        rw [List.replicate_succ, cut_append_slash, namesAmong_append, hnone, List.append_nil]
  rw [pieces_eq, toList_stretch, hslashes, ← pieces_eq]

theorem utf8ByteSize_stretch (path : String) (n : Nat) :
    (stretch path n).utf8ByteSize = path.utf8ByteSize + n := by
  have hslashes : (String.ofList (List.replicate n '/')).utf8ByteSize = n := by
    induction n with
    | zero => rfl
    | succ n ih =>
        have hslash : (String.ofList ['/']).utf8ByteSize = 1 := by decide
        rw [List.replicate_succ, ← List.singleton_append, String.ofList_append,
          String.utf8ByteSize_append, ih, hslash, Nat.add_comm]
  rw [stretch, String.utf8ByteSize_append, hslashes]

theorem gap_stretch (path : String) (n : Nat) : gap (stretch path (n + 1)) = [] := by
  have hslash : endsInSlash (stretch path (n + 1)) = true := by
    simp [endsInSlash, toList_stretch, List.replicate_succ']
  rw [gap, if_pos (.inr hslash)]

end Path

namespace Rehearsal

open CommandLine

section

variable {aim : Aim} {path : String} {found : Found} {n : Nat}

theorem isAbsolute_slashed : Path.isAbsolute (Path.stretch "inputs" n) = false := by
  rw [Path.isAbsolute, Path.toList_stretch]
  rfl

theorem no_nul_slashed (hrelative : Path.isAbsolute path = false) (hnul : '\x00' ∉ path.toList) :
    '\x00' ∉ (Path.join (Path.stretch "inputs" (n + 1)) path).toList := by
  rw [Path.toList_join hrelative, Path.gap_stretch, Path.toList_stretch]
  simp [hnul]

theorem utf8ByteSize_slashed (hrelative : Path.isAbsolute path = false) :
    (Path.join (Path.stretch "inputs" (n + 1)) path).utf8ByteSize = 7 + n + path.utf8ByteSize := by
  have hinputs : "inputs".utf8ByteSize = 6 := by decide
  rw [Path.utf8ByteSize_join hrelative, Path.gap_stretch, Path.utf8ByteSize_stretch, hinputs,
    List.length_nil]
  omega

/-- A path below the link is followed as if there was one slash, however many there are. -/
theorem locate_slashed (hrelative : Path.isAbsolute path = false) (hne : path ≠ "")
    (hnul : '\x00' ∉ path.toList) (hshort : 7 + n + path.utf8ByteSize < pathMax)
    (hw : yard.walk aim linkMax yard.cwd ("inputs" :: aim.steps path) = .ok found) :
    yard.locate yard.cwd aim (Path.join (Path.stretch "inputs" (n + 1)) path) = .ok found := by
  have hcheck : FileTree.checkPath (Path.join (Path.stretch "inputs" (n + 1)) path) = .ok () := by
    rw [FileTree.checkPath_of_no_nul (no_nul_slashed hrelative hnul) (Path.join_ne_empty hne),
      utf8ByteSize_slashed hrelative, if_neg (Nat.not_le.2 hshort)]
  have hsteps : aim.steps (Path.join (Path.stretch "inputs" (n + 1)) path) =
      "inputs" :: aim.steps path := by
    have hinputs : Path.pieces "inputs" = ["inputs"] := by decide
    rw [aim.steps_join_of_relative hrelative hne, Path.pieces_stretch, hinputs]
    rfl
  have hstart : FileTree.start yard.cwd (Path.join (Path.stretch "inputs" (n + 1)) path) =
      yard.cwd := by
    rw [FileTree.start, Path.isAbsolute_join_of_relative hrelative, isAbsolute_slashed,
      if_neg Bool.false_ne_true]
  refine FileTree.locate_eq_ok_iff.2 ⟨hcheck, ?_⟩
  rw [hstart, hsteps, hw]

/-- Below the path of the starting directory, it is too long. -/
theorem locate_lengthened (hrelative : Path.isAbsolute path = false) (hnul : '\x00' ∉ path.toList)
    (hlong : pathMax ≤ 20 + n + path.utf8ByteSize) (base : Place) (aim : Aim) :
    yard.locate base aim
        (Path.join yard.cwdPath (Path.join (Path.stretch "inputs" (n + 1)) path)) =
      .error (.os .nameTooLong) := by
  have hjoined : Path.isAbsolute (Path.join (Path.stretch "inputs" (n + 1)) path) = false := by
    rw [Path.isAbsolute_join_of_relative hrelative, isAbsolute_slashed]
  have hcwd : yard.cwdPath.utf8ByteSize = 12 ∧ Path.gap yard.cwdPath = ['/'] ∧
      '\x00' ∉ yard.cwdPath.toList := by decide
  obtain ⟨hsize, hgap, hcwdNul⟩ := hcwd
  have hzero : '\x00' ∉
      (Path.join yard.cwdPath (Path.join (Path.stretch "inputs" (n + 1)) path)).toList := by
    rw [Path.toList_join hjoined, hgap]
    simp [hcwdNul, no_nul_slashed hrelative hnul]
  rw [FileTree.locate_of_long _ yard base aim, if_neg hzero]
  rw [Path.utf8ByteSize_join hjoined, hsize, hgap, utf8ByteSize_slashed hrelative,
    List.length_singleton]
  omega

end

/-- A command line by which inputs and results are behind the link, with slashes to spare. -/
def lengthy (n : Nat) : Options :=
  { Reading.empty.options with
    benchmarks := Path.stretch "inputs" (n + 1)
    outputPath := Path.stretch "inputs" (n + 1) }

theorem below_archive (root : String) :
    Path.below root ["dacapo", "fop.jar"] = Path.join root "dacapo/fop.jar" := by
  have hnames : Path.join "dacapo" "fop.jar" = "dacapo/fop.jar" := by decide
  rw [← hnames, ← Path.join_assoc]
  rfl

/-- The flag of the main archive has the path below that of the starting directory for its value. -/
theorem value?_lengthy (n : Nat) :
    Command.value? "-apppath" (Command.synthesize fop ((lengthy n).config yard.cwdPath)) =
      some (Path.join yard.cwdPath
        (Path.join (Path.stretch "inputs" (n + 1)) "dacapo/fop.jar")) := by
  have hroot : Path.isAbsolute ((lengthy n).config yard.cwdPath).benchmarksRoot = true :=
    Path.isAbsolute_join_of_isAbsolute isPathOf_yard.absolute
  have hnames : Command.Input.application.names fop.program = ["dacapo", "fop.jar"] := by decide
  rw [← below_archive, ← Path.below_join, ← hnames]
  exact Command.value?_synthesize hroot fop .application

theorem artifact_lengthy (n : Nat) :
    Store.artifact ⟨((lengthy n).config yard.cwdPath).outputRoot⟩ fop =
      Path.join yard.cwdPath (Path.join (Path.stretch "inputs" (n + 1)) "fop_1t.o") :=
  Path.join_assoc _ _ _

/-- The machine without the right to pass the directory above the starting directory. -/
def barred : FileTree := { yard with dirs := [(["home"], ⟨0o600, 0⟩)] }

/-- A command line by which results are in a directory below the starting directory. -/
def nearby : Options := { Reading.empty.options with outputPath := "pta" }

/-- What is below the starting directory can still be reached from there. -/
theorem locate_nearby :
    barred.locate barred.cwd .making (Path.join nearby.outputPath (Store.artifactName fop)) =
      .ok (.absent ["home", "runner", "pta"] "fop_1t.o") := by
  have hdir : barred.Seeks barred.cwd [("inputs", .link "../bench"), ("pta", .dir [])] "pta" :=
    ⟨by decide, rfl, FileTree.pass_of_lookup_eq_none rfl⟩
  have hartifact : barred.Seeks ["home", "runner", "pta"] [] "fop_1t.o" :=
    ⟨by decide, rfl, FileTree.pass_of_lookup_eq_none rfl⟩
  refine FileTree.locate_eq_ok_iff.2 ⟨rfl, ?_⟩
  have hwalk : barred.walk .making linkMax barred.cwd ["pta", "fop_1t.o"] =
      .ok (.absent ["home", "runner", "pta"] "fop_1t.o") := by
    rw [hdir.walk_of_get? rfl (by simp)]
    exact hartifact.walk_of_get?_eq_none rfl
  exact hwalk

/-- By its absolute path it cannot be reached from anywhere. -/
theorem locate_barred (base : Place) :
    barred.locate base .making (Store.artifact ⟨(nearby.config barred.cwdPath).outputRoot⟩ fop) =
      .error (.os .denied) := by
  have hpath : Store.artifact ⟨(nearby.config barred.cwdPath).outputRoot⟩ fop =
      "/home/runner/pta/fop_1t.o" := rfl
  have hcheck : FileTree.checkPath "/home/runner/pta/fop_1t.o" = .ok () := rfl
  have hstart : FileTree.start base "/home/runner/pta/fop_1t.o" = [] := rfl
  have hsteps : Aim.making.steps "/home/runner/pta/fop_1t.o" =
      ["home", "runner", "pta", "fop_1t.o"] := by decide
  have hclosed : Right.pass.isIn (barred.dirInfo ["home"]).mode = false := by decide
  have hwalk : barred.walk .making linkMax [] ["home", "runner", "pta", "fop_1t.o"] =
      .error .denied := by
    obtain ⟨es, hhome⟩ : ∃ es, barred.node? ["home"] = some (.dir es) := ⟨_, rfl⟩
    have hroot : barred.Seeks [] [("home", .dir es)] "home" := by
      refine ⟨by decide, ?_, by decide⟩
      obtain rfl : _ = es := Node.dir.inj (Option.some.inj hhome)
      rfl
    rw [hroot.walk_of_get? rfl (by simp), FileTree.walk]
    simp [hhome, hclosed]
  rw [hpath, FileTree.locate, hcheck, hstart, hsteps, hwalk]
  rfl

/-- **Two ways for paths to get lost.**  With the path of the starting directory in front, a path
can be too long that was short enough before: then the engine does not find what was there, and no
result can be kept where it could be made.  And where a directory above the starting directory may
not be passed, a path that starts there leads on, while no absolute path does. -/
theorem paths_lost :
    (yard.IsPathOf yard.cwdPath yard.cwd ∧
      (∃ path,
        Command.value? "-apppath" (Command.synthesize fop ((lengthy 4074).config yard.cwdPath)) =
          some path ∧
        yard.locate yard.cwd .target (Path.below (lengthy 4074).benchmarks ["dacapo", "fop.jar"]) =
          .ok (.node ["home", "bench", "dacapo", "fop.jar"] (.file 0)) ∧
        ∀ base aim, yard.locate base aim path = .error (.os .nameTooLong)) ∧
      yard.locate yard.cwd .making
          (Path.join (lengthy 4074).outputPath (Store.artifactName fop)) =
        .ok (.absent ["home", "bench"] "fop_1t.o") ∧
      ∀ base aim, yard.locate base aim
          (Store.artifact ⟨((lengthy 4074).config yard.cwdPath).outputRoot⟩ fop) =
        .error (.os .nameTooLong)) ∧
    barred.locate barred.cwd .making (Path.join nearby.outputPath (Store.artifactName fop)) =
      .ok (.absent ["home", "runner", "pta"] "fop_1t.o") ∧
      ∀ base, barred.locate base .making
          (Store.artifact ⟨(nearby.config barred.cwdPath).outputRoot⟩ fop) =
        .error (.os .denied) := by
  refine ⟨⟨isPathOf_yard, ⟨_, value?_lengthy 4074, ?_, ?_⟩, ?_, ?_⟩, locate_nearby, locate_barred⟩
  -- thirteen bytes are put in front, which is more than either path has left
  · rw [below_archive]
    exact locate_slashed (by decide) (by decide) (by decide) (by decide) walk_archive
  · exact locate_lengthened (by decide) (by decide) (by decide)
  · exact locate_slashed (by decide) (by decide) (by decide) (by decide) walk_artifact
  · rw [artifact_lengthy]
    exact locate_lengthened (by decide) (by decide) (by decide)

end Rehearsal

end BatchRunner
