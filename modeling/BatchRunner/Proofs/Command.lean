/-
**A command tells its job.**

The arguments of an engine are one flat list, with options of any spelling in the middle and paths
below any root at the end.  Read from its end, the list still tells the program, then the context
mode and the variant, and from its beginning the time limit; what is left in between are the options.

Main results:

* `Command.lastPiece_inputs` — the last argument names the program, whatever the root;
* `Command.program_of_inputs` — **the inputs of two programs are never the same arguments**, nor do
  they end other arguments in the same way;
* `Command.tail_injective` — the variant and the context mode are told from the end;
* `Command.synthesize_injective` — **a command tells its job, its mode, its limit and its options**.
-/
import Mathlib
import BatchRunner.Command
import BatchRunner.Proofs.Store.Artifact

set_option autoImplicit false

namespace BatchRunner.Command

variable {root root' : String} {p p' : Program} {v v' : Variant} {mode mode' : Mode}
  {before before' : List String} {job job' : Job} {c c' : Config}

/-! ### The inputs of a program -/

def logName (p : Program) : String := p.token ++ "-refl.log"

theorem isName_logName (p : Program) : Path.IsName (logName p) where
  ne_empty := by simp [logName]
  no_slash hmem := by
    rw [logName, String.toList_append, List.mem_append] at hmem
    rcases hmem with hmem | hmem
    · exact (p.token_chars _ hmem).1 rfl
    · exact absurd hmem (by decide)

/-- The last name in the last of some arguments. -/
def lastPiece? (args : List String) : Option String :=
  args.getLast?.bind fun a => (Path.pieces a).getLast?

theorem inputs_ne_nil (root : String) (p : Program) : inputs root p ≠ [] := by
  unfold inputs
  cases p.layout <;> simp

/-- **The last argument names the program**, whatever the root and whichever the layout. -/
theorem lastPiece_inputs (root : String) (p : Program) :
    lastPiece? (inputs root p) = some (logName p) := by
  have hlast : ∃ dir, (inputs root p).getLast? = some (Path.join dir (logName p)) := by
    unfold inputs
    cases p.layout with
    | archive => exact ⟨Path.join root "dacapo", rfl⟩
    | directory jar => exact ⟨Path.join (Path.join root "applications") p.token, rfl⟩
  obtain ⟨dir, hlast⟩ := hlast
  rw [lastPiece?, hlast, Option.bind_some, Path.pieces_join (isName_logName p),
    List.getLast?_concat]

theorem lastPiece_append_inputs (before : List String) (root : String) (p : Program) :
    lastPiece? (before ++ inputs root p) = some (logName p) := by
  have hlast : (before ++ inputs root p).getLast? = (inputs root p).getLast? :=
    List.getLast?_append_of_ne_nil _ (inputs_ne_nil root p)
  rw [← lastPiece_inputs root p, lastPiece?, lastPiece?, hlast]

/-- **Arguments that end in the inputs of a program end in those of no other.** -/
theorem program_of_inputs (h : before ++ inputs root p = before' ++ inputs root' p') : p = p' := by
  have hlog : some (logName p) = some (logName p') := by
    rw [← lastPiece_append_inputs before root p, h, lastPiece_append_inputs]
  have htoken : p.token = p'.token := (String.append_left_inj _).1 (Option.some.inj hlog)
  exact LawfulCatalog.token_injective p p' htoken

/-- How many arguments there are depends on the program alone. -/
theorem length_inputs (root root' : String) (p : Program) :
    (inputs root p).length = (inputs root' p).length := by
  unfold inputs
  cases p.layout <;> rfl

/-! ### The variant and the context mode -/

/-- What stands between the options and the inputs. -/
def tail (v : Variant) (mode : Mode) : List String := ("-pta=" ++ v.token) :: contextOption mode

theorem getLast?_tail_default (before : List String) (v : Variant) :
    (before ++ tail v .default).getLast? = some ("-pta=" ++ v.token) := by
  simp [tail, contextOption]

theorem getLast?_tail_empty (before : List String) (v : Variant) :
    (before ++ tail v .empty).getLast? = some "-sctx=empty" := by
  simp [tail, contextOption]

/-- The option for a variant is not the one for the empty context. -/
theorem variantOption_ne (v : Variant) : "-pta=" ++ v.token ≠ "-sctx=empty" := by
  intro h
  have hsecond := congrArg (fun s => s.toList[1]?) h
  simp at hsecond

/-- The context mode is told by the last argument in front of the inputs. -/
theorem mode_of_tail (h : before ++ tail v mode = before' ++ tail v' mode') : mode = mode' := by
  have hlast := congrArg List.getLast? h
  cases mode with
  | default =>
      cases mode' with
      | default => rfl
      | empty =>
          rw [getLast?_tail_default, getLast?_tail_empty] at hlast
          exact absurd (Option.some.inj hlast) (variantOption_ne v)
  | empty =>
      cases mode' with
      | default =>
          rw [getLast?_tail_default, getLast?_tail_empty] at hlast
          exact absurd (Option.some.inj hlast).symm (variantOption_ne v')
      | empty => rfl

/-- **The variant and the context mode are told from the end**, whatever stands in front of them. -/
theorem tail_injective (h : before ++ tail v mode = before' ++ tail v' mode') :
    before = before' ∧ v = v' ∧ mode = mode' := by
  obtain rfl := mode_of_tail h
  obtain ⟨hbefore, htail⟩ := List.append_inj' h (by simp [tail])
  have htoken : v.token = v'.token := by simpa [tail] using htail
  exact ⟨hbefore, LawfulCatalog.token_injective v v' htoken, rfl⟩

/-! ### The whole command -/

theorem synthesize_eq (job : Job) (c : Config) :
    synthesize job c =
      (c.engine ++ c.globalOptions ++ tail job.variant c.contextMode)
        ++ inputs c.benchmarksRoot job.program := by
  simp [synthesize, tail]

theorem globalOptions_injective (h : c.globalOptions = c'.globalOptions) :
    c.timeout = c'.timeout ∧ c.engineOptions = c'.engineOptions := by
  obtain ⟨hlimit, hoptions⟩ := List.cons.inj h
  have hseconds : c.timeout.seconds = c'.timeout.seconds :=
    Int.repr_injective ((String.append_right_inj _).1 hlimit)
  exact ⟨congrArg Budget.mk hseconds, hoptions⟩

/-- **A command tells its job, its mode, its limit and its options**, among all commands for the same
engine: options may be spelled like anything else in a command, and the inputs may lie below any
root. -/
theorem synthesize_injective (hengine : c.engine = c'.engine)
    (h : synthesize job c = synthesize job' c') :
    job.variant = job'.variant ∧ job.program = job'.program ∧ c.contextMode = c'.contextMode ∧
      c.timeout = c'.timeout ∧ c.engineOptions = c'.engineOptions := by
  rw [synthesize_eq, synthesize_eq] at h
  have hprogram := program_of_inputs h
  rw [hprogram] at h
  obtain ⟨hfront, -⟩ := List.append_inj' h (length_inputs _ _ _)
  obtain ⟨hoptions, hvariant, hmode⟩ := tail_injective hfront
  rw [hengine] at hoptions
  obtain ⟨htimeout, hextra⟩ := globalOptions_injective (List.append_cancel_left hoptions)
  exact ⟨hvariant, hprogram, hmode, htimeout, hextra⟩

/-- A configuration whose options look like the rest of a command. -/
def disguised (root : String) : Config :=
  { Config.standard with
    benchmarksRoot := root
    timeout := ⟨-1⟩
    engineOptions := ["-pta=2o", "-sctx=empty", "-apppath"]
    contextMode := .empty }

/-- Two roots that are written differently give one command, with options that look like the rest of
it; all but the root is told by it. -/
theorem disguised_command_told :
    (disguised "bench").benchmarksRoot ≠ (disguised "bench/").benchmarksRoot ∧
    synthesize ⟨.obj2, .jpc⟩ (disguised "bench") = synthesize ⟨.obj2, .jpc⟩ (disguised "bench/") ∧
    (disguised "bench").contextMode = (disguised "bench/").contextMode ∧
      (disguised "bench").timeout = (disguised "bench/").timeout ∧
      (disguised "bench").engineOptions = (disguised "bench/").engineOptions := by
  have hsame : synthesize ⟨.obj2, .jpc⟩ (disguised "bench") =
      synthesize ⟨.obj2, .jpc⟩ (disguised "bench/") := by decide +kernel
  exact ⟨by decide, hsame, (synthesize_injective rfl hsame).2.2⟩

end BatchRunner.Command
