/-
**Which program is executed.**

The engine is what a command line gives for it, word by word, and comes first in every command.  A
text without a word gives an engine without a program; then the option that follows the engine is
taken for the program.  A command is refused as empty only if nothing at all is in it, which never
happens: the option for the time limit is always there.

Main definitions:

* `Config.program` — what is executed for the jobs of a configuration;
* `Scheduler.Due` — a job is neither cached nor predicted to fail, and its artifact can be opened;
* `Scheduler.Executes` — all that is ever executed is a given program.

Main results:

* `Command.head?_synthesize` — a command begins with the program of its configuration;
* `Host.error_of_launch` — a launch that fails is blamed on the program or on waiting for it;
* `Scheduler.executes` — **all that a scheduler ever executes is the program of its configuration**;
* `CommandLine.Options.executes_program` — which program that is for a command line.
-/
import BatchRunner.Machine.Launch
import BatchRunner.Proofs.CommandLine.Startup
import BatchRunner.Proofs.Result
import BatchRunner.Proofs.Scheduler.Accounting
import BatchRunner.Proofs.Text.Words

set_option autoImplicit false

namespace BatchRunner

/-! ### Commands -/

/-- What is executed for the jobs of a configuration: the engine, or else the option that comes
next. -/
def Config.program (c : Config) : String :=
  c.engine.headD ("-timeout=" ++ toString c.timeout.seconds)

theorem Config.program_of_engine {c : Config} (h : c.engine ≠ []) :
    c.engine.head? = some c.program := by
  obtain ⟨word, words, hengine⟩ := List.exists_cons_of_ne_nil h
  rw [program, hengine]
  rfl

theorem Config.program_of_no_engine {c : Config} (h : c.engine = []) :
    c.program = "-timeout=" ++ toString c.timeout.seconds := by
  rw [program, h]
  rfl

namespace Command

theorem engine_prefix_synthesize (job : Job) (c : Config) : c.engine <+: synthesize job c := by
  simp only [synthesize, List.append_assoc]
  exact List.prefix_append _ _

/-- A command begins with the program of its configuration. -/
theorem head?_synthesize (job : Job) (c : Config) : (synthesize job c).head? = some c.program := by
  cases hengine : c.engine with
  | nil => simp [synthesize, Config.globalOptions, Config.program, hengine]
  | cons word words => simp [synthesize, Config.program, hengine]

end Command

/-! ### Machines -/

namespace Host

variable {call : Call} {w : Host} {e : LaunchError}

/-- What does not start is blamed on the first word of the command, if there is one. -/
theorem error_of_start {program : String} (hprogram : call.argv.head? = some program)
    (h : w.start call = .error e) : ∃ source, e = .launch program source := by
  unfold start at h
  split at h
  · next first args hargv =>
      obtain rfl : first = program := by simpa [hargv] using hprogram
      by_cases hnul : (call.argv.any hasNul || hasNul call.cwd) = true
      · rw [if_pos hnul] at h
        exact ⟨_, (Except.error.inj h).symm⟩
      · rw [if_neg hnul] at h
        rcases error_of_mapError_bind h with ⟨source, -, rfl⟩ | ⟨cwd, -, h⟩
        · exact ⟨source, rfl⟩
        · rcases error_of_mapError_bind h with ⟨errno, -, rfl⟩ | ⟨w₁, -, h⟩
          · exact ⟨.os errno, rfl⟩
          · exact nomatch h
  · next hargv =>
      cases hlist : call.argv with
      | nil => simp [hlist] at hprogram
      | cons first args => exact absurd hlist (hargv first args)

/-- **A command is refused as empty exactly if nothing is in it.** -/
theorem start_eq_emptyCommand_iff : w.start call = .error .emptyCommand ↔ call.argv = [] := by
  constructor
  · intro h
    by_contra hne
    obtain ⟨program, args, hargv⟩ := List.exists_cons_of_ne_nil hne
    obtain ⟨source, hsource⟩ := error_of_start (by rw [hargv, List.head?_cons]) h
    cases hsource
  · intro h
    unfold start
    rw [h]
    rfl

/-- **A launch that fails is blamed on the program or on waiting for it.** -/
theorem error_of_launch {program : String} (hprogram : call.argv.head? = some program)
    (h : (Host.launch call w).1 = .error e) :
    ∃ source, e = .launch program source ∨ e = .wait source := by
  obtain ⟨result, w', hrun⟩ : ∃ result w', supervise none call w = (result, w') := ⟨_, _, rfl⟩
  rw [launch, hrun] at h
  cases hstart : w.start call with
  | error e' =>
      obtain ⟨rfl, -⟩ : .error e' = result ∧ w = w' := by simpa [supervise, hstart] using hrun
      obtain rfl : e' = e := Except.error.inj h
      obtain ⟨source, hsource⟩ := error_of_start hprogram hstart
      exact ⟨source, .inl hsource⟩
  | ok begun =>
      -- once the program runs, only waiting for it can fail
      obtain ⟨ending, rfl⟩ : ∃ ending : Supervision.Ending, ending.result = result := by
        rw [supervise, hstart] at hrun
        exact ⟨_, congrArg Prod.fst hrun⟩
      cases ending with
      | exited _ | deadline => exact nomatch h
      | waitFailed source => exact ⟨source, .inr (Except.error.inj h).symm⟩
      | abandoned => exact ⟨_, .inr (Except.error.inj h).symm⟩

end Host

/-! ### What is said about failures -/

/-- A message that begins with another letter is another message. -/
theorem append_ne_empty {start rest : String} {c : Char} (hstart : start.toList.head? = some c)
    (hc : c ≠ 'e') : start ++ rest ≠ LaunchError.emptyCommand.message := by
  intro h
  have hhead : (start ++ rest).toList.head? = some 'e' := by
    rw [h]
    rfl
  rw [String.toList_append, List.head?_append, hstart] at hhead
  exact hc (Option.some.inj hhead)

/-- Only an empty command is said to be empty. -/
theorem LaunchError.message_ne_empty {e : LaunchError} (h : e ≠ .emptyCommand) :
    e.message ≠ LaunchError.emptyCommand.message := by
  cases e with
  | emptyCommand => exact absurd rfl h
  | launch program source =>
      have hmessage : (LaunchError.launch program source).message =
          "failed to launch " ++ (program ++ ": " ++ source.message) := by
        rw [← String.append_assoc, ← String.append_assoc]
        rfl
      rw [hmessage]
      exact append_ne_empty rfl (by decide)
  | wait source => exact append_ne_empty rfl (by decide)

@[inherit_doc LaunchError.message_ne_empty]
theorem StoreError.message_ne_empty (e : StoreError) :
    e.message ≠ LaunchError.emptyCommand.message := by
  cases e with
  | conflict path =>
      have hmessage : (StoreError.conflict path).message =
          "cannot create output dir " ++ (path ++ ": already exists as a file") := by
        rw [← String.append_assoc]
        rfl
      rw [hmessage]
      exact append_ne_empty rfl (by decide)
  | io path source =>
      have hmessage : (StoreError.io path source).message =
          "output store io error at " ++ (path ++ ": " ++ source.message) := by
        rw [← String.append_assoc, ← String.append_assoc]
        rfl
      rw [hmessage]
      exact append_ne_empty rfl (by decide)

/-! ### Schedulers -/

namespace Scheduler

variable {ε : Type}

/-- A job is to be launched: it is neither cached nor predicted to fail, and its artifact can be opened
unless results go to the console. -/
structure Due (s : Scheduler) (job : Job) (t : FileTree) : Prop where
  unflagged : s.predictor.predicts job = false
  fresh : s.config.interactive = false → s.store.holds job t = false
  opens : s.config.interactive = false → ∃ opened, s.store.openForWrite job t = .ok opened

/-- **All that is ever executed is the given program.** -/
structure Executes (s : Scheduler) (program : String) : Prop where
  /-- Every command begins with the engine, and with the program. -/
  begins : ∀ {ε : Type} (launch : Launcher ε) (jobs : List Job) (w : World ε),
    ∀ call ∈ s.calls launch jobs w,
      s.config.engine <+: call.argv ∧ call.argv.head? = some program
  /-- A job that is to be launched is, and what becomes of it is what the launcher answers. -/
  launches : ∀ {ε : Type} (launch : Launcher ε) (jobs : List Job) (w : World ε),
    ∀ v ∈ s.visits launch jobs w, s.Due v.job v.before.files →
      ∃ x ∈ s.transcript launch jobs w, v.call? = some x.1 ∧ v.outcome = outcomeOf x.2
  /-- If that fails on a machine, the reason is the program, or that its end could not be waited
  for. -/
  blames : ∀ (jobs : List Job) (w : Host), ∀ v ∈ s.visits Host.launch jobs w,
    s.Due v.job v.before.files → ∀ reason, v.outcome = .launchFailed reason →
      ∃ source, reason = (LaunchError.launch program source).message ∨
        reason = (LaunchError.wait source).message
  /-- No job of a machine has an empty command. -/
  nonempty : ∀ (jobs : List Job) (w : Host), ∀ r ∈ (s.run Host.launch jobs w).1.records,
    r.outcome ≠ .launchFailed LaunchError.emptyCommand.message

variable {s : Scheduler} {launch : Launcher ε} {jobs : List Job} {w : World ε} {v : Visit ε}
  {x : Exchange}

/-- The launcher is asked for the call of the job, and it is its answer that counts. -/
theorem exists_of_exchange? {job : Job} (h : s.exchange? launch job w = some x) :
    ∃ sink w₀, x = (s.call job sink, (launch (s.call job sink) w₀).1) := by
  unfold exchange? at h
  split at h
  · exact nomatch h
  · split at h
    · exact nomatch h
    · split at h
      · exact ⟨.inherit, _, (Option.some.inj h).symm⟩
      · split at h
        · next handle t _ => exact ⟨.file handle, _, (Option.some.inj h).symm⟩
        · exact nomatch h

theorem exists_exchange_of_due (launch : Launcher ε) {job : Job} (h : s.Due job w.files) :
    ∃ x, s.exchange? launch job w = some x := by
  unfold exchange?
  cases hi : s.config.interactive with
  | true => simp [h.unflagged]
  | false =>
      obtain ⟨opened, hopened⟩ := h.opens hi
      simp [h.fresh hi, h.unflagged, hopened]

/-- Every command begins with the engine, and with the program. -/
theorem begins_of_exchange? {job : Job} (h : s.exchange? launch job w = some x) :
    s.config.engine <+: x.1.argv ∧ x.1.argv.head? = some s.config.program := by
  obtain ⟨sink, w₀, rfl⟩ := exists_of_exchange? h
  exact ⟨Command.engine_prefix_synthesize job s.config, Command.head?_synthesize job s.config⟩

/-- What becomes of a job that is launched is what the launcher answers. -/
theorem answered_of_exchange? (hv : v ∈ s.visits launch jobs w)
    (hx : s.exchange? launch v.job v.before = some x) :
    x ∈ s.transcript launch jobs w ∧ v.call? = some x.1 ∧ v.outcome = outcomeOf x.2 := by
  refine ⟨?_, ?_⟩
  · rw [transcript_eq]
    exact List.mem_filterMap.2 ⟨v, hv, hx⟩
  · rw [eq_visit_of_mem_visitsFrom hv]
    have hcall : s.callOf? v.job v.before.files = some x.1 := by
      rw [← map_fst_exchange? s launch, hx, Option.map_some]
    refine ⟨hcall, ?_⟩
    cases s.account launch v.job v.before with
    | skipped silent | unopened _ silent => exact nomatch silent.symm.trans hx
    | answered x' exchanged _ outcome =>
        obtain rfl : x' = x := Option.some.inj (exchanged.symm.trans hx)
        exact outcome

/-- Why a launch fails on a machine. -/
theorem reason_of_answer {call : Call} {w₀ : Host} {program reason : String}
    (hprogram : call.argv.head? = some program)
    (h : outcomeOf (Host.launch call w₀).1 = .launchFailed reason) :
    ∃ source, reason = (LaunchError.launch program source).message ∨
      reason = (LaunchError.wait source).message := by
  cases hanswer : (Host.launch call w₀).1 with
  | ok status =>
      rw [hanswer] at h
      cases status <;> exact nomatch h
  | error e =>
      rw [hanswer] at h
      obtain rfl : e.message = reason := Outcome.launchFailed.inj h
      obtain ⟨source, rfl | rfl⟩ := Host.error_of_launch hprogram hanswer
      · exact ⟨source, .inl rfl⟩
      · exact ⟨source, .inr rfl⟩

/-- Why a job fails on a machine: its artifact could not be opened, or the launch failed. -/
theorem reason_of_visit {w : Host} {v : Visit Machine} {reason : String}
    (hv : v ∈ s.visits Host.launch jobs w) (h : v.outcome = .launchFailed reason) :
    (∃ e : StoreError, reason = e.message ∧ ¬ s.Due v.job v.before.files) ∨
      ∃ source, reason = (LaunchError.launch s.config.program source).message ∨
        reason = (LaunchError.wait source).message := by
  rw [eq_visit_of_mem_visitsFrom hv] at h
  cases s.account Host.launch v.job v.before with
  | skipped _ _ outcome => rcases outcome with outcome | outcome <;> exact nomatch outcome.symm.trans h
  | unopened e silent _ outcome =>
      refine .inl ⟨e, Outcome.launchFailed.inj (h.symm.trans outcome), fun hdue => ?_⟩
      obtain ⟨x, hx⟩ := exists_exchange_of_due Host.launch hdue
      exact nomatch silent.symm.trans hx
  | answered x exchanged _ outcome =>
      have hbegins := begins_of_exchange? exchanged
      obtain ⟨sink, w₀, rfl⟩ := exists_of_exchange? exchanged
      exact .inr (reason_of_answer hbegins.2 (outcome.symm.trans h))

/-- **All that a scheduler ever executes is the program of its configuration.** -/
theorem executes (s : Scheduler) : s.Executes s.config.program where
  begins launch jobs w call hcall := by
    rw [← map_fst_transcript, transcript_eq] at hcall
    obtain ⟨x, hx, rfl⟩ := List.mem_map.1 hcall
    obtain ⟨v, -, hexchanged⟩ := List.mem_filterMap.1 hx
    exact begins_of_exchange? hexchanged
  launches launch jobs w v hv hdue := by
    obtain ⟨x, hx⟩ := exists_exchange_of_due launch hdue
    exact ⟨x, answered_of_exchange? hv hx⟩
  blames jobs w v hv hdue reason hreason := by
    rcases reason_of_visit hv hreason with ⟨e, -, hnot⟩ | h
    · exact absurd hdue hnot
    · exact h
  nonempty jobs w r hr hempty := by
    rw [(s.run_eq_visits Host.launch jobs w).1] at hr
    obtain ⟨v, hv, rfl⟩ := List.mem_map.1 hr
    rcases reason_of_visit hv hempty with ⟨e, h, -⟩ | ⟨source, h | h⟩
    · exact e.message_ne_empty h.symm
    · exact LaunchError.message_ne_empty (by simp) h.symm
    · exact LaunchError.message_ne_empty (by simp) h.symm

end Scheduler

namespace CommandLine

/-- **Which program is executed by a command line.**  The engine is the words of the text given for
it, and every command begins with it.  If there is a word, the first one is the program.  If the text
is blank, jobs are launched all the same, and the program is the option for the time limit; no command
is refused as empty. -/
theorem Options.executes_program (o : Options) (cwd : String) (predictor : Exclusion.Predictor) :
    (Scheduler.mk (o.config cwd) predictor).Executes (o.config cwd).program ∧
    Text.Divided o.engine.toList ((o.config cwd).engine.map String.toList) ∧
    ((o.config cwd).engine = [] ↔ ∀ c ∈ o.engine.toList, Text.isWhite c = true) ∧
    ((o.config cwd).engine ≠ [] →
      (o.config cwd).engine.head? = some (o.config cwd).program) ∧
    ((o.config cwd).engine = [] → (o.config cwd).program = "-timeout=" ++ toString o.timeout) ∧
    ∀ (call : Call) (w : Host), w.start call = .error .emptyCommand ↔ call.argv = [] :=
  ⟨Scheduler.executes _, Text.divided_words o.engine, Text.words_eq_nil_iff,
    Config.program_of_engine, Config.program_of_no_engine,
    fun _ _ => Host.start_eq_emptyCommand_iff⟩

end CommandLine

namespace Rehearsal

open CommandLine

/-- Arguments by which the engine has no word. -/
def wordless : List String := ["--engine", "   ", "--engine-dir", ".", "--print", "fop", "1t"]

def blank : Options where
  targets := ["fop", "1t"]
  all := false
  clean := false
  print := true
  emptyContext := false
  outputPath := Config.standard.outputRoot
  benchmarks := Config.standard.benchmarksRoot
  engineDir := "."
  engine := "   "
  timeout := Config.standard.timeout.seconds
  engineOptions := []
  exclusions := none
  report := none
  verbose := false
  json := false

def enginelessScheduler : Scheduler := blank.scheduler (stage [] []) .builtin

/-- A job without an engine is handed to the launcher, which takes an option for the program and ends
the job as any other; on no machine is the job refused for want of an engine. -/
theorem option_executed :
    Options.parse (fun _ => none) wordless = .ok blank ∧ blank.jobs = .ok [fop] ∧
      enginelessScheduler.config.engine = [] ∧ enginelessScheduler.Due fop (stage [] []) ∧
      (enginelessScheduler.calls (launch []) [fop] (begin [] [])).map (fun call => call.argv.head?) =
        [some "-timeout=86400"] ∧
      (enginelessScheduler.run (launch []) [fop] (begin [] [])).1.records.map Record.outcome = [.completed] ∧
      ∀ w : Host, ∀ r ∈ (enginelessScheduler.run Host.launch [fop] w).1.records,
        r.outcome ≠ .launchFailed "empty engine command" := by
  have hengine : enginelessScheduler.config.engine = [] := Text.words_eq_nil_iff.2 (List.all_eq_true.1 rfl)
  have hdue : enginelessScheduler.Due fop (stage [] []) := ⟨rfl, Bool.noConfusion, Bool.noConfusion⟩
  exact ⟨rfl, rfl, hengine, hdue, rfl, rfl, (Scheduler.executes enginelessScheduler).nonempty [fop]⟩

end Rehearsal

end BatchRunner
