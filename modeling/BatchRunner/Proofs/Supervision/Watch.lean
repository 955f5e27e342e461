/-
**What can happen while an engine is watched.**

While an engine is watched, its group goes its own way: the processes in it write to the artifact
through the handle they share, start others and end, whenever they like.  Who watches over them sees
the leader end or the budget run out, and then does what is to be done, one act after the other, with
the group still running in between.  All that is assumed of signals is that a group which has been
signalled is gone by the time its leader has been taken note of.

Main definitions:

* `Supervision.Watch` — an engine that is watched, and where its output goes;
* `Supervision.Event`, `Supervision.Watch.Step` — what can happen next;
* `Supervision.Watch.Execution` — what can happen from beginning to end;
* `Supervision.Watch.Invariant` — what is true throughout;
* `Supervision.Watch.Minded` — on a machine, nobody does anything to the artifact but append to it.

Main results:

* `Supervision.Watch.Step.invariant`, `Supervision.Watch.Execution.invariant` — **what is true
  throughout a watch**, kept by one event and by any number of them;
* `Supervision.Watch.Execution.gone` — a group that is gone writes nothing more;
* `Supervision.Watch.execution_of_reaches` — **what happens on a machine is one of the things that can
  happen**, move by move.
-/
import BatchRunner.Machine.Launch
import BatchRunner.Proofs.Supervision.Advance

set_option autoImplicit false

namespace BatchRunner.Supervision

/-! ### What can happen -/

/-- An engine that is watched and whose output goes into a file. -/
structure Watch where
  leader : Nat
  /-- The number that the file is open under, for the whole group and for who watches over it. -/
  output : Nat
  /-- The number of the file. -/
  artifact : Nat
  budget : Budget

/-- How far a watch has got. -/
inductive Phase where
  | watching
  /-- The watch has ended, and there are things left to do. -/
  | closing (e : Ending) (left : List Act)

structure Moment where
  host : Host
  phase : Phase
  /-- Whether the group has been signalled. -/
  signalled : Bool

/-- Something that happens during a watch or after it. -/
inductive Event where
  /-- A process of the group writes to the artifact. -/
  | wrote (b : Bytes)
  /-- A process of the group starts another one. -/
  | forked
  /-- Processes end. -/
  | died
  /-- Something else happens that does not concern the artifact. -/
  | elsewhere
  /-- The watch ends. -/
  | ended (e : Ending)
  | did (a : Act)
  deriving DecidableEq, Repr

def written (trace : List Event) : Bytes :=
  trace.flatMap fun
    | .wrote b => b
    | _ => []

def done (trace : List Event) : List Act :=
  trace.filterMap fun
    | .did a => some a
    | _ => none

/-- Processes end, each in the given way, if any is given. -/
def fell (w : Host) (how : Proc → Option Nat) : Host :=
  w.withMachine { w.outer with
    procs := w.outer.procs.map fun p => if p.ended.isNone then { p with ended := how p } else p }

namespace Watch

def engine (x : Watch) : Host.Engine := ⟨x.leader, some (.file x.output)⟩

/-- Whether a process is in the group and has not ended. -/
def IsMember (x : Watch) (p : Proc) : Prop := p.group = x.leader ∧ p.ended = none

/-- Whether any process of the group has not ended. -/
def Live (x : Watch) (w : Host) : Prop := ∃ p ∈ w.outer.procs, x.IsMember p

/-- Whether the artifact, its handle and the group are left alone, but for processes that end or
leave. -/
structure Spares (x : Watch) (w w' : Host) : Prop where
  handle : w'.outer.handles[x.output]? = w.outer.handles[x.output]?
  file : w'.files.file? x.artifact = w.files.file? x.artifact
  members : x.Live w' → x.Live w

/-- Whether the watch can end so.  The budget can run out whenever there is one. -/
def Sees (x : Watch) (w : Host) : Ending → Prop
  | .exited status => w.leaderEnd? x.engine = some status
  | .deadline => x.budget.limit? ≠ none
  | .waitFailed _ => True
  | .abandoned => True

/-- **What can happen next.**  A signal does not take effect at once, but the leader of a group that
has been signalled is taken note of only when the whole group has ended. -/
inductive Step (x : Watch) : Moment → Event → Moment → Prop where
  | wrote {m : Moment} (b : Bytes) (writer : x.Live m.host) :
      Step x m (.wrote b) { m with host := m.host.emit (.file x.output) b }
  | forked {m : Moment} (make : Nat → Proc) (parent : x.Live m.host) :
      Step x m .forked { m with host := (m.host.spawn make).2 }
  | died {m : Moment} (how : Proc → Option Nat) : Step x m .died { m with host := fell m.host how }
  | elsewhere {m : Moment} (w : Host) (spares : x.Spares m.host w) :
      Step x m .elsewhere { m with host := w }
  | ended {m : Moment} (e : Ending) (elapsed : Nat) (watching : m.phase = .watching)
      (sees : x.Sees m.host e) :
      Step x m (.ended e) { m with phase := .closing e (e.acts x.budget elapsed) }
  | signalled {m : Moment} {e : Ending} {left : List Act}
      (closing : m.phase = .closing e (.signalGroup :: left)) :
      Step x m (.did .signalGroup) { m with phase := .closing e left, signalled := true }
  | did {m : Moment} {e : Ending} {a : Act} {left : List Act}
      (closing : m.phase = .closing e (a :: left)) (other : a ≠ .signalGroup)
      (gone : a = .reapLeader → m.signalled = true → ¬ x.Live m.host) :
      Step x m (.did a) { m with host := m.host.act x.engine a, phase := .closing e left }

/-- **What can happen from one moment to another.** -/
inductive Execution (x : Watch) : Moment → List Event → Moment → Prop where
  | nil (m : Moment) : Execution x m [] m
  | snoc {m m' m'' : Moment} {trace : List Event} {event : Event} (past : Execution x m trace m')
      (step : Step x m' event m'') : Execution x m (trace ++ [event]) m''

end Watch

/-- Whether a watch has returned a status. -/
def Moment.Returned (m : Moment) (status : Status) : Prop :=
  ∃ e, m.phase = .closing e [] ∧ e.result = .ok (some status)

namespace Watch

variable {x : Watch} {w w' : Host} {bytes b : Bytes} {m m' m'' : Moment} {trace trace' : List Event}
  {event : Event}

/-! ### The artifact -/

/-- What the artifact holds, with the shared handle at its end. -/
structure Holds (x : Watch) (w : Host) (bytes : Bytes) : Prop where
  handle : w.outer.handles[x.output]? = some ⟨⟨.file x.artifact, bytes.length, false⟩, .writing⟩
  file : ∃ f, w.files.file? x.artifact = some f ∧ f.bytes = bytes

theorem Holds.congr (h : x.Holds w bytes)
    (hhandle : w'.outer.handles[x.output]? = w.outer.handles[x.output]?)
    (hfile : w'.files.file? x.artifact = w.files.file? x.artifact) : x.Holds w' bytes :=
  ⟨hhandle.trans h.handle, hfile ▸ h.file⟩

/-- What is written through the shared handle comes after what is there. -/
theorem Holds.emit (h : x.Holds w bytes) (b : Bytes) :
    x.Holds (w.emit (.file x.output) b) (bytes ++ b) := by
  obtain ⟨f, hf, rfl⟩ := h.file
  by_cases hb : b = []
  · simpa [Host.emit, hb] using h
  · have hwrite : w.files.write ⟨.file x.artifact, f.bytes.length, false⟩ b =
        .ok (w.files.setFile x.artifact { f with bytes := f.bytes ++ b, time := w.files.now },
          ⟨.file x.artifact, f.bytes.length + b.length, false⟩) := by
      simp [FileTree.write, hf]
    have hlt : x.output < w.outer.handles.length := (List.getElem?_eq_some_iff.1 h.handle).1
    let grown : File := { f with bytes := f.bytes ++ b, time := w.files.now }
    let moved : OpenFile := ⟨⟨.file x.artifact, f.bytes.length + b.length, false⟩, .writing⟩
    have hemit : w.emit (.file x.output) b = { w with
        files := w.files.setFile x.artifact grown
        outer := { w.outer with handles := w.outer.handles.set x.output moved } } := by
      simp [Host.emit, hb, h.handle, hwrite, grown, moved]
    rw [hemit]
    refine ⟨by simp [hlt, moved], grown, ?_, rfl⟩
    exact FileTree.file?_setFile_self (by simp [hf]) _

/-- The notice is written like anything else. -/
theorem Holds.addNotice (h : x.Holds w bytes) :
    x.Holds (w.act x.engine .addNotice) (bytes ++ bytesOf noticeLine) := by
  have hopen : w.writeRefusal? (.file x.output) = none := by
    simp [Host.writeRefusal?, Host.accessOf, h.handle]
  have hact : w.act x.engine .addNotice = w.emit (.file x.output) (bytesOf noticeLine) := by
    simp [Host.act, engine, hopen]
  rw [hact]
  exact h.emit _

/-- No other act concerns the artifact. -/
theorem Holds.act (h : x.Holds w bytes) {a : Act} (ha : a ≠ .addNotice) :
    x.Holds (w.act x.engine a) bytes := by
  cases a with
  | addNotice => exact absurd rfl ha
  | _ => exact h.congr rfl rfl

/-! ### The group -/

theorem procs_emit (w : Host) (s : Stream) (b : Bytes) :
    (w.emit s b).outer.procs = w.outer.procs := by
  unfold Host.emit
  split
  · rfl
  · split <;> try rfl
    split
    · rfl
    · split <;> rfl

theorem live_of_fell {how : Proc → Option Nat} (h : x.Live (fell w how)) : x.Live w := by
  obtain ⟨q, hq, hgroup, hlive⟩ := h
  obtain ⟨p, hp, rfl⟩ := List.mem_map.1 hq
  cases hended : p.ended with
  | none =>
      refine ⟨p, hp, ?_, hended⟩
      simpa [hended] using hgroup
  | some status => simp [hended] at hlive

/-- Nobody comes to life by what is done at the end of a watch. -/
theorem live_of_act {a : Act} (h : x.Live (w.act x.engine a)) : x.Live w := by
  cases a with
  | signalGroup =>
      obtain ⟨q, hq, hmember⟩ := h
      obtain ⟨p, hp, rfl⟩ := List.mem_map.1 hq
      split at hmember
      · exact absurd hmember.2 (by simp [Proc.signal])
      · exact ⟨p, hp, hmember⟩
  | reapLeader =>
      obtain ⟨p, hp, hmember⟩ := h
      exact ⟨p, (List.mem_filter.1 (List.mem_filter.1 hp).1).1, hmember⟩
  | report event => exact h
  | addNotice =>
      obtain ⟨p, hp, hmember⟩ := h
      have hprocs : (w.act x.engine .addNotice).outer.procs = w.outer.procs := by
        simp only [Host.act, engine]
        split
        · rfl
        · exact procs_emit w _ _
      exact ⟨p, hprocs ▸ hp, hmember⟩

/-! ### The order of acts -/

/-- The notice comes after the signal, and after the leader has been taken note of. -/
theorem acts_of_notice {e : Ending} {budget : Budget} {elapsed : Nat} {past left : List Act}
    (h : past ++ left = e.acts budget elapsed) (hnotice : .addNotice ∈ past) :
    .signalGroup ∈ past ∧ .reapLeader ∈ past := by
  cases e with
  | deadline =>
      -- the first two acts are the signal and the leader, and neither of them is the notice
      rcases past with _ | ⟨a, _ | ⟨b, past⟩⟩
      · exact absurd hnotice (by simp)
      · obtain ⟨rfl, -⟩ : a = .signalGroup ∧ _ := by simpa [Ending.acts] using h
        exact absurd hnotice (by simp)
      · obtain ⟨rfl, rfl, -⟩ : a = .signalGroup ∧ b = .reapLeader ∧ _ := by
          simpa [Ending.acts] using h
        simp
  | _ =>
      have hall : .addNotice ∈ past ++ left := List.mem_append_left left hnotice
      rw [h] at hall
      simp [Ending.acts] at hall

/-- The notice is added once. -/
theorem not_noticed_before {e : Ending} {budget : Budget} {elapsed : Nat} {past left : List Act}
    (h : past ++ .addNotice :: left = e.acts budget elapsed) : .addNotice ∉ past := by
  intro hnotice
  have hcount : (past ++ .addNotice :: left).count .addNotice ≤ 1 := by
    rw [h]
    cases e <;> simp [Ending.acts]
  have hpast : 1 ≤ past.count .addNotice := List.one_le_count_iff.2 hnotice
  rw [List.count_append, List.count_cons_self] at hcount
  omega

/-- The signal comes first. -/
theorem past_of_signal {e : Ending} {budget : Budget} {elapsed : Nat} {past left : List Act}
    (h : past ++ .signalGroup :: left = e.acts budget elapsed) : past = [] := by
  cases past with
  | nil => rfl
  | cons a past =>
      have htail : .signalGroup ∈ (e.acts budget elapsed).tail := by
        rw [← h]
        simp
      cases e <;> simp [Ending.acts] at htail

/-! ### What is true throughout -/

/-- What has been added to the output of the group. -/
def added (trace : List Event) : Bytes :=
  if .addNotice ∈ done trace then bytesOf noticeLine else []

/-- Whether what has been done fits how far a watch has got. -/
def Fits (x : Watch) (trace : List Event) : Phase → Prop
  | .watching => done trace = []
  | .closing e left => .ended e ∈ trace ∧ (e = .deadline → x.budget.limit? ≠ none) ∧
      ∃ elapsed, done trace ++ left = e.acts x.budget elapsed

/-- **What is true throughout a watch** that began with `start` in the artifact. -/
structure Invariant (x : Watch) (start : Bytes) (trace : List Event) (m : Moment) : Prop where
  holds : x.Holds m.host (start ++ written trace ++ added trace)
  fits : x.Fits trace m.phase
  signalled : m.signalled = true ↔ .signalGroup ∈ done trace
  gone : .signalGroup ∈ done trace → .reapLeader ∈ done trace → ¬ x.Live m.host

@[simp] theorem written_append (trace trace' : List Event) :
    written (trace ++ trace') = written trace ++ written trace' := by
  simp [written]

@[simp] theorem done_append (trace trace' : List Event) :
    done (trace ++ trace') = done trace ++ done trace' := by
  simp [done]

theorem Invariant.of_watching {start : Bytes} (h : x.Invariant start trace m)
    (hwatching : m.phase = .watching) : done trace = [] := by
  have hfits := h.fits
  rwa [hwatching] at hfits

theorem Invariant.of_closing {start : Bytes} {e : Ending} {left : List Act}
    (h : x.Invariant start trace m) (hclosing : m.phase = .closing e left) :
    .ended e ∈ trace ∧ (e = .deadline → x.budget.limit? ≠ none) ∧
      ∃ elapsed, done trace ++ left = e.acts x.budget elapsed := by
  have hfits := h.fits
  rwa [hclosing] at hfits

/-- As long as there is a group, there is no notice. -/
theorem Invariant.not_noticed {start : Bytes} (h : x.Invariant start trace m) (hlive : x.Live m.host) :
    .addNotice ∉ done trace := by
  intro hnotice
  cases hphase : m.phase with
  | watching => simp [h.of_watching hphase] at hnotice
  | closing e left =>
      obtain ⟨-, -, elapsed, hacts⟩ := h.of_closing hphase
      obtain ⟨hsignal, hreap⟩ := acts_of_notice hacts hnotice
      exact h.gone hsignal hreap hlive

/-- An event that is not an act, after which the artifact holds what it should and nobody has come to
life who was not there. -/
theorem Invariant.passive {start : Bytes} (h : x.Invariant start trace m) (hdone : done [event] = [])
    (hphase : m'.phase = m.phase) (hsignalled : m'.signalled = m.signalled)
    (hholds : x.Holds m'.host (start ++ written (trace ++ [event]) ++ added trace))
    (hlive : x.Live m'.host → x.Live m.host) : x.Invariant start (trace ++ [event]) m' := by
  have hsame : done (trace ++ [event]) = done trace := by rw [done_append, hdone, List.append_nil]
  refine ⟨?_, ?_, ?_, ?_⟩
  · simpa [added, hsame] using hholds
  · rw [hphase]
    cases hp : m.phase with
    | watching => exact hsame.trans (h.of_watching hp)
    | closing e left =>
        obtain ⟨hended, hlimit, elapsed, hacts⟩ := h.of_closing hp
        exact ⟨List.mem_append_left _ hended, hlimit, elapsed, by rw [hsame, hacts]⟩
  · rw [hsignalled, hsame]
    exact h.signalled
  · rw [hsame]
    exact fun hsignal hreap hl => h.gone hsignal hreap (hlive hl)

/-- An event that is neither an act nor a write, and leaves the artifact and the group alone. -/
theorem Invariant.spared {start : Bytes} (h : x.Invariant start trace m) (hdone : done [event] = [])
    (hwritten : written [event] = []) (hphase : m'.phase = m.phase)
    (hsignalled : m'.signalled = m.signalled) (hspares : x.Spares m.host m'.host) :
    x.Invariant start (trace ++ [event]) m' := by
  refine h.passive hdone hphase hsignalled ?_ hspares.members
  rw [written_append, hwritten, List.append_nil]
  exact h.holds.congr hspares.handle hspares.file

/-- **One event keeps what is true.** -/
theorem Step.invariant {start : Bytes} (hs : x.Step m event m') (h : x.Invariant start trace m) :
    x.Invariant start (trace ++ [event]) m' := by
  cases hs with
  | wrote b writer =>
      -- somebody is alive, so there is no notice yet that this could follow
      have hadded : added trace = [] := by simp [added, h.not_noticed writer]
      have hwritten : written (trace ++ [.wrote b]) = written trace ++ b := by simp [written]
      refine h.passive rfl rfl rfl ?_ fun _ => writer
      simpa [hwritten, hadded] using h.holds.emit b
  | forked make parent => exact h.spared rfl rfl rfl rfl ⟨rfl, rfl, fun _ => parent⟩
  | died how => exact h.spared rfl rfl rfl rfl ⟨rfl, rfl, live_of_fell⟩
  | elsewhere w spares => exact h.spared rfl rfl rfl rfl spares
  | ended e elapsed watching sees =>
      have hnone := h.of_watching watching
      have hdone : done (trace ++ [.ended e]) = done trace := by simp [done]
      have hwritten : written (trace ++ [.ended e]) = written trace := by simp [written]
      refine ⟨?_, ⟨by simp, ?_, elapsed, by rw [hdone, hnone]; rfl⟩, ?_, ?_⟩
      · rw [hwritten, added, hdone]
        exact h.holds
      · rintro rfl
        exact sees
      · rw [hdone]
        exact h.signalled
      · rw [hdone]
        exact h.gone
  | signalled closing =>
      obtain ⟨hended, hlimit, elapsed, hacts⟩ := h.of_closing closing
      have hfirst := past_of_signal hacts
      have hdone : done (trace ++ [.did .signalGroup]) = [.signalGroup] := by
        rw [done_append, hfirst]
        rfl
      have hwritten : written (trace ++ [.did .signalGroup]) = written trace := by simp [written]
      have hadded : added (trace ++ [.did .signalGroup]) = added trace := by
        simp [added, hdone, hfirst]
      refine ⟨?_, ⟨List.mem_append_left _ hended, hlimit, elapsed, ?_⟩, ?_, ?_⟩
      · rw [hwritten, hadded]
        exact h.holds
      · rw [hdone, ← hacts, hfirst]
        rfl
      · simp [hdone]
      · simp [hdone]
  | @did e a left closing other gone =>
      obtain ⟨hended, hlimit, elapsed, hacts⟩ := h.of_closing closing
      have hdone : done (trace ++ [.did a]) = done trace ++ [a] := by simp [done]
      have hwritten : written (trace ++ [.did a]) = written trace := by simp [written]
      refine ⟨?_, ⟨List.mem_append_left _ hended, hlimit, elapsed, ?_⟩, ?_, ?_⟩
      · rw [hwritten]
        by_cases ha : a = .addNotice
        · subst ha
          -- the notice is added once, so it comes right after what the group wrote
          have hbefore : added trace = [] := by simp [added, not_noticed_before hacts]
          have hafter : added (trace ++ [.did .addNotice]) = bytesOf noticeLine := by
            simp [added, hdone]
          rw [hafter]
          simpa [hbefore] using h.holds.addNotice
        · have hsame : added (trace ++ [.did a]) = added trace := by
            simp [added, hdone, Ne.symm ha]
          rw [hsame]
          exact h.holds.act ha
      · rw [hdone, List.append_assoc]
        exact hacts
      · simpa [hdone, Ne.symm other] using h.signalled
      · intro hsignal hreap hlive
        have hsignal' : .signalGroup ∈ done trace := by simpa [hdone, Ne.symm other] using hsignal
        -- the group is gone when its leader is taken note of, and it does not come back
        by_cases ha : a = .reapLeader
        · exact gone ha (h.signalled.2 hsignal') (live_of_act hlive)
        · have hreap' : .reapLeader ∈ done trace := by simpa [hdone, Ne.symm ha] using hreap
          exact h.gone hsignal' hreap' (live_of_act hlive)

/-- **Any number of events keep what is true.** -/
theorem Execution.invariant {start : Bytes} {past : List Event} (hrun : x.Execution m trace m')
    (h : x.Invariant start past m) : x.Invariant start (past ++ trace) m' := by
  induction hrun with
  | nil => simpa using h
  | snoc _ step ih =>
      rw [← List.append_assoc]
      exact step.invariant ih

/-! ### A group that is gone -/

/-- A group that is gone writes nothing and does not come back. -/
theorem Step.gone (hs : x.Step m event m') (h : ¬ x.Live m.host) :
    written [event] = [] ∧ ¬ x.Live m'.host := by
  cases hs with
  | wrote b writer => exact absurd writer h
  | forked make parent => exact absurd parent h
  | died how => exact ⟨rfl, mt live_of_fell h⟩
  | elsewhere w spares => exact ⟨rfl, mt spares.members h⟩
  | ended | signalled => exact ⟨rfl, h⟩
  | did => exact ⟨rfl, mt live_of_act h⟩

theorem Execution.gone (hrun : x.Execution m trace m') (h : ¬ x.Live m.host) :
    written trace = [] ∧ ¬ x.Live m'.host := by
  induction hrun with
  | nil => exact ⟨rfl, h⟩
  | snoc _ step ih =>
      obtain ⟨hpast, hgone⟩ := ih
      obtain ⟨hnow, hstill⟩ := step.gone hgone
      exact ⟨by rw [written_append, hpast, hnow, List.append_nil], hstill⟩

/-! ### One execution after another -/

theorem Execution.append (hrun : x.Execution m trace m') (hlater : x.Execution m' trace' m'') :
    x.Execution m (trace ++ trace') m'' := by
  induction hlater with
  | nil => simpa using hrun
  | snoc _ step ih =>
      rw [← List.append_assoc]
      exact .snoc ih step

theorem Step.execution (hs : x.Step m event m') : x.Execution m [event] m' := .snoc (.nil m) hs

/-! ### Machines -/

/-- Something is appended to the artifact through the shared handle, if anything and only while the
group lives; else the artifact is left alone. -/
def Minds (x : Watch) (w w' : Host) : Prop :=
  ∃ b, (b ≠ [] → x.Live w) ∧ x.Spares (w.emit (.file x.output) b) w'

/-- **Whoever can do something minds the artifact**, whatever a machine gets to. -/
def Minded (x : Watch) (w : Host) : Prop :=
  ∀ v p, Host.Reaches w v → p ∈ v.outer.procs → v.isReady p = true → x.Minds v (v.takeStep p)

theorem Minds.execution (h : x.Minds w w') (phase : Phase) (signalled : Bool) :
    ∃ trace, x.Execution ⟨w, phase, signalled⟩ trace ⟨w', phase, signalled⟩ ∧ done trace = [] := by
  obtain ⟨b, hlive, hspares⟩ := h
  have hlast : x.Execution ⟨w.emit (.file x.output) b, phase, signalled⟩ [.elsewhere]
      ⟨w', phase, signalled⟩ := Step.execution (.elsewhere w' hspares)
  by_cases hb : b = []
  · subst hb
    exact ⟨_, hlast, rfl⟩
  · have hwrote : x.Execution ⟨w, phase, signalled⟩ [.wrote b]
        ⟨w.emit (.file x.output) b, phase, signalled⟩ := Step.execution (.wrote b (hlive hb))
    exact ⟨_, hwrote.append hlast, rfl⟩

theorem spares_align (w : Host) : x.Spares w w.align := by
  obtain ⟨cwd, procs, halign, hprocs⟩ := w.align_eq
  rw [halign]
  refine ⟨rfl, rfl, ?_⟩
  rintro ⟨q, hq, hmember⟩
  obtain ⟨p, hp, cwd', rfl⟩ := hprocs q hq
  exact ⟨p, hp, hmember⟩

/-- **What happens on a machine is one of the things that can happen**, if everybody there minds the
artifact. -/
theorem execution_of_reaches (h : Host.Reaches w w') (hminded : x.Minded w) (phase : Phase)
    (signalled : Bool) :
    ∃ trace, x.Execution ⟨w, phase, signalled⟩ trace ⟨w', phase, signalled⟩ ∧ done trace = [] := by
  induction h with
  | refl => exact ⟨[], .nil _, rfl⟩
  | @tail v v' past move ih =>
      obtain ⟨trace, hpast, hdone⟩ := ih
      obtain ⟨trace', hmove, hdone'⟩ : ∃ trace', x.Execution ⟨v, phase, signalled⟩ trace'
          ⟨v', phase, signalled⟩ ∧ done trace' = [] := by
        cases move with
        | aligned => exact ⟨_, Step.execution (.elsewhere _ (spares_align v)), rfl⟩
        | stepped present ready =>
            exact (hminded v _ past present ready).execution phase signalled
        | passed time => exact ⟨_, Step.execution (.elsewhere _ ⟨rfl, rfl, id⟩), rfl⟩
      exact ⟨_, hpast.append hmove, by rw [done_append, hdone, hdone', List.append_nil]⟩

end Watch

end BatchRunner.Supervision
