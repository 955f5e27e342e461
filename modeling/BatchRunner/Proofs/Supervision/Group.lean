/-
**Who signals a group, and when.**

A run starts an engine and waits for it.  From then on it holds on to the engine and to a guard over
the group of the engine, and when it leaves it lets go of both, of what it took last first.  A guard
that still names a leader signals the group of that leader when it is let go of.  Once a leader has
been reaped its number may be given to somebody else, so a signal after that would hit a stranger.

A run is told step by step: what it does itself, where it waits and can be given up, and what happens
to the leader in the meantime.  Waiting that fails is taken not to have reaped the leader.

Main definitions:

* `Supervision.Run`, `Supervision.Run.Step` — a run on its way, and what can happen to it next;
* `Supervision.Run.Execution` — what can happen to it from one point to another;
* `Supervision.Run.Safe` — what is asked of the signals of a run;
* `Supervision.Run.Sound` — what is true throughout a run.

Main results:

* `Supervision.Run.Step.sound`, `Supervision.Run.Execution.sound` — **what is true throughout a
  run**, kept by one step and by any number of them;
* `Supervision.Run.Sound.safe` — a run signals safely at any time;
* `Supervision.Run.exists_execution` — what is done at the end of a watch is what a run does;
* `Supervision.Run.group_signalled_safely` — **the group of an engine is signalled once, and in
  time**, in every run and on every machine.
-/
import BatchRunner.Proofs.Supervision.Notice

set_option autoImplicit false

namespace BatchRunner.Supervision

/-! ### What can happen to a run -/

/-- The guard over a group.  It signals the group of the leader that it names, and forgets it. -/
structure Guard where
  leader? : Option Nat

def Guard.disarmed : Guard := ⟨none⟩

/-- Something that a run holds on to. -/
inductive Holding where
  | engine
  | guard
  deriving DecidableEq, Repr

inductive Leader where
  | unborn
  | running
  | ended
  /-- It has been taken note of, and its number means nothing any more. -/
  | reaped
  deriving DecidableEq, Repr

/-- How far a run has got. -/
inductive Point where
  | launching
  | waiting
  /-- The leader was seen to exit. -/
  | exited (status : Nat)
  /-- The leader was seen to exit, and the guard knows. -/
  | relieved (status : Nat)
  /-- The budget has run out. -/
  | expired
  /-- The leader is killed and waited for. -/
  | killing
  | killed
  | noting
  /-- The run lets go of what it holds, and gives this. -/
  | leaving (result : Except LaunchError (Option Status))
  | left (result : Except LaunchError (Option Status))

/-- A run on its way. -/
structure Run where
  point : Point
  guard : Guard
  /-- What it holds on to, what it took last first. -/
  held : List Holding
  leader : Leader
  /-- How many milliseconds have passed since the leader was started. -/
  age : Nat

/-- Something that happens to a run. -/
inductive Incident where
  /-- There is nothing to start, or it does not start. -/
  | refused (e : LaunchError)
  | started (leader : Nat)
  /-- Time passes. -/
  | passed (ms : Nat)
  | leaderEnded
  /-- The run sees the leader exit, and reaps it. -/
  | sawExit (status : Nat)
  | deadline
  | waitFailed (e : IoError)
  | disarmed
  /-- The guard signals the group of the leader that it names, if it names one. -/
  | fired (leader? : Option Nat)
  /-- The run kills the leader and reaps it. -/
  | reaped
  | killFailed (e : IoError)
  | reported (e : Log.Event)
  | noticed
  /-- The run is given up while it waits. -/
  | abandoned
  /-- The run lets go of the engine, and leaves it to others to reap the leader. -/
  | released
  /-- Others reap the leader. -/
  | collected
  | returned
  deriving DecidableEq

namespace Run

def fresh : Run := ⟨.launching, .disarmed, [], .unborn, 0⟩

/-- **What can happen to a run next.** -/
inductive Step (budget : Budget) : Run → Incident → Run → Prop where
  | refused {s : Run} (e : LaunchError) (launching : s.point = .launching) :
      Step budget s (.refused e) { s with point := .leaving (.error e) }
  | started {s : Run} (leader : Nat) (launching : s.point = .launching) :
      Step budget s (.started leader) { s with
        point := .waiting
        guard := ⟨some leader⟩
        held := .guard :: .engine :: s.held
        leader := .running }
  | passed {s : Run} (ms : Nat) (begun : s.leader ≠ .unborn) :
      Step budget s (.passed ms) { s with age := ms + s.age }
  | leaderEnded {s : Run} (running : s.leader = .running) :
      Step budget s .leaderEnded { s with leader := .ended }
  | sawExit {s : Run} (status : Nat) (waiting : s.point = .waiting) (ended : s.leader = .ended) :
      Step budget s (.sawExit status) { s with point := .exited status, leader := .reaped }
  | deadline {s : Run} {limit : Nat} (waiting : s.point = .waiting)
      (limited : budget.limit? = some limit) (past : 1000 * limit ≤ s.age) :
      Step budget s .deadline { s with point := .expired }
  | waitFailed {s : Run} (e : IoError) (waiting : s.point = .waiting) :
      Step budget s (.waitFailed e) { s with point := .leaving (.error (.wait e)) }
  | disarmed {s : Run} {status : Nat} (exited : s.point = .exited status) :
      Step budget s .disarmed { s with point := .relieved status, guard := .disarmed }
  | reportedExit {s : Run} {status : Nat} (relieved : s.point = .relieved status) :
      Step budget s (.reported (exitEvent status s.age))
        { s with point := .leaving (.ok (some .completed)) }
  | signalled {s : Run} (expired : s.point = .expired) :
      Step budget s (.fired s.guard.leader?) { s with point := .killing, guard := .disarmed }
  | reaped {s : Run} (killing : s.point = .killing) (ended : s.leader = .ended) :
      Step budget s .reaped { s with point := .killed, leader := .reaped }
  | killFailed {s : Run} (e : IoError) (killing : s.point = .killing) :
      Step budget s (.killFailed e) { s with point := .killed }
  | reportedDeadline {s : Run} (killed : s.point = .killed) :
      Step budget s (.reported (deadlineEvent budget)) { s with point := .noting }
  | noticed {s : Run} (noting : s.point = .noting) :
      Step budget s .noticed { s with point := .leaving (.ok (some .timedOut)) }
  | abandoned {s : Run} (waits : s.point = .waiting ∨ s.point = .killing) :
      Step budget s .abandoned { s with point := .leaving (.ok none) }
  | droppedGuard {s : Run} {result : Except LaunchError (Option Status)} {rest : List Holding}
      (leaving : s.point = .leaving result) (held : s.held = .guard :: rest) :
      Step budget s (.fired s.guard.leader?) { s with held := rest, guard := .disarmed }
  | droppedEngine {s : Run} {result : Except LaunchError (Option Status)} {rest : List Holding}
      (leaving : s.point = .leaving result) (held : s.held = .engine :: rest) :
      Step budget s .released { s with held := rest }
  | collected {s : Run} (handedOver : .engine ∉ s.held) (ended : s.leader = .ended) :
      Step budget s .collected { s with leader := .reaped }
  | returned {s : Run} {result : Except LaunchError (Option Status)}
      (leaving : s.point = .leaving result) (held : s.held = []) :
      Step budget s .returned { s with point := .left result }

/-- **What can happen to a run**, from one point to another. -/
inductive Execution (budget : Budget) : Run → List Incident → Run → Prop where
  | nil (s : Run) : Execution budget s [] s
  | cons {s s' s'' : Run} {i : Incident} {trace : List Incident} (step : Step budget s i s')
      (rest : Execution budget s' trace s'') : Execution budget s (i :: trace) s''

end Run

/-! ### What a trace tells -/

namespace Incident

def started? : Incident → Option Nat
  | .started leader => some leader
  | _ => none

def signal? : Incident → Option Nat
  | .fired leader? => leader?
  | _ => none

def exit? : Incident → Option Nat
  | .sawExit status => some status
  | _ => none

/-- Whether the leader is reaped, by whomever. -/
def reaps : Incident → Bool
  | .sawExit _ | .reaped | .collected => true
  | _ => false

def duration : Incident → Nat
  | .passed ms => ms
  | _ => 0

def act? : Incident → Option Act
  | .fired leader? => leader?.map fun _ => .signalGroup
  | .sawExit _ | .reaped | .collected => some .reapLeader
  | .reported e => some (.report e)
  | .noticed => some .addNotice
  | _ => none

/-- Nobody is started or signalled, and nobody is seen to exit. -/
structure Idle (i : Incident) : Prop where
  started : i.started? = none
  signal : i.signal? = none
  exit : i.exit? = none

end Incident

def leaders (trace : List Incident) : List Nat := trace.filterMap Incident.started?

def signals (trace : List Incident) : List Nat := trace.filterMap Incident.signal?

def exits (trace : List Incident) : List Nat := trace.filterMap Incident.exit?

def duration (trace : List Incident) : Nat := (trace.map Incident.duration).sum

def acts (trace : List Incident) : List Act := trace.filterMap Incident.act?

section Traces

variable (trace trace' : List Incident)

@[simp] theorem leaders_append : leaders (trace ++ trace') = leaders trace ++ leaders trace' := by
  simp [leaders]

@[simp] theorem signals_append : signals (trace ++ trace') = signals trace ++ signals trace' := by
  simp [signals]

@[simp] theorem exits_append : exits (trace ++ trace') = exits trace ++ exits trace' := by
  simp [exits]

@[simp] theorem duration_append :
    duration (trace ++ trace') = duration trace + duration trace' := by
  simp [duration]

end Traces

theorem mem_leaders_iff {trace : List Incident} {leader : Nat} :
    leader ∈ leaders trace ↔ .started leader ∈ trace := by
  rw [leaders, List.mem_filterMap]
  constructor
  · rintro ⟨i, hi, hleader⟩
    cases i with
    | started l =>
        obtain rfl : l = leader := by simpa [Incident.started?] using hleader
        exact hi
    | _ => simp [Incident.started?] at hleader
  · intro hi
    exact ⟨_, hi, rfl⟩

/-- The budget is one that can run out, and it has. -/
def Expired (budget : Budget) (trace : List Incident) : Prop :=
  0 ≤ budget.seconds ∧ ∃ before after, trace = before ++ .deadline :: after ∧
    1000 * budget.seconds ≤ duration before

theorem Expired.append {budget : Budget} {trace : List Incident} (h : Expired budget trace)
    (later : List Incident) : Expired budget (trace ++ later) := by
  obtain ⟨hlimit, before, after, rfl, hover⟩ := h
  exact ⟨hlimit, before, after ++ later, by simp, hover⟩

theorem expired_of_limit {budget : Budget} {limit : Nat} {trace : List Incident}
    (hlimit : budget.limit? = some limit) (hover : 1000 * limit ≤ duration trace) :
    Expired budget (trace ++ [.deadline]) := by
  have hnonneg : ¬ budget.seconds < 0 := by
    intro hneg
    simp [Budget.limit?, hneg] at hlimit
  have hseconds : budget.seconds.toNat = limit := by simpa [Budget.limit?, hnonneg] using hlimit
  exact ⟨by omega, trace, [], rfl, by omega⟩

namespace Run

variable {budget : Budget} {trace past : List Incident} {s s' : Run} {i : Incident}

/-- **What is asked of the signals of a run.** -/
structure Safe (budget : Budget) (trace : List Incident) (s : Run) : Prop where
  /-- The group is signalled at most once. -/
  once : (signals trace).length ≤ 1
  /-- It is the group of the leader that was started. -/
  own : ∀ leader ∈ signals trace, .started leader ∈ trace
  /-- No signal comes after the leader has been reaped. -/
  inTime : trace.Pairwise fun i j => i.reaps = true → j.signal? = none
  /-- There is no signal at all if the leader was seen to exit. -/
  spared : exits trace ≠ [] → signals trace = []
  /-- Who has returned without having seen that has sent exactly one. -/
  ended : ∀ result, s.point = .left result → exits trace = [] →
    ∀ leader, .started leader ∈ trace → signals trace = [leader]
  /-- A run is said to have run out of time only if it has, before the leader was seen to exit. -/
  late : s.point = .left (.ok (some .timedOut)) → Expired budget trace ∧ exits trace = []

/-! ### What is true throughout -/

/-- Nobody has reaped the leader. -/
def Unreaped (trace : List Incident) : Prop := ∀ i ∈ trace, i.reaps = false

theorem Unreaped.snoc (h : Unreaped trace) (hi : i.reaps = false) : Unreaped (trace ++ [i]) := by
  intro j hj
  rcases List.mem_append.1 hj with hj | hj
  · exact h j hj
  · rw [List.mem_singleton.1 hj]
    exact hi

/-- How a run stands to the group of its engine. -/
inductive Standing where
  | unborn
  /-- The guard names the leader, who has not been reaped. -/
  | armed (leader : Nat)
  /-- The leader was seen to exit. -/
  | seen (leader : Nat)
  /-- The group has been signalled. -/
  | fired (leader : Nat)

/-- Whether a trace and what a run holds fit how it stands to the group. -/
def Standing.Fits (trace : List Incident) (s : Run) : Standing → Prop
  | .unborn => leaders trace = [] ∧ signals trace = [] ∧ exits trace = [] ∧ Unreaped trace ∧
      s.held = [] ∧ s.leader = .unborn
  | .armed leader => leaders trace = [leader] ∧ signals trace = [] ∧ exits trace = [] ∧
      Unreaped trace ∧ s.held = [.guard, .engine] ∧ s.guard.leader? = some leader
  | .seen leader => leaders trace = [leader] ∧ signals trace = [] ∧ exits trace ≠ []
  | .fired leader => leaders trace = [leader] ∧ signals trace = [leader] ∧ exits trace = [] ∧
      s.guard = .disarmed

/-- Whether how far a run has got fits how it stands to the group. -/
def Standing.Suits (x : Standing) (guard : Guard) : Point → Prop
  | .launching => x = .unborn
  | .waiting | .expired => ∃ leader, x = .armed leader
  | .exited _ => ∃ leader, x = .seen leader
  | .relieved _ => (∃ leader, x = .seen leader) ∧ guard = .disarmed
  | .killing | .killed | .noting => ∃ leader, x = .fired leader
  | .leaving result => (∀ leader, x = .seen leader → guard = .disarmed) ∧
      (result = .ok (some .timedOut) → ∃ leader, x = .fired leader)
  | .left result => (∀ leader, x ≠ .armed leader) ∧
      (result = .ok (some .timedOut) → ∃ leader, x = .fired leader)

/-- Whether the budget must have run out for a run to get there. -/
def Point.IsLate : Point → Prop
  | .expired | .killing | .killed | .noting => True
  | .leaving result | .left result => result = .ok (some .timedOut)
  | _ => False

/-- **What is true throughout a run.** -/
structure Sound (budget : Budget) (trace : List Incident) (s : Run) : Prop where
  age : s.age = duration trace
  inTime : trace.Pairwise fun i j => i.reaps = true → j.signal? = none
  standing : ∃ x : Standing, x.Fits trace s ∧ x.Suits s.guard s.point
  late : Point.IsLate s.point → Expired budget trace

theorem sound_fresh (budget : Budget) : Sound budget [] fresh where
  age := rfl
  inTime := .nil
  standing := ⟨.unborn, ⟨rfl, rfl, rfl, by simp [Unreaped], rfl, rfl⟩, rfl⟩
  late h := h.elim

/-! ### One step -/

/-- What has to stay the same for a run to stand to the group as before. -/
def Standing.Keeps (i : Incident) (s s' : Run) : Standing → Prop
  | .unborn => i.reaps = false ∧ s'.held = s.held ∧ (s.leader = .unborn → s'.leader = .unborn)
  | .armed _ => i.reaps = false ∧ s'.held = s.held ∧ s'.guard = s.guard
  | .seen _ => True
  | .fired _ => s'.guard = s.guard

theorem Standing.Fits.idle {x : Standing} (h : x.Fits trace s) (hi : Incident.Idle i)
    (hkeeps : x.Keeps i s s') : x.Fits (trace ++ [i]) s' := by
  have hleaders : leaders (trace ++ [i]) = leaders trace := by simp [leaders, hi.started]
  have hsignals : signals (trace ++ [i]) = signals trace := by simp [signals, hi.signal]
  have hexits : exits (trace ++ [i]) = exits trace := by simp [exits, hi.exit]
  cases x with
  | unborn =>
      obtain ⟨hl, hs, he, hreaps, hheld, hleader⟩ := h
      obtain ⟨hreaps', hheld', hleader'⟩ := hkeeps
      exact ⟨hleaders.trans hl, hsignals.trans hs, hexits.trans he, hreaps.snoc hreaps',
        hheld'.trans hheld, hleader' hleader⟩
  | armed leader =>
      obtain ⟨hl, hs, he, hreaps, hheld, hguard⟩ := h
      obtain ⟨hreaps', hheld', hguard'⟩ := hkeeps
      exact ⟨hleaders.trans hl, hsignals.trans hs, hexits.trans he, hreaps.snoc hreaps',
        hheld'.trans hheld, hguard' ▸ hguard⟩
  | seen leader =>
      obtain ⟨hl, hs, he⟩ := h
      exact ⟨hleaders.trans hl, hsignals.trans hs, hexits ▸ he⟩
  | fired leader =>
      obtain ⟨hl, hs, he, hguard⟩ := h
      exact ⟨hleaders.trans hl, hsignals.trans hs, hexits.trans he, hkeeps.trans hguard⟩

/-- A guard that names the leader signals its group. -/
theorem Standing.Fits.fire {leader : Nat} (h : (Standing.armed leader).Fits trace s)
    (hguard : s'.guard = .disarmed) :
    (Standing.fired leader).Fits (trace ++ [.fired s.guard.leader?]) s' := by
  obtain ⟨hl, hs, he, -, -, hleader⟩ := h
  refine ⟨?_, ?_, ?_, hguard⟩
  · rw [leaders_append, hl]
    rfl
  · rw [signals_append, hs, hleader]
    rfl
  · rw [exits_append, he]
    rfl

/-- A guard that has been disarmed signals nobody. -/
theorem idle_of_disarmed (h : s.guard = .disarmed) : Incident.Idle (.fired s.guard.leader?) :=
  ⟨rfl, by rw [h]; rfl, rfl⟩

/-- **How a run stands to the group after a step.** -/
theorem Step.standing (hs : Step budget s i s') {x : Standing} (hfits : x.Fits trace s)
    (hsuits : x.Suits s.guard s.point) :
    ∃ x' : Standing, x'.Fits (trace ++ [i]) s' ∧ x'.Suits s'.guard s'.point := by
  cases hs with
  | refused e launching =>
      obtain rfl : x = .unborn := by rwa [launching] at hsuits
      exact ⟨.unborn, hfits.idle ⟨rfl, rfl, rfl⟩ ⟨rfl, rfl, id⟩, by simp [Standing.Suits]⟩
  | started leader launching =>
      obtain rfl : x = .unborn := by rwa [launching] at hsuits
      obtain ⟨hl, hsig, he, hreaps, hheld, -⟩ := hfits
      refine ⟨.armed leader, ⟨?_, ?_, ?_, hreaps.snoc rfl, by rw [hheld], rfl⟩, leader, rfl⟩
      · rw [leaders_append, hl]
        rfl
      · rw [signals_append, hsig]
        rfl
      · rw [exits_append, he]
        rfl
  | passed ms _ =>
      refine ⟨x, hfits.idle ⟨rfl, rfl, rfl⟩ ?_, hsuits⟩
      cases x <;> simp [Standing.Keeps, Incident.reaps]
  | leaderEnded running =>
      refine ⟨x, hfits.idle ⟨rfl, rfl, rfl⟩ ?_, hsuits⟩
      cases x <;> simp [Standing.Keeps, Incident.reaps, running]
  | sawExit status waiting ended =>
      obtain ⟨leader, rfl⟩ : ∃ leader, x = .armed leader := by rwa [waiting] at hsuits
      obtain ⟨hl, hsig, -⟩ := hfits
      refine ⟨.seen leader, ⟨?_, ?_, by simp [exits, Incident.exit?]⟩, leader, rfl⟩
      · rw [leaders_append, hl]
        rfl
      · rw [signals_append, hsig]
        rfl
  | deadline waiting limited past =>
      obtain ⟨leader, rfl⟩ : ∃ leader, x = .armed leader := by rwa [waiting] at hsuits
      exact ⟨.armed leader, hfits.idle ⟨rfl, rfl, rfl⟩ ⟨rfl, rfl, rfl⟩, leader, rfl⟩
  | waitFailed e waiting =>
      obtain ⟨leader, rfl⟩ : ∃ leader, x = .armed leader := by rwa [waiting] at hsuits
      exact ⟨.armed leader, hfits.idle ⟨rfl, rfl, rfl⟩ ⟨rfl, rfl, rfl⟩, by simp [Standing.Suits]⟩
  | disarmed exited =>
      obtain ⟨leader, rfl⟩ : ∃ leader, x = .seen leader := by rwa [exited] at hsuits
      exact ⟨.seen leader, hfits.idle ⟨rfl, rfl, rfl⟩ trivial, ⟨leader, rfl⟩, rfl⟩
  | reportedExit relieved =>
      obtain ⟨⟨leader, rfl⟩, hguard⟩ : (∃ leader, x = .seen leader) ∧ s.guard = .disarmed := by
        rwa [relieved] at hsuits
      exact ⟨.seen leader, hfits.idle ⟨rfl, rfl, rfl⟩ trivial, fun _ _ => hguard, by simp⟩
  | signalled expired =>
      obtain ⟨leader, rfl⟩ : ∃ leader, x = .armed leader := by rwa [expired] at hsuits
      exact ⟨.fired leader, hfits.fire rfl, leader, rfl⟩
  | reaped killing _ | killFailed _ killing | reportedDeadline killing | noticed killing =>
      obtain ⟨leader, rfl⟩ : ∃ leader, x = .fired leader := by rwa [killing] at hsuits
      exact ⟨.fired leader, hfits.idle ⟨rfl, rfl, rfl⟩ rfl, by simp [Standing.Suits]⟩
  | abandoned waits =>
      rcases waits with hwaiting | hkilling
      · obtain ⟨leader, rfl⟩ : ∃ leader, x = .armed leader := by rwa [hwaiting] at hsuits
        exact ⟨.armed leader, hfits.idle ⟨rfl, rfl, rfl⟩ ⟨rfl, rfl, rfl⟩, by simp [Standing.Suits]⟩
      · obtain ⟨leader, rfl⟩ : ∃ leader, x = .fired leader := by rwa [hkilling] at hsuits
        exact ⟨.fired leader, hfits.idle ⟨rfl, rfl, rfl⟩ rfl, by simp [Standing.Suits]⟩
  | droppedGuard leaving held =>
      rw [leaving] at hsuits
      obtain ⟨hdisarmed, hlate⟩ := hsuits
      cases x with
      | unborn =>
          obtain ⟨-, -, -, -, hheld, -⟩ := hfits
          simp [hheld] at held
      | armed leader => exact ⟨.fired leader, hfits.fire rfl, by simp [leaving, Standing.Suits]⟩
      | seen leader =>
          have hidle := idle_of_disarmed (hdisarmed leader rfl)
          exact ⟨.seen leader, hfits.idle hidle trivial, by simpa [leaving, Standing.Suits] using hlate⟩
      | fired leader =>
          obtain ⟨-, -, -, hguard⟩ := id hfits
          exact ⟨.fired leader, hfits.idle (idle_of_disarmed hguard) hguard.symm,
            by simp [leaving, Standing.Suits]⟩
  | droppedEngine leaving held =>
      refine ⟨x, hfits.idle ⟨rfl, rfl, rfl⟩ ?_, hsuits⟩
      cases x with
      | unborn | armed =>
          -- the guard was taken last, so it goes before the engine does
          obtain ⟨-, -, -, -, hheld, -⟩ := hfits
          simp [hheld] at held
      | seen leader => trivial
      | fired leader => rfl
  | collected handedOver ended =>
      refine ⟨x, hfits.idle ⟨rfl, rfl, rfl⟩ ?_, hsuits⟩
      cases x with
      | unborn =>
          obtain ⟨-, -, -, -, -, hunborn⟩ := hfits
          simp [hunborn] at ended
      | armed leader =>
          -- nobody else reaps the leader as long as the run holds on to the engine
          obtain ⟨-, -, -, -, hheld, -⟩ := hfits
          simp [hheld] at handedOver
      | seen leader => trivial
      | fired leader => rfl
  | returned leaving held =>
      rw [leaving] at hsuits
      refine ⟨x, hfits.idle ⟨rfl, rfl, rfl⟩ ?_, ?_, hsuits.2⟩
      · cases x <;> simp [Standing.Keeps, Incident.reaps]
      · rintro leader rfl
        obtain ⟨-, -, -, -, hheld, -⟩ := hfits
        simp [hheld] at held

/-- A step after which it is late has been late before, or is the budget running out. -/
theorem Step.late (hs : Step budget s i s') (hage : s.age = duration trace)
    (hlate : Point.IsLate s.point → Expired budget trace) (hlate' : Point.IsLate s'.point) :
    Expired budget (trace ++ [i]) := by
  cases hs with
  | deadline waiting limited past => exact expired_of_limit limited (hage ▸ past)
  | refused | started | sawExit | waitFailed | disarmed | reportedExit | abandoned =>
      simp [Point.IsLate] at hlate'
  | passed | leaderEnded | collected | droppedGuard | droppedEngine => exact (hlate hlate').append _
  | signalled h | reaped h | killFailed _ h | reportedDeadline h | noticed h =>
      exact (hlate (by rw [h]; trivial)).append _
  | returned leaving held => exact (hlate (by rw [leaving]; exact hlate')).append _

/-- Who is signalled is named by the guard, and has not been reaped. -/
theorem Step.unreaped (hs : Step budget s i s') {x : Standing} (hfits : x.Fits trace s)
    (hsuits : x.Suits s.guard s.point) (hsignal : i.signal? ≠ none) : Unreaped trace := by
  cases hs with
  | signalled expired =>
      obtain ⟨leader, rfl⟩ : ∃ leader, x = .armed leader := by rwa [expired] at hsuits
      obtain ⟨-, -, -, hreaps, -⟩ := hfits
      exact hreaps
  | droppedGuard leaving held =>
      rw [leaving] at hsuits
      cases x with
      | unborn | armed =>
          obtain ⟨-, -, -, hreaps, -⟩ := hfits
          exact hreaps
      | seen leader => exact absurd (idle_of_disarmed (hsuits.1 leader rfl)).signal hsignal
      | fired leader =>
          obtain ⟨-, -, -, hguard⟩ := hfits
          exact absurd (idle_of_disarmed hguard).signal hsignal
  | _ => exact absurd rfl hsignal

theorem Step.age (hs : Step budget s i s') : s'.age = s.age + i.duration := by
  cases hs with
  | passed ms _ => exact Nat.add_comm ms s.age
  | _ => rfl

/-- **One step keeps what is true.** -/
theorem Step.sound (hs : Step budget s i s') (h : Sound budget trace s) :
    Sound budget (trace ++ [i]) s' := by
  obtain ⟨x, hfits, hsuits⟩ := h.standing
  refine ⟨?_, ?_, hs.standing hfits hsuits, hs.late h.age h.late⟩
  · rw [hs.age, h.age, duration_append]
    simp [duration]
  · refine List.pairwise_append.2 ⟨h.inTime, List.pairwise_singleton _ _, ?_⟩
    intro j hj k hk hreaps
    obtain rfl := List.mem_singleton.1 hk
    by_contra hsignal
    have hnone := hs.unreaped hfits hsuits hsignal j hj
    simp [hreaps] at hnone

/-- **Any number of steps keep what is true.** -/
theorem Execution.sound (hrun : Execution budget s trace s') (h : Sound budget past s) :
    Sound budget (past ++ trace) s' := by
  induction hrun generalizing past with
  | nil => simpa using h
  | cons step _ ih =>
      -- the first step belongs to the past of all the others
      rw [List.append_cons]
      exact ih (step.sound h)

/-! ### Signals -/

/-- The leader, if there is one. -/
def Standing.leader? : Standing → Option Nat
  | .unborn => none
  | .armed leader | .seen leader | .fired leader => some leader

/-- The leader whose group has been signalled. -/
def Standing.signal? : Standing → Option Nat
  | .fired leader => some leader
  | _ => none

theorem Standing.Fits.leaders {x : Standing} (h : x.Fits trace s) :
    leaders trace = x.leader?.toList := by
  cases x <;> exact h.1

theorem Standing.Fits.signals {x : Standing} (h : x.Fits trace s) :
    signals trace = x.signal?.toList := by
  cases x <;> exact h.2.1

theorem Standing.Fits.exits {x : Standing} (h : x.Fits trace s) :
    exits trace ≠ [] ↔ ∃ leader, x = .seen leader := by
  cases x with
  | seen leader => simpa using h.2.2
  | unborn | armed | fired => simp [h.2.2.1]

/-- **A run signals safely**, whenever one looks at it. -/
theorem Sound.safe (h : Sound budget trace s) : Safe budget trace s := by
  obtain ⟨x, hfits, hsuits⟩ := h.standing
  refine ⟨?_, ?_, h.inTime, ?_, ?_, ?_⟩
  · rw [hfits.signals]
    cases x.signal? <;> simp
  · intro leader hsignal
    rw [← mem_leaders_iff, hfits.leaders]
    rw [hfits.signals] at hsignal
    cases x with
    | fired l => exact hsignal
    | _ => simp [Standing.signal?] at hsignal
  · intro hexit
    obtain ⟨leader, rfl⟩ := hfits.exits.1 hexit
    exact hfits.signals
  · intro result hleft hexit leader hstarted
    rw [hleft] at hsuits
    rw [← mem_leaders_iff, hfits.leaders] at hstarted
    cases x with
    | unborn => simp [Standing.leader?] at hstarted
    | armed l => exact absurd rfl (hsuits.1 l)
    | seen l => exact absurd hexit (hfits.exits.2 ⟨l, rfl⟩)
    | fired l =>
        obtain rfl : leader = l := by simpa [Standing.leader?] using hstarted
        exact hfits.signals
  · intro hleft
    rw [hleft] at hsuits
    obtain ⟨leader, rfl⟩ := hsuits.2 rfl
    refine ⟨h.late (by rw [hleft]; rfl), ?_⟩
    obtain ⟨-, -, hexit, -⟩ := hfits
    exact hexit

/-! ### Machines -/

/-- **What is done at the end of a watch is what a run does** that began with this leader. -/
theorem exists_execution (budget : Budget) (leader elapsed : Nat) (e : Ending)
    (he : e = .deadline → ∃ limit, budget.limit? = some limit ∧ 1000 * limit ≤ elapsed) :
    ∃ trace s, Execution budget fresh trace s ∧ s.point = .left e.result ∧
      leaders trace = [leader] ∧ duration trace = elapsed ∧ acts trace = e.acts budget elapsed ∧
      ∀ status, .sawExit status ∈ trace ↔ e = .exited status := by
  cases e with
  | exited status =>
      refine ⟨_, _, .cons (.started leader rfl) <| .cons (.passed elapsed nofun) <|
        .cons (.leaderEnded rfl) <| .cons (.sawExit status rfl rfl) <| .cons (.disarmed rfl) <|
        .cons (.reportedExit rfl) <| .cons (.droppedGuard rfl rfl) <|
        .cons (.droppedEngine rfl rfl) <| .cons (.returned rfl rfl) <| .nil _, rfl, rfl,
        by simp [duration, Incident.duration], rfl, ?_⟩
      intro status'
      simp [eq_comm]
  | deadline =>
      obtain ⟨limit, hlimit, hover⟩ := he rfl
      refine ⟨_, _, .cons (.started leader rfl) <| .cons (.passed elapsed nofun) <|
        .cons (.deadline rfl hlimit hover) <| .cons (.signalled rfl) <|
        .cons (.leaderEnded rfl) <| .cons (.reaped rfl rfl) <| .cons (.reportedDeadline rfl) <|
        .cons (.noticed rfl) <| .cons (.droppedGuard rfl rfl) <|
        .cons (.droppedEngine rfl rfl) <| .cons (.returned rfl rfl) <| .nil _, rfl, rfl,
        by simp [duration, Incident.duration], rfl, ?_⟩
      simp
  | waitFailed error =>
      refine ⟨_, _, .cons (.started leader rfl) <| .cons (.passed elapsed nofun) <|
        .cons (.waitFailed error rfl) <| .cons (.droppedGuard rfl rfl) <|
        .cons (.droppedEngine rfl rfl) <| .cons (.returned rfl rfl) <| .nil _, rfl, rfl,
        by simp [duration, Incident.duration], rfl, ?_⟩
      simp
  | abandoned =>
      refine ⟨_, _, .cons (.started leader rfl) <| .cons (.passed elapsed nofun) <|
        .cons (.abandoned (.inl rfl)) <| .cons (.droppedGuard rfl rfl) <|
        .cons (.droppedEngine rfl rfl) <| .cons (.leaderEnded rfl) <|
        .cons (.collected (by simp [fresh]) rfl) <| .cons (.returned rfl rfl) <| .nil _, rfl, rfl,
        by simp [duration, Incident.duration], rfl, ?_⟩
      simp

/-- A call that does not start is a run that is refused. -/
theorem execution_of_refused {w : Host} {call : Call} {error : LaunchError}
    (h : w.start call = .error error) (patience? : Option Nat) :
    ∃ s, Execution call.budget fresh [.refused error, .returned] s ∧
      s.point = .left (w.supervise patience? call).1 ∧ (w.supervise patience? call).2 = w := by
  have hsupervise : w.supervise patience? call = (.error error, w) := by
    simp only [Host.supervise, h]
  rw [hsupervise]
  exact ⟨_, .cons (.refused error rfl) <| .cons (.returned rfl rfl) <| .nil _, rfl, rfl⟩

/-- **What a machine does when it watches is what a run does.** -/
theorem execution_of_started {w begun : Host} {call : Call} {e : Host.Engine}
    (h : w.start call = .ok (e, begun)) (patience? : Option Nat) :
    ∃ trace s, Execution call.budget fresh trace s ∧
      s.point = .left (w.supervise patience? call).1 ∧ leaders trace = [e.leader] ∧
      duration trace = (w.watchedToEnd patience? call e begun).clock - w.clock ∧
      (∀ status, .sawExit status ∈ trace ↔
        (w.watchedToEnd patience? call e begun).leaderEnd? e = some status) ∧
      ∃ w', (acts trace).foldl (Host.act e) (w.watchedToEnd patience? call e begun) = w' ∧
        (w.supervise patience? call).2 = w'.withMachine { w'.outer with kept := [] } := by
  obtain ⟨w', hw', hsupervise⟩ := Host.supervise_of_start h patience?
  obtain ⟨trace, s, hrun, hpoint, hleaders, hduration, hacts, hexit⟩ :=
    exists_execution call.budget e.leader
      ((w.watchedToEnd patience? call e begun).clock - w.clock)
      (w.watchEnding patience? call e begun) Host.limit_le_of_watchEnding
  refine ⟨trace, s, hrun, ?_, hleaders, hduration, ?_, w', by rw [hacts, hw'], by rw [hsupervise]⟩
  · rw [hpoint, hsupervise]
  · intro status
    rw [hexit status]
    exact Host.ending_eq_exited_iff

/-- A machine that nobody loses patience with says how an engine with a limit has ended. -/
theorem exists_status_of_started {w begun : Host} {call : Call} {e : Host.Engine}
    (h : w.start call = .ok (e, begun)) (hlimit : call.budget.limit? ≠ none) :
    ∃ status, (w.supervise none call).1 = .ok (some status) := by
  obtain ⟨limit, hlimit⟩ := Option.ne_none_iff_exists'.1 hlimit
  obtain ⟨w', -, hsupervise⟩ := Host.supervise_of_start h none
  rw [hsupervise]
  rcases Host.watchEnding_of_limit w begun e hlimit with ⟨status, hexit⟩ | hdeadline
  · exact ⟨.completed, by rw [hexit]; rfl⟩
  · exact ⟨.timedOut, by rw [hdeadline]; rfl⟩

/-- **The group of an engine is signalled once, and in time.**  However a run goes, its signals are
safe.  What a machine does with a call, whatever the call, is what a run does with the leader that
was started for it: the run takes as long as the machine watches, returns what the machine gives, sees
the leader exit exactly if it has ended on the machine, and does to the machine what is done to it
from then on.  Where there is a limit and nobody loses patience, it returns how the engine has ended. -/
theorem group_signalled_safely (budget : Budget) :
    (∀ trace s, Execution budget fresh trace s → Safe budget trace s) ∧
    ∀ (patience? : Option Nat) (call : Call) (w : Host), call.budget = budget →
      (∀ error, w.start call = .error error →
        ∃ s, Execution budget fresh [.refused error, .returned] s ∧
          s.point = .left (w.supervise patience? call).1 ∧ (w.supervise patience? call).2 = w) ∧
      ∀ e begun, w.start call = .ok (e, begun) →
        ∃ trace s, Execution budget fresh trace s ∧
          s.point = .left (w.supervise patience? call).1 ∧ leaders trace = [e.leader] ∧
          duration trace = (w.watchedToEnd patience? call e begun).clock - w.clock ∧
          (∀ status, .sawExit status ∈ trace ↔
            (w.watchedToEnd patience? call e begun).leaderEnd? e = some status) ∧
          (patience? = none → budget.limit? ≠ none →
            ∃ status, (w.supervise patience? call).1 = .ok (some status)) ∧
          ∃ w', (acts trace).foldl (Host.act e) (w.watchedToEnd patience? call e begun) = w' ∧
            (w.supervise patience? call).2 = w'.withMachine { w'.outer with kept := [] } := by
  refine ⟨fun trace s hrun => ?_, ?_⟩
  · have hsound : Sound budget ([] ++ trace) s := hrun.sound (sound_fresh budget)
    exact hsound.safe
  · rintro patience? call w rfl
    refine ⟨fun error h => execution_of_refused h patience?, fun e begun h => ?_⟩
    obtain ⟨trace, s, hrun, hpoint, hleaders, hduration, hexit, hacts⟩ :=
      execution_of_started h patience?
    refine ⟨trace, s, hrun, hpoint, hleaders, hduration, hexit, ?_, hacts⟩
    rintro rfl
    exact exists_status_of_started h

/-- A run that waits for a second in vain, and that nobody wants any more while it kills the leader. -/
def givenUp : List Incident :=
  [.started 7, .passed 1000, .deadline, .fired (some 7), .abandoned, .fired none, .released,
    .leaderEnded, .collected, .returned]

/-- It has signalled the group when it is given up, and does not do it again when it lets go. -/
theorem givenUp_signals_once : ∃ s, Execution ⟨1⟩ fresh givenUp s ∧ s.point = .left (.ok none) ∧
    signals givenUp = [7] := by
  have hrun : Execution ⟨1⟩ fresh givenUp ⟨.left (.ok none), .disarmed, [], .reaped, 1000⟩ :=
    .cons (.started 7 rfl) <| .cons (.passed 1000 nofun) <|
      .cons (.deadline rfl rfl (Nat.le_refl _)) <| .cons (.signalled rfl) <|
      .cons (.abandoned (.inr rfl)) <| .cons (.droppedGuard rfl rfl) <|
      .cons (.droppedEngine rfl rfl) <| .cons (.leaderEnded rfl) <|
      .cons (.collected (by simp [fresh]) rfl) <| .cons (.returned rfl rfl) <| .nil _
  refine ⟨_, hrun, rfl, ?_⟩
  exact ((group_signalled_safely ⟨1⟩).1 _ _ hrun).ended _ rfl rfl 7 (by simp [givenUp])

end Run

end BatchRunner.Supervision
