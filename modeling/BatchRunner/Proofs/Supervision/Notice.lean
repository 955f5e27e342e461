/-
**Nothing follows the notice.**

What a watched engine leaves in its artifact is what its group wrote, and the notice after it if the
budget ran out.  A machine starts an engine with its output at the end of the artifact, and ends the
watch over it in one of the ways in which a watch can end.

Main definitions:

* `Host.watchedToEnd`, `Host.watchEnding` — the machine when a watch ends, and what ends it;
* `Supervision.Watch.Begins` — an engine has been started and is watched from now on.

Main results:

* `Host.start_eq_ok` — starting an engine opens its output and does nothing else to files;
* `Host.watchEnding_of_limit` — **a watch with a limit ends** with the leader or with the time;
* `Supervision.Watch.execution_of_watchedToEnd`, `Supervision.Watch.execution_of_supervise` — **what a
  machine does while it watches, and at the end of its watch, is one of the things that can happen**;
* `Supervision.Watch.output_of_watch` — **what a watched engine leaves in its artifact**.
-/
import BatchRunner.Proofs.Files.Walk
import BatchRunner.Proofs.Supervision.Watch
import Mathlib

set_option autoImplicit false

namespace BatchRunner.Host

open Supervision

/-! ### Starting an engine -/

/-- A process that becomes a program opens nothing and changes no file. -/
theorem become_eq_ok {w w' : Host} {p : Proc} {argv : List String} (h : w.become p argv = .ok w') :
    w'.files = w.files ∧ w'.outer.handles = w.outer.handles := by
  unfold become at h
  cases hfound : Program.resolve w.library p.cwd (p.shell.environment.lookup "PATH") argv with
  | error e => simp [hfound, Except.map] at h
  | ok found =>
      obtain rfl : w.load p found = w' := by simpa [hfound, Except.map] using h
      exact ⟨rfl, rfl⟩

/-- Starting an engine opens its output and does nothing else to files. -/
theorem start_eq_ok {call : Call} {w w' : Host} {e : Engine} (h : w.start call = .ok (e, w')) :
    e.output? = (w.openSink call.sink).1 ∧ w'.files = (w.openSink call.sink).2.files ∧
      w'.outer.handles = (w.openSink call.sink).2.outer.handles := by
  unfold start at h
  split at h
  · by_cases hnul : (call.argv.any hasNul || hasNul call.cwd) = true
    · rw [if_pos hnul] at h
      cases h
    · rw [if_neg hnul] at h
      obtain ⟨cwd, -, h⟩ := exists_of_mapError_bind h
      obtain ⟨w₁, hbecome, h⟩ := exists_of_mapError_bind h
      obtain ⟨hfiles, hhandles⟩ := become_eq_ok hbecome
      cases h
      exact ⟨rfl, hfiles, hhandles⟩
  · cases h

/-- An engine is started where there are its directory and its program. -/
theorem start_of_become {call : Call} {w w₀ w₁ w' : Host} {program : String} {args : List String}
    {cwd : Place} {output? : Option Stream} {make : Nat → Proc} {id : Nat}
    (hargv : call.argv = program :: args)
    (hnul : (call.argv.any hasNul || hasNul call.cwd) = false)
    (hcwd : w.enter call.cwd = .ok cwd) (hsink : w.openSink call.sink = (output?, w₀))
    (hmake : seed w₀.outer.env cwd (output?.getD .out) = make)
    (hspawn : (w₀.withMachine { w₀.outer with kept := output?.toList }).spawn make = (id, w₁))
    (hbecome : w₁.become (make id) (call.argv.map Octets.pack) = .ok w') :
    w.start call = .ok (⟨id, output?⟩, w') := by
  have hstart : w.start call = ((w₁.become (make id) (call.argv.map Octets.pack)).mapError
      fun e => LaunchError.launch program (.os e)) >>= fun w' => .ok (⟨id, output?⟩, w') := by
    obtain rfl := hmake
    obtain ⟨rfl, rfl⟩ := Prod.mk.inj hspawn
    simp only [start]
    rw [hargv] at hnul ⊢
    simp only [hnul, hcwd, hsink]
    rfl
  rw [hstart, hbecome]
  rfl

/-! ### How a watch ends -/

/-- The machine when the watch over an engine that was started on `w` ends. -/
def watchedToEnd (w : Host) (patience? : Option Nat) (call : Call) (e : Engine) (begun : Host) :
    Host :=
  begun.advance (fun v => (v.leaderEnd? e).isSome)
    (earlier (call.budget.limit?.map fun s => w.clock + 1000 * s)
      (patience?.map fun ms => w.clock + ms))

/-- What ends the watch over an engine that was started on `w`. -/
def watchEnding (w : Host) (patience? : Option Nat) (call : Call) (e : Engine) (begun : Host) :
    Ending :=
  (w.watchedToEnd patience? call e begun).ending e
    (call.budget.limit?.map fun s => w.clock + 1000 * s) (patience?.map fun ms => w.clock + ms)

section

variable {w begun : Host} {call : Call} {e : Engine} {deadline? patience? : Option Nat}

/-- A machine that has started an engine watches over it, does what is to be done at the end, and lets
go of the output. -/
theorem supervise_of_start (h : w.start call = .ok (e, begun)) (patience? : Option Nat) :
    ∃ w', ((w.watchEnding patience? call e begun).acts call.budget
        ((w.watchedToEnd patience? call e begun).clock - w.clock)).foldl (act e)
          (w.watchedToEnd patience? call e begun) = w' ∧
      w.supervise patience? call = ((w.watchEnding patience? call e begun).result,
        w'.withMachine { w'.outer with kept := [] }) := by
  refine ⟨_, rfl, ?_⟩
  simp only [supervise, h]
  rfl

/-- A machine sees the leader exit exactly if the leader has ended. -/
theorem ending_eq_exited_iff {status : Nat} :
    w.ending e deadline? patience? = .exited status ↔ w.leaderEnd? e = some status := by
  unfold ending
  cases w.leaderEnd? e with
  | some status' => simp
  | none =>
      simp only [reduceCtorEq, iff_false]
      split <;> simp

/-- **A machine runs out of time** exactly if the leader has not ended by the deadline, and nobody has
lost patience before. -/
theorem ending_eq_deadline_iff :
    w.ending e deadline? patience? = .deadline ↔ w.leaderEnd? e = none ∧
      ∃ d, deadline? = some d ∧ d ≤ w.clock ∧ ∀ q, patience? = some q → d ≤ q := by
  unfold ending
  cases w.leaderEnd? e with
  | some status => simp
  | none =>
      cases deadline? with
      | none => simp
      | some d => cases patience? <;> simp

/-- Who is said to have run out of time has. -/
theorem limit_le_of_watchEnding (h : w.watchEnding patience? call e begun = .deadline) :
    ∃ limit, call.budget.limit? = some limit ∧
      1000 * limit ≤ (w.watchedToEnd patience? call e begun).clock - w.clock := by
  obtain ⟨-, d, hd, hclock, -⟩ := ending_eq_deadline_iff.1 h
  obtain ⟨limit, hlimit, rfl⟩ := Option.map_eq_some_iff.1 hd
  exact ⟨limit, hlimit, by omega⟩

/-- **A watch with a limit ends** with the leader or with the time. -/
theorem watchEnding_of_limit (w begun : Host) (e : Engine) {limit : Nat}
    (hlimit : call.budget.limit? = some limit) :
    (∃ status, w.watchEnding none call e begun = .exited status) ∨
      w.watchEnding none call e begun = .deadline := by
  cases hleader : (w.watchedToEnd none call e begun).leaderEnd? e with
  | some status => exact .inl ⟨status, ending_eq_exited_iff.2 hleader⟩
  | none =>
      right
      refine ending_eq_deadline_iff.2
        ⟨hleader, w.clock + 1000 * limit, by rw [hlimit]; rfl, ?_, nofun⟩
      have hend : w.watchedToEnd none call e begun =
          begun.advance (fun v => (v.leaderEnd? e).isSome) (some (w.clock + 1000 * limit)) := by
        rw [watchedToEnd, hlimit]
        rfl
      rw [hend] at hleader ⊢
      rcases stop_or_limit_le_clock begun (fun v => (v.leaderEnd? e).isSome)
        (w.clock + 1000 * limit) with hstop | hle
      · simp [hleader] at hstop
      · exact hle

end

end BatchRunner.Host

namespace BatchRunner.Supervision

namespace Watch

variable {x : Watch} {w : Host} {m m' : Moment} {trace : List Event}

/-! ### What a watch that has returned has done -/

theorem eq_deadline_of_result {e : Ending} (h : e.result = .ok (some .timedOut)) :
    e = .deadline := by
  cases e <;> simp [Ending.result] at h ⊢

theorem eq_exited_of_result {e : Ending} (h : e.result = .ok (some .completed)) :
    ∃ status, e = .exited status := by
  cases e <;> simp [Ending.result] at h ⊢

/-- What a watch that has returned has done. -/
theorem Invariant.of_returned {start : Bytes} {e : Ending} (h : x.Invariant start trace m)
    (hphase : m.phase = .closing e []) : ∃ elapsed, done trace = e.acts x.budget elapsed := by
  obtain ⟨-, -, elapsed, hacts⟩ := h.of_closing hphase
  exact ⟨elapsed, by rwa [List.append_nil] at hacts⟩

/-- What is true of a watch whose budget ran out. -/
theorem Invariant.of_timedOut {start : Bytes} (h : x.Invariant start trace m)
    (hreturned : m.Returned .timedOut) :
    x.budget.limit? ≠ none ∧ .addNotice ∈ done trace ∧ ¬ x.Live m.host := by
  obtain ⟨e, hphase, hresult⟩ := hreturned
  obtain rfl := eq_deadline_of_result hresult
  obtain ⟨elapsed, hdone⟩ := h.of_returned hphase
  have hlimit := (h.of_closing hphase).2.1 rfl
  have hgone : ¬ x.Live m.host := h.gone (by simp [hdone, Ending.acts]) (by simp [hdone, Ending.acts])
  exact ⟨hlimit, by simp [hdone, Ending.acts], hgone⟩

/-- Nothing is added to the output of an engine that exited. -/
theorem Invariant.of_completed {start : Bytes} (h : x.Invariant start trace m)
    (hreturned : m.Returned .completed) : added trace = [] := by
  obtain ⟨e, hphase, hresult⟩ := hreturned
  obtain ⟨status, rfl⟩ := eq_exited_of_result hresult
  obtain ⟨elapsed, hdone⟩ := h.of_returned hphase
  simp [added, hdone, Ending.acts]

/-- A group without a limit is signalled only if waiting fails or is given up. -/
theorem Invariant.of_signalled {start : Bytes} (h : x.Invariant start trace m)
    (hlimit : x.budget.limit? = none) (hsignal : .signalGroup ∈ done trace) :
    .ended .abandoned ∈ trace ∨ ∃ error, .ended (.waitFailed error) ∈ trace := by
  cases hphase : m.phase with
  | watching => simp [h.of_watching hphase] at hsignal
  | closing e left =>
      obtain ⟨hended, hbudget, elapsed, hacts⟩ := h.of_closing hphase
      cases e with
      | exited status =>
          have hall : .signalGroup ∈ done trace ++ left := List.mem_append_left left hsignal
          rw [hacts] at hall
          simp [Ending.acts] at hall
      | deadline => exact absurd hlimit (hbudget rfl)
      | waitFailed error => exact .inr ⟨error, hended⟩
      | abandoned => exact .inl hended

/-! ### The beginning and the end on a machine -/

/-- **The beginning of a watch**: the engine of a call has been started, with its output at the end of
what the artifact holds. -/
structure Begins (x : Watch) (call : Call) (w : Host) (start : Bytes) (m : Moment) : Prop where
  started : w.start call = .ok (x.engine, m.host)
  sink : call.sink = .file ⟨.file x.artifact, start.length, false⟩
  file : ∃ f, w.files.file? x.artifact = some f ∧ f.bytes = start
  budget : call.budget = x.budget
  watching : m.phase = .watching
  unsignalled : m.signalled = false

theorem Begins.holds {call : Call} {start : Bytes} (h : x.Begins call w start m) :
    x.Holds m.host start := by
  obtain ⟨houtput, hfiles, hhandles⟩ := Host.start_eq_ok h.started
  rw [h.sink] at houtput hfiles hhandles
  have hlast : x.output = w.outer.handles.length := by
    simpa [engine, Host.openSink, Host.streamOf, Host.openFile] using houtput
  refine ⟨?_, ?_⟩
  · rw [hhandles, hlast]
    simp [Host.openSink, Host.streamOf, Host.openFile, Host.withMachine]
  · rw [hfiles]
    exact h.file

theorem Begins.invariant {call : Call} {start : Bytes} (h : x.Begins call w start m) :
    x.Invariant start [] m where
  holds := by simpa [written, added, done] using h.holds
  fits := by
    rw [h.watching]
    rfl
  signalled := by simp [h.unsignalled, done]
  gone hsignal := absurd hsignal (by simp [done])

/-- On a machine, a signal takes effect at once. -/
theorem killGroup_eq_fell (w : Host) (group : Nat) :
    w.killGroup group =
      fell w fun p => if p.group = group then some Proc.sureSignal else none := by
  have hprocs : ∀ p : Proc,
      (if (decide (p.group = group) && p.ended.isNone) = true then p.signal Proc.sureSignal else p) =
        if p.ended.isNone then
          { p with ended := if p.group = group then some Proc.sureSignal else none }
        else p := by
    intro p
    cases hended : p.ended with
    | some status => simp
    | none =>
        by_cases hgroup : p.group = group
        · simp [hgroup, Proc.signal]
        · simp [hgroup, ← hended]
  exact congrArg (fun ps => w.withMachine { w.outer with procs := ps })
    (List.map_congr_left fun p _ => hprocs p)

theorem not_live_killGroup (w : Host) : ¬ x.Live (w.killGroup x.leader) := by
  rintro ⟨q, hq, hgroup, hlive⟩
  obtain ⟨p, -, rfl⟩ := List.mem_map.1 hq
  by_cases hkilled : (decide (p.group = x.leader) && p.ended.isNone) = true
  · rw [if_pos hkilled] at hlive
    simp [Proc.signal] at hlive
  · rw [if_neg hkilled] at hgroup hlive
    exact hkilled (by simp [hgroup, hlive])

/-- What is left to do is done in order, where there is no signal in it and nobody who was signalled
is left. -/
theorem execution_of_acts {e : Ending} {left : List Act} {signalled : Bool}
    (hleft : .signalGroup ∉ left) (hgone : signalled = true → ¬ x.Live w) :
    x.Execution ⟨w, .closing e left, signalled⟩ (left.map .did)
      ⟨left.foldl (Host.act x.engine) w, .closing e [], signalled⟩ := by
  induction left generalizing w with
  | nil => exact .nil _
  | cons a left ih =>
      obtain ⟨hfirst, hrest⟩ := not_or.1 (mt List.mem_cons.2 hleft)
      have hstep : x.Step ⟨w, .closing e (a :: left), signalled⟩ (.did a)
          ⟨w.act x.engine a, .closing e left, signalled⟩ :=
        .did rfl (Ne.symm hfirst) fun _ => hgone
      exact hstep.execution.append (ih hrest fun hs hlive => hgone hs (live_of_act hlive))

/-- A signal, if there is one at all, comes first. -/
theorem acts_cases (e : Ending) (budget : Budget) (elapsed : Nat) :
    .signalGroup ∉ e.acts budget elapsed ∨
      ∃ left, e.acts budget elapsed = .signalGroup :: left ∧ .signalGroup ∉ left := by
  cases e <;> simp [Ending.acts]

/-- **What a machine does at the end of a watch is one of the things that can happen.** -/
theorem execution_of_ending {e : Ending} (hsees : x.Sees w e) (elapsed : Nat) :
    ∃ trace signalled, x.Execution ⟨w, .watching, false⟩ trace
        ⟨(e.acts x.budget elapsed).foldl (Host.act x.engine) w, .closing e [], signalled⟩ ∧
      written trace = [] ∧ done trace = e.acts x.budget elapsed := by
  have hended : x.Execution ⟨w, .watching, false⟩ [.ended e]
      ⟨w, .closing e (e.acts x.budget elapsed), false⟩ :=
    Step.execution (.ended e elapsed rfl hsees)
  have hwritten : ∀ acts : List Act, written (acts.map .did) = [] := fun acts => by simp [written]
  have hdone : ∀ acts : List Act, done (acts.map .did) = acts := fun acts => by simp [done]
  rcases acts_cases e x.budget elapsed with hnone | ⟨left, hacts, hleft⟩
  · refine ⟨_, _, hended.append (execution_of_acts hnone (by simp)), ?_, ?_⟩
    · rw [written_append, hwritten]
      rfl
    · rw [done_append, hdone]
      rfl
  · rw [hacts] at hended ⊢
    have hsignal : x.Execution ⟨w, .closing e (.signalGroup :: left), false⟩ [.did .signalGroup]
        ⟨w, .closing e left, true⟩ := Step.execution (.signalled rfl)
    -- the machine ends the group with the signal, which is one of the times it can end at
    have hdied : x.Execution ⟨w, .closing e left, true⟩ [.died]
        ⟨w.killGroup x.leader, .closing e left, true⟩ := by
      rw [killGroup_eq_fell]
      exact Step.execution (.died _)
    have hrest : x.Execution ⟨w.killGroup x.leader, .closing e left, true⟩ (left.map .did)
        ⟨left.foldl (Host.act x.engine) (w.killGroup x.leader), .closing e [], true⟩ :=
      execution_of_acts hleft fun _ => not_live_killGroup w
    refine ⟨_, _, ((hended.append hsignal).append hdied).append hrest, ?_, ?_⟩
    · rw [written_append, hwritten]
      rfl
    · rw [done_append, hdone]
      rfl

/-- A machine sees what can be seen. -/
theorem sees_watchEnding {call : Call} {begun : Host} (hbudget : call.budget = x.budget)
    (patience? : Option Nat) :
    x.Sees (w.watchedToEnd patience? call x.engine begun)
      (w.watchEnding patience? call x.engine begun) := by
  cases hend : w.watchEnding patience? call x.engine begun with
  | exited status => exact Host.ending_eq_exited_iff.1 hend
  | deadline =>
      obtain ⟨limit, hlimit, -⟩ := Host.limit_le_of_watchEnding hend
      simp [Sees, ← hbudget, hlimit]
  | waitFailed error => trivial
  | abandoned => trivial

/-- **What a machine does when its watch ends is one of the things that can happen.** -/
theorem execution_of_supervise {call : Call} {start : Bytes} {begun : Moment}
    (h : x.Begins call w start begun) (patience? : Option Nat) :
    ∃ trace signalled,
      x.Execution ⟨w.watchedToEnd patience? call x.engine begun.host, .watching, false⟩ trace
        ⟨(w.supervise patience? call).2,
          .closing (w.watchEnding patience? call x.engine begun.host) [], signalled⟩ ∧
      written trace = [] ∧
      done trace = (w.watchEnding patience? call x.engine begun.host).acts x.budget
        ((w.watchedToEnd patience? call x.engine begun.host).clock - w.clock) := by
  obtain ⟨w', hacts, hsupervise⟩ := Host.supervise_of_start h.started patience?
  obtain ⟨trace, signalled, hrun, hwritten, hdone⟩ :=
    execution_of_ending (sees_watchEnding h.budget patience?)
      ((w.watchedToEnd patience? call x.engine begun.host).clock - w.clock)
  rw [← h.budget, hacts] at hrun
  have hlast : x.Execution
      ⟨w', .closing (w.watchEnding patience? call x.engine begun.host) [], signalled⟩ [.elsewhere]
      ⟨w'.withMachine { w'.outer with kept := [] },
        .closing (w.watchEnding patience? call x.engine begun.host) [], signalled⟩ :=
    Step.execution (.elsewhere _ ⟨rfl, rfl, id⟩)
  rw [hsupervise]
  refine ⟨_, signalled, hrun.append hlast, ?_, ?_⟩
  · rw [written_append, hwritten]
    rfl
  · rw [done_append, hdone]
    exact List.append_nil _

/-- **What a machine does while it watches is one of the things that can happen**, if everybody there
minds the artifact. -/
theorem execution_of_watchedToEnd {call : Call} {start : Bytes} {begun : Moment}
    (h : x.Begins call w start begun) (hminded : x.Minded begun.host) (patience? : Option Nat) :
    ∃ trace, x.Execution begun trace
        ⟨w.watchedToEnd patience? call x.engine begun.host, .watching, false⟩ ∧ done trace = [] := by
  have hbegun : begun = ⟨begun.host, .watching, false⟩ := by
    rw [← h.watching, ← h.unsignalled]
  rw [hbegun]
  exact execution_of_reaches (Host.reaches_advance _ _ _) hminded _ _

/-- **What a watched engine leaves in its artifact.**  Once it is said that the budget ran out, the
artifact holds what was there at the beginning, all that the group wrote, and the notice, and so it
stays.  If the engine exited, nothing is added to what the group wrote.  An engine without a limit is
never said to have run out of time, and its group is signalled only if waiting fails or is given up.
What a machine does is one of the things that can happen: while it watches, if everybody there minds
the artifact, and from when its watch ends, in the way that it ends. -/
theorem output_of_watch {call : Call} {start : Bytes} (hbegin : x.Begins call w start m)
    (hrun : x.Execution m trace m') :
    (m'.Returned .timedOut →
      x.Holds m'.host (start ++ written trace ++ bytesOf noticeLine) ∧
      start ++ written trace ++ bytesOf noticeLine ≠ [] ∧
      ∀ later m'', x.Execution m' later m'' →
        x.Holds m''.host (start ++ written trace ++ bytesOf noticeLine) ∧ written later = []) ∧
    (m'.Returned .completed → x.Holds m'.host (start ++ written trace)) ∧
    (call.budget.seconds < 0 → ¬ m'.Returned .timedOut ∧
      (.signalGroup ∈ done trace →
        .ended .abandoned ∈ trace ∨ ∃ error, .ended (.waitFailed error) ∈ trace)) ∧
    ∀ patience?,
      (x.Minded m.host → ∃ before, x.Execution m before
        ⟨w.watchedToEnd patience? call x.engine m.host, .watching, false⟩ ∧ done before = []) ∧
      (∃ rest signalled,
        x.Execution ⟨w.watchedToEnd patience? call x.engine m.host, .watching, false⟩ rest
          ⟨(w.supervise patience? call).2,
            .closing (w.watchEnding patience? call x.engine m.host) [], signalled⟩ ∧
        written rest = [] ∧
        done rest = (w.watchEnding patience? call x.engine m.host).acts x.budget
          ((w.watchedToEnd patience? call x.engine m.host).clock - w.clock)) ∧
      (w.supervise patience? call).1 = (w.watchEnding patience? call x.engine m.host).result := by
  have h : x.Invariant start trace m' := by simpa using hrun.invariant hbegin.invariant
  have hnotice : bytesOf noticeLine ≠ [] := by decide +kernel
  refine ⟨fun hreturned => ?_, fun hreturned => ?_, fun hnegative => ?_, fun patience? => ?_⟩
  · -- nobody is left to write, and so nothing changes any more
    obtain ⟨-, hnoticed, hgone⟩ := h.of_timedOut hreturned
    have hlater : ∀ later m'', x.Execution m' later m'' →
        x.Holds m''.host (start ++ written trace ++ bytesOf noticeLine) ∧ written later = [] := by
      intro later m'' hexec
      have hnone := (hexec.gone hgone).1
      have hholds := (hexec.invariant h).holds
      rw [written_append, hnone, List.append_nil] at hholds
      refine ⟨?_, hnone⟩
      simpa [added, hnoticed] using hholds
    exact ⟨(hlater [] m' (.nil m')).1, by simp [hnotice], hlater⟩
  · have hholds := h.holds
    rwa [h.of_completed hreturned, List.append_nil] at hholds
  · have hlimit : x.budget.limit? = none := by simp [← hbegin.budget, Budget.limit?, hnegative]
    exact ⟨fun hreturned => (h.of_timedOut hreturned).1 hlimit, h.of_signalled hlimit⟩
  · obtain ⟨w', -, hsupervise⟩ := Host.supervise_of_start hbegin.started patience?
    exact ⟨fun hminded => execution_of_watchedToEnd hbegin hminded patience?,
      execution_of_supervise hbegin patience?, by rw [hsupervise]⟩

end Watch

/-! ### A group that goes on writing -/

namespace Drill

/-- A machine with an engine, and with an artifact that was made for it. -/
def machine : Host where
  files := {
    root := .dir [("engine", .file 1), ("output", .dir [("antlr_insens.o", .file 0)])]
    cwd := []
    files := [⟨0o644, [], 0⟩, Program.utilityFile "sleep"]
    seals := []
    dirs := []
    mask := usualMask
    now := 0
    moves := [] }
  console := []
  clock := 0
  outage := none
  outer := Machine.idle

def call : Call := ⟨["/engine", "9"], ".", .file ⟨.file 0, 0, false⟩, ⟨1⟩⟩

def watch : Watch := ⟨2, 0, 0, ⟨1⟩⟩

def leader : Proc := Host.seed Machine.idle.env [] (.file 0) 2

/-- The machine just before the engine becomes its program. -/
def spawned : Host := machine.withMachine { Machine.idle with
  procs := [leader]
  handles := [⟨⟨.file 0, 0, false⟩, .writing⟩]
  nextId := 3
  kept := [.file 0] }

def begun : Host := spawned.load leader ⟨"sleep", ["/engine", "9"], 1⟩

theorem stat_engine : machine.files.stat [] "/engine" = .ok (["engine"], .file 1) := by
  have hseek : machine.files.Seeks [] _ "engine" :=
    ⟨⟨by decide, by decide, by decide, by decide, by decide⟩, rfl, by decide⟩
  have hwalk : machine.files.walk .target linkMax [] ["engine"] =
      .ok (.node ["engine"] (.file 1)) := by
    have hnode : machine.files.node? ["engine"] = some (.file 1) := rfl
    rw [hseek.walk_of_get? rfl (by simp)]
    simp [FileTree.walk, hnode]
  have hsteps : Aim.target.steps "/engine" = ["engine"] := by decide +kernel
  have hstart : FileTree.start [] "/engine" = [] := by decide +kernel
  have hcheck : FileTree.checkPath "/engine" = .ok () := rfl
  simp [FileTree.stat, FileTree.locate, hsteps, hcheck, hstart, hwalk, bind, Except.bind,
    Except.mapError, pure, Except.pure]

theorem image_sleep :
    Program.image (Program.utilityFile "sleep").bytes = .ok (.utility "sleep") := by
  have hmagic : Program.magic.isPrefixOf (Program.utilityFile "sleep").bytes = true := by
    decide +kernel
  have hname : (textOf? ((Program.utilityFile "sleep").bytes.drop Program.magic.length)).filter
      Program.utilities.contains = some "sleep" := by
    decide +kernel
  simp [Program.image, hmagic, hname]

theorem become_engine : spawned.become leader ["/engine", "9"] = .ok begun := by
  have hunpack : Octets.unpack "/engine" = "/engine" := by decide +kernel
  have hpass : Right.pass.isIn (Program.utilityFile "sleep").mode = true := by decide
  have hfile : machine.files.file? 1 = some (Program.utilityFile "sleep") := rfl
  have hshort : (["/engine", "9"].any fun a => Program.argumentMax < a.length) = false := by decide
  have hload : Program.load ⟨machine.files, [0, 0]⟩ [] "/engine" ["/engine", "9"] =
      .ok (1, .utility "sleep") := by
    simp [Program.load, hunpack, stat_engine, hfile, hpass, hshort, image_sleep, Except.map]
  have hlibrary : spawned.library = ⟨machine.files, [0, 0]⟩ := rfl
  have hcwd : leader.cwd = [] := rfl
  simp [Host.become, hlibrary, hcwd, Program.resolve, Program.execute, Program.follow, hload, bind,
    Except.bind, Except.map, begun]

theorem begins : watch.Begins call machine [] ⟨begun, .watching, false⟩ where
  started := by
    have hpack : call.argv.map Octets.pack = ["/engine", "9"] := by decide +kernel
    have henter : machine.enter "." = .ok [] := by cbv
    have hbecome : spawned.become leader (call.argv.map Octets.pack) = .ok begun := by
      rw [hpack]
      exact become_engine
    exact Host.start_of_become rfl (by decide) henter rfl rfl rfl hbecome
  sink := rfl
  file := ⟨_, rfl, rfl⟩
  budget := rfl
  watching := rfl
  unsignalled := rfl

/-- A process that has nothing to do but to sleep and to end. -/
structure Dozes (p : Proc) : Prop where
  group : p.group = 2
  pending : p.pending = []
  traps : p.shell.traps = []
  tasks : p.tasks ∈ [[.utility "sleep" ["/engine", "9"]], [.finish], []]

theorem parse_nine : ∃ g, Utility.parse [] true ["9"] = .ok g ∧ g.operands = ["9"] := by
  refine ⟨⟨[], ["9"]⟩, ?_, rfl⟩
  rw [Utility.parse, Utility.parse]
  rfl

/-- What sleeping does. -/
theorem start_sleep (w : Host) (p : Proc) :
    Utility.start w p "sleep" ["/engine", "9"] =
      w.settle { p with tasks := [.finish], wake := w.clock + 9000 } 0 := by
  have hstart : Utility.start w p "sleep" ["/engine", "9"] =
      Utility.sleep w { p with tasks := [.finish] } ["9"] := rfl
  have hmillis : Printing.millis? "9" = some 9000 := by decide +kernel
  obtain ⟨g, hparse, hg⟩ := parse_nine
  rw [hstart, Utility.sleep, Utility.withArguments, hparse]
  simp [hg, hmillis]

/-- A process that has ended by itself. -/
def finished (p : Proc) : Proc := { p with tasks := [], ended := some (p.shell.status % 256 * 256) }

theorem finish_of_traps {p : Proc} (h : p.shell.traps = []) (w : Host) :
    w.finish p = w.setProc (finished p) := by
  rw [Host.finish, h]
  rfl

/-- Who dozes changes nothing but itself, and goes on dozing. -/
theorem Dozes.perform {p : Proc} (h : Dozes p) (w : Host) :
    ∃ p', Dozes p' ∧ w.perform p = ((w.withMask p.mask).setProc p').withMask usualMask := by
  have hfinished : Dozes (finished p) := ⟨h.group, h.pending, h.traps, by simp [finished]⟩
  have htasks := h.tasks
  simp only [List.mem_cons, List.not_mem_nil, or_false] at htasks
  unfold Host.perform
  rcases htasks with htasks | htasks | htasks
  · refine ⟨{ p with
      tasks := [.finish]
      wake := w.clock + 9000
      shell := { p.shell with status := 0 } }, ⟨h.group, h.pending, h.traps, by simp⟩, ?_⟩
    simp only [h.pending, htasks, Host.performTask, start_sleep]
    rfl
  · refine ⟨finished p, hfinished, ?_⟩
    have hfinish : (w.withMask p.mask).finish { p with tasks := [] } =
        (w.withMask p.mask).setProc (finished p) := finish_of_traps h.traps _
    simp only [h.pending, htasks, Host.performTask]
    rw [← h.pending, hfinish]
  · refine ⟨finished p, hfinished, ?_⟩
    simp only [htasks, finish_of_traps h.traps]

/-- Whether nobody on a machine does anything but doze. -/
def Still (w : Host) : Prop := ∀ p ∈ w.outer.procs, Dozes p

theorem Still.move {w w' : Host} (h : Still w) (hmove : Host.Move w w') : Still w' := by
  cases hmove with
  | aligned =>
      obtain ⟨cwd, procs, halign, hprocs⟩ := w.align_eq
      rw [halign]
      intro q hq
      obtain ⟨p, hp, cwd', rfl⟩ := hprocs q hq
      exact ⟨(h p hp).group, (h p hp).pending, (h p hp).traps, (h p hp).tasks⟩
  | @stepped p present ready =>
      obtain ⟨p', hp', hperform⟩ := (h p present).perform w
      intro q hq
      rw [Host.takeStep, hperform] at hq
      obtain ⟨r, hr, rfl⟩ := List.mem_map.1 hq
      split
      · exact hp'
      · exact h r hr
  | passed time => exact h

theorem Still.reaches {w w' : Host} (h : Still w) (hreaches : Host.Reaches w w') : Still w' := by
  induction hreaches with
  | refl => exact h
  | tail _ move ih => exact ih.move move

theorem still_begun : Still begun := by
  intro p hp
  obtain rfl : p = _ := List.mem_singleton.1 hp
  exact ⟨rfl, rfl, rfl, List.mem_cons_self⟩

/-- Who sleeps leaves the artifact alone. -/
theorem minded : watch.Minded begun := by
  intro v p hreaches present ready
  have hstill : Still v := still_begun.reaches hreaches
  obtain ⟨p', -, hperform⟩ := (hstill p present).perform v
  have hlive : watch.Live v :=
    ⟨p, present, (hstill p present).group, Host.ended_of_isReady ready⟩
  refine ⟨[], fun _ => hlive, ?_, ?_, fun _ => hlive⟩
  · rw [Host.takeStep, hperform]
    rfl
  · rw [Host.takeStep, hperform]
    rfl

/-- A child of the engine. -/
def child (id : Nat) : Proc := { leader with id := id, parent := 2 }

def early : Bytes := [101]

def late : Bytes := [108]

/-- The child writes both before and after it is signalled, and nothing of that is lost.  On the
machine itself, all that happens until the watch ends is one of the things that can happen. -/
theorem notice_after_late_output : watch.Begins call machine [] ⟨begun, .watching, false⟩ ∧
    (∃ m', watch.Execution ⟨begun, .watching, false⟩
      [.forked, .wrote early, .ended .deadline, .did .signalGroup, .wrote late, .died,
        .did .reapLeader, .did (.report (deadlineEvent ⟨1⟩)), .did .addNotice] m' ∧
      m'.Returned .timedOut ∧ watch.Holds m'.host (early ++ late ++ bytesOf noticeLine)) ∧
    watch.Minded begun ∧ ∃ before, watch.Execution ⟨begun, .watching, false⟩ before
      ⟨machine.watchedToEnd none call watch.engine begun, .watching, false⟩ ∧ done before = [] := by
  let w₁ := (begun.spawn child).2
  let w₂ := w₁.emit (.file 0) early
  let w₃ := w₂.emit (.file 0) late
  let rest : List Act := [.reapLeader, .report (deadlineEvent ⟨1⟩), .addNotice]
  have hlive : watch.Live begun := ⟨_, List.mem_cons_self, rfl, rfl⟩
  have hlive₁ : watch.Live w₁ := ⟨_, List.mem_cons_self, rfl, rfl⟩
  have hlive₂ : watch.Live w₂ := by
    obtain ⟨p, hp, hmember⟩ := hlive₁
    have hprocs : w₂.outer.procs = w₁.outer.procs := Watch.procs_emit w₁ (.file 0) early
    exact ⟨p, hprocs ▸ hp, hmember⟩
  have hforked : watch.Execution ⟨begun, .watching, false⟩ [.forked] ⟨w₁, .watching, false⟩ :=
    Watch.Step.execution (.forked child hlive)
  have hearly : watch.Execution ⟨w₁, .watching, false⟩ [.wrote early] ⟨w₂, .watching, false⟩ :=
    Watch.Step.execution (.wrote early hlive₁)
  have hlimit : watch.budget.limit? ≠ none := by decide
  have hended : watch.Execution ⟨w₂, .watching, false⟩ [.ended .deadline]
      ⟨w₂, .closing .deadline (.signalGroup :: rest), false⟩ :=
    Watch.Step.execution (.ended .deadline 0 rfl hlimit)
  have hsignal : watch.Execution ⟨w₂, .closing .deadline (.signalGroup :: rest), false⟩
      [.did .signalGroup] ⟨w₂, .closing .deadline rest, true⟩ :=
    Watch.Step.execution (.signalled rfl)
  have hlate : watch.Execution ⟨w₂, .closing .deadline rest, true⟩ [.wrote late]
      ⟨w₃, .closing .deadline rest, true⟩ :=
    Watch.Step.execution (.wrote late hlive₂)
  have hdied : watch.Execution ⟨w₃, .closing .deadline rest, true⟩ [.died]
      ⟨w₃.killGroup 2, .closing .deadline rest, true⟩ := by
    rw [Watch.killGroup_eq_fell]
    exact Watch.Step.execution (.died _)
  have hrest : watch.Execution ⟨w₃.killGroup 2, .closing .deadline rest, true⟩ (rest.map .did)
      ⟨rest.foldl (Host.act watch.engine) (w₃.killGroup 2), .closing .deadline [], true⟩ :=
    Watch.execution_of_acts (by decide) fun _ => Watch.not_live_killGroup w₃
  have hrun := hforked.append <| hearly.append <| hended.append <| hsignal.append <|
    hlate.append <| hdied.append hrest
  have hreturned : Moment.Returned
      ⟨rest.foldl (Host.act watch.engine) (w₃.killGroup 2), .closing .deadline [], true⟩ .timedOut :=
    ⟨.deadline, rfl, rfl⟩
  have hwatch := Watch.output_of_watch begins hrun
  exact ⟨begins, ⟨_, hrun, hreturned, (hwatch.1 hreturned).1⟩, minded,
    (hwatch.2.2.2 none).1 minded⟩

end Drill

end BatchRunner.Supervision
