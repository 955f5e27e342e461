/-
**How a machine gets from one state to another.**

A machine runs by moves: who is in a directory follows it, a process that can do something does it,
or time passes.  Nothing but the last takes time; and where a machine has a limit, it does not stop
before the limit unless it is to.

Main definitions:

* `Host.Move`, `Host.Reaches` — one move of a machine, and any number of them.

Main results:

* `Host.reaches_advance` — **a machine runs by moves**;
* `Host.stop_or_limit_le_clock` — **a machine runs until it is to stop, or until its limit**.
-/
import BatchRunner.Machine.Step

set_option autoImplicit false

namespace BatchRunner.Host

variable {w w' w'' : Host} {stop : Host → Bool} {limit : Nat} {limit? : Option Nat}

/-! ### Moves -/

/-- **What a machine does next.** -/
inductive Move : Host → Host → Prop where
  | aligned (w : Host) : Move w w.align
  | stepped {w : Host} {p : Proc} (present : p ∈ w.outer.procs) (ready : w.isReady p = true) :
      Move w (w.takeStep p)
  | passed (w : Host) (time : Nat) : Move w (w.passTo time)

/-- What a machine gets to by moves. -/
inductive Reaches : Host → Host → Prop where
  | refl (w : Host) : Reaches w w
  | tail {w w' w'' : Host} (past : Reaches w w') (move : Move w' w'') : Reaches w w''

theorem Reaches.trans (h : Reaches w w') (h' : Reaches w' w'') : Reaches w w'' := by
  induction h' with
  | refl => exact h
  | tail _ move ih => exact .tail ih move

theorem Move.reaches (h : Move w w') : Reaches w w' := .tail (.refl w) h

/-- Who follows a directory is somewhere else then, and nothing else about them changes. -/
theorem align_eq (w : Host) :
    ∃ cwd procs, w.align = { w with
        files := { w.files with cwd := cwd, now := w.clock, moves := [] }
        outer := { w.outer with procs := procs } } ∧
      ∀ q ∈ procs, ∃ p ∈ w.outer.procs, ∃ cwd', q = { p with cwd := cwd' } := by
  unfold align
  cases hmoves : w.files.moves with
  | nil =>
      refine ⟨w.files.cwd, w.outer.procs, ?_, fun q hq => ⟨q, hq, q.cwd, rfl⟩⟩
      by_cases hnow : w.files.now = w.clock
      · have hfiles : { w.files with now := w.clock, moves := [] } = w.files := by
          rw [← hnow, ← hmoves]
        rw [hfiles]
        exact if_pos hnow
      · have hfiles : { w.files with now := w.clock, moves := [] } =
            { w.files with now := w.clock } := by
          rw [← hmoves]
        rw [hfiles]
        exact if_neg hnow
  | cons move moves =>
      refine ⟨_, _, rfl, fun q hq => ?_⟩
      obtain ⟨p, hp, rfl⟩ := List.mem_map.1 hq
      exact ⟨p, hp, _, rfl⟩

theorem clock_align (w : Host) : w.align.clock = w.clock := by
  obtain ⟨cwd, procs, halign, -⟩ := w.align_eq
  rw [halign]

theorem ended_of_isReady {p : Proc} (h : w.isReady p = true) : p.ended = none := by
  simp only [isReady, Bool.and_eq_true, Option.isNone_iff_eq_none] at h
  exact h.1.1.1.1

theorem step?_eq_some (h : w.step? = some w') :
    ∃ p, p ∈ w.align.outer.procs ∧ w.align.isReady p = true ∧ w' = w.align.takeStep p := by
  obtain ⟨p, hp, rfl⟩ := Option.map_eq_some_iff.1 h
  exact ⟨p, List.mem_of_find?_eq_some hp, List.find?_some hp, rfl⟩

theorem reaches_of_step? (h : w.step? = some w') : Reaches w w' ∧ w'.clock = w.clock := by
  obtain ⟨p, hp, hready, rfl⟩ := step?_eq_some h
  exact ⟨.tail (Move.aligned w).reaches (.stepped hp hready), clock_align w⟩

/-- A turn of every process is a number of moves, and takes no time. -/
theorem reaches_turn (w : Host) : Reaches w w.turn ∧ w.turn.clock = w.clock := by
  unfold turn
  generalize w.outer.procs.map Proc.id = ids
  induction ids generalizing w with
  | nil => exact ⟨.refl w, rfl⟩
  | cons id ids ih =>
      rw [List.foldl_cons]
      cases hp : (w.align.proc? id).filter w.align.isReady with
      | none =>
          obtain ⟨hrest, hclock⟩ := ih w.align
          simp only [hp]
          exact ⟨(Move.aligned w).reaches.trans hrest, hclock.trans (clock_align w)⟩
      | some p =>
          obtain ⟨hproc, hready⟩ := Option.filter_eq_some_iff.1 hp
          have hmember : p ∈ w.align.outer.procs := List.mem_of_find?_eq_some hproc
          obtain ⟨hrest, hclock⟩ := ih (w.align.takeStep p)
          simp only [hp]
          exact ⟨((Move.aligned w).reaches.tail (.stepped hmember hready)).trans hrest,
            hclock.trans (clock_align w)⟩

/-- What comes after a step: now and then a millisecond passes and every process has its turn. -/
theorem reaches_tick (w : Host) (fuel : Nat) :
    Reaches w (if fuel % stepsPerMilli = 0 then (w.passTo (w.clock + 1)).turn else w) ∧
      (if fuel % stepsPerMilli = 0 then (w.passTo (w.clock + 1)).turn else w).clock =
        w.clock + (if fuel % stepsPerMilli = 0 then 1 else 0) := by
  split
  · obtain ⟨hturn, hclock⟩ := reaches_turn (w.passTo (w.clock + 1))
    refine ⟨(Move.passed w _).reaches.trans hturn, hclock.trans ?_⟩
    simp [passTo]
  · exact ⟨.refl w, rfl⟩

/-! ### Running -/

theorem reaches_advanceFor (stop : Host → Bool) (limit? : Option Nat) (fuel : Nat) (w : Host) :
    Reaches w (advanceFor stop limit? fuel w) := by
  induction fuel generalizing w with
  | zero => exact .refl w
  | succ fuel ih =>
      unfold advanceFor
      split
      · exact .refl w
      · split
        · next w' hstep =>
            exact ((reaches_of_step? hstep).1.trans (reaches_tick w' fuel).1).trans (ih _)
        · split
          · exact .refl w
          · exact (Move.passed w _).reaches
          · exact (Move.passed w _).reaches.trans (ih _)
          · split
            · exact (Move.passed w _).reaches
            · exact (Move.passed w _).reaches.trans (ih _)

/-- **A machine runs by moves.** -/
theorem reaches_advance (w : Host) (stop : Host → Bool) (limit? : Option Nat) :
    Reaches w (w.advance stop limit?) :=
  reaches_advanceFor stop limit? _ w

theorem lt_of_nextWake? {time : Nat} (h : w.nextWake? = some time) : w.clock < time := by
  have hmem := List.min?_mem h
  simpa using (List.mem_filter.1 hmem).2

/-- A machine with steps enough runs until it is to stop, or until its limit. -/
theorem stop_or_limit_le_advanceFor (fuel : Nat) (w : Host)
    (hfuel : limit - w.clock ≤ (fuel + 999) / 1000) :
    stop (advanceFor stop (some limit) fuel w) = true ∨
      limit ≤ (advanceFor stop (some limit) fuel w).clock := by
  induction fuel generalizing w with
  | zero =>
      right
      have : limit - w.clock = 0 := by simpa using hfuel
      simp only [advanceFor]
      omega
  | succ fuel ih =>
      unfold advanceFor
      split
      · next hstop => simpa using hstop
      · split
        · next w' hstep =>
            -- in a thousand steps there is one after which a millisecond passes
            refine ih _ ?_
            rw [(reaches_tick w' fuel).2, (reaches_of_step? hstep).2, stepsPerMilli]
            by_cases hmilli : fuel % 1000 = 0
            · rw [if_pos hmilli]
              omega
            · rw [if_neg hmilli]
              omega
        · split
          · next h => cases h
          · next h =>
              obtain rfl := Option.some.inj h
              exact .inr (Nat.le_max_right _ _)
          · next h => cases h
          · next time limit' hwake h =>
              obtain rfl := Option.some.inj h
              have hlater := lt_of_nextWake? hwake
              split
              · exact .inr (Nat.le_max_right _ _)
              · refine ih _ ?_
                simp only [passTo]
                omega

/-- **A machine runs until it is to stop, or until its limit.** -/
theorem stop_or_limit_le_clock (w : Host) (stop : Host → Bool) (limit : Nat) :
    stop (w.advance stop (some limit)) = true ∨ limit ≤ (w.advance stop (some limit)).clock := by
  refine stop_or_limit_le_advanceFor _ w ?_
  simp only [Option.map_some, Option.getD_some, stepsPerMilli]
  omega

end BatchRunner.Host
