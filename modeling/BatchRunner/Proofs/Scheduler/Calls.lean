/-
**What the launcher is asked to do.**

The launcher is called only for jobs of the run that the document of exclusions does not list for
the context mode of the run, and in the order of the jobs.  Each call carries the command, the
directory and the budget of its job, and its sink is open on the artifact of that job, unless
results go to the console.

Main definitions:

* `Found.place`, `Opened.node` — where a path leads, and the node of what is open;
* `Visit.Requests` — a call is the one that the job of a visit is to be launched with.

Main results:

* `FileTree.node?_of_create` — **what is opened is what the path leads to**;
* `Visit.requests_of_call` — a visit makes the call of its job, which is not predicted to fail;
* `calls_coherent` — **every call is for a job that is not listed, and is the call of that job**.
-/
import BatchRunner.Proofs.Exclusion.Table
import BatchRunner.Proofs.Rehearsal
import Mathlib

set_option autoImplicit false

namespace BatchRunner

/-! ### Opening a path -/

/-- The place that names lead to, whether or not anything is there. -/
def Found.place : Found → Place
  | .node place _ => place
  | .absent dir name => dir ++ [name]

def Opened.node : Opened → Node
  | .file id => .file id
  | .device d => .device d

/-- **What is opened is what the path leads to**, links followed, or is made where it leads. -/
theorem FileTree.node?_of_create {t t' : FileTree} {h : Handle} {base : Place} {path : String}
    (hc : t.create base path = .ok (h, t')) :
    ∃ found, t.locate base .making path = .ok found ∧
      t'.node? found.place = some h.target.node := by
  unfold create at hc
  cases hl : t.locate base .making path with
  | error e => simp [hl, bind, Except.bind] at hc
  | ok found =>
      refine ⟨found, rfl, ?_⟩
      have hshows := locate_shows hl
      cases found with
      | node place x =>
          cases x with
          | file id =>
              have hnode : t.node? place = some (.file id) := by simpa [Shows] using hshows
              cases hw : t.demandWritable id with
              | error e => simp [hl, hw, bind, Except.bind] at hc
              | ok _ =>
                  obtain ⟨rfl, rfl⟩ : _ = h ∧ _ = t' := by
                    simpa [hl, hw, bind, Except.bind, pure, Except.pure] using hc
                  have hroot : (t.rewrite id []).root = t.root := by
                    unfold rewrite
                    split <;> rfl
                  simpa [Found.place, Opened.node, node?, hroot] using hnode
          | device d =>
              have hnode : t.node? place = some (.device d) := by simpa [Shows] using hshows
              obtain ⟨rfl, rfl⟩ : _ = h ∧ _ = t' := by
                simpa [hl, bind, Except.bind, pure, Except.pure] using hc
              exact hnode
          | link target | dir es =>
              simp [hl, bind, Except.bind, throw, throwThe, MonadExceptOf.throw] at hc
      | absent dir name =>
          obtain ⟨es, hdir, -⟩ := hshows
          have hmake : t.makeFile dir name = .ok (h, t') := by
            simpa [hl, bind, Except.bind] using hc
          obtain ⟨f, -, rfl, rfl⟩ := Store.makeFile_eq_ok hmake
          exact node?_put_self hdir

variable {ε : Type} {v : Visit ε} {call : Call}

/-! ### The calls of visits -/

/-- Whether a call is the one that the job of a visit is to be launched with.  If results go into the
store, the sink is open on what stands where the path of the artifact leads. -/
structure Visit.Requests (v : Visit ε) (call : Call) : Prop where
  argv : call.argv = Command.synthesize v.job v.scheduler.config
  cwd : call.cwd = v.scheduler.config.engineDir
  budget : call.budget = v.scheduler.config.timeout
  shown : v.scheduler.config.interactive = true → call.sink = .inherit
  kept : v.scheduler.config.interactive = false → ∃ h t found,
    call.sink = .file h ∧ v.scheduler.store.openForWrite v.job v.before.files = .ok (h, t) ∧
    v.before.files.locate v.before.files.cwd .making (v.scheduler.store.artifact v.job) = .ok found ∧
    t.node? found.place = some h.target.node

/-- A visit makes the call of its job, and only if the job is not predicted to fail. -/
theorem Visit.requests_of_call {launch : Launcher ε} (hc : v.Course v.scheduler.store launch)
    (hcall : v.call? = some call) :
    v.Requests call ∧ v.scheduler.predictor.predicts v.job = false := by
  cases hc with
  | cached _ _ none | waived _ _ none | settled _ _ _ none | unopened _ _ _ _ _ none =>
      exact absurd (none.symm.trans hcall) (by simp)
  | shown shown unflagged _ _ made =>
      obtain rfl : v.scheduler.call v.job .inherit = call := by simpa [made] using hcall
      exact ⟨⟨rfl, rfl, rfl, fun _ => rfl, fun hbatch => by simp [shown] at hbatch⟩, unflagged⟩
  | launched batch _ unflagged h w₀ opened made =>
      obtain rfl : v.scheduler.call v.job (.file h) = call := by simpa [made] using hcall
      have hcreate : v.before.files.create v.before.files.cwd (v.scheduler.store.artifact v.job) =
          .ok (h, w₀.files) := by
        unfold Store.openForWrite at opened
        cases hc : v.before.files.create v.before.files.cwd
            (v.scheduler.store.artifact v.job) with
        | error e => simp [hc] at opened
        | ok made => simpa [hc] using opened
      obtain ⟨found, hfound, hnode⟩ := FileTree.node?_of_create hcreate
      exact ⟨⟨rfl, rfl, rfl, fun hshown => by simp [batch] at hshown,
        fun _ => ⟨h, w₀.files, found, rfl, opened, hfound, hnode⟩⟩, unflagged⟩

/-- The calls of visits come in the order of the visits. -/
theorem Visit.calls_in_order {R : Call → Visit ε → Prop} {vs : List (Visit ε)}
    (h : ∀ v ∈ vs, ∀ call, v.call? = some call → R call v) :
    List.SublistForall₂ R (vs.filterMap Visit.call?) vs := by
  induction vs with
  | nil => exact .nil
  | cons v vs ih =>
      have hrest := ih fun u hu => h u (List.mem_cons_of_mem v hu)
      cases hcall : v.call? with
      | none =>
          rw [List.filterMap_cons_none hcall]
          exact .cons_right hrest
      | some call =>
          rw [List.filterMap_cons_some hcall]
          exact .cons (h v List.mem_cons_self call hcall) hrest

/-! ### The calls of a run -/

/-- **Every call is for a job that the document does not list, and is the call of that job.**  In a
run that follows any others, whose predictor was read from a document for the context mode of its
configuration, the calls of the launcher go to visits in the order of the jobs; the job of each such
visit is not listed for that mode. -/
theorem calls_coherent {text : String} {d : Exclusion.Document} {tables : Exclusion.Tables}
    (hread : Exclusion.Document.parse text = .ok d)
    (haccepted : Exclusion.Tables.parse text = .ok tables) (earlier : List (Run ε)) (r : Run ε)
    (hpredictor : r.scheduler.predictor = .ofTables tables r.scheduler.config.contextMode)
    (w : World ε) :
    (r.visits (performAll earlier w)).map Visit.job = r.jobs ∧
    List.SublistForall₂ (fun call v => v.scheduler = r.scheduler ∧ v.Requests call ∧
        ¬ (d.ofMode r.scheduler.config.contextMode).Lists v.job.variant v.job.program)
      (r.scheduler.calls r.launch r.jobs (performAll earlier w))
      (r.visits (performAll earlier w)) := by
  refine ⟨r.scheduler.map_job_visitsFrom r.launch r.jobs _, ?_⟩
  rw [Scheduler.calls_eq_visits]
  refine Visit.calls_in_order fun v hv call hcall => ?_
  have hscheduler := Scheduler.scheduler_of_mem_visitsFrom hv
  have hcourse := Scheduler.course_of_mem_visitsFrom hv
  rw [← hscheduler] at hcourse
  obtain ⟨hrequests, hunflagged⟩ := Visit.requests_of_call hcourse hcall
  refine ⟨hscheduler, hrequests, fun hlists => ?_⟩
  have hpredicts : v.scheduler.predictor.predicts v.job = true := by
    rw [hscheduler, hpredictor]
    exact (Exclusion.Tables.lists_iff hread haccepted).2 hlists
  exact absurd (hpredicts.symm.trans hunflagged) Bool.noConfusion

namespace Rehearsal

open Exclusion Json

/-- A document in list form that lists one program, for one variant and in the default mode. -/
def flagging : String := "[\x7b\"insens\":[\"bloat\"]\x7d,\x7b\x7d]"

theorem parse_flagging : Document.parse flagging = .ok ⟨[(.insens, [.bloat])], []⟩ := by
  have hprogram : (member Program).run ⟨"\"bloat\"]\x7d,\x7b\x7d]".toList, ⟨1, 12⟩⟩ =
      .ok (.bloat, ⟨"]\x7d,\x7b\x7d]".toList, ⟨1, 19⟩⟩) := by cbv
  have hlast : readElements (member Program) false ⟨"]\x7d,\x7b\x7d]".toList, ⟨1, 19⟩⟩ =
      .ok ([], ⟨"\x7d,\x7b\x7d]".toList, ⟨1, 20⟩⟩) := by cbv
  have hprograms : programs.run ⟨"[\"bloat\"]\x7d,\x7b\x7d]".toList, ⟨1, 11⟩⟩ =
      .ok ([.bloat], ⟨"\x7d,\x7b\x7d]".toList, ⟨1, 20⟩⟩) :=
    readElements_of_more (by rfl) hprogram hlast
  have hvariant : (memberKey Variant).run ⟨"\"insens\":[\"bloat\"]\x7d,\x7b\x7d]".toList, ⟨1, 2⟩⟩ =
      .ok (.insens, ⟨":[\"bloat\"]\x7d,\x7b\x7d]".toList, ⟨1, 10⟩⟩) := by cbv
  have hlone : readEntries (memberKey Variant) programs false ⟨"\x7d,\x7b\x7d]".toList, ⟨1, 20⟩⟩ =
      .ok ([], ⟨",\x7b\x7d]".toList, ⟨1, 21⟩⟩) := by cbv
  have hdefault : readTableAt 0 ⟨"\x7b\"insens\":[\"bloat\"]\x7d,\x7b\x7d]".toList, ⟨1, 1⟩⟩ =
      .ok ([(.insens, [.bloat])], ⟨",\x7b\x7d]".toList, ⟨1, 21⟩⟩) :=
    readEntries_of_more (by rfl) hvariant (by rfl) hprograms hlone
  have hempty : readTableAt 1 ⟨",\x7b\x7d]".toList, ⟨1, 21⟩⟩ =
      .ok ([], ⟨"]".toList, ⟨1, 24⟩⟩) :=
    by cbv
  have hpair : readDocument (Cursor.ofText flagging) =
      .ok (⟨[(.insens, [.bloat])], []⟩, ⟨[], ⟨1, 25⟩⟩) := by
    show readPair ⟨"\x7b\"insens\":[\"bloat\"]\x7d,\x7b\x7d]".toList, ⟨1, 1⟩⟩ = _
    unfold readPair
    rw [hdefault]
    show (readTableAt 1 _ >>= _) = _
    rw [hempty]
    rfl
  unfold Document.parse decode
  rw [hpair]
  rfl

/-- After a run that could not start any engine, a run by that document launches what it does not
list. -/
theorem listed_program_not_launched :
    ∃ d tables, Document.parse flagging = .ok d ∧ Tables.parse flagging = .ok tables ∧
      (d.ofMode .default).Lists .insens .bloat ∧
      ∃ r : Run (List Call),
        r.scheduler.predictor = .ofTables tables r.scheduler.config.contextMode ∧
        r.jobs = [bloat, antlr, bloat] ∧
        List.SublistForall₂ (fun call v => v.scheduler = r.scheduler ∧ v.Requests call ∧
            ¬ (d.ofMode r.scheduler.config.contextMode).Lists v.job.variant v.job.program)
          (r.scheduler.calls r.launch r.jobs
            (performAll [batch .empty .nothing failing [antlr]] (begin [] [])))
          (r.visits (performAll [batch .empty .nothing failing [antlr]] (begin [] []))) := by
  obtain ⟨tables, htables⟩ : ∃ tables, Tables.parse flagging = .ok tables := by
    unfold Tables.parse
    rw [parse_flagging]
    exact ⟨_, rfl⟩
  let r : Run (List Call) :=
    ⟨⟨Config.standard, .ofTables tables .default⟩, launch [], [bloat, antlr, bloat]⟩
  refine ⟨_, tables, parse_flagging, htables, ⟨_, List.mem_cons_self, List.mem_cons_self⟩,
    r, rfl, rfl, ?_⟩
  exact (calls_coherent parse_flagging htables [batch .empty .nothing failing [antlr]] r rfl
    (begin [] [])).2

end Rehearsal

end BatchRunner
