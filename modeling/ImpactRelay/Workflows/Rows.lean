/-
# `Workflows.Rows` — what a step of the system does to a row

A row keeps its place (`SamePlace`: state, context and deadline) through events, claims
and signals.  Only three things move it: the sweep, an advance that writes what it has
made of the instance it read (`Moved`), and a worker that writes by itself, which keeps
the place it has read.  `row_step` is the inversion, one case for each; what the places
a workflow can be in have in common follows by `Fresh.everywhere`.
-/
import ImpactRelay.Workflows.HumanAuthority
import ImpactRelay.Workflows.Moves

namespace ImpactRelay

open Raise WorkflowStore LawfulWorkflowStore WorkflowInstance

/-! ## Places -/

/-- The business state and what goes with it, how long the workflow waits there, and
whether it has waited too long. -/
structure WorkflowInstance.SamePlace (a b : WorkflowInstance) : Prop where
  state : b.workflowState = a.workflowState
  context : b.context = a.context
  deadline : b.waitDeadline = a.waitDeadline
  applied : b.timeoutAppliedAt = a.timeoutAppliedAt

theorem WorkflowInstance.SamePlace.refl (a : WorkflowInstance) : a.SamePlace a := ⟨rfl, rfl, rfl, rfl⟩

theorem WorkflowInstance.SamePlace.trans {a b c : WorkflowInstance} (h : a.SamePlace b)
    (h' : b.SamePlace c) : a.SamePlace c :=
  ⟨h'.state.trans h.state, h'.context.trans h.context, h'.deadline.trans h.deadline,
    h'.applied.trans h.applied⟩

theorem WorkflowInstance.SameCursor.samePlace {a b : WorkflowInstance} (h : a.SameCursor b) :
    a.SamePlace b :=
  ⟨h.workflowState.symm, h.context.symm, h.waitDeadline.symm, h.timeoutAppliedAt.symm⟩

/-- What a phase has of the place its flight has read: an advance that ran has moved it,
or writes nothing; a worker's own write keeps it and does not wait there. -/
def Flight.Recorded (f : Flight) : Prop :=
  match f.phase with
  | .ran signals outcome => ∃ x, outcome.Moved x f.inst signals ∧
      (f.inst.HandedBack → outcome.written = none)
  | .changing change => f.inst.SamePlace change.inst ∧ change.inst.runStatus ≠ .waitingSignal
  | _ => True

namespace WorkflowWorker

variable {inst : WorkflowInstance} {cfg : WorkerConfig} {nowIso nextRunAt : String} {change : Change}

theorem dead_samePlace {reason : String} : inst.SamePlace (dead nowIso reason inst).inst ∧
    (dead nowIso reason inst).inst.runStatus ≠ .waitingSignal :=
  ⟨⟨rfl, rfl, rfl, rfl⟩, nofun⟩

theorem exhausted_samePlace (h : exhausted cfg nowIso inst = some change) :
    inst.SamePlace change.inst ∧ change.inst.runStatus ≠ .waitingSignal := by
  rw [exhausted] at h
  split at h
  · obtain rfl := Option.some.inj h
    exact dead_samePlace
  · cases h

theorem settleRetry_samePlace (h : settleRetry cfg nowIso nextRunAt inst = some change) :
    inst.SamePlace change.inst ∧ change.inst.runStatus ≠ .waitingSignal := by
  rw [settleRetry] at h
  split at h
  · cases h
  rename_i hretry
  split at h
  · obtain rfl := Option.some.inj h
    exact dead_samePlace
  · obtain rfl := Option.some.inj h
    refine ⟨⟨rfl, rfl, rfl, rfl⟩, ?_⟩
    rw [show inst.runStatus = .retryScheduled from Classical.not_not.mp hretry]
    rintro ⟨⟩

theorem handleProcessError_samePlace {exc : PyExc} :
    inst.SamePlace (handleProcessError cfg nowIso nextRunAt exc inst).inst ∧
      (handleProcessError cfg nowIso nextRunAt exc inst).inst.runStatus ≠ .waitingSignal := by
  rw [handleProcessError]
  split <;> exact ⟨⟨rfl, rfl, rfl, rfl⟩, (by rintro ⟨⟩)⟩

end WorkflowWorker

/-- The signal an action sends. -/
def Action.sends : Action → Option (Surroundings × WorkflowSignal)
  | .approve x tenantId w approval =>
      (WorkflowRuntime.approvalSignal x tenantId w approval).toOption.map fun signal => (x, signal)
  | .operate x tenantId w signalType fields =>
      if signalType = some .approval then none
      else some (x, WorkflowRuntime.operatorSignal x tenantId w signalType fields)
  | _ => none

namespace System

variable {σ : Type} [WorkflowStore σ]

/-! ## A row in a step -/

/-- The store takes the signal. -/
def Takes (s : σ) (x : Surroundings) (signal : WorkflowSignal) : Prop :=
  ∃ s', enqueueSignalAndWake x.utcNow signal .pending x.clock true s = .ok s'

/-- How a step moves a row. -/
inductive RowMove (S : System σ) (action : Action) (old new : WorkflowInstance) : Prop
  | keeps (cursor : old.SameCursor new)
  | wakes {x : Surroundings} {signal : WorkflowSignal} (status : new.runStatus = .pending)
      (place : old.SamePlace new) (sent : action.sends = some (x, signal))
      (own : signal.workflowId = old.workflowId) (takes : Takes S.store x signal)
  | leases {worker lease nowIso : String} {now : Datetime}
      (taken : new = old.leaseTo worker lease nowIso) (due : Claimable σ now old)
  | swept {now : Datetime} (sweeps : action = .sweep now) (swept : old.Swept new)
  | advanced {worker utcNow : String} {w : Id} {f : Flight} {signals : List WorkflowSignal}
      {outcome : Outcome} {written : WorkflowInstance} (writes : action = .write worker w utcNow)
      (flight : S.flights (worker, w) = some f) (phase : f.phase = .ran signals outcome)
      (hands : outcome.written = some written) (read : f.inst.SameWorkflow old)
      (same : written.SameWorkflow f.inst) (cursor : written.SameCursor new)
  | changed {worker utcNow : String} {w : Id} {f : Flight} {change : WorkflowWorker.Change}
      (writes : action = .write worker w utcNow) (flight : S.flights (worker, w) = some f)
      (phase : f.phase = .changing change) (read : f.inst.SameWorkflow old)
      (same : change.inst.SameWorkflow f.inst) (cursor : change.inst.SameCursor new)

/-- The rows after a step: every row moved on, and any other one is of a workflow that has
just been started. -/
structure Rows (S : System σ) (action : Action) (s : σ) : Prop where
  kept : ∀ w old, row S.store w = some old →
    ∃ new, row s w = some new ∧ new.SameWorkflow old ∧ S.RowMove action old new
  started : ∀ w new, row s w = some new → row S.store w = none →
    ∃ x request inst, WorkflowRuntime.started x request = .ok inst ∧ new.SameWorkflow inst ∧
      inst.SamePlace new

variable {S T : System σ} {action : Action} {s : σ}

theorem Rows.of_rows (h : row s = row S.store) : S.Rows action s := by
  refine ⟨fun w old hold => ⟨old, by rw [h, hold], .refl old, .keeps (.refl old)⟩, ?_⟩
  intro w new hnew hnone
  rw [h, hnone] at hnew
  exact nomatch hnew

theorem Rows.of_onlyRow {v : Id} {old new : WorkflowInstance} (honly : OnlyRow v S.store s)
    (hold : row S.store v = some old) (hnew : row s v = some new) (hsame : new.SameWorkflow old)
    (hmove : S.RowMove action old new) : S.Rows action s := by
  refine ⟨fun w inst hinst => ?_, fun w inst hinst hnone => ?_⟩
  · by_cases hw : w = v
    · subst hw
      rw [hold] at hinst
      exact Option.some.inj hinst ▸ ⟨new, hnew, hsame, hmove⟩
    · exact ⟨inst, (honly w hw).trans hinst, .refl inst, .keeps (.refl inst)⟩
  · by_cases hw : w = v
    · rw [hw, hold] at hnone
      exact nomatch hnone
    · rw [honly w hw, hnone] at hinst
      exact nomatch hinst

variable [LawfulWorkflowStore σ]

omit [LawfulWorkflowStore σ] in
theorem rows_settle {result : Except PyExc σ} (h : ∀ s', result = .ok s' → S.Rows action s') :
    S.Rows action (settle S.store result) := by
  cases result with
  | error e => exact .of_rows rfl
  | ok s' => exact h s' rfl

theorem rows_append {utcNow : String} {tenantId w : Id} {events : List WorkflowEventWrite}
    (h : appendEvents utcNow tenantId w events S.store = .ok s) : S.Rows action s := by
  obtain ⟨⟨old, new, hold, hnew, hcursor, hsame⟩, honly, -⟩ := append_ok h
  exact .of_onlyRow honly hold hnew hsame.symm (.keeps hcursor)

/-- Events at most: no row is added and none loses its cursor. -/
theorem append_kept {before : σ} {utcNow : String} {tenantId w : Id}
    {events : List WorkflowEventWrite} (v : Id) :
    (∀ old, row before v = some old → ∃ new,
      row (settle before (appendEvents utcNow tenantId w events before)) v = some new ∧
        new.SameWorkflow old ∧ old.SameCursor new) ∧
    (row before v = none →
      row (settle before (appendEvents utcNow tenantId w events before)) v = none) := by
  cases hcall : appendEvents utcNow tenantId w events before with
  | error e => exact ⟨fun old hold => ⟨old, hold, .refl old, .refl old⟩, fun hnone => hnone⟩
  | ok s' =>
      obtain ⟨⟨first, after, hfirst, hafter, hcursor, hsame⟩, honly, -⟩ := append_ok hcall
      constructor
      · intro old hold
        by_cases hv : v = w
        · subst hv
          obtain rfl := Option.some.inj (hfirst.symm.trans hold)
          exact ⟨after, hafter, hsame.symm, hcursor⟩
        · exact ⟨old, (honly v hv).trans hold, .refl old, .refl old⟩
      · intro hnone
        refine (honly v ?_).trans hnone
        rintro rfl
        rw [hfirst] at hnone
        exact nomatch hnone

theorem rows_start (x : Surroundings) (request : StartRequest) :
    S.Rows action (S.start x request).store := by
  rw [System.start]
  split
  · exact .of_rows rfl
  rename_i inst hstarted
  split
  · exact .of_rows rfl
  rename_i created hcreate
  obtain ⟨hnone, ⟨first, hfirst, hsame, heq⟩, honly, -⟩ := create_ok hcreate
  refine ⟨fun w old hold => ?_, fun w new hnew hw => ?_⟩
  · have hne : w ≠ inst.workflowId := by
      rintro rfl
      rw [hnone] at hold
      cases hold
    obtain ⟨new, hnew, hsame', hcursor⟩ := (append_kept w).1 old ((honly w hne).trans hold)
    exact ⟨new, hnew, hsame', .keeps hcursor⟩
  · by_cases hid : w = inst.workflowId
    · subst hid
      obtain ⟨after, hafter, hsame', hcursor⟩ := (append_kept inst.workflowId).1 first hfirst
      obtain rfl := Option.some.inj (hnew.symm.trans hafter)
      have hplace : inst.SamePlace first := heq ▸ ⟨rfl, rfl, rfl, rfl⟩
      exact ⟨x, request, inst, hstarted, hsame'.trans hsame, hplace.trans hcursor.samePlace⟩
    · cases hnew.symm.trans ((append_kept w).2 ((honly w hid).trans hw))

theorem rows_enqueue {x : Surroundings} {signal : WorkflowSignal}
    (hsent : action.sends = some (x, signal)) : S.Rows action (S.enqueue x signal).store := by
  rw [System.enqueue]
  split
  · exact .of_rows rfl
  · rename_i s hcall
    obtain ⟨⟨old, new, hold, _, hnew, hstatus, hsame, hstate, hcontext, hdeadline, happlied⟩,
      honly, -⟩ :=
      enqueue_ok hcall
    exact .of_onlyRow honly hold hnew hsame.symm
      (.wakes hstatus ⟨hstate, hcontext, hdeadline, happlied⟩ hsent (id_of_row hold).symm ⟨s, hcall⟩)

omit [WorkflowStore σ] [LawfulWorkflowStore σ] in
theorem store_foldl_setFlight (worker : String) (insts : List WorkflowInstance) (T : System σ) :
    (insts.foldl (fun T inst => T.setFlight (worker, inst.workflowId) (some ⟨inst, .claimed⟩))
      T).store = T.store := by
  induction insts generalizing T with
  | nil => rfl
  | cons inst rest ih => exact ih _

theorem rows_claim (worker : String) (limit : Nat) (now : Datetime) (ttl : Nat) :
    S.Rows action (S.claim worker limit now ttl).store := by
  rw [System.claim]
  split
  · exact .of_rows rfl
  rename_i claimed s hcall
  rw [store_foldl_setFlight]
  obtain ⟨hclaimed, hrest, -⟩ := claim_ok hcall
  refine ⟨fun w old hold => ?_, fun w new hnew hnone => ?_⟩
  · by_cases hw : ∃ inst ∈ claimed, inst.workflowId = w
    · obtain ⟨inst, hinst, rfl⟩ := hw
      obtain ⟨hnew, old', lease, nowIso, hold', hdue, heq⟩ := hclaimed inst hinst
      obtain rfl := Option.some.inj (hold'.symm.trans hold)
      exact ⟨inst, hnew, heq ▸ ⟨rfl, rfl, rfl, rfl, rfl, rfl⟩, .leases heq hdue⟩
    · refine ⟨old, (hrest w fun inst hinst hid => hw ⟨inst, hinst, hid⟩).trans hold, .refl old, ?_⟩
      exact .keeps (.refl old)
  · by_cases hw : ∃ inst ∈ claimed, inst.workflowId = w
    · obtain ⟨inst, hinst, rfl⟩ := hw
      obtain ⟨_, old', lease, nowIso, hold', _⟩ := hclaimed inst hinst
      rw [hnone] at hold'
      cases hold'
    · have hsame := hrest w fun inst hinst hid => hw ⟨inst, hinst, hid⟩
      rw [show row s w = some new from hnew, hnone] at hsame
      cases hsame

theorem rows_sweep {now : Datetime} :
    S.Rows (.sweep now) (sweepApprovalTimeouts now S.store).2 := by
  refine ⟨fun w old hold => ?_, fun w new hnew hnone => ?_⟩
  · rcases sweep_rows now S.store w with heq | ⟨old', new, hold', hnew, hswept⟩
    · exact ⟨old, heq.trans hold, .refl old, .keeps (.refl old)⟩
    · obtain rfl := Option.some.inj (hold'.symm.trans hold)
      exact ⟨new, hnew, (Follows.of_swept hswept).same, .swept rfl hswept⟩
  · rcases sweep_rows now S.store w with heq | ⟨old', _, hold', _⟩
    · rw [heq, hnone] at hnew
      exact nomatch hnew
    · rw [hnone] at hold'
      exact nomatch hold'

/-! ## What a worker writes -/

omit [LawfulWorkflowStore σ] in
theorem rows_settled {key : String × Id} {inst : WorkflowInstance} {next : Option Phase}
    {result : Except PyExc σ} (h : ∀ s', result = .ok s' → S.Rows action s') :
    S.Rows action (S.settled key inst next result).store := by
  cases result with
  | error exc => exact .of_rows rfl
  | ok s' => exact h s' rfl

omit [LawfulWorkflowStore σ] in
/-- The row an instance of a flight is written over, and what is there then. -/
theorem rows_written {f : Flight} {written old new : WorkflowInstance} (hf : S.FlightSound f)
    (hsame : written.SameWorkflow f.inst) (hold : row S.store written.workflowId = some old)
    (hnew : row s written.workflowId = some new) (honly : OnlyRow written.workflowId S.store s)
    (hkeeps : written.SameWorkflow old → written.SameWorkflow new)
    (hmove : f.inst.SameWorkflow old → S.RowMove action old new) : S.Rows action s := by
  obtain ⟨old', hold', hread⟩ := hf.row
  rw [← hsame.workflowId, hold] at hold'
  obtain rfl := Option.some.inj hold'
  have hover : written.SameWorkflow old := hsame.trans hread
  exact .of_onlyRow honly hold hnew ((hkeeps hover).symm.trans hover) (hmove hread)

theorem rows_writeFlight (h : S.Sound) {worker utcNow : String} {w : Id} {f : Flight}
    (hflight : S.flights (worker, w) = some f) :
    S.Rows (.write worker w utcNow) (writeFlight (worker, w) f utcNow S).store := by
  have hf : S.FlightSound f := h.flights _ f hflight
  have hphase := hf.phase
  rw [System.writeFlight]
  split
  · rename_i signals outcome hran
    rw [hran] at hphase
    rw [System.writeOutcome]
    split
    · rename_i signalId hmark
      exact .of_rows (mark_ok (σ := σ) _ _ _ _).1
    split
    · rename_i bundle hwrite
      have hhands : outcome.written = some bundle.instance_ := by rw [Outcome.written, hwrite]
      have hsame : bundle.instance_.SameWorkflow f.inst := (hphase _ hhands).same
      refine rows_settled fun s' hs' => ?_
      obtain ⟨⟨old, new, hold, _, hnew, hcursor, hkeeps⟩, honly, -⟩ := commit_ok hs'
      exact rows_written hf hsame hold hnew honly hkeeps fun hread =>
        .advanced rfl hflight hran hhands hread hsame hcursor
    · rename_i written hwrite
      have hhands : outcome.written = some written := by rw [Outcome.written, hwrite]
      have hsame : written.SameWorkflow f.inst := (hphase _ hhands).same
      refine rows_settled fun s' hs' => ?_
      obtain ⟨old, new, hold, _, hnew, hcursor, hkeeps, honly, -⟩ := update_ok hs'
      exact rows_written hf hsame hold hnew honly hkeeps fun hread =>
        .advanced rfl hflight hran hhands hread hsame hcursor
    · exact .of_rows rfl
  · rename_i change hchanging
    rw [hchanging] at hphase
    refine rows_settled fun s' hs' => ?_
    obtain ⟨old, new, hold, _, hnew, hcursor, hkeeps, honly, -⟩ := update_ok hs'
    exact rows_written hf hphase.same hold hnew honly hkeeps fun hread =>
      .changed rfl hflight hchanging hread hphase.same hcursor
  · exact rows_settle fun s' hs' => rows_append hs'
  · exact .of_rows rfl

variable [Digest] [Json.CharTable]

theorem rows_runAdvance {key : String × Id} {inst : WorkflowInstance}
    {signals : List WorkflowSignal} {x : Surroundings} :
    row (S.runAdvance key inst signals x).store = row S.store := by
  rw [System.runAdvance]
  split
  · exact row_withReceipts _ _
  · exact row_withReceipts _ _

/-- What a step does to the rows. -/
theorem row_step (h : S.Sound) (action : Action) : S.Rows action (S.step action).store := by
  have honFlight : ∀ (worker : String) (w : Id) (f : String × Id → Flight → System σ → System σ),
      (∀ flight, S.flights (worker, w) = some flight →
        S.Rows action (f (worker, w) flight S).store) →
      S.Rows action (S.onFlight worker w f).store := by
    intro worker w f hf
    rw [System.onFlight]
    split
    · rename_i flight hflight
      exact hf flight hflight
    · exact .of_rows rfl
  cases action with
  | start x request => exact rows_start x request
  | approve x tenantId w approval =>
      rw [System.step]
      split
      · rename_i signal hsignal
        refine rows_enqueue (x := x) ?_
        rw [Action.sends, hsignal]
        rfl
      · exact .of_rows rfl
  | operate x tenantId w signalType fields =>
      rw [System.step]
      split
      · exact .of_rows rfl
      · rename_i hoperator
        exact rows_enqueue (if_neg hoperator)
  | claim worker limit now ttl => exact rows_claim worker limit now ttl
  | pump worker tenantId w =>
      rw [System.step]
      split <;> exact .of_rows rfl
  | get worker w =>
      refine honFlight worker w _ fun f _ => ?_
      rw [System.getRow]
      split
      · split <;> exact .of_rows rfl
      · exact .of_rows rfl
  | take worker w =>
      refine honFlight worker w _ fun f _ => ?_
      rw [System.takeSignals]
      split
      · split <;> exact .of_rows rfl
      · exact .of_rows rfl
  | run worker w x =>
      refine honFlight worker w _ fun f _ => ?_
      rw [System.runFlight]
      split
      · split
        · exact .of_rows rfl
        · exact .of_rows rows_runAdvance
      · exact .of_rows rows_runAdvance
      · exact .of_rows rfl
  | write worker w utcNow => exact honFlight worker w _ fun f hf => rows_writeFlight h hf
  | look worker w cfg nowIso nextRunAt => exact honFlight worker w _ fun f _ => .of_rows rfl
  | drop worker w => exact .of_rows rfl
  | sweep now => exact rows_sweep

/-! ## What the flights hold -/

/-- Each flight holds what the steps of its worker have made. -/
def Recorded (S : System σ) : Prop := ∀ key f, S.flights key = some f → f.Recorded

omit [WorkflowStore σ] [LawfulWorkflowStore σ] [Digest] [Json.CharTable] in
theorem Recorded.setFlight (h : S.Recorded) {key : String × Id} {o : Option Flight}
    (ho : ∀ f, o = some f → f.Recorded) : (S.setFlight key o).Recorded := by
  intro key' f hf
  have hupdate : Function.update S.flights key o key' = some f := hf
  rw [Function.update_apply] at hupdate
  split at hupdate
  · exact ho f hupdate
  · exact h key' f hupdate

omit [WorkflowStore σ] [LawfulWorkflowStore σ] [Digest] [Json.CharTable] in
theorem Recorded.setFlight_of (h : S.Recorded) {key : String × Id} {f : Flight} (hf : f.Recorded) :
    (S.setFlight key (some f)).Recorded :=
  h.setFlight fun _ hg => Option.some.inj hg ▸ hf

omit [WorkflowStore σ] [LawfulWorkflowStore σ] [Digest] [Json.CharTable] in
theorem Recorded.of_flights (h : S.Recorded) (hflights : T.flights = S.flights) : T.Recorded := by
  intro key f hf
  exact h key f (hflights ▸ hf)

omit [WorkflowStore σ] [LawfulWorkflowStore σ] [Digest] [Json.CharTable] in
theorem Recorded.settled (h : S.Recorded) {key : String × Id} {inst : WorkflowInstance}
    {next : Option Phase} {result : Except PyExc σ}
    (hnext : ∀ phase, next = some phase → Flight.Recorded ⟨inst, phase⟩) :
    (S.settled key inst next result).Recorded := by
  cases result with
  | error exc => exact h.setFlight_of trivial
  | ok s =>
      refine Recorded.setFlight (S := S.withStore s) h fun f hf => ?_
      obtain ⟨phase, hphase, rfl⟩ := Option.map_eq_some_iff.mp hf
      exact hnext phase hphase

omit [LawfulWorkflowStore σ] in
theorem Recorded.runAdvance (h : S.Recorded) {key : String × Id} {inst : WorkflowInstance}
    {signals : List WorkflowSignal} {x : Surroundings} :
    (S.runAdvance key inst signals x).Recorded := by
  have hland : ∀ a, (S.land inst a).Recorded := fun a => h.of_flights rfl
  rw [System.runAdvance]
  split
  · rename_i outcome a hrun
    exact (hland a).setFlight_of
      ⟨x, advanceOnce_moved _ _ _ hrun, fun hover => advanceOnce_handsBack hover _ _ _ hrun⟩
  · rename_i exc a hrun
    exact (hland a).setFlight_of trivial

omit [LawfulWorkflowStore σ] [Digest] [Json.CharTable] in
theorem Recorded.writeFlight (h : S.Recorded) {key : String × Id} {f : Flight}
    (hf : f.Recorded) {utcNow : String} : (System.writeFlight key f utcNow S).Recorded := by
  have hover : ∀ phase, some (Phase.over none) = some phase → Flight.Recorded ⟨f.inst, phase⟩ := by
    intro phase hphase
    exact Option.some.inj hphase ▸ trivial
  rw [Flight.Recorded] at hf
  rw [System.writeFlight]
  split
  · rename_i signals outcome hran
    rw [hran] at hf
    rw [System.writeOutcome]
    split
    · obtain ⟨x, hmoved, hidle⟩ := hf
      exact Recorded.setFlight_of (S := S.withStore _) h ⟨x, hmoved.marking none, hidle⟩
    split
    · exact h.settled hover
    · exact h.settled hover
    · exact h.setFlight_of trivial
  · refine h.settled fun phase hphase => ?_
    obtain ⟨event, _, rfl⟩ := Option.map_eq_some_iff.mp hphase
    exact trivial
  · exact Recorded.setFlight (S := S.withStore _) h fun _ hg => by cases hg
  · exact h

omit [LawfulWorkflowStore σ] [Digest] [Json.CharTable] in
theorem lookAt_recorded {cfg : WorkerConfig} {nowIso nextRunAt : String} {f g : Flight}
    (hf : f.Recorded) (hg : S.lookAt cfg nowIso nextRunAt f = some g) : g.Recorded := by
  rw [System.lookAt] at hg
  split at hg
  · obtain rfl := Option.some.inj hg
    split
    · rename_i change hexhausted
      exact WorkflowWorker.exhausted_samePlace hexhausted
    · exact hf
  · obtain ⟨inst, _, hg⟩ := Option.bind_eq_some_iff.mp hg
    obtain ⟨change, hchange, rfl⟩ := Option.map_eq_some_iff.mp hg
    exact WorkflowWorker.settleRetry_samePlace hchange
  · rename_i exc _
    obtain rfl := Option.some.inj hg
    generalize (WorkflowStore.get S.store f.inst.tenantId f.inst.workflowId).getD f.inst = current
    exact @WorkflowWorker.handleProcessError_samePlace current cfg nowIso nextRunAt exc
  · obtain rfl := Option.some.inj hg
    exact hf

omit [LawfulWorkflowStore σ] [Digest] [Json.CharTable] in
theorem Recorded.claim (h : S.Recorded) {worker : String} {limit : Nat} {now : Datetime}
    {ttl : Nat} : (S.claim worker limit now ttl).Recorded := by
  rw [System.claim]
  split
  · exact h
  rename_i claimed s hcall
  suffices hfold : ∀ (insts : List WorkflowInstance) (T : System σ), T.Recorded →
      (insts.foldl (fun T inst =>
        T.setFlight (worker, inst.workflowId) (some ⟨inst, .claimed⟩)) T).Recorded from
    hfold claimed _ (h.of_flights rfl)
  intro insts
  induction insts with
  | nil => exact fun T hT => hT
  | cons inst rest ih => exact fun T hT => ih _ (hT.setFlight_of trivial)

omit [LawfulWorkflowStore σ] in
theorem Recorded.step (h : S.Recorded) (action : Action) : (S.step action).Recorded := by
  have honFlight : ∀ (worker : String) (w : Id) (f : String × Id → Flight → System σ → System σ),
      (∀ flight, flight.Recorded → (f (worker, w) flight S).Recorded) →
      (S.onFlight worker w f).Recorded := by
    intro worker w f hf
    rw [System.onFlight]
    split
    · rename_i flight hflight
      exact hf flight (h _ flight hflight)
    · exact h
  have henqueue : ∀ x signal, (S.enqueue x signal).Recorded := by
    intro x signal
    rw [System.enqueue]
    split
    · exact h
    · exact h.of_flights rfl
  cases action with
  | start x request =>
      rw [System.step, System.start]
      split
      · exact h
      · split
        · exact h
        · exact h.of_flights rfl
  | approve x tenantId w approval =>
      rw [System.step]
      split
      · exact henqueue x _
      · exact h
  | operate x tenantId w signalType fields =>
      rw [System.step]
      split
      · exact h
      · exact henqueue x _
  | claim worker limit now ttl => exact h.claim
  | pump worker tenantId w =>
      rw [System.step]
      split
      · exact h.setFlight_of trivial
      · exact h
  | get worker w =>
      refine honFlight worker w _ fun f hf => ?_
      rw [System.getRow]
      split
      · split <;> exact h.setFlight_of trivial
      · exact h
  | take worker w =>
      refine honFlight worker w _ fun f hf => ?_
      rw [System.takeSignals]
      split
      · split
        · exact h.setFlight_of trivial
        · exact h
      · exact h
  | run worker w x =>
      refine honFlight worker w _ fun f hf => ?_
      rw [System.runFlight]
      split
      · split
        · exact h
        · exact h.runAdvance
      · exact h.runAdvance
      · exact h
  | write worker w utcNow => exact honFlight worker w _ fun f hf => h.writeFlight hf
  | look worker w cfg nowIso nextRunAt =>
      exact honFlight worker w _ fun f hf => h.setFlight fun g hg => lookAt_recorded hf hg
  | drop worker w => exact h.setFlight fun _ hg => by cases hg
  | sweep now => exact h.of_flights rfl

/-- What holds of a system that has run from a fresh one. -/
structure Begun (S : System σ) : Prop where
  sound : S.Sound
  recorded : S.Recorded

omit [LawfulWorkflowStore σ] [Digest] [Json.CharTable] in
theorem Fresh.begun (h : S.Fresh) : S.Begun := by
  refine ⟨h.sound, fun key f hf => ?_⟩
  rw [h.flights key] at hf
  exact nomatch hf

theorem Begun.step (h : S.Begun) (action : Action) : (S.step action).Begun :=
  ⟨h.sound.step action, h.recorded.step action⟩

theorem Begun.run (h : S.Begun) (actions : List Action) : (run System.step S actions).Begun := by
  have halong : Along System.step (fun _ _ => True) S actions := along_of_forall fun _ _ => trivial
  exact run_invariant (P := Begun) (fun T action hT _ => hT.step action) h halong

end System

/-! ## Invariants of the place -/

/-- A property of the place of a workflow: started ones have it, and neither an advance
nor a timeout loses it. -/
structure PlaceInvariant (P : WorkflowInstance → Prop) : Prop where
  started : ∀ x request inst, WorkflowRuntime.started x request = .ok inst → P inst
  place : ∀ a b, b.SameWorkflow a → a.SamePlace b → P a → P b
  swept : ∀ old new, old.Swept new → P old → P new
  moved : ∀ x inst signals consumed new, inst.Moved x signals consumed new →
    new.timeoutAppliedAt = inst.timeoutAppliedAt → new.SameWorkflow inst → P inst → P new

namespace System

variable {σ : Type} [WorkflowStore σ] [LawfulWorkflowStore σ] [Digest] [Json.CharTable]
  {S : System σ} {P : WorkflowInstance → Prop}

/-- Everything stored and everything held has the property. -/
structure Everywhere (P : WorkflowInstance → Prop) (S : System σ) : Prop where
  rows : ∀ w inst, row S.store w = some inst → P inst
  held : ∀ inst, S.Holds inst → P inst

/-- A worker has this from its advance, to hand to the store. -/
def Ran (S : System σ) (written : WorkflowInstance) : Prop :=
  ∃ key f signals outcome, S.flights key = some f ∧ f.phase = .ran signals outcome ∧
    outcome.written = some written

/-- A property of places stays everywhere if what the advances have made has it. -/
theorem Everywhere.step_of
    (hstarted : ∀ x request inst, WorkflowRuntime.started x request = .ok inst → P inst)
    (hplace : ∀ a b, b.SameWorkflow a → a.SamePlace b → P a → P b)
    (hswept : ∀ old new, old.Swept new → P old → P new) (hran : ∀ written, S.Ran written → P written)
    (hS : S.Begun) (h : S.Everywhere P) (action : Action) : (S.step action).Everywhere P := by
  have hrows : ∀ w inst, row (S.step action).store w = some inst → P inst := by
    intro w inst hinst
    cases hold : row S.store w with
    | none =>
        obtain ⟨x, request, begun, hbegun, hsame, hat⟩ :=
          (row_step hS.sound action).started w inst hinst hold
        exact hplace begun inst hsame hat (hstarted x request begun hbegun)
    | some old =>
        obtain ⟨new, hnew, hsame, hmove⟩ := (row_step hS.sound action).kept w old hold
        obtain rfl := Option.some.inj (hnew.symm.trans hinst)
        have hPold : P old := h.rows w old hold
        cases hmove with
        | keeps cursor => exact hplace old _ hsame cursor.samePlace hPold
        | wakes status place => exact hplace old _ hsame place hPold
        | leases taken => exact hplace old _ hsame (taken ▸ ⟨rfl, rfl, rfl, rfl⟩) hPold
        | swept sweeps swept => exact hswept old _ swept hPold
        | advanced writes flight phase hands read same cursor =>
            exact hplace _ _ (hsame.trans (read.symm.trans same.symm)) cursor.samePlace
              (hran _ ⟨_, _, _, _, flight, phase, hands⟩)
        | changed writes flight phase read same cursor =>
            rename_i worker utcNow v f change
            have hrecorded := hS.recorded _ f flight
            rw [Flight.Recorded, phase] at hrecorded
            exact hplace f.inst _ (hsame.trans read.symm)
              (hrecorded.1.trans cursor.samePlace) (h.held f.inst ⟨_, f, flight, rfl⟩)
  refine ⟨hrows, fun inst hinst => ?_⟩
  rcases (step_moves action).held inst hinst with hheld | hstored | hstored
  · exact h.held inst hheld
  · exact h.rows _ inst (row_of_get hstored)
  · exact hrows _ inst (row_of_get hstored)

theorem Everywhere.step (hP : PlaceInvariant P) (hS : S.Begun) (h : S.Everywhere P)
    (action : Action) : (S.step action).Everywhere P := by
  refine h.step_of hP.started hP.place hP.swept ?_ hS action
  rintro written ⟨key, f, signals, outcome, hflight, hphase, hhands⟩
  have hrecorded := hS.recorded key f hflight
  have hphased := (hS.sound.flights key f hflight).phase
  rw [Flight.Recorded, hphase] at hrecorded
  rw [hphase] at hphased
  obtain ⟨x, hmoved, -⟩ := hrecorded
  exact hP.moved x f.inst signals _ written (hmoved.written written hhands).1
    (hmoved.written written hhands).2 (hphased written hhands).same
    (h.held f.inst ⟨key, f, hflight, rfl⟩)

theorem Everywhere.run (hP : PlaceInvariant P) (hS : S.Begun) (h : S.Everywhere P)
    (actions : List Action) : (run System.step S actions).Everywhere P := by
  have halong : Along System.step (fun _ _ => True) S actions := along_of_forall fun _ _ => trivial
  exact (run_invariant (P := fun T => T.Begun ∧ T.Everywhere P)
    (fun T action hT _ => ⟨hT.1.step action, hT.2.step hP hT.1 action⟩) ⟨hS, h⟩ halong).2

/-- It holds in every state of every run. -/
theorem Fresh.everywhere (hS : S.Fresh) (hP : PlaceInvariant P) (actions : List Action) :
    (run System.step S actions).Everywhere P := by
  have hfresh : S.Everywhere P := by
    constructor
    · intro w inst hinst
      rw [hS.rows w] at hinst
      exact nomatch hinst
    · rintro inst ⟨key, f, hf, _⟩
      rw [hS.flights key] at hf
      exact nomatch hf
  exact hfresh.run hP hS.begun actions

end System

end ImpactRelay
