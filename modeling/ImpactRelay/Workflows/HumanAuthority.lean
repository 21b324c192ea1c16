/-
# `Workflows.HumanAuthority` — nothing consequential without a human

Every command the runtime executes and that needs a human is backed by an APPROVE
that was enqueued before for this workflow and tenant, and names the command the
gate had frozen; what is executed is that command, with the approver put in.

The instance an advance works on is one the store held earlier in the run: a worker
gets it by `get` or by a claim and keeps it while it flies (`step_moves`).
-/
import ImpactRelay.Domain.Atomicity
import ImpactRelay.Workflows.Sound
import ImpactRelay.Workflows.StoreSql
import Mathlib

namespace ImpactRelay

open Raise WorkflowStore LawfulWorkflowStore

namespace System

variable {σ : Type} [WorkflowStore σ] {S T : System σ} {inst : WorkflowInstance}

/-- A system that has not run yet. -/
structure Fresh (S : System σ) : Prop where
  rows : ∀ w, row S.store w = none
  signals : ∀ w, signalsOf S.store w = []
  flights : ∀ key, S.flights key = none
  enqueued : S.enqueued = []
  executed : S.executed = []

theorem Fresh.sound (h : S.Fresh) : S.Sound where
  rows w inst hinst := by
    rw [h.rows w] at hinst
    exact nomatch hinst
  signals w x hx := by
    rw [h.signals w] at hx
    exact absurd hx List.not_mem_nil
  flights key f hf := by
    rw [h.flights key] at hf
    exact nomatch hf
  executed e he := by
    rw [h.executed] at he
    exact absurd he List.not_mem_nil

/-! ## What a worker holds -/

/-- A worker holds the instance. -/
def Holds (S : System σ) (inst : WorkflowInstance) : Prop :=
  ∃ key f, S.flights key = some f ∧ f.inst = inst

/-- The instance is what the store has for its workflow. -/
def Stores (S : System σ) (inst : WorkflowInstance) : Prop :=
  WorkflowStore.get S.store inst.tenantId inst.workflowId = some inst

/-- What a step may do to what is held and to what has been executed: an instance held
afterwards was held or stored before, or is stored now; and what is executed, an advance
executes on an instance it holds. -/
structure Moves (S T : System σ) : Prop where
  held : ∀ inst, T.Holds inst → S.Holds inst ∨ S.Stores inst ∨ T.Stores inst
  executed : ∃ new, T.executed = S.executed ++ new ∧ (new ≠ [] → T.enqueued = S.enqueued) ∧
    ∀ e ∈ new, S.Holds e.inst

omit [WorkflowStore σ] in
theorem executed_same (h : T.executed = S.executed) : ∃ new, T.executed = S.executed ++ new ∧
    (new ≠ [] → T.enqueued = S.enqueued) ∧ ∀ e ∈ new, S.Holds e.inst :=
  ⟨[], h.trans (List.append_nil _).symm, fun hne => absurd rfl hne,
    fun _ he => absurd he List.not_mem_nil⟩

theorem Moves.of_same (hflights : T.flights = S.flights) (hexecuted : T.executed = S.executed) :
    Moves S T := by
  refine ⟨?_, executed_same hexecuted⟩
  rintro inst ⟨key, f, hf, hinst⟩
  exact Or.inl ⟨key, f, hflights ▸ hf, hinst⟩

theorem holds_setFlight {key : String × Id} {o : Option Flight} (hflights : T.flights = S.flights)
    (ho : ∀ f, o = some f → S.Holds f.inst ∨ S.Stores f.inst) (h : (T.setFlight key o).Holds inst) :
    S.Holds inst ∨ S.Stores inst := by
  obtain ⟨key', f, hf, rfl⟩ := h
  have hupdate : Function.update T.flights key o key' = some f := hf
  rw [Function.update_apply] at hupdate
  split at hupdate
  · exact ho f hupdate
  · exact Or.inl ⟨key', f, hflights ▸ hupdate, rfl⟩

theorem Moves.setFlight {key : String × Id} {o : Option Flight} (hflights : T.flights = S.flights)
    (hexecuted : T.executed = S.executed)
    (ho : ∀ f, o = some f → S.Holds f.inst ∨ S.Stores f.inst) : Moves S (T.setFlight key o) :=
  ⟨fun _ h => (holds_setFlight hflights ho h).imp id Or.inl, executed_same hexecuted⟩

variable [LawfulWorkflowStore σ]

theorem stores_of_get {tenantId w : Id} (h : WorkflowStore.get S.store tenantId w = some inst) :
    S.Stores inst := by
  obtain ⟨hrow, htenant⟩ := get_eq_some.mp h
  rw [Stores, htenant, id_of_row hrow]
  exact h

theorem claim_moves (worker : String) (limit : Nat) (now : Datetime) (ttl : Nat) :
    Moves S (S.claim worker limit now ttl) := by
  rw [System.claim]
  split
  · exact .of_same rfl rfl
  rename_i claimed s hcall
  -- every instance claimed is stored, before its flight and after it
  have hfold : ∀ (insts : List WorkflowInstance) (T : System σ), T.store = s →
      (∀ inst ∈ insts, row s inst.workflowId = some inst) → T.executed = S.executed →
      (∀ inst, T.Holds inst → S.Holds inst ∨ T.Stores inst) →
      ∀ U, U = insts.foldl (fun T inst =>
          T.setFlight (worker, inst.workflowId) (some ⟨inst, .claimed⟩)) T →
        U.executed = S.executed ∧ ∀ inst, U.Holds inst → S.Holds inst ∨ U.Stores inst := by
    intro insts
    induction insts with
    | nil => exact fun T _ _ hexecuted hT U hU => hU ▸ ⟨hexecuted, hT⟩
    | cons i rest ih =>
        intro T hstore hrows hexecuted hT
        refine ih _ hstore (fun j hj => hrows j (List.mem_cons_of_mem _ hj)) hexecuted ?_
        intro inst hinst
        have hrow : row T.store i.workflowId = some i := hstore ▸ hrows i List.mem_cons_self
        rcases holds_setFlight (S := T) rfl (fun f hf => Option.some.inj hf ▸
          Or.inr (get_eq_some.mpr ⟨hrow, rfl⟩)) hinst with hheld | hstored
        · exact hT inst hheld
        · exact Or.inr hstored
  obtain ⟨hexecuted, hheld⟩ := hfold claimed (S.withStore s) rfl
    (fun i hi => ((claim_ok hcall).1 i hi).1) rfl (fun i hi => Or.inl hi) _ rfl
  exact ⟨fun inst hinst => (hheld inst hinst).imp id Or.inr, executed_same hexecuted⟩

omit [LawfulWorkflowStore σ] in
theorem settled_moves {key : String × Id} {next : Option Phase} {result : Except PyExc σ}
    (hinst : S.Holds inst) : Moves S (S.settled key inst next result) := by
  cases result with
  | error exc => exact .setFlight rfl rfl fun f hf => Option.some.inj hf ▸ Or.inl hinst
  | ok s =>
      refine .setFlight rfl rfl fun f hf => ?_
      obtain ⟨phase, _, rfl⟩ := Option.map_eq_some_iff.mp hf
      exact Or.inl hinst

theorem lookAt_held {cfg : WorkerConfig} {nowIso nextRunAt : String} {f g : Flight}
    (hf : S.Holds f.inst) (hg : S.lookAt cfg nowIso nextRunAt f = some g) :
    S.Holds g.inst ∨ S.Stores g.inst := by
  rw [System.lookAt] at hg
  split at hg
  · obtain rfl := Option.some.inj hg
    split <;> exact Or.inl hf
  · obtain ⟨inst, hinst, hg⟩ := Option.bind_eq_some_iff.mp hg
    obtain ⟨change, _, rfl⟩ := Option.map_eq_some_iff.mp hg
    exact Or.inr (stores_of_get hinst)
  · obtain rfl := Option.some.inj hg
    cases hinst : WorkflowStore.get S.store f.inst.tenantId f.inst.workflowId with
    | some inst => exact Or.inr (stores_of_get hinst)
    | none => exact Or.inl hf
  · exact Option.some.inj hg ▸ Or.inl hf

omit [LawfulWorkflowStore σ] in
theorem onFlight_moves {worker : String} {w : Id} {f : String × Id → Flight → System σ → System σ}
    (h : ∀ key flight, S.Holds flight.inst → Moves S (f key flight S)) :
    Moves S (S.onFlight worker w f) := by
  rw [System.onFlight]
  split
  · rename_i flight hflight
    exact h _ flight ⟨_, flight, hflight, rfl⟩
  · exact .of_same rfl rfl

omit [LawfulWorkflowStore σ] in
theorem enqueue_moves {x : Surroundings} {signal : WorkflowSignal} :
    Moves S (S.enqueue x signal) := by
  rw [System.enqueue]
  split <;> exact .of_same rfl rfl

variable [Digest] [Json.CharTable]

omit [LawfulWorkflowStore σ] in
/-- A run hands back the instance it was given, with what it has executed on it. -/
theorem runAdvance_moves {key : String × Id} {signals : List WorkflowSignal} {x : Surroundings}
    (hinst : S.Holds inst) : Moves S (S.runAdvance key inst signals x) := by
  have hflight : ∀ (a : Advance) (phase : Phase),
      Moves S ((S.land inst a).setFlight key (some ⟨inst, phase⟩)) := by
    intro a phase
    refine ⟨fun i hi => ?_, _, rfl, fun _ => rfl, fun e he => ?_⟩
    · exact (holds_setFlight (S := S) rfl (fun f hf => Option.some.inj hf ▸ Or.inl hinst) hi).imp
        id Or.inl
    · obtain ⟨execution, _, rfl⟩ := List.mem_map.mp he
      exact hinst
  rw [System.runAdvance]
  split
  · exact hflight _ _
  · exact hflight _ _

theorem step_moves (action : Action) : Moves S (S.step action) := by
  cases action with
  | start x request =>
      rw [System.step, System.start]
      split
      · exact .of_same rfl rfl
      · split <;> exact .of_same rfl rfl
  | approve x tenantId w approval =>
      rw [System.step]
      split
      · exact enqueue_moves
      · exact .of_same rfl rfl
  | operate x tenantId w signalType fields =>
      rw [System.step]
      split
      · exact .of_same rfl rfl
      · exact enqueue_moves
  | claim worker limit now ttl => exact claim_moves worker limit now ttl
  | pump worker tenantId w =>
      rw [System.step]
      split
      · rename_i inst hget
        exact .setFlight rfl rfl fun f hf => Option.some.inj hf ▸ Or.inr (stores_of_get hget)
      · exact .of_same rfl rfl
  | get worker w =>
      refine onFlight_moves (S := S) fun key f hf => ?_
      rw [System.getRow]
      split
      · split
        · rename_i inst hget
          exact .setFlight rfl rfl fun g hg => Option.some.inj hg ▸ Or.inr (stores_of_get hget)
        · exact .setFlight rfl rfl fun g hg => Option.some.inj hg ▸ Or.inl hf
      · exact .of_same rfl rfl
  | take worker w =>
      refine onFlight_moves (S := S) fun key f hf => ?_
      rw [System.takeSignals]
      split
      · split
        · exact .setFlight rfl rfl fun g hg => Option.some.inj hg ▸ Or.inl hf
        · exact .of_same rfl rfl
      · exact .of_same rfl rfl
  | run worker w x =>
      rw [System.step]
      refine onFlight_moves (S := S) fun key f hf => ?_
      rw [System.runFlight]
      split
      · split
        · exact .of_same rfl rfl
        · exact runAdvance_moves hf
      · exact runAdvance_moves hf
      · exact .of_same rfl rfl
  | write worker w utcNow =>
      rw [System.step]
      refine onFlight_moves (S := S) fun key f hf => ?_
      rw [System.writeFlight]
      split
      · rw [System.writeOutcome]
        split
        · exact .setFlight rfl rfl fun g hg => Option.some.inj hg ▸ Or.inl hf
        split
        · exact settled_moves hf
        · exact settled_moves hf
        · exact .setFlight rfl rfl fun g hg => Option.some.inj hg ▸ Or.inl hf
      · exact settled_moves hf
      · exact .setFlight rfl rfl fun g hg => by cases hg
      · exact .of_same rfl rfl
  | look worker w cfg nowIso nextRunAt =>
      exact onFlight_moves (S := S) fun key f hf => .setFlight rfl rfl fun g hg => lookAt_held hf hg
  | drop worker w => exact .setFlight rfl rfl fun g hg => by cases hg
  | sweep now => exact .of_same rfl rfl

/-- What a worker holds, the store has held. -/
theorem stored_before (hfresh : S.Fresh) {actions : List Action}
    (h : (run System.step S actions).Holds inst) :
    ∃ before, before <+: actions ∧ (run System.step S before).Stores inst := by
  induction actions using List.reverseRecOn generalizing inst with
  | nil =>
      obtain ⟨key, f, hf, _⟩ := h
      rw [run_nil, hfresh.flights key] at hf
      exact nomatch hf
  | append_singleton past action ih =>
      rw [run_append, run_cons, run_nil] at h
      rcases (step_moves action).held inst h with hheld | hstored | hstored
      · obtain ⟨before, hbefore, hstored⟩ := ih hheld
        exact ⟨before, hbefore.trans (List.prefix_append _ _), hstored⟩
      · exact ⟨past, List.prefix_append _ _, hstored⟩
      · refine ⟨past ++ [action], List.prefix_rfl, ?_⟩
        rw [run_append, run_cons, run_nil]
        exact hstored

/-! ## The human behind an execution -/

/-- What stands behind a command executed on this instance: an APPROVE that is in the
history, by a human, of the command frozen there — and only the fields that name the
approver differ. -/
def HumanBehind (S : System σ) (e : Executed) : Prop :=
  ∃ signal ∈ S.enqueued, ∃ approval frozen,
    signal.workflowId = e.inst.workflowId ∧ signal.tenantId = e.inst.tenantId ∧
    signal.approvalReceipt = some approval ∧ approval.decision = .approve ∧
    isAgentId approval.approverId = false ∧ approval.tenantId = e.inst.tenantId ∧
    e.execution.command.tenantId = e.inst.tenantId ∧
    e.inst.takesSignals = true ∧ e.inst.context.wait.bind (·.frozenCommand) = some frozen ∧
    approval.commandIdempotencyKey = frozen.idempotencyKey ∧
    e.execution.command.idempotencyKey = frozen.idempotencyKey ∧
    e.execution.command.payload = frozen.payload.overlay approval.approverId ∧
    e.execution.command.payload.withoutApprover = frozen.payload.withoutApprover

omit [WorkflowStore σ] [LawfulWorkflowStore σ] [Digest] [Json.CharTable] in
theorem Backed.humanBehind {e : Executed} (h : S.Backed e) : S.HumanBehind e := by
  obtain ⟨hgate, y, hy, approval, frozen, hid, htenant, hreceipt, hfrozen, hfrozenTenant, happroves,
    he⟩ := h
  refine ⟨y, hy, approval, frozen, hid, htenant, hreceipt, happroves.decision, happroves.notAgent,
    happroves.tenant.trans hfrozenTenant, ?_, hgate, hfrozen, happroves.key, ?_, ?_, ?_⟩
  · rw [he]
    exact hfrozenTenant
  · rw [he]
    rfl
  · rw [he]
    rfl
  · rw [he]
    exact Payload.withoutApprover_overlay approval.approverId frozen.payload

/-- Every step of every run executes only what has a human behind it, on an instance the
store has held. -/
def HumanAuthority (S : System σ) : Prop :=
  ∀ (past : List Action) (action : Action), ∃ new,
    (run System.step S (past ++ [action])).executed = (run System.step S past).executed ++ new ∧
    ∀ e ∈ new, requiresHumanApproval e.execution.command →
      (run System.step S past).HumanBehind e ∧
      ∃ before, before <+: past ∧ (run System.step S before).Stores e.inst

theorem humanAuthority_of_fresh (hfresh : S.Fresh) : S.HumanAuthority := by
  intro past action
  have hsound : (run System.step S (past ++ [action])).Sound := hfresh.sound.run _
  rw [run_append, run_cons, run_nil] at hsound ⊢
  obtain ⟨new, hnew, henqueued, hheld⟩ := (step_moves (S := run System.step S past) action).executed
  refine ⟨new, hnew, fun e he hneeds => ⟨?_, stored_before hfresh (hheld e he)⟩⟩
  have hbacked := hsound.executed e (hnew ▸ List.mem_append_right _ he) hneeds
  have hbefore : (run System.step S past).Backed e := by
    refine hbacked.mono ?_
    rw [henqueued (List.ne_nil_of_mem he)]
    exact List.Subset.refl _
  exact hbefore.humanBehind

/-- On either store, whatever the actors do and in whatever order. -/
theorem human_authority :
    (∀ S : System InMemoryWorkflowStore, S.Fresh → S.HumanAuthority) ∧
      ∀ S : System SqlWorkflowStore, S.Fresh → S.HumanAuthority :=
  ⟨fun _ h => humanAuthority_of_fresh h, fun _ h => humanAuthority_of_fresh h⟩

end System

section Sample

attribute [local instance] Digest.plain Json.CharTable.all

namespace System

/-- Some seconds after noon, in the call of this number. -/
def Sample.at (call seconds : Nat) : Surroundings where
  clock := noonNextDay.addSeconds seconds
  utc := noonNextDay.addSeconds seconds
  host := .numbered call
  execution i := { host := .numbered (call + i) }

/-- An approved expense in the ledger, and no workflow. -/
def Sample.system : System SqlWorkflowStore where
  store := {}
  ledgers := Dict.empty.set "org" (run Ledger.step (.new Ledger.Sample.organization)
    Ledger.Sample.approvedRun)

theorem Sample.system_fresh : Sample.system.Fresh :=
  ⟨fun _ => rfl, fun _ => rfl, fun _ => rfl, rfl, rfl⟩

theorem Sample.approver_named : "human:finance" ≠ "" := by decide

def Sample.approval : ApprovalReceipt where
  approvalId := "apr"
  tenantId := "org"
  proposalId := "prop"
  commandIdempotencyKey := "reverse:expense:duplicate"
  decision := .approve
  approverId := "human:finance"
  named := Sample.approver_named

/-- One advance of the correction, up to its write. -/
def Sample.advance (call seconds : Nat) : List Action :=
  [.pump "w" "org" "wf_corr_20_0", .get "w" "wf_corr_20_0", .take "w" "wf_corr_20_0",
    .run "w" "wf_corr_20_0" (Sample.at call seconds),
    .write "w" "wf_corr_20_0" "2026-01-02T12:00:00+00:00"]

/-- A reversal is proposed, and approved some seconds later. -/
def Sample.approvedReversal (seconds : Nat) : List Action :=
  .start (Sample.at 20 0)
      (.correction { tenantId := "org", expenseId := "expense", reason := "duplicate" }) ::
    Sample.advance 21 0 ++
    [.approve (Sample.at 22 seconds) "org" "wf_corr_20_0" Sample.approval]

end System

open ImpactRelay.System in
/-- The reversal is executed. -/
theorem reversal_human_authority : Sample.system.HumanAuthority ∧
    (run System.step Sample.system (Sample.approvedReversal 60 ++ Sample.advance 23 60)).executed.map
      (fun e => decide (requiresHumanApproval e.execution.command)) = [true] :=
  ⟨human_authority.2 Sample.system Sample.system_fresh, by decide +kernel⟩

end Sample

end ImpactRelay
