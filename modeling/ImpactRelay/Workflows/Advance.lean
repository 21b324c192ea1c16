/-
# `Workflows.Advance` — what an advance may write, and what it may execute

Two facts about every advance, whatever it starts from and however it ends.

  * The instance it hands to the store is the same workflow's, and the command
    frozen in it is of the workflow's tenant and filed under its own key
    (`advanceOnce_follows`).
  * A command that needs a human is executed only where the gate let it through
    (`advanceOnce_executed`).

Both follow the branches of `advance_once`; the second is an invariant of the list
of executions.
-/
import ImpactRelay.Workflows.Runtime
import ImpactRelay.Workflows.Store

namespace ImpactRelay

open Raise WorkflowRuntime

/-! ## What is written -/

/-- The command a wait has frozen is of this tenant, and the wait goes by its key. -/
def Wait.FrozenFor (tenantId : Id) (wait : Wait) : Prop :=
  ∀ frozen, wait.frozenCommand = some frozen →
    frozen.tenantId = tenantId ∧ wait.commandIdempotencyKey = some frozen.idempotencyKey

theorem frozenFor_waitFor (frozen : FrozenProposedCommand) :
    (waitFor frozen).FrozenFor frozen.tenantId := by
  intro frozen' h
  obtain rfl := Option.some.inj h
  exact ⟨rfl, rfl⟩

namespace WorkflowInstance

def WellFrozen (inst : WorkflowInstance) : Prop :=
  ∀ wait, inst.context.wait = some wait → wait.FrozenFor inst.tenantId

/-- What a step of the workflow may make of the instance. -/
structure Follows (inst new : WorkflowInstance) : Prop where
  same : new.SameWorkflow inst
  wellFrozen : inst.WellFrozen → new.WellFrozen

variable {inst mid new : WorkflowInstance}

theorem Follows.trans (h : inst.Follows mid) (h' : mid.Follows new) : inst.Follows new :=
  ⟨h'.same.trans h.same, fun hinst => h'.wellFrozen (h.wellFrozen hinst)⟩

theorem Follows.of_wait (hsame : new.SameWorkflow inst)
    (hwait : new.context.wait = inst.context.wait) : inst.Follows new := by
  refine ⟨hsame, fun hinst wait h => ?_⟩
  rw [hsame.tenantId]
  exact hinst wait (hwait ▸ h)

theorem Follows.of_none (hsame : new.SameWorkflow inst) (hwait : new.context.wait = none) :
    inst.Follows new := by
  refine ⟨hsame, fun _ wait h => ?_⟩
  rw [hwait] at h
  exact nomatch h

theorem Follows.of_frozen {wait : Wait} (hsame : new.SameWorkflow inst)
    (hwait : new.context.wait = some wait) (hfrozen : wait.FrozenFor inst.tenantId) :
    inst.Follows new := by
  refine ⟨hsame, fun _ wait' h => ?_⟩
  rw [hwait] at h
  obtain rfl := Option.some.inj h
  exact hsame.tenantId.symm ▸ hfrozen

theorem follows_touch (inst : WorkflowInstance) (now : String) : inst.Follows (inst.touch now) :=
  .of_wait ⟨rfl, rfl, rfl, rfl, rfl, rfl⟩ rfl

end WorkflowInstance

namespace Outcome

/-- The instance that is written. -/
def written (o : Outcome) : Option WorkflowInstance :=
  match o.write with
  | .commit bundle => some bundle.instance_
  | .update inst => some inst
  | .nothing => none

def Follows (inst : WorkflowInstance) (o : Outcome) : Prop :=
  ∀ new, o.written = some new → inst.Follows new

theorem Follows.of_written {inst written : WorkflowInstance} {o : Outcome}
    (hwritten : o.written = some written) (h : inst.Follows written) : o.Follows inst := by
  intro new hnew
  rw [hwritten] at hnew
  exact Option.some.inj hnew ▸ h

end Outcome

open WorkflowInstance

section Writes

variable {x : Surroundings} {inst new : WorkflowInstance} {signals : List WorkflowSignal}

theorem commit_follows {events : List WorkflowEventWrite} {receipts : List ExecutionReceipt}
    {consume : List (Id × SignalConsumeResult)} (h : inst.Follows new) :
    (commit x new events receipts consume).Follows inst :=
  .of_written rfl (h.trans (follows_touch new x.clockIso))

theorem processSignal_follows {signal : WorkflowSignal} {approval : ApprovalReceipt}
    {frozen : FrozenProposedCommand} {o : Outcome}
    (h : processSignal x inst signal approval frozen = .settle o) : o.Follows inst := by
  rw [processSignal] at h
  split at h
  · obtain rfl := GateStep.settle.inj h
    exact commit_follows (.of_wait ⟨rfl, rfl, rfl, rfl, rfl, rfl⟩ rfl)
  split at h
  · obtain rfl := GateStep.settle.inj h
    exact commit_follows (.of_wait ⟨rfl, rfl, rfl, rfl, rfl, rfl⟩ rfl)
  · obtain rfl := GateStep.settle.inj h
    exact commit_follows (.of_wait ⟨rfl, rfl, rfl, rfl, rfl, rfl⟩ rfl)
  · obtain rfl := GateStep.settle.inj h
    exact commit_follows (.of_wait ⟨rfl, rfl, rfl, rfl, rfl, rfl⟩ rfl)
  · exact nomatch h

theorem gateStep_follows {o : Outcome} (h : gateStep x inst signals = .settle o) :
    o.Follows inst := by
  rw [gateStep] at h
  split at h
  · split at h
    · obtain rfl := GateStep.settle.inj h
      exact commit_follows (.of_wait ⟨rfl, rfl, rfl, rfl, rfl, rfl⟩ rfl)
    · obtain rfl := GateStep.settle.inj h
      exact commit_follows (.of_wait ⟨rfl, rfl, rfl, rfl, rfl, rfl⟩ rfl)
  split at h
  · obtain rfl := GateStep.settle.inj h
    exact commit_follows (.of_wait ⟨rfl, rfl, rfl, rfl, rfl, rfl⟩ rfl)
  split at h
  · obtain rfl := GateStep.settle.inj h
    exact .of_written rfl (.of_wait ⟨rfl, rfl, rfl, rfl, rfl, rfl⟩ rfl)
  · exact processSignal_follows h

theorem succeeded_follows (payload : Payload) : inst.Follows (succeeded x inst payload) := by
  cases payload with
  | publishUseOfFundsReceipt p =>
      rw [succeeded]
      split <;> exact .of_wait ⟨rfl, rfl, rfl, rfl, rfl, rfl⟩ rfl
  | _ => exact .of_wait ⟨rfl, rfl, rfl, rfl, rfl, rfl⟩ rfl

theorem afterFailure_follows {signal : WorkflowSignal} {exc : PyExc} {nextRunAt : Nat → String}
    {error : Option String} : (afterFailure x inst signal exc nextRunAt error).Follows inst := by
  rw [afterFailure]
  split
  · exact commit_follows (.of_wait ⟨rfl, rfl, rfl, rfl, rfl, rfl⟩ rfl)
  · exact commit_follows (.of_wait ⟨rfl, rfl, rfl, rfl, rfl, rfl⟩ rfl)

theorem afterSuccess_follows {signal : WorkflowSignal} {command : AgentCommand}
    {receipt : ExecutionReceipt} : (afterSuccess x inst signal command receipt).Follows inst :=
  commit_follows ((succeeded_follows command.payload).trans
    (.of_none ⟨rfl, rfl, rfl, rfl, rfl, rfl⟩ rfl))

variable [Digest] [Json.CharTable]

theorem advanceHumanGate_follows :
    Gives (Outcome.Follows inst) (advanceHumanGate x inst signals) := by
  rw [advanceHumanGate]
  split
  · rename_i outcome hstep
    exact .pure (gateStep_follows hstep)
  · rename_i signal approval frozen command hstep
    refine Gives.bind fun _ => Gives.bind fun result => ?_
    split
    · exact .pure afterFailure_follows
    · split
      · exact .pure afterFailure_follows
      · exact .pure afterSuccess_follows

/-! ### Automatic steps -/

omit [Digest] [Json.CharTable] in
theorem stepReview_wait {packet : FinanceReviewPacket} {current : WorkflowState} {step : StepResult}
    (h : stepReview x packet current = .ok step) :
    step.wait = some (waitFor (frozenApproval x packet.tenantId packet.expenseId packet.packetId)) := by
  obtain ⟨_, _, h⟩ := except_bind_eq_ok.mp h
  exact Except.ok.inj h ▸ rfl

omit [Digest] [Json.CharTable] in
theorem stepComposeSend_wait {tenantId : Id} {preview : EmailPreview} {current : WorkflowState}
    {step : StepResult} (h : stepComposeSend x tenantId preview current = .ok step) :
    step.wait = some (waitFor (frozenSend x tenantId preview)) := by
  obtain ⟨_, _, h⟩ := except_bind_eq_ok.mp h
  exact Except.ok.inj h ▸ rfl

omit [Digest] [Json.CharTable] in
theorem correctionCommand_tenant {tenantId kind expenseId reason : String}
    {replacement : Option ReplacementRow} {splits : List SplitItem} {frozen : FrozenProposedCommand}
    (h : correctionCommand x tenantId kind expenseId reason replacement splits = .inl frozen) :
    frozen.tenantId = tenantId := by
  unfold correctionCommand at h
  split at h
  · exact Sum.inl.inj h ▸ rfl
  split at h
  · split at h
    · exact Sum.inl.inj h ▸ rfl
    · exact nomatch h
  · exact nomatch h

omit [Digest] [Json.CharTable] in
theorem correctionCommand_wait {tenantId kind expenseId reason : String}
    {replacement : Option ReplacementRow} {splits : List SplitItem} {step : StepResult}
    (h : correctionCommand x tenantId kind expenseId reason replacement splits = .inr step) :
    step.wait = none := by
  unfold correctionCommand at h
  split at h
  · exact nomatch h
  split at h
  · split at h
    · exact nomatch h
    · exact Sum.inr.inj h ▸ rfl
  · exact Sum.inr.inj h ▸ rfl

omit [Digest] [Json.CharTable] in
theorem stepProposeCorrection_wait {tenantId kind expenseId reason : String}
    {replacement : Option ReplacementRow} {splits : List SplitItem} {current : WorkflowState}
    {step : StepResult} (h : stepProposeCorrection x tenantId kind expenseId reason replacement splits
      current = .ok step) :
    step.wait = none ∨ ∃ frozen, step.wait = some (waitFor frozen) ∧ frozen.tenantId = tenantId := by
  obtain ⟨_, _, h⟩ := except_bind_eq_ok.mp h
  split at h
  · rename_i result hcommand
    obtain rfl := Except.ok.inj h
    exact Or.inl (correctionCommand_wait hcommand)
  · rename_i frozen hcommand
    obtain rfl := Except.ok.inj h
    exact Or.inr ⟨frozen, rfl, correctionCommand_tenant hcommand⟩

theorem advanceReceived_follows : Gives (Outcome.Follows inst) (advanceReceived x inst) := by
  refine Gives.okOrRaise_bind fun step _ => Gives.bind fun receipts => Gives.bind fun a => ?_
  dsimp only
  split
  · exact .pure (commit_follows (.of_wait ⟨rfl, rfl, rfl, rfl, rfl, rfl⟩ rfl))
  · exact .pure (commit_follows (.of_wait ⟨rfl, rfl, rfl, rfl, rfl, rfl⟩ rfl))

theorem advanceExpense_follows {ledger : Ledger} {expenseId : Id} :
    Gives (Outcome.Follows inst) (advanceExpense x inst ledger expenseId) := by
  refine Gives.okOrRaise_bind fun facts _ => Gives.okOrRaise_bind fun evidence _ => ?_
  dsimp only
  split
  · exact .pure (commit_follows (.of_wait ⟨rfl, rfl, rfl, rfl, rfl, rfl⟩ rfl))
  refine Gives.okOrRaise_bind fun classified _ => Gives.bind fun receipts => ?_
  split
  · exact .pure (commit_follows (.of_wait ⟨rfl, rfl, rfl, rfl, rfl, rfl⟩ rfl))
  refine Gives.okOrRaise_bind fun review hreview => .pure (commit_follows ?_)
  rw [stepReview_wait hreview]
  exact .of_frozen ⟨rfl, rfl, rfl, rfl, rfl, rfl⟩ rfl (frozenFor_waitFor _)

theorem advanceNormalized_follows : Gives (Outcome.Follows inst) (advanceNormalized x inst) := by
  refine Gives.bind fun a => ?_
  split
  · exact .pure (commit_follows (.of_wait ⟨rfl, rfl, rfl, rfl, rfl, rfl⟩ rfl))
  · exact advanceExpense_follows

omit [Digest] [Json.CharTable] in
theorem advanceAfterLedger_follows {o : Outcome} (h : advanceAfterLedger x inst = .ok o) :
    o.Follows inst := by
  rw [advanceAfterLedger] at h
  split at h
  · obtain rfl := Except.ok.inj h
    exact commit_follows (.of_wait ⟨rfl, rfl, rfl, rfl, rfl, rfl⟩ rfl)
  · obtain ⟨payload, _, h⟩ := except_bind_eq_ok.mp h
    obtain rfl := Except.ok.inj h
    exact commit_follows (.of_frozen ⟨rfl, rfl, rfl, rfl, rfl, rfl⟩ rfl
      (frozenFor_waitFor (frozenPublish x inst payload)))

omit [Json.CharTable] in
theorem advancePublished_follows : Gives (Outcome.Follows inst) (advancePublished x inst) := by
  refine Gives.bind fun a => ?_
  split
  · exact .pure (commit_follows (.of_wait ⟨rfl, rfl, rfl, rfl, rfl, rfl⟩ rfl))
  split
  · exact .pure (commit_follows (.of_wait ⟨rfl, rfl, rfl, rfl, rfl, rfl⟩ rfl))
  · rename_i r hreceipt
    refine Gives.okOrRaise_bind fun _ _ => Gives.bind fun _ =>
      Gives.okOrRaise_bind fun send hsend => .pure (commit_follows ?_)
    rw [stepComposeSend_wait hsend]
    exact .of_frozen ⟨rfl, rfl, rfl, rfl, rfl, rfl⟩ rfl
      (frozenFor_waitFor (frozenSend x inst.tenantId _))

/-! ### Corrections and digests -/

omit [Digest] [Json.CharTable] in
theorem proposeCorrection_follows {ledger : Ledger} {o : Outcome}
    (h : proposeCorrection x inst ledger = .ok o) : o.Follows inst := by
  dsimp only [proposeCorrection] at h
  split at h
  · obtain rfl := Except.ok.inj h
    exact commit_follows (.of_wait ⟨rfl, rfl, rfl, rfl, rfl, rfl⟩ rfl)
  split at h
  · obtain rfl := Except.ok.inj h
    exact commit_follows (.of_wait ⟨rfl, rfl, rfl, rfl, rfl, rfl⟩ rfl)
  split at h
  · obtain rfl := Except.ok.inj h
    exact commit_follows (.of_wait ⟨rfl, rfl, rfl, rfl, rfl, rfl⟩ rfl)
  obtain ⟨step, hstep, h⟩ := except_bind_eq_ok.mp h
  obtain rfl := Except.ok.inj h
  rcases stepProposeCorrection_wait hstep with hwait | ⟨frozen, hwait, htenant⟩
  · rw [hwait]
    exact commit_follows (.of_wait ⟨rfl, rfl, rfl, rfl, rfl, rfl⟩ rfl)
  · rw [hwait]
    exact commit_follows (.of_frozen ⟨rfl, rfl, rfl, rfl, rfl, rfl⟩ rfl
      (htenant ▸ frozenFor_waitFor frozen))

theorem advanceCorrection_follows :
    Gives (Outcome.Follows inst) (advanceCorrection x inst signals) := by
  refine Gives.bind fun a => ?_
  split
  · exact .pure fun _ h => nomatch h
  split
  · exact advanceHumanGate_follows
  · exact advanceHumanGate_follows
  · exact advanceHumanGate_follows
  · exact .okOrRaise fun o h => proposeCorrection_follows h
  · exact .okOrRaise_bind fun step _ =>
      .pure (commit_follows (.of_wait ⟨rfl, rfl, rfl, rfl, rfl, rfl⟩ rfl))
  · exact .pure (commit_follows (.of_wait ⟨rfl, rfl, rfl, rfl, rfl, rfl⟩ rfl))
  · exact .pure (commit_follows (.of_wait ⟨rfl, rfl, rfl, rfl, rfl, rfl⟩ rfl))

omit [Digest] [Json.CharTable] in
theorem digestWait_frozenFor {updatedAt : Option String} :
    (digestWait x inst updatedAt).FrozenFor inst.tenantId := by
  intro frozen h
  obtain rfl := Option.some.inj h
  exact ⟨rfl, rfl⟩

omit [Digest] [Json.CharTable] in
theorem assembleDigest_follows {o : Outcome} (h : assembleDigest x inst = .ok o) :
    o.Follows inst := by
  rw [assembleDigest] at h
  split at h
  · split at h
    · obtain rfl := Except.ok.inj h
      exact commit_follows (.of_wait ⟨rfl, rfl, rfl, rfl, rfl, rfl⟩ rfl)
    · exact nomatch h
  split at h
  · obtain rfl := Except.ok.inj h
    exact commit_follows (.of_frozen ⟨rfl, rfl, rfl, rfl, rfl, rfl⟩ rfl digestWait_frozenFor)
  · obtain rfl := Except.ok.inj h
    exact commit_follows (.of_wait ⟨rfl, rfl, rfl, rfl, rfl, rfl⟩ rfl)

omit [Digest] [Json.CharTable] in
theorem advanceDigestApproval_follows : (advanceDigestApproval x inst signals).Follows inst := by
  rw [advanceDigestApproval]
  split
  · exact commit_follows (.of_wait ⟨rfl, rfl, rfl, rfl, rfl, rfl⟩ rfl)
  split
  · exact commit_follows (.of_wait ⟨rfl, rfl, rfl, rfl, rfl, rfl⟩ rfl)
  split
  · exact commit_follows (.of_none ⟨rfl, rfl, rfl, rfl, rfl, rfl⟩ rfl)
  · exact commit_follows (.of_wait ⟨rfl, rfl, rfl, rfl, rfl, rfl⟩ rfl)
  · exact commit_follows (.of_wait ⟨rfl, rfl, rfl, rfl, rfl, rfl⟩ rfl)
  · exact commit_follows (.of_none ⟨rfl, rfl, rfl, rfl, rfl, rfl⟩ rfl)

omit [Digest] [Json.CharTable] in
theorem advanceDigest_follows {o : Outcome} (h : advanceDigest x inst signals = .ok o) :
    o.Follows inst := by
  rw [advanceDigest] at h
  split at h
  · obtain rfl := Except.ok.inj h
    exact fun _ h => nomatch h
  split at h
  · obtain rfl := Except.ok.inj h
    exact advanceDigestApproval_follows
  · exact assembleDigest_follows h
  · obtain ⟨_, _, h⟩ := except_bind_eq_ok.mp h
    obtain rfl := Except.ok.inj h
    exact commit_follows (.of_wait ⟨rfl, rfl, rfl, rfl, rfl, rfl⟩ rfl)
  · obtain rfl := Except.ok.inj h
    exact commit_follows (.of_wait ⟨rfl, rfl, rfl, rfl, rfl, rfl⟩ rfl)

/-- What an advance writes is the same workflow, with a command of its tenant frozen in it. -/
theorem advanceOnce_follows : Gives (Outcome.Follows inst) (advanceOnce x inst signals) := by
  rw [advanceOnce]
  split
  · exact advanceCorrection_follows
  · exact .okOrRaise fun o h => advanceDigest_follows h
  · split
    · exact advanceHumanGate_follows
    · exact advanceHumanGate_follows
    · exact advanceHumanGate_follows
    · exact advanceReceived_follows
    · exact advanceNormalized_follows
    · exact advanceNormalized_follows
    · exact advanceNormalized_follows
    · exact .okOrRaise fun o h => advanceAfterLedger_follows h
    · exact advancePublished_follows
    all_goals
      split
      · exact .pure fun _ h => nomatch h
      · exact .pure (.of_written rfl (.of_wait ⟨rfl, rfl, rfl, rfl, rfl, rfl⟩ rfl))

end Writes

/-! ## At a gate -/

section Gate

variable {x : Surroundings} {inst : WorkflowInstance} {signals : List WorkflowSignal}
  {signal : WorkflowSignal} {approval : ApprovalReceipt} {frozen : FrozenProposedCommand}

/-- The advance of a workflow that waits at a gate with a frozen command, with the first
matching approval among the signals it has taken. -/
structure Decides (inst : WorkflowInstance) (signals : List WorkflowSignal) (signal : WorkflowSignal)
    (approval : ApprovalReceipt) (frozen : FrozenProposedCommand) : Prop where
  kind : inst.workflowType ≠ .scheduledDigest
  gate : inst.takesSignals = true
  waits : inst.context.wait.bind (·.frozenCommand) = some frozen
  first : (matching (inst.context.wait.bind Wait.key) signals).head? = some (signal, approval)

theorem Decides.gateStep (h : Decides inst signals signal approval frozen) :
    gateStep x inst signals = processSignal x inst signal approval frozen := by
  have hwait : ¬ (inst.context.waitExpired ∧ inst.context.wait = none) := by
    rintro ⟨-, hnone⟩
    have hwaits := h.waits
    rw [hnone] at hwaits
    exact nomatch hwaits
  have hfirst := h.first
  rw [WorkflowRuntime.gateStep, if_neg hwait]
  split
  · rename_i hmatching
    rw [hmatching] at hfirst
    exact nomatch hfirst
  · rename_i signal' approval' rest hmatching
    rw [hmatching] at hfirst
    obtain ⟨rfl, rfl⟩ := Prod.mk.inj (Option.some.inj hfirst)
    rw [h.waits]

variable [Digest] [Json.CharTable]

/-- At a gate an expense and a correction advance alike. -/
theorem advanceOnce_gate (hkind : inst.workflowType ≠ .scheduledDigest)
    (hgate : inst.takesSignals = true) (a : Advance) :
    (advanceOnce x inst signals).run a = (advanceHumanGate x inst signals).run a := by
  rw [advanceOnce]
  rw [takesSignals] at hgate
  split
  · rename_i htype
    rw [htype] at hgate
    obtain ⟨hlive, hstate⟩ := Bool.and_eq_true_iff.mp hgate
    have hlive : inst.runStatus ∉ terminalRunStatuses := of_decide_eq_true hlive
    have hstate : inst.workflowState ∈ humanGateStates := of_decide_eq_true hstate
    change (if inst.runStatus ∈ terminalRunStatuses then _ else _ : AdvanceM Outcome).run a = _
    rw [if_neg hlive]
    cases hs : inst.workflowState <;> rw [hs] at hstate <;>
      first | rfl | exact absurd hstate (by decide)
  · rename_i htype
    exact absurd htype hkind
  · rename_i htype
    rw [htype] at hgate
    have hstate : inst.workflowState ∈ humanGateStates := of_decide_eq_true hgate
    cases hs : inst.workflowState <;> rw [hs] at hstate <;>
      first | rfl | exact absurd hstate (by decide)

/-- The advance at a gate whose first matching approval is refused. -/
theorem Decides.run_refused (h : Decides inst signals signal approval frozen)
    (hrefused : ¬ Approves frozen approval) (a : Advance) : ∃ exc,
    (advanceOnce x inst signals).run a = .ok
      (commit x { inst with lastError := some exc, runStatus := .waitingSignal }
        [⟨.error, .obj [("error", .str exc)]⟩] [] [(signal.signalId, .rejectedInvalid)]) a := by
  obtain ⟨exc, hauth⟩ := authorize_refuses hrefused
  refine ⟨exc.msg, ?_⟩
  rw [advanceOnce_gate h.kind h.gate, advanceHumanGate, h.gateStep, processSignal, hauth]
  rfl

end Gate

/-! ## What is executed -/

theorem mem_matching {key : Option String} {signals : List WorkflowSignal} {signal : WorkflowSignal}
    {approval : ApprovalReceipt} (h : (signal, approval) ∈ matching key signals) :
    signal ∈ signals ∧ signal.approvalReceipt = some approval := by
  obtain ⟨s, hs, hsome⟩ := List.mem_filterMap.mp h
  obtain ⟨ar, har, hsome⟩ := Option.bind_eq_some_iff.mp hsome
  split at hsome
  · exact nomatch hsome
  · obtain ⟨rfl, rfl⟩ := Prod.mk.inj (Option.some.inj hsome)
    exact ⟨hs, har⟩

/-- The gate lets an execution through. -/
structure Opens (inst : WorkflowInstance) (signals : List WorkflowSignal) (signal : WorkflowSignal)
    (approval : ApprovalReceipt) (frozen : FrozenProposedCommand) : Prop where
  taken : signal ∈ signals
  receipt : signal.approvalReceipt = some approval
  waits : inst.context.wait.bind (·.frozenCommand) = some frozen
  approves : Approves frozen approval

section Executions

variable {x : Surroundings} {inst : WorkflowInstance} {signals : List WorkflowSignal}

theorem gateStep_execute {signal : WorkflowSignal} {approval : ApprovalReceipt}
    {frozen : FrozenProposedCommand} {command : AgentCommand}
    (h : gateStep x inst signals = .execute signal approval frozen command) :
    Opens inst signals signal approval frozen ∧ command = approvedCommand frozen approval := by
  rw [gateStep] at h
  split at h
  · split at h <;> exact nomatch h
  split at h
  · exact nomatch h
  rename_i signal' approval' rest hmatching
  have hmem : (signal', approval') ∈ matching (inst.context.wait.bind Wait.key) signals :=
    hmatching ▸ List.mem_cons_self
  split at h
  · exact nomatch h
  rename_i frozen' hfrozen
  rw [processSignal] at h
  split at h
  · exact nomatch h
  rename_i command' hauth
  split at h
  · exact nomatch h
  · exact nomatch h
  · exact nomatch h
  obtain ⟨rfl, rfl, rfl, rfl⟩ := GateStep.execute.inj h
  obtain ⟨happroves, hcommand⟩ := authorize_eq_ok.mp hauth
  exact ⟨⟨(mem_matching hmem).1, (mem_matching hmem).2, hfrozen, happroves⟩, hcommand⟩

/-- An execution an advance may ask for: no human is needed, or the gate was opened for it. -/
def Licensed (inst : WorkflowInstance) (signals : List WorkflowSignal) (e : Execution) : Prop :=
  requiresHumanApproval e.command → ∃ signal approval frozen,
    Opens inst signals signal approval frozen ∧ e = ⟨approvedCommand frozen approval, some approval⟩

/-- … and so for all of them. -/
def Advance.Licensed (inst : WorkflowInstance) (signals : List WorkflowSignal) (a : Advance) : Prop :=
  ∀ e ∈ a.executed, ImpactRelay.Licensed inst signals e

variable [Digest] [Json.CharTable]

theorem execute_licensed {o : Outside} {command : AgentCommand} {approval : Option ApprovalReceipt}
    {agentName : String} {proposal : Option AgentProposal}
    (h : Licensed inst signals ⟨command, approval⟩) :
    Preserves (Advance.Licensed inst signals) (execute o command approval agentName proposal) := by
  refine Preserves.bind (.modify fun a ha e he => ?_) fun _ => .within fun _ _ ha => ha
  rcases List.mem_append.mp he with hold | hnew
  · exact ha e hold
  · exact List.mem_singleton.mp hnew ▸ h

theorem executeList_licensed {commands : List ExecutableCommand}
    (h : ∀ c ∈ commands, ¬ requiresHumanApproval c.command) (i : Nat) :
    Preserves (Advance.Licensed inst signals) (executeList x i commands) := by
  induction commands generalizing i with
  | nil => exact .pure []
  | cons c rest ih =>
      obtain ⟨hc, hrest⟩ := List.forall_mem_cons.mp h
      refine .bind (execute_licensed fun hneeds => absurd hneeds hc) fun receipt => ?_
      refine .bind (.modify fun a ha => ha) fun _ => .bind (ih hrest (i + 1)) fun _ => .pure _

theorem execute_executed {o : Outside} {command : AgentCommand} {approval : Option ApprovalReceipt}
    {agentName : String} {proposal : Option AgentProposal} (a : Advance) :
    (after (execute o command approval agentName proposal) a).executed =
      a.executed ++ [⟨command, approval⟩] := by
  rw [execute, after_modify_bind]
  have hkeeps : Preserves (fun s : Advance => s.executed = a.executed ++ [⟨command, approval⟩])
      (within (·.executor) (fun e a => { a with executor := e })
        (LedgerCommandExecutor.execute o command approval (some agentName) proposal)) :=
    .within fun _ _ h => h
  exact hkeeps { a with executed := a.executed ++ [⟨command, approval⟩] } rfl

/-- What the gate opens for is executed, once, whatever becomes of it. -/
theorem executeGate_executed {signal : WorkflowSignal} {approval : ApprovalReceipt}
    {frozen : FrozenProposedCommand} {command : AgentCommand} (a : Advance) :
    (after (executeGate x inst signal approval frozen command) a).executed =
      a.executed ++ [⟨command, some approval⟩] := by
  have hregister : ∃ a', Returns (registerContextPreview inst command) a () a' ∧
      a'.executed = a.executed := by
    rw [registerContextPreview]
    split
    · exact ⟨_, returns_modify.mpr rfl, rfl⟩
    · exact ⟨a, returns_pure.mpr ⟨rfl, rfl⟩, rfl⟩
  obtain ⟨a', hreturns, hexecuted⟩ := hregister
  rw [executeGate, hreturns.after_bind]
  rcases returns_or_raises (attempt (execute (x.execution 0) command (some approval)
    frozen.agentName none)) a' with ⟨result, a'', h⟩ | ⟨exc, a'', h⟩
  · have hafter : a''.executed = a.executed ++ [⟨command, some approval⟩] := by
      rw [← h.after, after_attempt, execute_executed, hexecuted]
    rw [h.after_bind]
    split
    · exact hafter
    · split <;> exact hafter
  · exact absurd h not_raises_attempt

omit [Digest] [Json.CharTable] in
theorem registerPreview_licensed (preview : EmailPreview) :
    Preserves (Advance.Licensed inst signals) (registerPreview preview) :=
  .modify fun _ ha => ha

theorem advanceHumanGate_licensed :
    Preserves (Advance.Licensed inst signals) (advanceHumanGate x inst signals) := by
  rw [advanceHumanGate]
  split
  · exact .pure _
  · rename_i signal approval frozen command hstep
    obtain ⟨hopens, hcommand⟩ := gateStep_execute hstep
    have hregister : Preserves (Advance.Licensed inst signals)
        (registerContextPreview inst command) := by
      rw [registerContextPreview]
      split
      · exact registerPreview_licensed _
      · exact .pure ()
    refine .bind hregister fun _ => .bind (.attempt (execute_licensed fun _ => ?_)) fun result => ?_
    · exact ⟨signal, approval, frozen, hopens, by rw [hcommand]⟩
    · split
      · exact .pure _
      · split <;> exact .pure _

omit [Json.CharTable] in
theorem stepIntake_commands {tenantId : Id} {row : ExpenseRow} {current : WorkflowState}
    {step : StepResult} (h : stepIntake x tenantId row current = .ok step) :
    ∀ c ∈ step.commandsToExecute, ¬ requiresHumanApproval c.command := by
  obtain ⟨expense, _, h⟩ := except_bind_eq_ok.mp h
  dsimp only at h
  split at h
  · obtain ⟨_, _, h⟩ := except_bind_eq_ok.mp h
    obtain rfl := Except.ok.inj h
    exact fun _ hc => absurd hc List.not_mem_nil
  · obtain ⟨_, _, h⟩ := except_bind_eq_ok.mp h
    obtain rfl := Except.ok.inj h
    intro c hc
    obtain rfl := List.mem_singleton.mp hc
    have htype : "import_normalized_expense" ∉ l3CommandTypes := by decide
    exact fun hneeds => hneeds.elim htype nofun

omit [Digest] [Json.CharTable] in
theorem stepClassify_commands {tenantId expenseId : Id} {allocationId : Option Id} {amount : String}
    {policy : TenantPolicy} {current : WorkflowState} {step : StepResult}
    (h : stepClassify (classify x tenantId expenseId allocationId amount) policy current = .ok step) :
    ∀ c ∈ step.commandsToExecute, ¬ requiresHumanApproval c.command := by
  rw [stepClassify] at h
  split at h
  · obtain ⟨_, _, h⟩ := except_bind_eq_ok.mp h
    obtain rfl := Except.ok.inj h
    exact fun _ hc => absurd hc List.not_mem_nil
  · obtain ⟨_, _, h⟩ := except_bind_eq_ok.mp h
    obtain rfl := Except.ok.inj h
    intro c hc
    obtain rfl := List.mem_singleton.mp hc
    have htype : "allocate_expense" ∉ l3CommandTypes := by decide
    exact fun hneeds => hneeds.elim htype nofun

theorem advanceReceived_licensed :
    Preserves (Advance.Licensed inst signals) (advanceReceived x inst) := by
  refine .okOrRaise_bind fun step hstep =>
    .bind (executeList_licensed (stepIntake_commands hstep) 0) fun receipts =>
      .bind .get fun a => ?_
  dsimp only
  split <;> exact .pure _

theorem advanceNormalized_licensed :
    Preserves (Advance.Licensed inst signals) (advanceNormalized x inst) := by
  refine .bind .get fun a => ?_
  split
  · exact .pure _
  refine .okOrRaise_bind fun facts _ => .okOrRaise_bind fun evidence _ => ?_
  dsimp only
  split
  · exact .pure _
  refine .okOrRaise_bind fun classified hclassified =>
    .bind (executeList_licensed (stepClassify_commands hclassified) 0) fun receipts => ?_
  split
  · exact .pure _
  · exact .okOrRaise_bind fun _ _ => .pure _

omit [Json.CharTable] in
theorem advancePublished_licensed :
    Preserves (Advance.Licensed inst signals) (advancePublished x inst) := by
  refine .bind .get fun a => ?_
  split
  · exact .pure _
  split
  · exact .pure _
  · exact .okOrRaise_bind fun _ _ => .bind (registerPreview_licensed _) fun _ =>
      .okOrRaise_bind fun _ _ => .pure _

theorem advanceCorrection_licensed :
    Preserves (Advance.Licensed inst signals) (advanceCorrection x inst signals) := by
  refine .bind .get fun a => ?_
  split
  · exact .pure _
  split
  · exact advanceHumanGate_licensed
  · exact advanceHumanGate_licensed
  · exact advanceHumanGate_licensed
  · exact .okOrRaise _
  · exact .okOrRaise_bind fun _ _ => .pure _
  · exact .pure _
  · exact .pure _

/-- Whatever an advance has executed needed no human, or went through the gate. -/
theorem advanceOnce_licensed :
    Preserves (Advance.Licensed inst signals) (advanceOnce x inst signals) := by
  rw [advanceOnce]
  split
  · exact advanceCorrection_licensed
  · exact .okOrRaise _
  · split
    · exact advanceHumanGate_licensed
    · exact advanceHumanGate_licensed
    · exact advanceHumanGate_licensed
    · exact advanceReceived_licensed
    · exact advanceNormalized_licensed
    · exact advanceNormalized_licensed
    · exact advanceNormalized_licensed
    · exact .okOrRaise _
    · exact advancePublished_licensed
    all_goals split <;> exact .pure _

end Executions

end ImpactRelay
