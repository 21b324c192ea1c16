/-
# `Workflows.Attempts` — what an advance counts

`attempt_count` is written in two places: at a gate, where an execution that failed and is
worth another try is counted and scheduled again, and by the worker, for what escapes an
advance.  This module is about the first: an advance that writes keeps the count, or it has
retried at a gate, one more on the count and the workflow where it was (`advanceOnce_counts`).
-/
import ImpactRelay.Workflows.Moves

namespace ImpactRelay

open Raise WorkflowRuntime

namespace WorkflowInstance

/-- Another try is due, the failed one is counted, and the workflow is where it was. -/
structure RetriedTo (inst new : WorkflowInstance) : Prop where
  status : new.runStatus = .retryScheduled
  attempts : new.attemptCount = inst.attemptCount + 1
  state : new.workflowState = inst.workflowState

end WorkflowInstance

namespace Outcome

/-- What is written has the attempts it was read with, or it has been retried. -/
def Counts (inst : WorkflowInstance) (o : Outcome) : Prop :=
  ∀ new, o.written = some new → new.attemptCount = inst.attemptCount ∨ inst.RetriedTo new

theorem Counts.of_written {inst written : WorkflowInstance} {o : Outcome}
    (hwritten : o.written = some written)
    (h : written.attemptCount = inst.attemptCount ∨ inst.RetriedTo written) : o.Counts inst := by
  intro new hnew
  rw [hwritten] at hnew
  exact Option.some.inj hnew ▸ h

end Outcome

open WorkflowInstance

section Branches

variable {x : Surroundings} {inst new : WorkflowInstance} {signals : List WorkflowSignal}

theorem nothing_counts : Outcome.Counts inst { write := .nothing } :=
  fun _ hwritten => nomatch hwritten

theorem attempts_touch (inst : WorkflowInstance) (now : String) :
    (inst.touch now).attemptCount = inst.attemptCount := rfl

theorem commit_counts {events : List WorkflowEventWrite} {receipts : List ExecutionReceipt}
    {consume : List (Id × SignalConsumeResult)} (h : new.attemptCount = inst.attemptCount) :
    (commit x new events receipts consume).Counts inst :=
  .of_written rfl (Or.inl ((attempts_touch new x.clockIso).trans h))

/-! ## At a gate -/

theorem processSignal_counts {signal : WorkflowSignal} {approval : ApprovalReceipt}
    {frozen : FrozenProposedCommand} {o : Outcome}
    (h : processSignal x inst signal approval frozen = .settle o) : o.Counts inst := by
  rw [processSignal] at h
  split at h
  · obtain rfl := GateStep.settle.inj h
    exact commit_counts rfl
  split at h
  · obtain rfl := GateStep.settle.inj h
    exact commit_counts rfl
  · obtain rfl := GateStep.settle.inj h
    exact commit_counts rfl
  · obtain rfl := GateStep.settle.inj h
    exact commit_counts rfl
  · cases h

theorem gateStep_counts {o : Outcome} (h : gateStep x inst signals = .settle o) :
    o.Counts inst := by
  rw [gateStep] at h
  split at h
  · split at h
    · obtain rfl := GateStep.settle.inj h
      exact commit_counts rfl
    · obtain rfl := GateStep.settle.inj h
      exact commit_counts rfl
  split at h
  · obtain rfl := GateStep.settle.inj h
    exact commit_counts rfl
  split at h
  · obtain rfl := GateStep.settle.inj h
    exact .of_written rfl (Or.inl rfl)
  · exact processSignal_counts h

/-- The only place where an advance counts. -/
theorem afterFailure_counts {signal : WorkflowSignal} {exc : PyExc} {nextRunAt : Nat → String}
    {error : Option String} : (afterFailure x inst signal exc nextRunAt error).Counts inst := by
  rw [afterFailure]
  split
  · exact .of_written rfl (Or.inr ⟨rfl, rfl, rfl⟩)
  · exact commit_counts rfl

theorem succeeded_attempts (payload : Payload) :
    (succeeded x inst payload).attemptCount = inst.attemptCount := by
  cases payload with
  | publishUseOfFundsReceipt p =>
      rw [succeeded]
      split <;> rfl
  | _ => rfl

theorem afterSuccess_counts {signal : WorkflowSignal} {command : AgentCommand}
    {receipt : ExecutionReceipt} : (afterSuccess x inst signal command receipt).Counts inst :=
  commit_counts (succeeded_attempts command.payload)

variable [Digest] [Json.CharTable]

theorem advanceHumanGate_counts :
    Gives (Outcome.Counts inst) (advanceHumanGate x inst signals) := by
  rw [advanceHumanGate]
  split
  · rename_i outcome hstep
    exact .pure (gateStep_counts hstep)
  · rename_i signal approval frozen command hstep
    refine Gives.bind fun _ => Gives.bind fun result => ?_
    split
    · exact .pure afterFailure_counts
    · split
      · exact .pure afterFailure_counts
      · exact .pure afterSuccess_counts

/-! ## Everywhere else -/

theorem advanceReceived_counts : Gives (Outcome.Counts inst) (advanceReceived x inst) := by
  refine Gives.okOrRaise_bind fun step _ => Gives.bind fun receipts => Gives.bind fun a => ?_
  dsimp only
  split
  · exact .pure (commit_counts rfl)
  · exact .pure (commit_counts rfl)

theorem advanceExpense_counts {ledger : Ledger} {expenseId : Id} :
    Gives (Outcome.Counts inst) (advanceExpense x inst ledger expenseId) := by
  refine Gives.okOrRaise_bind fun facts _ => Gives.okOrRaise_bind fun evidence _ => ?_
  dsimp only
  split
  · exact .pure (commit_counts rfl)
  refine Gives.okOrRaise_bind fun classified _ => Gives.bind fun receipts => ?_
  split
  · exact .pure (commit_counts rfl)
  · exact Gives.okOrRaise_bind fun review _ => .pure (commit_counts rfl)

theorem advanceNormalized_counts : Gives (Outcome.Counts inst) (advanceNormalized x inst) := by
  refine Gives.bind fun a => ?_
  split
  · exact .pure (commit_counts rfl)
  · exact advanceExpense_counts

omit [Digest] [Json.CharTable] in
theorem advanceAfterLedger_counts {o : Outcome} (h : advanceAfterLedger x inst = .ok o) :
    o.Counts inst := by
  rw [advanceAfterLedger] at h
  split at h
  · obtain rfl := Except.ok.inj h
    exact commit_counts rfl
  · obtain ⟨payload, _, h⟩ := except_bind_eq_ok.mp h
    obtain rfl := Except.ok.inj h
    exact commit_counts rfl

omit [Json.CharTable] in
theorem advancePublished_counts : Gives (Outcome.Counts inst) (advancePublished x inst) := by
  refine Gives.bind fun a => ?_
  split
  · exact .pure (commit_counts rfl)
  split
  · exact .pure (commit_counts rfl)
  · exact Gives.okOrRaise_bind fun _ _ => Gives.bind fun _ =>
      Gives.okOrRaise_bind fun send _ => .pure (commit_counts rfl)

omit [Digest] [Json.CharTable] in
theorem proposeCorrection_counts {ledger : Ledger} {o : Outcome}
    (h : proposeCorrection x inst ledger = .ok o) : o.Counts inst := by
  dsimp only [proposeCorrection] at h
  split at h
  · obtain rfl := Except.ok.inj h
    exact commit_counts rfl
  split at h
  · obtain rfl := Except.ok.inj h
    exact commit_counts rfl
  split at h
  · obtain rfl := Except.ok.inj h
    exact commit_counts rfl
  obtain ⟨step, _, h⟩ := except_bind_eq_ok.mp h
  obtain rfl := Except.ok.inj h
  cases step.wait with
  | none => exact commit_counts rfl
  | some wait => exact commit_counts rfl

theorem advanceCorrection_counts :
    Gives (Outcome.Counts inst) (advanceCorrection x inst signals) := by
  refine Gives.bind fun a => ?_
  split
  · exact .pure nothing_counts
  split
  · exact advanceHumanGate_counts
  · exact advanceHumanGate_counts
  · exact advanceHumanGate_counts
  · exact .okOrRaise fun o h => proposeCorrection_counts h
  · exact .okOrRaise_bind fun step _ => .pure (commit_counts rfl)
  · exact .pure (commit_counts rfl)
  · exact .pure (commit_counts rfl)

omit [Digest] [Json.CharTable] in
theorem assembleDigest_counts {o : Outcome} (h : assembleDigest x inst = .ok o) :
    o.Counts inst := by
  rw [assembleDigest] at h
  split at h
  · split at h
    · obtain rfl := Except.ok.inj h
      exact commit_counts rfl
    · cases h
  split at h
  · obtain rfl := Except.ok.inj h
    exact commit_counts rfl
  · obtain rfl := Except.ok.inj h
    exact commit_counts rfl

omit [Digest] [Json.CharTable] in
theorem advanceDigestApproval_counts : (advanceDigestApproval x inst signals).Counts inst := by
  rw [advanceDigestApproval]
  split
  · exact commit_counts rfl
  split
  · exact commit_counts rfl
  split <;> exact commit_counts rfl

omit [Digest] [Json.CharTable] in
theorem advanceDigest_counts {o : Outcome} (h : advanceDigest x inst signals = .ok o) :
    o.Counts inst := by
  rw [advanceDigest] at h
  split at h
  · obtain rfl := Except.ok.inj h
    exact nothing_counts
  split at h
  · obtain rfl := Except.ok.inj h
    exact advanceDigestApproval_counts
  · exact assembleDigest_counts h
  · obtain ⟨_, _, h⟩ := except_bind_eq_ok.mp h
    obtain rfl := Except.ok.inj h
    exact commit_counts rfl
  · obtain rfl := Except.ok.inj h
    exact commit_counts rfl

/-- An advance counts one attempt where it retries at a gate, and none anywhere else. -/
theorem advanceOnce_counts : Gives (Outcome.Counts inst) (advanceOnce x inst signals) := by
  rw [advanceOnce]
  split
  · exact advanceCorrection_counts
  · exact .okOrRaise fun o h => advanceDigest_counts h
  split
  · exact advanceHumanGate_counts
  · exact advanceHumanGate_counts
  · exact advanceHumanGate_counts
  · exact advanceReceived_counts
  · exact advanceNormalized_counts
  · exact advanceNormalized_counts
  · exact advanceNormalized_counts
  · exact .okOrRaise fun o h => advanceAfterLedger_counts h
  · exact advancePublished_counts
  all_goals
    split
    · exact .pure nothing_counts
    · exact .pure (.of_written rfl (Or.inl rfl))

end Branches

/-! ## Which advances retry -/

theorem succeeded_status {x : Surroundings} {inst : WorkflowInstance} (payload : Payload) :
    (succeeded x inst payload).runStatus ≠ .retryScheduled := by
  cases payload with
  | publishUseOfFundsReceipt p =>
      rw [succeeded]
      split <;> rintro ⟨⟩
  | _ => rintro ⟨⟩

theorem automaticSteps_status {kind : WorkflowType} {state : WorkflowState}
    {step : WorkflowState × WorkflowRunStatus} (h : step ∈ automaticSteps kind state) :
    step.2 ≠ .retryScheduled := by
  have hall : ∀ step ∈ automaticSteps kind state, step.2 ≠ .retryScheduled := by
    cases kind <;> cases state <;> decide
  exact hall step h

/-- A workflow that is due for another try after an advance, and was not before, has been
retried at its gate. -/
theorem retriedTo_of_moved {x : Surroundings} {inst new : WorkflowInstance}
    {signals : List WorkflowSignal} {consumed : List Id} (h : inst.Moved x signals consumed new)
    (hinst : inst.runStatus ≠ .retryScheduled) (hnew : new.runStatus = .retryScheduled) :
    inst.RetriedTo new := by
  have hnot : WorkflowRunStatus.retryScheduled ∉ restingRunStatuses := by decide
  cases h with
  | rests state wait status decided => exact absurd (hnew ▸ status) hnot
  | retries kind gate state wait status attempt => exact ⟨status, attempt, state⟩
  | spins idle live state wait status => exact nomatch status.symm.trans hnew
  | ignores gate taken marked state wait status decided => exact absurd (status.symm.trans hnew) hinst
  | declines gate state =>
      rw [hnew] at state
      rcases List.mem_cons.mp state with heq | state
      · exact nomatch (Prod.mk.inj heq).2
      · exact nomatch (Prod.mk.inj (List.mem_singleton.mp state)).2
  | executes kind gate waits state status wait =>
      exact absurd (status.symm.trans hnew) (succeeded_status _)
  | acknowledges kind gate state status wait => exact nomatch status.symm.trans hnew
  | steps step => exact absurd hnew (automaticSteps_status step)
  | enters gate status waits until_ silent => exact nomatch status.symm.trans hnew

end ImpactRelay
