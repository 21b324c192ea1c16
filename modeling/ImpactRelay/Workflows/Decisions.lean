/-
# `Workflows.Decisions` — what becomes of a decision that is no approval

`processSignal` has a branch for each decision, but it asks `authorize` first, and
that refuses every decision but APPROVE.  So a REJECT, a REQUEST_INFORMATION and an
EDIT end where a forged approval ends: the signal is marked REJECTED_INVALID and the
workflow waits at its gate again.
-/
import ImpactRelay.Workflows.Expiry

namespace ImpactRelay

open Raise WorkflowStore LawfulWorkflowStore

/-- Where a decision other than APPROVE is meant to take the workflow. -/
def Decision.TakesTo (decision : Decision) (new : WorkflowInstance) : Prop :=
  match decision with
  | .reject => new.workflowState = .rejected ∧ new.runStatus ∈ terminalRunStatuses
  | .requestInformation | .edit =>
      new.workflowState = .needsInformation ∧ new.runStatus = .waitingSignal
  | .approve => False

namespace System

variable {σ : Type} [WorkflowStore σ] {S : System σ} {key : String × Id} {x : Surroundings}
  {inst : WorkflowInstance} {signals : List WorkflowSignal} {signal : WorkflowSignal}
  {approval : ApprovalReceipt} {frozen : FrozenProposedCommand}

/-- A human's decision, other than APPROVE, on the command of the gate: a worker has taken
it for the workflow as it is stored, and it is the first one that matches. -/
structure Declined (S : System σ) (key : String × Id) (inst : WorkflowInstance)
    (signals : List WorkflowSignal) (signal : WorkflowSignal) (approval : ApprovalReceipt)
    (frozen : FrozenProposedCommand) : Prop where
  flight : S.flights key = some ⟨inst, .took signals⟩
  stored : row S.store inst.workflowId = some inst
  decides : Decides inst signals signal approval frozen
  matches_ : approval.commandIdempotencyKey = frozen.idempotencyKey
  tenant : approval.tenantId = inst.tenantId
  human : isAgentId approval.approverId = false
  decision : approval.decision ≠ .approve

variable [Digest] [Json.CharTable]

/-- The decision has had its effect: the workflow is where it is meant to be, the signal is
ACCEPTED, and the command is not executed any more. -/
structure Honoured (T : System σ) (w : Id) (signal : WorkflowSignal) (decision : Decision)
    (frozen : FrozenProposedCommand) : Prop where
  moved : ∃ new, row T.store w = some new ∧ decision.TakesTo new
  accepted : ∃ y ∈ signalsOf T.store w, y.signalId = signal.signalId ∧
    y.consumeResult = some SignalConsumeResult.accepted.value
  never : ∀ later, ∀ e ∈ (run System.step T later).executed, e ∈ T.executed ∨
    ¬ (e.inst.workflowId = w ∧ e.execution.command.idempotencyKey = frozen.idempotencyKey)

/-- The worker decides and commits. -/
def decided (S : System σ) (key : String × Id) (x : Surroundings) (utcNow : String) : System σ :=
  run System.step S [.run key.1 key.2 x, .write key.1 key.2 utcNow]

omit [Digest] [Json.CharTable] in
theorem not_takesTo_gate {decision : Decision} {new : WorkflowInstance}
    (h : new.workflowState ∈ humanGateStates) : ¬ decision.TakesTo new := by
  have hstate : new.workflowState ≠ .rejected ∧ new.workflowState ≠ .needsInformation := by
    constructor <;> intro hs <;> rw [hs] at h <;> exact absurd h (by decide)
  intro htakes
  cases decision with
  | reject => exact hstate.1 htakes.1
  | requestInformation => exact hstate.2 htakes.1
  | edit => exact hstate.2 htakes.1
  | approve => exact htakes

omit [Digest] [Json.CharTable] in
theorem gate_of_takesSignals (hkind : inst.workflowType ≠ .scheduledDigest)
    (h : inst.takesSignals = true) : inst.workflowState ∈ humanGateStates := by
  rw [WorkflowInstance.takesSignals] at h
  split at h
  · exact of_decide_eq_true h
  · exact of_decide_eq_true (Bool.and_eq_true_iff.mp h).2
  · rename_i htype
    exact absurd htype hkind

variable [LawfulWorkflowStore σ]

/-- Whatever the store makes of the commit, the workflow is still at its gate. -/
theorem Declined.stays (h : S.Declined key inst signals signal approval frozen) (utcNow : String) :
    ∃ new, row (S.decided key x utcNow).store inst.workflowId = some new ∧
      new.workflowState = inst.workflowState := by
  have hrefused : ¬ Approves frozen approval := fun happroves => h.decision happroves.decision
  obtain ⟨exc, hrun⟩ := h.decides.run_refused (x := x) hrefused ⟨S.executorFor inst, []⟩
  have hprocesses : S.Processes (.run key.1 key.2 x) x key inst signals signal approval frozen :=
    ⟨rfl, h.flight, h.decides⟩
  have hrow : row (S.land inst ⟨S.executorFor inst, []⟩).store inst.workflowId = some inst := by
    rw [land, row_withReceipts]
    exact h.stored
  rw [decided, run_cons, run_cons, run_nil, hprocesses.step, System.runAdvance, hrun]
  dsimp only
  rw [System.step, onFlight, setFlight]
  dsimp only
  rw [Function.update_self]
  dsimp only [writeFlight, writeOutcome, WorkflowRuntime.commit]
  generalize hresult : commitAdvance (σ := σ) utcNow _ _ = result
  cases result with
  | ok s =>
      obtain ⟨⟨_, new, _, _, hnew, hcursor, _⟩, -⟩ := commit_ok hresult
      exact ⟨new, hnew, hcursor.workflowState.symm⟩
  | error exc => exact ⟨inst, hrow, rfl⟩

theorem Declined.not_honoured (h : S.Declined key inst signals signal approval frozen)
    (utcNow : String) :
    ¬ (S.decided key x utcNow).Honoured inst.workflowId signal approval.decision frozen := by
  intro hhonoured
  obtain ⟨new, hnew, hstate⟩ := h.stays (x := x) utcNow
  obtain ⟨new', hnew', htakes⟩ := hhonoured.moved
  rw [hnew] at hnew'
  obtain rfl := Option.some.inj hnew'
  have hgate := gate_of_takesSignals h.decides.kind h.decides.gate
  exact not_takesTo_gate (hstate.symm ▸ hgate) htakes

/-- A decision other than APPROVE is never honoured, on either store. -/
theorem declined_not_honoured (utcNow : String) :
    (∀ (S : System InMemoryWorkflowStore) (key : String × Id) (x : Surroundings) inst signals signal
        approval frozen, S.Declined key inst signals signal approval frozen →
      ¬ (S.decided key x utcNow).Honoured inst.workflowId signal approval.decision frozen) ∧
    ∀ (S : System SqlWorkflowStore) (key : String × Id) (x : Surroundings) inst signals signal
        approval frozen, S.Declined key inst signals signal approval frozen →
      ¬ (S.decided key x utcNow).Honoured inst.workflowId signal approval.decision frozen :=
  ⟨fun _ _ _ _ _ _ _ _ h => h.not_honoured utcNow, fun _ _ _ _ _ _ _ _ h => h.not_honoured utcNow⟩

end System

section Sample

attribute [local instance] Digest.plain Json.CharTable.all

namespace System

/-- A reversal is proposed and rejected, and a worker takes the signal up. -/
def Sample.rejectedReversal : List Action :=
  .start (Sample.at 20 0)
      (.correction { tenantId := "org", expenseId := "expense", reason := "duplicate" }) ::
    Sample.advance 21 0 ++
    .approve (Sample.at 22 60) "org" "wf_corr_20_0"
      { Sample.approval with decision := .reject } :: (Sample.advance 23 60).take 3

def Sample.declines (frozen : FrozenProposedCommand) (approval : ApprovalReceipt) : Bool :=
  decide (approval.commandIdempotencyKey = frozen.idempotencyKey ∧ approval.tenantId = "org" ∧
    isAgentId approval.approverId = false ∧ approval.decision = .reject)

theorem Sample.rejectedReversal_declined : ∃ inst signals signal approval frozen,
    (run System.step Sample.system Sample.rejectedReversal).Declined ("w", "wf_corr_20_0")
      inst signals signal approval frozen := by
  have hflight : ((run System.step Sample.system Sample.rejectedReversal).flights
      ("w", "wf_corr_20_0")).map (fun f => Sample.decidesOn Sample.declines f &&
        decide (f.inst.tenantId = "org") && decide (row (run System.step Sample.system
          Sample.rejectedReversal).store f.inst.workflowId = some f.inst)) = some true := by
    decide +kernel
  obtain ⟨f, hf, hboth⟩ := Option.map_eq_some_iff.mp hflight
  obtain ⟨hboth, hstored⟩ := Bool.and_eq_true_iff.mp hboth
  obtain ⟨hdecided, htenant⟩ := Bool.and_eq_true_iff.mp hboth
  obtain ⟨signals, signal, approval, frozen, hphase, hdecides, hdeclines⟩ :=
    Sample.of_decidesOn hdecided
  obtain ⟨hkey, hfor, hhuman, hreject⟩ := of_decide_eq_true hdeclines
  refine ⟨f.inst, signals, signal, approval, frozen, hphase ▸ hf, of_decide_eq_true hstored, hdecides,
    hkey, hfor.trans (of_decide_eq_true htenant).symm, hhuman, ?_⟩
  rw [hreject]
  decide

end System

open ImpactRelay.System in
theorem reversal_declined_not_honoured : ∃ inst signals signal approval frozen,
    (run System.step Sample.system Sample.rejectedReversal).Declined ("w", "wf_corr_20_0")
      inst signals signal approval frozen ∧
    ¬ ((run System.step Sample.system Sample.rejectedReversal).decided ("w", "wf_corr_20_0")
        (Sample.at 23 60) "2026-01-02T12:01:00+00:00").Honoured inst.workflowId signal
      approval.decision frozen := by
  obtain ⟨inst, signals, signal, approval, frozen, h⟩ := Sample.rejectedReversal_declined
  exact ⟨inst, signals, signal, approval, frozen, h,
    (declined_not_honoured "2026-01-02T12:01:00+00:00").2 _ _ _ _ _ _ _ _ h⟩

open ImpactRelay.System in
/-- The rejected reversal is still under review. -/
theorem rejection_ignored : ¬ ∀ (S : System SqlWorkflowStore) (actions : List Action)
    (key : String × Id) (x : Surroundings) (utcNow : String) (inst : WorkflowInstance)
    (signals : List WorkflowSignal) (signal : WorkflowSignal) (approval : ApprovalReceipt)
    (frozen : FrozenProposedCommand), S.Fresh →
    (run System.step S actions).Declined key inst signals signal approval frozen →
      ((run System.step S actions).decided key x utcNow).Honoured inst.workflowId signal
        approval.decision frozen := by
  intro h
  obtain ⟨inst, signals, signal, approval, frozen, hdeclined⟩ := Sample.rejectedReversal_declined
  have hhonoured := h _ _ _ (Sample.at 23 60) "2026-01-02T12:01:00+00:00" _ _ _ _ _
    Sample.system_fresh hdeclined
  exact hdeclined.not_honoured _ hhonoured

end Sample

end ImpactRelay
