/-
# `Workflows.RetryDecision` — the error taxonomy at a human gate

An exception raised while an approved command is executed reaches the runtime in one of
two ways: raised out of the executor, or as the message of a FAILED receipt, which the
runtime wraps into a plain `Exception` before it classifies it.  The taxonomy goes by the
class; the classification looks for markers in the message first, and sees no class behind
a receipt.

`retry_decision_iff` says when the decision is the taxonomy's all the same.
-/
import ImpactRelay.Agents.Failure
import ImpactRelay.Workflows.HumanAuthority
import ImpactRelay.Workflows.Moves

namespace ImpactRelay

open Raise WorkflowRuntime

/-! ## The taxonomy -/

namespace ExcClass

/-- Errors of the domain: a missing aggregate, an invariant, a state. -/
def Domain (cls : ExcClass) : Prop := Text.hasSubstring "domain" cls.module

instance (cls : ExcClass) : Decidable cls.Domain := inferInstanceAs (Decidable (_ = _))

/-- Domain and authority errors end a workflow.  What is left is retried: errors of a driver,
timeouts, and what nobody knows. -/
def Terminal (cls : ExcClass) : Prop :=
  cls.name ∈ terminalTypeNames ∨ cls.name ∉ retryableTypeNames ∧
    ((Text.hasSubstring "authority" cls.module ∨ Text.hasSubstring "privacy" cls.module ∨
      Text.hasSubstring "policy" cls.module) ∨ cls.Domain ∧ Text.endsWith "Error" cls.name)

instance (cls : ExcClass) : Decidable cls.Terminal := inferInstanceAs (Decidable (_ ∨ _))

end ExcClass

/-- What the command is to bring about is in the ledger.  A rejection, a send and an unknown
command bring about nothing there. -/
def Ledger.HasEffect (l : Ledger) : Payload → Prop
  | .importNormalizedExpense row => ∃ r ∈ row, ∃ e ∈ l.expenses.values,
      e.externalSourceId = r.externalSourceId
  | .allocateExpense p => ∃ ea ∈ l.expenseAllocations.values,
      some ea.expenseId = p.expenseId ∧ some ea.allocationId = p.allocationId
  | .approveExpense p => ∃ id ∈ p.expenseId, l.expenseIn verifiedExpenseStates id
  | .publishUseOfFundsReceipt p => ∃ donationId ∈ p.donationId, ∃ expenseId ∈ p.expenseId,
      ∃ allocationId ∈ p.allocationId,
        (l.findLiveReceipt donationId expenseId allocationId).isSome
  | .reverseExpense p => ∃ id ∈ p.expenseId, l.expenseIn [.reversed] id
  | .supersedeExpense p => ∃ id ∈ p.expenseId, l.expenseIn [.superseded] id
  | .rejectExpense _ | .sendNotification _ | .unsupported _ => False

/-! ## How an exception is reported -/

inductive Report where
  /-- `execute` raises it -/
  | raised
  /-- `execute` catches it and returns a FAILED receipt with its message -/
  | receipt
deriving DecidableEq

namespace Report

/-- The exception the runtime classifies. -/
def classified : Report → PyExc → PyExc
  | .raised, exc => exc
  | .receipt, exc => ⟨.other "builtins" "Exception", truthyOr (some exc.msg) "failed"⟩

/-- The way it is reported, the exception cannot be taken for another: a marker is no harm to
a terminal error that is raised, and behind a receipt it must be there exactly for one. -/
def Tells (report : Report) (exc : PyExc) : Prop :=
  match report with
  | .raised => exc.cls.Terminal ∨ ¬ marksApplied exc.msg
  | .receipt => exc.cls.Terminal ↔ marksApplied exc.msg

instance (report : Report) (exc : PyExc) : Decidable (report.Tells exc) :=
  match report with
  | .raised => inferInstanceAs (Decidable (_ ∨ _))
  | .receipt => inferInstanceAs (Decidable (_ ↔ _))

end Report

/-! ## What the classification sees -/

section Classification

variable {exc : PyExc}

theorem errorClass_alreadyApplied :
    (classifyError exc).errorClass = .alreadyApplied ↔ marksApplied exc.msg := by
  rw [classifyError]
  constructor
  · intro h
    by_contra hunmarked
    rw [if_neg hunmarked] at h
    repeat' split at h
    all_goals exact nomatch h
  · intro hmarked
    rw [if_pos hmarked]

theorem classifyError_retryable :
    (classifyError exc).retryable = true ↔ ¬ marksApplied exc.msg ∧ ¬ exc.cls.Terminal := by
  rw [classifyError]
  by_cases hmarked : marksApplied exc.msg = true
  · rw [if_pos hmarked]
    exact ⟨(fun h => nomatch h), fun h => absurd hmarked h.1⟩
  rw [if_neg hmarked, ExcClass.Terminal]
  split
  · rename_i hterminal
    exact ⟨(fun h => nomatch h), fun h => absurd (Or.inl hterminal) h.2⟩
  rename_i hterminal
  split
  · rename_i hretryable
    refine ⟨fun _ => ⟨hmarked, ?_⟩, fun _ => rfl⟩
    rintro (h | h)
    · exact hterminal h
    · exact h.1 hretryable
  rename_i hretryable
  split
  · rename_i hmodule
    exact ⟨(fun h => nomatch h), fun h => absurd (Or.inr ⟨hretryable, Or.inl hmodule⟩) h.2⟩
  rename_i hmodule
  split
  · rename_i hdomain
    exact ⟨(fun h => nomatch h), fun h => absurd (Or.inr ⟨hretryable, Or.inr hdomain⟩) h.2⟩
  rename_i hdomain
  refine ⟨fun _ => ⟨hmarked, ?_⟩, fun _ => rfl⟩
  rintro (h | ⟨_, h | h⟩)
  · exact hterminal h
  · exact hmodule h
  · exact hdomain h

/-- The text a message-less exception is given has no marker either. -/
theorem marksApplied_truthy (msg : String) :
    marksApplied (truthyOr (some msg) "failed") = marksApplied msg := by
  rw [truthyOr]
  split
  · rename_i hempty
    rw [hempty]
    decide
  · rfl

theorem marksApplied_classified (report : Report) :
    marksApplied (report.classified exc).msg = marksApplied exc.msg := by
  cases report with
  | raised => rfl
  | receipt => exact marksApplied_truthy exc.msg

theorem exception_not_terminal : ¬ (ExcClass.other "builtins" "Exception").Terminal := by decide

/-- The decision is the class's exactly where the report tells. -/
theorem classified_retryable_iff (report : Report) :
    ((classifyError (report.classified exc)).retryable = true ↔ ¬ exc.cls.Terminal) ↔
      report.Tells exc := by
  rw [classifyError_retryable, marksApplied_classified]
  cases report with
  | raised =>
      change (¬ _ ∧ ¬ exc.cls.Terminal ↔ ¬ exc.cls.Terminal) ↔ exc.cls.Terminal ∨ ¬ _
      by_cases hterminal : exc.cls.Terminal
      · exact ⟨fun _ => Or.inl hterminal, fun _ => ⟨fun h => h.2, fun h => absurd hterminal h⟩⟩
      · refine ⟨fun h => Or.inr (h.mpr hterminal).1, fun h => ⟨fun h' => h'.2, fun _ => ?_⟩⟩
        exact ⟨h.resolve_left hterminal, hterminal⟩
  | receipt =>
      change (¬ _ ∧ ¬ (ExcClass.other "builtins" "Exception").Terminal ↔ ¬ exc.cls.Terminal) ↔
        (exc.cls.Terminal ↔ _)
      rw [and_iff_left exception_not_terminal, not_iff_not]
      exact Iff.comm

end Classification

/-! ## The decision -/

section Decision

variable [Digest] [Json.CharTable] {x : Surroundings} {inst : WorkflowInstance}
  {signals : List WorkflowSignal} {signal : WorkflowSignal} {approval : ApprovalReceipt}
  {frozen : FrozenProposedCommand} {command : AgentCommand} {a : Advance} {report : Report}
  {exc : PyExc}

/-- The executor an approved command is executed with. -/
def gateExecutor (inst : WorkflowInstance) (command : AgentCommand) (a : Advance) :
    LedgerCommandExecutor :=
  (after (registerContextPreview inst command) a).executor

/-- An exception raised while the approved command is executed, with the way it takes. -/
inductive FailsWith (o : Outside) (e : LedgerCommandExecutor) (command : AgentCommand)
    (approval : ApprovalReceipt) (agentName : String) : Report → PyExc → Prop
  | raised {exc : PyExc} {e' : LedgerCommandExecutor}
      (raises : Raises (LedgerCommandExecutor.execute o command (some approval) (some agentName)
        none) e exc e') : FailsWith o e command approval agentName .raised exc
  | receipt {exc : PyExc} {e' : LedgerCommandExecutor}
      (reaches : LedgerCommandExecutor.ReachesHandler o e command (some approval)
        (some agentName) none)
      (raises : Raises (LedgerCommandExecutor.dispatchAndStore o command (some approval)) e exc e') :
      FailsWith o e command approval agentName .receipt exc

/-- What the taxonomy makes of the workflow: another try or the end, by the class alone, and
nothing counts as applied that is not in the ledger. -/
structure FollowsTaxonomy (l : Ledger) (payload : Payload) (report : Report) (exc : PyExc)
    (new : WorkflowInstance) : Prop where
  retries : new.runStatus = .retryScheduled ↔ ¬ exc.cls.Terminal
  ends : new.runStatus ∈ terminalRunStatuses ↔ exc.cls.Terminal
  applied : exc.cls.Domain → (classifyError (report.classified exc)).errorClass = .alreadyApplied →
    l.HasEffect payload

omit [Digest] [Json.CharTable] in
theorem afterFailure_written (nextRunAt : Nat → String) (error : Option String) :
    ∃ new, (afterFailure x inst signal exc nextRunAt error).written = some new ∧
      new.runStatus = if (classifyError exc).retryable then .retryScheduled else .failedTerminal := by
  rw [afterFailure]
  split
  · exact ⟨_, rfl, rfl⟩
  · exact ⟨_, rfl, rfl⟩

omit [Digest] [Json.CharTable] in
theorem registers (inst : WorkflowInstance) (command : AgentCommand) (a : Advance) :
    Returns (registerContextPreview inst command) a () (after (registerContextPreview inst command) a) ∧
      (after (registerContextPreview inst command) a).executor.ledger = a.executor.ledger := by
  rw [registerContextPreview]
  split
  · exact ⟨rfl, rfl⟩
  · exact ⟨rfl, rfl⟩

theorem executeGate_of_raises {exc : PyExc} {a' : Advance}
    (hraises : Raises (execute (x.execution 0) command (some approval) frozen.agentName none)
      (after (registerContextPreview inst command) a) exc a') :
    Returns (executeGate x inst signal approval frozen command) a
      (afterFailure x inst signal exc
        (fun attempt => (x.clock.addSeconds (2 ^ attempt)).isoformat) (some exc.msg)) a' := by
  obtain ⟨hregisters, -⟩ := registers inst command a
  have hattempt : Returns (attempt (execute (x.execution 0) command (some approval)
      frozen.agentName none)) (after (registerContextPreview inst command) a) (.error exc) a' :=
    returns_attempt.mpr (Or.inr ⟨exc, hraises, rfl⟩)
  rw [executeGate]
  refine returns_bind.mpr ⟨(), _, hregisters, returns_bind.mpr ⟨_, _, hattempt, ?_⟩⟩
  exact returns_pure.mpr ⟨rfl, rfl⟩

theorem executeGate_of_failed {receipt : ExecutionReceipt} {a' : Advance}
    (hreturns : Returns (execute (x.execution 0) command (some approval) frozen.agentName none)
      (after (registerContextPreview inst command) a) receipt a') (hfailed : receipt.status = .failed) :
    Returns (executeGate x inst signal approval frozen command) a
      (afterFailure x inst signal ⟨.other "builtins" "Exception", truthyOr receipt.error "failed"⟩
        (fun _ => x.clockIso) receipt.error) a' := by
  obtain ⟨hregisters, -⟩ := registers inst command a
  have hattempt : Returns (attempt (execute (x.execution 0) command (some approval)
      frozen.agentName none)) (after (registerContextPreview inst command) a) (.ok receipt) a' :=
    returns_attempt.mpr (Or.inl ⟨receipt, hreturns, rfl⟩)
  rw [executeGate]
  refine returns_bind.mpr ⟨(), _, hregisters, returns_bind.mpr ⟨_, _, hattempt, ?_⟩⟩
  dsimp only
  rw [if_pos hfailed]
  exact returns_pure.mpr ⟨rfl, rfl⟩

/-- Whichever way it comes, the advance classifies it as it is reported. -/
theorem fails_written (hgate : gateStep x inst signals = .execute signal approval frozen command)
    (hfails : FailsWith (x.execution 0) (gateExecutor inst command a) command approval
      frozen.agentName report exc) :
    ∃ outcome new a', Returns (advanceHumanGate x inst signals) a outcome a' ∧
      outcome.written = some new ∧
      new.runStatus = if (classifyError (report.classified exc)).retryable then .retryScheduled
        else .failedTerminal := by
  have hbody : advanceHumanGate x inst signals =
      executeGate x inst signal approval frozen command := by
    rw [advanceHumanGate, hgate]
  rw [hbody]
  cases hfails with
  | raised raises =>
      have hraises : ∃ a', Raises (execute (x.execution 0) command (some approval) frozen.agentName
          none) (after (registerContextPreview inst command) a) exc a' :=
        ⟨_, raises_modify_bind.mpr (raises_within.mpr ⟨_, raises, rfl⟩)⟩
      obtain ⟨a', hraises⟩ := hraises
      obtain ⟨new, hnew, hstatus⟩ := afterFailure_written _ _
      exact ⟨_, new, a', executeGate_of_raises hraises, hnew, hstatus⟩
  | receipt reaches raises =>
      obtain ⟨receipt, -, hfailed, hexecute⟩ := LedgerCommandExecutor.execute_of_attempt reaches
        (returns_attempt.mpr (Or.inr ⟨exc, raises, rfl⟩))
      have hreceipt := hfailed exc rfl
      have hreturns : ∃ a', Returns (execute (x.execution 0) command (some approval)
          frozen.agentName none) (after (registerContextPreview inst command) a) receipt a' :=
        ⟨_, returns_modify_bind.mpr (returns_within.mpr ⟨_, hexecute, rfl⟩)⟩
      obtain ⟨a', hreturns⟩ := hreturns
      have hstatus : receipt.status = .failed := by rw [hreceipt]; rfl
      have herror : receipt.error = some exc.msg := by rw [hreceipt]; rfl
      have hgives : Returns (executeGate x inst signal approval frozen command) a _ a' :=
        executeGate_of_failed hreturns hstatus
      rw [herror] at hgives
      obtain ⟨new, hnew, hstatus⟩ := afterFailure_written _ _
      exact ⟨_, new, a', hgives, hnew, hstatus⟩

/-- An exception behind an approved command leads where the taxonomy says exactly when its
report tells its class, and no domain error is marked as applied that is not. -/
theorem retry_decision_iff
    (hgate : gateStep x inst signals = .execute signal approval frozen command)
    (hfails : FailsWith (x.execution 0) (gateExecutor inst command a) command approval
      frozen.agentName report exc) :
    ∃ outcome new a', Returns (advanceHumanGate x inst signals) a outcome a' ∧
      outcome.written = some new ∧
      (FollowsTaxonomy a.executor.ledger command.payload report exc new ↔
        report.Tells exc ∧ (exc.cls.Domain → marksApplied exc.msg →
          a.executor.ledger.HasEffect command.payload)) := by
  obtain ⟨outcome, new, a', hreturns, hwritten, hstatus⟩ := fails_written hgate hfails
  refine ⟨outcome, new, a', hreturns, hwritten, ?_⟩
  rw [← classified_retryable_iff]
  have hstatuses : (new.runStatus = .retryScheduled ↔
        (classifyError (report.classified exc)).retryable = true) ∧
      (new.runStatus ∈ terminalRunStatuses ↔
        ¬ (classifyError (report.classified exc)).retryable = true) := by
    rw [hstatus]
    cases (classifyError (report.classified exc)).retryable <;> decide
  constructor
  · rintro ⟨hretries, _, happlied⟩
    refine ⟨hstatuses.1.symm.trans hretries, fun hdomain hmarked => happlied hdomain ?_⟩
    rw [errorClass_alreadyApplied, marksApplied_classified]
    exact hmarked
  · rintro ⟨hdecides, happlied⟩
    refine ⟨hstatuses.1.trans hdecides, ?_, fun hdomain hclass => happlied hdomain ?_⟩
    · rw [hstatuses.2, hdecides, not_not]
    · rw [errorClass_alreadyApplied, marksApplied_classified] at hclass
      exact hclass

end Decision

section Sample

attribute [local instance] Digest.plain Json.CharTable.all

namespace Report

def Sample.frozen : FrozenProposedCommand where
  tenantId := "org"
  payload := .reverseExpense { expenseId := some "expense", reason := some "duplicate" }
  idempotencyKey := "reverse:expense:duplicate"
  expiresAt := none
  proposalId := "prop"
  agentName := "CorrectionWorkflow"

def Sample.signal : WorkflowSignal where
  signalId := "sig"
  workflowId := "wf"
  tenantId := "org"
  signalType := .approval
  payload := .approval System.Sample.approval
  createdAt := "2026-01-02T12:00:00+00:00"

/-- A reversal at its gate, woken by its approval. -/
def Sample.inst : WorkflowInstance where
  workflowId := "wf"
  tenantId := "org"
  workflowType := .correction
  businessKey := "corr:reverse:expense"
  workflowState := .reviewPending
  runStatus := .pending
  context := { wait := some (waitFor Sample.frozen), expenseId := some "expense" }
  createdAt := "2026-01-02T12:00:00+00:00"
  updatedAt := "2026-01-02T12:00:00+00:00"

/-- The expense is in the ledger, but nobody has approved it. -/
def Sample.advance : Advance := ⟨LedgerCommandExecutor.Sample.allocated, []⟩

def Sample.exc : PyExc := stateError "only APPROVED or RECONCILED expenses can be reversed"

theorem Sample.opens : gateStep (System.Sample.at 23 60) Sample.inst [Sample.signal] =
    .execute Sample.signal System.Sample.approval Sample.frozen
      (approvedCommand Sample.frozen System.Sample.approval) := rfl

theorem Sample.fails : FailsWith ((System.Sample.at 23 60).execution 0)
    (gateExecutor Sample.inst (approvedCommand Sample.frozen System.Sample.approval) Sample.advance)
    (approvedCommand Sample.frozen System.Sample.approval) System.Sample.approval
    Sample.frozen.agentName .receipt Sample.exc :=
  .receipt (by decide +kernel) rfl

end Report

theorem unapproved_reversal_decision_iff : ∃ outcome new a',
    Returns (advanceHumanGate (System.Sample.at 23 60) Report.Sample.inst [Report.Sample.signal])
      Report.Sample.advance outcome a' ∧ outcome.written = some new ∧
      (FollowsTaxonomy Report.Sample.advance.executor.ledger
          (approvedCommand Report.Sample.frozen System.Sample.approval).payload .receipt
          Report.Sample.exc new ↔
        Report.receipt.Tells Report.Sample.exc ∧
          (Report.Sample.exc.cls.Domain → marksApplied Report.Sample.exc.msg →
            Report.Sample.advance.executor.ledger.HasEffect
              (approvedCommand Report.Sample.frozen System.Sample.approval).payload)) :=
  retry_decision_iff Report.Sample.opens Report.Sample.fails

/-- The state error of a reversal that can never succeed is tried again. -/
theorem unapproved_reversal_retried : ¬ ∀ (x : Surroundings) (inst : WorkflowInstance)
    (signals : List WorkflowSignal) (signal : WorkflowSignal) (approval : ApprovalReceipt)
    (frozen : FrozenProposedCommand) (command : AgentCommand) (a : Advance) (report : Report)
    (exc : PyExc), gateStep x inst signals = .execute signal approval frozen command →
    FailsWith (x.execution 0) (gateExecutor inst command a) command approval frozen.agentName
      report exc →
    ∃ outcome new a', Returns (advanceHumanGate x inst signals) a outcome a' ∧
      outcome.written = some new ∧
      FollowsTaxonomy a.executor.ledger command.payload report exc new := by
  intro h
  obtain ⟨outcome, new, a', hreturns, hwritten, hfollows⟩ :=
    h _ _ _ _ _ _ _ _ _ _ Report.Sample.opens Report.Sample.fails
  obtain ⟨outcome', new', _, hreturns', hwritten', hstatus⟩ :=
    fails_written Report.Sample.opens Report.Sample.fails
  obtain ⟨rfl, -⟩ := hreturns.unique hreturns'
  obtain rfl := Option.some.inj (hwritten.symm.trans hwritten')
  have hretried : new.runStatus = .retryScheduled := hstatus.trans (if_pos (by decide +kernel))
  have hterminal : Report.Sample.exc.cls.Terminal := by decide
  exact hfollows.retries.mp hretried hterminal

end Sample

end ImpactRelay
