/-
# `Workflows.Types` — instances, signals and events

The records of `workflows/types.py`.  An instance has two axes: the business
state (`WorkflowState`) and the scheduler's (`WorkflowRunStatus`).  Its context
and its wait are dictionaries in the source; here they are records with a field
for each key the runtime reads, an `Option` where the key may be missing.
-/
import ImpactRelay.Agents.NotificationComposer
import ImpactRelay.Agents.Types
import ImpactRelay.Lib.Iso
import ImpactRelay.Lib.Json
import ImpactRelay.Lib.Table

namespace ImpactRelay

/-- The business cursor. -/
inductive WorkflowState where
  | received | normalized | duplicate | classificationPending | evidencePending | reviewPending
  | approved | ledgerCommitted | receiptDrafted | publicationPending | published
  | notificationPending | delivered | blocked | rejected | needsInformation
deriving DecidableEq, Repr

def WorkflowState.value : WorkflowState → String
  | .received => "RECEIVED"
  | .normalized => "NORMALIZED"
  | .duplicate => "DUPLICATE"
  | .classificationPending => "CLASSIFICATION_PENDING"
  | .evidencePending => "EVIDENCE_PENDING"
  | .reviewPending => "REVIEW_PENDING"
  | .approved => "APPROVED"
  | .ledgerCommitted => "LEDGER_COMMITTED"
  | .receiptDrafted => "RECEIPT_DRAFTED"
  | .publicationPending => "PUBLICATION_PENDING"
  | .published => "PUBLISHED"
  | .notificationPending => "NOTIFICATION_PENDING"
  | .delivered => "DELIVERED"
  | .blocked => "BLOCKED"
  | .rejected => "REJECTED"
  | .needsInformation => "NEEDS_INFORMATION"

/-- The scheduler's axis. -/
inductive WorkflowRunStatus where
  | pending | running | waitingSignal | retryScheduled | completed | failedTerminal | deadLetter
  | cancelled
deriving DecidableEq, Repr

def WorkflowRunStatus.value : WorkflowRunStatus → String
  | .pending => "PENDING"
  | .running => "RUNNING"
  | .waitingSignal => "WAITING_SIGNAL"
  | .retryScheduled => "RETRY_SCHEDULED"
  | .completed => "COMPLETED"
  | .failedTerminal => "FAILED_TERMINAL"
  | .deadLetter => "DEAD_LETTER"
  | .cancelled => "CANCELLED"

/-- `CLAIMABLE_RUN_STATUSES`; a RUNNING instance is claimable when its lease has expired. -/
def claimableRunStatuses : List WorkflowRunStatus := [.pending, .retryScheduled]

def terminalRunStatuses : List WorkflowRunStatus :=
  [.completed, .failedTerminal, .deadLetter, .cancelled]

inductive WorkflowType where
  | expenseToReceipt | correction | scheduledDigest
deriving DecidableEq, Repr

inductive SignalType where
  | approval | resubmit | unblock | cancel
deriving DecidableEq, Repr

inductive SignalConsumeResult where
  | accepted | rejectedInvalid | failedTerminal
deriving DecidableEq, Repr

def SignalConsumeResult.value : SignalConsumeResult → String
  | .accepted => "ACCEPTED"
  | .rejectedInvalid => "REJECTED_INVALID"
  | .failedTerminal => "FAILED_TERMINAL"

inductive WorkflowEventType where
  | created | stateChanged | proposal | signalReceived | signalConsumed | execution | approval
  | retryScheduled | approvalTimeout | deadLettered | error
deriving DecidableEq, Repr

/-! ## What a gate waits for -/

/-- The snapshot stored at wait time: the command to run once it is approved. -/
structure FrozenProposedCommand where
  tenantId : Id
  payload : Payload
  idempotencyKey : String
  expiresAt : Option String
  requiredAuthority : String := "L3"
  proposalId : Id
  agentName : String
deriving DecidableEq, Repr

/-- `context["wait"]`. -/
structure Wait where
  commandIdempotencyKey : Option String := none
  frozenCommand : Option FrozenProposedCommand := none
  proposalId : Option Id := none
deriving DecidableEq, Repr

/-- `wait.get("command_idempotency_key") or frozen_command.get("idempotency_key")`. -/
def Wait.key (w : Wait) : Option String :=
  orElse w.commandIdempotencyKey (w.frozenCommand.map (·.idempotencyKey))

/-- `wait_descriptor`: what the operator's views show of a wait. -/
structure WaitDescriptor where
  signalType : String := "APPROVAL"
  commandIdempotencyKey : Option String := none
  proposalId : Option Id := none
  reason : Option String := none
  priorCommandIdempotencyKey : Option String := none
  priorProposalId : Option Id := none
deriving DecidableEq, Repr

/-! ## The context of an instance -/

/-- A row as the caller hands it in, each value by its text. -/
structure ExpenseRow where
  externalSourceId : Option String := none
  /-- The key `externalSourceId`, which is read where the other one is missing. -/
  externalSourceIdCamel : Option String := none
  id : Option String := none
  vendor : Option String := none
  amount : Option String := none
  currency : Option String := none
  purchaseDate : Option String := none
  category : Option String := none
  description : Option String := none
  allocationId : Option Id := none
  proposedAllocationId : Option Id := none
  evidence : EvidenceField := .items []
deriving DecidableEq, Repr

structure PublishSpec where
  donorId : Option Id := none
  donationId : Option Id := none
  allocationId : Option Id := none
  attributionMethod : Option String := none
  attributedAmount : Option Decimal.Amount := none
  createdAt : Option String := none
  actor : Option String := none
deriving DecidableEq, Repr

/-- What the steps read of a tenant's policy. -/
structure TenantPolicy where
  version : String := "v1.0"
  confidenceBlockBelow : PyFloat := ⟨3 / 4, "0.75"⟩
  sufficientKinds : List String := ["invoice", "receipt", "accounting_ref"]
  requireDonorVisible : Bool := true
deriving DecidableEq, Repr

structure EvidenceFlags where
  contradictory : Bool := false
  expired : Bool := false
  redactionRequired : Bool := false
deriving DecidableEq, Repr

/-- The projection a finance reviewer is shown. -/
structure FinanceReviewPacket where
  packetId : Id
  tenantId : Id
  expenseId : Id
  vendor : String
  amount : String
  currency : String
  purchaseDate : String
  category : String
  description : String
  proposedAllocationId : Option Id
  evidenceSufficiency : String
  evidenceSummaries : List String
  classifierConfidence : Option PyFloat
  warnings : List String
  contradictions : List String
  workflowState : String
  policyVersion : String
  createdAt : String
deriving DecidableEq, Repr

structure WorkflowContext where
  policy : TenantPolicy := {}
  expenseRow : ExpenseRow := {}
  publishSpec : Option PublishSpec := none
  sendEmail : Bool := false
  evidenceFlags : EvidenceFlags := {}
  expenseId : Option Id := none
  allocationId : Option Id := none
  evidenceSufficiency : Option String := none
  packet : Option FinanceReviewPacket := none
  proposalId : Option Id := none
  emailPreview : Option EmailPreview := none
  wait : Option Wait := none
  waitExpired : Bool := false
  expiredWait : Option Wait := none
  /-- corrections -/
  correctionKind : String := "REVERSE"
  reason : String := ""
  replacement : Option ReplacementRow := none
  splits : List SplitItem := []
  /-- scheduled digests -/
  requireApproval : Bool := false
  periodKey : Option String := none
  digestApprovedBy : Option String := none
deriving DecidableEq

/-! ## Instances, events and signals -/

/-- The cursor of one business workflow. -/
structure WorkflowInstance where
  workflowId : Id
  tenantId : Id
  workflowType : WorkflowType
  businessKey : String
  workflowState : WorkflowState
  runStatus : WorkflowRunStatus
  context : WorkflowContext := {}
  simulation : Bool := false
  attemptCount : Nat := 0
  nextRunAt : Option String := none
  waitDeadline : Option String := none
  waitDescriptor : Option WaitDescriptor := none
  leaseOwner : Option String := none
  leaseExpiresAt : Option String := none
  lastError : Option String := none
  timeoutAppliedAt : Option String := none
  createdAt : String
  updatedAt : String
  policyVersion : String := "v1.0"
  eventSeq : Nat := 0
deriving DecidableEq

namespace WorkflowInstance

/-- `touch(now)`. -/
def touch (inst : WorkflowInstance) (now : String) : WorkflowInstance :=
  { inst with updatedAt := now }

def releaseLease (inst : WorkflowInstance) : WorkflowInstance :=
  { inst with leaseOwner := none, leaseExpiresAt := none }

end WorkflowInstance

/-- An event to append; its number is assigned by the store. -/
structure WorkflowEventWrite where
  eventType : WorkflowEventType
  payload : Json

structure WorkflowEvent where
  eventId : String
  workflowId : Id
  tenantId : Id
  seq : Nat
  eventType : WorkflowEventType
  payload : Json
  «at» : String

/-- `to_jsonable(approval)`, or the fields an operator sent. -/
inductive SignalPayload where
  | approval (receipt : ApprovalReceipt)
  | fields (fields : List (String × Json))

structure WorkflowSignal where
  signalId : Id
  workflowId : Id
  tenantId : Id
  signalType : SignalType
  payload : SignalPayload
  createdAt : String
  consumed : Bool := false
  consumeResult : Option String := none

namespace WorkflowSignal

/-- The approval a signal carries. -/
def approvalReceipt (s : WorkflowSignal) : Option ApprovalReceipt :=
  if s.signalType ≠ .approval then none
  else
    match s.payload with
    | .approval receipt => some receipt
    | .fields _ => none

/-- The signal, marked. -/
def consume (result : String) (s : WorkflowSignal) : WorkflowSignal :=
  { s with consumed := true, consumeResult := some result }

end WorkflowSignal

/-- What one advance commits at once. -/
structure AdvanceCommitBundle where
  instance_ : WorkflowInstance
  events : List WorkflowEventWrite := []
  executionReceipts : List ExecutionReceipt := []
  consumeSignals : List (Id × SignalConsumeResult) := []

namespace AdvanceCommitBundle

def tenantId (b : AdvanceCommitBundle) : Id := b.instance_.tenantId

def workflowId (b : AdvanceCommitBundle) : Id := b.instance_.workflowId

end AdvanceCommitBundle

end ImpactRelay
