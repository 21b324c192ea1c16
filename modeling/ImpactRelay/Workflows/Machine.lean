/-
# `Workflows.Machine` — the gates and the transition tables

Which business states wait for a human, which run status a state is entered
with, and which moves each workflow's table allows (`workflows/machine.py`).
-/
import ImpactRelay.Workflows.Types

namespace ImpactRelay

def workflowError (name msg : String) : PyExc := ⟨.other "impact_relay.workflows.exceptions" name, msg⟩

def workflowNotFoundError (workflowId : Id) : PyExc :=
  workflowError "WorkflowNotFoundError" workflowId

def workflowStateError (msg : String) : PyExc := workflowError "WorkflowStateError" msg

def workflowConflictError (msg : String) : PyExc := workflowError "WorkflowConflictError" msg

def humanGateStates : List WorkflowState :=
  [.reviewPending, .publicationPending, .notificationPending]

/-- The run status of a business state when it is entered. -/
def defaultRunStatus : WorkflowState → WorkflowRunStatus
  | .reviewPending | .publicationPending | .notificationPending | .blocked | .needsInformation =>
      .waitingSignal
  | .delivered | .duplicate => .completed
  | .rejected => .failedTerminal
  | .approved => .running
  | .received | .normalized | .evidencePending | .classificationPending | .ledgerCommitted
  | .receiptDrafted | .published => .pending

/-- `EXPENSE_TO_RECEIPT_TRANSITIONS`: evidence before classification. -/
def expenseToReceiptTransitions : WorkflowState → List WorkflowState
  | .received => [.normalized, .blocked, .duplicate]
  | .normalized => [.evidencePending, .duplicate, .blocked]
  | .evidencePending => [.classificationPending, .blocked, .needsInformation]
  | .classificationPending => [.reviewPending, .needsInformation, .blocked]
  | .reviewPending => [.ledgerCommitted, .rejected, .needsInformation, .blocked]
  | .ledgerCommitted => [.publicationPending, .receiptDrafted, .published]
  | .receiptDrafted => [.publicationPending, .published]
  | .publicationPending => [.published, .rejected, .needsInformation, .blocked]
  | .published => [.notificationPending, .delivered]
  | .notificationPending => [.delivered, .needsInformation, .blocked, .rejected]
  | .blocked => [.evidencePending, .reviewPending, .needsInformation]
  | .needsInformation =>
      [.evidencePending, .classificationPending, .reviewPending, .publicationPending,
        .notificationPending]
  | .approved => [.ledgerCommitted, .rejected]
  | .delivered | .rejected | .duplicate => []

/-- `DIGEST_TRANSITIONS`: assemble, privacy gate, optional acknowledgement, complete. -/
def digestTransitions : WorkflowState → List WorkflowState
  | .received => [.published, .publicationPending, .blocked]
  | .publicationPending => [.published, .rejected, .needsInformation, .blocked]
  | .published => [.delivered]
  | .needsInformation => [.received, .publicationPending]
  | _ => []

/-- `CORRECTION_TRANSITIONS`. -/
def correctionTransitions : WorkflowState → List WorkflowState
  | .received => [.reviewPending, .blocked, .needsInformation]
  | .reviewPending => [.ledgerCommitted, .rejected, .needsInformation, .blocked]
  | .ledgerCommitted => [.delivered]
  | .blocked => [.received, .reviewPending, .needsInformation]
  | .needsInformation => [.received, .reviewPending]
  | _ => []

/-- A move of the table, or staying. -/
def canTransition (table : WorkflowState → List WorkflowState) (current nxt : WorkflowState) : Bool :=
  current = nxt || nxt ∈ table current

def assertTransition (table : WorkflowState → List WorkflowState) (current nxt : WorkflowState) :
    Except PyExc Unit :=
  if canTransition table current nxt then .ok ()
  else .error (workflowStateError s!"illegal workflow transition {current.value} → {nxt.value}")

end ImpactRelay
