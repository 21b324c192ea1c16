/-
# `Agents.Types` — commands, approvals and execution receipts

The governance records of `agents/types.py`.  A command's payload is a
dictionary in the source; here it is one record for each command type, with a
field for each key its handler reads.  A field is an `Option` where the key may
be missing: `payload["k"]` then raises `KeyError` and `payload.get("k")` is
`None`.  The hash of an execution's output is read by nothing and left out.
-/
import ImpactRelay.Domain.Types

namespace ImpactRelay

/-- Agent capability ceiling. -/
inductive AuthorityLevel where
  | l0Observe | l1Propose | l2Reversible | l3HumanApproval
deriving DecidableEq, Repr

def AuthorityLevel.value : AuthorityLevel → String
  | .l0Observe => "L0"
  | .l1Propose => "L1"
  | .l2Reversible => "L2"
  | .l3HumanApproval => "L3"

/-- Consequential command types that always require a human `ApprovalReceipt`. -/
def l3CommandTypes : List String := [
  "approve_expense", "reject_expense", "publish_use_of_funds_receipt", "send_notification",
  "publish_public_evidence", "change_attribution_policy", "correct_published_amount",
  "reverse_expense", "supersede_expense"]

/-! ## Payloads -/

/-- An item of `row["evidence"]`: a mapping, or a value that has no `get`. -/
inductive EvidenceItem where
  | mapping (id : Option KeyValue) (kind summary : Option String) (donorVisible : Bool)
  | other (typeName : String)
deriving DecidableEq, Repr

/-- `row.get("evidence") or []`. -/
inductive EvidenceField where
  | items (items : List EvidenceItem)
  | notIterable (typeName : String)
deriving DecidableEq, Repr

/-- A normalized expense row. -/
structure NormalizedRow where
  externalSourceId : Option String
  expenseId : Option Id := none
  vendor : Option String
  amount : Option Decimal.Amount
  currency : Option String := none
  purchaseDate : Option String
  category : Option String := none
  description : Option String := none
  evidence : EvidenceField := .items []
deriving DecidableEq, Repr

structure AllocatePayload where
  expenseId : Option Id
  allocationId : Option Id
  amount : Option Decimal.Amount := none
deriving DecidableEq, Repr

structure ApprovePayload where
  expenseId : Option Id
  approvedBy : Option String := none
deriving DecidableEq, Repr

structure RejectPayload where
  expenseId : Option Id
deriving DecidableEq, Repr

structure PublishPayload where
  donorId : Option Id
  donationId : Option Id
  expenseId : Option Id
  allocationId : Option Id
  attributionMethod : Option String
  attributedAmount : Option Decimal.Amount
  actor : Option String := none
  approvedBy : Option String := none
  createdAt : Option String := none
deriving DecidableEq, Repr

structure SendPayload where
  previewId : Option Id
  receiptId : Option Id
  contentHash : Option String
  receiptHash : Option String
  approvedBy : Option String := none
deriving DecidableEq, Repr

structure ReversePayload where
  expenseId : Option Id
  reason : Option String
  actor : Option String := none
  approvedBy : Option String := none
deriving DecidableEq, Repr

/-- The `replacement` mapping of a supersession. -/
structure ReplacementRow where
  id : Option KeyValue := none
  expenseId : Option KeyValue := none
  vendor : Option String
  amount : Option Decimal.Amount
  currency : Option String := none
  purchaseDate : Option String
  category : Option String := none
  description : Option String := none
  externalSourceId : Option KeyValue := none
deriving DecidableEq, Repr

/-- An entry of `payload["splits"]`. -/
inductive SplitItem where
  | pair (allocationId : Id) (amount : Decimal.Amount)
  | mapping (allocationId : Option Id) (amount : Option Decimal.Amount)
  | other (text : String)
deriving DecidableEq, Repr

structure SupersedePayload where
  expenseId : Option Id
  reason : Option String
  replacement : Option ReplacementRow
  splits : List SplitItem
  actor : Option String := none
  approvedBy : Option String := none
deriving DecidableEq, Repr

/-- The external id that the replacement is given. -/
def SupersedePayload.externalSourceId (p : SupersedePayload) : Option KeyValue :=
  p.replacement.bind (·.externalSourceId)

/-- A payload with the command type it belongs to. -/
inductive Payload where
  | importNormalizedExpense (expense : Option NormalizedRow)
  | allocateExpense (p : AllocatePayload)
  | approveExpense (p : ApprovePayload)
  | rejectExpense (p : RejectPayload)
  | publishUseOfFundsReceipt (p : PublishPayload)
  | sendNotification (p : SendPayload)
  | reverseExpense (p : ReversePayload)
  | supersedeExpense (p : SupersedePayload)
  | unsupported (commandType : String)
deriving DecidableEq, Repr

def Payload.commandType : Payload → String
  | .importNormalizedExpense _ => "import_normalized_expense"
  | .allocateExpense _ => "allocate_expense"
  | .approveExpense _ => "approve_expense"
  | .rejectExpense _ => "reject_expense"
  | .publishUseOfFundsReceipt _ => "publish_use_of_funds_receipt"
  | .sendNotification _ => "send_notification"
  | .reverseExpense _ => "reverse_expense"
  | .supersedeExpense _ => "supersede_expense"
  | .unsupported commandType => commandType

/-! ## Records -/

/-- A bounded action an agent proposes or a human authorizes. -/
structure AgentCommand where
  tenantId : Id
  payload : Payload
  requiredAuthority : AuthorityLevel := .l1Propose
  idempotencyKey : String
  expiresAt : Option String := none
deriving DecidableEq, Repr

def AgentCommand.commandType (c : AgentCommand) : String := c.payload.commandType

inductive Decision where
  | approve | reject | requestInformation | edit
deriving DecidableEq, Repr

def Decision.value : Decision → String
  | .approve => "APPROVE"
  | .reject => "REJECT"
  | .requestInformation => "REQUEST_INFORMATION"
  | .edit => "EDIT"

/-- An authenticated human decision; the constructor refuses an empty approver. -/
structure ApprovalReceipt where
  approvalId : Id
  tenantId : Id
  proposalId : Id
  commandIdempotencyKey : String
  decision : Decision
  approverId : String
  approverRole : String := "finance"
  approvedAt : String := ""
  rationale : String := ""
  policyVersion : String := "v1.0"
  named : approverId ≠ "" := by decide
deriving DecidableEq, Repr

/-- A float of a proposal, by its exact value and its text. -/
structure PyFloat where
  value : Rat
  text : String
deriving DecidableEq, Repr

/-- What the executor reads of an agent's proposal. -/
structure AgentProposal where
  proposalId : Id
  agentName : String
  confidence : Option PyFloat
  contradictions : List String := []
  expiresAt : String
deriving DecidableEq, Repr

inductive ExecutionStatus where
  | succeeded | failed | skipped | simulated
deriving DecidableEq, Repr

structure ExecutionReceipt where
  executionId : Id
  tenantId : Id
  commandType : String
  idempotencyKey : String
  status : ExecutionStatus
  outputRefs : List Id
  executedAt : String
  simulated : Bool := false
  error : Option String := none
  approvalId : Option Id := none
deriving DecidableEq, Repr

end ImpactRelay
