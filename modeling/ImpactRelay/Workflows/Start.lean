/-
# `Workflows.Start` — how workflows and signals come about

The entry points of `WorkflowRuntime` (`workflows/runtime.py`): the instances the
three `start_*` methods create, and the signals `signal_approval` and
`signal_operator` enqueue.
-/
import ImpactRelay.Workflows.Steps

namespace ImpactRelay

/-- The arguments of `start_expense_to_receipt`; the slice façade sets the flags of the
new instance at once. -/
structure ExpenseRequest where
  tenantId : Id
  expenseRow : ExpenseRow
  publishSpec : Option PublishSpec := none
  sendEmail : Bool := false
  simulation : Bool := false
  policy : TenantPolicy := {}
  businessKey : Option String := none
  preImportedExpenseId : Option Id := none
  evidenceFlags : EvidenceFlags := {}

/-- The arguments of `start_correction`. -/
structure CorrectionRequest where
  tenantId : Id
  expenseId : Id
  kind : String := "REVERSE"
  reason : String
  replacement : Option ReplacementRow := none
  splits : List SplitItem := []
  simulation : Bool := false
  policy : TenantPolicy := {}
  businessKey : Option String := none

/-- The arguments of `start_scheduled_digest`. -/
structure DigestRequest where
  tenantId : Id
  periodKey : Option String := none
  requireApproval : Bool := false
  nextRunAt : Option String := none
  simulation : Bool := false
  policy : TenantPolicy := {}
  businessKey : Option String := none

inductive StartRequest where
  | expense (r : ExpenseRequest)
  | correction (r : CorrectionRequest)
  | digest (r : DigestRequest)

namespace WorkflowRuntime

variable (x : Surroundings)

def startExpenseToReceipt (r : ExpenseRequest) : WorkflowInstance where
  workflowId := x.host.newId "wf" 0
  tenantId := r.tenantId
  workflowType := .expenseToReceipt
  businessKey := truthyOr r.businessKey
    (truthyOr (orElse r.expenseRow.externalSourceId r.expenseRow.id) (x.host.newId "bk" 0))
  workflowState := if (orElse r.preImportedExpenseId none).isSome then .normalized else .received
  runStatus := .pending
  context := {
    policy := r.policy, expenseRow := r.expenseRow, publishSpec := r.publishSpec,
    sendEmail := r.sendEmail, evidenceFlags := r.evidenceFlags,
    expenseId := orElse r.preImportedExpenseId none }
  simulation := r.simulation
  nextRunAt := some x.clockIso
  createdAt := x.clockIso
  updatedAt := x.clockIso
  policyVersion := r.policy.version

def startCorrection (r : CorrectionRequest) : Except PyExc WorkflowInstance :=
  let kind := Text.upper r.kind
  if kind ≠ "REVERSE" ∧ kind ≠ "SUPERSEDE" then
    .error (workflowStateError s!"unknown correction kind: {r.kind}")
  else .ok {
    workflowId := x.host.newId "wf_corr" 0
    tenantId := r.tenantId
    workflowType := .correction
    businessKey := truthyOr r.businessKey ("corr:" ++ Text.lower kind ++ ":" ++ r.expenseId)
    workflowState := .received
    runStatus := .pending
    context := {
      policy := r.policy, correctionKind := kind, expenseId := some r.expenseId,
      reason := r.reason, replacement := r.replacement, splits := r.splits }
    simulation := r.simulation
    nextRunAt := some x.clockIso
    createdAt := x.clockIso
    updatedAt := x.clockIso
    policyVersion := r.policy.version }

def startScheduledDigest (r : DigestRequest) : WorkflowInstance :=
  let periodKey := truthyOr r.periodKey (Text.take 10 x.clockIso)
  {
    workflowId := x.host.newId "wf_dig" 0
    tenantId := r.tenantId
    workflowType := .scheduledDigest
    businessKey := truthyOr r.businessKey ("digest:" ++ periodKey)
    workflowState := .received
    runStatus := .pending
    context := {
      policy := r.policy, requireApproval := r.requireApproval, periodKey := some periodKey }
    simulation := r.simulation
    nextRunAt := some (r.nextRunAt.getD x.clockIso)
    createdAt := x.clockIso
    updatedAt := x.clockIso
    policyVersion := r.policy.version }

/-- The instance a start creates. -/
def started : StartRequest → Except PyExc WorkflowInstance
  | .expense r => .ok (startExpenseToReceipt x r)
  | .correction r => startCorrection x r
  | .digest r => .ok (startScheduledDigest x r)

/-- The CREATED event of a new instance. -/
def createdEvent (inst : WorkflowInstance) : WorkflowEventWrite :=
  let key := ("business_key", Json.str inst.businessKey)
  ⟨.created, match inst.workflowType with
    | .expenseToReceipt => .obj [key, ("state", .str inst.workflowState.value)]
    | .correction => .obj [key, ("kind", .str inst.context.correctionKind),
        ("expense_id", .ofOption inst.context.expenseId)]
    | .scheduledDigest => .obj [key, ("period_key", .ofOption inst.context.periodKey),
        ("require_approval", .bool inst.context.requireApproval),
        ("next_run_at", .ofOption inst.nextRunAt)]⟩

/-- The signal of an approval; an agent's is refused. -/
def approvalSignal (tenantId workflowId : Id) (approval : ApprovalReceipt) :
    Except PyExc WorkflowSignal :=
  if isAgentId approval.approverId then
    .error (authorityError "approver_id must be a human operator identity")
  else .ok {
    signalId := x.host.newId "sig" 0, workflowId, tenantId, signalType := .approval
    payload := .approval approval, createdAt := x.clockIso }

/-- The signal of an operator; an unknown type is a RESUBMIT. -/
def operatorSignal (tenantId workflowId : Id) (signalType : Option SignalType)
    (fields : List (String × Json)) : WorkflowSignal where
  signalId := x.host.newId "sig" 0
  workflowId := workflowId
  tenantId := tenantId
  signalType := signalType.getD .resubmit
  payload := .fields fields
  createdAt := x.clockIso

end WorkflowRuntime

end ImpactRelay
