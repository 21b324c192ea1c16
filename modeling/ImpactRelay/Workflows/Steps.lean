/-
# `Workflows.Steps` — what the agents propose at each step

The step handlers of `workflows/expense_to_receipt.py` and
`workflows/corrections.py`, with the agents of `agents/expense_workflow.py` they
ask.  A step looks at what it is given and proposes: the next state, commands to
execute at once, or a frozen command to wait with.  Nothing here touches the
ledger.
-/
import ImpactRelay.Agents.Executor
import ImpactRelay.Workflows.Commands

namespace ImpactRelay

open LedgerCommandExecutor (need)

/-- What one advance takes from outside. -/
structure Surroundings where
  /-- `clock.now()` of the runtime -/
  clock : Datetime
  /-- `datetime.now(UTC)`, which agents and stores read -/
  utc : Datetime
  host : Host
  /-- what the executions of the advance take from outside, one after the other -/
  execution : Nat → Outside
  /-- what assembling the public digests gives: `updatedAt` -/
  digest : Except PyExc (Option String) := .ok none

namespace Surroundings

/-- `clock.now_iso()`. -/
def clockIso (x : Surroundings) : String := x.clock.truncate.isoformat

/-- `utc_now_iso()`. -/
def utcNow (x : Surroundings) : String := x.utc.truncate.isoformat

/-- `_expires(hours)`. -/
def expires (x : Surroundings) (hours : Nat) : String :=
  (x.utc.truncate.addSeconds (3600 * hours)).isoformat

end Surroundings

structure ExecutableCommand where
  command : AgentCommand
  agentName : String
  proposal : AgentProposal

structure StepResult where
  nextState : WorkflowState
  runStatus : WorkflowRunStatus
  events : List WorkflowEventWrite := []
  commandsToExecute : List ExecutableCommand := []
  wait : Option Wait := none
  waitDeadline : Option String := none

def stateChanged (nxt : WorkflowState) (more : List (String × Json) := []) : WorkflowEventWrite :=
  ⟨.stateChanged, .obj (("to", .str nxt.value) :: more)⟩

/-- `command_idempotency_key`, `frozen_command` and `proposal_id` of a wait. -/
def waitFor (frozen : FrozenProposedCommand) : Wait where
  commandIdempotencyKey := some frozen.idempotencyKey
  frozenCommand := some frozen
  proposalId := some frozen.proposalId

/-! ## Intake -/

/-- `normalize_expense_row`. -/
def normalizeExpenseRow (row : ExpenseRow) : Except PyExc NormalizedRow := do
  let ext ← match orElse (orElse (orElse row.externalSourceId row.externalSourceIdCamel) row.id) none with
    | some ext => Except.ok ext
    | none => .error ⟨.valueError, "expense row missing external_source_id"⟩
  let vendor ← need "vendor" row.vendor
  let amount ← need "amount" row.amount
  let purchaseDate ← need "purchase_date" row.purchaseDate
  match row.evidence with
  | .notIterable typeName => .error ⟨.typeError, s!"'{typeName}' object is not iterable"⟩
  | .items items =>
      return {
        externalSourceId := some ext, vendor := some vendor,
        amount := some (Decimal.ofText amount), currency := some (row.currency.getD "USD"),
        purchaseDate := some purchaseDate, category := some (row.category.getD "UNCLASSIFIED"),
        description := some (row.description.getD ""), evidence := .items items }

/-- The key of a normalized import. -/
def importKey [Digest] (tenantId : Id) (row : ExpenseRow) (ext : Option String) : String :=
  stableHash (.obj [
    ("external_source_id", .ofOption ext), ("tenant_id", .str tenantId),
    ("amount", .ofOption row.amount), ("purchase_date", .ofOption row.purchaseDate)])

/-- RECEIVED → NORMALIZED (or BLOCKED), with the command that imports the row. -/
def stepIntake [Digest] (x : Surroundings) (tenantId : Id) (row : ExpenseRow)
    (current : WorkflowState) : Except PyExc StepResult := do
  let expense ← normalizeExpenseRow row
  let command : AgentCommand := {
    tenantId, payload := .importNormalizedExpense (some expense),
    requiredAuthority := .l2Reversible, expiresAt := some (x.expires 24)
    idempotencyKey := "import:" ++ importKey tenantId row expense.externalSourceId }
  let proposal : AgentProposal := {
    proposalId := x.host.newId "prop" 0, agentName := "expense_intake",
    confidence := some ⟨1, "1.0"⟩, expiresAt := x.expires 24 }
  if proposal.expiresAt < x.utcNow then
    assertTransition expenseToReceiptTransitions current .blocked
    return {
      nextState := .blocked, runStatus := defaultRunStatus .blocked
      events := [stateChanged .blocked [("reason", .str "intake_validation_failed")]] }
  else
    assertTransition expenseToReceiptTransitions current .normalized
    return {
      nextState := .normalized, runStatus := defaultRunStatus .normalized
      commandsToExecute := [⟨command, "expense_intake", proposal⟩]
      events := [
        ⟨.proposal, .obj [("agent", .str "expense_intake"),
          ("proposal_id", .str proposal.proposalId)]⟩,
        stateChanged .normalized] }

/-! ## Evidence -/

inductive EvidenceSufficiency where
  | missing | partly | sufficient | contradictory | expired | redactionRequired
deriving DecidableEq, Repr

def EvidenceSufficiency.value : EvidenceSufficiency → String
  | .missing => "MISSING"
  | .partly => "PARTIAL"
  | .sufficient => "SUFFICIENT"
  | .contradictory => "CONTRADICTORY"
  | .expired => "EXPIRED"
  | .redactionRequired => "REDACTION_REQUIRED"

/-- An evidence item that is a mapping. -/
structure EvidenceMapping where
  id : Option KeyValue
  kind : Option String
  summary : Option String
  donorVisible : Bool

/-- The items as mappings; every reader raises on the first that is none. -/
def evidenceMappings : List EvidenceItem → Except PyExc (List EvidenceMapping)
  | [] => .ok []
  | .other typeName :: _ =>
      .error ⟨.attributeError, s!"'{typeName}' object has no attribute 'get'"⟩
  | .mapping id kind summary donorVisible :: items =>
      (evidenceMappings items).map (⟨id, kind, summary, donorVisible⟩ :: ·)

def defaultSufficientKinds : List String := ["invoice", "receipt", "accounting_ref"]

/-- `EvidenceValidatorAgent.assess`. -/
def assess (items : List EvidenceMapping) (flags : EvidenceFlags) (sufficientKinds : List String)
    (requireDonorVisible : Bool) : EvidenceSufficiency :=
  if flags.contradictory then .contradictory
  else if flags.expired then .expired
  else if flags.redactionRequired then .redactionRequired
  else if items.isEmpty then .missing
  else
    let kindsOk := if sufficientKinds.isEmpty then defaultSufficientKinds else sufficientKinds
    let scan := if requireDonorVisible then items.filter (·.donorVisible) else items
    if scan.isEmpty then .partly
    else if kindsOk.any fun k => scan.any fun e => e.kind = some k then .sufficient
    else .partly

/-- The agent assesses again, with the flags but without the policy, and what it
finds wrong counts. -/
def sufficiencyOf (items : List EvidenceMapping) (flags : EvidenceFlags) (policy : TenantPolicy) :
    EvidenceSufficiency × Bool :=
  let first := assess items flags policy.sufficientKinds policy.requireDonorVisible
  let flags := if first = .contradictory then { flags with contradictory := true } else flags
  let second := assess items flags [] true
  (if second = .sufficient then first else second, second ≠ .contradictory)

/-- A move out of NORMALIZED goes by way of EVIDENCE_PENDING. -/
def assertEvidenceMove (current nxt : WorkflowState) : Except PyExc Unit :=
  if current = .normalized then do
    assertTransition expenseToReceiptTransitions current .evidencePending
    assertTransition expenseToReceiptTransitions .evidencePending nxt
  else assertTransition expenseToReceiptTransitions current nxt

/-- NORMALIZED → CLASSIFICATION_PENDING | BLOCKED | NEEDS_INFORMATION. -/
def stepEvidence (items : List EvidenceMapping) (flags : EvidenceFlags) (policy : TenantPolicy)
    (current : WorkflowState) : Except PyExc (StepResult × EvidenceSufficiency) := do
  let (sufficiency, ok) := sufficiencyOf items flags policy
  let nxt : WorkflowState :=
    if !ok || sufficiency ∈ [EvidenceSufficiency.contradictory, .expired] then .blocked
    else if sufficiency ∈ [EvidenceSufficiency.missing, .partly, .redactionRequired] then
      .needsInformation
    else .classificationPending
  assertEvidenceMove current nxt
  return ({
    nextState := nxt, runStatus := defaultRunStatus nxt
    events := [stateChanged nxt [("evidence_sufficiency", .str sufficiency.value)]] }, sufficiency)

/-! ## Classification -/

/-- The confidence the steps classify with. -/
def classifierConfidence : PyFloat := ⟨8286623314361713 / 9007199254740992, "0.92"⟩

/-- The text of an f-string's value. -/
def textOf (o : Option String) : String := o.getD "None"

structure Classification where
  confidence : PyFloat
  warnings : List String
  proposal : AgentProposal
  command : AgentCommand

/-- `AllocationClassifierAgent.evaluate`, with the command as the step hands it on. -/
def classify (x : Surroundings) (tenantId : Id) (expenseId : Id) (allocationId : Option Id)
    (amount : String) : Classification :=
  let found := orElse allocationId none
  let confidence := if found.isSome then classifierConfidence else ⟨0, "0.0"⟩
  {
    confidence
    warnings := if found.isSome then [] else ["no allocation_id available"]
    proposal := {
      proposalId := x.host.newId "prop" 1, agentName := "allocation_classifier"
      confidence := some confidence, expiresAt := x.expires 24 }
    command := {
      tenantId, requiredAuthority := .l2Reversible, expiresAt := some (x.expires 24)
      payload := .allocateExpense {
        expenseId := some expenseId, allocationId, amount := some (Decimal.ofText amount) }
      idempotencyKey := s!"alloc:{expenseId}:{textOf allocationId}:{amount}" } }

/-- CLASSIFICATION_PENDING → REVIEW_PENDING | NEEDS_INFORMATION. -/
def stepClassify (c : Classification) (policy : TenantPolicy) (current : WorkflowState) :
    Except PyExc StepResult := do
  if c.confidence.value < policy.confidenceBlockBelow.value then
    assertTransition expenseToReceiptTransitions current .needsInformation
    return {
      nextState := .needsInformation, runStatus := defaultRunStatus .needsInformation
      events := [stateChanged .needsInformation] }
  else
    assertTransition expenseToReceiptTransitions current .reviewPending
    return {
      nextState := .reviewPending, runStatus := defaultRunStatus .reviewPending
      commandsToExecute := [⟨c.command, "allocation_classifier", c.proposal⟩]
      events := [⟨.proposal, .obj [("agent", .str "allocation_classifier")]⟩,
        stateChanged .reviewPending] }

/-! ## Review -/

/-- The frozen approval of a packet. -/
def frozenApproval (x : Surroundings) (tenantId : Id) (expenseId packetId : Id) :
    FrozenProposedCommand :=
  freezeCommand {
    tenantId, requiredAuthority := .l3HumanApproval, expiresAt := some (x.expires 72)
    payload := .approveExpense { expenseId := some expenseId }
    idempotencyKey := s!"approve:{expenseId}:{packetId}" }
    (x.host.newId "prop" 2) "finance_review"

/-- Park with the frozen approval.  The classifier reports no contradictions, so the
packet is never refused. -/
def stepReview (x : Surroundings) (packet : FinanceReviewPacket) (current : WorkflowState) :
    Except PyExc StepResult := do
  let frozen := frozenApproval x packet.tenantId packet.expenseId packet.packetId
  assertTransition expenseToReceiptTransitions current .reviewPending
  return {
    nextState := .reviewPending, runStatus := .waitingSignal
    wait := some (waitFor frozen)
    waitDeadline := some (x.expires (24 * 7))
    events := [
      ⟨.proposal, .obj [("agent", .str "finance_review"), ("proposal_id", .str frozen.proposalId)]⟩,
      stateChanged .reviewPending [("wait", .str "APPROVAL")]] }

/-! ## Notification -/

/-- `compose_email_from_uof`. -/
def composeEmailFromUof [Digest] (x : Surroundings) (r : UseOfFundsReceipt) : EmailPreview :=
  let templateVersion := "uof_email_v1"
  let subject := s!"How your gift to {r.organizationName} was used — {r.allocationName}"
  let body := "Hello,\n\n" ++
    s!"{r.organizationName} approved an expenditure from {r.allocationName}.\n\n" ++
    s!"What was purchased: {r.description}\nVendor: {r.vendor}\nCategory: {r.category}\n" ++
    s!"Purchase date: {r.purchaseDate}\n" ++
    "Gross amount: " ++ Decimal.toStr r.grossAmount ++ s!" {r.currency}\n" ++
    "Your attributed share: " ++ Decimal.toStr r.attributedAmount ++ s!" {r.currency}\n" ++
    s!"Attribution method: {r.attributionMethod}\nVerification: {r.verificationState}\n" ++
    "Remaining designated balance: " ++ Decimal.toStr r.remainingDesignatedBalance ++
    s!" {r.currency}\n" ++
    (match orElse r.evidenceSummary none with
      | some summary => s!"\nEvidence: {summary}\n"
      | none => "") ++
    s!"\nThis message is a projection of use-of-funds receipt {r.receiptId} (hash " ++
    Text.take 12 r.receiptHash ++
    "…).\nCorrections, if any, will appear as separate receipts.\n"
  {
    previewId := x.host.newId "emprev" 0, tenantId := r.organizationId, receiptId := r.receiptId
    subject, bodyText := body, templateVersion, receiptHash := r.receiptHash
    contentHash := stableHash (.obj [
      ("subject", .str subject), ("body_text", .str body),
      ("facts", .obj ((receiptFacts r).entries.map fun e => (e.1, .str e.2))),
      ("template_version", .str templateVersion), ("receipt_hash", .str r.receiptHash)])
    facts := receiptFacts r, createdAt := x.utcNow }

/-- The frozen send of a preview. -/
def frozenSend (x : Surroundings) (tenantId : Id) (preview : EmailPreview) :
    FrozenProposedCommand :=
  freezeCommand {
    tenantId, requiredAuthority := .l3HumanApproval, expiresAt := some (x.expires 48)
    payload := .sendNotification {
      previewId := some preview.previewId, receiptId := some preview.receiptId
      contentHash := some preview.contentHash, receiptHash := some preview.receiptHash }
    idempotencyKey := "send:" ++ preview.receiptId ++ ":" ++ Text.take 16 preview.contentHash }
    (x.host.newId "prop" 3) "notification_composer"

/-- PUBLISHED → NOTIFICATION_PENDING with the frozen send. -/
def stepComposeSend (x : Surroundings) (tenantId : Id) (preview : EmailPreview)
    (current : WorkflowState) : Except PyExc StepResult := do
  assertTransition expenseToReceiptTransitions current .notificationPending
  return {
    nextState := .notificationPending, runStatus := .waitingSignal
    wait := some (waitFor (frozenSend x tenantId preview))
    waitDeadline := some (x.expires (24 * 7))
    events := [stateChanged .notificationPending [("wait", .str "APPROVAL")]] }

/-! ## Corrections -/

def frozenReverse (x : Surroundings) (tenantId expenseId : Id) (reason : String) :
    FrozenProposedCommand :=
  freezeCommand {
    tenantId, requiredAuthority := .l3HumanApproval, expiresAt := some (x.expires 72)
    payload := .reverseExpense { expenseId := some expenseId, reason := some reason }
    idempotencyKey := s!"reverse:{expenseId}:" ++ Text.take 48 reason }
    (x.host.newId "prop_corr" 0) "CorrectionWorkflow"

def frozenSupersede (x : Surroundings) (tenantId expenseId : Id) (reason : String)
    (replacement : ReplacementRow) (splits : List SplitItem) : FrozenProposedCommand :=
  freezeCommand {
    tenantId, requiredAuthority := .l3HumanApproval, expiresAt := some (x.expires 72)
    payload := .supersedeExpense {
      expenseId := some expenseId, reason := some reason, replacement := some replacement, splits }
    idempotencyKey := s!"supersede:{expenseId}:" ++
      (KeyValue.firstOf replacement.id replacement.expenseId "new").str }
    (x.host.newId "prop_corr" 0) "CorrectionWorkflow"

/-- A replacement that is there and not empty. -/
def givenReplacement (replacement : Option ReplacementRow) : Option ReplacementRow :=
  replacement.filter fun row => row ≠ { vendor := none, amount := none, purchaseDate := none }

/-- The frozen command of a correction, or the step that says why there is none. -/
def correctionCommand (x : Surroundings) (tenantId : Id) (kind : String) (expenseId : Id)
    (reason : String) (replacement : Option ReplacementRow) (splits : List SplitItem) :
    FrozenProposedCommand ⊕ StepResult :=
  if kind = "REVERSE" then .inl (frozenReverse x tenantId expenseId reason)
  else if kind = "SUPERSEDE" then
    match givenReplacement replacement, splits with
    | some row, _ :: _ => .inl (frozenSupersede x tenantId expenseId reason row splits)
    | _, _ => .inr {
        nextState := .needsInformation, runStatus := .waitingSignal
        events := [⟨.error, .obj [("error", .str "supersede_requires_replacement_and_splits")]⟩] }
  else .inr {
    nextState := .blocked, runStatus := .failedTerminal
    events := [⟨.error, .obj [("error", .str s!"unknown_correction_kind:{kind}")]⟩] }

/-- RECEIVED → REVIEW_PENDING with the frozen correction. -/
def stepProposeCorrection (x : Surroundings) (tenantId : Id) (kind : String) (expenseId : Id)
    (reason : String) (replacement : Option ReplacementRow) (splits : List SplitItem)
    (current : WorkflowState) : Except PyExc StepResult := do
  assertTransition correctionTransitions current .reviewPending
  match correctionCommand x tenantId kind expenseId reason replacement splits with
  | .inr result => return result
  | .inl frozen =>
      return {
        nextState := .reviewPending, runStatus := .waitingSignal
        wait := some (waitFor frozen)
        waitDeadline := some (x.expires 168)
        events := [
          ⟨.proposal, .obj [("proposal_id", .str frozen.proposalId),
            ("command_type", .str frozen.payload.commandType), ("expense_id", .str expenseId),
            ("kind", .str kind)]⟩,
          stateChanged .reviewPending] }

/-- The ledger's correction has emitted its receipts already. -/
def stepAfterLedgerCorrection (current : WorkflowState) : Except PyExc StepResult := do
  assertTransition correctionTransitions current .delivered
  return {
    nextState := .delivered, runStatus := .completed, events := [stateChanged .delivered] }

end ImpactRelay
