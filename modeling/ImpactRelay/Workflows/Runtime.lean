/-
# `Workflows.Runtime` — one advance of a workflow

`WorkflowRuntime.advance_once` (`workflows/runtime.py`), from the instance the
store gave it to what it hands back to the store.  The signals are those it takes
at a gate; what it executes goes through `execute`, which keeps a list of the
calls.  Keys the runtime writes into a context and never reads back are left out.
-/
import ImpactRelay.Workflows.Exceptions
import ImpactRelay.Workflows.Steps

namespace ImpactRelay

open Raise

/-- One call of `CommandExecutor.execute`. -/
structure Execution where
  command : AgentCommand
  approval : Option ApprovalReceipt
deriving DecidableEq

/-- An advance under way: its executor, and what it has had executed. -/
structure Advance where
  executor : LedgerCommandExecutor
  executed : List Execution := []

abbrev AdvanceM := EStateM PyExc Advance

inductive Write where
  | commit (bundle : AdvanceCommitBundle)
  | update (inst : WorkflowInstance)
  | nothing

/-- What an advance hands to the store: a signal to mark, and then a write. -/
structure Outcome where
  mark : Option Id := none
  write : Write

namespace WorkflowInstance

/-- Waiting for a signal, with no lease. -/
def repark (inst : WorkflowInstance) : WorkflowInstance :=
  { inst.releaseLease with runStatus := .waitingSignal }

/-- `run_status = PENDING`, `next_run_at = clock.now_iso()`. -/
def pendingAt (inst : WorkflowInstance) (nowIso : String) : WorkflowInstance :=
  { inst with runStatus := .pending, nextRunAt := some nowIso }

/-- The wait of a gate is over. -/
def clearWait (inst : WorkflowInstance) : WorkflowInstance :=
  { inst.releaseLease with
    context := { inst.context with wait := none }, waitDescriptor := none, waitDeadline := none }

/-- The instance, waiting with a frozen command. -/
def waitWith (inst : WorkflowInstance) (wait : Wait) (descriptor : WaitDescriptor) :
    WorkflowInstance :=
  { inst with context := { inst.context with wait := some wait }, waitDescriptor := some descriptor }

/-- Whether an advance of the instance takes signals. -/
def takesSignals (inst : WorkflowInstance) : Bool :=
  match inst.workflowType with
  | .expenseToReceipt => inst.workflowState ∈ humanGateStates
  | .correction =>
      inst.runStatus ∉ terminalRunStatuses && decide (inst.workflowState ∈ humanGateStates)
  | .scheduledDigest =>
      inst.runStatus ∉ terminalRunStatuses && decide (inst.workflowState = .publicationPending)

end WorkflowInstance

namespace WorkflowRuntime

/-- `_commit`. -/
def commit (x : Surroundings) (inst : WorkflowInstance) (events : List WorkflowEventWrite := [])
    (receipts : List ExecutionReceipt := []) (consume : List (Id × SignalConsumeResult) := []) :
    Outcome where
  write := .commit {
    instance_ := inst.touch x.clockIso, events, executionReceipts := receipts,
    consumeSignals := consume }

/-! ## Human gates -/

/-- The approvals among the signals that name the key; all of them when there is none. -/
def matching (wantKey : Option String) (signals : List WorkflowSignal) :
    List (WorkflowSignal × ApprovalReceipt) :=
  signals.filterMap fun s => s.approvalReceipt.bind fun ar =>
    if (orElse wantKey none).any (· ≠ ar.commandIdempotencyKey) then none else some (s, ar)

/-- An approval that comes after the timeout. -/
def lateApproval (inst : WorkflowInstance) (signals : List WorkflowSignal) :
    Option (WorkflowSignal × ApprovalReceipt) :=
  (signals.filterMap fun s => s.approvalReceipt.map fun ar => (s, ar)).find? fun e =>
    some e.2.commandIdempotencyKey = inst.context.expiredWait.bind Wait.key ||
      some e.2.commandIdempotencyKey =
        inst.waitDescriptor.bind (·.priorCommandIdempotencyKey) ||
      e.2.decision = .approve

/-- What a gate does with the signals it has taken. -/
inductive GateStep where
  | settle (outcome : Outcome)
  | execute (signal : WorkflowSignal) (approval : ApprovalReceipt) (frozen : FrozenProposedCommand)
    (command : AgentCommand)

/-- The first matching approval, checked and decided on. -/
def processSignal (x : Surroundings) (inst : WorkflowInstance) (signal : WorkflowSignal)
    (approval : ApprovalReceipt) (frozen : FrozenProposedCommand) : GateStep :=
  match authorize frozen approval with
  | .error exc =>
      .settle (commit x { inst with lastError := some exc.msg, runStatus := .waitingSignal }
        [⟨.error, .obj [("error", .str exc.msg)]⟩] [] [(signal.signalId, .rejectedInvalid)])
  | .ok command =>
      match approval.decision with
      | .reject =>
          .settle (commit x { inst with workflowState := .rejected, runStatus := .failedTerminal }
            [⟨.approval, .obj [("decision", .str "REJECT")]⟩] [] [(signal.signalId, .accepted)])
      | .requestInformation | .edit =>
          .settle (commit x
            { inst with workflowState := .needsInformation, runStatus := .waitingSignal }
            [] [] [(signal.signalId, .accepted)])
      | .approve => .execute signal approval frozen command

/-- `_advance_human_gate`, up to the execution. -/
def gateStep (x : Surroundings) (inst : WorkflowInstance) (signals : List WorkflowSignal) : GateStep :=
  if inst.context.waitExpired ∧ inst.context.wait = none then
    match lateApproval inst signals with
    | some (s, ar) =>
        .settle (commit x inst
          [⟨.error, .obj [("error", .str "late_approve_after_timeout"),
            ("key", .str ar.commandIdempotencyKey)]⟩] [] [(s.signalId, .rejectedInvalid)])
    | none => .settle (commit x inst.repark)
  else
    match matching (inst.context.wait.bind Wait.key) signals with
    | [] => .settle (commit x inst.repark)
    -- one advance handles the first matching signal only
    | (signal, approval) :: _ =>
        match inst.context.wait.bind (·.frozenCommand) with
        | none =>
            let outcome := commit x { inst with runStatus := .waitingSignal } [] []
              [(signal.signalId, .rejectedInvalid)]
            .settle { outcome with mark := some signal.signalId }
        | some frozen => processSignal x inst signal approval frozen

/-- The execution raised, or its receipt FAILED: another try, or the end. -/
def afterFailure (x : Surroundings) (inst : WorkflowInstance) (signal : WorkflowSignal) (exc : PyExc)
    (nextRunAt : Nat → String) (error : Option String) : Outcome :=
  if (classifyError exc).retryable then
    let attempt := inst.attemptCount + 1
    commit x { inst with
      attemptCount := attempt, runStatus := .retryScheduled,
      nextRunAt := some (nextRunAt attempt), lastError := error }
  else
    commit x { inst with lastError := error, runStatus := .failedTerminal } [] []
      [(signal.signalId, .failedTerminal)]

/-- Where a workflow goes on from a gate whose command succeeded. -/
def succeeded (x : Surroundings) (inst : WorkflowInstance) : Payload → WorkflowInstance
  | .approveExpense _ | .reverseExpense _ | .supersedeExpense _ =>
      { inst with workflowState := .ledgerCommitted }.pendingAt x.clockIso
  | .publishUseOfFundsReceipt _ =>
      let published := { inst with workflowState := .published }
      if inst.context.sendEmail then published.pendingAt x.clockIso
      else { published with runStatus := .completed }
  | .sendNotification _ => { inst with workflowState := .delivered, runStatus := .completed }
  | _ => inst.pendingAt x.clockIso

def ExecutionStatus.value : ExecutionStatus → String
  | .succeeded => "SUCCEEDED"
  | .failed => "FAILED"
  | .skipped => "SKIPPED"
  | .simulated => "SIMULATED"

def afterSuccess (x : Surroundings) (inst : WorkflowInstance) (signal : WorkflowSignal)
    (command : AgentCommand) (receipt : ExecutionReceipt) : Outcome :=
  let inst := (succeeded x inst command.payload).clearWait
  commit x inst
    [⟨.execution, .obj [("command_type", .str command.commandType),
        ("status", .str (ExecutionStatus.value receipt.status)),
        ("refs", .arr (receipt.outputRefs.map .str))]⟩,
      stateChanged inst.workflowState]
    [receipt] [(signal.signalId, .accepted)]

variable [Digest] [Json.CharTable]

/-- The one way an advance has a command executed. -/
def execute (o : Outside) (command : AgentCommand) (approval : Option ApprovalReceipt)
    (agentName : String) (proposal : Option AgentProposal) : AdvanceM ExecutionReceipt := do
  modify fun a => { a with executed := a.executed ++ [⟨command, approval⟩] }
  within (·.executor) (fun e a => { a with executor := e })
    (LedgerCommandExecutor.execute o command approval (some agentName) proposal)

/-- `register_preview`, before a send. -/
def registerPreview (preview : EmailPreview) : AdvanceM Unit :=
  modify fun a => { a with
    executor := { a.executor with previews := a.executor.previews.set preview.previewId preview } }

def registerContextPreview (inst : WorkflowInstance) (command : AgentCommand) : AdvanceM Unit :=
  match command.payload, inst.context.emailPreview with
  | .sendNotification _, some preview => registerPreview preview
  | _, _ => pure ()

def executeGate (x : Surroundings) (inst : WorkflowInstance) (signal : WorkflowSignal)
    (approval : ApprovalReceipt) (frozen : FrozenProposedCommand) (command : AgentCommand) :
    AdvanceM Outcome := do
  registerContextPreview inst command
  let result ← attempt (execute (x.execution 0) command (some approval) frozen.agentName none)
  match result with
  | .error exc =>
      return afterFailure x inst signal exc
        (fun attempt => (x.clock.addSeconds (2 ^ attempt)).isoformat) (some exc.msg)
  | .ok receipt =>
      if receipt.status = .failed then
        return afterFailure x inst signal
          ⟨.other "builtins" "Exception", truthyOr receipt.error "failed"⟩
          (fun _ => x.clockIso) receipt.error
      else return afterSuccess x inst signal command receipt

/-- `_advance_human_gate`. -/
def advanceHumanGate (x : Surroundings) (inst : WorkflowInstance) (signals : List WorkflowSignal) :
    AdvanceM Outcome :=
  match gateStep x inst signals with
  | .settle outcome => pure outcome
  | .execute signal approval frozen command => executeGate x inst signal approval frozen command

/-! ## Automatic steps of an expense -/

/-- A receipt goes to the store again, where it is already. -/
def putAgain (receipt : ExecutionReceipt) (e : LedgerCommandExecutor) : LedgerCommandExecutor :=
  if receipt.status = .failed then e
  else { e with receiptStore := e.receiptStore.map (LedgerCommandExecutor.putReceipt receipt) }

/-- `_execute_list`, from the `i`-th execution of the advance on. -/
def executeList (x : Surroundings) : Nat → List ExecutableCommand → AdvanceM (List ExecutionReceipt)
  | _, [] => pure []
  | i, ex :: rest => do
      let receipt ← execute (x.execution i) ex.command none ex.agentName (some ex.proposal)
      modify fun a => { a with executor := putAgain receipt a.executor }
      let more ← executeList x (i + 1) rest
      return receipt :: more

/-- The expense an import led to: the receipt's, or the ledger's of the same source, or a name. -/
def importedId (inst : WorkflowInstance) (ledger : Ledger) (receipts : List ExecutionReceipt) : Id :=
  let row := inst.context.expenseRow
  let found := if inst.simulation then none
    else ledger.expenses.values.find? fun e => e.externalSourceId = row.externalSourceId
  (receipts.head?.bind (·.outputRefs.head?) <|> found.map (·.id)).getD
    ("sim_" ++ row.externalSourceId.getD "x")

def advanceReceived (x : Surroundings) (inst : WorkflowInstance) : AdvanceM Outcome := do
  let step ← okOrRaise (stepIntake x inst.tenantId inst.context.expenseRow .received)
  let receipts ← executeList x 0 step.commandsToExecute
  let a ← get
  let expenseId := importedId inst a.executor.ledger receipts
  let inst := { inst with context := { inst.context with expenseId := some expenseId } }
  if step.nextState = .blocked then
    return commit x { inst with workflowState := .blocked, runStatus := .waitingSignal }
      step.events receipts
  else
    return commit x ({ inst with workflowState := .normalized }.pendingAt x.clockIso)
      step.events receipts

/-- What the steps look at: the ledger's record of the expense, or the row. -/
structure ExpenseFacts where
  amount : String
  vendor : String
  purchaseDate : String
  category : String
  description : String
  currency : String
  evidence : List EvidenceMapping

def ledgerFacts (ledger : Ledger) (expense : Expense) : ExpenseFacts where
  amount := Decimal.toStr expense.amount
  vendor := expense.vendor
  purchaseDate := expense.purchaseDate
  category := expense.category
  description := expense.description
  currency := expense.currency
  evidence := (ledger.evidence.values.filter fun e => e.expenseId = expense.id).map fun e =>
    ⟨some e.id, some e.kind, some e.summary, e.donorVisible⟩

def rowFacts (row : ExpenseRow) : Except PyExc ExpenseFacts := do
  let items ← match row.evidence with
    | .items items => evidenceMappings items
    | .notIterable typeName => .error ⟨.typeError, s!"'{typeName}' object is not iterable"⟩
  return {
    amount := row.amount.getD "", vendor := row.vendor.getD ""
    purchaseDate := row.purchaseDate.getD "", category := row.category.getD ""
    description := row.description.getD "", currency := row.currency.getD "USD", evidence := items }

def expenseFacts (inst : WorkflowInstance) (ledger : Ledger) (expenseId : Id) :
    Except PyExc ExpenseFacts :=
  match ledger.expenses.get? expenseId with
  | some expense =>
      if inst.simulation then rowFacts inst.context.expenseRow else .ok (ledgerFacts ledger expense)
  | none => rowFacts inst.context.expenseRow

def reviewPacket (x : Surroundings) (inst : WorkflowInstance) (expenseId : Id)
    (allocationId : Option Id) (facts : ExpenseFacts) (sufficiency : EvidenceSufficiency)
    (c : Classification) : FinanceReviewPacket where
  packetId := x.host.newId "pkt" 0
  tenantId := inst.tenantId
  expenseId := expenseId
  vendor := facts.vendor
  amount := facts.amount
  currency := facts.currency
  purchaseDate := facts.purchaseDate
  category := facts.category
  description := facts.description
  proposedAllocationId := allocationId
  evidenceSufficiency := sufficiency.value
  evidenceSummaries := facts.evidence.map fun e => e.summary.getD ""
  classifierConfidence := some c.confidence
  warnings := c.warnings
  contradictions := []
  workflowState := WorkflowState.reviewPending.value
  policyVersion := inst.policyVersion
  createdAt := x.utcNow

/-- `row["allocation_id"] or row["proposed_allocation_id"] or` the tenant's first one. -/
def allocationOf (inst : WorkflowInstance) (ledger : Ledger) : Option Id :=
  let row := inst.context.expenseRow
  orElse (orElse row.allocationId row.proposedAllocationId) ledger.allocations.keys.head?

/-- The instance, parked at the review gate. -/
def reviewParked (inst : WorkflowInstance) (packet : FinanceReviewPacket) (review : StepResult)
    (wait : Wait) : WorkflowInstance :=
  let inst := { inst with
    workflowState := .reviewPending, waitDeadline := review.waitDeadline
    context := { inst.context with packet := some packet, proposalId := wait.proposalId } }
  (inst.waitWith wait
    { commandIdempotencyKey := wait.key, proposalId := wait.proposalId }).repark

/-- Evidence, classification and review of an expense in one advance. -/
def advanceExpense (x : Surroundings) (inst : WorkflowInstance) (ledger : Ledger) (expenseId : Id) :
    AdvanceM Outcome := do
  let facts ← okOrRaise (expenseFacts inst ledger expenseId)
  let allocationId := allocationOf inst ledger
  let policy := inst.context.policy
  let (evidence, sufficiency) ←
    okOrRaise (stepEvidence facts.evidence inst.context.evidenceFlags policy .normalized)
  let inst := { inst with context := { inst.context with
    allocationId, evidenceSufficiency := some sufficiency.value } }
  if evidence.nextState ≠ .classificationPending then
    return commit x { inst with
      workflowState := evidence.nextState, runStatus := defaultRunStatus evidence.nextState }
      evidence.events
  else
    let c := classify x inst.tenantId expenseId allocationId facts.amount
    let classified ← okOrRaise (stepClassify c policy .classificationPending)
    let receipts ← executeList x 0 classified.commandsToExecute
    if classified.nextState ≠ .reviewPending then
      return commit x { inst with
        workflowState := classified.nextState, runStatus := defaultRunStatus classified.nextState }
        (evidence.events ++ classified.events) receipts
    else
      let packet := reviewPacket x inst expenseId allocationId facts sufficiency c
      let review ← okOrRaise (stepReview x packet .classificationPending)
      return commit x (reviewParked inst packet review (review.wait.getD {}))
        (evidence.events ++ classified.events ++ review.events) receipts

/-- `_advance_normalized`. -/
def advanceNormalized (x : Surroundings) (inst : WorkflowInstance) : AdvanceM Outcome := do
  let a ← get
  match orElse inst.context.expenseId none with
  | none =>
      return commit x { inst with
        workflowState := .blocked, runStatus := .failedTerminal,
        lastError := some "missing expense_id" }
  | some expenseId => advanceExpense x inst a.executor.ledger expenseId

/-- The publication a spec asks for. -/
def publishPayload (inst : WorkflowInstance) (spec : PublishSpec) : Except PyExc PublishPayload := do
  let donorId ← LedgerCommandExecutor.need "donor_id" spec.donorId
  let donationId ← LedgerCommandExecutor.need "donation_id" spec.donationId
  let method ← LedgerCommandExecutor.need "attribution_method" spec.attributionMethod
  let amount ← LedgerCommandExecutor.need "attributed_amount" spec.attributedAmount
  return {
    donorId := some donorId, donationId := some donationId, expenseId := inst.context.expenseId
    allocationId := orElse spec.allocationId inst.context.allocationId
    attributionMethod := some method, attributedAmount := some amount, createdAt := spec.createdAt
    actor := some (truthyOr spec.actor "finance.operator@fixture") }

/-- The frozen publication: its key names the expense and the donation. -/
def frozenPublish (x : Surroundings) (inst : WorkflowInstance) (payload : PublishPayload) :
    FrozenProposedCommand where
  tenantId := inst.tenantId
  payload := .publishUseOfFundsReceipt payload
  idempotencyKey := s!"publish:{textOf payload.expenseId}:{textOf payload.donationId}"
  expiresAt := none
  proposalId := truthyOr inst.context.proposalId (x.host.newId "prop" 0)
  agentName := "finance_review"

/-- `_advance_after_ledger`: park for publication, or complete. -/
def advanceAfterLedger (x : Surroundings) (inst : WorkflowInstance) : Except PyExc Outcome :=
  match inst.context.publishSpec.filter (· ≠ {}) with
  | none => .ok (commit x { inst with runStatus := .completed })
  | some spec => do
      let payload ← publishPayload inst spec
      let frozen := frozenPublish x inst payload
      let parked := inst.waitWith (waitFor frozen)
        { commandIdempotencyKey := some frozen.idempotencyKey }
      return commit x { parked with
          workflowState := .publicationPending, runStatus := .waitingSignal,
          waitDeadline := some (x.clock.addSeconds (7 * 86400)).isoformat }
        [stateChanged .publicationPending [("wait", .str "APPROVAL")]]

/-- The last receipt of the expense. -/
def lastReceipt (ledger : Ledger) (expenseId : Option Id) : Option UseOfFundsReceipt :=
  (ledger.receipts.values.filter fun r => some r.expenditureExpenseId = expenseId).getLast?

/-- `_advance_published`: park for the send, or complete. -/
def advancePublished (x : Surroundings) (inst : WorkflowInstance) : AdvanceM Outcome := do
  let a ← get
  if inst.context.sendEmail = false then return commit x { inst with runStatus := .completed }
  else
    match lastReceipt a.executor.ledger inst.context.expenseId with
    | none => return commit x { inst with runStatus := .completed }
    | some r => do
        let preview := composeEmailFromUof x r
        okOrRaise (assertPreviewMatchesReceipt preview r)
        registerPreview preview
        let send ← okOrRaise (stepComposeSend x inst.tenantId preview .published)
        let wait := send.wait.getD {}
        let parked := inst.waitWith wait { commandIdempotencyKey := wait.key }
        return commit x { parked with
            workflowState := .notificationPending, runStatus := .waitingSignal,
            context := { parked.context with emailPreview := some preview } }
          send.events

/-! ## Corrections and digests -/

/-- The first step of a correction. -/
def proposeCorrection (x : Surroundings) (inst : WorkflowInstance) (ledger : Ledger) :
    Except PyExc Outcome :=
  let kind := Text.upper (truthyOr (some inst.context.correctionKind) "REVERSE")
  match orElse inst.context.expenseId none with
  | none => .ok (commit x { inst with
      workflowState := .needsInformation, runStatus := .waitingSignal,
      lastError := some "correction requires expense_id and reason" })
  | some expenseId =>
      if inst.context.reason = "" then
        .ok (commit x { inst with
          workflowState := .needsInformation, runStatus := .waitingSignal,
          lastError := some "correction requires expense_id and reason" })
      else if inst.simulation = false ∧ expenseId ∉ ledger.expenses then
        .ok (commit x { inst with
          workflowState := .blocked, runStatus := .failedTerminal,
          lastError := some s!"expense not found: {expenseId}" })
      else do
        let step ← stepProposeCorrection x inst.tenantId kind expenseId inst.context.reason
          inst.context.replacement inst.context.splits .received
        let parked := match step.wait with
          | some wait => inst.waitWith wait
              { commandIdempotencyKey := wait.key, proposalId := wait.proposalId }
          | none => inst
        let parked := { parked.releaseLease with
          workflowState := step.nextState, runStatus := step.runStatus,
          waitDeadline := step.waitDeadline }
        return commit x parked step.events

def advanceCorrection (x : Surroundings) (inst : WorkflowInstance) (signals : List WorkflowSignal) :
    AdvanceM Outcome := do
  let a ← get
  if inst.runStatus ∈ terminalRunStatuses then return { write := .nothing }
  else
    match inst.workflowState with
    | .reviewPending | .publicationPending | .notificationPending => advanceHumanGate x inst signals
    | .received => okOrRaise (proposeCorrection x inst a.executor.ledger)
    | .ledgerCommitted =>
        let step ← okOrRaise (stepAfterLedgerCorrection .ledgerCommitted)
        return commit x { inst with workflowState := step.nextState, runStatus := step.runStatus }
          step.events
    | .needsInformation => return commit x inst.repark
    | _ => return commit x (inst.pendingAt x.clockIso)

/-- The wait for the acknowledgement of a digest; there is no money command behind it. -/
def digestWait (x : Surroundings) (inst : WorkflowInstance) (updatedAt : Option String) : Wait :=
  let key := "ack_digest:" ++ truthyOr (orElse inst.context.periodKey updatedAt) (x.host.newId "p" 0)
  {
    commandIdempotencyKey := some key, proposalId := some (x.host.newId "prop_dig" 0)
    frozenCommand := some {
      tenantId := inst.tenantId, payload := .unsupported "ack_public_digest"
      idempotencyKey := key, expiresAt := none, proposalId := x.host.newId "prop_dig" 1
      agentName := "ScheduledDigestWorkflow" } }

/-- What stops a digest at its privacy gate; anything else is raised. -/
def stopsDigest (exc : PyExc) : Prop :=
  exc.cls = .privacySentinelError ∨ exc.cls = .other "impact_relay.digest" "DigestError"

instance (exc : PyExc) : Decidable (stopsDigest exc) := inferInstanceAs (Decidable (_ ∨ _))

/-- `step_assemble_and_privacy`, and where the workflow goes from it. -/
def assembleDigest (x : Surroundings) (inst : WorkflowInstance) : Except PyExc Outcome :=
  match x.digest with
  | .error exc =>
      if stopsDigest exc then
        .ok (commit x { inst.releaseLease with
            workflowState := .blocked, runStatus := .failedTerminal, waitDeadline := none }
          [⟨.error, .obj [("error", .str "digest_privacy_or_assemble_failed"),
            ("detail", .str exc.msg)]⟩])
      else .error exc
  | .ok updatedAt =>
      if inst.context.requireApproval then
        let wait := digestWait x inst updatedAt
        let parked := inst.waitWith wait { commandIdempotencyKey := wait.commandIdempotencyKey }
        .ok (commit x { parked.repark with
            workflowState := .publicationPending, waitDeadline := some (x.expires 72) }
          [stateChanged .publicationPending])
      else
        .ok (commit x ({ inst.releaseLease with
            workflowState := .published, waitDeadline := none }.pendingAt x.clockIso)
          [stateChanged .published])

/-- `_advance_digest_approval`. -/
def advanceDigestApproval (x : Surroundings) (inst : WorkflowInstance)
    (signals : List WorkflowSignal) : Outcome :=
  match matching (inst.context.wait.bind (·.commandIdempotencyKey)) signals with
  | [] => commit x inst.repark
  | (signal, approval) :: _ =>
      if isAgentId approval.approverId then
        commit x { inst with lastError := some "approver_id must be a human operator identity" }
          [⟨.error, .obj [("error", .str "agent_approver_rejected")]⟩] []
          [(signal.signalId, .rejectedInvalid)]
      else
        match approval.decision with
        | .reject =>
            commit x { inst with
                workflowState := .rejected, runStatus := .failedTerminal
                context := { inst.context with wait := none } }
              [] [] [(signal.signalId, .accepted)]
        | .requestInformation | .edit =>
            commit x { inst with workflowState := .needsInformation, runStatus := .waitingSignal }
              [] [] [(signal.signalId, .accepted)]
        | .approve =>
            let published := ({ inst with workflowState := .published }.pendingAt x.clockIso).clearWait
            commit x { published with
                context := { published.context with
                  digestApprovedBy := some approval.approverId } }
              [⟨.approval, .obj [("decision", .str "APPROVE"),
                  ("approver_id", .str approval.approverId)]⟩,
                stateChanged .published]
              [] [(signal.signalId, .accepted)]

def advanceDigest (x : Surroundings) (inst : WorkflowInstance) (signals : List WorkflowSignal) :
    Except PyExc Outcome :=
  if inst.runStatus ∈ terminalRunStatuses then .ok { write := .nothing }
  else
    match inst.workflowState with
    | .publicationPending => .ok (advanceDigestApproval x inst signals)
    | .received => assembleDigest x inst
    | .published => do
        assertTransition digestTransitions .published .delivered
        return commit x { inst with workflowState := .delivered, runStatus := .completed }
          [stateChanged .delivered]
    | _ => .ok (commit x (inst.pendingAt x.clockIso))

/-! ## The advance -/

/-- `advance_once`, after it has got the instance. -/
def advanceOnce (x : Surroundings) (inst : WorkflowInstance) (signals : List WorkflowSignal) :
    AdvanceM Outcome :=
  match inst.workflowType with
  | .correction => advanceCorrection x inst signals
  | .scheduledDigest => okOrRaise (advanceDigest x inst signals)
  | .expenseToReceipt =>
      match inst.workflowState with
      | .reviewPending | .publicationPending | .notificationPending =>
          advanceHumanGate x inst signals
      | .received => advanceReceived x inst
      | .normalized | .classificationPending | .evidencePending => advanceNormalized x inst
      | .ledgerCommitted => okOrRaise (advanceAfterLedger x inst)
      | .published => advancePublished x inst
      | .duplicate | .approved | .receiptDrafted | .delivered | .blocked | .rejected
      | .needsInformation =>
          if inst.runStatus ∈ terminalRunStatuses then pure { write := .nothing }
          else pure { write := .update (inst.pendingAt x.clockIso) }

end WorkflowRuntime

end ImpactRelay
