/-
# `Agents.Executor` — the gateway through which commands reach the ledger

`CommandExecutor.execute` (`agents/base.py`) and the handlers of
`LedgerCommandExecutor` (`agents/executor.py`), with the log a durable workspace
wraps its dispatch with (`workflows/durable.py`).  The executor's own fields, its
ledger, its workspace and its log are one state; their methods run on their part
of it.  `Outside` is what one `execute` takes from outside: the
host's draws, and what the receipt store raises, if anything, when it is read
and when it is written.
-/
import ImpactRelay.Agents.Authority
import ImpactRelay.Agents.NotificationComposer
import ImpactRelay.Agents.Privacy
import ImpactRelay.Domain.LedgerLog
import ImpactRelay.Domain.Notifications

namespace ImpactRelay

open Raise

/-- The receipt store of a tenant's executors, by tenant and idempotency key. -/
abbrev ReceiptStore := Dict (Id × String) ExecutionReceipt

structure LedgerCommandExecutor where
  ledger : Ledger
  simulation : Bool := false
  workspace : Option TenantWorkspace := none
  seenKeys : List String := []
  receipts : List ExecutionReceipt := []
  receiptStore : Option ReceiptStore := none
  /-- external source id ↦ expense id -/
  externalIndex : Dict String Id := .empty
  previews : Dict Id EmailPreview := .empty
  /-- The log its dispatch is wrapped with, in a durable workspace. -/
  ledgerLog : Option FileLedgerCommandLog := none

abbrev ExecutorM := EStateM PyExc LedgerCommandExecutor

/-- What one execution takes from outside. -/
structure Outside where
  host : Host
  getFault : Option PyExc := none
  putFault : Option PyExc := none

namespace LedgerCommandExecutor

/-- `LedgerCommandExecutor(ledger, simulation=…, workspace=…)`. -/
def new (ledger : Ledger) (simulation : Bool) (workspace : Option TenantWorkspace) :
    LedgerCommandExecutor :=
  { ledger, simulation, workspace, externalIndex := ledger.externalIndex }

def onLedger {α : Type} (x : LedgerM α) : ExecutorM α :=
  within (·.ledger) (fun l s => { s with ledger := l }) x

/-- A method of the workspace `ws`, which the executor is known to have. -/
def onWorkspace {α : Type} (ws : TenantWorkspace) (x : WorkspaceM α) : ExecutorM α :=
  within (·.workspace.getD ws) (fun w s => { s with workspace := some w }) x

/-! ## Reading a payload

What a handler reads before it calls the ledger, in the order it reads it. -/

/-- `payload[key]`. -/
def need {α : Type} (key : String) (o : Option α) : Except PyExc α :=
  match o with
  | some a => .ok a
  | none => .error (keyError key)

/-- A value that must be true, or else `AuthorityError`. -/
def needTruthy (msg : String) (o : Option String) : Except PyExc String :=
  match orElse o none with
  | some a => .ok a
  | none => .error (authorityError msg)

/-- `Expense(…)` with the values of a mapping: what `money` makes of the amount, and the record
with an amount that is none. -/
def expenseOf (l : Ledger) (id : Id) (vendor : Option String) (amount : Option Decimal.Amount)
    (currency purchaseDate category description externalSourceId : Option String) :
    Except PyExc (Decimal.Quantized × (Int → Expense)) := do
  let vendor ← need "vendor" vendor
  let quantized ← need "amount" amount >>= money
  let purchaseDate ← need "purchase_date" purchaseDate
  return (quantized, fun amount => {
    id, organizationId := l.organization.id, vendor, amount,
    currency := currency.getD "USD", purchaseDate,
    category := category.getD "UNCLASSIFIED", description := description.getD "",
    state := .imported, externalSourceId })

/-- The record of a row, as `import_expense` first compares it: of the ledger's organization,
and its amount no NaN. -/
def expenseOfRow (host : Host) (l : Ledger) (ext : String) (row : NormalizedRow) :
    Except PyExc Expense := do
  let (quantized, record) ← expenseOf l (truthyOr row.expenseId (host.newId "exp" 0)) row.vendor
    row.amount row.currency row.purchaseDate row.category row.description (some ext)
  let amount ← compared quantized
  return record amount

/-- `expense_id`, `allocation_id` and the amount, which is all of it by default. -/
def allocateArgs (l : Ledger) (p : AllocatePayload) : Except PyExc (Id × Id × Decimal.Amount) := do
  let expenseId ← need "expense_id" p.expenseId
  let allocationId ← need "allocation_id" p.allocationId
  let amount ← need expenseId
    (p.amount <|> (l.expenses.get? expenseId).map fun e => Decimal.ofCents e.amount)
  return (expenseId, allocationId, amount)

def approveArgs (p : ApprovePayload) : Except PyExc (Id × String) := do
  let expenseId ← need "expense_id" p.expenseId
  let approvedBy ← needTruthy "approve_expense payload requires approved_by from human" p.approvedBy
  return (expenseId, approvedBy)

structure PublishArgs where
  donorId : Id
  donationId : Id
  expenseId : Id
  allocationId : Id
  method : AttributionMethod
  amount : Decimal.Amount
  actor : String

def publishArgs (p : PublishPayload) : Except PyExc PublishArgs := do
  let method ← need "attribution_method" p.attributionMethod >>= attributionMethodOf
  let actor ← needTruthy "publish_use_of_funds_receipt requires actor" (orElse p.actor p.approvedBy)
  let donorId ← need "donor_id" p.donorId
  let donationId ← need "donation_id" p.donationId
  let expenseId ← need "expense_id" p.expenseId
  let allocationId ← need "allocation_id" p.allocationId
  let amount ← need "attributed_amount" p.attributedAmount >>= decimalOf
  return { donorId, donationId, expenseId, allocationId, method, amount, actor }

/-- The gate before anything is sent: a registered preview of a stored receipt,
and payload hashes that match both. -/
def sendArgs (s : LedgerCommandExecutor) (p : SendPayload) :
    Except PyExc (TenantWorkspace × EmailPreview × Id × UseOfFundsReceipt) :=
  match s.workspace with
  | none => .error (authorityError "send_notification requires a TenantWorkspace")
  | some ws =>
      match (orElse p.previewId none).bind s.previews.get? with
      | none => .error (authorityError "send_notification requires a registered email preview")
      | some preview => do
          let receiptId ← need "receipt_id" p.receiptId
          let receipt ← need s!"receipt not found: {receiptId}" (s.ledger.receipts.get? receiptId)
          assertPreviewMatchesReceipt preview receipt
          if p.contentHash ≠ some preview.contentHash then
            .error (authorityError "send payload content_hash does not match registered preview")
          else if p.receiptHash ≠ some receipt.receiptHash then
            .error (authorityError "send payload receipt_hash does not match ledger receipt")
          else return (ws, preview, receiptId, receipt)

def reverseArgs (p : ReversePayload) : Except PyExc (Id × String × String) := do
  let expenseId ← need "expense_id" p.expenseId
  let actor ← needTruthy "reverse_expense requires actor from human approval"
    (orElse p.actor p.approvedBy)
  let reason ← needTruthy "reverse_expense requires reason" p.reason
  return (expenseId, actor, reason)

def supersedeArgs (p : SupersedePayload) : Except PyExc (Id × String × String) := do
  let expenseId ← need "expense_id" p.expenseId
  let actor ← needTruthy "supersede_expense requires actor from human approval"
    (orElse p.actor p.approvedBy)
  let reason ← needTruthy "supersede_expense requires reason" p.reason
  return (expenseId, actor, reason)

/-- `(allocation_id, amount)` of each entry; an entry without an amount is for all of it. -/
def splitsOf (replacementAmount : Decimal.Amount) :
    List SplitItem → Except PyExc (List (Id × Decimal.Amount))
  | [] => .ok []
  | .pair allocationId amount :: items =>
      (splitsOf replacementAmount items).map ((allocationId, amount) :: ·)
  | .mapping none _ :: _ => .error (keyError "allocation_id")
  | .mapping (some allocationId) amount :: items =>
      (splitsOf replacementAmount items).map
        ((allocationId, amount.getD replacementAmount) :: ·)
  | .other text :: _ => .error (authorityError s!"invalid split entry: {text}")

/-- The replacement of a supersession, which may be one that no import accepts. -/
inductive Replacement where
  | fit (expense : Expense)
  | unfit (replacement : Ledger.UnfitReplacement)

/-- The text of an external id.  One that cannot be hashed stays in the record of the source;
it is left out here, and `supersedeExpense` raises for it when it is indexed. -/
def externalText : Option KeyValue → Option String
  | some (.text s) => some s
  | _ => none

/-- What an entry without an amount is for. -/
def wholeOf : Decimal.Quantized → Decimal.Amount
  | .cents c => Decimal.ofCents c
  | .nan => .nan

def replacementOf (id : KeyValue) (quantized : Decimal.Quantized) (record : Id → Int → Expense) :
    Replacement :=
  match id, quantized with
  | .text id, .cents c => .fit (record id c)
  | .unhashable typeName _, .cents c => .unfit (.unhashableId typeName c)
  | id, .nan => .unfit (.nanAmount id)

/-- The replacement and its splits. -/
def replacementArgs (host : Host) (l : Ledger) (p : SupersedePayload) :
    Except PyExc (Replacement × List (Id × Decimal.Amount)) :=
  match p.replacement with
  | none => .error (authorityError "supersede_expense requires replacement expense payload")
  | some row => do
      let (quantized, record) ← expenseOf l "" row.vendor row.amount row.currency row.purchaseDate
        row.category row.description (externalText row.externalSourceId)
      if p.splits = [] then .error (authorityError "supersede_expense requires splits")
      else
        let splits ← splitsOf (wholeOf quantized) p.splits
        return (replacementOf (KeyValue.firstOf row.id row.expenseId (host.newId "exp" 0)) quantized
          fun id amount => { record amount with id }, splits)

variable [Digest] [Json.CharTable] (host : Host)

/-! ## Intake and classification -/

/-- `ev.get("id") or _new_id("ev")`. -/
def evidenceId (i : Nat) (id : Option KeyValue) : KeyValue :=
  KeyValue.firstOf id none (host.newId "ev" i)

def evidenceRecord (expenseId id : Id) (kind summary : Option String) (donorVisible : Bool) :
    EvidenceRecord where
  id := id
  expenseId := expenseId
  kind := kind.getD "invoice"
  summary := summary.getD ""
  donorVisible := donorVisible

/-- The evidence loop of an import, from the `i`-th item on. -/
def attachAll (expenseId : Id) : Nat → List EvidenceItem → ExecutorM Unit
  | _, [] => pure ()
  | _, .other typeName :: _ =>
      throw ⟨.attributeError, s!"'{typeName}' object has no attribute 'get'"⟩
  | i, .mapping id kind summary donorVisible :: items =>
      match evidenceId host i id with
      | .unhashable typeName _ => throw (unhashableError typeName)
      | .text id => do
          let _ ← onLedger (Ledger.attachEvidence host
            (evidenceRecord expenseId id kind summary donorVisible))
          attachAll expenseId (i + 1) items

def attachEvidenceField (expenseId : Id) : EvidenceField → ExecutorM Unit
  | .items items => attachAll host expenseId 0 items
  | .notIterable typeName => throw ⟨.typeError, s!"'{typeName}' object is not iterable"⟩

def importNormalized (expense : Option NormalizedRow) : ExecutorM (List Id) := do
  let row ← okOrRaise (need "expense" expense)
  let ext ← okOrRaise (need "external_source_id" row.externalSourceId)
  let s ← get
  match s.externalIndex.get? ext with
  | some eid => return [eid]
  | none =>
      let expense ← okOrRaise (expenseOfRow host s.ledger ext row)
      let _ ← onLedger (Ledger.importExpense host expense)
      attachEvidenceField host expense.id row.evidence
      modify fun s => { s with externalIndex := s.externalIndex.set ext expense.id }
      return [expense.id]

def allocate (p : AllocatePayload) : ExecutorM (List Id) := do
  let s ← get
  let (expenseId, allocationId, amount) ← okOrRaise (allocateArgs s.ledger p)
  let ea ← onLedger (Ledger.allocateExpense host expenseId allocationId amount none)
  return [ea.id]

/-! ## Approval and rejection -/

def approve (p : ApprovePayload) : ExecutorM (List Id) := do
  let (expenseId, approvedBy) ← okOrRaise (approveArgs p)
  let _ ← onLedger (Ledger.approveExpense host expenseId approvedBy)
  return [expenseId]

def reject (p : RejectPayload) : ExecutorM (List Id) := do
  let expenseId ← okOrRaise (need "expense_id" p.expenseId)
  let s ← get
  raiseIf (expenseId ∉ s.ledger.expenses) (keyError expenseId)
  return [expenseId]

/-! ## Publication -/

def publishReceipt (p : PublishPayload) : ExecutorM (List Id) := do
  let a ← okOrRaise (publishArgs p)
  let _ ← onLedger (Ledger.attributeDonorToExpense host a.donorId a.donationId a.expenseId
    a.allocationId a.method (some a.amount) none)
  let receipt ← onLedger (Ledger.publishUseOfFundsReceipt host a.expenseId a.donationId
    a.allocationId a.actor p.createdAt)
  okOrRaise (assertPublicSafe (receiptToPublic receipt))
  return [receipt.receiptId]

/-! ## Notification -/

def fixtureConsent (l : Ledger) (donorId : Id) : ConsentRecord where
  donorId := donorId
  organizationId := l.organization.id
  channel := .email
  granted := true
  provenance := "fixture://consent/email-v1"
  recordedAt := host.nowIso "consent" 0

def fixturePreference (l : Ledger) (donorId : Id) : NotificationPreference where
  donorId := donorId
  organizationId := l.organization.id
  channel := .email
  enabled := true
  topics := ["MONEY_USED", "CORRECTION"]

/-- Whether a missing consent is filled in: only for the in-process fixture. -/
def bootstraps (ws : TenantWorkspace) (donorId : Id) : Bool :=
  (match ws.adapters .email with
    | some adapter => adapter.fixtureConsentBootstrap
    | none => false) &&
  decide ((donorId, NotificationChannel.email) ∉ ws.consents)

/-- `ns.record_consent(…); ns.set_preference(…)`, for the fixture only. -/
def bootstrapConsent (l : Ledger) (donorId : Id) : WorkspaceM Unit := do
  let ws ← get
  if bootstraps ws donorId then
    let _ ← TenantWorkspace.recordConsent l (fixtureConsent host l donorId)
    let _ ← TenantWorkspace.setPreference l (fixturePreference l donorId)

def emailPatch (preview : EmailPreview) : List (String × Json) := [
  ("email_subject", .str preview.subject),
  ("email_body_text", .str preview.bodyText),
  ("email_template_version", .str preview.templateVersion),
  ("email_content_hash", .str preview.contentHash)]

/-- The workspace part of a send: the references of the intent and its last delivery. -/
def sendFrom (l : Ledger) (preview : EmailPreview) (receiptId : Id) (receipt : UseOfFundsReceipt) :
    WorkspaceM (List Id) := do
  bootstrapConsent host l receipt.donorId
  let intent ← TenantWorkspace.evaluateForUseOfFunds host l receiptId .email true
    (emailPatch preview)
  raiseIf (intent.status ≠ .delivered)
    (stateError s!"notification delivery did not complete: {intent.status.value}")
  let ws ← get
  let deliveries := ws.deliveries.values.filter fun d => d.intentId = intent.id
  return intent.id :: (deliveries.getLast?.map (·.id)).toList

def sendNotification (p : SendPayload) : ExecutorM (List Id) := do
  let s ← get
  let (ws, preview, receiptId, receipt) ← okOrRaise (sendArgs s p)
  onWorkspace ws (sendFrom host s.ledger preview receiptId receipt)

/-! ## Corrections -/

def reverseExpense (p : ReversePayload) : ExecutorM (List Id) := do
  let (expenseId, actor, reason) ← okOrRaise (reverseArgs p)
  let s ← get
  if s.ledger.expenseIn [.reversed] expenseId then
    -- already reversed: a no-op that succeeds
    return [expenseId]
  else
    let result ← onLedger (Ledger.reverseExpense host expenseId actor reason)
    return expenseId :: result.2.map (·.receiptId)

/-- `if approved.external_source_id: index[…] = approved.id`. -/
def indexExternal (approved : Expense) (index : Dict String Id) : Dict String Id :=
  match approved.externalSourceId with
  | some ext => if ext = "" then index else index.set ext approved.id
  | none => index

/-- An external id that is no key cannot be indexed. -/
def assertIndexable : Option KeyValue → Except PyExc Unit
  | some (.unhashable typeName _) => .error (unhashableError typeName)
  | _ => .ok ()

def supersedeExpense (p : SupersedePayload) : ExecutorM (List Id) := do
  let (expenseId, actor, reason) ← okOrRaise (supersedeArgs p)
  let s ← get
  if s.ledger.expenseIn [.superseded] expenseId then
    -- already superseded: a no-op that succeeds
    return [expenseId]
  else
    let (replacement, splits) ← okOrRaise (replacementArgs host s.ledger p)
    match replacement with
    | .unfit replacement =>
        onLedger (Ledger.supersedeByUnfit expenseId s.ledger.organization.id replacement reason)
    | .fit replacement =>
        let result ← onLedger (Ledger.supersedeExpense host expenseId replacement splits actor
          reason (truthyOr p.approvedBy actor))
        okOrRaise (assertIndexable p.externalSourceId)
        modify fun s => { s with externalIndex := indexExternal result.2.1 s.externalIndex }
        return expenseId :: result.2.1.id :: result.2.2.map (·.receiptId)

/-! ## Execution -/

/-- The handler of a payload. -/
def handle : Payload → ExecutorM (List Id)
  | .importNormalizedExpense expense => importNormalized host expense
  | .allocateExpense p => allocate host p
  | .approveExpense p => approve host p
  | .rejectExpense p => reject p
  | .publishUseOfFundsReceipt p => publishReceipt host p
  | .sendNotification p => sendNotification host p
  | .reverseExpense p => reverseExpense host p
  | .supersedeExpense p => supersedeExpense host p
  | .unsupported commandType =>
      throw ⟨.other "builtins" "NotImplementedError", s!"unsupported command_type={commandType}"⟩

def dispatch (command : AgentCommand) : ExecutorM (List Id) := do
  let s ← get
  raiseIf (command.tenantId ≠ s.ledger.organization.id)
    (authorityError "cross-tenant command rejected")
  handle host command.payload

/-- The money commands, whose results are logged. -/
def loggedCommandTypes : List String := [
  "import_normalized_expense", "allocate_expense", "approve_expense", "reject_expense",
  "publish_use_of_funds_receipt", "reverse_expense", "supersede_expense"]

def resultRow (command : AgentCommand) (l : Ledger) (refs : List Id) : LogRow where
  tenantId := command.tenantId
  idempotencyKey := command.idempotencyKey
  commandType := command.commandType
  resultJson := l.buildResultJson command.commandType command.idempotencyKey refs

/-- `_wrap_executor_with_log`: capture the entities after a successful money command. -/
def loggedDispatch (command : AgentCommand) : ExecutorM (List Id) := do
  let refs ← dispatch host command
  let s ← get
  match s.ledgerLog with
  | none => return refs
  | some log =>
      if s.simulation = false ∧ command.commandType ∈ loggedCommandTypes then
        within (·.ledgerLog.getD log) (fun log s => { s with ledgerLog := some log })
          (FileLedgerCommandLog.append (resultRow command s.ledger refs))
        return refs
      else return refs

/-- The receipt of an execution; `kind` is the infix of its id. -/
def executionReceipt (command : AgentCommand) (approval : Option ApprovalReceipt) (kind : String)
    (status : ExecutionStatus) (refs : List Id) (simulated : Bool) (error : Option String) :
    ExecutionReceipt where
  executionId := "exec_" ++ kind ++ Text.take 12 command.idempotencyKey
  tenantId := command.tenantId
  commandType := command.commandType
  idempotencyKey := command.idempotencyKey
  status := status
  outputRefs := refs
  executedAt := host.nowIso "exec" 0
  simulated := simulated
  error := error
  approvalId := approval.map (·.approvalId)

def addSeen (key : String) (s : LedgerCommandExecutor) : LedgerCommandExecutor :=
  if key ∈ s.seenKeys then s else { s with seenKeys := s.seenKeys ++ [key] }

def addReceipt (receipt : ExecutionReceipt) (s : LedgerCommandExecutor) : LedgerCommandExecutor :=
  { s with receipts := s.receipts ++ [receipt] }

def putReceipt (receipt : ExecutionReceipt) (store : ReceiptStore) : ReceiptStore :=
  store.set (receipt.tenantId, receipt.idempotencyKey) receipt

/-- Write a receipt to the store; never one that FAILED. -/
def storeReceipt (o : Outside) (receipt : ExecutionReceipt) : ExecutorM Unit := do
  let s ← get
  match s.receiptStore with
  | none => return ()
  | some store =>
      if receipt.status = .failed then return ()
      else
        raiseOn o.putFault id
        modify fun s => { s with receiptStore := some (putReceipt receipt store) }

/-- The stored receipt of the command, if the store has one. -/
def storedReceipt (o : Outside) (command : AgentCommand) : ExecutorM (Option ExecutionReceipt) := do
  let s ← get
  match s.receiptStore with
  | none => return none
  | some store =>
      raiseOn o.getFault id
      return store.get? (command.tenantId, command.idempotencyKey)

/-- The block under `try`. -/
def dispatchAndStore (o : Outside) (command : AgentCommand) (approval : Option ApprovalReceipt) :
    ExecutorM ExecutionReceipt := do
  let refs ← loggedDispatch o.host command
  let receipt := executionReceipt o.host command approval "" .succeeded refs false none
  modify (addSeen command.idempotencyKey)
  storeReceipt o receipt
  return receipt

/-- Everything after the authority gates. -/
def executeAuthorized (o : Outside) (command : AgentCommand) (approval : Option ApprovalReceipt) :
    ExecutorM ExecutionReceipt := do
  let stored ← storedReceipt o command
  match stored with
  | some receipt =>
      modify (addReceipt receipt)
      return receipt
  | none =>
      let s ← get
      if command.idempotencyKey ∈ s.seenKeys then
        let receipt := executionReceipt o.host command approval "dup_" .skipped [] s.simulation
          (some "duplicate idempotency_key")
        modify (addReceipt receipt)
        storeReceipt o receipt
        return receipt
      else if s.simulation then
        let receipt := executionReceipt o.host command approval "sim_" .simulated [] true none
        modify (addSeen command.idempotencyKey)
        modify (addReceipt receipt)
        storeReceipt o receipt
        return receipt
      else
        let result ← attempt (dispatchAndStore o command approval)
        let receipt := match result with
          | .ok receipt => receipt
          -- domain failures surface as receipts, and are never stored
          | .error exc => executionReceipt o.host command approval "fail_" .failed [] false
              (some exc.msg)
        modify (addReceipt receipt)
        return receipt

def execute (o : Outside) (command : AgentCommand) (approval : Option ApprovalReceipt)
    (agentName : Option String) (proposal : Option AgentProposal) :
    ExecutorM ExecutionReceipt := do
  match proposal with
  | some proposal => okOrRaise (assertProposalExecutable proposal (o.host.nowIso "proposal" 0))
  | none => pure ()
  okOrRaise (assertExecutionAuthorized command approval agentName)
  executeAuthorized o command approval

end LedgerCommandExecutor

end ImpactRelay
