/-
# `Domain.Ledger` — the in-memory use-of-funds ledger

`domain/ledger.py`, method by method, in the order of the source.  A method is
an `EStateM` program over the ledger record: it raises where the source raises
and keeps what it had written by then.  What the methods take from outside is
explicit:

  * `Host` — the identifiers `_new_id` draws and the clock `_now_iso` reads in
    one call.  Draws are numbered for each prefix; the audit trail numbers its
    own by its length.
  * `Digest` — `sha256` of a text.

A raw amount is a `Decimal.Amount`.  The balance of a fund and a pro-rata share are
rounded as the arithmetic context does; the amounts of one donation or one expense
stay within its digits, and their sums are exact in cents, as the pool is that a
share is taken of.
-/
import ImpactRelay.Domain.Types
import ImpactRelay.Lib.Raise

namespace ImpactRelay

open Raise

/-- What one call draws from the host: identifiers and clock readings. -/
structure Host where
  newId : String → Nat → Id
  nowIso : String → Nat → String

/-- A host whose `call`-th call draws `kind_call_k`. -/
def Host.numbered (call : Nat) : Host where
  newId kind k := kind ++ "_" ++ toString call ++ "_" ++ toString k
  nowIso _ _ := "2026-01-01T00:00:00+00:00"

class Digest where
  sha256 : String → String

/-- The text itself as its digest. -/
@[reducible] def Digest.plain : Digest := ⟨id⟩

def stableHash [Digest] (payload : Json) : String := Digest.sha256 payload.dumps

/-- Single-tenant ledger (organization-scoped stores). -/
structure Ledger where
  organization : Organization
  donors : Dict Id Donor := .empty
  donations : Dict Id Donation := .empty
  allocations : Dict Id Allocation := .empty
  donationAllocations : Dict Id DonationAllocation := .empty
  expenses : Dict Id Expense := .empty
  expenseAllocations : Dict Id ExpenseAllocation := .empty
  evidence : Dict Id EvidenceRecord := .empty
  attributions : Dict Id DonorExpenseAttribution := .empty
  receipts : Dict Id UseOfFundsReceipt := .empty
  /-- receipt id ↦ snapshot at publish time -/
  receiptSnapshots : Dict Id Json := .empty
  auditLog : List AuditReceipt := []
  /-- expense id ↦ published receipt ids, in order -/
  expenseReceipts : Dict Id (List Id) := .empty

abbrev LedgerM := EStateM PyExc Ledger

namespace Ledger

/-- The empty ledger of an organization. -/
def new (organization : Organization) : Ledger := { organization }

/-! ## Audit -/

def auditReceipt [Digest] (host : Host) (l : Ledger) (eventType entityType entityId actor : String)
    (payload : Json) : AuditReceipt where
  id := host.newId "audit" l.auditLog.length
  organizationId := l.organization.id
  eventType := eventType
  entityType := entityType
  entityId := entityId
  actor := actor
  timestamp := host.nowIso "audit" l.auditLog.length
  payload := payload
  policyVersion := l.organization.policyVersion
  receiptHash := stableHash (.obj [
    ("event_type", .str eventType),
    ("entity_type", .str entityType),
    ("entity_id", .str entityId),
    ("actor", .str actor),
    ("timestamp", .str (host.nowIso "audit" l.auditLog.length)),
    ("payload", payload),
    ("policy_version", .str l.organization.policyVersion)])

def audit [Digest] (host : Host) (eventType entityType entityId actor : String) (payload : Json) :
    LedgerM Unit :=
  modify fun l => { l with
    auditLog := l.auditLog ++ [auditReceipt host l eventType entityType entityId actor payload] }

/-! ## Lookups and balance helpers -/

def requireDonation (donationId : Id) : LedgerM Donation := do
  let l ← get
  orRaise (notFoundError s!"donation not found: {donationId}") (l.donations.get? donationId)

def requireExpense (expenseId : Id) : LedgerM Expense := do
  let l ← get
  orRaise (notFoundError s!"expense not found: {expenseId}") (l.expenses.get? expenseId)

def requireAllocation (allocationId : Id) : LedgerM Allocation := do
  let l ← get
  orRaise (notFoundError s!"allocation not found: {allocationId}") (l.allocations.get? allocationId)

/-- Whether the expense exists and is in one of the states. -/
def expenseIn (l : Ledger) (states : List ExpenseState) (expenseId : Id) : Bool :=
  match l.expenses.get? expenseId with
  | none => false
  | some exp => decide (exp.state ∈ states)

/-- What the donations designate to a fund, to the cent. -/
def pooled (l : Ledger) (allocationId : Id) : Int :=
  l.donationAllocations.sum (fun da => da.allocationId = allocationId) (·.amount)

/-- Approved and reconciled charges to a fund, to the cent. -/
def outflows (l : Ledger) (allocationId : Id) : Int :=
  l.expenseAllocations.sum
    (fun ea => ea.allocationId = allocationId && l.expenseIn verifiedExpenseStates ea.expenseId)
    (·.amount)

/-- The designations to a fund, one after the other. -/
def inflowAmounts (l : Ledger) (allocationId : Id) : List Int :=
  (l.donationAllocations.values.filter fun da => decide (da.allocationId = allocationId)).map
    (·.amount)

/-- The approved and reconciled charges to a fund, one after the other. -/
def outflowAmounts (l : Ledger) (allocationId : Id) : List Int :=
  (l.expenseAllocations.values.filter fun ea =>
    decide (ea.allocationId = allocationId) && l.expenseIn verifiedExpenseStates ea.expenseId).map
    (·.amount)

/-- The pool as the code sums it: each addition is rounded to the digits of the context. -/
def donationPoolForAllocation (l : Ledger) (allocationId : Id) : Int :=
  Decimal.total (l.inflowAmounts allocationId)

/-- `inflows - outflows`, in the context as well. -/
def poolRemaining (l : Ledger) (allocationId : Id) : Int :=
  Decimal.sub (Decimal.total (l.inflowAmounts allocationId))
    (Decimal.total (l.outflowAmounts allocationId))

/-- Pool remaining = donation allocations − approved and reconciled charges. -/
def allocationRemainingBalance (allocationId : Id) : LedgerM Int := do
  let l ← get
  raiseIf (allocationId ∉ l.allocations)
    (notFoundError s!"allocation not found: {allocationId}")
  okOrRaise (orderedMoney (Decimal.ofCents (l.poolRemaining allocationId)))

def sumDonationAllocations (l : Ledger) (donationId : Id) : Int :=
  l.donationAllocations.sum (fun da => da.donationId = donationId) (·.amount)

/-- What a donation has designated to a fund. -/
def designated (l : Ledger) (donationId allocationId : Id) : Int :=
  l.donationAllocations.sum
    (fun da => da.donationId = donationId && da.allocationId = allocationId) (·.amount)

/-- A donor's remaining designated balance after verified attributions.  The amounts of one
donation stay within the digits of the context. -/
def donorRemainingOnAllocation (l : Ledger) (donationId allocationId : Id) : Int :=
  l.designated donationId allocationId -
    l.attributions.sum
      (fun attr => attr.donationId = donationId && attr.allocationId = allocationId &&
        l.expenseIn verifiedExpenseStates attr.expenseId)
      (·.attributedAmount)

def sumPendingExpenseAllocations (l : Ledger) (allocationId excludeExpense : Id) : Int :=
  l.expenseAllocations.sum
    (fun ea => ea.allocationId = allocationId &&
      !(excludeExpense ≠ "" && ea.expenseId = excludeExpense) &&
      match l.expenses.get? ea.expenseId with
      | none => false
      | some exp => exp.state ∉ verifiedExpenseStates ++ correctedExpenseStates &&
          exp.state ≠ .rejected)
    (·.amount)

def expenseAllocationsFor (l : Ledger) (expenseId : Id) : List ExpenseAllocation :=
  l.expenseAllocations.values.filter (fun ea => ea.expenseId = expenseId)

/-- What an expense charges to a fund. -/
def expenseCharge (l : Ledger) (expenseId allocationId : Id) : Int :=
  l.expenseAllocations.sum
    (fun ea => ea.expenseId = expenseId && ea.allocationId = allocationId) (·.amount)

def findAttribution (l : Ledger) (donationId expenseId allocationId : Id) :
    Option DonorExpenseAttribution :=
  l.attributions.values.find? (·.onTriple donationId expenseId allocationId)

/-- Whether attributions to the expense count: it exists and is not REVERSED,
SUPERSEDED or REJECTED. -/
def expenseActive (l : Ledger) (expenseId : Id) : Bool :=
  match l.expenses.get? expenseId with
  | none => false
  | some exp => decide (exp.state ∉ correctedExpenseStates) && decide (exp.state ≠ .rejected)

def activeAttributionTotal (l : Ledger) (donationId allocationId : Id)
    (excludeExpenseId : Option Id) : Int :=
  l.attributions.sum
    (fun attr => attr.donationId = donationId && attr.allocationId = allocationId &&
      decide (excludeExpenseId ≠ some attr.expenseId) && l.expenseActive attr.expenseId)
    (·.attributedAmount)

/-- The active (non-correction) receipt for a triple, if any. -/
def findLiveReceipt (l : Ledger) (donationId expenseId allocationId : Id) :
    Option UseOfFundsReceipt :=
  l.receipts.values.find? fun r =>
    !r.corrected && r.donationId = donationId && r.expenditureExpenseId = expenseId &&
      r.allocationId = allocationId

def donorVisibleEvidenceSummary (l : Ledger) (expenseId : Id) : Option String :=
  match (l.evidence.values.filter (fun e => e.expenseId = expenseId && e.donorVisible)).map
      (·.summary) with
  | [] => none
  | parts => some (String.intercalate "; " parts)

variable [Digest] (host : Host)

/-! ## Registration and import -/

def registerDonor (donor : Donor) : LedgerM Donor := do
  let l ← get
  raiseIf (donor.organizationId ≠ l.organization.id)
    (invariantError "donor organization_id mismatch")
  modify fun l => { l with donors := l.donors.set donor.id donor }
  audit host "DonorRegistered" "Donor" donor.id "system" (.obj [("donor_id", .str donor.id)])
  return donor

def importDonation (donation : Donation) : LedgerM Donation := do
  let l ← get
  raiseIf (donation.organizationId ≠ l.organization.id)
    (invariantError "donation organization_id mismatch")
  raiseIf (donation.amount ≤ 0) (invariantError "donation amount must be positive")
  raiseIf (donation.id ∈ l.donations)
    (invariantError s!"donation already imported: {donation.id}")
  raiseIf (donation.donorId ∉ l.donors) (notFoundError s!"donor not found: {donation.donorId}")
  modify fun l => { l with donations := l.donations.set donation.id donation }
  audit host "DonationImported" "Donation" donation.id "system" (.obj [
    ("amount", .str (Decimal.toStr donation.amount)),
    ("cleared", .bool donation.cleared),
    ("external_source_id", .str donation.externalSourceId)])
  return donation

def registerAllocation (allocation : Allocation) : LedgerM Allocation := do
  let l ← get
  raiseIf (allocation.organizationId ≠ l.organization.id)
    (invariantError "allocation organization_id mismatch")
  modify fun l => { l with allocations := l.allocations.set allocation.id allocation }
  audit host "AllocationRegistered" "Allocation" allocation.id "system"
    (.obj [("name", .str allocation.name)])
  return allocation

def assignDonationAllocation (donationId allocationId : Id) (amount : Decimal.Amount)
    (donationAllocationId : Option Id) : LedgerM DonationAllocation := do
  let donation ← requireDonation donationId
  let l ← get
  raiseIf (allocationId ∉ l.allocations)
    (notFoundError s!"allocation not found: {allocationId}")
  raiseIf (donation.cleared = false) (stateError "cannot allocate uncleared donation")
  let amt ← okOrRaise (orderedMoney amount)
  raiseIf (amt ≤ 0) (invariantError "allocation amount must be positive")
  let already := l.sumDonationAllocations donationId
  raiseIf (donation.amount < already + amt)
    (invariantError s!"donation allocations exceed cleared amount: {Decimal.toStr (already + amt)} > {Decimal.toStr donation.amount}")
  let da : DonationAllocation :=
    { id := truthyOr donationAllocationId (host.newId "da" 0), donationId, allocationId,
      amount := amt }
  modify fun l => { l with donationAllocations := l.donationAllocations.set da.id da }
  audit host "AllocationAssigned" "DonationAllocation" da.id "system" (.obj [
    ("donation_id", .str donationId),
    ("allocation_id", .str allocationId),
    ("amount", .str (Decimal.toStr amt))])
  return da

def importExpense (expense : Expense) : LedgerM Expense := do
  let l ← get
  raiseIf (expense.organizationId ≠ l.organization.id)
    (invariantError "expense organization_id mismatch")
  raiseIf (expense.amount ≤ 0) (invariantError "expense amount must be positive")
  raiseIf (expense.id ∈ l.expenses) (invariantError s!"expense already imported: {expense.id}")
  -- Imports land as IMPORTED unless explicitly DRAFT.
  raiseIf (expense.state ∉ [ExpenseState.draft, ExpenseState.imported])
    (stateError "import only accepts DRAFT or IMPORTED state")
  modify fun l => { l with expenses := l.expenses.set expense.id expense }
  audit host "ExpenseImported" "Expense" expense.id "system" (.obj [
    ("amount", .str (Decimal.toStr expense.amount)),
    ("state", .str expense.state.value)])
  return expense

def attachEvidence (evidence : EvidenceRecord) : LedgerM EvidenceRecord := do
  let l ← get
  raiseIf (evidence.expenseId ∉ l.expenses)
    (notFoundError s!"expense not found: {evidence.expenseId}")
  modify fun l => { l with evidence := l.evidence.set evidence.id evidence }
  audit host "EvidenceAttached" "EvidenceRecord" evidence.id "system" (.obj [
    ("expense_id", .str evidence.expenseId),
    ("kind", .str evidence.kind)])
  return evidence

/-! ## Classification -/

/-- Both classification methods refuse a corrected or verified expense. -/
def raiseIfFrozen (expense : Expense) : LedgerM Unit := do
  raiseIf (expense.state ∈ correctedExpenseStates)
    (stateError "cannot allocate a reversed or superseded expense")
  raiseIf (expense.state ∈ verifiedExpenseStates)
    (stateError "cannot re-allocate an approved/reconciled expense")

/-- Move a classified expense toward approval. -/
def moveToApprovalPending (expenseId : Id) (expense : Expense) (l : Ledger) : Ledger :=
  if expense.state ∈ [.draft, .imported, .classificationPending] then
    { l with expenses := l.expenses.set expenseId (withExpenseState expense .approvalPending) }
  else l

/-- Drop the expense's prior allocations, then store the new ones. -/
def replaceExpenseAllocations (expenseId : Id) (eas : List ExpenseAllocation) (l : Ledger) :
    Ledger :=
  let kept := l.expenseAllocations.filter (fun ea => decide (ea.expenseId ≠ expenseId))
  { l with expenseAllocations := kept.setAll (·.id) eas }

def allocateExpense (expenseId allocationId : Id) (amount : Decimal.Amount)
    (expenseAllocationId : Option Id) : LedgerM ExpenseAllocation := do
  let expense ← requireExpense expenseId
  raiseIfFrozen expense
  let l ← get
  raiseIf (allocationId ∉ l.allocations)
    (notFoundError s!"allocation not found: {allocationId}")
  let amt ← okOrRaise (orderedMoney amount)
  raiseIf (amt ≤ 0) (invariantError "expense allocation amount must be positive")
  -- Documented soft signals for operators: read, never enforced here.
  let _remaining ← allocationRemainingBalance allocationId
  let _pendingOther := l.sumPendingExpenseAllocations allocationId expenseId
  let ea : ExpenseAllocation :=
    { id := truthyOr expenseAllocationId (host.newId "ea" 0), expenseId, allocationId,
      amount := amt }
  modify (replaceExpenseAllocations expenseId [ea])
  modify (moveToApprovalPending expenseId expense)
  audit host "ExpenseAllocated" "ExpenseAllocation" ea.id "system" (.obj [
    ("expense_id", .str expenseId),
    ("allocation_id", .str allocationId),
    ("amount", .str (Decimal.toStr amt))])
  return ea

/-- The parsing loop of the splits: known fund, positive amount. -/
def parseSplits (l : Ledger) : List (Id × Decimal.Amount) → Except PyExc (List (Id × Int))
  | [] => .ok []
  | (allocationId, raw) :: splits =>
      if allocationId ∉ l.allocations then
        .error (notFoundError s!"allocation not found: {allocationId}")
      else
        match orderedMoney raw with
        | .error e => .error e
        | .ok amt =>
            if amt ≤ 0 then .error (invariantError "expense allocation amount must be positive")
            else
              match parseSplits l splits with
              | .error e => .error e
              | .ok parsed => .ok ((allocationId, amt) :: parsed)

/-- One record for each parsed split, numbered from `i`. -/
def splitRecords (expenseId : Id) : Nat → List (Id × Int) → List ExpenseAllocation
  | _, [] => []
  | i, (allocationId, amt) :: parsed =>
      { id := host.newId "ea" i, expenseId, allocationId, amount := amt } ::
        splitRecords expenseId (i + 1) parsed

def splitTotal (parsed : List (Id × Int)) : Int := (parsed.map Prod.snd).sum

/-- Assign an expense across one or more allocations; the sum must equal its amount. -/
def allocateExpenseSplits (expenseId : Id) (splits : List (Id × Decimal.Amount)) :
    LedgerM (List ExpenseAllocation) := do
  let expense ← requireExpense expenseId
  raiseIfFrozen expense
  let l ← get
  let parsed ← okOrRaise (parseSplits l splits)
  let total := splitTotal parsed
  raiseIf (total ≠ expense.amount)
    (invariantError s!"expense allocations must sum to expense amount: {Decimal.toStr total} != {Decimal.toStr expense.amount}")
  let results := splitRecords host expenseId 0 parsed
  modify (replaceExpenseAllocations expenseId results)
  modify (moveToApprovalPending expenseId expense)
  audit host "ExpenseAllocated" "Expense" expenseId "system" (.obj [
    ("splits", .arr (parsed.map fun p => .arr [.str p.1, .str (Decimal.toStr p.2)]))])
  return results

/-! ## Finance approval and reconciliation -/

/-- Hard balance check, one split at a time, against approved charges only. -/
def checkFundBalances : List ExpenseAllocation → LedgerM Unit
  | [] => pure ()
  | ea :: eas => do
      let remaining ← allocationRemainingBalance ea.allocationId
      raiseIf (remaining < ea.amount)
        (invariantError s!"restricted allocation balance would go negative: allocation={ea.allocationId} remaining={Decimal.toStr remaining} charge={Decimal.toStr ea.amount}")
      checkFundBalances eas

def chargeTotal (eas : List ExpenseAllocation) : Int := (eas.map (·.amount)).sum

def approveExpense (expenseId : Id) (approvedBy : String) : LedgerM Expense := do
  let expense ← requireExpense expenseId
  raiseIf (expense.state ∈ correctedExpenseStates)
    (stateError "cannot approve a reversed or superseded expense")
  raiseIf (expense.state ∈ verifiedExpenseStates)
    (stateError "expense already approved/reconciled")
  raiseIf (expense.state ∉
      [ExpenseState.approvalPending, ExpenseState.classificationPending, ExpenseState.imported])
    (stateError s!"cannot approve expense in state {expense.state.value}")
  let l ← get
  let eas := l.expenseAllocationsFor expenseId
  raiseIf (eas = []) (stateError "expense has no fund allocation")
  let total := chargeTotal eas
  raiseIf (total ≠ expense.amount)
    (invariantError s!"approved expense allocations must equal expense amount: {Decimal.toStr total} != {Decimal.toStr expense.amount}")
  checkFundBalances eas
  raiseIf (approvedBy = "") (stateError "approved_by is required")
  let updated := { withExpenseState expense .approved with approvedBy := some approvedBy }
  modify fun l => { l with expenses := l.expenses.set expenseId updated }
  audit host "ExpenseApproved" "Expense" expenseId approvedBy
    (.obj [("amount", .str (Decimal.toStr expense.amount))])
  return updated

def reconcileExpense (expenseId : Id) (actor : String) : LedgerM Expense := do
  let expense ← requireExpense expenseId
  raiseIf (expense.state ≠ .approved) (stateError "only APPROVED expenses can be reconciled")
  let updated :=
    { withExpenseState expense .reconciled with reconciledAt := some (host.nowIso "reconciled" 0) }
  modify fun l => { l with expenses := l.expenses.set expenseId updated }
  audit host "ExpenseReconciled" "Expense" expenseId actor
    (.obj [("reconciled_at", Json.ofOption updated.reconciledAt)])
  return updated

/-! ## Attribution -/

/-- The amount an attribution method gives; the explicit amount is required by
every method but the first two. -/
def attributionAmount (l : Ledger) (allocationId : Id) (method : AttributionMethod)
    (attributedAmount : Option Decimal.Amount) (donorAllocTotal expenseCharge : Int) :
    Except PyExc Int :=
  match method with
  | .directRestricted =>
      match attributedAmount with
      | none => .ok (min donorAllocTotal expenseCharge)
      | some raw => orderedMoney raw
  | .proRataPool =>
      let poolTotal := l.donationPoolForAllocation allocationId
      if poolTotal ≤ 0 then .error (invariantError "empty allocation pool for pro-rata")
      else
        let share := Decimal.div (Decimal.ofCents donorAllocTotal) (Decimal.ofCents poolTotal)
        orderedMoney (Decimal.mul (Decimal.ofCents expenseCharge) share)
  | _ =>
      match attributedAmount with
      | none =>
          .error (attributionError s!"method {method.value} requires explicit attributed_amount")
      | some raw => orderedMoney raw

def attributeDonorToExpense (donorId donationId expenseId allocationId : Id)
    (method : AttributionMethod) (attributedAmount : Option Decimal.Amount)
    (attributionId : Option Id) : LedgerM DonorExpenseAttribution := do
  raiseIf (method = .none ∨ method ∉ allowedAttributionMethods)
    (attributionError s!"phantom or disallowed attribution method: {method.value}")
  let l ← get
  raiseIf (donorId ∉ l.donors) (notFoundError s!"donor not found: {donorId}")
  let donation ← requireDonation donationId
  let _ ← requireExpense expenseId
  raiseIf (donation.donorId ≠ donorId) (invariantError "donation does not belong to donor")
  raiseIf (allocationId ∉ l.allocations)
    (notFoundError s!"allocation not found: {allocationId}")
  -- The donation must have a contribution to this allocation.
  let donorAllocTotal := l.designated donationId allocationId
  raiseIf (donorAllocTotal ≤ 0)
    (invariantError "donation has no allocation to the specified fund")
  let expenseCharge := l.expenseCharge expenseId allocationId
  raiseIf (expenseCharge ≤ 0)
    (invariantError "expense is not charged to the specified allocation")
  let attrAmt ← okOrRaise
    (l.attributionAmount allocationId method attributedAmount donorAllocTotal expenseCharge)
  raiseIf (attrAmt ≤ 0) (invariantError "attributed_amount must be positive")
  raiseIf (expenseCharge < attrAmt)
    (invariantError "attributed_amount cannot exceed expense allocation charge")
  raiseIf (donorAllocTotal < attrAmt)
    (invariantError "attributed_amount cannot exceed donor allocation to fund")
  let others := l.activeAttributionTotal donationId allocationId (some expenseId)
  raiseIf (donorAllocTotal < others + attrAmt)
    (invariantError s!"donor attributions would exceed donation allocation to fund: {Decimal.toStr (others + attrAmt)} > {Decimal.toStr donorAllocTotal}")
  let attr : DonorExpenseAttribution :=
    { id := truthyOr attributionId (host.newId "attr" 0), donorId, donationId, expenseId,
      allocationId, attributedAmount := attrAmt, method,
      policyVersion := l.organization.policyVersion }
  -- Replace the prior attribution for the same triple.
  modify fun l => { l with attributions :=
    (l.attributions.filter
      (fun v => !v.onTriple donationId expenseId allocationId)).set attr.id attr }
  audit host "DonorExpenseAttributed" "DonorExpenseAttribution" attr.id "system" (.obj [
    ("method", .str method.value),
    ("attributed_amount", .str (Decimal.toStr attrAmt)),
    ("expense_id", .str expenseId)])
  return attr

/-! ## Use-of-funds receipts -/

/-- `self._expense_receipts.setdefault(expense_id, []).append(receipt_id)`. -/
def indexReceipt (index : Dict Id (List Id)) (expenseId receiptId : Id) : Dict Id (List Id) :=
  index.set expenseId ((index.get? expenseId).getD [] ++ [receiptId])

/-- Store a receipt, its snapshot and its index entry. -/
def storeReceipt (expenseId : Id) (receipt : UseOfFundsReceipt) (l : Ledger) : Ledger :=
  { l with
    receipts := l.receipts.set receipt.receiptId receipt
    receiptSnapshots := l.receiptSnapshots.set receipt.receiptId receipt.toDict
    expenseReceipts := indexReceipt l.expenseReceipts expenseId receipt.receiptId }

def useOfFundsReceipt (l : Ledger) (expense : Expense) (donation : Donation)
    (allocation : Allocation) (attr : DonorExpenseAttribution) (remaining donorRemaining : Int)
    (expenseId donationId allocationId : Id) (actor : String) (created : String) :
    UseOfFundsReceipt where
  receiptId := host.newId "uof" 0
  type := "USE_OF_FUNDS"
  organizationId := l.organization.id
  organizationName := l.organization.name
  donationId := donationId
  donorId := donation.donorId
  allocationId := allocationId
  allocationName := allocation.name
  restrictionType := allocation.restrictionType.value
  expenditureExpenseId := expenseId
  vendor := expense.vendor
  grossAmount := expense.amount
  attributedAmount := attr.attributedAmount
  purchaseDate := expense.purchaseDate
  category := expense.category
  description := expense.description
  verificationState := expense.state.value
  remainingDesignatedBalance := donorRemaining
  attributionMethod := attr.method.value
  policyVersion := l.organization.policyVersion
  approvedBy := expense.approvedBy
  currency := expense.currency
  receiptHash := stableHash (.obj [
    ("type", .str "USE_OF_FUNDS"),
    ("organization_id", .str l.organization.id),
    ("donation_id", .str donationId),
    ("donor_id", .str donation.donorId),
    ("allocation_id", .str allocationId),
    ("allocation_name", .str allocation.name),
    ("expense_id", .str expenseId),
    ("gross_amount", .str (Decimal.toStr expense.amount)),
    ("attributed_amount", .str (Decimal.toStr attr.attributedAmount)),
    ("purchase_date", .str expense.purchaseDate),
    ("category", .str expense.category),
    ("description", .str expense.description),
    ("verification_state", .str expense.state.value),
    ("remaining_designated_balance", .str (Decimal.toStr donorRemaining)),
    ("allocation_pool_remaining", .str (Decimal.toStr remaining)),
    ("attribution_method", .str attr.method.value),
    ("policy_version", .str l.organization.policyVersion),
    ("approved_by", Json.ofOption expense.approvedBy),
    ("created_at", .str created)])
  createdAt := created
  evidenceSummary := l.donorVisibleEvidenceSummary expenseId
  provenance := [
    ("actor", .str actor),
    ("policy_version", .str l.organization.policyVersion),
    ("attribution_id", .str attr.id)]

def publishUseOfFundsReceipt (expenseId donationId allocationId : Id) (actor : String)
    (createdAt : Option String) : LedgerM UseOfFundsReceipt := do
  let expense ← requireExpense expenseId
  raiseIf (expense.state ∉ verifiedExpenseStates)
    (stateError s!"verified use-of-funds receipt requires APPROVED or RECONCILED expense; got {expense.state.value}")
  let donation ← requireDonation donationId
  let allocation ← requireAllocation allocationId
  let l ← get
  let attr ← orRaise (attributionError "no attribution record; refuse phantom one-to-one linkage")
    (l.findAttribution donationId expenseId allocationId)
  raiseIf (attr.method ∉ allowedAttributionMethods)
    (attributionError s!"disallowed attribution method: {attr.method.value}")
  -- One active receipt per triple; corrections go through reverse and supersede.
  raiseOn (l.findLiveReceipt donationId expenseId allocationId) fun existingLive =>
    stateError s!"use-of-funds receipt already published for this donation/expense/allocation (receipt_id={existingLive.receiptId}); use reverse_expense or supersede_expense for corrections"
  let remaining ← allocationRemainingBalance allocationId
  let donorRemaining := l.donorRemainingOnAllocation donationId allocationId
  raiseIf (donorRemaining < 0)
    (invariantError s!"donor remaining designated balance cannot be negative: {Decimal.toStr donorRemaining}")
  let receipt := useOfFundsReceipt host l expense donation allocation attr remaining donorRemaining
    expenseId donationId allocationId actor (truthyOr createdAt (host.nowIso "uof" 0))
  raiseIf (receipt.receiptId ∈ l.receipts) (invariantError "receipt_id collision")
  modify (storeReceipt expenseId receipt)
  audit host "UseOfFundsReceiptPublished" "UseOfFundsReceipt" receipt.receiptId actor (.obj [
    ("expense_id", .str expenseId),
    ("donation_id", .str donationId),
    ("receipt_hash", .str receipt.receiptHash)])
  return receipt

def getReceipt (receiptId : Id) : LedgerM UseOfFundsReceipt := do
  let l ← get
  orRaise (notFoundError s!"receipt not found: {receiptId}") (l.receipts.get? receiptId)

/-- The immutable publish-time snapshot. -/
def getReceiptSnapshot (receiptId : Id) : LedgerM Json := do
  let l ← get
  orRaise (notFoundError s!"receipt snapshot not found: {receiptId}")
    (l.receiptSnapshots.get? receiptId)

/-! ## Corrections (append-only) -/

/-- The `i`-th correction receipt of a call. -/
def correctionReceipt (l : Ledger) (i : Nat) (prior : UseOfFundsReceipt) (expense : Expense)
    (actor kind reason : String) (replacementExpenseId : Option Id) : UseOfFundsReceipt where
  receiptId := host.newId "uofc" i
  type := "USE_OF_FUNDS"
  organizationId := prior.organizationId
  organizationName := prior.organizationName
  donationId := prior.donationId
  donorId := prior.donorId
  allocationId := prior.allocationId
  allocationName := prior.allocationName
  restrictionType := prior.restrictionType
  expenditureExpenseId := expense.id
  vendor := prior.vendor
  grossAmount := prior.grossAmount
  attributedAmount := if kind = "REVERSAL" then 0 else prior.attributedAmount
  purchaseDate := prior.purchaseDate
  category := prior.category
  description := prior.description
  verificationState := expense.state.value
  remainingDesignatedBalance := l.donorRemainingOnAllocation prior.donationId prior.allocationId
  attributionMethod := prior.attributionMethod
  policyVersion := l.organization.policyVersion
  approvedBy := orElse expense.approvedBy prior.approvedBy
  currency := prior.currency
  receiptHash := stableHash (.obj [
    ("type", .str "USE_OF_FUNDS"),
    ("corrected", .bool true),
    ("correction_kind", .str kind),
    ("corrects_receipt_id", .str prior.receiptId),
    ("expense_id", .str expense.id),
    ("verification_state", .str expense.state.value),
    ("reason", .str reason),
    ("replacement_expense_id", Json.ofOption replacementExpenseId),
    ("created_at", .str (host.nowIso "uofc" i)),
    ("prior_receipt_hash", .str prior.receiptHash)])
  createdAt := host.nowIso "uofc" i
  corrected := true
  correctsReceiptId := some prior.receiptId
  correctionKind := some kind
  evidenceSummary := some reason
  provenance := [
    ("actor", .str actor),
    ("policy_version", .str l.organization.policyVersion),
    ("prior_receipt_hash", .str prior.receiptHash),
    ("replacement_expense_id", Json.ofOption replacementExpenseId)]

def publishCorrectionReceipt (i : Nat) (prior : UseOfFundsReceipt) (expense : Expense)
    (actor kind reason : String) (replacementExpenseId : Option Id) :
    LedgerM UseOfFundsReceipt := do
  let l ← get
  let correction := correctionReceipt host l i prior expense actor kind reason replacementExpenseId
  modify (storeReceipt expense.id correction)
  audit host "UseOfFundsCorrectionPublished" "UseOfFundsReceipt" correction.receiptId actor (.obj [
    ("kind", .str kind),
    ("corrects_receipt_id", .str prior.receiptId),
    ("receipt_hash", .str correction.receiptHash)])
  return correction

/-- `{rid: self.get_receipt_snapshot(rid) for rid in prior_receipt_ids}`. -/
def priorSnapshots : List Id → LedgerM (List (Id × Json))
  | [] => pure []
  | rid :: rids => do
      let snap ← getReceiptSnapshot rid
      let rest ← priorSnapshots rids
      return (rid, snap) :: rest

/-- The snapshot must still match the stored receipt (no silent mutation). -/
def checkSnapshot (snap : Json) (prior : UseOfFundsReceipt) : LedgerM Unit := do
  let snapId ← orRaise (keyError "receipt_id") (snap.field? "receipt_id")
  raiseIf (snapId.str? ≠ some prior.receiptId) (invariantError "prior receipt snapshot mismatch")
  let provenance ← orRaise (keyError "provenance") (snap.field? "provenance")
  let snapHash ← orRaise (keyError "receipt_hash") (provenance.field? "receipt_hash")
  raiseIf (snapHash.str? ≠ some prior.receiptHash)
    (invariantError "prior receipt was silently mutated")

/-- The correction loop of a reversal, from the `i`-th prior receipt on. -/
def reversalCorrections (expense : Expense) (actor reason : String) :
    Nat → List (Id × Json) → LedgerM (List UseOfFundsReceipt)
  | _, [] => pure []
  | i, (rid, snap) :: rest => do
      let l ← get
      let prior ← orRaise (keyError rid) (l.receipts.get? rid)
      checkSnapshot snap prior
      let correction ← publishCorrectionReceipt host i prior expense actor "REVERSAL" reason none
      let corrections ← reversalCorrections expense actor reason (i + 1) rest
      return correction :: corrections

/-- `with_expense_state(expense, state, history_note=reason)`. -/
def correctedExpense (expense : Expense) (state : ExpenseState) (reason : String) : Expense :=
  { withExpenseState expense state with historyNote := some reason }

/-- Mark an expense REVERSED and publish corrections for its receipts. -/
def reverseExpense (expenseId : Id) (actor reason : String) :
    LedgerM (Expense × List UseOfFundsReceipt) := do
  let expense ← requireExpense expenseId
  raiseIf (expense.state ∉ verifiedExpenseStates)
    (stateError "only APPROVED or RECONCILED expenses can be reversed")
  let l ← get
  let priorReceiptIds := (l.expenseReceipts.get? expenseId).getD []
  let snapshots ← priorSnapshots priorReceiptIds
  let reversedExpense := correctedExpense expense .reversed reason
  modify fun l => { l with expenses := l.expenses.set expenseId reversedExpense }
  audit host "ExpenseReversed" "Expense" expenseId actor (.obj [
    ("reason", .str reason),
    ("prior_receipts", .arr (priorReceiptIds.map .str))])
  let corrections ← reversalCorrections host reversedExpense actor reason 0 snapshots
  return (reversedExpense, corrections)

/-- The correction loop of a supersession, from the `i`-th prior receipt on. -/
def supersedeCorrections (expense : Expense) (actor reason : String) (replacementId : Id) :
    Nat → List Id → LedgerM (List UseOfFundsReceipt)
  | _, [] => pure []
  | i, rid :: rids => do
      let l ← get
      let prior ← orRaise (keyError rid) (l.receipts.get? rid)
      let correction ← publishCorrectionReceipt host i prior expense actor "SUPERSEDE" reason
        (some replacementId)
      let corrections ← supersedeCorrections expense actor reason replacementId (i + 1) rids
      return correction :: corrections

/-- The record a replacement is imported as. -/
def replacementExpense (replacement : Expense) (expenseId : Id) (reason : String) : Expense where
  id := replacement.id
  organizationId := replacement.organizationId
  vendor := replacement.vendor
  amount := replacement.amount
  currency := replacement.currency
  purchaseDate := replacement.purchaseDate
  category := replacement.category
  description := replacement.description
  state := .imported
  externalSourceId := replacement.externalSourceId
  supersedesId := some expenseId
  historyNote := some reason

/-- Supersede an approved expense with a new record: the old one becomes
SUPERSEDED, the new one is imported, allocated and approved. -/
def supersedeExpense (expenseId : Id) (replacement : Expense)
    (splits : List (Id × Decimal.Amount)) (actor reason approvedBy : String) :
    LedgerM (Expense × Expense × List UseOfFundsReceipt) := do
  let old ← requireExpense expenseId
  raiseIf (old.state ∉ verifiedExpenseStates)
    (stateError "only APPROVED or RECONCILED expenses can be superseded")
  let l ← get
  let priorReceiptIds := (l.expenseReceipts.get? expenseId).getD []
  let superseded := correctedExpense old .superseded reason
  -- The old record is flipped before the replacement is looked at.
  modify fun l => { l with expenses := l.expenses.set expenseId superseded }
  raiseIf (replacement.id = expenseId)
    (invariantError "replacement expense must have a new id")
  raiseIf (replacement.organizationId ≠ l.organization.id)
    (invariantError "replacement organization_id mismatch")
  let repl := replacementExpense replacement expenseId reason
  let _ ← importExpense host repl
  let _ ← allocateExpenseSplits host repl.id splits
  let approved ← approveExpense host repl.id approvedBy
  audit host "ExpenseSuperseded" "Expense" expenseId actor (.obj [
    ("replacement_id", .str repl.id),
    ("reason", .str reason)])
  let corrections ← supersedeCorrections host superseded actor reason repl.id 0 priorReceiptIds
  return (superseded, approved, corrections)

/-- A replacement that a record can hold and no import accepts: its amount is a quiet NaN,
which `money` returns as it is, or its id a value that cannot be hashed. -/
inductive UnfitReplacement where
  | nanAmount (id : KeyValue)
  | unhashableId (typeName : String) (amount : Int)
deriving DecidableEq, Repr

/-- What `import_expense` raises for it, once its organization is the ledger's. -/
def UnfitReplacement.refusal : UnfitReplacement → PyExc
  | .nanAmount _ => invalidOperation
  | .unhashableId typeName amount =>
      if amount ≤ 0 then invariantError "expense amount must be positive"
      else unhashableError typeName

/-- What is left of a supersession by such a replacement once the old record is flipped. -/
def refuseUnfit {α : Type} (expenseId organizationId : Id) (replacement : UnfitReplacement) :
    LedgerM α := do
  let l ← get
  raiseIf (replacement = .nanAmount (.text expenseId))
    (invariantError "replacement expense must have a new id")
  raiseIf (organizationId ≠ l.organization.id)
    (invariantError "replacement organization_id mismatch")
  throw replacement.refusal

/-- `supersede_expense` with such a replacement. -/
def supersedeByUnfit {α : Type} (expenseId organizationId : Id) (replacement : UnfitReplacement)
    (reason : String) : LedgerM α := do
  let old ← requireExpense expenseId
  raiseIf (old.state ∉ verifiedExpenseStates)
    (stateError "only APPROVED or RECONCILED expenses can be superseded")
  modify fun l => { l with
    expenses := l.expenses.set expenseId (correctedExpense old .superseded reason) }
  refuseUnfit expenseId organizationId replacement

/-! ## Refused mutations -/

def mutateReceipt (_receiptId : Id) : LedgerM Unit :=
  throw (stateError
    "silent mutation of receipts is forbidden; use reverse_expense or supersede_expense")

def mutateApprovedExpense (expenseId : Id) : LedgerM Unit := do
  let expense ← requireExpense expenseId
  raiseIf (expense.state ∈ verifiedExpenseStates ++ correctedExpenseStates)
    (stateError "silent mutation of approved/corrected expenses is forbidden; use reverse_expense or supersede_expense")
  throw (stateError "use domain transition methods instead of mutate_approved_expense")

end Ledger

/-! ## Calls -/

/-- A call of a public method with its arguments. -/
inductive Op where
  | registerDonor (donor : Donor)
  | importDonation (donation : Donation)
  | registerAllocation (allocation : Allocation)
  | assignDonationAllocation (donationId allocationId : Id) (amount : Decimal.Amount)
      (donationAllocationId : Option Id)
  | importExpense (expense : Expense)
  | attachEvidence (evidence : EvidenceRecord)
  | allocateExpense (expenseId allocationId : Id) (amount : Decimal.Amount)
      (expenseAllocationId : Option Id)
  | allocateExpenseSplits (expenseId : Id) (splits : List (Id × Decimal.Amount))
  | approveExpense (expenseId : Id) (approvedBy : String)
  | reconcileExpense (expenseId : Id) (actor : String)
  | attributeDonorToExpense (donorId donationId expenseId allocationId : Id)
      (method : AttributionMethod) (attributedAmount : Option Decimal.Amount)
      (attributionId : Option Id)
  | publishUseOfFundsReceipt (expenseId donationId allocationId : Id) (actor : String)
      (createdAt : Option String)
  | getReceipt (receiptId : Id)
  | getReceiptSnapshot (receiptId : Id)
  | reverseExpense (expenseId : Id) (actor reason : String)
  | supersedeExpense (expenseId : Id) (replacement : Expense)
      (splits : List (Id × Decimal.Amount)) (actor reason approvedBy : String)
  | mutateReceipt (receiptId : Id)
  | mutateApprovedExpense (expenseId : Id)
  | allocationRemainingBalance (allocationId : Id)
  | donorRemainingOnAllocation (donationId allocationId : Id)

namespace Ledger

variable [Digest]

/-- Run one call; what it returns is dropped. -/
def exec (host : Host) : Op → LedgerM Unit
  | .registerDonor donor => (fun _ => ()) <$> registerDonor host donor
  | .importDonation donation => (fun _ => ()) <$> importDonation host donation
  | .registerAllocation allocation => (fun _ => ()) <$> registerAllocation host allocation
  | .assignDonationAllocation donationId allocationId amount daId =>
      (fun _ => ()) <$> assignDonationAllocation host donationId allocationId amount daId
  | .importExpense expense => (fun _ => ()) <$> importExpense host expense
  | .attachEvidence evidence => (fun _ => ()) <$> attachEvidence host evidence
  | .allocateExpense expenseId allocationId amount eaId =>
      (fun _ => ()) <$> allocateExpense host expenseId allocationId amount eaId
  | .allocateExpenseSplits expenseId splits =>
      (fun _ => ()) <$> allocateExpenseSplits host expenseId splits
  | .approveExpense expenseId approvedBy => (fun _ => ()) <$> approveExpense host expenseId approvedBy
  | .reconcileExpense expenseId actor => (fun _ => ()) <$> reconcileExpense host expenseId actor
  | .attributeDonorToExpense donorId donationId expenseId allocationId method amount attrId =>
      (fun _ => ()) <$> attributeDonorToExpense host donorId donationId expenseId allocationId
        method amount attrId
  | .publishUseOfFundsReceipt expenseId donationId allocationId actor createdAt =>
      (fun _ => ()) <$> publishUseOfFundsReceipt host expenseId donationId allocationId actor
        createdAt
  | .getReceipt receiptId => (fun _ => ()) <$> getReceipt receiptId
  | .getReceiptSnapshot receiptId => (fun _ => ()) <$> getReceiptSnapshot receiptId
  | .reverseExpense expenseId actor reason =>
      (fun _ => ()) <$> reverseExpense host expenseId actor reason
  | .supersedeExpense expenseId replacement splits actor reason approvedBy =>
      (fun _ => ()) <$> supersedeExpense host expenseId replacement splits actor reason approvedBy
  | .mutateReceipt receiptId => mutateReceipt receiptId
  | .mutateApprovedExpense expenseId => mutateApprovedExpense expenseId
  | .allocationRemainingBalance allocationId =>
      (fun _ => ()) <$> allocationRemainingBalance allocationId
  | .donorRemainingOnAllocation _ _ => pure ()

/-- One call with what it draws from the host. -/
structure Call where
  host : Host
  op : Op

/-- The calls of a script, each with its own draws. -/
def script (ops : List Op) : List Call := ops.zipIdx.map fun e => ⟨.numbered e.2, e.1⟩

/-- A caller goes on after an exception: the ledger is what the call left behind. -/
def step (l : Ledger) (c : Call) : Ledger := after (exec c.host c.op) l

/-! ## A small organization -/

namespace Sample

def organization : Organization := { id := "org", name := "Food Bank" }

def expense (id : Id) (amount : Int) : Expense :=
  { id, organizationId := "org", vendor := "Vendor", amount, currency := "USD",
    purchaseDate := "2026-01-02", category := "food", description := "groceries",
    state := .imported }

def fund : Allocation :=
  { id := "fund", organizationId := "org", name := "Meals", purpose := "food",
    restrictionType := .donorRestricted }

def donation : Donation :=
  { id := "gift", organizationId := "org", donorId := "donor", amount := 10000,
    currency := "USD", cleared := true, externalSourceId := "x1", receivedAt := "2026-01-01" }

/-- One donor gives 100.00, all of it designated to one fund. -/
def gift : List Op := [
  .registerDonor { id := "donor", organizationId := "org", displayName := "Donor" },
  .registerAllocation fund,
  .importDonation donation,
  .assignDonationAllocation "gift" "fund" (.finite 100 0) none]

/-- That many cents given and designated to the fund. -/
def given (id : Id) (cents : Int) : List Op := [
  .importDonation { donation with id, amount := cents },
  .assignDonationAllocation id "fund" (Decimal.ofCents cents) none]

/-- That many cents spent from the fund. -/
def spent (id : Id) (cents : Int) : List Op := [
  .importExpense (expense id cents),
  .allocateExpenseSplits id [("fund", Decimal.ofCents cents)],
  .approveExpense id "human:finance"]

end Sample

end Ledger

end ImpactRelay
