/-
# `Domain.DonorReads` — timeline, receipts, details and dashboard

The projections of `DonorReadService` (`domain/donor_views.py`) over a whole
tenant: its ledger, its impact stores and its notification stores.  Each
projection goes through shared stores and passes over what is not the donor's.

What a donor has is named once (`donationsOf`, `receiptsOf`, …), and a loop that
passes over the rest is a pass over these lists.  A detail is looked up by the
id of the receipt instead, and asks whose it is afterwards.
-/
import ImpactRelay.Domain.DonorViews
import ImpactRelay.Domain.Impact
import ImpactRelay.Domain.Notifications

namespace ImpactRelay

/-- A tenant's workspace with all of its stores. -/
structure Tenant where
  ledger : Ledger
  impact : ImpactStores := {}
  notifications : TenantWorkspace := {}

structure TimelineEvent where
  at_ : String
  kind : String
  summary : String
  refs : List (String × Json)

def TimelineEvent.toDict (e : TimelineEvent) : Json :=
  .obj [
    ("at", .str e.at_),
    ("kind", .str e.kind),
    ("summary", .str e.summary),
    ("refs", .obj e.refs)]

/-- `sorted(items, key=…)` for a key that is a text: stable. -/
def sortedBy {α : Type} (key : α → String) (items : List α) : List α :=
  items.mergeSort fun a b => decide (key a ≤ key b)

/-! ## What a donor has -/

namespace Tenant

variable (ws : Tenant) (donorId : Id)

abbrev donationsOf : List Donation := DonorReadService.donationsOf ws.ledger donorId

/-- The designations of the donor's donations. -/
def designationsOf : List DonationAllocation :=
  ws.ledger.donationAllocations.values.filter fun da =>
    da.donationId ∈ (ws.donationsOf donorId).map (·.id)

def attributionsOf : List DonorExpenseAttribution :=
  ws.ledger.attributions.values.filter fun attr => attr.donorId = donorId

/-- The donor's use-of-funds receipts. -/
def receiptsOf : List UseOfFundsReceipt :=
  ws.ledger.receipts.values.filter fun r => r.donorId = donorId

def impactReceiptsOf : List ImpactReceipt :=
  ws.impact.impactReceipts.rows.filter fun ir => ir.donorId = donorId

def consentsOf : List ConsentRecord :=
  (ws.notifications.consents.entries.filter fun e => e.1.1 = donorId).map Prod.snd

def preferencesOf : List NotificationPreference :=
  (ws.notifications.preferences.entries.filter fun e => e.1.1 = donorId).map Prod.snd

def intentsOf : List NotificationIntent :=
  ws.notifications.intents.values.filter fun i => i.donorId = donorId

def deliveriesOf : List NotificationDelivery :=
  ws.notifications.deliveries.values.filter fun d => d.donorId = donorId

end Tenant

/-! ## Attribution copy -/

namespace DonorReadService

/-- Human-readable attribution copy. -/
def attributionExplanations : List (String × String) := [
  ("DIRECT_RESTRICTED",
    "Your gift was restricted to this fund and this purchase used that designation directly."),
  ("PRO_RATA_POOL",
    "Your gift shared a pool with other donors. The amount shown is your proportional share of the pool used for this purchase."),
  ("FIFO_ALLOCATION",
    "Gifts to this fund are used first-in, first-out. This purchase drew from the oldest remaining designated balance, including yours as applicable."),
  ("COHORT_ALLOCATION",
    "Your gift was part of a cohort that jointly funded this activity. The amount reflects the cohort allocation rules."),
  ("ASSET_SPONSORSHIP",
    "Your gift is linked to a funded asset (equipment or facility). This receipt shows use associated with that asset."),
  ("EXPENSE_BACKED",
    "This amount is backed by a verified expense recorded in the organization ledger."),
  ("MANUAL_APPROVED", "Finance staff approved a manual attribution under organization policy."),
  ("NONE", "No individual donor attribution applies to this item.")]

def attributionExplanation (method : String) : String :=
  match attributionExplanations.find? fun e => e.1 = method with
  | some (_, text) => text
  | none => s!"Attributed using method {method} under organization policy."

variable (ws : Tenant) (donorId : Id)

/-! ## The timeline -/

/-- The designations of one donation. -/
def designationsFor (ledger : Ledger) (donationId : Id) : List DonationAllocation :=
  ledger.donationAllocations.values.filter fun da => da.donationId = donationId

def donationReceived (don : Donation) : TimelineEvent where
  at_ := don.receivedAt
  kind := "DONATION_RECEIVED"
  summary := s!"Donation {don.id} received ({Decimal.toStr don.amount} {don.currency})"
  refs := [("donation_id", .str don.id), ("amount", .str (Decimal.toStr don.amount))]

/-- `self.ledger.allocations[da.allocation_id]` may raise. -/
def allocationAssigned (don : Donation) (da : DonationAllocation) : Except PyExc TimelineEvent :=
  match ws.ledger.allocations.get? da.allocationId with
  | none => .error (keyError da.allocationId)
  | some alloc => .ok {
      at_ := don.receivedAt
      kind := "ALLOCATION_ASSIGNED"
      summary := s!"Assigned {Decimal.toStr da.amount} to {alloc.name}"
      refs := [("donation_id", .str don.id), ("allocation_id", .str da.allocationId),
        ("amount", .str (Decimal.toStr da.amount))] }

/-- The events of the designations, up to the first that raises. -/
def assignments (don : Donation) : List DonationAllocation → Except PyExc (List TimelineEvent)
  | [] => .ok []
  | da :: das => do
      let event ← allocationAssigned ws don da
      let events ← assignments don das
      return event :: events

/-- The donations with their designations. -/
def donationEvents : List Donation → Except PyExc (List TimelineEvent)
  | [] => .ok []
  | don :: dons => do
      let assigned ← assignments ws don (designationsFor ws.ledger don.id)
      let events ← donationEvents dons
      return donationReceived don :: assigned ++ events

/-- The kind of a correction as it stands in a text. -/
def kindText (r : UseOfFundsReceipt) : String := r.correctionKind.getD "None"

def receiptEvent (r : UseOfFundsReceipt) : TimelineEvent :=
  if r.corrected then {
    at_ := r.createdAt
    kind := "CORRECTION"
    summary := s!"Correction ({kindText r}) for prior receipt"
    refs := [("receipt_id", .str r.receiptId),
      ("corrects_receipt_id", Json.ofOption r.correctsReceiptId),
      ("kind", Json.ofOption r.correctionKind)] }
  else {
    at_ := truthyOr (some r.createdAt) r.purchaseDate
    kind := "USE_OF_FUNDS"
    summary := s!"Purchase: {r.description} ({Decimal.toStr r.attributedAmount} {r.currency})"
    refs := [("receipt_id", .str r.receiptId), ("expense_id", .str r.expenditureExpenseId),
      ("allocation_id", .str r.allocationId), ("verification_state", .str r.verificationState)] }

def impactEvent (ir : ImpactReceipt) : TimelineEvent where
  at_ := truthyOr (some ir.createdAt) ir.eventDate
  kind := "IMPACT"
  summary := s!"Impact: {ir.programName} — {ir.eventType} ({ir.participants} participants)"
  refs := [("receipt_id", .str ir.receiptId), ("impact_event_id", .str ir.impactEventId),
    ("program_id", .str ir.programId)]

def fundTimeline : Except PyExc (List TimelineEvent) := do
  requireDonor ws.ledger donorId
  let donations ← donationEvents ws (ws.donationsOf donorId)
  return sortedBy (·.at_) (donations ++ (ws.receiptsOf donorId).map receiptEvent ++
    (ws.impactReceiptsOf donorId).map impactEvent)

/-! ## The receipts -/

/-- `d.get(key) or ""` for a text. -/
def textAt (d : Json) (key : String) : String := ((d.field? key).bind Json.str?).getD ""

/-- `d.get("provenance", {}).get("created_at", "")`. -/
def provenanceCreatedAt (d : Json) : String :=
  textAt ((d.field? "provenance").getD (.obj [])) "created_at"

def listReceipts : Except PyExc (List Json) := do
  requireDonor ws.ledger donorId
  return sortedBy provenanceCreatedAt ((ws.receiptsOf donorId).map (·.toDict) ++
    (ws.impactReceiptsOf donorId).map (·.toDict))

/-! ## The detail of a receipt -/

/-- A correction in the history of a receipt. -/
def historyEntry (r : UseOfFundsReceipt) : Json :=
  .obj [
    ("receipt_id", .str r.receiptId),
    ("correction_kind", Json.ofOption r.correctionKind),
    ("corrects_receipt_id", Json.ofOption r.correctsReceiptId),
    ("attributed_amount", .str (Decimal.toStr r.attributedAmount)),
    ("created_at", .str r.createdAt),
    ("verification_state", .str r.verificationState),
    ("receipt_hash", .str r.receiptHash)]

/-- The receipt that a correction corrects, in the history of the correction. -/
def originalEntry (prior : UseOfFundsReceipt) : Json :=
  .obj [
    ("receipt_id", .str prior.receiptId),
    ("correction_kind", .null),
    ("corrects_receipt_id", .null),
    ("attributed_amount", .str (Decimal.toStr prior.attributedAmount)),
    ("created_at", .str prior.createdAt),
    ("verification_state", .str prior.verificationState),
    ("receipt_hash", .str prior.receiptHash),
    ("role", .str "original")]

/-- A correction of the receipt, or the receipt itself when it is one. -/
def inHistory (receiptId : Id) (r : UseOfFundsReceipt) : Bool :=
  decide (r.correctsReceiptId = some receiptId) || (r.corrected && decide (r.receiptId = receiptId))

/-- The donor's receipt that the one with this id corrects. -/
def priorOf (receiptId : Id) : Option UseOfFundsReceipt := do
  let root ← ws.ledger.receipts.get? receiptId
  let priorId ← orElse root.correctsReceiptId none
  let prior ← ws.ledger.receipts.get? priorId
  if prior.donorId = donorId then some prior else none

/-- Chain of correction receipts that correct this receipt (or are prior). -/
def correctionHistory (receiptId : Id) : Except PyExc (List Json) := do
  requireDonor ws.ledger donorId
  return sortedBy (textAt · "created_at")
    ((priorOf ws donorId receiptId).toList.map originalEntry ++
      ((ws.receiptsOf donorId).filter (inHistory receiptId)).map historyEntry)

def attachment (ev : EvidenceRecord) : Json :=
  .obj [
    ("id", .str ev.id),
    ("kind", .str ev.kind),
    ("summary", .str ev.summary),
    ("donor_visible", .bool true),
    -- host may resolve object storage key
    ("object_key", .str s!"evidence/{ev.id}")]

/-- The receipt's own summary, when there is one and no attachment. -/
def summaryAttachment (r : UseOfFundsReceipt) : List Json :=
  match orElse r.evidenceSummary none with
  | none => []
  | some summary => [.obj [
      ("id", .null),
      ("kind", .str "summary"),
      ("summary", .str summary),
      ("donor_visible", .bool true),
      ("object_key", .null)]]

/-- Donor-visible evidence refs only. -/
def evidenceSafeAttachments (receiptId : Id) : Except PyExc (List Json) := do
  requireDonor ws.ledger donorId
  match ws.ledger.receipts.get? receiptId with
  | none => return []
  | some r =>
      if r.donorId ≠ donorId then return []
      else
        let out := (ws.ledger.evidence.values.filter fun ev =>
          decide (ev.expenseId = r.expenditureExpenseId) && ev.donorVisible).map attachment
        return if out.isEmpty then summaryAttachment r else out

/-- The detail of a use-of-funds receipt of the donor. -/
def useOfFundsDetail (receiptId : Id) (r : UseOfFundsReceipt) : Except PyExc Json := do
  let history ← correctionHistory ws donorId receiptId
  let attachments ← evidenceSafeAttachments ws donorId receiptId
  let balances ← allocationBalances ws.ledger donorId
  return .obj (Json.merge r.toDict.fields [
    ("attribution_explanation", .str (attributionExplanation r.attributionMethod)),
    ("remaining_designated_balance", .str (Decimal.toStr r.remainingDesignatedBalance)),
    ("correction_history", .arr history),
    ("evidence_attachments", .arr attachments),
    ("balances_for_allocation",
      .arr ((balances.filter fun b => b.allocationId = r.allocationId).map (·.toDict)))])

def impactDetail (ir : ImpactReceipt) : Json :=
  .obj (Json.merge ir.toDict.fields [
    ("attribution_explanation", .str (attributionExplanation ir.attributionMethod)),
    ("correction_history", .arr []),
    ("evidence_attachments", .arr [])])

def receiptNotFound (receiptId : Id) : PyExc := notFoundError s!"receipt not found: {receiptId}"

/-- Full donor-facing UOF (or impact) receipt with explanations + lineage. -/
def getReceiptDetail (receiptId : Id) : Except PyExc Json := do
  requireDonor ws.ledger donorId
  match ws.ledger.receipts.get? receiptId with
  | some r =>
      if r.donorId ≠ donorId then .error (receiptNotFound receiptId)
      else useOfFundsDetail ws donorId receiptId r
  | none =>
      match ws.impact.impactReceipts.find? receiptId with
      | some ir =>
          if ir.donorId ≠ donorId then .error (receiptNotFound receiptId)
          else return impactDetail ir
      | none => .error (receiptNotFound receiptId)

/-! ## The dashboard -/

/-- Composite read model. -/
def donorDashboard : Except PyExc Json := do
  requireDonor ws.ledger donorId
  let balances ← allocationBalances ws.ledger donorId
  let timeline ← fundTimeline ws donorId
  let receipts ← listReceipts ws donorId
  return .obj [
    ("organization_id", .str ws.ledger.organization.id),
    ("donor_id", .str donorId),
    ("allocations", .arr (balances.map (·.toDict))),
    ("timeline", .arr (timeline.map (·.toDict))),
    ("receipts", .arr receipts),
    ("attribution_methods_explained",
      .obj (attributionExplanations.map fun e => (e.1, .str e.2)))]

end DonorReadService

end ImpactRelay
