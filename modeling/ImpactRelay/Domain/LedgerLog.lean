/-
# `Domain.LedgerLog` — entity snapshots and the fold that reads them back

`domain/ledger_log.py`.  A logged command carries every entity map of the
ledger as JSON; rehydration folds the rows over an empty ledger, entry by entry,
and never runs a command again.  An entity is read back as it was written
(`…_toJson`), provided its amounts have no more digits than the decimal context
(`AmountsFit`), and a row gives back the maps it was taken from when the ledger
it is folded into holds an earlier state of them that has only grown since
(`applyResultJson_grown`).

A row is kept as its JSON value: the text between `json.dumps` and `json.loads`
is not modelled.
-/
import ImpactRelay.Domain.Ledger

namespace ImpactRelay

open Raise

/-! ## Reading an object -/

/-- `d[key]`. -/
def item (d : Json) (key : String) : Except PyExc Json :=
  match d.field? key with
  | some value => .ok value
  | none => .error (keyError key)

def notText (key : String) : PyExc := ⟨.typeError, s!"{key} is not a text"⟩

def textField (d : Json) (key : String) : Except PyExc String :=
  match item d key with
  | .error e => .error e
  | .ok (.str s) => .ok s
  | .ok _ => .error (notText key)

/-- `d.get(key, default)` on texts. -/
def textOr (d : Json) (key default : String) : Except PyExc String :=
  match d.field? key with
  | none => .ok default
  | some (.str s) => .ok s
  | some _ => .error (notText key)

/-- `d.get(key)` on texts. -/
def optText (d : Json) (key : String) : Except PyExc (Option String) :=
  match d.field? key with
  | none => .ok none
  | some .null => .ok none
  | some (.str s) => .ok (some s)
  | some _ => .error (notText key)

/-- `bool(d.get(key, default))`. -/
def flagOr (d : Json) (key : String) (default : Bool) : Bool :=
  match d.field? key with
  | none => default
  | some value => value.truthy

/-- `_money_field(d, key)`; no snapshot has a NaN, which `money` would let through. -/
def moneyField (d : Json) (key : String) : Except PyExc Int :=
  match item d key with
  | .error e => .error e
  | .ok (.str s) => orderedMoney (Decimal.ofText s)
  | .ok (.num n) => orderedMoney (.finite n 0)
  | .ok (.float text) => orderedMoney (Decimal.ofText text)
  | .ok _ => .error (notText key)

/-- The member of an enumeration with this value. -/
def memberOf {α : Type} (name : String) (members : List α) (value : α → String) (text : String) :
    Except PyExc α :=
  match members.find? (fun m => value m = text) with
  | some m => .ok m
  | none => .error ⟨.valueError, s!"'{text}' is not a valid {name}"⟩

def restrictionTypeOf : String → Except PyExc RestrictionType :=
  memberOf "RestrictionType"
    [.unrestricted, .boardDesignated, .donorDesignated, .donorRestricted, .grantRestricted,
      .sponsorRestricted, .inKind] RestrictionType.value

def expenseStateOf : String → Except PyExc ExpenseState :=
  memberOf "ExpenseState"
    [.draft, .imported, .classificationPending, .approvalPending, .approved, .reconciled,
      .rejected, .reversed, .superseded] ExpenseState.value

/-- `AttributionMethod(text)`. -/
def attributionMethodOf : String → Except PyExc AttributionMethod :=
  memberOf "AttributionMethod" (allowedAttributionMethods ++ [AttributionMethod.none])
    AttributionMethod.value

@[simp] theorem restrictionTypeOf_value (t : RestrictionType) :
    restrictionTypeOf t.value = .ok t := by
  cases t <;> rfl

@[simp] theorem expenseStateOf_value (s : ExpenseState) : expenseStateOf s.value = .ok s := by
  cases s <;> rfl

@[simp] theorem attributionMethodOf_value (m : AttributionMethod) :
    attributionMethodOf m.value = .ok m := by
  cases m <;> rfl

theorem money_ofText_toStr {cents : Int} (h : Fits cents) :
    orderedMoney (Decimal.ofText (Decimal.toStr cents)) = .ok cents := by
  rw [Decimal.ofText_toStr h, orderedMoney_ofCents h]

theorem moneyField_toStr {d : Json} {key : String} {cents : Int}
    (hfield : d.field? key = some (.str (Decimal.toStr cents))) (h : Fits cents) :
    moneyField d key = .ok cents := by
  rw [moneyField, item, hfield]
  exact money_ofText_toStr h

theorem optText_ofOption {d : Json} {key : String} {o : Option String}
    (hfield : d.field? key = some (Json.ofOption o)) : optText d key = .ok o := by
  rw [optText, hfield]
  cases o <;> rfl

/-! ## Entities -/

def Donor.toJson (d : Donor) : Json :=
  .obj [("id", .str d.id), ("organization_id", .str d.organizationId),
    ("display_name", .str d.displayName)]

def donorFromDict (raw : Json) : Except PyExc Donor := do
  return { id := ← textField raw "id", organizationId := ← textField raw "organization_id",
           displayName := ← textField raw "display_name" }

theorem donorFromDict_toJson (d : Donor) : donorFromDict d.toJson = .ok d := rfl

def Allocation.toJson (a : Allocation) : Json :=
  .obj [("id", .str a.id), ("organization_id", .str a.organizationId), ("name", .str a.name),
    ("purpose", .str a.purpose), ("restriction_type", .str a.restrictionType.value)]

def allocationFromDict (raw : Json) : Except PyExc Allocation := do
  return { id := ← textField raw "id", organizationId := ← textField raw "organization_id",
           name := ← textField raw "name", purpose := ← textOr raw "purpose" "",
           restrictionType := ← textField raw "restriction_type" >>= restrictionTypeOf }

theorem allocationFromDict_toJson (a : Allocation) : allocationFromDict a.toJson = .ok a := by
  have htype : (textField a.toJson "restriction_type" >>= restrictionTypeOf) =
      .ok a.restrictionType := restrictionTypeOf_value a.restrictionType
  rw [allocationFromDict, htype]
  rfl

def Donation.toJson (d : Donation) : Json :=
  .obj [("id", .str d.id), ("organization_id", .str d.organizationId), ("donor_id", .str d.donorId),
    ("amount", .str (Decimal.toStr d.amount)), ("currency", .str d.currency),
    ("cleared", .bool d.cleared), ("external_source_id", .str d.externalSourceId),
    ("received_at", .str d.receivedAt)]

def donationFromDict (raw : Json) : Except PyExc Donation := do
  return { id := ← textField raw "id", organizationId := ← textField raw "organization_id",
           donorId := ← textField raw "donor_id", amount := ← moneyField raw "amount",
           currency := ← textOr raw "currency" "USD", cleared := flagOr raw "cleared" true,
           externalSourceId := ← textField raw "external_source_id",
           receivedAt := ← textField raw "received_at" }

theorem donationFromDict_toJson {d : Donation} (h : Fits d.amount) :
    donationFromDict d.toJson = .ok d := by
  have hamount : moneyField d.toJson "amount" = .ok d.amount :=
    moneyField_toStr rfl h
  rw [donationFromDict, hamount]
  rfl

def DonationAllocation.toJson (da : DonationAllocation) : Json :=
  .obj [("id", .str da.id), ("donation_id", .str da.donationId),
    ("allocation_id", .str da.allocationId), ("amount", .str (Decimal.toStr da.amount))]

def donationAllocationFromDict (raw : Json) : Except PyExc DonationAllocation := do
  return { id := ← textField raw "id", donationId := ← textField raw "donation_id",
           allocationId := ← textField raw "allocation_id", amount := ← moneyField raw "amount" }

theorem donationAllocationFromDict_toJson {da : DonationAllocation} (h : Fits da.amount) :
    donationAllocationFromDict da.toJson = .ok da := by
  have hamount : moneyField da.toJson "amount" = .ok da.amount :=
    moneyField_toStr rfl h
  rw [donationAllocationFromDict, hamount]
  rfl

def Expense.toJson (e : Expense) : Json :=
  .obj [("id", .str e.id), ("organization_id", .str e.organizationId), ("vendor", .str e.vendor),
    ("amount", .str (Decimal.toStr e.amount)), ("currency", .str e.currency),
    ("purchase_date", .str e.purchaseDate), ("category", .str e.category),
    ("description", .str e.description), ("state", .str e.state.value),
    ("external_source_id", Json.ofOption e.externalSourceId),
    ("approved_by", Json.ofOption e.approvedBy), ("reconciled_at", Json.ofOption e.reconciledAt),
    ("reversed_of_id", Json.ofOption e.reversedOfId),
    ("supersedes_id", Json.ofOption e.supersedesId),
    ("history_note", Json.ofOption e.historyNote)]

def expenseFromDict (d : Json) : Except PyExc Expense := do
  return { id := ← textField d "id", organizationId := ← textField d "organization_id",
           vendor := ← textField d "vendor", amount := ← moneyField d "amount",
           currency := ← textOr d "currency" "USD", purchaseDate := ← textField d "purchase_date",
           category := ← textField d "category", description := ← textOr d "description" "",
           state := ← textField d "state" >>= expenseStateOf,
           externalSourceId := ← optText d "external_source_id",
           approvedBy := ← optText d "approved_by", reconciledAt := ← optText d "reconciled_at",
           reversedOfId := ← optText d "reversed_of_id",
           supersedesId := ← optText d "supersedes_id", historyNote := ← optText d "history_note" }

theorem expenseFromDict_toJson {e : Expense} (h : Fits e.amount) :
    expenseFromDict e.toJson = .ok e := by
  have hamount : moneyField e.toJson "amount" = .ok e.amount := moneyField_toStr rfl h
  have hstate : (textField e.toJson "state" >>= expenseStateOf) = .ok e.state :=
    expenseStateOf_value e.state
  have hsource : optText e.toJson "external_source_id" = .ok e.externalSourceId :=
    optText_ofOption rfl
  have happroved : optText e.toJson "approved_by" = .ok e.approvedBy := optText_ofOption rfl
  have hreconciled : optText e.toJson "reconciled_at" = .ok e.reconciledAt := optText_ofOption rfl
  have hreversed : optText e.toJson "reversed_of_id" = .ok e.reversedOfId := optText_ofOption rfl
  have hsupersedes : optText e.toJson "supersedes_id" = .ok e.supersedesId := optText_ofOption rfl
  have hnote : optText e.toJson "history_note" = .ok e.historyNote := optText_ofOption rfl
  rw [expenseFromDict, hamount, hstate, hsource, happroved, hreconciled, hreversed, hsupersedes,
    hnote]
  rfl

def ExpenseAllocation.toJson (ea : ExpenseAllocation) : Json :=
  .obj [("id", .str ea.id), ("expense_id", .str ea.expenseId),
    ("allocation_id", .str ea.allocationId), ("amount", .str (Decimal.toStr ea.amount))]

def expenseAllocationFromDict (raw : Json) : Except PyExc ExpenseAllocation := do
  return { id := ← textField raw "id", expenseId := ← textField raw "expense_id",
           allocationId := ← textField raw "allocation_id", amount := ← moneyField raw "amount" }

theorem expenseAllocationFromDict_toJson {ea : ExpenseAllocation} (h : Fits ea.amount) :
    expenseAllocationFromDict ea.toJson = .ok ea := by
  have hamount : moneyField ea.toJson "amount" = .ok ea.amount := moneyField_toStr rfl h
  rw [expenseAllocationFromDict, hamount]
  rfl

def EvidenceRecord.toJson (ev : EvidenceRecord) : Json :=
  .obj [("id", .str ev.id), ("expense_id", .str ev.expenseId), ("kind", .str ev.kind),
    ("summary", .str ev.summary), ("donor_visible", .bool ev.donorVisible)]

def evidenceFromDict (raw : Json) : Except PyExc EvidenceRecord := do
  return { id := ← textField raw "id", expenseId := ← textField raw "expense_id",
           kind := ← textOr raw "kind" "invoice", summary := ← textOr raw "summary" "",
           donorVisible := flagOr raw "donor_visible" true }

theorem evidenceFromDict_toJson (ev : EvidenceRecord) : evidenceFromDict ev.toJson = .ok ev := rfl

def DonorExpenseAttribution.toJson (v : DonorExpenseAttribution) : Json :=
  .obj [("id", .str v.id), ("donor_id", .str v.donorId), ("donation_id", .str v.donationId),
    ("expense_id", .str v.expenseId), ("allocation_id", .str v.allocationId),
    ("attributed_amount", .str (Decimal.toStr v.attributedAmount)), ("method", .str v.method.value),
    ("policy_version", .str v.policyVersion), ("confidence", .str v.confidence)]

def attributionFromDict (raw : Json) : Except PyExc DonorExpenseAttribution := do
  return { id := ← textField raw "id", donorId := ← textField raw "donor_id",
           donationId := ← textField raw "donation_id", expenseId := ← textField raw "expense_id",
           allocationId := ← textField raw "allocation_id",
           attributedAmount := ← moneyField raw "attributed_amount",
           method := ← textField raw "method" >>= attributionMethodOf,
           policyVersion := ← textOr raw "policy_version" "v1.0",
           confidence := ← textOr raw "confidence" "policy" }

theorem attributionFromDict_toJson {v : DonorExpenseAttribution} (h : Fits v.attributedAmount) :
    attributionFromDict v.toJson = .ok v := by
  have hamount : moneyField v.toJson "attributed_amount" = .ok v.attributedAmount :=
    moneyField_toStr rfl h
  have hmethod : (textField v.toJson "method" >>= attributionMethodOf) = .ok v.method :=
    attributionMethodOf_value v.method
  rw [attributionFromDict, hamount, hmethod]
  rfl

def UseOfFundsReceipt.toJson (r : UseOfFundsReceipt) : Json :=
  .obj [("receipt_id", .str r.receiptId), ("type", .str r.type),
    ("organization_id", .str r.organizationId), ("organization_name", .str r.organizationName),
    ("donation_id", .str r.donationId), ("donor_id", .str r.donorId),
    ("allocation_id", .str r.allocationId), ("allocation_name", .str r.allocationName),
    ("restriction_type", .str r.restrictionType),
    ("expenditure_expense_id", .str r.expenditureExpenseId), ("vendor", .str r.vendor),
    ("gross_amount", .str (Decimal.toStr r.grossAmount)),
    ("attributed_amount", .str (Decimal.toStr r.attributedAmount)),
    ("purchase_date", .str r.purchaseDate), ("category", .str r.category),
    ("description", .str r.description), ("verification_state", .str r.verificationState),
    ("remaining_designated_balance", .str (Decimal.toStr r.remainingDesignatedBalance)),
    ("attribution_method", .str r.attributionMethod), ("policy_version", .str r.policyVersion),
    ("approved_by", Json.ofOption r.approvedBy), ("currency", .str r.currency),
    ("receipt_hash", .str r.receiptHash), ("created_at", .str r.createdAt),
    ("corrected", .bool r.corrected),
    ("corrects_receipt_id", Json.ofOption r.correctsReceiptId),
    ("correction_kind", Json.ofOption r.correctionKind),
    ("evidence_summary", Json.ofOption r.evidenceSummary), ("provenance", .obj r.provenance)]

def receiptFromDict (d : Json) : Except PyExc UseOfFundsReceipt := do
  return { receiptId := ← textField d "receipt_id", type := ← textOr d "type" "USE_OF_FUNDS",
           organizationId := ← textField d "organization_id",
           organizationName := ← textField d "organization_name",
           donationId := ← textField d "donation_id", donorId := ← textField d "donor_id",
           allocationId := ← textField d "allocation_id",
           allocationName := ← textField d "allocation_name",
           restrictionType := ← textOr d "restriction_type" "",
           expenditureExpenseId := ← textField d "expenditure_expense_id",
           vendor := ← textField d "vendor", grossAmount := ← moneyField d "gross_amount",
           attributedAmount := ← moneyField d "attributed_amount",
           purchaseDate := ← textField d "purchase_date", category := ← textField d "category",
           description := ← textOr d "description" "",
           verificationState := ← textField d "verification_state",
           remainingDesignatedBalance := ← moneyField d "remaining_designated_balance",
           attributionMethod := ← textField d "attribution_method",
           policyVersion := ← textOr d "policy_version" "v1.0",
           approvedBy := ← optText d "approved_by", currency := ← textOr d "currency" "USD",
           receiptHash := ← textField d "receipt_hash", createdAt := ← textField d "created_at",
           corrected := flagOr d "corrected" false,
           correctsReceiptId := ← optText d "corrects_receipt_id",
           correctionKind := ← optText d "correction_kind",
           evidenceSummary := ← optText d "evidence_summary",
           provenance := ((d.field? "provenance").map Json.fields).getD [] }

theorem receiptFromDict_toJson {r : UseOfFundsReceipt} (hgross : Fits r.grossAmount)
    (hattributed : Fits r.attributedAmount) (hremaining : Fits r.remainingDesignatedBalance) :
    receiptFromDict r.toJson = .ok r := by
  have hgross : moneyField r.toJson "gross_amount" = .ok r.grossAmount :=
    moneyField_toStr rfl hgross
  have hattributed : moneyField r.toJson "attributed_amount" = .ok r.attributedAmount :=
    moneyField_toStr rfl hattributed
  have hremaining : moneyField r.toJson "remaining_designated_balance" =
      .ok r.remainingDesignatedBalance := moneyField_toStr rfl hremaining
  have happroved : optText r.toJson "approved_by" = .ok r.approvedBy := optText_ofOption rfl
  have hcorrects : optText r.toJson "corrects_receipt_id" = .ok r.correctsReceiptId :=
    optText_ofOption rfl
  have hkind : optText r.toJson "correction_kind" = .ok r.correctionKind := optText_ofOption rfl
  have hevidence : optText r.toJson "evidence_summary" = .ok r.evidenceSummary :=
    optText_ofOption rfl
  rw [receiptFromDict, hgross, hattributed, hremaining, happroved, hcorrects, hkind, hevidence]
  rfl

def Organization.toJson (o : Organization) : Json :=
  .obj [("id", .str o.id), ("name", .str o.name), ("policy_version", .str o.policyVersion)]

/-! ## Snapshots and the fold -/

/-- `{k: entity_to_jsonable(v) for k, v in entities.items()}`. -/
def entityMap {ν : Type} (toJson : ν → Json) (d : Dict Id ν) : Json :=
  .obj (d.entries.map fun e => (e.1, toJson e.2))

/-- `for k, raw in items: entities[k] = from_dict(raw)`. -/
def foldInto {ν : Type} (fromDict : Json → Except PyExc ν) (d : Dict Id ν) :
    List (String × Json) → Except PyExc (Dict Id ν)
  | [] => .ok d
  | (k, raw) :: items => do
      let v ← fromDict raw
      foldInto fromDict (d.set k v) items

/-- `entities.get(name) or {}`. -/
def itemsOf (entities : Json) (name : String) : List (String × Json) :=
  ((entities.field? name).map Json.fields).getD []

/-- `list(rids)`. -/
def idsFromList : Json → Except PyExc (List Id)
  | .arr items =>
      items.foldr (fun item rest => match item.str? with
        | some id => rest.map (id :: ·)
        | none => .error (notText "receipt id")) (.ok [])
  | _ => .error ⟨.typeError, "object is not iterable"⟩

def idsToJson (ids : List Id) : Json := .arr (ids.map .str)

theorem idsFromList_idsToJson (ids : List Id) : idsFromList (idsToJson ids) = .ok ids := by
  rw [idsToJson, idsFromList]
  induction ids with
  | nil => rfl
  | cons id ids ih =>
      rw [List.map_cons, List.foldr_cons, ih]
      rfl

/-- Folding the entries of a map over another overwrites it with them. -/
theorem foldInto_entityMap {ν : Type} {fromDict : Json → Except PyExc ν} {toJson : ν → Json}
    {entries : List (Id × ν)} {d : Dict Id ν} (h : ∀ e ∈ entries, fromDict (toJson e.2) = .ok e.2) :
    foldInto fromDict d (entries.map fun e => (e.1, toJson e.2)) = .ok (d.update entries) := by
  induction entries generalizing d with
  | nil => rfl
  | cons e entries ih =>
      rw [List.map_cons, foldInto, h e List.mem_cons_self]
      exact ih fun e' he' => h e' (List.mem_cons_of_mem _ he')

def ledgerLogError (msg : String) : PyExc :=
  ⟨.other "impact_relay.domain.ledger_log" "LedgerLogError", msg⟩

namespace Ledger

/-- External source ids of the expenses. -/
def externalIndex (l : Ledger) : Dict String Id :=
  .ofList (l.expenses.values.filterMap fun e =>
    match e.externalSourceId with
    | some ext => if ext = "" then none else some (ext, e.id)
    | none => none)

/-- Full entity maps for the fold. -/
def snapshotLedgerEntities (l : Ledger) : Json := .obj [
  ("donors", entityMap Donor.toJson l.donors),
  ("donations", entityMap Donation.toJson l.donations),
  ("allocations", entityMap Allocation.toJson l.allocations),
  ("donation_allocations", entityMap DonationAllocation.toJson l.donationAllocations),
  ("expenses", entityMap Expense.toJson l.expenses),
  ("expense_allocations", entityMap ExpenseAllocation.toJson l.expenseAllocations),
  ("evidence", entityMap EvidenceRecord.toJson l.evidence),
  ("attributions", entityMap DonorExpenseAttribution.toJson l.attributions),
  ("receipts", entityMap UseOfFundsReceipt.toJson l.receipts),
  ("receipt_snapshots", entityMap id l.receiptSnapshots),
  ("expense_receipts", entityMap idsToJson l.expenseReceipts),
  ("external_index", entityMap Json.str l.externalIndex),
  ("organization", l.organization.toJson)]

def buildResultJson (commandType idempotencyKey : String) (l : Ledger) (outputRefs : List Id) :
    Json :=
  .obj [
    ("command_type", .str commandType),
    ("idempotency_key", .str idempotencyKey),
    ("entities", l.snapshotLedgerEntities),
    ("output_refs", .arr (outputRefs.map .str))]

/-- A row of another organization. -/
def orgMismatch (l : Ledger) (entities : Json) : Bool :=
  match (entities.field? "organization").bind (·.field? "id") with
  | some (.str id) => id ≠ "" && id ≠ l.organization.id
  | _ => false

/-- Fold a result into the ledger: insert and overwrite, entry by entry. -/
def applyResultJson (l : Ledger) (result : Json) : Except PyExc Ledger :=
  match result.field? "entities" with
  | none => .error (ledgerLogError "result_json missing entities")
  | some entities =>
      if l.orgMismatch entities then .error (ledgerLogError "org mismatch in log")
      else do
        let donors ← foldInto donorFromDict l.donors (itemsOf entities "donors")
        let allocations ← foldInto allocationFromDict l.allocations (itemsOf entities "allocations")
        let donations ← foldInto donationFromDict l.donations (itemsOf entities "donations")
        let donationAllocations ← foldInto donationAllocationFromDict l.donationAllocations
          (itemsOf entities "donation_allocations")
        let expenses ← foldInto expenseFromDict l.expenses (itemsOf entities "expenses")
        let expenseAllocations ← foldInto expenseAllocationFromDict l.expenseAllocations
          (itemsOf entities "expense_allocations")
        let evidence ← foldInto evidenceFromDict l.evidence (itemsOf entities "evidence")
        let attributions ← foldInto attributionFromDict l.attributions
          (itemsOf entities "attributions")
        let receipts ← foldInto receiptFromDict l.receipts (itemsOf entities "receipts")
        let receiptSnapshots ← foldInto .ok l.receiptSnapshots
          (itemsOf entities "receipt_snapshots")
        let expenseReceipts ← foldInto idsFromList l.expenseReceipts
          (itemsOf entities "expense_receipts")
        return { l with donors, allocations, donations, donationAllocations, expenses,
                        expenseAllocations, evidence, attributions, receipts, receiptSnapshots,
                        expenseReceipts }

/-! ## A ledger that has only grown -/

/-- The identifiers in each store, in order. -/
def storedIds (l : Ledger) : List (List Id) := [
  l.donors.keys, l.donations.keys, l.allocations.keys, l.donationAllocations.keys, l.expenses.keys,
  l.expenseAllocations.keys, l.evidence.keys, l.attributions.keys, l.receipts.keys,
  l.receiptSnapshots.keys, l.expenseReceipts.keys]

/-- Nothing was removed from `l` on the way to `l'`. -/
def Grown (l l' : Ledger) : Prop :=
  l.organization = l'.organization ∧ List.Forall₂ (· <+: ·) l.storedIds l'.storedIds

/-- Every amount of the ledger has no more digits than the decimal context. -/
structure AmountsFit (l : Ledger) : Prop where
  donations : ∀ v ∈ l.donations.values, Fits v.amount
  donationAllocations : ∀ v ∈ l.donationAllocations.values, Fits v.amount
  expenses : ∀ v ∈ l.expenses.values, Fits v.amount
  expenseAllocations : ∀ v ∈ l.expenseAllocations.values, Fits v.amount
  attributions : ∀ v ∈ l.attributions.values, Fits v.attributedAmount
  receipts : ∀ v ∈ l.receipts.values,
    Fits v.grossAmount ∧ Fits v.attributedAmount ∧ Fits v.remainingDesignatedBalance

instance (l : Ledger) : Decidable (AmountsFit l) :=
  decidable_of_iff
    ((∀ v ∈ l.donations.values, Fits v.amount) ∧
      (∀ v ∈ l.donationAllocations.values, Fits v.amount) ∧
      (∀ v ∈ l.expenses.values, Fits v.amount) ∧
      (∀ v ∈ l.expenseAllocations.values, Fits v.amount) ∧
      (∀ v ∈ l.attributions.values, Fits v.attributedAmount) ∧
      ∀ v ∈ l.receipts.values,
        Fits v.grossAmount ∧ Fits v.attributedAmount ∧ Fits v.remainingDesignatedBalance)
    ⟨fun ⟨h₁, h₂, h₃, h₄, h₅, h₆⟩ => ⟨h₁, h₂, h₃, h₄, h₅, h₆⟩,
      fun h => ⟨h.donations, h.donationAllocations, h.expenses, h.expenseAllocations,
        h.attributions, h.receipts⟩⟩

theorem grown_iff {l l' : Ledger} : Grown l l' ↔
    l.organization = l'.organization ∧ l.donors.keys <+: l'.donors.keys ∧
      l.donations.keys <+: l'.donations.keys ∧
      l.allocations.keys <+: l'.allocations.keys ∧
      l.donationAllocations.keys <+: l'.donationAllocations.keys ∧
      l.expenses.keys <+: l'.expenses.keys ∧
      l.expenseAllocations.keys <+: l'.expenseAllocations.keys ∧
      l.evidence.keys <+: l'.evidence.keys ∧ l.attributions.keys <+: l'.attributions.keys ∧
      l.receipts.keys <+: l'.receipts.keys ∧
      l.receiptSnapshots.keys <+: l'.receiptSnapshots.keys ∧
      l.expenseReceipts.keys <+: l'.expenseReceipts.keys := by
  simp only [Grown, storedIds, List.forall₂_cons, List.Forall₂.nil, and_true]

theorem Grown.refl (l : Ledger) : Grown l l :=
  ⟨rfl, List.forall₂_same.mpr fun _ _ => List.prefix_rfl⟩

theorem Grown.trans {l₁ l₂ l₃ : Ledger} (h : Grown l₁ l₂) (h' : Grown l₂ l₃) : Grown l₁ l₃ := by
  rw [grown_iff] at *
  obtain ⟨a₀, a₁, a₂, a₃, a₄, a₅, a₆, a₇, a₈, a₉, a₁₀, a₁₁⟩ := h
  obtain ⟨b₀, b₁, b₂, b₃, b₄, b₅, b₆, b₇, b₈, b₉, b₁₀, b₁₁⟩ := h'
  exact ⟨a₀.trans b₀, a₁.trans b₁, a₂.trans b₂, a₃.trans b₃, a₄.trans b₄, a₅.trans b₅, a₆.trans b₆,
    a₇.trans b₇, a₈.trans b₈, a₉.trans b₉, a₁₀.trans b₁₀, a₁₁.trans b₁₁⟩

/-- Every ledger has grown out of the empty one. -/
theorem grown_new (l : Ledger) : Grown (.new l.organization) l := by
  rw [grown_iff]
  refine ⟨rfl, ?_, ?_, ?_, ?_, ?_, ?_, ?_, ?_, ?_, ?_, ?_⟩ <;> exact List.nil_prefix

/-- A map is read back from its own entries, over what it has grown from. -/
theorem foldInto_grown {ν : Type} {fromDict : Json → Except PyExc ν} (toJson : ν → Json)
    {d d' : Dict Id ν} (hgrown : d.keys <+: d'.keys)
    (h : ∀ v ∈ d'.values, fromDict (toJson v) = .ok v) :
    foldInto fromDict d (d'.entries.map fun e => (e.1, toJson e.2)) = .ok d' := by
  rw [foldInto_entityMap fun e he => h e.2 (List.mem_map_of_mem he), Dict.update_of_prefix hgrown]

/-- A result gives back the ledger its snapshot was taken from, over an earlier one that
has only grown since. -/
theorem applyResultJson_snapshot {l l' : Ledger} {result : Json}
    (hentities : result.field? "entities" = some l'.snapshotLedgerEntities)
    (hgrown : Grown l l') (hfit : AmountsFit l') :
    applyResultJson l result = .ok { l' with auditLog := l.auditLog } := by
  obtain ⟨horg, h₁, h₂, h₃, h₄, h₅, h₆, h₇, h₈, h₉, h₁₀, h₁₁⟩ := grown_iff.mp hgrown
  have hsame : orgMismatch l l'.snapshotLedgerEntities = false := by
    show (l'.organization.id ≠ "" && l'.organization.id ≠ l.organization.id) = false
    simp [horg]
  have hdonors : foldInto donorFromDict l.donors
      (itemsOf l'.snapshotLedgerEntities "donors") = .ok l'.donors :=
    foldInto_grown Donor.toJson h₁ fun v _ => donorFromDict_toJson v
  have hallocations : foldInto allocationFromDict l.allocations
      (itemsOf l'.snapshotLedgerEntities "allocations") = .ok l'.allocations :=
    foldInto_grown Allocation.toJson h₃ fun v _ => allocationFromDict_toJson v
  have hdonations : foldInto donationFromDict l.donations
      (itemsOf l'.snapshotLedgerEntities "donations") = .ok l'.donations :=
    foldInto_grown Donation.toJson h₂ fun v hv => donationFromDict_toJson (hfit.donations v hv)
  have hdesignations : foldInto donationAllocationFromDict l.donationAllocations
      (itemsOf l'.snapshotLedgerEntities "donation_allocations") = .ok l'.donationAllocations :=
    foldInto_grown DonationAllocation.toJson h₄ fun v hv =>
      donationAllocationFromDict_toJson (hfit.donationAllocations v hv)
  have hexpenses : foldInto expenseFromDict l.expenses
      (itemsOf l'.snapshotLedgerEntities "expenses") = .ok l'.expenses :=
    foldInto_grown Expense.toJson h₅ fun v hv => expenseFromDict_toJson (hfit.expenses v hv)
  have hcharges : foldInto expenseAllocationFromDict l.expenseAllocations
      (itemsOf l'.snapshotLedgerEntities "expense_allocations") = .ok l'.expenseAllocations :=
    foldInto_grown ExpenseAllocation.toJson h₆ fun v hv =>
      expenseAllocationFromDict_toJson (hfit.expenseAllocations v hv)
  have hevidence : foldInto evidenceFromDict l.evidence
      (itemsOf l'.snapshotLedgerEntities "evidence") = .ok l'.evidence :=
    foldInto_grown EvidenceRecord.toJson h₇ fun v _ => evidenceFromDict_toJson v
  have hattributions : foldInto attributionFromDict l.attributions
      (itemsOf l'.snapshotLedgerEntities "attributions") = .ok l'.attributions :=
    foldInto_grown DonorExpenseAttribution.toJson h₈ fun v hv => attributionFromDict_toJson (hfit.attributions v hv)
  have hreceipts : foldInto receiptFromDict l.receipts
      (itemsOf l'.snapshotLedgerEntities "receipts") = .ok l'.receipts :=
    foldInto_grown UseOfFundsReceipt.toJson h₉ fun v hv =>
      receiptFromDict_toJson (hfit.receipts v hv).1 (hfit.receipts v hv).2.1 (hfit.receipts v hv).2.2
  have hsnapshots : foldInto .ok l.receiptSnapshots
      (itemsOf l'.snapshotLedgerEntities "receipt_snapshots") = .ok l'.receiptSnapshots :=
    foldInto_grown id h₁₀ fun _ _ => rfl
  have hindex : foldInto idsFromList l.expenseReceipts
      (itemsOf l'.snapshotLedgerEntities "expense_receipts") = .ok l'.expenseReceipts :=
    foldInto_grown idsToJson h₁₁ fun v _ => idsFromList_idsToJson v
  rw [applyResultJson, hentities]
  simp only [hsame, hdonors, hallocations, hdonations, hdesignations, hexpenses, hcharges,
    hevidence, hattributions, hreceipts, hsnapshots, hindex, Bool.false_eq_true, if_false]
  refine congrArg Except.ok ?_
  cases l
  cases horg
  rfl

theorem applyResultJson_grown {l l' : Ledger} (commandType key : String) (refs : List Id)
    (hgrown : Grown l l') (hfit : AmountsFit l') :
    applyResultJson l (buildResultJson commandType key l' refs) =
      .ok { l' with auditLog := l.auditLog } :=
  applyResultJson_snapshot rfl hgrown hfit

end Ledger

/-! ## The log -/

/-- One successful money command. -/
structure LogRow where
  tenantId : Id
  idempotencyKey : String
  commandType : String
  resultJson : Json

def LogRow.key (row : LogRow) : Id × String := (row.tenantId, row.idempotencyKey)

/-- The rows of the file; the keys it has seen are theirs. -/
abbrev FileLedgerCommandLog := List LogRow

namespace FileLedgerCommandLog

/-- Append a row, unless the log has one with its key. -/
def append (row : LogRow) : EStateM PyExc FileLedgerCommandLog Unit := do
  let log ← get
  if row.key ∈ log.map LogRow.key then return ()
  else
    raiseIf (row.resultJson.field? "entities").isNone
      (ledgerLogError "refuse to append result without entities")
    modify (· ++ [row])

/-- The log after a row with entities. -/
def appended (log : FileLedgerCommandLog) (row : LogRow) : FileLedgerCommandLog :=
  if row.key ∈ log.map LogRow.key then log else log ++ [row]

theorem append_returns {row : LogRow} {entities : Json}
    (h : row.resultJson.field? "entities" = some entities) (log : FileLedgerCommandLog) :
    Returns (append row) log () (appended log row) := by
  rw [append, returns_get_bind, appended]
  split
  · exact returns_pure.mpr ⟨rfl, rfl⟩
  · exact returns_raiseIf_bind.mpr ⟨by simp [h], rfl⟩

/-- The rows of a tenant; all of them when it has no name. -/
def iterRows (log : FileLedgerCommandLog) (tenantId : Id) : List LogRow :=
  log.filter fun row => tenantId = "" || row.tenantId = tenantId

def foldRows (l : Ledger) : List LogRow → Except PyExc Ledger
  | [] => .ok l
  | row :: rows =>
      if row.resultJson.truthy = false then
        .error (ledgerLogError s!"missing result_json for {row.idempotencyKey}")
      else do
        let l' ← l.applyResultJson row.resultJson
        foldRows l' rows

/-- The empty ledger, or a base, with all results folded in, in file order. -/
def rehydrate (log : FileLedgerCommandLog) (organization : Organization)
    (baseLedger : Option Ledger) : Except PyExc Ledger :=
  let ledger := baseLedger.getD (.new organization)
  if ledger.organization.id ≠ organization.id then
    .error (ledgerLogError "base ledger organization mismatch")
  else foldRows ledger (iterRows log organization.id)

theorem foldRows_append {l : Ledger} {rows rows' : List LogRow} :
    foldRows l (rows ++ rows') = foldRows l rows >>= fun l' => foldRows l' rows' := by
  induction rows generalizing l with
  | nil => rfl
  | cons row rows ih =>
      rw [List.cons_append, foldRows, foldRows]
      by_cases hempty : row.resultJson.truthy = false
      · rw [if_pos hempty, if_pos hempty]
        rfl
      · rw [if_neg hempty, if_neg hempty]
        cases l.applyResultJson row.resultJson with
        | error e => rfl
        | ok l' => exact ih

end FileLedgerCommandLog

end ImpactRelay
