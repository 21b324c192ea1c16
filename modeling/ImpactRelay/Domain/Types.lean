/-
# `Domain.Types` — the records of the use-of-funds ledger

The frozen dataclasses and enumerations of `domain/types.py`.  Amounts are
whole cents (`Lib.Decimal`): every constructor of the source runs its amount
through `money`, so a stored amount has two places.  Exceptions carry the class
and the text the source raises them with — the workflow layer reads both.
-/
import ImpactRelay.Lib.Json
import ImpactRelay.Lib.DecimalText

namespace ImpactRelay

abbrev Id := String

inductive RestrictionType where
  | unrestricted | boardDesignated | donorDesignated | donorRestricted
  | grantRestricted | sponsorRestricted | inKind
deriving DecidableEq, Repr

def RestrictionType.value : RestrictionType → String
  | .unrestricted => "UNRESTRICTED"
  | .boardDesignated => "BOARD_DESIGNATED"
  | .donorDesignated => "DONOR_DESIGNATED"
  | .donorRestricted => "DONOR_RESTRICTED"
  | .grantRestricted => "GRANT_RESTRICTED"
  | .sponsorRestricted => "SPONSOR_RESTRICTED"
  | .inKind => "IN_KIND"

inductive ExpenseState where
  | draft | imported | classificationPending | approvalPending
  | approved | reconciled | rejected | reversed | superseded
deriving DecidableEq, Repr

def ExpenseState.value : ExpenseState → String
  | .draft => "DRAFT"
  | .imported => "IMPORTED"
  | .classificationPending => "CLASSIFICATION_PENDING"
  | .approvalPending => "APPROVAL_PENDING"
  | .approved => "APPROVED"
  | .reconciled => "RECONCILED"
  | .rejected => "REJECTED"
  | .reversed => "REVERSED"
  | .superseded => "SUPERSEDED"

inductive AttributionMethod where
  | directRestricted | proRataPool | fifoAllocation | cohortAllocation
  | assetSponsorship | expenseBacked | manualApproved | none
deriving DecidableEq, Repr

def AttributionMethod.value : AttributionMethod → String
  | .directRestricted => "DIRECT_RESTRICTED"
  | .proRataPool => "PRO_RATA_POOL"
  | .fifoAllocation => "FIFO_ALLOCATION"
  | .cohortAllocation => "COHORT_ALLOCATION"
  | .assetSponsorship => "ASSET_SPONSORSHIP"
  | .expenseBacked => "EXPENSE_BACKED"
  | .manualApproved => "MANUAL_APPROVED"
  | .none => "NONE"

/-- Methods allowed to produce a verified use-of-funds receipt. -/
def allowedAttributionMethods : List AttributionMethod :=
  [.directRestricted, .proRataPool, .fifoAllocation, .cohortAllocation, .assetSponsorship,
    .expenseBacked, .manualApproved]

/-- States that may back a verified use-of-funds receipt. -/
def verifiedExpenseStates : List ExpenseState := [.approved, .reconciled]

/-- Terminal lineage states of corrected expenses. -/
def correctedExpenseStates : List ExpenseState := [.reversed, .superseded]

@[simp] theorem mem_verifiedExpenseStates {s : ExpenseState} :
    s ∈ verifiedExpenseStates ↔ s = .approved ∨ s = .reconciled := by
  simp [verifiedExpenseStates]

@[simp] theorem mem_correctedExpenseStates {s : ExpenseState} :
    s ∈ correctedExpenseStates ↔ s = .reversed ∨ s = .superseded := by
  simp [correctedExpenseStates]

/-! ## Exceptions -/

/-- The exception classes the modelled code raises or passes on.  `other` is any
class of a library or an adapter, by its module and name. -/
inductive ExcClass where
  | invariantError | stateError | attributionError | notFoundError | tenantIsolationError
  | consentError | authorityError | privacySentinelError | invalidOperation | keyError
  | valueError | typeError | attributeError
  | other (module name : String)
deriving DecidableEq, Repr

/-- A raised exception: its class and `str(exc)`. -/
structure PyExc where
  cls : ExcClass
  msg : String
deriving DecidableEq, Repr

def invariantError (msg : String) : PyExc := ⟨.invariantError, msg⟩

def stateError (msg : String) : PyExc := ⟨.stateError, msg⟩

def attributionError (msg : String) : PyExc := ⟨.attributionError, msg⟩

def notFoundError (msg : String) : PyExc := ⟨.notFoundError, msg⟩

def keyError (key : String) : PyExc := ⟨.keyError, "'" ++ key ++ "'"⟩

/-! ## Amounts and optional texts -/

/-- What the decimal context raises. -/
def invalidOperation : PyExc := ⟨.invalidOperation, "[<class 'decimal.InvalidOperation'>]"⟩

/-- `Decimal(value)`. -/
def decimalOf (value : Decimal.Amount) : Except PyExc Decimal.Amount :=
  match value.refusal with
  | some msg => .error ⟨.invalidOperation, msg⟩
  | none => .ok value

/-- Normalize money to whole cents; a quiet NaN stays one. -/
def money (value : Decimal.Amount) : Except PyExc Decimal.Quantized := do
  let d ← decimalOf value
  match Decimal.quantize d with
  | some q => return q
  | none => .error invalidOperation

/-- An ordering test, which raises for a NaN. -/
def compared : Decimal.Quantized → Except PyExc Int
  | .cents c => .ok c
  | .nan => .error invalidOperation

/-- `money(value)` where an ordering test comes next. -/
def orderedMoney (value : Decimal.Amount) : Except PyExc Int := money value >>= compared

/-- The amount has no more digits than the decimal context. -/
abbrev Fits (cents : Int) : Prop := Decimal.Fits cents

theorem orderedMoney_ok {value : Decimal.Amount} {cents : Int} :
    orderedMoney value = .ok cents ↔ Decimal.quantize value = some (.cents cents) := by
  cases value with
  | finite coeff exp =>
      by_cases hfits : Fits (Decimal.centsOf coeff exp) <;>
        simp [orderedMoney, money, decimalOf, Decimal.Amount.refusal, Decimal.quantize, compared,
          hfits, bind, Except.bind, pure, Except.pure]
  | _ => simp [orderedMoney, money, decimalOf, Decimal.Amount.refusal, Decimal.quantize, compared,
      bind, Except.bind, pure, Except.pure]

theorem orderedMoney_ofCents {cents : Int} (h : Fits cents) :
    orderedMoney (Decimal.ofCents cents) = .ok cents :=
  orderedMoney_ok.mpr (Decimal.quantize_ofCents h)

/-- A value where a key is expected: a text, or a value that is true and cannot be hashed. -/
inductive KeyValue where
  | text (s : String)
  | unhashable (typeName repr : String)
deriving DecidableEq, Repr

instance : Coe String KeyValue := ⟨.text⟩

namespace KeyValue

def truthy : KeyValue → Bool
  | text s => decide (s ≠ "")
  | unhashable _ _ => true

/-- `str(key)`. -/
def str : KeyValue → String
  | text s => s
  | unhashable _ repr => repr

def hashable : KeyValue → Bool
  | text _ => true
  | unhashable _ _ => false

/-- `a or b or default`. -/
def firstOf (a b : Option KeyValue) (default : String) : KeyValue :=
  ((a.filter truthy).or (b.filter truthy)).getD (text default)

end KeyValue

def unhashableError (typeName : String) : PyExc := ⟨.typeError, s!"unhashable type: '{typeName}'"⟩

/-- `a or b` on an optional text: `None` and the empty text are false. -/
def truthyOr (a : Option String) (b : String) : String :=
  match a with
  | some s => if s = "" then b else s
  | none => b

/-- `a or b` on two optional texts. -/
def orElse (a b : Option String) : Option String :=
  match a with
  | some s => if s = "" then b else some s
  | none => b

/-! ## Records -/

structure Organization where
  id : Id
  name : String
  policyVersion : String := "v1.0"
deriving DecidableEq, Repr

structure Donor where
  id : Id
  organizationId : Id
  displayName : String
deriving DecidableEq, Repr

structure Donation where
  id : Id
  organizationId : Id
  donorId : Id
  amount : Int
  currency : String
  cleared : Bool
  externalSourceId : String
  receivedAt : String
deriving DecidableEq, Repr

structure Allocation where
  id : Id
  organizationId : Id
  name : String
  purpose : String
  restrictionType : RestrictionType
deriving DecidableEq, Repr

structure DonationAllocation where
  id : Id
  donationId : Id
  allocationId : Id
  amount : Int
deriving DecidableEq, Repr

structure Expense where
  id : Id
  organizationId : Id
  vendor : String
  amount : Int
  currency : String
  purchaseDate : String
  category : String
  description : String
  state : ExpenseState
  externalSourceId : Option String := none
  approvedBy : Option String := none
  reconciledAt : Option String := none
  reversedOfId : Option Id := none
  supersedesId : Option Id := none
  historyNote : Option String := none
deriving DecidableEq, Repr

structure ExpenseAllocation where
  id : Id
  expenseId : Id
  allocationId : Id
  amount : Int
deriving DecidableEq, Repr

structure EvidenceRecord where
  id : Id
  expenseId : Id
  kind : String
  summary : String
  donorVisible : Bool := true
deriving DecidableEq, Repr

/-- Policy-based link between a donor's support and an expenditure. -/
structure DonorExpenseAttribution where
  id : Id
  donorId : Id
  donationId : Id
  expenseId : Id
  allocationId : Id
  attributedAmount : Int
  method : AttributionMethod
  policyVersion : String
  confidence : String := "policy"
deriving DecidableEq, Repr

/-- Whether the attribution links this donation, expense and allocation. -/
def DonorExpenseAttribution.onTriple (donationId expenseId allocationId : Id)
    (v : DonorExpenseAttribution) : Bool :=
  v.donationId = donationId && v.expenseId = expenseId && v.allocationId = allocationId

structure AuditReceipt where
  id : Id
  organizationId : Id
  eventType : String
  entityType : String
  entityId : Id
  actor : String
  timestamp : String
  payload : Json
  policyVersion : String
  receiptHash : String

/-- Donor-visible use-of-funds receipt. -/
structure UseOfFundsReceipt where
  receiptId : Id
  type : String
  organizationId : Id
  organizationName : String
  donationId : Id
  donorId : Id
  allocationId : Id
  allocationName : String
  restrictionType : String
  expenditureExpenseId : Id
  vendor : String
  grossAmount : Int
  attributedAmount : Int
  purchaseDate : String
  category : String
  description : String
  verificationState : String
  remainingDesignatedBalance : Int
  attributionMethod : String
  policyVersion : String
  approvedBy : Option String
  currency : String
  receiptHash : String
  createdAt : String
  corrected : Bool := false
  correctsReceiptId : Option Id := none
  correctionKind : Option String := none
  evidenceSummary : Option String := none
  provenance : List (String × Json) := []
deriving DecidableEq

/-- The provenance section of a receipt's dictionary: the receipt's own entries,
overlaid with the approver, the hash and the creation time. -/
def UseOfFundsReceipt.provenanceFields (r : UseOfFundsReceipt) : List (String × Json) :=
  Json.setField
    (Json.setField
      (Json.setField r.provenance "approved_by" (Json.ofOption r.approvedBy))
      "receipt_hash" (.str r.receiptHash))
    "created_at" (.str r.createdAt)

def UseOfFundsReceipt.toDict (r : UseOfFundsReceipt) : Json :=
  .obj [
    ("receipt_id", .str r.receiptId),
    ("type", .str r.type),
    ("organization", .obj [
      ("id", .str r.organizationId),
      ("name", .str r.organizationName)]),
    ("donation_reference", .str r.donationId),
    ("donor_id", .str r.donorId),
    ("allocation", .obj [
      ("id", .str r.allocationId),
      ("name", .str r.allocationName),
      ("restriction_type", .str r.restrictionType)]),
    ("expenditure", .obj [
      ("expense_id", .str r.expenditureExpenseId),
      ("vendor", .str r.vendor),
      ("gross_amount", .str (Decimal.toStr r.grossAmount)),
      ("attributed_amount", .str (Decimal.toStr r.attributedAmount)),
      ("purchase_date", .str r.purchaseDate),
      ("category", .str r.category),
      ("description", .str r.description),
      ("verification_state", .str r.verificationState),
      ("currency", .str r.currency)]),
    ("remaining_designated_balance", .str (Decimal.toStr r.remainingDesignatedBalance)),
    ("attribution", .obj [
      ("method", .str r.attributionMethod),
      ("policy_version", .str r.policyVersion)]),
    ("corrected", .bool r.corrected),
    ("corrects_receipt_id", Json.ofOption r.correctsReceiptId),
    ("correction_kind", Json.ofOption r.correctionKind),
    ("evidence_summary", Json.ofOption r.evidenceSummary),
    ("provenance", .obj r.provenanceFields)]

theorem UseOfFundsReceipt.toDict_receipt_id (r : UseOfFundsReceipt) :
    r.toDict.field? "receipt_id" = some (.str r.receiptId) := rfl

theorem UseOfFundsReceipt.toDict_provenance (r : UseOfFundsReceipt) :
    r.toDict.field? "provenance" = some (.obj r.provenanceFields) := rfl

theorem UseOfFundsReceipt.provenance_receipt_hash (r : UseOfFundsReceipt) :
    (Json.obj r.provenanceFields).field? "receipt_hash" = some (.str r.receiptHash) := by
  rw [provenanceFields, Json.field?_setField, if_neg (by decide), Json.field?_setField, if_pos rfl]

/-- A new `Expense` with the state replaced. -/
def withExpenseState (expense : Expense) (state : ExpenseState) : Expense :=
  { expense with state }

end ImpactRelay
