/-
# `Domain.Aggregates` — an operation stays within its donation or expense

The designations of all donations, the evidence of all expenses and the charges of all
expenses are one map each, keyed by identifiers that a caller may choose.  A donation or
an expense that is in the ledger is not imported again; a designation, an item of
evidence or a charge whose identifier is in use takes the place of what was there.  So
the records of the other donations and expenses are what they were exactly when the
identifier is new, or was used in the same donation or expense.
-/
import ImpactRelay.Domain.Acceptance
import ImpactRelay.Lib.Owned

namespace ImpactRelay

open Raise

/-- What a record belongs to. -/
inductive Aggregate where
  | donation (id : Id)
  | expense (id : Id)
deriving DecidableEq, Repr

def DonationAllocation.aggregate (da : DonationAllocation) : Option Aggregate :=
  some (.donation da.donationId)

def EvidenceRecord.aggregate (evidence : EvidenceRecord) : Option Aggregate :=
  some (.expense evidence.expenseId)

def ExpenseAllocation.aggregate (ea : ExpenseAllocation) : Option Aggregate :=
  some (.expense ea.expenseId)

namespace Ledger

variable {l l' : Ledger} {own : Option Aggregate}

/-- Every donation but `own` has the designations it had, and every expense but `own` the
evidence and the charges it had. -/
structure KeepsOthers (own : Option Aggregate) (l l' : Ledger) : Prop where
  donationAllocations : Dict.OthersKept DonationAllocation.aggregate own l.donationAllocations
    l'.donationAllocations
  evidence : Dict.OthersKept EvidenceRecord.aggregate own l.evidence l'.evidence
  expenseAllocations : Dict.OthersKept ExpenseAllocation.aggregate own l.expenseAllocations
    l'.expenseAllocations

theorem KeepsOthers.refl : KeepsOthers own l l := ⟨.refl, .refl, .refl⟩

/-- The checks of a designation. -/
def DesignationAccepted (l : Ledger) (donationId allocationId : Id) (amount : Decimal.Amount) :
    Prop :=
  OnSome (l.donations.get? donationId) fun donation =>
    allocationId ∈ l.allocations ∧ donation.cleared = true ∧
      OnOk (orderedMoney amount) fun amt =>
        0 < amt ∧ l.sumDonationAllocations donationId + amt ≤ donation.amount

instance (l : Ledger) (donationId allocationId : Id) (amount : Decimal.Amount) :
    Decidable (DesignationAccepted l donationId allocationId amount) :=
  inferInstanceAs (Decidable (OnSome _ _))

/-! ## The identifiers an accepted call writes under -/

/-- An accepted designation is not stored over one of another donation. -/
def DesignationIdFree (host : Host) (l : Ledger) (donationId allocationId : Id)
    (amount : Decimal.Amount) (daId : Option Id) : Prop :=
  DesignationAccepted l donationId allocationId amount →
    l.donationAllocations.FreeFor DonationAllocation.aggregate (some (.donation donationId))
      (truthyOr daId (host.newId "da" 0))

/-- Accepted evidence is not stored over evidence of another expense. -/
def EvidenceIdFree (l : Ledger) (evidence : EvidenceRecord) : Prop :=
  evidence.expenseId ∈ l.expenses →
    l.evidence.FreeFor EvidenceRecord.aggregate evidence.aggregate evidence.id

/-- An accepted charge is not stored over one of another expense. -/
def ChargeIdFree (host : Host) (l : Ledger) (expenseId allocationId : Id)
    (amount : Decimal.Amount) (eaId : Option Id) : Prop :=
  AllocationAccepted l expenseId allocationId amount →
    l.expenseAllocations.FreeFor ExpenseAllocation.aggregate (some (.expense expenseId))
      (truthyOr eaId (host.newId "ea" 0))

instance (host : Host) (l : Ledger) (donationId allocationId : Id) (amount : Decimal.Amount)
    (daId : Option Id) : Decidable (DesignationIdFree host l donationId allocationId amount daId) :=
  inferInstanceAs (Decidable (_ → _))

instance (l : Ledger) (evidence : EvidenceRecord) : Decidable (EvidenceIdFree l evidence) :=
  inferInstanceAs (Decidable (_ → _))

instance (host : Host) (l : Ledger) (expenseId allocationId : Id) (amount : Decimal.Amount)
    (eaId : Option Id) : Decidable (ChargeIdFree host l expenseId allocationId amount eaId) :=
  inferInstanceAs (Decidable (_ → _))

section Methods

variable [Digest] {host : Host}

theorem assignDonationAllocation_accepts_iff {donationId allocationId : Id}
    {amount : Decimal.Amount} {daId : Option Id} :
    Accepts (assignDonationAllocation host donationId allocationId amount daId) l ↔
      DesignationAccepted l donationId allocationId amount := by
  simp only [Accepts, DesignationAccepted, onSome_iff, onOk_iff, assignDonationAllocation,
    returns_requireDonation_bind, returns_get_bind, returns_raiseIf_bind, returns_okOrRaise_bind,
    returns_modify_bind, returns_audit_bind, returns_pure, not_not, not_le, not_lt]
  constructor
  · rintro ⟨_, _, donation, hdonation, hreg, hcleared, amt, hamt, hpos, hle, _⟩
    exact ⟨donation, hdonation, hreg, by simpa using hcleared, amt, hamt, hpos, hle⟩
  · rintro ⟨donation, hdonation, hreg, hcleared, amt, hamt, hpos, hle⟩
    exact ⟨_, _, donation, hdonation, hreg, by simpa using hcleared, amt, hamt, hpos, hle, rfl, rfl⟩

/-! ## What each call does to the others -/

theorem assignDonationAllocation_keepsOthers (donationId allocationId : Id)
    (amount : Decimal.Amount) (daId : Option Id) :
    KeepsOthers (some (.donation donationId)) l
        (after (assignDonationAllocation host donationId allocationId amount daId) l) ↔
      DesignationIdFree host l donationId allocationId amount daId := by
  rcases returns_or_raises (assignDonationAllocation host donationId allocationId amount daId) l
    with ⟨da, l', h⟩ | ⟨e, l', h⟩
  · have haccepted := assignDonationAllocation_accepts_iff.mp ⟨da, l', h⟩
    have hafter := h.after
    obtain ⟨hid, hdonation, -, -, -, -, -, log, rfl⟩ := assignDonationAllocation_returns h
    have hown : da.aggregate = some (.donation donationId) := by
      rw [DonationAllocation.aggregate, hdonation]
    rw [hafter, DesignationIdFree, ← hid]
    constructor
    · intro hkept _
      exact (Dict.othersKept_set hown).mp hkept.donationAllocations
    · intro hfree
      exact ⟨(Dict.othersKept_set hown).mpr (hfree haccepted), .refl, .refl⟩
  · rw [h.after, assignDonationAllocation_atomic _ _ _ _ _ _ _ h]
    refine iff_of_true .refl fun haccepted => ?_
    have haccepts : Accepts (assignDonationAllocation host donationId allocationId amount daId) l :=
      assignDonationAllocation_accepts_iff.mpr haccepted
    obtain ⟨da, l'', hret⟩ := haccepts
    exact absurd h hret.not_raises

theorem attachEvidence_keepsOthers (evidence : EvidenceRecord) :
    KeepsOthers evidence.aggregate l (after (attachEvidence host evidence) l) ↔
      EvidenceIdFree l evidence := by
  rcases returns_or_raises (attachEvidence host evidence) l with ⟨r, l', h⟩ | ⟨e, l', h⟩
  · have hafter := h.after
    obtain ⟨hmem, log, rfl⟩ := attachEvidence_returns h
    rw [hafter]
    constructor
    · intro hkept _
      exact (Dict.othersKept_set rfl).mp hkept.evidence
    · intro hfree
      exact ⟨.refl, (Dict.othersKept_set rfl).mpr (hfree hmem), .refl⟩
  · rw [h.after, attachEvidence_atomic _ _ _ _ h]
    refine iff_of_true .refl fun hmem => ?_
    have haccepts : Accepts (attachEvidence host evidence) l := attachEvidence_accepts_iff.mpr hmem
    obtain ⟨r, l'', hret⟩ := haccepts
    exact absurd h hret.not_raises

omit [Digest] in
/-- Reclassifying an expense drops its own charges only. -/
theorem othersKept_replace {expenseId : Id} {eas : List ExpenseAllocation}
    (heas : ∀ ea ∈ eas, ea.expenseId = expenseId) :
    Dict.OthersKept ExpenseAllocation.aggregate (some (.expense expenseId)) l.expenseAllocations
        (replaceExpenseAllocations expenseId eas l).expenseAllocations ↔
      ∀ ea ∈ eas, l.expenseAllocations.FreeFor ExpenseAllocation.aggregate
        (some (.expense expenseId)) ea.id := by
  have hdropped : ∀ ea : ExpenseAllocation, ea.aggregate ≠ some (.expense expenseId) →
      decide (ea.expenseId ≠ expenseId) = true := by
    intro ea hother
    refine decide_eq_true fun hsame => hother ?_
    rw [ExpenseAllocation.aggregate, hsame]
  have hown : ∀ ea ∈ eas, ea.aggregate = some (.expense expenseId) := by
    intro ea hea
    rw [ExpenseAllocation.aggregate, heas ea hea]
  have hfilter := Dict.othersKept_filter (d := l.expenseAllocations) hdropped
  have hset : Dict.OthersKept ExpenseAllocation.aggregate (some (.expense expenseId))
      (l.expenseAllocations.filter fun ea => decide (ea.expenseId ≠ expenseId))
      ((l.expenseAllocations.filter fun ea => decide (ea.expenseId ≠ expenseId)).setAll (·.id) eas) ↔
    ∀ ea ∈ eas, (l.expenseAllocations.filter fun ea => decide (ea.expenseId ≠ expenseId)).FreeFor
      ExpenseAllocation.aggregate (some (.expense expenseId)) ea.id := Dict.othersKept_setAll hown
  simp only [Dict.freeFor_filter hdropped] at hset
  rw [← hset, replaceExpenseAllocations]
  constructor
  · intro h o ho
    rw [h o ho, hfilter o ho]
  · intro h o ho
    rw [h o ho, hfilter o ho]

theorem allocateExpense_keepsOthers (expenseId allocationId : Id) (amount : Decimal.Amount)
    (eaId : Option Id) :
    KeepsOthers (some (.expense expenseId)) l
        (after (allocateExpense host expenseId allocationId amount eaId) l) ↔
      ChargeIdFree host l expenseId allocationId amount eaId := by
  rcases returns_or_raises (allocateExpense host expenseId allocationId amount eaId) l
    with ⟨ea, l', h⟩ | ⟨e, l', h⟩
  · have haccepted := allocateExpense_accepts_iff.mp ⟨ea, l', h⟩
    have hafter := h.after
    obtain ⟨hid, hexpense, -, -, -, -, expense, -, -, -, log, rfl⟩ := allocateExpense_returns h
    have heas : ∀ ea' ∈ [ea], ea'.expenseId = expenseId := fun ea' hea' =>
      List.mem_singleton.mp hea' ▸ hexpense
    have hreplace := othersKept_replace (l := l) heas
    have hcharges : (moveToApprovalPending expenseId expense
        (replaceExpenseAllocations expenseId [ea] l)).expenseAllocations =
          (replaceExpenseAllocations expenseId [ea] l).expenseAllocations := by
      rw [moveToApprovalPending]
      split <;> rfl
    rw [List.forall_mem_singleton] at hreplace
    rw [hafter, ChargeIdFree, ← hid]
    constructor
    · intro hkept _
      exact hreplace.mp (hcharges ▸ hkept.expenseAllocations)
    · intro hfree
      refine ⟨?_, ?_, hcharges ▸ hreplace.mpr (hfree haccepted)⟩
      · rw [moveToApprovalPending]
        split <;> exact .refl
      · rw [moveToApprovalPending]
        split <;> exact .refl
  · rw [h.after, allocateExpense_atomic _ _ _ _ _ _ _ h]
    refine iff_of_true .refl fun haccepted => ?_
    have haccepts : Accepts (allocateExpense host expenseId allocationId amount eaId) l :=
      allocateExpense_accepts_iff.mpr haccepted
    obtain ⟨ea, l'', hret⟩ := haccepts
    exact absurd h hret.not_raises

end Methods

end Ledger

end ImpactRelay
