/-
# `Domain.Acceptance` — when a call is accepted

For each method that an executor calls, the conjunction of its checks as one
predicate on the ledger before the call, and the proof that the call returns
exactly when the predicate holds.  A method that checks before it writes does
one of two things: it is accepted, or it is refused and leaves no trace.
-/
import ImpactRelay.Domain.Balance

namespace ImpactRelay

open Raise

namespace Ledger

variable {l l' : Ledger}

/-! ## The checks of each method -/

def ImportAccepted (l : Ledger) (expense : Expense) : Prop :=
  expense.organizationId = l.organization.id ∧ 0 < expense.amount ∧ expense.id ∉ l.expenses ∧
    expense.state ∈ [ExpenseState.draft, ExpenseState.imported]

instance (l : Ledger) (expense : Expense) : Decidable (ImportAccepted l expense) :=
  inferInstanceAs (Decidable (_ ∧ _))

def AllocationAccepted (l : Ledger) (expenseId allocationId : Id) (amount : Decimal.Amount) :
    Prop :=
  OnSome (l.expenses.get? expenseId) (fun expense =>
      expense.state ∉ correctedExpenseStates ∧ expense.state ∉ verifiedExpenseStates) ∧
    l.HasBalance allocationId ∧ OnOk (orderedMoney amount) (fun amt => 0 < amt)

instance (l : Ledger) (expenseId allocationId : Id) (amount : Decimal.Amount) :
    Decidable (AllocationAccepted l expenseId allocationId amount) :=
  inferInstanceAs (Decidable (_ ∧ _))

def ApprovalAccepted (l : Ledger) (expenseId : Id) (approvedBy : String) : Prop :=
  OnSome (l.expenses.get? expenseId) fun expense =>
    expense.state ∈
        [ExpenseState.approvalPending, ExpenseState.classificationPending, ExpenseState.imported] ∧
      l.expenseAllocationsFor expenseId ≠ [] ∧
      chargeTotal (l.expenseAllocationsFor expenseId) = expense.amount ∧
      (∀ ea ∈ l.expenseAllocationsFor expenseId,
        l.HasBalance ea.allocationId ∧ ea.amount ≤ l.poolRemaining ea.allocationId) ∧
      approvedBy ≠ ""

instance (l : Ledger) (expenseId : Id) (approvedBy : String) :
    Decidable (ApprovalAccepted l expenseId approvedBy) :=
  inferInstanceAs (Decidable (OnSome _ _))

def AttributionAccepted (l : Ledger) (donorId donationId expenseId allocationId : Id)
    (method : AttributionMethod) (amount : Option Decimal.Amount) : Prop :=
  method ∈ allowedAttributionMethods ∧ donorId ∈ l.donors ∧
    OnSome (l.donations.get? donationId) (fun donation => donation.donorId = donorId) ∧
    expenseId ∈ l.expenses ∧ allocationId ∈ l.allocations ∧
    0 < l.designated donationId allocationId ∧ 0 < l.expenseCharge expenseId allocationId ∧
    OnOk (l.attributionAmount allocationId method amount (l.designated donationId allocationId)
      (l.expenseCharge expenseId allocationId)) fun amt =>
        0 < amt ∧ amt ≤ l.expenseCharge expenseId allocationId ∧
          amt ≤ l.designated donationId allocationId ∧
          l.activeAttributionTotal donationId allocationId (some expenseId) + amt ≤
            l.designated donationId allocationId

instance (l : Ledger) (donorId donationId expenseId allocationId : Id) (method : AttributionMethod)
    (amount : Option Decimal.Amount) :
    Decidable (AttributionAccepted l donorId donationId expenseId allocationId method amount) :=
  inferInstanceAs (Decidable (_ ∧ _))

/-- What a publication checks, with the attribution already there. -/
def PublicationAccepted (host : Host) (l : Ledger) (expenseId donationId allocationId : Id) :
    Prop :=
  l.expenseIn verifiedExpenseStates expenseId = true ∧ donationId ∈ l.donations ∧
    l.HasBalance allocationId ∧
    OnSome (l.findAttribution donationId expenseId allocationId)
      (fun attr => attr.method ∈ allowedAttributionMethods) ∧
    (l.findLiveReceipt donationId expenseId allocationId).isNone ∧
    0 ≤ l.donorRemainingOnAllocation donationId allocationId ∧
    host.newId "uof" 0 ∉ l.receipts

instance (host : Host) (l : Ledger) (expenseId donationId allocationId : Id) :
    Decidable (PublicationAccepted host l expenseId donationId allocationId) :=
  inferInstanceAs (Decidable (_ ∧ _))

theorem not_frozen_of_approvable {s : ExpenseState}
    (h : s ∈ [ExpenseState.approvalPending, ExpenseState.classificationPending,
      ExpenseState.imported]) : s ∉ correctedExpenseStates ∧ s ∉ verifiedExpenseStates := by
  simp only [List.mem_cons, List.not_mem_nil, or_false] at h
  rcases h with rfl | rfl | rfl <;> exact ⟨by decide, by decide⟩

/-- The ledger with the attribution of an accepted call in it, its audit aside. -/
def attributed (host : Host) (l : Ledger) (donorId donationId expenseId allocationId : Id)
    (method : AttributionMethod) (amount : Option Decimal.Amount) : Ledger :=
  match l.attributionAmount allocationId method amount (l.designated donationId allocationId)
      (l.expenseCharge expenseId allocationId) with
  | .ok amt =>
      let attr : DonorExpenseAttribution :=
        { id := host.newId "attr" 0, donorId, donationId, expenseId, allocationId,
          attributedAmount := amt, method, policyVersion := l.organization.policyVersion }
      { l with
        attributions := (l.attributions.filter
          (fun v => !v.onTriple donationId expenseId allocationId)).set attr.id attr }
  | .error _ => l

/-- The receipt a publication stores. -/
def publishedReceipt [Digest] (host : Host) (l : Ledger) (expenseId donationId allocationId : Id)
    (actor : String) (createdAt : Option String) : Option UseOfFundsReceipt :=
  match l.expenses.get? expenseId, l.donations.get? donationId, l.allocations.get? allocationId,
    l.findAttribution donationId expenseId allocationId with
  | some expense, some donation, some allocation, some attr =>
      some (useOfFundsReceipt host l expense donation allocation attr (l.poolRemaining allocationId)
        (l.donorRemainingOnAllocation donationId allocationId) expenseId donationId allocationId
        actor (truthyOr createdAt (host.nowIso "uof" 0)))
  | _, _, _, _ => none

section Methods

variable [Digest] {host : Host}

theorem attributeDonorToExpense_attributed {donorId donationId expenseId allocationId : Id}
    {method : AttributionMethod} {amount : Option Decimal.Amount} {attr : DonorExpenseAttribution}
    (h : Returns (attributeDonorToExpense host donorId donationId expenseId allocationId method
      amount none) l attr l') :
    ∃ log, l' = { l.attributed host donorId donationId expenseId allocationId method amount with
      auditLog := log } := by
  simp only [attributeDonorToExpense, returns_raiseIf_bind, returns_get_bind,
    returns_requireDonation_bind, returns_requireExpense_bind, returns_okOrRaise_bind,
    returns_modify_bind, returns_audit_bind, returns_pure] at h
  obtain ⟨_, _, _, _, _, _, _, _, _, _, amt, hamt, _, _, _, _, rfl, rfl⟩ := h
  rw [attributed, hamt]
  exact ⟨_, rfl⟩

theorem publishUseOfFundsReceipt_receipt {expenseId donationId allocationId : Id} {actor : String}
    {createdAt : Option String} {receipt : UseOfFundsReceipt}
    (h : Returns (publishUseOfFundsReceipt host expenseId donationId allocationId actor createdAt)
      l receipt l') :
    publishedReceipt host l expenseId donationId allocationId actor createdAt = some receipt := by
  simp only [publishUseOfFundsReceipt, returns_requireExpense_bind, returns_raiseIf_bind,
    returns_requireDonation_bind, returns_requireAllocation_bind, returns_get_bind,
    returns_orRaise_bind, returns_raiseOn_bind, returns_allocationRemainingBalance_bind,
    returns_modify_bind, returns_audit_bind, returns_pure] at h
  obtain ⟨expense, hexp, _, donation, hdon, allocation, hall, attr, hattr, _, _, _, _, _, rfl, _⟩ := h
  rw [publishedReceipt, hexp, hdon, hall, hattr]

theorem importExpense_accepts_iff {expense : Expense} :
    Accepts (importExpense host expense) l ↔ ImportAccepted l expense := by
  simp only [Accepts, ImportAccepted, importExpense, returns_get_bind, returns_raiseIf_bind,
    returns_modify_bind, returns_audit_bind, returns_pure, not_not, not_le, exists_and_left,
    exists_eq', and_true]

theorem attachEvidence_accepts_iff {evidence : EvidenceRecord} :
    Accepts (attachEvidence host evidence) l ↔ evidence.expenseId ∈ l.expenses := by
  simp only [Accepts, attachEvidence, returns_get_bind, returns_raiseIf_bind, returns_modify_bind,
    returns_audit_bind, returns_pure, not_not, exists_and_left, exists_eq', and_true]

theorem allocateExpense_accepts_iff {expenseId allocationId : Id} {amount : Decimal.Amount}
    {eaId : Option Id} :
    Accepts (allocateExpense host expenseId allocationId amount eaId) l ↔
      AllocationAccepted l expenseId allocationId amount := by
  simp only [Accepts, AllocationAccepted, onSome_iff, onOk_iff, allocateExpense,
    returns_requireExpense_bind, returns_raiseIfFrozen_bind, returns_get_bind,
    returns_raiseIf_bind, returns_okOrRaise_bind, returns_allocationRemainingBalance_bind,
    returns_modify_bind, returns_audit_bind, returns_pure, not_not, not_le]
  constructor
  · rintro ⟨_, _, expense, hexp, hc, hv, _, amt, hamt, hpos, hbal, _⟩
    exact ⟨⟨expense, hexp, hc, hv⟩, hbal, amt, hamt, hpos⟩
  · rintro ⟨⟨expense, hexp, hc, hv⟩, hbal, amt, hamt, hpos⟩
    exact ⟨_, _, expense, hexp, hc, hv, hbal.1, amt, hamt, hpos, hbal, rfl, rfl⟩

theorem allocateExpenseSplits_accepts {expenseId : Id} {splits : List (Id × Decimal.Amount)}
    {expense : Expense} {parsed : List (Id × Int)}
    (hexp : l.expenses.get? expenseId = some expense)
    (hc : expense.state ∉ correctedExpenseStates) (hv : expense.state ∉ verifiedExpenseStates)
    (hparsed : parseSplits l splits = .ok parsed) (htotal : splitTotal parsed = expense.amount) :
    Accepts (allocateExpenseSplits host expenseId splits) l := by
  simp only [Accepts, allocateExpenseSplits, returns_requireExpense_bind,
    returns_raiseIfFrozen_bind, returns_get_bind, returns_okOrRaise_bind, returns_raiseIf_bind,
    returns_modify_bind, returns_audit_bind, returns_pure, not_not]
  exact ⟨_, _, expense, hexp, hc, hv, parsed, hparsed, htotal, rfl, rfl⟩

theorem approveExpense_accepts_iff {expenseId : Id} {approvedBy : String} :
    Accepts (approveExpense host expenseId approvedBy) l ↔
      ApprovalAccepted l expenseId approvedBy := by
  simp only [Accepts, ApprovalAccepted, onSome_iff, approveExpense, returns_requireExpense_bind,
    returns_raiseIf_bind, returns_get_bind, returns_checkFundBalances_bind, returns_modify_bind,
    returns_audit_bind, returns_pure, not_not]
  constructor
  · rintro ⟨_, _, expense, hexp, _, _, hstate, hsome, htotal, hbal, hby, _⟩
    exact ⟨expense, hexp, hstate, hsome, htotal, hbal, hby⟩
  · rintro ⟨expense, hexp, hstate, hsome, htotal, hbal, hby⟩
    obtain ⟨hc, hv⟩ := not_frozen_of_approvable hstate
    exact ⟨_, _, expense, hexp, hc, hv, hstate, hsome, htotal, hbal, hby, rfl, rfl⟩

theorem attributeDonorToExpense_accepts_iff {donorId donationId expenseId allocationId : Id}
    {method : AttributionMethod} {amount : Option Decimal.Amount} {attrId : Option Id} :
    Accepts (attributeDonorToExpense host donorId donationId expenseId allocationId method amount
      attrId) l ↔
      AttributionAccepted l donorId donationId expenseId allocationId method amount := by
  simp only [Accepts, AttributionAccepted, onSome_iff, onOk_iff, attributeDonorToExpense,
    returns_raiseIf_bind, returns_get_bind, returns_requireDonation_bind,
    returns_requireExpense_bind, returns_okOrRaise_bind, returns_modify_bind, returns_audit_bind,
    returns_pure, not_not, not_le, not_lt, not_or]
  constructor
  · rintro ⟨_, _, ⟨_, hmethod⟩, hdonor, donation, hdon, expense, hexp, hown, hreg, hdes, hcharge, amt,
      hamt, hpos, hle, hle', hsum, _⟩
    exact ⟨hmethod, hdonor, ⟨donation, hdon, hown⟩, Dict.mem_of_get? hexp, hreg, hdes, hcharge, amt,
      hamt, hpos, hle, hle', hsum⟩
  · rintro ⟨hmethod, hdonor, ⟨donation, hdon, hown⟩, hmem, hreg, hdes, hcharge, amt, hamt, hpos, hle,
      hle', hsum⟩
    obtain ⟨expense, hexp⟩ := Dict.mem_iff_get?.mp hmem
    refine ⟨_, _, ⟨?_, hmethod⟩, hdonor, donation, hdon, expense, hexp, hown, hreg, hdes, hcharge,
      amt, hamt, hpos, hle, hle', hsum, rfl, rfl⟩
    rintro rfl
    exact absurd hmethod (by decide)

theorem publishUseOfFundsReceipt_accepts_iff {expenseId donationId allocationId : Id}
    {actor : String} {createdAt : Option String} :
    Accepts (publishUseOfFundsReceipt host expenseId donationId allocationId actor createdAt) l ↔
      PublicationAccepted host l expenseId donationId allocationId := by
  simp only [Accepts, PublicationAccepted, onSome_iff, publishUseOfFundsReceipt,
    returns_requireExpense_bind, returns_raiseIf_bind, returns_requireDonation_bind,
    returns_requireAllocation_bind, returns_get_bind, returns_orRaise_bind, returns_raiseOn_bind,
    returns_allocationRemainingBalance_bind, returns_modify_bind, returns_audit_bind, returns_pure,
    not_not, not_lt, Option.isNone_iff_eq_none]
  constructor
  · rintro ⟨_, _, expense, hexp, hstate, donation, hdon, allocation, hall, attr, hattr, hmethod,
      hlive, hbal, hrem, hnew, _⟩
    refine ⟨?_, Dict.mem_of_get? hdon, hbal, ⟨attr, hattr, hmethod⟩, hlive, hrem, hnew⟩
    rw [expenseIn_of_get? hexp]
    exact decide_eq_true hstate
  · rintro ⟨hstate, hdon, hbal, ⟨attr, hattr, hmethod⟩, hlive, hrem, hnew⟩
    obtain ⟨donation, hdon⟩ := Dict.mem_iff_get?.mp hdon
    obtain ⟨allocation, hall⟩ := Dict.mem_iff_get?.mp hbal.1
    cases hexp : l.expenses.get? expenseId with
    | none => rw [expenseIn, hexp] at hstate; cases hstate
    | some expense =>
        rw [expenseIn_of_get? hexp] at hstate
        exact ⟨_, _, expense, rfl, of_decide_eq_true hstate, donation, hdon, allocation, hall, attr,
          hattr, hmethod, hlive, hbal, hrem, hnew, rfl, rfl⟩

end Methods

end Ledger

end ImpactRelay
