/-
# `Domain.Growth` — what a ledger method adds and what it removes

A method sets keys, so a ledger grows — with two exceptions: classifying an
expense drops the charges it had, and attributing a triple drops the
attribution it had.  A call that returns and found nothing to drop leaves every
store an extension of what it was (`…_grown`).
-/
import ImpactRelay.Domain.LedgerLog
import ImpactRelay.Domain.Writes

namespace ImpactRelay

open Raise

namespace Ledger

variable {l₀ l l' : Ledger}

theorem grown_auditLog (log : List AuditReceipt) : Grown l { l with auditLog := log } :=
  Grown.refl l

theorem grown_putExpense (expenseId : Id) (expense : Expense) :
    Grown l (l.putExpense expenseId expense) := by
  simp [grown_iff, Dict.keys_prefix_set]

theorem grown_evidence (evidence : EvidenceRecord) :
    Grown l { l with evidence := l.evidence.set evidence.id evidence } := by
  simp [grown_iff, Dict.keys_prefix_set]

theorem grown_storeReceipt (expenseId : Id) (receipt : UseOfFundsReceipt) :
    Grown l (storeReceipt expenseId receipt l) := by
  simp [grown_iff, storeReceipt, indexReceipt, Dict.keys_prefix_set]

theorem grown_moveToApprovalPending (expenseId : Id) (expense : Expense) :
    Grown l (moveToApprovalPending expenseId expense l) := by
  rw [moveToApprovalPending]
  split
  · exact grown_putExpense expenseId _
  · exact Grown.refl l

/-- A filter that keeps every value changes nothing. -/
theorem filter_eq_self {ν : Type} {p : ν → Bool} {d : Dict Id ν} (h : ∀ v ∈ d.values, p v = true) :
    d.filter p = d :=
  Dict.ext (List.filter_eq_self.mpr fun e he => h e.2 (List.mem_map_of_mem he))

/-- The expense has no charges to drop. -/
def Uncharged (l : Ledger) (expenseId : Id) : Prop :=
  ∀ ea ∈ l.expenseAllocations.values, ea.expenseId ≠ expenseId

instance (l : Ledger) (expenseId : Id) : Decidable (Uncharged l expenseId) :=
  inferInstanceAs (Decidable (∀ ea ∈ l.expenseAllocations.values, _))

/-- The triple has no attribution to drop. -/
def Unattributed (l : Ledger) (donationId expenseId allocationId : Id) : Prop :=
  ∀ v ∈ l.attributions.values, v.onTriple donationId expenseId allocationId = false

instance (l : Ledger) (donationId expenseId allocationId : Id) :
    Decidable (Unattributed l donationId expenseId allocationId) :=
  inferInstanceAs (Decidable (∀ v ∈ l.attributions.values, _))

theorem grown_replaceExpenseAllocations {expenseId : Id} {eas : List ExpenseAllocation}
    (h : Uncharged l expenseId) : Grown l (replaceExpenseAllocations expenseId eas l) := by
  have hkept : l.expenseAllocations.filter (fun ea => decide (ea.expenseId ≠ expenseId)) =
      l.expenseAllocations := filter_eq_self fun ea hea => decide_eq_true (h ea hea)
  rw [replaceExpenseAllocations, hkept]
  simp [grown_iff, Dict.keys_prefix_setAll]

theorem grown_attributed {donationId expenseId allocationId : Id} {attr : DonorExpenseAttribution}
    (h : Unattributed l donationId expenseId allocationId) :
    Grown l { l with attributions := (l.attributions.filter
      (fun v => !v.onTriple donationId expenseId allocationId)).set attr.id attr } := by
  have hkept : l.attributions.filter (fun v => !v.onTriple donationId expenseId allocationId) =
      l.attributions := filter_eq_self fun v hv => by rw [h v hv]; rfl
  simp [grown_iff, hkept, Dict.keys_prefix_set]

/-! ## Each method -/

section Methods

variable [Digest] {host : Host}

theorem importExpense_grown {expense r : Expense}
    (h : Returns (importExpense host expense) l r l') : Grown l l' := by
  obtain ⟨_, _, _, _, _, log, rfl⟩ := importExpense_returns h
  exact grown_putExpense expense.id expense

theorem attachEvidence_grown {evidence r : EvidenceRecord}
    (h : Returns (attachEvidence host evidence) l r l') : Grown l l' := by
  obtain ⟨_, log, rfl⟩ := attachEvidence_returns h
  exact grown_evidence evidence

theorem allocateExpense_grown {expenseId allocationId : Id} {amount : Decimal.Amount}
    {eaId : Option Id} {ea : ExpenseAllocation} (hfree : Uncharged l expenseId)
    (h : Returns (allocateExpense host expenseId allocationId amount eaId) l ea l') :
    Grown l l' := by
  obtain ⟨_, _, _, _, _, _, expense, _, _, _, log, rfl⟩ := allocateExpense_returns h
  exact (grown_replaceExpenseAllocations hfree).trans (grown_moveToApprovalPending expenseId expense)

theorem allocateExpenseSplits_grown {expenseId : Id} {splits : List (Id × Decimal.Amount)}
    {eas : List ExpenseAllocation} (hfree : Uncharged l expenseId)
    (h : Returns (allocateExpenseSplits host expenseId splits) l eas l') : Grown l l' := by
  obtain ⟨expense, parsed, _, _, _, _, _, _, log, rfl⟩ := allocateExpenseSplits_returns h
  exact (grown_replaceExpenseAllocations hfree).trans (grown_moveToApprovalPending expenseId expense)

theorem approveExpense_grown {expenseId : Id} {approvedBy : String} {r : Expense}
    (h : Returns (approveExpense host expenseId approvedBy) l r l') : Grown l l' := by
  obtain ⟨_, _, _, _, _, _, _, _, _, log, rfl⟩ := approveExpense_returns h
  exact grown_putExpense expenseId r

theorem attributeDonorToExpense_grown {donorId donationId expenseId allocationId : Id}
    {method : AttributionMethod} {amount : Option Decimal.Amount} {attrId : Option Id}
    {attr : DonorExpenseAttribution} (hfree : Unattributed l donationId expenseId allocationId)
    (h : Returns (attributeDonorToExpense host donorId donationId expenseId allocationId method
      amount attrId) l attr l') : Grown l l' := by
  obtain ⟨_, _, _, _, _, _, _, _, _, log, rfl⟩ := attributeDonorToExpense_returns h
  exact grown_attributed hfree

theorem publishUseOfFundsReceipt_grown {expenseId donationId allocationId : Id} {actor : String}
    {createdAt : Option String} {receipt : UseOfFundsReceipt}
    (h : Returns (publishUseOfFundsReceipt host expenseId donationId allocationId actor createdAt)
      l receipt l') : Grown l l' := by
  obtain ⟨_, _, _, _, _, _, _, _, log, rfl⟩ := publishUseOfFundsReceipt_returns h
  exact grown_storeReceipt expenseId receipt

/-! ## Corrections -/

theorem publishCorrectionReceipt_grown {i : Nat} {prior r : UseOfFundsReceipt} {expense : Expense}
    {actor kind reason : String} {replacementId : Option Id}
    (h : Returns (publishCorrectionReceipt host i prior expense actor kind reason replacementId)
      l r l') : Grown l l' := by
  obtain ⟨_, log, rfl⟩ := publishCorrectionReceipt_returns h
  exact grown_storeReceipt expense.id r

theorem reversalCorrections_grown {expense : Expense} {actor reason : String}
    {snaps : List (Id × Json)} {i : Nat} {rs : List UseOfFundsReceipt}
    (h : Returns (reversalCorrections host expense actor reason i snaps) l rs l') : Grown l l' := by
  induction snaps generalizing i l rs with
  | nil =>
      obtain ⟨_, rfl⟩ := returns_pure.mp h
      exact Grown.refl l
  | cons entry snaps ih =>
      rw [reversalCorrections, returns_get_bind, returns_orRaise_bind] at h
      obtain ⟨prior, _, h⟩ := h
      obtain ⟨_, l₀, hcheck, h⟩ := returns_bind.mp h
      rw [(checkSnapshot_readOnly _ _).returns hcheck] at h
      obtain ⟨c, l₁, hpub, h⟩ := returns_bind.mp h
      obtain ⟨cs, l₂, hrest, h⟩ := returns_bind.mp h
      obtain ⟨_, rfl⟩ := returns_pure.mp h
      exact (publishCorrectionReceipt_grown hpub).trans (ih hrest)

theorem supersedeCorrections_grown {expense : Expense} {actor reason : String} {replacementId : Id}
    {rids : List Id} {i : Nat} {rs : List UseOfFundsReceipt}
    (h : Returns (supersedeCorrections host expense actor reason replacementId i rids) l rs l') :
    Grown l l' := by
  induction rids generalizing i l rs with
  | nil =>
      obtain ⟨_, rfl⟩ := returns_pure.mp h
      exact Grown.refl l
  | cons rid rids ih =>
      rw [supersedeCorrections, returns_get_bind, returns_orRaise_bind] at h
      obtain ⟨prior, _, h⟩ := h
      obtain ⟨c, l₁, hpub, h⟩ := returns_bind.mp h
      obtain ⟨cs, l₂, hrest, h⟩ := returns_bind.mp h
      obtain ⟨_, rfl⟩ := returns_pure.mp h
      exact (publishCorrectionReceipt_grown hpub).trans (ih hrest)

theorem reverseExpense_grown {expenseId : Id} {actor reason : String}
    {r : Expense × List UseOfFundsReceipt}
    (h : Returns (reverseExpense host expenseId actor reason) l r l') : Grown l l' := by
  rw [reverseExpense, returns_requireExpense_bind] at h
  obtain ⟨expense, _, h⟩ := h
  rw [returns_raiseIf_bind, returns_get_bind] at h
  obtain ⟨_, h⟩ := h
  obtain ⟨snaps, l₀, hsnaps, h⟩ := returns_bind.mp h
  rw [(priorSnapshots_readOnly _).returns hsnaps] at h
  rw [returns_modify_bind, returns_audit_bind] at h
  obtain ⟨cs, l₁, hcs, h⟩ := returns_bind.mp h
  obtain ⟨_, rfl⟩ := returns_pure.mp h
  have hflipped : Grown l (l.putExpense expenseId (correctedExpense expense .reversed reason)) :=
    grown_putExpense expenseId _
  exact (hflipped.trans (grown_auditLog _)).trans (reversalCorrections_grown hcs)

/-- The replacement is new: only charges left under its identifier can be dropped. -/
theorem supersedeExpense_grown {expenseId : Id} {replacement : Expense}
    {splits : List (Id × Decimal.Amount)} {actor reason approvedBy : String}
    {r : Expense × Expense × List UseOfFundsReceipt} (hfree : Uncharged l replacement.id)
    (h : Returns (supersedeExpense host expenseId replacement splits actor reason approvedBy)
      l r l') : Grown l l' := by
  rw [supersedeExpense, returns_requireExpense_bind] at h
  obtain ⟨old, _, h⟩ := h
  rw [returns_raiseIf_bind, returns_get_bind, returns_modify_bind, returns_raiseIf_bind,
    returns_raiseIf_bind] at h
  obtain ⟨_, _, _, h⟩ := h
  obtain ⟨_, l₁, himp, h⟩ := returns_bind.mp h
  obtain ⟨eas, l₂, hsplit, h⟩ := returns_bind.mp h
  obtain ⟨approved, l₃, happrove, h⟩ := returns_bind.mp h
  rw [returns_audit_bind] at h
  obtain ⟨cs, l₄, hcs, h⟩ := returns_bind.mp h
  obtain ⟨_, rfl⟩ := returns_pure.mp h
  have hfree₁ : Uncharged l₁ replacement.id := by
    obtain ⟨_, _, _, _, _, log, rfl⟩ := importExpense_returns himp
    exact hfree
  have hflipped : Grown l (l.putExpense expenseId (correctedExpense old .superseded reason)) :=
    grown_putExpense expenseId _
  have happroved : Grown l l₃ :=
    ((hflipped.trans (importExpense_grown himp)).trans
      (allocateExpenseSplits_grown hfree₁ hsplit)).trans (approveExpense_grown happrove)
  exact (happroved.trans (grown_auditLog _)).trans (supersedeCorrections_grown hcs)

end Methods

end Ledger

end ImpactRelay
