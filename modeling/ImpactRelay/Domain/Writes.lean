/-
# `Domain.Writes` — the writes behind the postings

`Write fresh fit l l'` is a posting with its call, its kind of receipt and its
audit entry forgotten: one of thirteen guarded writes to the stores.  Every
posting is a chain of writes (`Post.writes`), hence so is every call
(`step_writes`); an invariant that asks no more of a posting than this is one
case analysis on `Write`.
-/
import ImpactRelay.Domain.Postings

namespace ImpactRelay

open Raise Relation

namespace Ledger

/-! ## Writes -/

/-- One write of a method, with the guards it passed.  `fresh` is whether record
identifiers are promised to be fresh; `fit` is asked of the ledger in which an
expense is approved. -/
inductive Write (fresh : Prop) (fit : Ledger → Id → Prop) : Ledger → Ledger → Prop
  | auditLog {l : Ledger} (log : List AuditReceipt) : Write fresh fit l { l with auditLog := log }
  | donor {l : Ledger} (donor : Donor) :
      Write fresh fit l { l with donors := l.donors.set donor.id donor }
  | donation {l : Ledger} (donation : Donation) : 0 < donation.amount →
      donation.id ∉ l.donations → donation.donorId ∈ l.donors →
      Write fresh fit l { l with donations := l.donations.set donation.id donation }
  | allocation {l : Ledger} (allocation : Allocation) : (fresh → allocation.id ∉ l.allocations) →
      Write fresh fit l { l with allocations := l.allocations.set allocation.id allocation }
  | evidence {l : Ledger} (evidence : EvidenceRecord) : evidence.expenseId ∈ l.expenses →
      Write fresh fit l { l with evidence := l.evidence.set evidence.id evidence }
  | designation {l : Ledger} (da : DonationAllocation) (donation : Donation) :
      (fresh → da.id ∉ l.donationAllocations) → da.allocationId ∈ l.allocations → 0 < da.amount →
      l.donations.get? da.donationId = some donation → donation.cleared = true →
      l.sumDonationAllocations da.donationId + da.amount ≤ donation.amount →
      Write fresh fit l { l with donationAllocations := l.donationAllocations.set da.id da }
  | imported {l : Ledger} (expense : Expense) : expense.id ∉ l.expenses → 0 < expense.amount →
      expense.state = .draft ∨ expense.state = .imported →
      Write fresh fit l (l.putExpense expense.id expense)
  | classified {l : Ledger} (expenseId : Id) (expense : Expense) (eas : List ExpenseAllocation) :
      l.expenses.get? expenseId = some expense → expense.state ∉ correctedExpenseStates →
      expense.state ∉ verifiedExpenseStates →
      (∀ ea ∈ eas, ea.expenseId = expenseId ∧ ea.allocationId ∈ l.allocations ∧ 0 < ea.amount) →
      (fresh → l.expenseAllocations.FreshKeys (·.id) eas) →
      Write fresh fit l (moveToApprovalPending expenseId expense
        (replaceExpenseAllocations expenseId eas l))
  | approved {l : Ledger} (expenseId : Id) (expense : Expense) (approvedBy : String) :
      l.expenses.get? expenseId = some expense → expense.state ∉ correctedExpenseStates →
      expense.state ∉ verifiedExpenseStates →
      expense.state ∈
        [ExpenseState.approvalPending, ExpenseState.classificationPending,
          ExpenseState.imported] →
      chargeTotal (l.expenseAllocationsFor expenseId) = expense.amount →
      (∀ ea ∈ l.expenseAllocationsFor expenseId,
        l.HasBalance ea.allocationId ∧ ea.amount ≤ l.poolRemaining ea.allocationId) →
      approvedBy ≠ "" → fit l expenseId →
      Write fresh fit l (l.putExpense expenseId
        { withExpenseState expense .approved with approvedBy := some approvedBy })
  | reconciled {l : Ledger} (expenseId : Id) (expense : Expense) (at_ : String) :
      l.expenses.get? expenseId = some expense → expense.state = .approved →
      Write fresh fit l (l.putExpense expenseId
        { withExpenseState expense .reconciled with reconciledAt := some at_ })
  | corrected {l : Ledger} (expenseId : Id) (expense : Expense) (state : ExpenseState)
      (reason : String) : l.expenses.get? expenseId = some expense →
      expense.state ∈ verifiedExpenseStates → state ∈ correctedExpenseStates →
      Write fresh fit l (l.putExpense expenseId (correctedExpense expense state reason))
  | attributed {l : Ledger} (donationId expenseId allocationId : Id)
      (attr : DonorExpenseAttribution) : (fresh → attr.id ∉ l.attributions) →
      attr.onTriple donationId expenseId allocationId = true → expenseId ∈ l.expenses →
      0 < attr.attributedAmount →
      attr.attributedAmount ≤ l.expenseCharge expenseId allocationId →
      l.activeAttributionTotal donationId allocationId (some expenseId) + attr.attributedAmount ≤
        l.designated donationId allocationId →
      Write fresh fit l { l with attributions := (l.attributions.filter
        (fun v => !v.onTriple donationId expenseId allocationId)).set attr.id attr }
  | receipt {l : Ledger} (expenseId : Id) (receipt : UseOfFundsReceipt) :
      (fresh → receipt.receiptId ∉ l.receipts) → Write fresh fit l (storeReceipt expenseId receipt l)

abbrev Writes (fresh : Prop) (fit : Ledger → Id → Prop) : Ledger → Ledger → Prop :=
  ReflTransGen (Write fresh fit)

/-- A write and the audit entry after it. -/
theorem Write.logged {fresh : Prop} {fit : Ledger → Id → Prop} {l l' : Ledger}
    (h : Write fresh fit l l')
    (log : List AuditReceipt) : Writes fresh fit l { l' with auditLog := log } :=
  (ReflTransGen.single h).tail (.auditLog log)

/-- What every write keeps, a chain keeps. -/
theorem Writes.preserve {fresh : Prop} {fit : Ledger → Id → Prop} {P : Ledger → Prop}
    (hw : ∀ l l', Write fresh fit l l' → P l → P l') {l l' : Ledger} (h : Writes fresh fit l l')
    (hl : P l) :
    P l' := by
  induction h with
  | refl => exact hl
  | tail _ hstep ih => exact hw _ _ hstep ih

/-! ## From postings to writes -/

variable {fresh : Prop} {fit : Ledger → Id → Prop} {host : Host} {l l' : Ledger}

/-- `fit` asked of a posting: only an approval has to meet it. -/
def OnApproval (fit : Ledger → Id → Prop) (l : Ledger) : Posting → Prop
  | .approved expenseId _ _ => fit l expenseId
  | _ => True

theorem onApproval_of_not {p : Posting} (h : p.isApproval = false) : OnApproval fit l p := by
  cases p with
  | approved expenseId expense approvedBy => exact nomatch h
  | _ => trivial

theorem Post.writes (h : Post fresh (OnApproval fit) l l') : Writes fresh fit l l' := by
  obtain ⟨p, log, hguard, hfit, rfl⟩ := h
  cases p with
  | donor donor => exact (Write.donor donor).logged log
  | donation donation =>
      obtain ⟨hpos, hnew, hdonor⟩ := hguard
      exact (Write.donation donation hpos hnew hdonor).logged log
  | allocation allocation => exact (Write.allocation allocation hguard).logged log
  | designation da =>
      obtain ⟨hnew, hreg, hpos, donation, hd, hcleared, hle⟩ := hguard
      exact (Write.designation da donation hnew hreg hpos hd hcleared hle).logged log
  | imported expense =>
      obtain ⟨hnew, hpos, hstate, _⟩ := hguard
      exact (Write.imported expense hnew hpos hstate).logged log
  | evidence evidence => exact (Write.evidence evidence hguard).logged log
  | classified expenseId expense eas =>
      obtain ⟨hexp, hc, hv, heas, hnew⟩ := hguard
      exact (Write.classified expenseId expense eas hexp hc hv heas hnew).logged log
  | approved expenseId expense approvedBy =>
      obtain ⟨hexp, hc, hv, hs, htotal, hbal, hby⟩ := hguard
      exact (Write.approved expenseId expense approvedBy hexp hc hv hs htotal hbal hby hfit).logged
        log
  | reconciled expenseId expense at_ =>
      obtain ⟨hexp, hs⟩ := hguard
      exact (Write.reconciled expenseId expense at_ hexp hs).logged log
  | corrected expenseId expense state reason =>
      obtain ⟨hexp, hv, hs⟩ := hguard
      exact (Write.corrected expenseId expense state reason hexp hv hs).logged log
  | attributed donationId expenseId allocationId attr =>
      obtain ⟨hnew, htriple, hexp, hpos, hcharge, hsum⟩ := hguard
      exact (Write.attributed donationId expenseId allocationId attr hnew htriple hexp hpos hcharge
        hsum).logged log
  | published expenseId receipt =>
      exact (Write.receipt expenseId receipt fun _ => hguard.1).logged log
  | correction expenseId prior receipt =>
      exact (Write.receipt expenseId receipt hguard.1).logged log
  | note => exact .single (.auditLog log)

theorem Posts.writes (h : Posts fresh (OnApproval fit) l l') : Writes fresh fit l l' := by
  induction h with
  | refl => exact .refl
  | tail _ hpost ih => exact ih.trans hpost.writes

variable [Digest]

theorem reversalCorrections_writes {expense : Expense} {actor reason : String}
    {snaps : List (Id × Json)} {i : Nat} (hfresh : fresh → FreshFrom host i snaps.length l.receipts) :
    Writes fresh fit l (after (reversalCorrections host expense actor reason i snaps) l) :=
  (reversalCorrections_posts (fun _ _ _ => trivial) hfresh).writes

theorem supersedeAfterFlip_writes {organizationId : Id} {priorReceiptIds : List Id}
    {superseded : Expense} {expenseId : Id} {replacement : Expense}
    {splits : List (Id × Decimal.Amount)} {actor reason approvedBy : String}
    (hea : fresh → FreshDraws host "ea" splits.length l.expenseAllocations)
    (huofc : fresh → FreshDraws host "uofc" priorReceiptIds.length l.receipts)
    (hfit : ∀ r l₁ eas l', Returns
      (importExpense host (replacementExpense replacement expenseId reason)) l r l₁ →
      Returns (allocateExpenseSplits host replacement.id splits) l₁ eas l' →
      fit l' replacement.id) :
    Writes fresh fit l (after (supersedeAfterFlip host organizationId priorReceiptIds superseded
      expenseId replacement splits actor reason approvedBy) l) :=
  (supersedeAfterFlip_posts (fun _ _ _ happ => onApproval_of_not happ) hea huofc
    fun r l₁ eas l' himp hall _ => hfit r l₁ eas l' himp hall).writes

/-- What a call does to the ledger, returning or raising, is a chain of writes. -/
theorem step_writes {c : Call} (hfresh : fresh → FreshIds l c) (hfit : ApprovalsMeet fit l c) :
    Writes fresh fit l (step l c) := by
  refine (step_posts (fun _ _ _ happ => onApproval_of_not happ) ?_ hfresh).writes
  have hmono : ∀ l expenseId, fit l expenseId →
      ∀ expense approvedBy, OnApproval fit l (.approved expenseId expense approvedBy) :=
    fun _ _ h _ _ => h
  exact hfit.mono hmono

/-- An invariant of every write is an invariant of every run with fresh identifiers. -/
theorem run_preserve {P : Ledger → Prop} (hw : ∀ l l', Write True fit l l' → P l → P l')
    {calls : List Call} (hl : P l) (hfresh : Along step FreshIds l calls)
    (hfit : Along step (ApprovalsMeet fit) l calls) : P (run step l calls) := by
  refine run_invariant (fun l c hP h => ?_) hl (hfresh.and hfit)
  exact (step_writes (fun _ => h.1) h.2).preserve hw hP

theorem approvalsMeet_true (l : Ledger) (c : Call) : ApprovalsMeet (fun _ _ => True) l c := by
  unfold ApprovalsMeet
  split <;> simp

/-- An invariant of every write, fresh or not, is an invariant of every run. -/
theorem run_preserve_any {P : Ledger → Prop}
    (hw : ∀ l l', Write False (fun _ _ => True) l l' → P l → P l') {calls : List Call} (hl : P l) :
    P (run step l calls) := by
  have hany : Along step (fun _ _ => True) l calls := along_of_forall fun _ _ => trivial
  refine run_invariant (fun l c hP _ => ?_) hl hany
  exact (step_writes (fun hf => hf.elim) (approvalsMeet_true l c)).preserve hw hP

end Ledger

end ImpactRelay
