/-
# `Domain.LedgerSpec` — what each ledger method does

One lemma for each method: from a run that returns, the guards it passed and
the ledger it leaves (`importExpense_returns`, …); and for every method but the
two corrections, that a raise leaves the ledger as it was (`…_atomic`) — every
check of the source comes before its first write.  The audit trail grows on
every write; the lemmas leave its new value open (`log`), since no other store
depends on it.

The proofs about whole runs use these lemmas and never unfold a method.
-/
import ImpactRelay.Domain.Ledger

namespace ImpactRelay

open Raise

namespace Ledger

variable {l l' : Ledger}

/-! ## Lookups, checks and loops -/

@[simp] theorem returns_requireExpense {expenseId : Id} {expense : Expense} :
    Returns (requireExpense expenseId) l expense l' ↔
      l.expenses.get? expenseId = some expense ∧ l = l' := by
  simp [requireExpense, and_comm]

@[simp] theorem returns_requireExpense_bind {β : Type} {expenseId : Id} {b : β}
    {f : Expense → LedgerM β} :
    Returns (requireExpense expenseId >>= f) l b l' ↔
      ∃ expense, l.expenses.get? expenseId = some expense ∧ Returns (f expense) l b l' := by
  simp [requireExpense]

theorem requireExpense_readOnly (expenseId : Id) : ReadOnly (requireExpense expenseId) :=
  ReadOnly.get.bind fun _ => ReadOnly.orRaise _ _

@[simp] theorem returns_requireDonation {donationId : Id} {donation : Donation} :
    Returns (requireDonation donationId) l donation l' ↔
      l.donations.get? donationId = some donation ∧ l = l' := by
  simp [requireDonation, and_comm]

@[simp] theorem returns_requireDonation_bind {β : Type} {donationId : Id} {b : β}
    {f : Donation → LedgerM β} :
    Returns (requireDonation donationId >>= f) l b l' ↔
      ∃ donation, l.donations.get? donationId = some donation ∧ Returns (f donation) l b l' := by
  simp [requireDonation]

theorem requireDonation_readOnly (donationId : Id) : ReadOnly (requireDonation donationId) :=
  ReadOnly.get.bind fun _ => ReadOnly.orRaise _ _

@[simp] theorem returns_requireAllocation {allocationId : Id} {allocation : Allocation} :
    Returns (requireAllocation allocationId) l allocation l' ↔
      l.allocations.get? allocationId = some allocation ∧ l = l' := by
  simp [requireAllocation, and_comm]

@[simp] theorem returns_requireAllocation_bind {β : Type} {allocationId : Id} {b : β}
    {f : Allocation → LedgerM β} :
    Returns (requireAllocation allocationId >>= f) l b l' ↔
      ∃ allocation, l.allocations.get? allocationId = some allocation ∧
        Returns (f allocation) l b l' := by
  simp [requireAllocation]

theorem requireAllocation_readOnly (allocationId : Id) :
    ReadOnly (requireAllocation allocationId) :=
  ReadOnly.get.bind fun _ => ReadOnly.orRaise _ _

/-- The fund is registered, and its balance has no more digits than the context. -/
def HasBalance (l : Ledger) (allocationId : Id) : Prop :=
  allocationId ∈ l.allocations ∧ Fits (l.poolRemaining allocationId)

instance (l : Ledger) (allocationId : Id) : Decidable (l.HasBalance allocationId) :=
  inferInstanceAs (Decidable (_ ∧ _))

theorem orderedMoney_poolRemaining {allocationId : Id} {b : Int} :
    orderedMoney (Decimal.ofCents (l.poolRemaining allocationId)) = .ok b ↔
      Fits (l.poolRemaining allocationId) ∧ l.poolRemaining allocationId = b := by
  rw [orderedMoney_ok]
  constructor
  · intro h
    have hfits : Fits (l.poolRemaining allocationId) := by
      by_contra hnot
      simp [Decimal.quantize, Decimal.ofCents, Decimal.centsOf, hnot] at h
    rw [Decimal.quantize_ofCents hfits] at h
    exact ⟨hfits, Decimal.Quantized.cents.inj (Option.some.inj h)⟩
  · rintro ⟨hfits, rfl⟩
    exact Decimal.quantize_ofCents hfits

@[simp] theorem returns_allocationRemainingBalance_bind {β : Type} {allocationId : Id} {b : β}
    {f : Int → LedgerM β} :
    Returns (allocationRemainingBalance allocationId >>= f) l b l' ↔
      l.HasBalance allocationId ∧ Returns (f (l.poolRemaining allocationId)) l b l' := by
  rw [allocationRemainingBalance, bind_assoc, returns_get_bind, bind_assoc, returns_raiseIf_bind,
    not_not, returns_okOrRaise_bind, HasBalance, and_assoc]
  simp only [orderedMoney_poolRemaining]
  constructor
  · rintro ⟨hreg, b, ⟨hfits, rfl⟩, h⟩
    exact ⟨hreg, hfits, h⟩
  · rintro ⟨hreg, hfits, h⟩
    exact ⟨hreg, _, ⟨hfits, rfl⟩, h⟩

theorem returns_allocationRemainingBalance {allocationId : Id} {b : Int} :
    Returns (allocationRemainingBalance allocationId) l b l' ↔
      l.HasBalance allocationId ∧ l.poolRemaining allocationId = b ∧ l = l' := by
  rw [← bind_pure (allocationRemainingBalance allocationId),
    returns_allocationRemainingBalance_bind, returns_pure]

theorem allocationRemainingBalance_readOnly (allocationId : Id) :
    ReadOnly (allocationRemainingBalance allocationId) :=
  ReadOnly.get.bind fun _ => (ReadOnly.raiseIf _ _).bind fun _ => ReadOnly.okOrRaise _

theorem raiseIfFrozen_readOnly (expense : Expense) : ReadOnly (raiseIfFrozen expense) :=
  (ReadOnly.raiseIf _ _).bind fun _ => ReadOnly.raiseIf _ _

@[simp] theorem returns_raiseIfFrozen_bind {β : Type} {expense : Expense} {b : β}
    {f : Unit → LedgerM β} :
    Returns (raiseIfFrozen expense >>= f) l b l' ↔
      expense.state ∉ correctedExpenseStates ∧ expense.state ∉ verifiedExpenseStates ∧
        Returns (f ()) l b l' := by
  rw [raiseIfFrozen, bind_assoc, returns_raiseIf_bind, returns_raiseIf_bind]

/-- A parsed split names a registered fund and a positive amount. -/
theorem parseSplits_ok {splits : List (Id × Decimal.Amount)} {parsed : List (Id × Int)}
    (h : parseSplits l splits = .ok parsed) :
    ∀ p ∈ parsed, p.1 ∈ l.allocations ∧ 0 < p.2 := by
  induction splits generalizing parsed with
  | nil =>
      cases h
      intro p hp
      exact absurd hp List.not_mem_nil
  | cons split splits ih =>
      obtain ⟨allocationId, raw⟩ := split
      rw [parseSplits] at h
      split at h
      · exact nomatch h
      · next hreg =>
          split at h
          · exact nomatch h
          · next amt _ =>
              split at h
              · exact nomatch h
              · next hpos =>
                  split at h
                  · exact nomatch h
                  · next rest hrest =>
                      cases h
                      intro p hp
                      rcases List.mem_cons.mp hp with rfl | hp
                      · exact ⟨not_not.mp hreg, Int.not_le.mp hpos⟩
                      · exact ih hrest p hp

theorem length_parseSplits {splits : List (Id × Decimal.Amount)} {parsed : List (Id × Int)}
    (h : parseSplits l splits = .ok parsed) : parsed.length = splits.length := by
  induction splits generalizing parsed with
  | nil => cases h; rfl
  | cons split splits ih =>
      obtain ⟨allocationId, raw⟩ := split
      rw [parseSplits] at h
      split at h
      · exact nomatch h
      · split at h
        · exact nomatch h
        · split at h
          · exact nomatch h
          · split at h
            · exact nomatch h
            · next rest hrest =>
                cases h
                rw [List.length_cons, List.length_cons, ih hrest]

theorem mem_splitRecords {expenseId : Id} {ea : ExpenseAllocation} :
    ∀ {i : Nat} {parsed : List (Id × Int)}, ea ∈ splitRecords host expenseId i parsed →
      ea.expenseId = expenseId ∧ (ea.allocationId, ea.amount) ∈ parsed
  | _, [], h => absurd h List.not_mem_nil
  | i, (allocationId, amt) :: parsed, h => by
      rcases List.mem_cons.mp h with rfl | h
      · exact ⟨rfl, List.mem_cons_self⟩
      · have ih := mem_splitRecords h
        exact ⟨ih.1, List.mem_cons_of_mem _ ih.2⟩

theorem checkFundBalances_readOnly : ∀ eas : List ExpenseAllocation,
    ReadOnly (checkFundBalances eas)
  | [] => ReadOnly.pure ()
  | ea :: eas => (allocationRemainingBalance_readOnly ea.allocationId).bind fun _ =>
      (ReadOnly.raiseIf _ _).bind fun _ => checkFundBalances_readOnly eas

/-- The balance loop passes exactly when every single split fits its fund. -/
@[simp] theorem returns_checkFundBalances_bind {β : Type} {eas : List ExpenseAllocation} {b : β}
    {f : Unit → LedgerM β} :
    Returns (checkFundBalances eas >>= f) l b l' ↔
      (∀ ea ∈ eas, l.HasBalance ea.allocationId ∧ ea.amount ≤ l.poolRemaining ea.allocationId) ∧
        Returns (f ()) l b l' := by
  induction eas with
  | nil => simp [checkFundBalances]
  | cons ea eas ih =>
      simp only [checkFundBalances, bind_assoc, returns_allocationRemainingBalance_bind,
        returns_raiseIf_bind, ih, List.forall_mem_cons, not_lt, and_assoc]

theorem getReceipt_readOnly (receiptId : Id) : ReadOnly (getReceipt receiptId) :=
  ReadOnly.get.bind fun _ => ReadOnly.orRaise _ _

theorem getReceiptSnapshot_readOnly (receiptId : Id) : ReadOnly (getReceiptSnapshot receiptId) :=
  ReadOnly.get.bind fun _ => ReadOnly.orRaise _ _

theorem priorSnapshots_readOnly : ∀ rids : List Id, ReadOnly (priorSnapshots rids)
  | [] => ReadOnly.pure _
  | rid :: rids => (getReceiptSnapshot_readOnly rid).bind fun _ =>
      (priorSnapshots_readOnly rids).bind fun _ => ReadOnly.pure _

theorem returns_priorSnapshots {rids : List Id} {snaps : List (Id × Json)}
    (h : Returns (priorSnapshots rids) l snaps l') :
    snaps.map Prod.fst = rids ∧ ∀ p ∈ snaps, l.receiptSnapshots.get? p.1 = some p.2 := by
  induction rids generalizing snaps l' with
  | nil =>
      obtain ⟨rfl, rfl⟩ := returns_pure.mp h
      exact ⟨rfl, fun p hp => absurd hp List.not_mem_nil⟩
  | cons rid rids ih =>
      obtain ⟨snap, l₁, hget, h⟩ := returns_bind.mp h
      rw [getReceiptSnapshot, returns_get_bind, returns_orRaise] at hget
      obtain ⟨hsnap, rfl⟩ := hget
      obtain ⟨rest, l₂, hrest, h⟩ := returns_bind.mp h
      obtain ⟨rfl, rfl⟩ := returns_pure.mp h
      obtain ⟨hids, hall⟩ := ih hrest
      refine ⟨by rw [List.map_cons, hids], fun p hp => ?_⟩
      rcases List.mem_cons.mp hp with rfl | hp
      · exact hsnap
      · exact hall p hp

theorem priorSnapshots_raises {rids : List Id} {e : PyExc}
    (h : Raises (priorSnapshots rids) l e l') : ∃ rid ∈ rids, rid ∉ l.receiptSnapshots := by
  induction rids generalizing l' with
  | nil => exact absurd h not_raises_pure
  | cons rid rids ih =>
      rcases raises_bind.mp h with hget | ⟨snap, l₁, hget, h'⟩
      · rw [getReceiptSnapshot, raises_get_bind, raises_orRaise] at hget
        exact ⟨rid, List.mem_cons_self, Dict.get?_eq_none.mp hget.1⟩
      · rw [(getReceiptSnapshot_readOnly rid).returns hget] at h'
        rcases raises_bind.mp h' with hrest | ⟨rest, l₂, _, h'⟩
        · obtain ⟨rid', hmem, hnone⟩ := ih hrest
          exact ⟨rid', List.mem_cons_of_mem _ hmem, hnone⟩
        · exact absurd h' not_raises_pure

theorem checkSnapshot_readOnly (snap : Json) (prior : UseOfFundsReceipt) :
    ReadOnly (checkSnapshot snap prior) :=
  (ReadOnly.orRaise _ _).bind fun _ => (ReadOnly.raiseIf _ _).bind fun _ =>
    (ReadOnly.orRaise _ _).bind fun _ => (ReadOnly.orRaise _ _).bind fun _ =>
    ReadOnly.raiseIf _ _

theorem requireExpense_raises {expenseId : Id} {e : PyExc}
    (h : Raises (requireExpense expenseId) l e l') : l.expenses.get? expenseId = none ∧ l' = l := by
  rw [requireExpense, raises_get_bind, raises_orRaise] at h
  exact ⟨h.1, h.2.2.symm⟩

theorem mutateApprovedExpense_readOnly (expenseId : Id) :
    ReadOnly (mutateApprovedExpense expenseId) :=
  (requireExpense_readOnly _).bind fun _ => (ReadOnly.raiseIf _ _).bind fun _ => ReadOnly.throw _

section Methods

variable [Digest] {host : Host}

@[simp] theorem returns_audit_bind {β : Type} {eventType entityType entityId actor : String}
    {payload : Json} {b : β} {f : Unit → LedgerM β} :
    Returns (audit host eventType entityType entityId actor payload >>= f) l b l' ↔
      Returns (f ()) { l with auditLog := l.auditLog ++
        [auditReceipt host l eventType entityType entityId actor payload] } b l' :=
  Iff.rfl

@[simp] theorem returns_audit {eventType entityType entityId actor : String} {payload : Json}
    {u : Unit} :
    Returns (audit host eventType entityType entityId actor payload) l u l' ↔
      { l with auditLog := l.auditLog ++
        [auditReceipt host l eventType entityType entityId actor payload] } = l' :=
  returns_modify

theorem audit_total {eventType entityType entityId actor : String} {payload : Json} :
    Total (audit host eventType entityType entityId actor payload) :=
  Total.modify _

/-! ## Registration and import -/

theorem registerDonor_returns {donor r : Donor} (h : Returns (registerDonor host donor) l r l') :
    ∃ log, l' = { l with donors := l.donors.set donor.id donor, auditLog := log } := by
  simp [registerDonor] at h
  obtain ⟨_, rfl, _⟩ := h
  exact ⟨_, rfl⟩

theorem registerDonor_atomic (donor : Donor) : Atomic (registerDonor host donor) :=
  .bind_readOnly .get fun _ => .bind_readOnly (.raiseIf _ _) fun _ =>
    Total.atomic ((Total.modify _).bind fun _ => audit_total.bind fun _ => .pure _)

theorem importDonation_returns {donation r : Donation}
    (h : Returns (importDonation host donation) l r l') :
    0 < donation.amount ∧ donation.id ∉ l.donations ∧ donation.donorId ∈ l.donors ∧
      ∃ log, l' = { l with donations := l.donations.set donation.id donation, auditLog := log } := by
  simp [importDonation] at h
  obtain ⟨_, hpos, hnew, hdonor, rfl, _⟩ := h
  exact ⟨hpos, hnew, hdonor, _, rfl⟩

theorem importDonation_atomic (donation : Donation) : Atomic (importDonation host donation) :=
  .bind_readOnly .get fun _ => .bind_readOnly (.raiseIf _ _) fun _ =>
    .bind_readOnly (.raiseIf _ _) fun _ => .bind_readOnly (.raiseIf _ _) fun _ =>
    .bind_readOnly (.raiseIf _ _) fun _ =>
    Total.atomic ((Total.modify _).bind fun _ => audit_total.bind fun _ => .pure _)

theorem registerAllocation_returns {allocation r : Allocation}
    (h : Returns (registerAllocation host allocation) l r l') :
    ∃ log, l' = { l with
      allocations := l.allocations.set allocation.id allocation, auditLog := log } := by
  simp [registerAllocation] at h
  obtain ⟨_, rfl, _⟩ := h
  exact ⟨_, rfl⟩

theorem registerAllocation_atomic (allocation : Allocation) :
    Atomic (registerAllocation host allocation) :=
  .bind_readOnly .get fun _ => .bind_readOnly (.raiseIf _ _) fun _ =>
    Total.atomic ((Total.modify _).bind fun _ => audit_total.bind fun _ => .pure _)

theorem assignDonationAllocation_returns {donationId allocationId : Id} {amount : Decimal.Amount}
    {daId : Option Id} {da : DonationAllocation}
    (h : Returns (assignDonationAllocation host donationId allocationId amount daId) l da l') :
    da.id = truthyOr daId (host.newId "da" 0) ∧ da.donationId = donationId ∧
      da.allocationId = allocationId ∧ allocationId ∈ l.allocations ∧ 0 < da.amount ∧
      orderedMoney amount = .ok da.amount ∧
      (∃ donation, l.donations.get? donationId = some donation ∧ donation.cleared = true ∧
        l.sumDonationAllocations donationId + da.amount ≤ donation.amount) ∧
      ∃ log, l' = { l with
        donationAllocations := l.donationAllocations.set da.id da, auditLog := log } := by
  simp [assignDonationAllocation] at h
  obtain ⟨donation, hdonation, hreg, hcleared, amt, hamt, hpos, hle, rfl, rfl⟩ := h
  exact ⟨rfl, rfl, rfl, hreg, hpos, hamt, ⟨donation, hdonation, hcleared, hle⟩, _, rfl⟩

theorem assignDonationAllocation_atomic (donationId allocationId : Id) (amount : Decimal.Amount)
    (daId : Option Id) :
    Atomic (assignDonationAllocation host donationId allocationId amount daId) :=
  .bind_readOnly (requireDonation_readOnly _) fun _ => .bind_readOnly .get fun _ =>
    .bind_readOnly (.raiseIf _ _) fun _ => .bind_readOnly (.raiseIf _ _) fun _ =>
    .bind_readOnly (.okOrRaise _) fun _ => .bind_readOnly (.raiseIf _ _) fun _ =>
    .bind_readOnly (.raiseIf _ _) fun _ =>
    Total.atomic ((Total.modify _).bind fun _ => audit_total.bind fun _ => .pure _)

theorem importExpense_returns {expense r : Expense}
    (h : Returns (importExpense host expense) l r l') :
    expense.organizationId = l.organization.id ∧ 0 < expense.amount ∧ expense.id ∉ l.expenses ∧
      (expense.state = .draft ∨ expense.state = .imported) ∧ r = expense ∧
      ∃ log, l' = { l with expenses := l.expenses.set expense.id expense, auditLog := log } := by
  simp [importExpense] at h
  obtain ⟨horg, hpos, hnew, hstate, rfl, rfl⟩ := h
  exact ⟨horg, hpos, hnew, Decidable.or_iff_not_imp_left.mpr hstate, rfl, _, rfl⟩

theorem importExpense_atomic (expense : Expense) : Atomic (importExpense host expense) :=
  .bind_readOnly .get fun _ => .bind_readOnly (.raiseIf _ _) fun _ =>
    .bind_readOnly (.raiseIf _ _) fun _ => .bind_readOnly (.raiseIf _ _) fun _ =>
    .bind_readOnly (.raiseIf _ _) fun _ =>
    Total.atomic ((Total.modify _).bind fun _ => audit_total.bind fun _ => .pure _)

theorem attachEvidence_returns {evidence r : EvidenceRecord}
    (h : Returns (attachEvidence host evidence) l r l') :
    evidence.expenseId ∈ l.expenses ∧
      ∃ log, l' = { l with evidence := l.evidence.set evidence.id evidence, auditLog := log } := by
  simp [attachEvidence] at h
  obtain ⟨hmem, rfl, _⟩ := h
  exact ⟨hmem, _, rfl⟩

theorem attachEvidence_atomic (evidence : EvidenceRecord) : Atomic (attachEvidence host evidence) :=
  .bind_readOnly .get fun _ => .bind_readOnly (.raiseIf _ _) fun _ =>
    Total.atomic ((Total.modify _).bind fun _ => audit_total.bind fun _ => .pure _)

/-! ## Classification -/

theorem allocateExpense_returns {expenseId allocationId : Id} {amount : Decimal.Amount}
    {eaId : Option Id} {ea : ExpenseAllocation}
    (h : Returns (allocateExpense host expenseId allocationId amount eaId) l ea l') :
    ea.id = truthyOr eaId (host.newId "ea" 0) ∧ ea.expenseId = expenseId ∧
      ea.allocationId = allocationId ∧ allocationId ∈ l.allocations ∧ 0 < ea.amount ∧
      orderedMoney amount = .ok ea.amount ∧
      ∃ expense, l.expenses.get? expenseId = some expense ∧
        expense.state ∉ correctedExpenseStates ∧ expense.state ∉ verifiedExpenseStates ∧
        ∃ log, l' = { moveToApprovalPending expenseId expense
          (replaceExpenseAllocations expenseId [ea] l) with auditLog := log } := by
  simp only [allocateExpense, returns_requireExpense_bind, returns_raiseIfFrozen_bind,
    returns_get_bind, returns_raiseIf_bind, returns_okOrRaise_bind,
    returns_allocationRemainingBalance_bind, returns_modify_bind, returns_audit_bind,
    returns_pure, not_not] at h
  obtain ⟨expense, hexp, hc, hv, hreg, amt, hamt, hpos, _, rfl, rfl⟩ := h
  exact ⟨rfl, rfl, rfl, hreg, Int.not_le.mp hpos, hamt, expense, hexp, hc, hv, _, rfl⟩

theorem allocateExpense_atomic (expenseId allocationId : Id) (amount : Decimal.Amount)
    (eaId : Option Id) : Atomic (allocateExpense host expenseId allocationId amount eaId) :=
  .bind_readOnly (requireExpense_readOnly _) fun _ => .bind_readOnly (raiseIfFrozen_readOnly _)
    fun _ => .bind_readOnly .get fun _ => .bind_readOnly (.raiseIf _ _) fun _ =>
    .bind_readOnly (.okOrRaise _) fun _ => .bind_readOnly (.raiseIf _ _) fun _ =>
    .bind_readOnly (allocationRemainingBalance_readOnly _) fun _ =>
    Total.atomic ((Total.modify _).bind fun _ => (Total.modify _).bind fun _ =>
      audit_total.bind fun _ => .pure _)

theorem allocateExpenseSplits_returns {expenseId : Id} {splits : List (Id × Decimal.Amount)}
    {eas : List ExpenseAllocation}
    (h : Returns (allocateExpenseSplits host expenseId splits) l eas l') :
    ∃ expense parsed, l.expenses.get? expenseId = some expense ∧
      expense.state ∉ correctedExpenseStates ∧ expense.state ∉ verifiedExpenseStates ∧
      parseSplits l splits = .ok parsed ∧ splitTotal parsed = expense.amount ∧
      eas = splitRecords host expenseId 0 parsed ∧
      ∃ log, l' = { moveToApprovalPending expenseId expense
        (replaceExpenseAllocations expenseId eas l) with auditLog := log } := by
  simp only [allocateExpenseSplits, returns_requireExpense_bind, returns_raiseIfFrozen_bind,
    returns_get_bind, returns_raiseIf_bind, returns_okOrRaise_bind, returns_modify_bind,
    returns_audit_bind, returns_pure, not_not] at h
  obtain ⟨expense, hexp, hc, hv, parsed, hparsed, htotal, rfl, rfl⟩ := h
  exact ⟨expense, parsed, hexp, hc, hv, hparsed, htotal, rfl, _, rfl⟩

theorem allocateExpenseSplits_atomic (expenseId : Id) (splits : List (Id × Decimal.Amount)) :
    Atomic (allocateExpenseSplits host expenseId splits) :=
  .bind_readOnly (requireExpense_readOnly _) fun _ => .bind_readOnly (raiseIfFrozen_readOnly _)
    fun _ => .bind_readOnly .get fun _ => .bind_readOnly (.okOrRaise _) fun _ =>
    .bind_readOnly (.raiseIf _ _) fun _ =>
    Total.atomic ((Total.modify _).bind fun _ => (Total.modify _).bind fun _ =>
      audit_total.bind fun _ => .pure _)

/-! ## Approval and reconciliation -/

theorem approveExpense_returns {expenseId : Id} {approvedBy : String} {r : Expense}
    (h : Returns (approveExpense host expenseId approvedBy) l r l') :
    ∃ expense, l.expenses.get? expenseId = some expense ∧
      expense.state ∉ correctedExpenseStates ∧ expense.state ∉ verifiedExpenseStates ∧
      expense.state ∈
        [ExpenseState.approvalPending, ExpenseState.classificationPending, ExpenseState.imported] ∧
      chargeTotal (l.expenseAllocationsFor expenseId) = expense.amount ∧
      (∀ ea ∈ l.expenseAllocationsFor expenseId,
        l.HasBalance ea.allocationId ∧ ea.amount ≤ l.poolRemaining ea.allocationId) ∧
      approvedBy ≠ "" ∧
      r = { withExpenseState expense .approved with approvedBy := some approvedBy } ∧
      ∃ log, l' = { l with expenses := l.expenses.set expenseId r, auditLog := log } := by
  simp only [approveExpense, returns_requireExpense_bind, returns_get_bind, returns_raiseIf_bind,
    returns_checkFundBalances_bind, returns_modify_bind, returns_audit_bind, returns_pure,
    not_not] at h
  obtain ⟨expense, hexp, hc, hv, hs, _, htotal, hfit, hby, rfl, rfl⟩ := h
  exact ⟨expense, hexp, hc, hv, hs, htotal, hfit, hby, rfl, _, rfl⟩

theorem approveExpense_atomic (expenseId : Id) (approvedBy : String) :
    Atomic (approveExpense host expenseId approvedBy) :=
  .bind_readOnly (requireExpense_readOnly _) fun _ => .bind_readOnly (.raiseIf _ _) fun _ =>
    .bind_readOnly (.raiseIf _ _) fun _ => .bind_readOnly (.raiseIf _ _) fun _ =>
    .bind_readOnly .get fun _ => .bind_readOnly (.raiseIf _ _) fun _ =>
    .bind_readOnly (.raiseIf _ _) fun _ => .bind_readOnly (checkFundBalances_readOnly _) fun _ =>
    .bind_readOnly (.raiseIf _ _) fun _ =>
    Total.atomic ((Total.modify _).bind fun _ => audit_total.bind fun _ => .pure _)

theorem reconcileExpense_returns {expenseId : Id} {actor : String} {r : Expense}
    (h : Returns (reconcileExpense host expenseId actor) l r l') :
    ∃ expense, l.expenses.get? expenseId = some expense ∧ expense.state = .approved ∧
      r = { withExpenseState expense .reconciled with
        reconciledAt := some (host.nowIso "reconciled" 0) } ∧
      ∃ log, l' = { l with expenses := l.expenses.set expenseId r, auditLog := log } := by
  simp only [reconcileExpense, returns_requireExpense_bind, returns_raiseIf_bind,
    returns_modify_bind, returns_audit_bind, returns_pure, not_not] at h
  obtain ⟨expense, hexp, hs, rfl, rfl⟩ := h
  exact ⟨expense, hexp, hs, rfl, _, rfl⟩

theorem reconcileExpense_atomic (expenseId : Id) (actor : String) :
    Atomic (reconcileExpense host expenseId actor) :=
  .bind_readOnly (requireExpense_readOnly _) fun _ => .bind_readOnly (.raiseIf _ _) fun _ =>
    Total.atomic ((Total.modify _).bind fun _ => audit_total.bind fun _ => .pure _)

/-! ## Attribution -/

theorem attributeDonorToExpense_returns {donorId donationId expenseId allocationId : Id}
    {method : AttributionMethod} {amount : Option Decimal.Amount} {attrId : Option Id}
    {attr : DonorExpenseAttribution}
    (h : Returns (attributeDonorToExpense host donorId donationId expenseId allocationId method
      amount attrId) l attr l') :
    attr.id = truthyOr attrId (host.newId "attr" 0) ∧
      attr.onTriple donationId expenseId allocationId = true ∧ attr.method = method ∧
      method ∈ allowedAttributionMethods ∧ donationId ∈ l.donations ∧ expenseId ∈ l.expenses ∧
      0 < attr.attributedAmount ∧
      attr.attributedAmount ≤ l.expenseCharge expenseId allocationId ∧
      l.activeAttributionTotal donationId allocationId (some expenseId) + attr.attributedAmount ≤
        l.designated donationId allocationId ∧
      ∃ log, l' = { l with
        attributions := (l.attributions.filter
          (fun v => !v.onTriple donationId expenseId allocationId)).set attr.id attr
        auditLog := log } := by
  simp only [attributeDonorToExpense, returns_raiseIf_bind, returns_get_bind,
    returns_requireDonation_bind, returns_requireExpense_bind, returns_okOrRaise_bind,
    returns_modify_bind, returns_audit_bind, returns_pure, not_not, not_or] at h
  obtain ⟨⟨_, hmethod⟩, _, donation, hdonation, expense, hexp, _, _, _, _, amt, _, hpos, hcharge, _,
    hsum, rfl, rfl⟩ := h
  refine ⟨rfl, ?_, rfl, hmethod, Dict.mem_of_get? hdonation, Dict.mem_of_get? hexp,
    Int.not_le.mp hpos, Int.not_lt.mp hcharge, Int.not_lt.mp hsum, _, rfl⟩
  simp [DonorExpenseAttribution.onTriple]

theorem attributeDonorToExpense_atomic (donorId donationId expenseId allocationId : Id)
    (method : AttributionMethod) (amount : Option Decimal.Amount) (attrId : Option Id) :
    Atomic (attributeDonorToExpense host donorId donationId expenseId allocationId method amount
      attrId) :=
  .bind_readOnly (.raiseIf _ _) fun _ => .bind_readOnly .get fun _ =>
    .bind_readOnly (.raiseIf _ _) fun _ => .bind_readOnly (requireDonation_readOnly _) fun _ =>
    .bind_readOnly (requireExpense_readOnly _) fun _ => .bind_readOnly (.raiseIf _ _) fun _ =>
    .bind_readOnly (.raiseIf _ _) fun _ => .bind_readOnly (.raiseIf _ _) fun _ =>
    .bind_readOnly (.raiseIf _ _) fun _ => .bind_readOnly (.okOrRaise _) fun _ =>
    .bind_readOnly (.raiseIf _ _) fun _ => .bind_readOnly (.raiseIf _ _) fun _ =>
    .bind_readOnly (.raiseIf _ _) fun _ => .bind_readOnly (.raiseIf _ _) fun _ =>
    Total.atomic ((Total.modify _).bind fun _ => audit_total.bind fun _ => .pure _)

/-! ## Receipts -/

theorem publishUseOfFundsReceipt_returns {expenseId donationId allocationId : Id} {actor : String}
    {createdAt : Option String} {receipt : UseOfFundsReceipt}
    (h : Returns (publishUseOfFundsReceipt host expenseId donationId allocationId actor createdAt)
      l receipt l') :
    receipt.receiptId = host.newId "uof" 0 ∧ receipt.receiptId ∉ l.receipts ∧
      receipt.corrected = false ∧ receipt.donationId = donationId ∧
      receipt.expenditureExpenseId = expenseId ∧ receipt.allocationId = allocationId ∧
      l.findLiveReceipt donationId expenseId allocationId = none ∧
      l.expenseIn verifiedExpenseStates expenseId = true ∧
      ∃ log, l' = { storeReceipt expenseId receipt l with auditLog := log } := by
  simp only [publishUseOfFundsReceipt, returns_requireExpense_bind, returns_raiseIf_bind,
    returns_requireDonation_bind, returns_requireAllocation_bind, returns_get_bind,
    returns_orRaise_bind, returns_raiseOn_bind, returns_allocationRemainingBalance_bind,
    returns_modify_bind, returns_audit_bind, returns_pure, not_not] at h
  obtain ⟨expense, hexp, hstate, donation, _, allocation, _, attr, _, _, hlive, _, _, hnew, rfl,
    rfl⟩ := h
  refine ⟨rfl, hnew, rfl, rfl, rfl, rfl, hlive, ?_, _, rfl⟩
  simpa [expenseIn, hexp] using hstate

/-- A published receipt states the amount and the method of the attribution on its triple. -/
theorem publishUseOfFundsReceipt_attribution {expenseId donationId allocationId : Id}
    {actor : String} {createdAt : Option String} {receipt : UseOfFundsReceipt}
    (h : Returns (publishUseOfFundsReceipt host expenseId donationId allocationId actor createdAt)
      l receipt l') :
    ∃ attr, l.findAttribution donationId expenseId allocationId = some attr ∧
      receipt.attributedAmount = attr.attributedAmount ∧
      receipt.attributionMethod = attr.method.value := by
  simp only [publishUseOfFundsReceipt, returns_requireExpense_bind, returns_raiseIf_bind,
    returns_requireDonation_bind, returns_requireAllocation_bind, returns_get_bind,
    returns_orRaise_bind, returns_raiseOn_bind, returns_allocationRemainingBalance_bind,
    returns_modify_bind, returns_audit_bind, returns_pure] at h
  obtain ⟨_, _, _, _, _, _, _, attr, hattr, _, _, _, _, _, rfl, _⟩ := h
  exact ⟨attr, hattr, rfl, rfl⟩

theorem publishUseOfFundsReceipt_atomic (expenseId donationId allocationId : Id) (actor : String)
    (createdAt : Option String) :
    Atomic (publishUseOfFundsReceipt host expenseId donationId allocationId actor createdAt) :=
  .bind_readOnly (requireExpense_readOnly _) fun _ => .bind_readOnly (.raiseIf _ _) fun _ =>
    .bind_readOnly (requireDonation_readOnly _) fun _ =>
    .bind_readOnly (requireAllocation_readOnly _) fun _ => .bind_readOnly .get fun _ =>
    .bind_readOnly (.orRaise _ _) fun _ => .bind_readOnly (.raiseIf _ _) fun _ =>
    .bind_readOnly (.raiseOn _ _) fun _ =>
    .bind_readOnly (allocationRemainingBalance_readOnly _) fun _ =>
    .bind_readOnly (.raiseIf _ _) fun _ => .bind_readOnly (.raiseIf _ _) fun _ =>
    Total.atomic ((Total.modify _).bind fun _ => audit_total.bind fun _ => .pure _)

/-! ## Corrections -/

theorem publishCorrectionReceipt_total (i : Nat) (prior : UseOfFundsReceipt) (expense : Expense)
    (actor kind reason : String) (replacementId : Option Id) :
    Total (publishCorrectionReceipt host i prior expense actor kind reason replacementId) :=
  Total.get.bind fun _ => (Total.modify _).bind fun _ => audit_total.bind fun _ => Total.pure _

theorem publishCorrectionReceipt_returns {i : Nat} {prior r : UseOfFundsReceipt}
    {expense : Expense} {actor kind reason : String} {replacementId : Option Id}
    (h : Returns (publishCorrectionReceipt host i prior expense actor kind reason replacementId)
      l r l') :
    r = correctionReceipt host l i prior expense actor kind reason replacementId ∧
      ∃ log, l' = { storeReceipt expense.id r l with auditLog := log } := by
  simp only [publishCorrectionReceipt, returns_get_bind, returns_modify_bind, returns_audit_bind,
    returns_pure] at h
  obtain ⟨rfl, rfl⟩ := h
  exact ⟨rfl, _, rfl⟩

end Methods

end Ledger

end ImpactRelay
