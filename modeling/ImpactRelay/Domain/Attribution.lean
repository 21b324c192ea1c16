/-
# `Domain.Attribution` — a designation is never over-attributed

The bound on a donor's attributions is checked only when an attribution is
written.  It stays true because every other write moves the two sides the right
way: a designation only adds to the right-hand side, a correction only removes
from the left-hand side, and an import cannot revive an attribution, since an
attribution always names an expense the ledger has (`Attributed.refs`).  The
replaced attribution is exactly the one the check leaves out of its total.
-/
import ImpactRelay.Domain.Writes

namespace ImpactRelay

namespace Ledger

variable {l l' : Ledger}

/-! ## Expense states after a write -/

theorem expenseIn_putExpense (states : List ExpenseState) (expenseId e : Id) (expense : Expense) :
    (l.putExpense expenseId expense).expenseIn states e =
      if e = expenseId then decide (expense.state ∈ states) else l.expenseIn states e := by
  rw [expenseIn, Dict.get?_set]
  by_cases heq : e = expenseId
  · simp only [if_pos heq]
  · simp only [if_neg heq, expenseIn]

theorem expenseActive_putExpense (expenseId e : Id) (expense : Expense) :
    (l.putExpense expenseId expense).expenseActive e =
      if e = expenseId then
        decide (expense.state ∉ correctedExpenseStates) && decide (expense.state ≠ .rejected)
      else l.expenseActive e := by
  rw [expenseActive, Dict.get?_set]
  by_cases heq : e = expenseId
  · simp only [if_pos heq]
  · simp only [if_neg heq, expenseActive]

theorem expenseIn_of_get? {states : List ExpenseState} {e : Id} {expense : Expense}
    (h : l.expenses.get? e = some expense) :
    l.expenseIn states e = decide (expense.state ∈ states) := by
  rw [expenseIn, h]

theorem expenseActive_of_get? {e : Id} {expense : Expense}
    (h : l.expenses.get? e = some expense) :
    l.expenseActive e =
      (decide (expense.state ∉ correctedExpenseStates) && decide (expense.state ≠ .rejected)) := by
  rw [expenseActive, h]

theorem expenseActive_of_verified {e : Id} (h : l.expenseIn verifiedExpenseStates e = true) :
    l.expenseActive e = true := by
  unfold expenseIn at h
  unfold expenseActive
  cases hget : l.expenses.get? e with
  | none => rw [hget] at h; exact absurd h Bool.false_ne_true
  | some expense =>
      rw [hget] at h
      rcases mem_verifiedExpenseStates.mp (of_decide_eq_true h) with hs | hs <;> simp [hs]

/-! ## The invariant -/

/-- Attributions name stored expenses, are positive, and fit their designation. -/
structure Attributed (l : Ledger) : Prop where
  refs : ∀ v ∈ l.attributions.values, v.expenseId ∈ l.expenses
  pos : ∀ v ∈ l.attributions.values, 0 < v.attributedAmount
  bounded : ∀ donationId allocationId,
    l.activeAttributionTotal donationId allocationId none ≤ l.designated donationId allocationId

theorem Attributed.new (organization : Organization) : Attributed (.new organization) where
  refs := fun _ h => absurd h List.not_mem_nil
  pos := fun _ h => absurd h List.not_mem_nil
  bounded := fun _ _ => le_refl _

/-- The left-hand side shrinks when no attributed expense becomes active. -/
theorem activeAttributionTotal_le {donationId allocationId : Id} {exclude : Option Id}
    (hpos : ∀ v ∈ l.attributions.values, 0 < v.attributedAmount)
    (hattr : l'.attributions = l.attributions)
    (hactive : ∀ v ∈ l.attributions.values,
      l'.expenseActive v.expenseId = true → l.expenseActive v.expenseId = true) :
    l'.activeAttributionTotal donationId allocationId exclude ≤
      l.activeAttributionTotal donationId allocationId exclude := by
  rw [activeAttributionTotal, activeAttributionTotal, hattr]
  refine Dict.sum_le_sum (fun v hv => Int.le_of_lt (hpos v hv)) (fun v hv h => ?_)
  simp only [Bool.and_eq_true] at h ⊢
  exact ⟨h.1, hactive v hv h.2⟩

/-- Writing an expense that is not active unless it was keeps the invariant. -/
theorem Attributed.putExpense {expenseId : Id} {expense : Expense} (h : Attributed l)
    (hactive : ∀ v ∈ l.attributions.values, v.expenseId = expenseId →
      l.expenseActive expenseId = true ∨ expense.state ∈ correctedExpenseStates) :
    Attributed (l.putExpense expenseId expense) where
  refs := fun v hv => Dict.mem_set.mpr (Or.inr (h.refs v hv))
  pos := h.pos
  bounded := fun donationId allocationId => by
    refine le_trans (activeAttributionTotal_le h.pos rfl fun v hv hnew => ?_)
      (h.bounded donationId allocationId)
    rw [expenseActive_putExpense] at hnew
    split at hnew
    · next heq =>
        rcases hactive v hv heq with hold | hcorr
        · rw [heq]; exact hold
        · simp [hcorr] at hnew
    · exact hnew

theorem Attributed.designation {da : DonationAllocation} (h : Attributed l)
    (hnew : da.id ∉ l.donationAllocations) (hpos : 0 < da.amount) :
    Attributed { l with donationAllocations := l.donationAllocations.set da.id da } where
  refs := h.refs
  pos := h.pos
  bounded := fun donationId allocationId => by
    refine le_trans (h.bounded donationId allocationId) ?_
    rw [designated, designated, Dict.sum_set_of_not_mem hnew]
    split <;> omega

/-- What counts on a pair after an attribution was written: on its own pair no more
than what the check has counted, and on another pair no more than before. -/
theorem activeAttributionTotal_attributed {attr : DonorExpenseAttribution}
    (hpos : ∀ v ∈ l.attributions.values, 0 < v.attributedAmount)
    (hattr : 0 < attr.attributedAmount) (donationId allocationId : Id) :
    ({ l with attributions := (l.attributions.filter (fun v => !v.onTriple attr.donationId
      attr.expenseId attr.allocationId)).set attr.id attr } : Ledger).activeAttributionTotal
        donationId allocationId none ≤
      if attr.donationId = donationId ∧ attr.allocationId = allocationId then
        l.activeAttributionTotal donationId allocationId (some attr.expenseId) +
          attr.attributedAmount
      else l.activeAttributionTotal donationId allocationId none := by
  have hnonneg : ∀ v ∈ l.attributions.values, 0 ≤ v.attributedAmount :=
    fun v hv => Int.le_of_lt (hpos v hv)
  have hkept : ∀ v ∈ (l.attributions.filter (fun v => !v.onTriple attr.donationId attr.expenseId
      attr.allocationId)).values, 0 ≤ v.attributedAmount := by
    intro v hv
    rw [Dict.values_filter] at hv
    exact hnonneg v (List.mem_of_mem_filter hv)
  rw [activeAttributionTotal]
  refine le_trans (Dict.sum_set_le hkept attr.id attr _) ?_
  rw [Dict.sum_filter]
  by_cases hpair : attr.donationId = donationId ∧ attr.allocationId = allocationId
  · -- the pair of the new attribution: what is kept is what the check counted
    rw [if_pos hpair]
    obtain ⟨rfl, rfl⟩ := hpair
    refine add_le_add ?_ ?_
    · refine Dict.sum_le_sum hnonneg fun v _ hv => ?_
      simp only [DonorExpenseAttribution.onTriple, Bool.and_eq_true, Bool.not_eq_true',
        Bool.and_eq_false_iff, decide_eq_true_eq, decide_eq_false_iff_not] at hv ⊢
      obtain ⟨hother, ⟨⟨hd, ha⟩, _⟩, hact⟩ := hv
      refine ⟨⟨⟨hd, ha⟩, fun heq => ?_⟩, hact⟩
      rcases hother with (hne | hne) | hne
      · exact hne hd
      · exact hne (Option.some.inj heq).symm
      · exact hne ha
    · split
      · exact le_refl _
      · exact Int.le_of_lt hattr
  · -- another pair: the new attribution does not count, the rest only shrinks
    rw [if_neg, add_zero, if_neg hpair]
    · refine Dict.sum_le_sum hnonneg fun v _ hv => ?_
      exact (Bool.and_eq_true_iff.mp hv).2
    · simp only [Bool.and_eq_true, decide_eq_true_eq]
      exact fun hp => hpair ⟨hp.1.1.1, hp.1.1.2⟩

theorem mem_attributed {attr v : DonorExpenseAttribution} {p : DonorExpenseAttribution → Bool}
    (h : v ∈ ((l.attributions.filter p).set attr.id attr).values) :
    v = attr ∨ v ∈ l.attributions.values := by
  rcases Dict.mem_values_set h with rfl | hv
  · exact Or.inl rfl
  · rw [Dict.values_filter] at hv
    exact Or.inr (List.mem_of_mem_filter hv)

/-- The write the check is about: the others plus the new amount fit. -/
theorem Attributed.attributed {donationId expenseId allocationId : Id}
    {attr : DonorExpenseAttribution} (h : Attributed l)
    (htriple : attr.onTriple donationId expenseId allocationId = true)
    (hexp : expenseId ∈ l.expenses) (hpos : 0 < attr.attributedAmount)
    (hsum : l.activeAttributionTotal donationId allocationId (some expenseId) +
      attr.attributedAmount ≤ l.designated donationId allocationId) :
    Attributed { l with attributions := (l.attributions.filter
      (fun v => !v.onTriple donationId expenseId allocationId)).set attr.id attr } := by
  simp only [DonorExpenseAttribution.onTriple, Bool.and_eq_true, decide_eq_true_eq] at htriple
  obtain ⟨⟨rfl, rfl⟩, rfl⟩ := htriple
  refine ⟨fun v hv => ?_, fun v hv => ?_, fun d a => ?_⟩
  · rcases mem_attributed hv with rfl | hv
    · exact hexp
    · exact h.refs v hv
  · rcases mem_attributed hv with rfl | hv
    · exact hpos
    · exact h.pos v hv
  · refine le_trans (activeAttributionTotal_attributed h.pos hpos d a) ?_
    split
    · rename_i hpair
      obtain ⟨rfl, rfl⟩ := hpair
      exact hsum
    · exact h.bounded d a

/-- Every write keeps the bound. -/
theorem Attributed.write {fit : Ledger → Id → Prop} (hw : Write True fit l l') (h : Attributed l) :
    Attributed l' := by
  cases hw with
  | auditLog log => exact ⟨h.refs, h.pos, h.bounded⟩
  | donor donor => exact ⟨h.refs, h.pos, h.bounded⟩
  | donation donation _ _ _ => exact ⟨h.refs, h.pos, h.bounded⟩
  | allocation allocation _ => exact ⟨h.refs, h.pos, h.bounded⟩
  | evidence evidence _ => exact ⟨h.refs, h.pos, h.bounded⟩
  | designation da donation hnew _ hpos _ _ _ => exact h.designation (hnew trivial) hpos
  | imported expense hnew _ _ =>
      refine h.putExpense fun v hv heq => ?_
      exact absurd (heq ▸ h.refs v hv) hnew
  | classified expenseId expense eas hexp hc hv _ _ =>
      have hea : Attributed (replaceExpenseAllocations expenseId eas l) :=
        ⟨h.refs, h.pos, h.bounded⟩
      unfold moveToApprovalPending
      split
      · next hstate =>
          refine hea.putExpense fun v _ _ => Or.inl ?_
          rw [expenseActive_of_get? (l := replaceExpenseAllocations expenseId eas l) hexp]
          simp only [List.mem_cons, List.not_mem_nil, or_false] at hstate
          rcases hstate with hs | hs | hs <;> simp [hs]
      · exact hea
  | approved expenseId expense approvedBy hexp hc _ hs _ _ _ _ =>
      refine h.putExpense fun v _ _ => Or.inl ?_
      rw [expenseActive_of_get? hexp]
      simp only [List.mem_cons, List.not_mem_nil, or_false] at hs
      rcases hs with hs | hs | hs <;> simp [hs]
  | reconciled expenseId expense at_ hexp hs =>
      refine h.putExpense fun v _ _ => Or.inl ?_
      rw [expenseActive_of_get? hexp, hs]
      rfl
  | corrected expenseId expense state reason _ _ hstate =>
      exact h.putExpense fun v _ _ => Or.inr hstate
  | attributed donationId expenseId allocationId attr hnew htriple hexp hpos _ hsum =>
      exact h.attributed htriple hexp hpos hsum
  | receipt expenseId receipt _ => exact ⟨h.refs, h.pos, h.bounded⟩

/-- Verified attributions are among the active ones. -/
theorem Attributed.donorRemaining_nonneg (h : Attributed l) (donationId allocationId : Id) :
    0 ≤ l.donorRemainingOnAllocation donationId allocationId := by
  have hle : l.attributions.sum
      (fun attr => decide (attr.donationId = donationId) &&
        decide (attr.allocationId = allocationId) &&
        l.expenseIn verifiedExpenseStates attr.expenseId) (·.attributedAmount) ≤
      l.activeAttributionTotal donationId allocationId none := by
    refine Dict.sum_le_sum (fun v hv => Int.le_of_lt (h.pos v hv)) fun v _ hv => ?_
    simp only [Bool.and_eq_true] at hv ⊢
    exact ⟨⟨hv.1, rfl⟩, expenseActive_of_verified hv.2⟩
  have hbound := h.bounded donationId allocationId
  rw [donorRemainingOnAllocation]
  omega

section Runs

variable [Digest]

/-- In every run with fresh record identifiers, what is attributed from a
donation on a fund to expenses that stand is at most what the donation
designates to it; so the donor's remaining balance is never negative. -/
theorem attributions_within_designation {organization : Organization} {calls : List Call}
    (hfresh : Along step FreshIds (.new organization) calls) (donationId allocationId : Id) :
    (run step (.new organization) calls).activeAttributionTotal donationId allocationId none ≤
        (run step (.new organization) calls).designated donationId allocationId ∧
      0 ≤ (run step (.new organization) calls).donorRemainingOnAllocation donationId
        allocationId := by
  have h : Attributed (run step (.new organization) calls) :=
    run_preserve (fun _ _ hw h => h.write hw) (Attributed.new organization) hfresh
      (along_of_forall approvalsMeet_true)
  exact ⟨h.bounded donationId allocationId, h.donorRemaining_nonneg donationId allocationId⟩

end Runs

section Sample

attribute [local instance] Digest.plain

/-- A gift of 100.00, half of it spent, approved and attributed. -/
def Sample.attributedRun : List Call := script (Sample.gift ++ [
  .importExpense (Sample.expense "expense" 5000),
  .allocateExpense "expense" "fund" (.finite 50 0) none,
  .approveExpense "expense" "human:finance",
  .attributeDonorToExpense "donor" "gift" "expense" "fund" .directRestricted none none])

theorem attributedRun_within_designation :
    (run step (.new Sample.organization) Sample.attributedRun).activeAttributionTotal "gift" "fund"
        none ≤ (run step (.new Sample.organization) Sample.attributedRun).designated "gift" "fund" ∧
      0 ≤ (run step (.new Sample.organization) Sample.attributedRun).donorRemainingOnAllocation
        "gift" "fund" :=
  attributions_within_designation (by decide) "gift" "fund"

end Sample

end Ledger

end ImpactRelay
