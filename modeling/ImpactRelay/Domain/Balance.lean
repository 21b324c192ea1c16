/-
# `Domain.Balance` — when a fund stays solvent

`approve_expense` compares every split of the expense with what is left of its
fund, one at a time, and counts them only after the state has flipped.  Two
splits on one fund can therefore each fit and overdraw it together
(`overdrawn`).  What the check does give is exact: a fund never goes negative
in a run whose approvals have splits that fit together whenever each of them
fits alone (`SplitsFit`), the approval inside a supersession included.

The balance is a difference of two sums of the decimal context, which has 28
digits.  Where less than 10^26 is designated to a fund the sums are exact
(`poolRemaining_exact`); a designation beyond that makes the balance raise, or
rounds it up past the pool.
-/
import ImpactRelay.Domain.Attribution

namespace ImpactRelay

open Raise

namespace Ledger

variable {l l' : Ledger} {host : Host}

/-! ## Outflows after a write -/

theorem outflows_le {allocationId : Id}
    (hpos : ∀ ea ∈ l.expenseAllocations.values, 0 < ea.amount)
    (hea : l'.expenseAllocations = l.expenseAllocations)
    (hverified : ∀ ea ∈ l.expenseAllocations.values,
      l'.expenseIn verifiedExpenseStates ea.expenseId = true →
        l.expenseIn verifiedExpenseStates ea.expenseId = true) :
    l'.outflows allocationId ≤ l.outflows allocationId := by
  rw [outflows, outflows, hea]
  refine Dict.sum_le_sum (fun ea hea => Int.le_of_lt (hpos ea hea)) fun ea hmem h => ?_
  simp only [Bool.and_eq_true] at h ⊢
  exact ⟨h.1, hverified ea hmem h.2⟩

theorem sum_inflowAmounts (l : Ledger) (allocationId : Id) :
    (l.inflowAmounts allocationId).sum = l.pooled allocationId := rfl

theorem sum_outflowAmounts (l : Ledger) (allocationId : Id) :
    (l.outflowAmounts allocationId).sum = l.outflows allocationId := rfl

theorem outflowAmounts_congr {allocationId : Id}
    (hea : l'.expenseAllocations = l.expenseAllocations)
    (hverified : ∀ e, l'.expenseIn verifiedExpenseStates e = l.expenseIn verifiedExpenseStates e) :
    l'.outflowAmounts allocationId = l.outflowAmounts allocationId := by
  simp only [outflowAmounts, hea, hverified]

/-- Writing an expense that counts neither before nor after. -/
theorem outflowAmounts_putExpense {allocationId expenseId : Id} {expense : Expense}
    (hbefore : l.expenseIn verifiedExpenseStates expenseId = false)
    (hafter : expense.state ∉ verifiedExpenseStates) :
    (l.putExpense expenseId expense).outflowAmounts allocationId =
      l.outflowAmounts allocationId := by
  refine outflowAmounts_congr rfl fun e => ?_
  rw [expenseIn_putExpense]
  split
  · next heq => rw [heq, hbefore, decide_eq_false hafter]
  · rfl

theorem expenseIn_false_of_get? {e : Id} {expense : Expense}
    (hexp : l.expenses.get? e = some expense) (h : expense.state ∉ verifiedExpenseStates) :
    l.expenseIn verifiedExpenseStates e = false := by
  rw [expenseIn_of_get? hexp, decide_eq_false h]

theorem expenseIn_false_of_not_mem {states : List ExpenseState} {e : Id} (h : e ∉ l.expenses) :
    l.expenseIn states e = false := by
  rw [expenseIn, Dict.get?_eq_none.mpr h]

/-- Reclassifying an expense that does not count. -/
theorem outflowAmounts_replaceExpenseAllocations {allocationId expenseId : Id}
    {eas : List ExpenseAllocation}
    (hexp : l.expenseIn verifiedExpenseStates expenseId = false)
    (heas : ∀ ea ∈ eas, ea.expenseId = expenseId)
    (hfresh : l.expenseAllocations.FreshKeys (·.id) eas) :
    (replaceExpenseAllocations expenseId eas l).outflowAmounts allocationId =
      l.outflowAmounts allocationId := by
  have hfresh' := hfresh.filter (fun ea => decide (ea.expenseId ≠ expenseId))
  have hnone : eas.filter (fun ea => decide (ea.allocationId = allocationId) &&
      l.expenseIn verifiedExpenseStates ea.expenseId) = [] := by
    refine List.filter_eq_nil_iff.mpr fun ea hmem => ?_
    rw [heas ea hmem, hexp, Bool.and_false]
    exact Bool.false_ne_true
  have hsame : ∀ e, (replaceExpenseAllocations expenseId eas l).expenseIn verifiedExpenseStates e =
      l.expenseIn verifiedExpenseStates e := fun _ => rfl
  rw [outflowAmounts, outflowAmounts]
  refine congrArg (List.map fun ea : ExpenseAllocation => ea.amount) ?_
  simp only [hsame]
  rw [replaceExpenseAllocations, Dict.values_setAll_of_fresh hfresh', Dict.values_filter,
    List.filter_append, hnone, List.append_nil, List.filter_filter]
  refine List.filter_congr fun ea _ => ?_
  by_cases heq : ea.expenseId = expenseId
  · rw [heq, hexp, Bool.and_false, Bool.false_and]
  · rw [decide_eq_true heq, Bool.and_true]

theorem outflowAmounts_moveToApprovalPending {expenseId : Id} (expense : Expense)
    (allocationId : Id) (hexp : l.expenseIn verifiedExpenseStates expenseId = false) :
    (moveToApprovalPending expenseId expense l).outflowAmounts allocationId =
      l.outflowAmounts allocationId := by
  unfold moveToApprovalPending
  split
  · exact outflowAmounts_putExpense hexp (by simp [withExpenseState])
  · rfl

theorem outflowAmounts_classified {allocationId expenseId : Id} {expense : Expense}
    {eas : List ExpenseAllocation} (hexp : l.expenses.get? expenseId = some expense)
    (hv : expense.state ∉ verifiedExpenseStates) (heas : ∀ ea ∈ eas, ea.expenseId = expenseId)
    (hfresh : l.expenseAllocations.FreshKeys (·.id) eas) :
    (moveToApprovalPending expenseId expense
      (replaceExpenseAllocations expenseId eas l)).outflowAmounts allocationId =
      l.outflowAmounts allocationId := by
  have hfalse := expenseIn_false_of_get? hexp hv
  have hmove := outflowAmounts_moveToApprovalPending
    (l := replaceExpenseAllocations expenseId eas l) expense allocationId hfalse
  rw [hmove, outflowAmounts_replaceExpenseAllocations hfalse heas hfresh]

/-- An approval adds what the expense charges to the fund. -/
theorem outflows_approved {expenseId : Id} {expense : Expense} (allocationId : Id)
    (hbefore : l.expenseIn verifiedExpenseStates expenseId = false)
    (hafter : expense.state ∈ verifiedExpenseStates) :
    (l.putExpense expenseId expense).outflows allocationId =
      l.outflows allocationId + l.expenseCharge expenseId allocationId := by
  rw [outflows, outflows, expenseCharge, ← Dict.sum_or]
  · refine Dict.sum_congr fun ea _ => ?_
    rw [expenseIn_putExpense]
    by_cases heq : ea.expenseId = expenseId
    · rw [if_pos heq, heq, hbefore, decide_eq_true hafter, decide_eq_true rfl, Bool.and_true,
        Bool.and_false, Bool.false_or, Bool.true_and]
    · rw [if_neg heq, decide_eq_false heq, Bool.false_and, Bool.or_false]
  · rintro ea _ ⟨h₁, h₂⟩
    simp only [Bool.and_eq_true, decide_eq_true_eq] at h₁ h₂
    rw [h₂.1, hbefore] at h₁
    exact Bool.false_ne_true h₁.2

/-! ## Balances within the context -/

/-- The sum of what the donations designate to a fund has no more digits than the context. -/
def PoolFits (l : Ledger) (allocationId : Id) : Prop :=
  l.pooled allocationId < 10 ^ Decimal.precision

instance (l : Ledger) (allocationId : Id) : Decidable (l.PoolFits allocationId) :=
  inferInstanceAs (Decidable (_ < _))

theorem poolFits_new (organization : Organization) (allocationId : Id) :
    (Ledger.new organization).PoolFits allocationId :=
  show (0 : Int) < 10 ^ Decimal.precision by decide

/-- The sum of the approved and reconciled charges to a fund has none more either. -/
def ChargesFit (l : Ledger) (allocationId : Id) : Prop :=
  l.outflows allocationId < 10 ^ Decimal.precision

instance (l : Ledger) (allocationId : Id) : Decidable (l.ChargesFit allocationId) :=
  inferInstanceAs (Decidable (_ < _))

/-- Designations, charges and attributions are positive. -/
structure Positive (l : Ledger) : Prop where
  given : ∀ da ∈ l.donationAllocations.values, 0 < da.amount
  charged : ∀ ea ∈ l.expenseAllocations.values, 0 < ea.amount
  attributed : ∀ attr ∈ l.attributions.values, 0 < attr.attributedAmount

theorem Positive.new (organization : Organization) : Positive (.new organization) where
  given := fun _ h => absurd h List.not_mem_nil
  charged := fun _ h => absurd h List.not_mem_nil
  attributed := fun _ h => absurd h List.not_mem_nil

theorem mem_replaceExpenseAllocations {expenseId : Id} {eas : List ExpenseAllocation}
    {ea : ExpenseAllocation}
    (h : ea ∈ (replaceExpenseAllocations expenseId eas l).expenseAllocations.values) :
    ea ∈ eas ∨ ea ∈ l.expenseAllocations.values := by
  rcases Dict.mem_values_setAll h with hea | hea
  · exact Or.inl hea
  · rw [Dict.values_filter] at hea
    exact Or.inr (List.mem_of_mem_filter hea)

theorem Positive.write {fresh : Prop} {fit : Ledger → Id → Prop} (hw : Write fresh fit l l')
    (h : Positive l) : Positive l' := by
  cases hw with
  | designation da donation _ _ hpos _ _ _ =>
      refine ⟨fun v hv => ?_, h.charged, h.attributed⟩
      rcases Dict.mem_values_set hv with rfl | hv
      · exact hpos
      · exact h.given v hv
  | classified expenseId expense eas _ _ _ heas _ =>
      have hea : Positive (replaceExpenseAllocations expenseId eas l) := by
        refine ⟨h.given, fun ea hea => ?_, h.attributed⟩
        rcases mem_replaceExpenseAllocations hea with hea | hea
        · exact (heas ea hea).2.2
        · exact h.charged ea hea
      unfold moveToApprovalPending
      split
      · exact ⟨hea.given, hea.charged, hea.attributed⟩
      · exact hea
  | attributed donationId expenseId allocationId attr _ _ _ hpos _ _ =>
      refine ⟨h.given, h.charged, fun v hv => ?_⟩
      rcases mem_attributed hv with rfl | hv
      · exact hpos
      · exact h.attributed v hv
  | _ => exact ⟨h.given, h.charged, h.attributed⟩

theorem positive_run [Digest] (organization : Organization) (calls : List Call) :
    Positive (run step (.new organization) calls) :=
  run_preserve_any (fun _ _ hw h => h.write hw) (Positive.new organization)

/-- A call that returns leaves positive amounts. -/
theorem Positive.returns [Digest] {op : Op} (h : Positive l)
    (hret : Returns (exec host op) l () l') : Positive l' := by
  have hrun : Positive (run step l [⟨host, op⟩]) := run_preserve_any (fun _ _ hw h => h.write hw) h
  exact hret.after ▸ hrun

theorem Positive.inflowAmounts (h : Positive l) {allocationId : Id} :
    ∀ a ∈ l.inflowAmounts allocationId, 0 ≤ a := by
  intro a ha
  obtain ⟨da, hda, rfl⟩ := List.mem_map.mp ha
  exact (h.given da (List.mem_of_mem_filter hda)).le

theorem Positive.outflowAmounts (h : Positive l) {allocationId : Id} :
    ∀ a ∈ l.outflowAmounts allocationId, 0 ≤ a := by
  intro a ha
  obtain ⟨ea, hea, rfl⟩ := List.mem_map.mp ha
  exact (h.charged ea (List.mem_of_mem_filter hea)).le

/-- A pool that fits the context is summed to the cent. -/
theorem Positive.donationPool (h : Positive l) {allocationId : Id} (hpool : l.PoolFits allocationId) :
    l.donationPoolForAllocation allocationId = l.pooled allocationId :=
  Decimal.total_of_lt h.inflowAmounts hpool

/-- Where the pool and the charges fit the context, no sum is rounded. -/
theorem Positive.poolRemaining (h : Positive l) {allocationId : Id} (hpool : l.PoolFits allocationId)
    (hcharges : l.ChargesFit allocationId) :
    l.poolRemaining allocationId = l.pooled allocationId - l.outflows allocationId ∧
      Fits (l.poolRemaining allocationId) := by
  have hin : 0 ≤ l.pooled allocationId := List.sum_nonneg h.inflowAmounts
  have hout : 0 ≤ l.outflows allocationId := List.sum_nonneg h.outflowAmounts
  have hdiff : Fits (l.pooled allocationId - l.outflows allocationId) := by
    rw [PoolFits] at hpool
    rw [ChargesFit] at hcharges
    exact Decimal.fits_iff.mpr ⟨by omega, by omega⟩
  have hexact : l.poolRemaining allocationId =
      l.pooled allocationId - l.outflows allocationId := by
    rw [Ledger.poolRemaining, Decimal.total_of_lt h.inflowAmounts hpool,
      Decimal.total_of_lt h.outflowAmounts hcharges, Decimal.sub]
    exact Decimal.fit_of_fits hdiff
  exact ⟨hexact, hexact ▸ hdiff⟩

/-- A designation keeps the pool of its fund within the digits of the context. -/
def DesignationFits (l : Ledger) (c : Call) : Prop :=
  match c.op with
  | .assignDonationAllocation _ allocationId amount _ =>
      match orderedMoney amount with
      | .ok amt => l.pooled allocationId + amt < 10 ^ Decimal.precision
      | .error _ => True
  | _ => True

instance (l : Ledger) (c : Call) : Decidable (DesignationFits l c) := by
  apply Op.casesOn (motive := fun op => Decidable (DesignationFits l ⟨c.host, op⟩)) c.op
  case assignDonationAllocation =>
    intro _ allocationId amount _
    apply Except.casesOn (motive := fun r => Decidable (match r with
      | .ok amt => l.pooled allocationId + amt < 10 ^ Decimal.precision
      | .error _ => True)) (orderedMoney amount)
    all_goals
      intros
      dsimp only
      infer_instance
  all_goals
    intros
    dsimp only [DesignationFits]
    infer_instance

def Posting.isDesignation : Posting → Bool
  | .designation _ => true
  | _ => false

theorem Posting.isDesignation_iff {p : Posting} :
    p.isDesignation = true ↔ ∃ da, p = .designation da := by
  cases p <;> simp [isDesignation]

theorem Posting.of_designation {op : Op} {da : DonationAllocation}
    (h : Posting.of op (.designation da)) :
    ∃ donationId amount daId,
      op = .assignDonationAllocation donationId da.allocationId amount daId ∧
        orderedMoney amount = .ok da.amount := by
  cases op <;> simp_all [Posting.of]

theorem Posting.write_donationAllocations (p : Posting) (h : p.isDesignation = false) :
    (p.write l).donationAllocations = l.donationAllocations := by
  cases p with
  | designation da => cases h
  | classified expenseId expense eas =>
      show (moveToApprovalPending _ _ _).donationAllocations = _
      unfold moveToApprovalPending
      split <;> rfl
  | _ => rfl

/-! ## Splits that fit together -/

def chargeOn (splits : List (Id × Int)) (allocationId : Id) : Int :=
  ((splits.filter (fun p => decide (p.1 = allocationId))).map Prod.snd).sum

/-- On every fund where each split fits what is left, they fit together. -/
def FitTogether (l : Ledger) (splits : List (Id × Int)) : Prop :=
  ∀ a ∈ splits.map Prod.fst, (∀ p ∈ splits, p.1 = a → p.2 ≤ l.poolRemaining a) →
    chargeOn splits a ≤ l.poolRemaining a

instance (l : Ledger) (splits : List (Id × Int)) : Decidable (FitTogether l splits) :=
  inferInstanceAs (Decidable (∀ a ∈ splits.map Prod.fst, _))

/-- The fund and amount of each allocation of an expense. -/
def splitsOf (l : Ledger) (expenseId : Id) : List (Id × Int) :=
  (l.expenseAllocationsFor expenseId).map fun ea => (ea.allocationId, ea.amount)

def SplitsFitTogether (l : Ledger) (expenseId : Id) : Prop := FitTogether l (l.splitsOf expenseId)

/-- The ledger with an expense out of the way, as its supersession leaves it. -/
def withoutExpense (l : Ledger) (expenseId : Id) : Ledger :=
  match l.expenses.get? expenseId with
  | some old => l.putExpense expenseId (correctedExpense old .superseded "")
  | none => l

/-- The splits a call would approve fit together where they are checked. -/
def SplitsFit (l : Ledger) (c : Call) : Prop :=
  match c.op with
  | .approveExpense expenseId _ => SplitsFitTogether l expenseId
  | .supersedeExpense expenseId _ splits _ _ _ =>
      match parseSplits l splits with
      | .ok parsed => FitTogether (l.withoutExpense expenseId) parsed
      | .error _ => True
  | _ => True

instance (l : Ledger) (c : Call) : Decidable (SplitsFit l c) := by
  apply Op.casesOn (motive := fun op => Decidable (SplitsFit l ⟨c.host, op⟩)) c.op
  case supersedeExpense =>
    intro expenseId _ splits _ _ _
    apply Except.casesOn (motive := fun r => Decidable (match r with
      | .ok parsed => FitTogether (l.withoutExpense expenseId) parsed
      | .error _ => True)) (parseSplits l splits)
    all_goals
      intros
      dsimp only
      infer_instance
  all_goals
    intros
    dsimp only [SplitsFit, SplitsFitTogether]
    infer_instance

theorem chargeOn_splitsOf (l : Ledger) (expenseId allocationId : Id) :
    chargeOn (l.splitsOf expenseId) allocationId = l.expenseCharge expenseId allocationId := by
  rw [chargeOn, splitsOf, expenseCharge, Dict.sum, expenseAllocationsFor, List.filter_map,
    List.map_map, List.filter_filter]
  simp only [Function.comp_def, Bool.and_comm]

theorem chargeOn_eq_zero {splits : List (Id × Int)} {allocationId : Id}
    (h : allocationId ∉ splits.map Prod.fst) : chargeOn splits allocationId = 0 := by
  have hnil : splits.filter (fun p => decide (p.1 = allocationId)) = [] := by
    refine List.filter_eq_nil_iff.mpr fun p hp heq => h ?_
    exact List.mem_map.mpr ⟨p, hp, of_decide_eq_true heq⟩
  rw [chargeOn, hnil]
  rfl

/-! ## The invariant -/

/-- Expense allocations name stored expenses, all amounts are positive, and what counts
against a fund is covered by what is designated to it. -/
structure Funded (l : Ledger) : Prop where
  refs : ∀ ea ∈ l.expenseAllocations.values, ea.expenseId ∈ l.expenses
  positive : Positive l
  covered : ∀ allocationId, l.outflows allocationId ≤ l.pooled allocationId

theorem Funded.new (organization : Organization) : Funded (.new organization) where
  refs := fun _ h => absurd h List.not_mem_nil
  positive := .new organization
  covered := fun _ => le_refl _

/-- Writing an expense that counts only if it counted before. -/
theorem Funded.putExpense {expenseId : Id} {expense : Expense} (h : Funded l)
    (hverified : expenseId ∈ l.expenses → expense.state ∈ verifiedExpenseStates →
      l.expenseIn verifiedExpenseStates expenseId = true) :
    Funded (l.putExpense expenseId expense) where
  refs := fun ea hea => Dict.mem_set.mpr (Or.inr (h.refs ea hea))
  positive := ⟨h.positive.given, h.positive.charged, h.positive.attributed⟩
  covered := fun allocationId => by
    refine le_trans (outflows_le h.positive.charged rfl fun ea hea hnew => ?_)
      (h.covered allocationId)
    rw [expenseIn_putExpense] at hnew
    split at hnew
    · next heq =>
        have href := h.refs ea hea
        rw [heq] at href ⊢
        exact hverified href (of_decide_eq_true hnew)
    · exact hnew

theorem Funded.designation {da : DonationAllocation} {l' : Ledger} (h : Funded l)
    (hnew : da.id ∉ l.donationAllocations) (hpos : 0 < da.amount)
    (hl' : l' = { l with donationAllocations := l.donationAllocations.set da.id da })
    (hpositive : Positive l') : Funded l' where
  refs := hl' ▸ h.refs
  positive := hpositive
  covered := fun allocationId => by
    subst hl'
    refine le_trans (h.covered allocationId) ?_
    rw [pooled, pooled, Dict.sum_set_of_not_mem hnew]
    split <;> omega

theorem Funded.classified {expenseId : Id} {expense : Expense} {eas : List ExpenseAllocation}
    (h : Funded l) (hexp : l.expenses.get? expenseId = some expense)
    (hv : expense.state ∉ verifiedExpenseStates)
    (heas : ∀ ea ∈ eas, ea.expenseId = expenseId ∧ ea.allocationId ∈ l.allocations ∧ 0 < ea.amount)
    (hfresh : l.expenseAllocations.FreshKeys (·.id) eas) :
    Funded (replaceExpenseAllocations expenseId eas l) := by
  refine ⟨fun ea hea => ?_, ⟨h.positive.given, fun ea hea => ?_, h.positive.attributed⟩,
    fun a => ?_⟩
  · rcases mem_replaceExpenseAllocations hea with hea | hea
    · rw [(heas ea hea).1]
      exact (Dict.mem_of_get? hexp : expenseId ∈ l.expenses)
    · exact h.refs ea hea
  · rcases mem_replaceExpenseAllocations hea with hea | hea
    · exact (heas ea hea).2.2
    · exact h.positive.charged ea hea
  · rw [← sum_outflowAmounts, outflowAmounts_replaceExpenseAllocations
      (expenseIn_false_of_get? hexp hv) (fun ea hea => (heas ea hea).1) hfresh]
    exact h.covered a

theorem Funded.exact (h : Funded l) {allocationId : Id} (hpool : l.PoolFits allocationId) :
    l.poolRemaining allocationId = l.pooled allocationId - l.outflows allocationId ∧
      Fits (l.poolRemaining allocationId) :=
  h.positive.poolRemaining hpool (lt_of_le_of_lt (h.covered allocationId) hpool)

/-- The approval is covered: each split fits, and fitting alone they fit together. -/
theorem Funded.approved {expenseId : Id} {expense updated : Expense} (h : Funded l)
    (hexp : l.expenses.get? expenseId = some expense)
    (hv : expense.state ∉ verifiedExpenseStates)
    (hbal : ∀ ea ∈ l.expenseAllocationsFor expenseId,
      l.HasBalance ea.allocationId ∧ ea.amount ≤ l.poolRemaining ea.allocationId)
    (hpools : ∀ a, l.PoolFits a) (hfit : SplitsFitTogether l expenseId)
    (hup : updated.state ∈ verifiedExpenseStates) : Funded (l.putExpense expenseId updated) where
  refs := fun ea hea => Dict.mem_set.mpr (Or.inr (h.refs ea hea))
  positive := ⟨h.positive.given, h.positive.charged, h.positive.attributed⟩
  covered := fun allocationId => by
    rw [outflows_approved allocationId (expenseIn_false_of_get? hexp hv) hup, ← chargeOn_splitsOf]
    have hold := h.covered allocationId
    show _ ≤ l.pooled allocationId
    by_cases hmem : allocationId ∈ (l.splitsOf expenseId).map Prod.fst
    · have hle := hfit allocationId hmem fun p hp heq => ?_
      · rw [(h.exact (hpools allocationId)).1] at hle
        omega
      · obtain ⟨ea, hea, rfl⟩ := List.mem_map.mp hp
        exact heq ▸ (hbal ea hea).2
    · rw [chargeOn_eq_zero hmem]
      omega

/-- What an approval has to meet: no pool is too long, and the splits fit together. -/
def ApprovalFits (l : Ledger) (expenseId : Id) : Prop :=
  (∀ a, l.PoolFits a) ∧ SplitsFitTogether l expenseId

theorem Funded.write (hw : Write True ApprovalFits l l') (h : Funded l) : Funded l' := by
  have hpositive := h.positive.write hw
  cases hw with
  | auditLog log => exact ⟨h.refs, hpositive, h.covered⟩
  | donor donor => exact ⟨h.refs, hpositive, h.covered⟩
  | donation donation _ _ _ => exact ⟨h.refs, hpositive, h.covered⟩
  | allocation allocation _ => exact ⟨h.refs, hpositive, h.covered⟩
  | evidence evidence _ => exact ⟨h.refs, hpositive, h.covered⟩
  | designation da donation hnew _ hpos _ _ _ =>
      exact h.designation (hnew trivial) hpos rfl hpositive
  | imported expense hnew _ hstate =>
      exact h.putExpense fun hmem _ => absurd hmem hnew
  | classified expenseId expense eas hexp _ hv heas hfresh =>
      have hea := h.classified hexp hv heas (hfresh trivial)
      unfold moveToApprovalPending
      split
      · refine hea.putExpense fun _ hstate => ?_
        simp [withExpenseState] at hstate
      · exact hea
  | approved expenseId expense approvedBy hexp _ hv _ _ hbal _ hfit =>
      exact h.approved hexp hv hbal hfit.1 hfit.2 (by simp [withExpenseState])
  | reconciled expenseId expense at_ hexp hs =>
      refine h.putExpense fun _ _ => ?_
      rw [expenseIn_of_get? hexp, hs]
      rfl
  | corrected expenseId expense state reason _ _ hstate =>
      refine h.putExpense fun _ hver => ?_
      rcases mem_correctedExpenseStates.mp hstate with rfl | rfl <;>
        simp [correctedExpense, withExpenseState] at hver
  | attributed donationId expenseId allocationId attr _ _ _ _ _ _ =>
      exact ⟨h.refs, hpositive, h.covered⟩
  | receipt expenseId receipt _ => exact ⟨h.refs, hpositive, h.covered⟩

/-- The condition on the splits is exact: an approval that breaks it overdraws a fund. -/
theorem approveExpense_overdraws [Digest] {expenseId : Id} {approvedBy : String} {r : Expense}
    (hl : Funded l) (hpools : ∀ a, l.PoolFits a)
    (h : Returns (approveExpense host expenseId approvedBy) l r l')
    (hfit : ¬ SplitsFitTogether l expenseId) :
    ∃ allocationId ∈ l.allocations,
      l'.pooled allocationId < l'.outflows allocationId := by
  obtain ⟨expense, hexp, _, hv, _, _, hbal, _, rfl, log, rfl⟩ := approveExpense_returns h
  simp only [SplitsFitTogether, FitTogether, not_forall, not_le] at hfit
  obtain ⟨a, ha, _, hover⟩ := hfit
  obtain ⟨p, hp, rfl⟩ := List.mem_map.mp ha
  obtain ⟨ea, hea, rfl⟩ := List.mem_map.mp hp
  refine ⟨ea.allocationId, (hbal ea hea).1.1, ?_⟩
  have hout := outflows_approved ea.allocationId
    (expenseIn_false_of_get? hexp hv)
    (show ({ withExpenseState expense .approved with approvedBy := some approvedBy } :
      Expense).state ∈ verifiedExpenseStates by simp [withExpenseState])
  rw [chargeOn_splitsOf, (hl.exact (hpools _)).1] at hover
  have hover : l.pooled ea.allocationId - l.outflows ea.allocationId <
      l.expenseCharge expenseId ea.allocationId := hover
  show l.pooled ea.allocationId < (l.putExpense expenseId _).outflows _
  rw [hout]
  omega

/-! ## The approval inside a supersession

It is made in a ledger that differs from the one before the call, but what it
looks at is already decided there: the new expense's allocations are the parsed
splits, and no fund's balance has moved but by the flip. -/

theorem expenseAllocationsFor_replace {expenseId : Id} {eas : List ExpenseAllocation}
    (heas : ∀ ea ∈ eas, ea.expenseId = expenseId)
    (hfresh : l.expenseAllocations.FreshKeys (·.id) eas) :
    (replaceExpenseAllocations expenseId eas l).expenseAllocationsFor expenseId = eas := by
  have hfresh' := hfresh.filter (fun ea => decide (ea.expenseId ≠ expenseId))
  rw [expenseAllocationsFor, replaceExpenseAllocations, Dict.values_setAll_of_fresh hfresh',
    Dict.values_filter, List.filter_append, List.filter_filter]
  have hkept : l.expenseAllocations.values.filter (fun ea =>
      decide (ea.expenseId = expenseId) && decide (ea.expenseId ≠ expenseId)) = [] := by
    refine List.filter_eq_nil_iff.mpr fun ea _ h => ?_
    simp only [Bool.and_eq_true, decide_eq_true_eq] at h
    exact h.2 h.1
  rw [hkept, List.nil_append]
  exact List.filter_eq_self.mpr fun ea hea => decide_eq_true (heas ea hea)

theorem expenseAllocationsFor_moveToApprovalPending (expenseId e : Id) (expense : Expense) :
    (moveToApprovalPending expenseId expense l).expenseAllocationsFor e =
      l.expenseAllocationsFor e := by
  unfold moveToApprovalPending
  split <;> rfl

theorem map_split_splitRecords {expenseId : Id} : ∀ {i : Nat} {parsed : List (Id × Int)},
    (splitRecords host expenseId i parsed).map (fun ea => (ea.allocationId, ea.amount)) = parsed
  | _, [] => rfl
  | i, (allocationId, amt) :: parsed => by
      rw [splitRecords, List.map_cons, map_split_splitRecords]

/-- Parsing only asks which funds are registered. -/
theorem parseSplits_congr (h : l'.allocations = l.allocations) :
    ∀ splits, parseSplits l' splits = parseSplits l splits
  | [] => rfl
  | (allocationId, raw) :: splits => by
      rw [parseSplits, parseSplits, h, parseSplits_congr h splits]

theorem withoutExpense_of_get? {expenseId : Id} {old : Expense}
    (h : l.expenses.get? expenseId = some old) :
    l.withoutExpense expenseId = l.putExpense expenseId (correctedExpense old .superseded "") := by
  rw [withoutExpense, h]

theorem pooled_withoutExpense (expenseId a : Id) :
    (l.withoutExpense expenseId).pooled a = l.pooled a := by
  unfold withoutExpense
  split <;> rfl

/-- A fund's charges do not depend on the note of a superseded expense. -/
theorem outflowAmounts_superseded {expenseId : Id} {old : Expense} (reason : String)
    (h : l.expenses.get? expenseId = some old) (allocationId : Id) :
    (l.putExpense expenseId (correctedExpense old .superseded reason)).outflowAmounts allocationId =
      (l.withoutExpense expenseId).outflowAmounts allocationId := by
  rw [withoutExpense_of_get? h]
  refine outflowAmounts_congr rfl fun e => ?_
  rw [expenseIn_putExpense, expenseIn_putExpense]
  rfl

/-- The funds are the same, and so are the amounts each of them was given and is charged. -/
structure SameFunds (l l' : Ledger) : Prop where
  allocations : l'.allocations = l.allocations
  inflowAmounts : ∀ a, l'.inflowAmounts a = l.inflowAmounts a
  outflowAmounts : ∀ a, l'.outflowAmounts a = l.outflowAmounts a

theorem SameFunds.trans {l₀ l₁ l₂ : Ledger} (h : SameFunds l₀ l₁) (h' : SameFunds l₁ l₂) :
    SameFunds l₀ l₂ where
  allocations := h'.allocations.trans h.allocations
  inflowAmounts := fun a => (h'.inflowAmounts a).trans (h.inflowAmounts a)
  outflowAmounts := fun a => (h'.outflowAmounts a).trans (h.outflowAmounts a)

theorem SameFunds.pooled (h : SameFunds l l') (a : Id) : l'.pooled a = l.pooled a := by
  rw [← sum_inflowAmounts, ← sum_inflowAmounts, h.inflowAmounts]

theorem SameFunds.outflows (h : SameFunds l l') (a : Id) : l'.outflows a = l.outflows a := by
  rw [← sum_outflowAmounts, ← sum_outflowAmounts, h.outflowAmounts]

theorem SameFunds.poolRemaining (h : SameFunds l l') (a : Id) :
    l'.poolRemaining a = l.poolRemaining a := by
  rw [Ledger.poolRemaining, Ledger.poolRemaining, h.inflowAmounts, h.outflowAmounts]

theorem SameFunds.hasBalance (h : SameFunds l l') (a : Id) :
    l'.HasBalance a ↔ l.HasBalance a := by
  rw [HasBalance, HasBalance, h.allocations, h.poolRemaining]

section Supersession

variable [Digest]

/-- The ledger a supersession approves its replacement in. -/
theorem supersedeUntilApproval_returns {expenseId : Id} {replacement : Expense}
    {splits : List (Id × Decimal.Amount)} {reason : String} {eas : List ExpenseAllocation}
    (hfresh : FreshDraws host "ea" splits.length l.expenseAllocations)
    (h : Returns (supersedeUntilApproval host expenseId replacement splits reason) l eas l') :
    ∃ parsed, parseSplits l splits = .ok parsed ∧ l'.splitsOf replacement.id = parsed ∧
      SameFunds (l.withoutExpense expenseId) l' := by
  rw [supersedeUntilApproval, returns_requireExpense_bind] at h
  obtain ⟨old, hold, h⟩ := h
  obtain ⟨r, l₂, himp, hall⟩ := returns_bind.mp (returns_modify_bind.mp h)
  obtain ⟨_, _, hnew, _, rfl, log, rfl⟩ := importExpense_returns himp
  obtain ⟨expense, parsed, hexp, _, hv, hparsed, _, rfl, log', rfl⟩ :=
    allocateExpenseSplits_returns hall
  have hfresh' := hfresh
  rw [← length_parseSplits hparsed] at hfresh'
  have hrecs := FreshDraws.splitRecords replacement.id hfresh'
  have heas : ∀ ea ∈ splitRecords host replacement.id 0 parsed, ea.expenseId = replacement.id :=
    fun ea hea => (mem_splitRecords hea).1
  have hgiven : ∀ l : Ledger, (moveToApprovalPending replacement.id expense l).donationAllocations =
      l.donationAllocations ∧
      (moveToApprovalPending replacement.id expense l).allocations = l.allocations := by
    intro l
    rw [moveToApprovalPending]
    split <;> exact ⟨rfl, rfl⟩
  refine ⟨parsed, ?_, ?_, ?_, fun a => ?_, fun a => ?_⟩
  · refine (parseSplits_congr ?_ splits).trans hparsed
    rfl
  · show List.map _ (expenseAllocationsFor (moveToApprovalPending _ _ _) _) = _
    rw [expenseAllocationsFor_moveToApprovalPending]
    show List.map _ ((replaceExpenseAllocations replacement.id _ l).expenseAllocationsFor _) = _
    rw [expenseAllocationsFor_replace heas hrecs, map_split_splitRecords]
  · rw [withoutExpense_of_get? hold]
    exact (hgiven _).2
  · show inflowAmounts (moveToApprovalPending _ _ _) a = _
    rw [inflowAmounts, (hgiven _).1, withoutExpense_of_get? hold]
    rfl
  · rw [← outflowAmounts_superseded reason hold a]
    exact (outflowAmounts_classified hexp hv heas hrecs).trans
      (outflowAmounts_putExpense (expenseIn_false_of_not_mem hnew) (by simp [replacementExpense]))

/-- The condition on the call gives the condition where the approval is made. -/
theorem SplitsFit.approvalsMeet {c : Call} (hpools : ∀ a, l.PoolFits a) (hfresh : FreshIds l c)
    (h : SplitsFit l c) : ApprovalsMeet ApprovalFits l c := by
  obtain ⟨host, op⟩ := c
  cases op with
  | approveExpense expenseId approvedBy => exact ⟨hpools, h⟩
  | supersedeExpense expenseId replacement splits actor reason approvedBy =>
      intro eas l' hret
      obtain ⟨parsed, hparsed, hsplits, hsame⟩ :=
        supersedeUntilApproval_returns hfresh.2.1 hret
      have hfit : FitTogether (l.withoutExpense expenseId) parsed := by
        simpa only [SplitsFit, hparsed] using h
      refine ⟨fun a => ?_, ?_⟩
      · rw [PoolFits, hsame.pooled, pooled_withoutExpense]
        exact hpools a
      show FitTogether l' (l'.splitsOf replacement.id)
      rw [hsplits]
      intro a ha hle
      rw [hsame.poolRemaining]
      exact hfit a ha fun p hp heq => hsame.poolRemaining a ▸ hle p hp heq
  | _ => trivial

/-- Only a designation makes a pool longer. -/
theorem step_poolFits {c : Call} (hfresh : FreshIds l c) (hfits : DesignationFits l c)
    (h : ∀ a, l.PoolFits a) : ∀ a, (step l c).PoolFits a := by
  have hkeep : ∀ l l', Post True (fun _ p => p.isDesignation = false) l l' →
      (∀ a, l.PoolFits a) → ∀ a, l'.PoolFits a := by
    rintro l _ ⟨p, log, _, hp, rfl⟩ h a
    show Dict.sum (p.write l).donationAllocations _ _ < _
    rw [p.write_donationAllocations hp]
    exact h a
  cases hc : corrects c.op with
  | false =>
      have hpost : step l c = l ∨ Post True (fun _ p => Posting.of c.op p) l (step l c) :=
        step_post hc fun _ => hfresh
      rcases hpost with heq | ⟨p, log, hguard, hof, heq⟩
      · rw [heq]
        exact h
      cases hp : p.isDesignation with
      | false => exact hkeep l _ ⟨p, log, hguard, hp, heq⟩ h
      | true =>
          obtain ⟨da, rfl⟩ := Posting.isDesignation_iff.mp hp
          obtain ⟨_, amount, _, hop, hamount⟩ := Posting.of_designation hof
          simp only [DesignationFits, hop, hamount] at hfits
          intro a
          rw [heq]
          show Dict.sum (l.donationAllocations.set da.id da) _ _ < _
          rw [Dict.sum_set_of_not_mem (hguard.1 trivial)]
          split
          · next hsame =>
              obtain rfl := of_decide_eq_true hsame
              exact hfits
          · rw [Int.add_zero]
            exact h a
  | true =>
      have hposts : Posts True (fun _ p => p.isDesignation = false) l (step l c) := by
        refine step_posts (fun _ p hof _ => ?_) ?_ fun _ => hfresh
        · cases hp : p.isDesignation with
          | false => rfl
          | true =>
              obtain ⟨da, rfl⟩ := Posting.isDesignation_iff.mp hp
              obtain ⟨_, amount, _, hop, _⟩ := Posting.of_designation hof
              rw [hop] at hc
              cases hc
        · exact (approvalsMeet_true l c).mono fun _ _ _ _ _ => rfl
      exact hposts.preserve hkeep h

theorem run_poolFits {calls : List Call} (h : ∀ a, l.PoolFits a)
    (hfresh : Along step FreshIds l calls) (hpools : Along step DesignationFits l calls) :
    ∀ a, (run step l calls).PoolFits a :=
  run_invariant (P := fun l => ∀ a, l.PoolFits a) (fun _ _ hl h => step_poolFits h.1 h.2 hl) h
    (hfresh.and hpools)

theorem approvals_along {calls : List Call} (h : ∀ a, l.PoolFits a)
    (hfresh : Along step FreshIds l calls) (hpools : Along step DesignationFits l calls)
    (hfit : Along step SplitsFit l calls) : Along step (ApprovalsMeet ApprovalFits) l calls := by
  refine ((hfresh.and hpools).and hfit).of_invariant (I := fun l => ∀ a, l.PoolFits a)
    (fun l c hl h => ?_) (fun l c hl h => ?_) h
  · exact step_poolFits h.1.1 h.1.2 hl
  · exact h.2.approvalsMeet hl h.1.1

/-- In every run with fresh record identifiers that keeps the pools within the digits of
the context, and whose approvals have splits that fit together whenever each of them fits,
no fund is overdrawn. -/
theorem funds_solvent {organization : Organization} {calls : List Call}
    (hfresh : Along step FreshIds (.new organization) calls)
    (hpools : Along step DesignationFits (.new organization) calls)
    (hfit : Along step SplitsFit (.new organization) calls) {allocationId : Id}
    (hreg : allocationId ∈ (run step (.new organization) calls).allocations) :
    ∃ remaining, Returns (allocationRemainingBalance allocationId)
        (run step (.new organization) calls) remaining (run step (.new organization) calls) ∧
      0 ≤ remaining ∧
      (run step (.new organization) calls).outflows allocationId ≤
        (run step (.new organization) calls).pooled allocationId := by
  have hmeet := approvals_along (poolFits_new organization) hfresh hpools hfit
  have h : Funded (run step (.new organization) calls) :=
    run_preserve (fun _ _ hw h => h.write hw) (Funded.new organization) hfresh hmeet
  have hfits := run_poolFits (poolFits_new organization) hfresh hpools
  have hcovered := h.covered allocationId
  obtain ⟨hexact, hdigits⟩ := h.exact (hfits allocationId)
  refine ⟨_, returns_allocationRemainingBalance.mpr ⟨⟨hreg, hdigits⟩, rfl, rfl⟩, ?_, hcovered⟩
  omega

end Supersession

section Sample

attribute [local instance] Digest.plain

/-- 60.00 in two splits of 30.00 on a fund that holds 100.00. -/
def Sample.solventRun : List Call := script (Sample.gift ++ [
  .importExpense (Sample.expense "expense" 6000),
  .allocateExpenseSplits "expense" [("fund", .finite 30 0), ("fund", .finite 30 0)],
  .approveExpense "expense" "human:finance"])

theorem solventRun_solvent :
    ∃ remaining, Returns (allocationRemainingBalance "fund")
        (run step (.new Sample.organization) Sample.solventRun) remaining
        (run step (.new Sample.organization) Sample.solventRun) ∧
      0 ≤ remaining ∧
      (run step (.new Sample.organization) Sample.solventRun).outflows "fund" ≤
        (run step (.new Sample.organization) Sample.solventRun).pooled "fund" :=
  funds_solvent (by decide) (by decide) (by decide) (by decide)

/-- 150.00 in two splits of 75.00: each fits the 100.00, and both are approved. -/
def Sample.overdrawnRun : List Call := script (Sample.gift ++ [
  .importExpense (Sample.expense "expense" 15000),
  .allocateExpenseSplits "expense" [("fund", .finite 75 0), ("fund", .finite 75 0)],
  .approveExpense "expense" "human:finance"])

theorem overdrawn : ¬ ∀ (organization : Organization) (calls : List Call),
    Along step FreshIds (.new organization) calls →
      ∀ allocationId ∈ (run step (.new organization) calls).allocations.keys, ∀ remaining l',
        Returns (allocationRemainingBalance allocationId) (run step (.new organization) calls)
          remaining l' → 0 ≤ remaining := by
  intro h
  have hneg := h Sample.organization Sample.overdrawnRun (by decide) "fund" (by decide) (-5000) _
    (returns_allocationRemainingBalance.mpr ⟨by decide, by decide, rfl⟩)
  exact absurd hneg (by decide)

/-- The fund has 99999999999999999999999999.99, which is spent, then 50000000000000000000000000.07,
of which an expense takes 50000000000000000000000000.11 in one split. -/
def Sample.roundedRun : List Call := script (Sample.gift ++
  Sample.given "large" 9999999999999999999999989999 ++
  Sample.spent "expense" 9999999999999999999999999999 ++
  Sample.given "second" 5000000000000000000000000007 ++
  Sample.spent "over" 5000000000000000000000000011)

set_option maxRecDepth 2000 in
/-- The sum of the gifts is rounded up, and the fund is overdrawn. -/
example : (run step (.new Sample.organization) Sample.roundedRun).pooled "fund" <
    (run step (.new Sample.organization) Sample.roundedRun).outflows "fund" := by
  decide

/-- Two gifts of 60000000000000000000000000.00: the balance has one digit too many. -/
example : ¬ (run step (.new Sample.organization) (script (Sample.gift ++
    Sample.given "large" 6000000000000000000000000000 ++
    Sample.given "second" 6000000000000000000000000000))).HasBalance "fund" := by
  decide

end Sample

end Ledger

end ImpactRelay
