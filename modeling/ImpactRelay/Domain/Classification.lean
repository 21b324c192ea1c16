/-
# `Domain.Classification` — a verified expense keeps its charges

The charges of all expenses are in one map, and a classification rebuilds it.  It is
refused on an expense that is verified or corrected, and leaves the records of the
other expenses as they are as long as the identifiers it brings are new.  What was
approved was checked to sum to the amount, so it does from then on.
-/
import ImpactRelay.Domain.Charges
import ImpactRelay.Domain.LifeCycle

namespace ImpactRelay

open Raise

/-- Approved at some time: the states an expense never goes back from. -/
def settledExpenseStates : List ExpenseState := verifiedExpenseStates ++ correctedExpenseStates

theorem mem_settledExpenseStates {s : ExpenseState} : s ∈ settledExpenseStates ↔
    s ∈ verifiedExpenseStates ∨ s ∈ correctedExpenseStates := List.mem_append

namespace Ledger

variable {l l' : Ledger} {e : Id} {x : Expense} {fit : Ledger → Id → Prop}

/-- The expense is settled, has this amount and these charges. -/
def SettledAt (e : Id) (amount : Int) (eas : List ExpenseAllocation) (l : Ledger) : Prop :=
  l.expenseAllocationsFor e = eas ∧
    ∃ x, l.expenses.get? e = some x ∧ x.amount = amount ∧ x.state ∈ settledExpenseStates

theorem expenseAllocationsFor_classified {expenseId : Id} {expense : Expense}
    {eas : List ExpenseAllocation} (heas : ∀ ea ∈ eas, ea.expenseId = expenseId)
    (hfresh : l.expenseAllocations.FreshKeys (·.id) eas) (hne : e ≠ expenseId) :
    (moveToApprovalPending expenseId expense
      (replaceExpenseAllocations expenseId eas l)).expenseAllocationsFor e =
        l.expenseAllocationsFor e := by
  rw [expenseAllocationsFor_moveToApprovalPending]
  exact expenseAllocationsFor_replace_ne heas hfresh hne

theorem get?_classified_ne {expenseId : Id} {expense : Expense} {eas : List ExpenseAllocation}
    (hne : e ≠ expenseId) : (moveToApprovalPending expenseId expense
      (replaceExpenseAllocations expenseId eas l)).expenses.get? e = l.expenses.get? e := by
  rw [moveToApprovalPending]
  split
  · exact Dict.get?_set_ne hne
  · rfl

/-- The state a write puts a settled expense into is settled. -/
theorem SettledAt.put {amount : Int} {eas : List ExpenseAllocation} {expenseId : Id}
    {expense updated : Expense} (h : SettledAt e amount eas l)
    (hexp : l.expenses.get? expenseId = some expense) (hamount : updated.amount = expense.amount)
    (hstate : updated.state ∈ settledExpenseStates) :
    SettledAt e amount eas (l.putExpense expenseId updated) := by
  obtain ⟨heas, x, hx, hsum, hsettled⟩ := h
  refine ⟨heas, ?_⟩
  by_cases hid : e = expenseId
  · subst hid
    rw [hexp] at hx
    obtain rfl := Option.some.inj hx
    exact ⟨updated, Dict.get?_set_self _ _ _, hamount.trans hsum, hstate⟩
  · exact ⟨x, (Dict.get?_set_ne hid).trans hx, hsum, hsettled⟩

theorem SettledAt.write {amount : Int} {eas : List ExpenseAllocation}
    (hw : Write True fit l l') (h : SettledAt e amount eas l) : SettledAt e amount eas l' := by
  cases hw with
  | imported expense hnew hpos hstate =>
      obtain ⟨heas, x, hx, hrest⟩ := h
      refine ⟨heas, x, (Dict.get?_set_ne ?_).trans hx, hrest⟩
      rintro rfl
      exact hnew (Dict.mem_of_get? hx)
  | classified expenseId expense eas' hexp hc hv heas' hnew =>
      obtain ⟨heas, x, hx, hamount, hsettled⟩ := h
      have hne : e ≠ expenseId := by
        rintro rfl
        rw [hexp] at hx
        obtain rfl := Option.some.inj hx
        exact (mem_settledExpenseStates.mp hsettled).elim hv hc
      have hours : ∀ ea ∈ eas', ea.expenseId = expenseId := fun ea hea => (heas' ea hea).1
      exact ⟨(expenseAllocationsFor_classified hours (hnew trivial) hne).trans heas, x,
        (get?_classified_ne hne).trans hx, hamount, hsettled⟩
  | approved expenseId expense approvedBy hexp hc hv hs htotal hbal hby hfit =>
      exact h.put hexp rfl (show ExpenseState.approved ∈ settledExpenseStates by decide)
  | reconciled expenseId expense at_ hexp hs =>
      exact h.put hexp rfl (show ExpenseState.reconciled ∈ settledExpenseStates by decide)
  | corrected expenseId expense state reason hexp hv hs =>
      exact h.put hexp rfl (mem_settledExpenseStates.mpr (Or.inr hs))
  | _ => exact h

/-- The charges of a settled expense sum to its amount. -/
def Exact (l : Ledger) : Prop :=
  ∀ e x, l.expenses.get? e = some x → x.state ∈ settledExpenseStates →
    chargeTotal (l.expenseAllocationsFor e) = x.amount

/-- Writing one expense, of which the sum holds if it is settled. -/
theorem Exact.put (h : Exact l) {expenseId : Id} {updated : Expense}
    (hexact : updated.state ∈ settledExpenseStates →
      chargeTotal (l.expenseAllocationsFor expenseId) = updated.amount) :
    Exact (l.putExpense expenseId updated) := by
  intro e x hx hsettled
  have hx' : (l.expenses.set expenseId updated).get? e = some x := hx
  rw [Dict.get?_set] at hx'
  split at hx'
  · rename_i heq
    obtain rfl := Option.some.inj hx'
    exact heq ▸ hexact hsettled
  · exact h e x hx' hsettled

theorem Exact.write (hw : Write True fit l l') (h : Exact l) : Exact l' := by
  cases hw with
  | imported expense hnew hpos hstate =>
      refine h.put fun hsettled => ?_
      rcases hstate with hs | hs <;> rw [hs] at hsettled <;> exact absurd hsettled (by decide)
  | classified expenseId expense eas hexp hc hv heas hnew =>
      intro e x hx hsettled
      by_cases hid : e = expenseId
      · subst hid
        have hpending : ExpenseState.approvalPending ∉ settledExpenseStates := by decide
        rw [moveToApprovalPending] at hx
        split at hx
        · have hx' : (l.expenses.set e (withExpenseState expense .approvalPending)).get? e =
            some x := hx
          rw [Dict.get?_set_self] at hx'
          obtain rfl := Option.some.inj hx'
          exact absurd hsettled hpending
        · have hx' : l.expenses.get? e = some x := hx
          rw [hexp] at hx'
          obtain rfl := Option.some.inj hx'
          exact ((mem_settledExpenseStates.mp hsettled).elim hv hc).elim
      · rw [get?_classified_ne hid] at hx
        rw [expenseAllocationsFor_classified (fun ea hea => (heas ea hea).1) (hnew trivial) hid]
        exact h e x hx hsettled
  | approved expenseId expense approvedBy hexp hc hv hs htotal hbal hby hfit =>
      exact h.put fun _ => htotal
  | reconciled expenseId expense at_ hexp hs =>
      refine h.put fun _ => h expenseId expense hexp ?_
      rw [hs]
      decide
  | corrected expenseId expense state reason hexp hv hs =>
      exact h.put fun _ => h expenseId expense hexp (mem_settledExpenseStates.mpr (Or.inl hv))
  | _ => exact h

variable [Digest]

/-- Once an expense is approved, its charges are what they are at the end of the run, and
sum to its amount. -/
theorem classification_frozen {organization : Organization} {calls : List Call}
    (hfresh : Along step FreshIds (.new organization) calls) :
    ∀ before later, calls = before ++ later → ∀ e x,
      (run step (.new organization) before).expenses.get? e = some x →
      x.state ∈ settledExpenseStates →
        (run step (.new organization) calls).expenseAllocationsFor e =
          (run step (.new organization) before).expenseAllocationsFor e ∧
        chargeTotal ((run step (.new organization) calls).expenseAllocationsFor e) = x.amount := by
  rintro before later rfl e x hx hsettled
  obtain ⟨hbefore, hlater⟩ := along_append.mp hfresh
  have hany : ∀ {l : Ledger} {calls : List Call},
      Along step (ApprovalsMeet fun _ _ => True) l calls := along_of_forall approvalsMeet_true
  have hexact : Exact (run step (.new organization) before) :=
    run_preserve (fun _ _ hw hl => hl.write hw) (fun _ _ h => nomatch h) hbefore hany
  have hend : SettledAt e x.amount ((run step (.new organization) before).expenseAllocationsFor e)
      (run step (run step (.new organization) before) later) :=
    run_preserve (fun _ _ hw hl => hl.write hw) ⟨rfl, x, hx, rfl, hsettled⟩ hlater hany
  rw [run_append]
  refine ⟨hend.1, ?_⟩
  rw [hend.1]
  exact hexact e x hx hsettled

end Ledger

section Sample

attribute [local instance] Digest.plain

namespace Ledger

/-- An approved expense, and another one classified after it. -/
def Sample.twoExpensesRun : List Call := script (Sample.gift ++ [
  .importExpense (Sample.expense "expense" 5000),
  .allocateExpense "expense" "fund" (.finite 50 0) none,
  .approveExpense "expense" "human:finance",
  .importExpense (Sample.expense "other" 2000),
  .allocateExpense "other" "fund" (.finite 20 0) none])

theorem twoExpensesRun_frozen :
    (run step (.new Sample.organization) (Sample.twoExpensesRun.take 7)).expenseIn
        settledExpenseStates "expense" = true ∧
    ∀ before later, Sample.twoExpensesRun = before ++ later → ∀ e x,
      (run step (.new Sample.organization) before).expenses.get? e = some x →
      x.state ∈ settledExpenseStates →
        (run step (.new Sample.organization) Sample.twoExpensesRun).expenseAllocationsFor e =
          (run step (.new Sample.organization) before).expenseAllocationsFor e ∧
        chargeTotal ((run step (.new Sample.organization)
          Sample.twoExpensesRun).expenseAllocationsFor e) = x.amount :=
  ⟨by decide, classification_frozen (by decide)⟩

end Ledger

end Sample

end ImpactRelay
