/-
# `Domain.Charges` — what a call does to charges and attributions

Two stores say what of an expense is whose: its splits (`splitsOf`), which a
classification replaces as a whole, and the attributions, one for each
(donation, expense, fund).  A call changes each in one way only:

  * `classificationOf` is the expense and the splits an accepted classification
    records, and every other expense the ledger has keeps its splits
    (`splitsOf_step`);
  * `attributionOf` is the share an accepted attribution records in place of
    the one on its triple, and every other call keeps the attributions
    (`attributions_step`).

A supersession also classifies, but the expense it classifies is new.
-/
import ImpactRelay.Domain.Acceptance

namespace ImpactRelay

open Raise

namespace Ledger

variable {l l' : Ledger} {host : Host}

/-! ## What a call records -/

/-- What a donation is credited with of an expense on a fund. -/
structure Share where
  donationId : Id
  expenseId : Id
  allocationId : Id
  amount : Int
deriving DecidableEq

/-- The share an accepted attribution records. -/
def attributionOf (l : Ledger) : Op → Option Share
  | .attributeDonorToExpense donorId donationId expenseId allocationId method amount _ =>
      match l.attributionAmount allocationId method amount (l.designated donationId allocationId)
          (l.expenseCharge expenseId allocationId) with
      | .ok amt =>
          if AttributionAccepted l donorId donationId expenseId allocationId method amount then
            some { donationId, expenseId, allocationId, amount := amt }
          else none
      | .error _ => none
  | _ => none

/-- The expense can be classified, and the splits sum to its amount. -/
def SplitsAccepted (l : Ledger) (expenseId : Id) (parsed : List (Id × Int)) : Prop :=
  OnSome (l.expenses.get? expenseId) fun expense =>
    expense.state ∉ correctedExpenseStates ∧ expense.state ∉ verifiedExpenseStates ∧
      splitTotal parsed = expense.amount

instance (l : Ledger) (expenseId : Id) (parsed : List (Id × Int)) :
    Decidable (SplitsAccepted l expenseId parsed) :=
  inferInstanceAs (Decidable (OnSome _ _))

/-- The expense and the splits an accepted classification records. -/
def classificationOf (l : Ledger) : Op → Option (Id × List (Id × Int))
  | .allocateExpense expenseId allocationId amount _ =>
      match orderedMoney amount with
      | .ok amt =>
          if AllocationAccepted l expenseId allocationId amount then
            some (expenseId, [(allocationId, amt)])
          else none
      | .error _ => none
  | .allocateExpenseSplits expenseId splits =>
      match parseSplits l splits with
      | .ok parsed => if SplitsAccepted l expenseId parsed then some (expenseId, parsed) else none
      | .error _ => none
  | _ => none

/-! ## The stores a posting leaves alone -/

namespace Posting

def isAttribution : Posting → Bool
  | attributed _ _ _ _ => true
  | _ => false

/-- The expense whose splits the posting replaces. -/
def classifies : Posting → Option Id
  | classified expenseId _ _ => some expenseId
  | _ => none

end Posting

theorem attributions_write {p : Posting} (h : p.isAttribution = false) :
    (p.write l).attributions = l.attributions := by
  cases p with
  | attributed donationId expenseId allocationId attr => exact nomatch h
  | classified expenseId expense eas =>
      rw [Posting.write, moveToApprovalPending]
      split <;> rfl
  | _ => rfl

theorem splitsOf_congr (h : l'.expenseAllocations = l.expenseAllocations) (expenseId : Id) :
    l'.splitsOf expenseId = l.splitsOf expenseId := by
  rw [splitsOf, splitsOf, expenseAllocationsFor, expenseAllocationsFor, h]

theorem splitsOf_moveToApprovalPending (expenseId e : Id) (expense : Expense) :
    (moveToApprovalPending expenseId expense l).splitsOf e = l.splitsOf e := by
  rw [splitsOf, splitsOf, expenseAllocationsFor_moveToApprovalPending]

/-- The charges of the other expenses stay where they are. -/
theorem expenseAllocationsFor_replace_ne {expenseId e : Id} {eas : List ExpenseAllocation}
    (heas : ∀ ea ∈ eas, ea.expenseId = expenseId)
    (hfresh : l.expenseAllocations.FreshKeys (·.id) eas) (hne : e ≠ expenseId) :
    (replaceExpenseAllocations expenseId eas l).expenseAllocationsFor e =
      l.expenseAllocationsFor e := by
  have hfresh' := hfresh.filter (fun ea => decide (ea.expenseId ≠ expenseId))
  have hnone : eas.filter (fun ea => decide (ea.expenseId = e)) = [] := by
    refine List.filter_eq_nil_iff.mpr fun ea hea heq => hne ?_
    exact (of_decide_eq_true heq).symm.trans (heas ea hea)
  rw [expenseAllocationsFor, replaceExpenseAllocations, Dict.values_setAll_of_fresh hfresh',
    Dict.values_filter, List.filter_append, hnone, List.append_nil, List.filter_filter,
    expenseAllocationsFor]
  refine List.filter_congr fun ea _ => ?_
  by_cases heq : ea.expenseId = e
  · simp [heq, hne]
  · simp [heq]

theorem splitsOf_replace_ne {expenseId e : Id} {eas : List ExpenseAllocation}
    (heas : ∀ ea ∈ eas, ea.expenseId = expenseId)
    (hfresh : l.expenseAllocations.FreshKeys (·.id) eas) (hne : e ≠ expenseId) :
    (replaceExpenseAllocations expenseId eas l).splitsOf e = l.splitsOf e := by
  rw [splitsOf, splitsOf, expenseAllocationsFor_replace_ne heas hfresh hne]

theorem splitsOf_write {p : Posting} {e : Id} (hguard : p.guard True l)
    (h : p.classifies ≠ some e) : (p.write l).splitsOf e = l.splitsOf e := by
  cases p with
  | classified expenseId expense eas =>
      obtain ⟨_, _, _, heas, hnew⟩ := hguard
      rw [Posting.write, splitsOf_moveToApprovalPending]
      exact splitsOf_replace_ne (fun ea hea => (heas ea hea).1) (hnew trivial) fun heq =>
        h (congrArg some heq.symm)
  | _ => rfl

/-- What an accepted classification leaves on an expense. -/
theorem splitsOf_classified {expenseId e : Id} {expense : Expense} {eas : List ExpenseAllocation}
    {log : List AuditReceipt} {splits : List (Id × Int)}
    (heas : ∀ ea ∈ eas, ea.expenseId = expenseId)
    (hsplits : eas.map (fun ea => (ea.allocationId, ea.amount)) = splits)
    (hnew : l.expenseAllocations.FreshKeys (·.id) eas) :
    ({ moveToApprovalPending expenseId expense (replaceExpenseAllocations expenseId eas l) with
      auditLog := log } : Ledger).splitsOf e = if e = expenseId then splits else l.splitsOf e := by
  show (moveToApprovalPending expenseId expense (replaceExpenseAllocations expenseId eas l)).splitsOf
    e = _
  rw [splitsOf_moveToApprovalPending]
  split
  · next heq => rw [heq, splitsOf, expenseAllocationsFor_replace heas hnew, hsplits]
  · next hne => exact splitsOf_replace_ne heas hnew hne

/-! ## The stores after a call -/

section Calls

variable [Digest] {c : Call}

theorem attributeDonorToExpense_amount {donorId donationId expenseId allocationId : Id}
    {method : AttributionMethod} {amount : Option Decimal.Amount} {attrId : Option Id}
    {attr : DonorExpenseAttribution}
    (h : Returns (attributeDonorToExpense host donorId donationId expenseId allocationId method
      amount attrId) l attr l') :
    l.attributionAmount allocationId method amount (l.designated donationId allocationId)
      (l.expenseCharge expenseId allocationId) = .ok attr.attributedAmount := by
  simp only [attributeDonorToExpense, returns_raiseIf_bind, returns_get_bind,
    returns_requireDonation_bind, returns_requireExpense_bind, returns_okOrRaise_bind,
    returns_modify_bind, returns_audit_bind, returns_pure] at h
  obtain ⟨_, _, _, _, _, _, _, _, _, _, amt, hamt, _, _, _, _, rfl, rfl⟩ := h
  exact hamt

/-- A call that is no attribution posts none. -/
theorem attributions_of_posts
    (hop : ∀ p, Posting.of c.op p → p.isAttribution = false) :
    (step l c).attributions = l.attributions := by
  have hposts : Posts False (fun _ p => p.isAttribution = false) l (step l c) := by
    refine step_posts (fun _ p hof _ => hop p hof) ?_ False.elim
    exact (approvalsMeet_true l c).mono fun _ _ _ _ _ => rfl
  refine hposts.preserve (P := fun m => m.attributions = l.attributions) ?_ rfl
  rintro m m' ⟨p, log, _, hp, rfl⟩ hm
  exact (attributions_write hp).trans hm

/-- The attributions after a call. -/
theorem attributions_step (hfresh : FreshIds l c) :
    (attributionOf l c.op = none ∧ (step l c).attributions = l.attributions) ∨
      ∃ share attr, attributionOf l c.op = some share ∧ attr.id ∉ l.attributions ∧
        attr.onTriple share.donationId share.expenseId share.allocationId = true ∧
        attr.attributedAmount = share.amount ∧ share.expenseId ∈ l.expenses ∧
        0 < share.amount ∧ share.amount ≤ l.expenseCharge share.expenseId share.allocationId ∧
        (step l c).attributions = (l.attributions.filter (fun v =>
          !v.onTriple share.donationId share.expenseId share.allocationId)).set attr.id attr := by
  obtain ⟨callHost, op⟩ := c
  cases op with
  | attributeDonorToExpense donorId donationId expenseId allocationId method amount attrId =>
      rcases returns_or_raises (attributeDonorToExpense callHost donorId donationId expenseId
        allocationId method amount attrId) l with ⟨attr, l', h⟩ | ⟨e, l', h⟩
      · have hamt := attributeDonorToExpense_amount h
        have hacc := attributeDonorToExpense_accepts_iff.mp ⟨attr, l', h⟩
        have hafter := h.after
        obtain ⟨hid, htriple, _, _, _, hexp, hpos, hle, _, log, rfl⟩ :=
          attributeDonorToExpense_returns h
        refine Or.inr ⟨⟨donationId, expenseId, allocationId, attr.attributedAmount⟩, attr, ?_,
          hid ▸ hfresh, htriple, rfl, hexp, hpos, hle, ?_⟩
        · simp only [attributionOf, hamt, if_pos hacc]
        · rw [step, exec, after_map, hafter]
      · refine Or.inl ⟨?_, ?_⟩
        · have hacc : ¬ AttributionAccepted l donorId donationId expenseId allocationId method
              amount := fun hacc => by
            obtain ⟨attr, l'', hret⟩ := attributeDonorToExpense_accepts_iff.mpr hacc
            exact hret.not_raises h
          simp only [attributionOf, if_neg hacc]
          split <;> rfl
        · rw [step, exec, after_map, h.after,
            attributeDonorToExpense_atomic _ _ _ _ _ _ _ _ _ _ h]
  | _ =>
      refine Or.inl ⟨rfl, attributions_of_posts fun p hof => ?_⟩
      cases p with
      | attributed _ _ _ _ => simp [Posting.of] at hof
      | _ => rfl

/-- A call that is no classification of `e` posts none. -/
theorem splitsOf_of_posts {e : Id} (hfresh : FreshIds l c)
    (hop : ∀ p, Posting.of c.op p → p.classifies ≠ some e) :
    (step l c).splitsOf e = l.splitsOf e := by
  have hposts : Posts True (fun _ p => p.classifies ≠ some e) l (step l c) := by
    refine step_posts (fun _ p hof _ => hop p hof) ?_ fun _ => hfresh
    exact (approvalsMeet_true l c).mono fun _ _ _ _ _ => nofun
  refine hposts.preserve (P := fun m => m.splitsOf e = l.splitsOf e) ?_ rfl
  rintro m m' ⟨p, log, hguard, hp, rfl⟩ hm
  exact (splitsOf_congr (l := p.write m) rfl e).trans ((splitsOf_write hguard hp).trans hm)

/-- The splits, after a call, of an expense the ledger had. -/
theorem splitsOf_step {e : Id} (hfresh : FreshIds l c) (he : e ∈ l.expenses) :
    (step l c).splitsOf e =
      match classificationOf l c.op with
      | some (expenseId, splits) => if e = expenseId then splits else l.splitsOf e
      | none => l.splitsOf e := by
  obtain ⟨callHost, op⟩ := c
  cases op with
  | allocateExpense expenseId allocationId amount eaId =>
      rcases returns_or_raises (allocateExpense callHost expenseId allocationId amount eaId) l with
        ⟨ea, l', h⟩ | ⟨x, l', h⟩
      · have hacc := allocateExpense_accepts_iff.mp ⟨ea, l', h⟩
        obtain ⟨hid, hexp, hall, _, _, hamt, expense, _, _, _, log, hl'⟩ :=
          allocateExpense_returns h
        have hnew : l.expenseAllocations.FreshKeys (·.id) [ea] := by
          refine ⟨fun ea' hea' => ?_, List.nodup_singleton _⟩
          rw [List.mem_singleton.mp hea']
          show ea.id ∉ l.expenseAllocations
          exact hid ▸ hfresh
        rw [step, exec, after_map, h.after, hl', classificationOf, hamt]
        simp only [if_pos hacc]
        refine splitsOf_classified (fun ea' hea' => ?_) ?_ hnew
        · rw [List.mem_singleton.mp hea']
          exact hexp
        · rw [List.map_singleton, hall]
      · have hacc : ¬ AllocationAccepted l expenseId allocationId amount := fun hacc => by
          obtain ⟨ea, l'', hret⟩ := allocateExpense_accepts_iff.mpr hacc
          exact hret.not_raises h
        have hnone : classificationOf l (.allocateExpense expenseId allocationId amount eaId) =
            none := by
          simp only [classificationOf, if_neg hacc]
          split <;> rfl
        rw [hnone, step, exec, after_map, h.after, allocateExpense_atomic _ _ _ _ _ _ _ h]
  | allocateExpenseSplits expenseId splits =>
      rcases returns_or_raises (allocateExpenseSplits callHost expenseId splits) l with
        ⟨eas, l', h⟩ | ⟨x, l', h⟩
      · obtain ⟨expense, parsed, hexp, hc, hv, hparsed, htotal, rfl, log, hl'⟩ :=
          allocateExpenseSplits_returns h
        have hacc : SplitsAccepted l expenseId parsed :=
          onSome_iff.mpr ⟨expense, hexp, hc, hv, htotal⟩
        have hdraws : FreshDraws callHost "ea" parsed.length l.expenseAllocations := by
          rw [length_parseSplits hparsed]
          exact hfresh
        rw [step, exec, after_map, h.after, hl', classificationOf, hparsed]
        simp only [if_pos hacc]
        exact splitsOf_classified (fun ea hea => (splitRecords_classify hparsed ea hea).1)
          map_split_splitRecords (hdraws.splitRecords expenseId)
      · have hnone : classificationOf l (.allocateExpenseSplits expenseId splits) = none := by
          rw [classificationOf]
          split
          · next parsed hparsed =>
              refine if_neg fun hacc => ?_
              obtain ⟨expense, hexp, hc, hv, htotal⟩ := onSome_iff.mp hacc
              obtain ⟨eas, l'', hret⟩ : Accepts (allocateExpenseSplits callHost expenseId splits) l :=
                allocateExpenseSplits_accepts hexp hc hv hparsed htotal
              exact hret.not_raises h
          · rfl
        rw [hnone, step, exec, after_map, h.after, allocateExpenseSplits_atomic _ _ _ _ _ h]
  | supersedeExpense expenseId replacement splits actor reason approvedBy =>
      refine splitsOf_of_posts hfresh fun p hof hp => ?_
      -- the expense it classifies is new
      have hne : e ≠ replacement.id := fun heq => hfresh.1 (heq ▸ he)
      rcases hof with ⟨_, rfl⟩ | rfl | ⟨_, _, rfl⟩ | ⟨_, rfl⟩ | rfl | ⟨_, _, _, rfl⟩
      · cases hp
      · cases hp
      · exact hne (Option.some.inj hp).symm
      · cases hp
      · cases hp
      · cases hp
  | _ =>
      refine splitsOf_of_posts hfresh fun p hof hp => ?_
      cases p with
      | classified _ _ _ => simp [Posting.of] at hof
      | _ => cases hp

end Calls

end Ledger

end ImpactRelay
