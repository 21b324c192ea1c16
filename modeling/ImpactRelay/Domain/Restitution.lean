/-
# `Domain.Restitution` — what a correction gives back

Both balances of the ledger are folds over shared stores, filtered by the state
of the expense each entry names: charges for a fund, attributions for a donation
on a fund.  Written as one fold (`counted`), putting an expense in its place
moves the fold by what names that expense and by nothing else
(`counted_putExpense`).

A reversal therefore gives back exactly what the expense consumed.  A
supersession gives the same back and takes the splits of the replacement from
the funds; no donation is touched by the replacement, since nothing can be
attributed to an expense before it is imported.
-/
import ImpactRelay.Domain.Balance
import ImpactRelay.Domain.Classification
import ImpactRelay.Domain.Corrections
import ImpactRelay.Domain.Shares

namespace ImpactRelay

open Raise Relation

namespace Ledger

variable {l l' : Ledger} {host : Host}

/-! ## One fold for both balances -/

section Counted

variable {ν : Type} (d : Dict Id ν) (p : ν → Bool) (owner : ν → Id) (f : ν → Int)

/-- What the entries of `d` under `p` add up to whose expense is verified. -/
def counted (l : Ledger) : Int :=
  d.sum (fun v => p v && l.expenseIn verifiedExpenseStates (owner v)) f

/-- What the entries of `d` under `p` add up to that name the expense. -/
def named (expenseId : Id) : Int := d.sum (fun v => p v && owner v = expenseId) f

/-- The fold without the entries of an expense, and these if they count. -/
theorem counted_eq (l : Ledger) (expenseId : Id) :
    counted d p owner f l =
      d.sum (fun v => p v && (owner v ≠ expenseId &&
        l.expenseIn verifiedExpenseStates (owner v))) f +
      if l.expenseIn verifiedExpenseStates expenseId then named d p owner f expenseId else 0 := by
  by_cases hv : l.expenseIn verifiedExpenseStates expenseId = true
  · rw [if_pos hv, named, counted, ← Dict.sum_or]
    · refine Dict.sum_congr fun v _ => ?_
      by_cases heq : owner v = expenseId
      · simp [heq, hv]
      · simp [heq]
    · rintro v _ ⟨h₁, h₂⟩
      simp only [Bool.and_eq_true, decide_eq_true_eq] at h₁ h₂
      exact h₁.2.1 h₂.2
  · rw [if_neg hv, add_zero, counted]
    refine Dict.sum_congr fun v _ => ?_
    by_cases heq : owner v = expenseId
    · simp [heq, hv]
    · simp [heq]

/-- Only the entries that name it notice an expense that is put. -/
theorem counted_putExpense (l : Ledger) (expenseId : Id) (expense : Expense) :
    counted d p owner f (l.putExpense expenseId expense) +
        (if l.expenseIn verifiedExpenseStates expenseId then named d p owner f expenseId else 0) =
      counted d p owner f l +
        (if expense.state ∈ verifiedExpenseStates then named d p owner f expenseId else 0) := by
  rw [counted_eq d p owner f _ expenseId, counted_eq d p owner f l expenseId,
    expenseIn_putExpense, if_pos rfl]
  have hbesides : d.sum (fun v => p v && (owner v ≠ expenseId &&
      (l.putExpense expenseId expense).expenseIn verifiedExpenseStates (owner v))) f =
      d.sum (fun v => p v && (owner v ≠ expenseId &&
        l.expenseIn verifiedExpenseStates (owner v))) f := by
    refine Dict.sum_congr fun v _ => ?_
    by_cases heq : owner v = expenseId
    · simp [heq]
    · simp [heq, expenseIn_putExpense]
  rw [hbesides]
  simp only [decide_eq_true_eq]
  omega

/-- Correcting a verified expense takes what names it out of the fold. -/
theorem counted_corrected {l : Ledger} {expenseId : Id} {expense : Expense}
    {state : ExpenseState} (reason : String) (hexp : l.expenses.get? expenseId = some expense)
    (hv : expense.state ∈ verifiedExpenseStates) (hc : state ∈ correctedExpenseStates) :
    counted d p owner f (l.putExpense expenseId (correctedExpense expense state reason)) +
      named d p owner f expenseId = counted d p owner f l := by
  have hput := counted_putExpense d p owner f l expenseId (correctedExpense expense state reason)
  have hnot : (correctedExpense expense state reason).state ∉ verifiedExpenseStates := by
    intro hverified
    rcases mem_correctedExpenseStates.mp hc with rfl | rfl <;>
      simp [correctedExpense, withExpenseState] at hverified
  rwa [expenseIn_of_get? hexp, decide_eq_true hv, if_pos rfl, if_neg hnot, add_zero] at hput

end Counted

/-! ## The two balances -/

/-- What a donation has attributed to an expense on a fund. -/
def attributedShare (l : Ledger) (donationId expenseId allocationId : Id) : Int :=
  l.attributions.sum (·.onTriple donationId expenseId allocationId) (·.attributedAmount)

theorem expenseCharge_eq_named (l : Ledger) (expenseId allocationId : Id) :
    l.expenseCharge expenseId allocationId =
      named l.expenseAllocations (fun ea => ea.allocationId = allocationId) (·.expenseId)
        (·.amount) expenseId :=
  Dict.sum_congr fun _ _ => Bool.and_comm _ _

/-- What verified attributions consume of a donation on a fund. -/
def consumed (l : Ledger) (donationId allocationId : Id) : Int :=
  counted l.attributions
    (fun attr => attr.donationId = donationId && attr.allocationId = allocationId) (·.expenseId)
    (·.attributedAmount) l

theorem donorRemaining_eq (l : Ledger) (donationId allocationId : Id) :
    l.donorRemainingOnAllocation donationId allocationId =
      l.designated donationId allocationId - l.consumed donationId allocationId := rfl

theorem attributedShare_eq_named (l : Ledger) (donationId expenseId allocationId : Id) :
    l.attributedShare donationId expenseId allocationId =
      named l.attributions
        (fun attr => attr.donationId = donationId && attr.allocationId = allocationId)
        (·.expenseId) (·.attributedAmount) expenseId := by
  refine Dict.sum_congr fun attr _ => ?_
  show (decide _ && decide _ && decide _) = (decide _ && decide _ && decide _)
  rw [Bool.and_right_comm]

section Flip

variable {expenseId : Id} {expense : Expense} {state : ExpenseState} (reason : String)

theorem outflows_corrected (hexp : l.expenses.get? expenseId = some expense)
    (hv : expense.state ∈ verifiedExpenseStates) (hc : state ∈ correctedExpenseStates)
    (allocationId : Id) :
    (l.putExpense expenseId (correctedExpense expense state reason)).outflows allocationId +
      l.expenseCharge expenseId allocationId = l.outflows allocationId := by
  rw [expenseCharge_eq_named]
  exact counted_corrected _ _ _ _ reason hexp hv hc

theorem consumed_corrected (hexp : l.expenses.get? expenseId = some expense)
    (hv : expense.state ∈ verifiedExpenseStates) (hc : state ∈ correctedExpenseStates)
    (donationId allocationId : Id) :
    (l.putExpense expenseId
      (correctedExpense expense state reason)).consumed donationId allocationId +
      l.attributedShare donationId expenseId allocationId =
        l.consumed donationId allocationId := by
  rw [attributedShare_eq_named]
  exact counted_corrected _ _ _ _ reason hexp hv hc

omit reason in
theorem outflows_withoutExpense (hexp : l.expenses.get? expenseId = some expense)
    (hv : expense.state ∈ verifiedExpenseStates) (allocationId : Id) :
    (l.withoutExpense expenseId).outflows allocationId + l.expenseCharge expenseId allocationId =
      l.outflows allocationId := by
  rw [withoutExpense_of_get? hexp]
  exact outflows_corrected "" hexp hv (by simp) allocationId

/-- Correcting a verified expense gives every donation back what it had
attributed to it. -/
theorem donorRemaining_corrected (hexp : l.expenses.get? expenseId = some expense)
    (hv : expense.state ∈ verifiedExpenseStates) (hc : state ∈ correctedExpenseStates)
    (donationId allocationId : Id) :
    (l.putExpense expenseId
      (correctedExpense expense state reason)).donorRemainingOnAllocation donationId allocationId =
      l.donorRemainingOnAllocation donationId allocationId +
        l.attributedShare donationId expenseId allocationId := by
  have hflip := consumed_corrected reason hexp hv hc donationId allocationId
  rw [donorRemaining_eq, donorRemaining_eq]
  show l.designated donationId allocationId - _ = _
  omega

end Flip

/-! ## The correction loops -/

/-- The stores the balances are read from are the same. -/
structure SameBooks (l l' : Ledger) : Prop where
  expenses : l'.expenses = l.expenses
  expenseAllocations : l'.expenseAllocations = l.expenseAllocations
  attributions : l'.attributions = l.attributions
  donationAllocations : l'.donationAllocations = l.donationAllocations
  allocations : l'.allocations = l.allocations

theorem SameBooks.refl (l : Ledger) : SameBooks l l := ⟨rfl, rfl, rfl, rfl, rfl⟩

theorem SameBooks.trans {l₀ l₁ l₂ : Ledger} (h : SameBooks l₀ l₁) (h' : SameBooks l₁ l₂) :
    SameBooks l₀ l₂ :=
  ⟨h'.expenses.trans h.expenses, h'.expenseAllocations.trans h.expenseAllocations,
    h'.attributions.trans h.attributions, h'.donationAllocations.trans h.donationAllocations,
    h'.allocations.trans h.allocations⟩

theorem SameBooks.expenseIn (h : SameBooks l l') (states : List ExpenseState) (e : Id) :
    l'.expenseIn states e = l.expenseIn states e := by
  rw [Ledger.expenseIn, Ledger.expenseIn, h.expenses]

theorem SameBooks.sameFunds (h : SameBooks l l') : SameFunds l l' where
  allocations := h.allocations
  inflowAmounts := fun a => by rw [inflowAmounts, inflowAmounts, h.donationAllocations]
  outflowAmounts := fun a =>
    outflowAmounts_congr h.expenseAllocations (h.expenseIn verifiedExpenseStates)

theorem SameBooks.designated (h : SameBooks l l') (donationId allocationId : Id) :
    l'.designated donationId allocationId = l.designated donationId allocationId := by
  rw [Ledger.designated, Ledger.designated, h.donationAllocations]

theorem SameBooks.consumed (h : SameBooks l l') (donationId allocationId : Id) :
    l'.consumed donationId allocationId = l.consumed donationId allocationId := by
  rw [Ledger.consumed, Ledger.consumed, h.attributions]
  exact Dict.sum_congr fun v _ => by rw [h.expenseIn]

theorem SameBooks.donorRemaining (h : SameBooks l l') (donationId allocationId : Id) :
    l'.donorRemainingOnAllocation donationId allocationId =
      l.donorRemainingOnAllocation donationId allocationId := by
  rw [donorRemaining_eq, donorRemaining_eq, h.designated, h.consumed]

theorem SameBooks.storeReceipt (l : Ledger) (expenseId : Id) (r : UseOfFundsReceipt)
    (log : List AuditReceipt) :
    SameBooks l { storeReceipt expenseId r l with auditLog := log } :=
  ⟨rfl, rfl, rfl, rfl, rfl⟩

/-- A chain of corrections leaves the books alone. -/
theorem SameBooks.of_corrections
    (h : Posts False (fun _ p => ∃ e prior r, p = .correction e prior r) l l') :
    SameBooks l l' := by
  refine h.preserve (P := SameBooks l) (fun l₁ l₂ hpost hbooks => ?_) (.refl l)
  obtain ⟨p, log, _, ⟨e, prior, r, rfl⟩, rfl⟩ := hpost
  exact hbooks.trans (.storeReceipt l₁ e r log)

/-! ## The ledger the corrections are written to -/

section Calls

variable [Digest] {expenseId : Id} {actor reason : String}

/-- A reversal that returns flips the expense and runs the correction loop. -/
theorem reverseExpense_returns {r : Expense × List UseOfFundsReceipt}
    (h : Returns (reverseExpense host expenseId actor reason) l r l') :
    ∃ expense snaps log, l.expenses.get? expenseId = some expense ∧
      expense.state ∈ verifiedExpenseStates ∧ snaps.map Prod.fst = l.receiptIdsOf expenseId ∧
      Returns (reversalCorrections host (correctedExpense expense .reversed reason) actor reason 0
        snaps) { l.putExpense expenseId (correctedExpense expense .reversed reason) with
          auditLog := log } r.2 l' := by
  rcases reverseExpense_run host l expenseId actor reason with
    ⟨_, e, hraises⟩ | ⟨expense, snaps, log, hexp, hv, hids, _, hrun⟩
  · exact absurd hraises h.not_raises
  · have hret : Returns ((fun corrections => (correctedExpense expense .reversed reason,
        corrections)) <$> reversalCorrections host (correctedExpense expense .reversed reason)
        actor reason 0 snaps) { l.putExpense expenseId (correctedExpense expense .reversed reason)
          with auditLog := log } r l' := hrun.symm.trans h
    obtain ⟨rs, hloop, rfl⟩ := returns_map.mp hret
    exact ⟨expense, snaps, log, hexp, hv, hids, hloop⟩

/-- The ledger once the replacement of an expense is approved. -/
structure Replaced (l : Ledger) (expenseId replacementId : Id) (old : Expense) (reason : String)
    (l' : Ledger) : Prop where
  fresh : replacementId ∉ l.expenses
  others : ∀ e ≠ replacementId, l'.expenses.get? e =
    (l.putExpense expenseId (correctedExpense old .superseded reason)).expenses.get? e
  attributions : l'.attributions = l.attributions
  donationAllocations : l'.donationAllocations = l.donationAllocations
  allocations : l'.allocations = l.allocations
  receipts : l'.receipts = l.receipts

/-- A supersession that returns flips the expense, replaces it and runs the
correction loop. -/
theorem supersedeExpense_returns {replacement : Expense} {splits : List (Id × Decimal.Amount)}
    {approvedBy : String} {r : Expense × Expense × List UseOfFundsReceipt}
    (h : Returns (supersedeExpense host expenseId replacement splits actor reason approvedBy) l r
      l') :
    ∃ old l₁ l₂ eas approved log, l.expenses.get? expenseId = some old ∧
      old.state ∈ verifiedExpenseStates ∧
      Returns (supersedeUntilApproval host expenseId replacement splits reason) l eas l₁ ∧
      Returns (approveExpense host replacement.id approvedBy) l₁ approved l₂ ∧
      Replaced l expenseId replacement.id old reason { l₂ with auditLog := log } ∧
      Returns (supersedeCorrections host (correctedExpense old .superseded reason) actor reason
        replacement.id 0 (l.receiptIdsOf expenseId)) { l₂ with auditLog := log } r.2.2 l' := by
  rcases supersedeExpense_run host l expenseId replacement splits actor reason approvedBy with
    ⟨_, e, hraises⟩ | ⟨old, hold, hv, hrun⟩
  · exact absurd hraises h.not_raises
  have hret := hrun.symm.trans h
  rw [supersedeAfterFlip] at hret
  obtain ⟨_, hret⟩ := returns_raiseIf_bind.mp hret
  obtain ⟨_, hret⟩ := returns_raiseIf_bind.mp hret
  obtain ⟨r₁, l₀, himp, hret⟩ := returns_bind.mp hret
  obtain ⟨eas, l₁, hall, hret⟩ := returns_bind.mp hret
  obtain ⟨approved, l₂, happ, hret⟩ := returns_bind.mp hret
  obtain ⟨cs, l₃, hloop, hret⟩ := returns_bind.mp (returns_audit_bind.mp hret)
  obtain ⟨rfl, rfl⟩ := returns_pure.mp hret
  have huntil : Returns (supersedeUntilApproval host expenseId replacement splits reason) l eas
      l₁ := by
    refine returns_requireExpense_bind.mpr ⟨old, hold, ?_⟩
    exact returns_modify_bind.mpr (returns_bind.mpr ⟨r₁, l₀, himp, hall⟩)
  refine ⟨old, l₁, l₂, eas, approved, _, hold, hv, huntil, happ, ?_, hloop⟩
  obtain ⟨_, _, hnew, _, rfl, log₀, rfl⟩ := importExpense_returns himp
  obtain ⟨expense, parsed, _, _, _, _, _, _, log₁, rfl⟩ := allocateExpenseSplits_returns hall
  obtain ⟨_, _, _, _, _, _, _, _, _, log₂, rfl⟩ := approveExpense_returns happ
  have hmoved : ∀ l₀ : Ledger, ∀ x, (moveToApprovalPending replacement.id x l₀).attributions =
        l₀.attributions ∧
      (moveToApprovalPending replacement.id x l₀).donationAllocations = l₀.donationAllocations ∧
      (moveToApprovalPending replacement.id x l₀).allocations = l₀.allocations ∧
      (moveToApprovalPending replacement.id x l₀).receipts = l₀.receipts := by
    intro l₀ x
    rw [moveToApprovalPending]
    split <;> exact ⟨rfl, rfl, rfl, rfl⟩
  constructor
  case fresh => exact fun hmem => hnew (Dict.mem_set.mpr (Or.inr hmem))
  case others =>
    intro e hne
    show Dict.get? (Dict.set _ _ _) e = _
    rw [Dict.get?_set_ne hne]
    show (moveToApprovalPending _ _ (replaceExpenseAllocations _ _ _)).expenses.get? e = _
    rw [get?_classified_ne hne]
    exact Dict.get?_set_ne hne
  case attributions => exact (hmoved _ _).1
  case donationAllocations => exact (hmoved _ _).2.1
  case allocations => exact (hmoved _ _).2.2.1
  case receipts => exact (hmoved _ _).2.2.2

theorem reversalCorrections_sameBooks {expense : Expense} {snaps : List (Id × Json)} {i : Nat}
    {rs : List UseOfFundsReceipt}
    (h : Returns (reversalCorrections host expense actor reason i snaps) l rs l') :
    SameBooks l l' := by
  have hposts : Posts False (fun _ p => ∃ e prior r, p = .correction e prior r) l
      (after (reversalCorrections host expense actor reason i snaps) l) :=
    reversalCorrections_posts (fun _ prior r => ⟨_, prior, r, rfl⟩) fun hf => hf.elim
  exact .of_corrections (h.after ▸ hposts)

theorem supersedeCorrections_sameBooks {expense : Expense} {replacementId : Id} {rids : List Id}
    {i : Nat} {rs : List UseOfFundsReceipt}
    (h : Returns (supersedeCorrections host expense actor reason replacementId i rids) l rs l') :
    SameBooks l l' := by
  have hposts : Posts False (fun _ p => ∃ e prior r, p = .correction e prior r) l
      (after (supersedeCorrections host expense actor reason replacementId i rids) l) :=
    supersedeCorrections_posts (fun _ prior r => ⟨_, prior, r, rfl⟩) fun hf => hf.elim
  exact .of_corrections (h.after ▸ hposts)

/-! ## What is given back -/

omit [Digest] in
/-- The replacement consumes nothing of any donation. -/
theorem Replaced.consumed {replacementId : Id} {old : Expense} {l₁ : Ledger}
    (h : Replaced l expenseId replacementId old reason l₁)
    (hrefs : ∀ v ∈ l.attributions.values, v.expenseId ∈ l.expenses) (donationId allocationId : Id) :
    l₁.consumed donationId allocationId =
      (l.putExpense expenseId (correctedExpense old .superseded reason)).consumed donationId
        allocationId := by
  rw [Ledger.consumed, Ledger.consumed, h.attributions]
  refine Dict.sum_congr fun v hv => ?_
  have hne : v.expenseId ≠ replacementId := fun heq => h.fresh (heq ▸ hrefs v hv)
  have hsame : l₁.expenseIn verifiedExpenseStates v.expenseId =
      (l.putExpense expenseId (correctedExpense old .superseded reason)).expenseIn
        verifiedExpenseStates v.expenseId := by
    rw [expenseIn, expenseIn, h.others _ hne]
  rw [hsame]

omit [Digest] in
theorem Replaced.designated {replacementId : Id} {old : Expense} {l₁ : Ledger}
    (h : Replaced l expenseId replacementId old reason l₁) (donationId allocationId : Id) :
    l₁.designated donationId allocationId = l.designated donationId allocationId := by
  rw [Ledger.designated, Ledger.designated, h.donationAllocations]

omit [Digest] in
theorem Replaced.donorRemaining {replacementId : Id} {old : Expense} {l₁ : Ledger}
    (h : Replaced l expenseId replacementId old reason l₁)
    (hold : l.expenses.get? expenseId = some old) (hv : old.state ∈ verifiedExpenseStates)
    (hrefs : ∀ v ∈ l.attributions.values, v.expenseId ∈ l.expenses) (donationId allocationId : Id) :
    l₁.donorRemainingOnAllocation donationId allocationId =
      l.donorRemainingOnAllocation donationId allocationId +
        l.attributedShare donationId expenseId allocationId := by
  rw [← donorRemaining_corrected reason hold hv
      (show ExpenseState.superseded ∈ correctedExpenseStates by simp) donationId allocationId,
    donorRemaining_eq, donorRemaining_eq, h.consumed hrefs, h.designated]
  rfl

/-- The approval of a replacement charges its splits to the funds. -/
theorem outflows_replaced {replacement : Expense} {splits : List (Id × Decimal.Amount)}
    {old approved : Expense} {eas : List ExpenseAllocation} {approvedBy : String} {l₁ l₂ : Ledger}
    (hfresh : FreshDraws host "ea" splits.length l.expenseAllocations)
    (hold : l.expenses.get? expenseId = some old) (hv : old.state ∈ verifiedExpenseStates)
    (huntil : Returns (supersedeUntilApproval host expenseId replacement splits reason) l eas l₁)
    (happ : Returns (approveExpense host replacement.id approvedBy) l₁ approved l₂) :
    ∃ parsed, parseSplits l splits = .ok parsed ∧ ∀ allocationId,
      l₂.outflows allocationId + l.expenseCharge expenseId allocationId =
        l.outflows allocationId + chargeOn parsed allocationId := by
  obtain ⟨parsed, hparsed, hsplits, hfunds⟩ := supersedeUntilApproval_returns hfresh huntil
  refine ⟨parsed, hparsed, fun a => ?_⟩
  obtain ⟨expense, hexp, _, hnot, _, _, _, _, rfl, log, rfl⟩ := approveExpense_returns happ
  have hbefore : l₁.outflows a + l.expenseCharge expenseId a = l.outflows a := by
    rw [hfunds.outflows, outflows_withoutExpense hold hv]
  have hstate : ({ withExpenseState expense .approved with
      approvedBy := some approvedBy } : Expense).state ∈ verifiedExpenseStates := by
    simp [withExpenseState]
  have happroved := outflows_approved (l := l₁) a (expenseIn_false_of_get? hexp hnot) hstate
  show (l₁.putExpense replacement.id _).outflows a + _ = _
  rw [← hbefore, ← hsplits, chargeOn_splitsOf, happroved]
  omega

/-- What a fund was given and what it is charged, before and after the correction of an
expense, have no more digits than the context. -/
structure SumsFit (l : Ledger) (expenseId : Id) (instead : List (Id × Int)) (allocationId : Id) :
    Prop where
  pool : l.PoolFits allocationId
  charges : l.ChargesFit allocationId
  corrected : l.outflows allocationId - l.expenseCharge expenseId allocationId +
    chargeOn instead allocationId < 10 ^ Decimal.precision

/-- What a correction of an expense gives back: every fund among `funds` has what it charged
again, less what is charged instead, and every donation what it had attributed
to the expense. -/
structure Restores (l l' : Ledger) (expenseId : Id) (instead : List (Id × Int))
    (fund : Id → Prop) : Prop where
  funds : ∀ allocationId ∈ l.allocations, fund allocationId → ∃ before,
    Returns (allocationRemainingBalance allocationId) l before l ∧
    Returns (allocationRemainingBalance allocationId) l'
      (before + l.expenseCharge expenseId allocationId - chargeOn instead allocationId) l'
  donations : ∀ donationId allocationId,
    l'.donorRemainingOnAllocation donationId allocationId =
      l.donorRemainingOnAllocation donationId allocationId +
        l.attributedShare donationId expenseId allocationId

omit [Digest] in
/-- Where the sums fit the context, the balance moves by what the charges move by. -/
theorem SumsFit.restored {instead : List (Id × Int)} {a : Id}
    (hfit : SumsFit l expenseId instead a) (hl : Positive l) (hl' : Positive l')
    (hfunds : l'.allocations = l.allocations) (hpooled : l'.pooled a = l.pooled a)
    (hout : l'.outflows a + l.expenseCharge expenseId a = l.outflows a + chargeOn instead a)
    (ha : a ∈ l.allocations) : ∃ before,
    Returns (allocationRemainingBalance a) l before l ∧
    Returns (allocationRemainingBalance a) l'
      (before + l.expenseCharge expenseId a - chargeOn instead a) l' := by
  obtain ⟨hpool, hcharges, hcorrected⟩ := hfit
  have hpool' : l'.PoolFits a := by rwa [PoolFits, hpooled]
  have hcharges' : l'.ChargesFit a := by
    rw [ChargesFit]
    omega
  obtain ⟨hbefore, hdigits⟩ := hl.poolRemaining hpool hcharges
  obtain ⟨hafter, hdigits'⟩ := hl'.poolRemaining hpool' hcharges'
  refine ⟨_, returns_allocationRemainingBalance.mpr ⟨⟨ha, hdigits⟩, rfl, rfl⟩,
    returns_allocationRemainingBalance.mpr ⟨⟨hfunds ▸ ha, hdigits'⟩, ?_, rfl⟩⟩
  rw [hafter, hbefore, hpooled]
  omega

theorem reverseExpense_restores {r : Expense × List UseOfFundsReceipt} (hl : Positive l)
    (h : Returns (reverseExpense host expenseId actor reason) l r l') :
    Restores l l' expenseId [] (SumsFit l expenseId []) := by
  have hexec : Returns (exec host (.reverseExpense expenseId actor reason)) l () l' :=
    returns_map.mpr ⟨r, h, rfl⟩
  have hl' := hl.returns hexec
  obtain ⟨expense, snaps, log, hexp, hv, _, hloop⟩ := reverseExpense_returns h
  have hbooks := reversalCorrections_sameBooks hloop
  constructor
  case funds =>
    intro a ha hfit
    have hflip := outflows_corrected reason hexp hv
      (show ExpenseState.reversed ∈ correctedExpenseStates by simp) a
    refine hfit.restored hl hl' hbooks.allocations (hbooks.sameFunds.pooled a) ?_ ha
    rw [hbooks.sameFunds.outflows, show chargeOn [] a = 0 from rfl, add_zero]
    exact hflip
  case donations =>
    intro d a
    rw [hbooks.donorRemaining]
    exact donorRemaining_corrected reason hexp hv (by simp) d a

theorem supersedeExpense_restores {replacement : Expense} {splits : List (Id × Decimal.Amount)}
    {approvedBy : String} {r : Expense × Expense × List UseOfFundsReceipt} (hkempt : Kempt l)
    (hl : Positive l) (hfresh : FreshDraws host "ea" splits.length l.expenseAllocations)
    (h : Returns (supersedeExpense host expenseId replacement splits actor reason approvedBy) l r
      l') :
    ∃ parsed, parseSplits l splits = .ok parsed ∧
      Restores l l' expenseId parsed (SumsFit l expenseId parsed) := by
  have hexec : Returns (exec host
      (.supersedeExpense expenseId replacement splits actor reason approvedBy)) l () l' :=
    returns_map.mpr ⟨r, h, rfl⟩
  have hl' := hl.returns hexec
  obtain ⟨old, l₁, l₂, eas, approved, log, hold, hv, huntil, happ, hreplaced, hloop⟩ :=
    supersedeExpense_returns h
  have hbooks := supersedeCorrections_sameBooks hloop
  obtain ⟨parsed, hparsed, hout⟩ := outflows_replaced hfresh hold hv huntil happ
  refine ⟨parsed, hparsed, fun a ha hfit => ?_, fun d a => ?_⟩
  · refine hfit.restored hl hl' (hbooks.allocations.trans hreplaced.allocations) ?_ ?_ ha
    · rw [hbooks.sameFunds.pooled, pooled, hreplaced.donationAllocations]
      rfl
    · rw [hbooks.sameFunds.outflows]
      exact hout a
  · rw [hbooks.donorRemaining]
    exact hreplaced.donorRemaining hold hv hkempt.1.refs d a

/-- In every ledger of a run with fresh identifiers, a reversal and a
supersession that go through give back exactly what the expense consumed, on a fund
as long as no sum is rounded. -/
theorem corrections_restore {organization : Organization} {calls : List Call}
    (hfresh : Along step FreshIds (.new organization) calls) {l : Ledger}
    (hl : l = run step (.new organization) calls) (expenseId : Id) (actor reason : String) :
    (∀ host r l', Returns (reverseExpense host expenseId actor reason) l r l' →
      Restores l l' expenseId [] (SumsFit l expenseId [])) ∧
    ∀ host replacement splits approvedBy r l',
      FreshIds l ⟨host, .supersedeExpense expenseId replacement splits actor reason approvedBy⟩ →
      Returns (supersedeExpense host expenseId replacement splits actor reason approvedBy) l r l' →
      ∃ parsed, parseSplits l splits = .ok parsed ∧
        Restores l l' expenseId parsed (SumsFit l expenseId parsed) := by
  subst hl
  have hkempt : Kempt (run step (.new organization) calls) :=
    run_invariant (fun _ _ hl hc => kempt_step hl hc) (kempt_new organization) hfresh
  have hpositive := positive_run organization calls
  exact ⟨fun host r l' h => reverseExpense_restores hpositive h,
    fun host replacement splits approvedBy r l' hids h =>
      supersedeExpense_restores hkempt hpositive hids.2.1 h⟩

end Calls

section Sample

attribute [local instance] Digest.plain

theorem publishableRun_restored :
    (∃ l', Restores (run step (.new Sample.organization) Sample.publishableRun) l' "expense" []
      (SumsFit (run step (.new Sample.organization) Sample.publishableRun) "expense" [])) ∧
    ∃ parsed l', Restores (run step (.new Sample.organization) Sample.publishableRun) l' "expense"
      parsed (SumsFit (run step (.new Sample.organization) Sample.publishableRun) "expense"
        parsed) := by
  have hreverse : Accepts (reverseExpense (.numbered 9) "expense" "human:finance" "duplicate")
      (run step (.new Sample.organization) Sample.publishableRun) :=
    accepts_of_raised_eq_false (by decide)
  have hsupersede : Accepts (supersedeExpense (.numbered 9) "expense"
      (Sample.expense "replacement" 5000) [("fund", .finite 50 0)] "human:finance" "duplicate"
      "human:finance") (run step (.new Sample.organization) Sample.publishableRun) :=
    accepts_of_raised_eq_false (by decide)
  obtain ⟨r, l', hreverse⟩ := hreverse
  obtain ⟨r', l'', hsupersede⟩ := hsupersede
  have hfresh : Along step FreshIds (.new Sample.organization) Sample.publishableRun := by decide
  have hrestore := corrections_restore hfresh rfl "expense" "human:finance" "duplicate"
  obtain ⟨parsed, _, hparsed⟩ := hrestore.2 _ _ _ _ r' l'' (by decide) hsupersede
  exact ⟨⟨l', hrestore.1 _ r l' hreverse⟩, parsed, l'', hparsed⟩

/-- The fund has 99999999999999999999999999.99, which is spent, then 50000000000000000000000000.03,
of which another expense takes 1.00. -/
def Sample.reversibleRun : List Call := script (Sample.gift ++
  Sample.given "large" 9999999999999999999999989999 ++
  Sample.spent "expense" 9999999999999999999999999999 ++
  Sample.given "second" 5000000000000000000000000003 ++
  Sample.spent "extra" 100)

set_option maxRecDepth 2000 in
/-- The charges are rounded before the reversal and fit after it: 1.01 comes back for 1.00. -/
theorem reversal_rounds : ¬ ∀ (organization : Organization) (calls : List Call),
    Along step FreshIds (.new organization) calls → ∀ expenseId actor reason host r l',
      Returns (reverseExpense host expenseId actor reason) (run step (.new organization) calls) r
        l' →
      Restores (run step (.new organization) calls) l' expenseId [] (fun _ => True) := by
  intro h
  obtain ⟨r, l', hreverse⟩ : Accepts (reverseExpense (.numbered 99) "extra" "human:finance"
      "duplicate") (run step (.new Sample.organization) Sample.reversibleRun) :=
    accepts_of_raised_eq_false (by decide)
  obtain ⟨before, hbefore, hafter⟩ :=
    (h Sample.organization Sample.reversibleRun (by decide) "extra" "human:finance" "duplicate"
      (.numbered 99) r l' hreverse).funds "fund" (by decide) trivial
  obtain ⟨_, rfl, _⟩ := returns_allocationRemainingBalance.mp hbefore
  obtain ⟨_, hmoved, _⟩ := returns_allocationRemainingBalance.mp hafter
  rw [← hreverse.after] at hmoved
  exact absurd hmoved (by decide)

end Sample

end Ledger

end ImpactRelay
