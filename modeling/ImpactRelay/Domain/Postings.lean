/-
# `Domain.Postings` — what a call posts to the books

A posting is one thing a ledger method does to the stores.  `Posting.write` is
what it writes, `Posting.guard` what the method has checked by then, and
`Posting.of op` says which postings a call of `op` makes.  A call, whether it
returns or raises, is a chain of its postings (`step_posts`), and a call that is
no correction makes one posting or none (`step_post`).  This is all the
invariants of whole runs need to know of the methods: each is a case analysis
on `Posting`.

Two conditions on a call are fixed here:

  * `FreshIds l c` — the identifiers the caller supplies, and those the host
    draws in the call, are not in use in `l`;
  * `ApprovalsMeet fit l c` — wherever the call approves an expense, `fit`
    holds of the ledger at that moment (`fun _ _ => True` asks for nothing).
-/
import ImpactRelay.Domain.LedgerSpec
import ImpactRelay.Lib.Run
import Mathlib

namespace ImpactRelay

open Raise Relation

namespace Ledger

/-! ## Fresh identifiers -/

/-- The first `n` draws of a kind are distinct and not keys of `d`. -/
def FreshDraws {ν : Type} (host : Host) (kind : String) (n : Nat) (d : Dict Id ν) : Prop :=
  (∀ i < n, host.newId kind i ∉ d) ∧
    ∀ i < n, ∀ j < i, host.newId kind j ≠ host.newId kind i

instance {ν : Type} (host : Host) (kind : String) (n : Nat) (d : Dict Id ν) :
    Decidable (FreshDraws host kind n d) :=
  inferInstanceAs (Decidable (_ ∧ _))

/-- The receipts published for an expense so far, corrections included. -/
def receiptIdsOf (l : Ledger) (expenseId : Id) : List Id :=
  (l.expenseReceipts.get? expenseId).getD []

/-- Supplied and drawn record identifiers are not in use. -/
def FreshIds (l : Ledger) (c : Call) : Prop :=
  match c.op with
  | .importDonation donation => donation.id ∉ l.donations
  | .registerAllocation allocation => allocation.id ∉ l.allocations
  | .assignDonationAllocation _ _ _ daId =>
      truthyOr daId (c.host.newId "da" 0) ∉ l.donationAllocations
  | .importExpense expense => expense.id ∉ l.expenses
  | .allocateExpense _ _ _ eaId => truthyOr eaId (c.host.newId "ea" 0) ∉ l.expenseAllocations
  | .allocateExpenseSplits _ splits => FreshDraws c.host "ea" splits.length l.expenseAllocations
  | .attributeDonorToExpense _ _ _ _ _ _ attrId =>
      truthyOr attrId (c.host.newId "attr" 0) ∉ l.attributions
  | .publishUseOfFundsReceipt _ _ _ _ _ => c.host.newId "uof" 0 ∉ l.receipts
  | .reverseExpense expenseId _ _ =>
      FreshDraws c.host "uofc" (l.receiptIdsOf expenseId).length l.receipts
  | .supersedeExpense expenseId replacement splits _ _ _ =>
      replacement.id ∉ l.expenses ∧ FreshDraws c.host "ea" splits.length l.expenseAllocations ∧
        FreshDraws c.host "uofc" (l.receiptIdsOf expenseId).length l.receipts
  | _ => True

instance (l : Ledger) (c : Call) : Decidable (FreshIds l c) := by
  unfold FreshIds
  split <;> infer_instance

/-! ## Postings -/

abbrev putExpense (l : Ledger) (expenseId : Id) (expense : Expense) : Ledger :=
  { l with expenses := l.expenses.set expenseId expense }

/-- One thing a method does to the stores. -/
inductive Posting where
  | donor (d : Donor)
  | donation (d : Donation)
  | allocation (a : Allocation)
  | designation (da : DonationAllocation)
  | imported (expense : Expense)
  | evidence (e : EvidenceRecord)
  | classified (expenseId : Id) (expense : Expense) (eas : List ExpenseAllocation)
  | approved (expenseId : Id) (expense : Expense) (approvedBy : String)
  | reconciled (expenseId : Id) (expense : Expense) (at_ : String)
  | corrected (expenseId : Id) (expense : Expense) (state : ExpenseState) (reason : String)
  | attributed (donationId expenseId allocationId : Id) (attr : DonorExpenseAttribution)
  | published (expenseId : Id) (receipt : UseOfFundsReceipt)
  | correction (expenseId : Id) (prior receipt : UseOfFundsReceipt)
  /-- an audit entry alone -/
  | note

namespace Posting

/-- What a posting writes, its audit entry aside. -/
def write : Posting → Ledger → Ledger
  | .donor d, l => { l with donors := l.donors.set d.id d }
  | .donation d, l => { l with donations := l.donations.set d.id d }
  | .allocation a, l => { l with allocations := l.allocations.set a.id a }
  | .designation da, l =>
      { l with donationAllocations := l.donationAllocations.set da.id da }
  | .imported expense, l => l.putExpense expense.id expense
  | .evidence e, l => { l with evidence := l.evidence.set e.id e }
  | .classified expenseId expense eas, l =>
      moveToApprovalPending expenseId expense (replaceExpenseAllocations expenseId eas l)
  | .approved expenseId expense approvedBy, l => l.putExpense expenseId
      { withExpenseState expense .approved with approvedBy := some approvedBy }
  | .reconciled expenseId expense at_, l => l.putExpense expenseId
      { withExpenseState expense .reconciled with reconciledAt := some at_ }
  | .corrected expenseId expense state reason, l =>
      l.putExpense expenseId (correctedExpense expense state reason)
  | .attributed donationId expenseId allocationId attr, l =>
      { l with attributions := (l.attributions.filter
        (fun v => !v.onTriple donationId expenseId allocationId)).set attr.id attr }
  | .published expenseId receipt, l => storeReceipt expenseId receipt l
  | .correction expenseId _ receipt, l => storeReceipt expenseId receipt l
  | .note, l => l

/-- What the method has checked when it makes the posting.  `fresh` is whether
record identifiers are promised to be fresh. -/
def guard (fresh : Prop) (l : Ledger) : Posting → Prop
  | .donor _ => True
  | .donation d => 0 < d.amount ∧ d.id ∉ l.donations ∧ d.donorId ∈ l.donors
  | .allocation a => fresh → a.id ∉ l.allocations
  | .designation da =>
      (fresh → da.id ∉ l.donationAllocations) ∧ da.allocationId ∈ l.allocations ∧
        0 < da.amount ∧ ∃ donation, l.donations.get? da.donationId = some donation ∧
          donation.cleared = true ∧
          l.sumDonationAllocations da.donationId + da.amount ≤ donation.amount
  | .imported expense =>
      expense.id ∉ l.expenses ∧ 0 < expense.amount ∧
        (expense.state = .draft ∨ expense.state = .imported) ∧
        expense.organizationId = l.organization.id
  | .evidence e => e.expenseId ∈ l.expenses
  | .classified expenseId expense eas =>
      l.expenses.get? expenseId = some expense ∧ expense.state ∉ correctedExpenseStates ∧
        expense.state ∉ verifiedExpenseStates ∧
        (∀ ea ∈ eas, ea.expenseId = expenseId ∧ ea.allocationId ∈ l.allocations ∧
          0 < ea.amount) ∧
        (fresh → l.expenseAllocations.FreshKeys (·.id) eas)
  | .approved expenseId expense approvedBy =>
      l.expenses.get? expenseId = some expense ∧ expense.state ∉ correctedExpenseStates ∧
        expense.state ∉ verifiedExpenseStates ∧
        expense.state ∈
          [ExpenseState.approvalPending, ExpenseState.classificationPending,
            ExpenseState.imported] ∧
        chargeTotal (l.expenseAllocationsFor expenseId) = expense.amount ∧
        (∀ ea ∈ l.expenseAllocationsFor expenseId,
          l.HasBalance ea.allocationId ∧ ea.amount ≤ l.poolRemaining ea.allocationId) ∧
        approvedBy ≠ ""
  | .reconciled expenseId expense _ =>
      l.expenses.get? expenseId = some expense ∧ expense.state = .approved
  | .corrected expenseId expense state _ =>
      l.expenses.get? expenseId = some expense ∧ expense.state ∈ verifiedExpenseStates ∧
        state ∈ correctedExpenseStates
  | .attributed donationId expenseId allocationId attr =>
      (fresh → attr.id ∉ l.attributions) ∧
        attr.onTriple donationId expenseId allocationId = true ∧ expenseId ∈ l.expenses ∧
        0 < attr.attributedAmount ∧
        attr.attributedAmount ≤ l.expenseCharge expenseId allocationId ∧
        l.activeAttributionTotal donationId allocationId (some expenseId) +
            attr.attributedAmount ≤ l.designated donationId allocationId
  | .published expenseId receipt =>
      receipt.receiptId ∉ l.receipts ∧ receipt.corrected = false ∧
        receipt.expenditureExpenseId = expenseId ∧
        l.expenseIn verifiedExpenseStates expenseId = true ∧
        l.findLiveReceipt receipt.donationId expenseId receipt.allocationId = none ∧
        ∃ attr, l.findAttribution receipt.donationId expenseId receipt.allocationId = some attr ∧
          receipt.attributedAmount = attr.attributedAmount ∧
          receipt.attributionMethod = attr.method.value
  | .correction expenseId prior receipt =>
      (fresh → receipt.receiptId ∉ l.receipts) ∧ receipt.corrected = true ∧
        receipt.expenditureExpenseId = expenseId ∧ receipt.donationId = prior.donationId ∧
        receipt.allocationId = prior.allocationId ∧
        receipt.correctsReceiptId = some prior.receiptId ∧ prior ∈ l.receipts.values
  | .note => True

/-- The postings a call can make. -/
def of : Op → Posting → Prop
  | .registerDonor d, p => p = .donor d
  | .importDonation d, p => p = .donation d
  | .registerAllocation a, p => p = .allocation a
  | .assignDonationAllocation donationId allocationId amount _, p =>
      ∃ da, p = .designation da ∧ da.donationId = donationId ∧ da.allocationId = allocationId ∧
        orderedMoney amount = .ok da.amount
  | .importExpense expense, p => p = .imported expense
  | .attachEvidence e, p => p = .evidence e
  | .allocateExpense expenseId allocationId amount _, p =>
      ∃ expense ea, p = .classified expenseId expense [ea] ∧ ea.allocationId = allocationId ∧
        orderedMoney amount = .ok ea.amount
  | .allocateExpenseSplits expenseId _, p => ∃ expense eas, p = .classified expenseId expense eas
  | .approveExpense expenseId approvedBy, p => ∃ expense, p = .approved expenseId expense approvedBy
  | .reconcileExpense expenseId _, p => ∃ expense at_, p = .reconciled expenseId expense at_
  | .attributeDonorToExpense _ donationId expenseId allocationId _ _ _, p =>
      ∃ attr, p = .attributed donationId expenseId allocationId attr
  | .publishUseOfFundsReceipt expenseId donationId allocationId _ _, p =>
      ∃ receipt, p = .published expenseId receipt ∧ receipt.donationId = donationId ∧
        receipt.allocationId = allocationId
  | .reverseExpense expenseId _ reason, p =>
      (∃ expense, p = .corrected expenseId expense .reversed reason) ∨
        ∃ e prior receipt, p = .correction e prior receipt
  | .supersedeExpense expenseId replacement _ _ reason approvedBy, p =>
      (∃ expense, p = .corrected expenseId expense .superseded reason) ∨
        p = .imported (replacementExpense replacement expenseId reason) ∨
        (∃ expense eas, p = .classified replacement.id expense eas) ∨
        (∃ expense, p = .approved replacement.id expense approvedBy) ∨ p = .note ∨
        ∃ e prior receipt, p = .correction e prior receipt
  | _, _ => False

/-- An approval, which a supersession makes half way. -/
def isApproval : Posting → Bool
  | approved _ _ _ => true
  | _ => false

end Posting

/-- The two corrections make a chain of postings; every other call makes at most one. -/
def corrects : Op → Bool
  | .reverseExpense _ _ _ => true
  | .supersedeExpense _ _ _ _ _ _ => true
  | _ => false

/-- A posting that meets `ok`, and the audit trail as it is afterwards. -/
def Post (fresh : Prop) (ok : Ledger → Posting → Prop) (l l' : Ledger) : Prop :=
  ∃ (p : Posting) (log : List AuditReceipt),
    p.guard fresh l ∧ ok l p ∧ l' = { p.write l with auditLog := log }

abbrev Posts (fresh : Prop) (ok : Ledger → Posting → Prop) : Ledger → Ledger → Prop :=
  ReflTransGen (Post fresh ok)

/-- What every posting keeps, a chain keeps. -/
theorem Posts.preserve {fresh : Prop} {ok : Ledger → Posting → Prop} {P : Ledger → Prop}
    (hp : ∀ l l', Post fresh ok l l' → P l → P l') {l l' : Ledger} (h : Posts fresh ok l l')
    (hl : P l) : P l' := by
  induction h with
  | refl => exact hl
  | tail _ hstep ih => exact hp _ _ hstep ih

/-! ## Draws -/

variable {fresh : Prop} {ok : Ledger → Posting → Prop} {host : Host} {l l' : Ledger}

theorem map_id_splitRecords (host : Host) (expenseId : Id) :
    ∀ (i : Nat) (parsed : List (Id × Int)), (splitRecords host expenseId i parsed).map (·.id) =
      (List.range' i parsed.length).map (host.newId "ea")
  | _, [] => rfl
  | i, (allocationId, amt) :: parsed => by
      rw [splitRecords, List.map_cons, map_id_splitRecords host expenseId (i + 1) parsed,
        List.length_cons, List.range'_succ, List.map_cons]

/-- Fresh draws give fresh split records. -/
theorem FreshDraws.splitRecords (expenseId : Id) {parsed : List (Id × Int)}
    (h : FreshDraws host "ea" parsed.length l.expenseAllocations) :
    l.expenseAllocations.FreshKeys (·.id) (splitRecords host expenseId 0 parsed) := by
  have hids := map_id_splitRecords host expenseId 0 parsed
  constructor
  · intro ea hea
    have hmem : ea.id ∈ (List.range' 0 parsed.length).map (host.newId "ea") :=
      hids ▸ List.mem_map_of_mem (f := fun ea : ExpenseAllocation => ea.id) hea
    obtain ⟨i, hi, hid⟩ := List.mem_map.mp hmem
    show ea.id ∉ _
    rw [← hid]
    exact h.1 i (by simpa using (List.mem_range'_1.mp hi).2)
  · rw [hids]
    refine List.Nodup.map_on (fun i hi j hj hij => ?_) List.nodup_range'
    have hi' : i < parsed.length := by simpa using (List.mem_range'_1.mp hi).2
    have hj' : j < parsed.length := by simpa using (List.mem_range'_1.mp hj).2
    rcases Nat.lt_trichotomy i j with hlt | heq | hlt
    · exact absurd hij (h.2 j hj' i hlt)
    · exact heq
    · exact absurd hij.symm (h.2 i hi' j hlt)

/-- A parsed list of splits on an expense is a classification. -/
theorem splitRecords_classify {expenseId : Id} {splits : List (Id × Decimal.Amount)}
    {parsed : List (Id × Int)} (h : parseSplits l splits = .ok parsed) :
    ∀ ea ∈ splitRecords host expenseId 0 parsed,
      ea.expenseId = expenseId ∧ ea.allocationId ∈ l.allocations ∧ 0 < ea.amount := by
  intro ea hea
  obtain ⟨hexp, hmem⟩ := mem_splitRecords hea
  exact ⟨hexp, parseSplits_ok h _ hmem⟩

/-- The draws `i, …, i + n - 1` are distinct and not keys of `d`. -/
def FreshFrom {ν : Type} (host : Host) (i n : Nat) (d : Dict Id ν) : Prop :=
  (∀ j, i ≤ j → j < i + n → host.newId "uofc" j ∉ d) ∧
    ∀ j k, i ≤ j → j < k → k < i + n → host.newId "uofc" j ≠ host.newId "uofc" k

theorem FreshDraws.freshFrom {ν : Type} {n : Nat} {d : Dict Id ν}
    (h : FreshDraws host "uofc" n d) : FreshFrom host 0 n d :=
  ⟨fun j _ hj => h.1 j (by omega), fun j k _ hjk hk => h.2 k (by omega) j hjk⟩

/-- After one correction is stored the later draws are still fresh. -/
theorem FreshFrom.tail {i n : Nat} {r : UseOfFundsReceipt} {expenseId : Id}
    {log : List AuditReceipt} (hr : r.receiptId = host.newId "uofc" i)
    (h : FreshFrom host i (n + 1) l.receipts) :
    FreshFrom host (i + 1) n
      ({ storeReceipt expenseId r l with auditLog := log } : Ledger).receipts := by
  constructor
  · intro j hij hj hmem
    rcases Dict.mem_set.mp hmem with heq | hmem
    · exact h.2 i j (Nat.le_refl i) (by omega) (by omega) (heq.trans hr).symm
    · exact h.1 j (by omega) (by omega) hmem
  · intro j k hij hjk hk
    exact h.2 j k (by omega) hjk (by omega)

variable [Digest]

/-! ## Approvals -/

/-- The part of a supersession before its approval. -/
def supersedeUntilApproval (host : Host) (expenseId : Id) (replacement : Expense)
    (splits : List (Id × Decimal.Amount)) (reason : String) : LedgerM (List ExpenseAllocation) := do
  let old ← requireExpense expenseId
  modify fun l => l.putExpense expenseId (correctedExpense old .superseded reason)
  let _ ← importExpense host (replacementExpense replacement expenseId reason)
  allocateExpenseSplits host replacement.id splits

/-- `fit` holds of the ledger wherever the call approves an expense. -/
def ApprovalsMeet (fit : Ledger → Id → Prop) (l : Ledger) (c : Call) : Prop :=
  match c.op with
  | .approveExpense expenseId _ => fit l expenseId
  | .supersedeExpense expenseId replacement splits _ reason _ =>
      ∀ eas l', Returns (supersedeUntilApproval c.host expenseId replacement splits reason) l eas
        l' → fit l' replacement.id
  | _ => True

theorem ApprovalsMeet.mono {fit fit' : Ledger → Id → Prop} {c : Call}
    (hmono : ∀ l expenseId, fit l expenseId → fit' l expenseId) (h : ApprovalsMeet fit l c) :
    ApprovalsMeet fit' l c := by
  obtain ⟨callHost, op⟩ := c
  cases op with
  | approveExpense expenseId approvedBy => exact hmono _ _ h
  | supersedeExpense expenseId replacement splits actor reason approvedBy =>
      exact fun eas l' hret => hmono _ _ (h eas l' hret)
  | _ => trivial

/-! ## Each method as a chain -/

theorem FreshFrom.publish {i n : Nat} {prior r : UseOfFundsReceipt} {expense : Expense}
    {actor kind reason : String} {replacementId : Option Id}
    (hfresh : FreshFrom host i (n + 1) l.receipts)
    (h : Returns (publishCorrectionReceipt host i prior expense actor kind reason replacementId)
      l r l') : FreshFrom host (i + 1) n l'.receipts := by
  obtain ⟨rfl, log, rfl⟩ := publishCorrectionReceipt_returns h
  exact hfresh.tail rfl

theorem publishCorrectionReceipt_posts {i : Nat} {prior r : UseOfFundsReceipt}
    {expense : Expense} {actor kind reason : String} {replacementId : Option Id} {n : Nat}
    (hok : ∀ l r, ok l (.correction expense.id prior r)) (hprior : prior ∈ l.receipts.values)
    (hfresh : fresh → FreshFrom host i (n + 1) l.receipts)
    (h : Returns (publishCorrectionReceipt host i prior expense actor kind reason replacementId)
      l r l') : Posts fresh ok l l' ∧ (fresh → FreshFrom host (i + 1) n l'.receipts) := by
  refine ⟨?_, fun hf => (hfresh hf).publish h⟩
  obtain ⟨rfl, log, rfl⟩ := publishCorrectionReceipt_returns h
  refine .single ⟨.correction expense.id prior
    (correctionReceipt host l i prior expense actor kind reason replacementId), log,
    ⟨fun hf => ?_, rfl, rfl, rfl, rfl, rfl, hprior⟩, hok _ _, rfl⟩
  exact (hfresh hf).1 i (Nat.le_refl i) (by omega)

theorem supersedeCorrections_posts {expense : Expense} {actor reason : String}
    {replacementId : Id} {rids : List Id} {i : Nat}
    (hok : ∀ l prior r, ok l (.correction expense.id prior r))
    (hfresh : fresh → FreshFrom host i rids.length l.receipts) :
    Posts fresh ok l
      (after (supersedeCorrections host expense actor reason replacementId i rids) l) := by
  induction rids generalizing i l with
  | nil => exact .refl
  | cons rid rids ih =>
      refine after_of_cases (fun rs l' h => ?_) (fun e l' h => ?_)
      · rw [supersedeCorrections, returns_get_bind, returns_orRaise_bind] at h
        obtain ⟨prior, hprior, h⟩ := h
        obtain ⟨c, l₁, hpub, h⟩ := returns_bind.mp h
        obtain ⟨cs, l₂, hrest, h⟩ := returns_bind.mp h
        obtain ⟨rfl, rfl⟩ := returns_pure.mp h
        obtain ⟨hp, hfresh'⟩ := publishCorrectionReceipt_posts (fun l r => hok l prior r)
          (Dict.mem_values.mpr ⟨rid, hprior⟩) hfresh hpub
        exact hp.trans (hrest.after ▸ ih hfresh')
      · rw [supersedeCorrections, raises_get_bind, raises_orRaise_bind] at h
        rcases h with ⟨_, _, rfl⟩ | ⟨prior, hprior, h⟩
        · exact .refl
        rcases raises_bind.mp h with hpub | ⟨c, l₁, hpub, h⟩
        · exact absurd hpub (publishCorrectionReceipt_total _ _ _ _ _ _ _ _ _ _)
        obtain ⟨hp, hfresh'⟩ := publishCorrectionReceipt_posts (fun l r => hok l prior r)
          (Dict.mem_values.mpr ⟨rid, hprior⟩) hfresh hpub
        rcases raises_bind.mp h with hrest | ⟨cs, l₂, _, h⟩
        · exact hp.trans (hrest.after ▸ ih hfresh')
        · exact absurd h not_raises_pure

theorem reversalCorrections_posts {expense : Expense} {actor reason : String}
    {snaps : List (Id × Json)} {i : Nat}
    (hok : ∀ l prior r, ok l (.correction expense.id prior r))
    (hfresh : fresh → FreshFrom host i snaps.length l.receipts) :
    Posts fresh ok l (after (reversalCorrections host expense actor reason i snaps) l) := by
  induction snaps generalizing i l with
  | nil => exact .refl
  | cons entry snaps ih =>
      obtain ⟨rid, snap⟩ := entry
      refine after_of_cases (fun rs l' h => ?_) (fun e l' h => ?_)
      · rw [reversalCorrections, returns_get_bind, returns_orRaise_bind] at h
        obtain ⟨prior, hprior, h⟩ := h
        obtain ⟨_, l₀, hcheck, h⟩ := returns_bind.mp h
        rw [(checkSnapshot_readOnly _ _).returns hcheck] at h
        obtain ⟨c, l₁, hpub, h⟩ := returns_bind.mp h
        obtain ⟨cs, l₂, hrest, h⟩ := returns_bind.mp h
        obtain ⟨rfl, rfl⟩ := returns_pure.mp h
        obtain ⟨hp, hfresh'⟩ := publishCorrectionReceipt_posts (fun l r => hok l prior r)
          (Dict.mem_values.mpr ⟨rid, hprior⟩) hfresh hpub
        exact hp.trans (hrest.after ▸ ih hfresh')
      · rw [reversalCorrections, raises_get_bind, raises_orRaise_bind] at h
        rcases h with ⟨_, _, rfl⟩ | ⟨prior, hprior, h⟩
        · exact .refl
        rcases raises_bind.mp h with hcheck | ⟨_, l₀, hcheck, h⟩
        · rw [(checkSnapshot_readOnly _ _).atomic _ _ _ hcheck]
        rw [(checkSnapshot_readOnly _ _).returns hcheck] at h
        rcases raises_bind.mp h with hpub | ⟨c, l₁, hpub, h⟩
        · exact absurd hpub (publishCorrectionReceipt_total _ _ _ _ _ _ _ _ _ _)
        obtain ⟨hp, hfresh'⟩ := publishCorrectionReceipt_posts (fun l r => hok l prior r)
          (Dict.mem_values.mpr ⟨rid, hprior⟩) hfresh hpub
        rcases raises_bind.mp h with hrest | ⟨cs, l₂, _, h⟩
        · exact hp.trans (hrest.after ▸ ih hfresh')
        · exact absurd h not_raises_pure

/-- The expense is verified and each of its receipts has a snapshot: what a
reversal checks before its flip. -/
def Reversible (l : Ledger) (expenseId : Id) : Prop :=
  l.expenseIn verifiedExpenseStates expenseId = true ∧
    ∀ rid ∈ l.receiptIdsOf expenseId, rid ∈ l.receiptSnapshots

instance (l : Ledger) (expenseId : Id) : Decidable (Reversible l expenseId) :=
  inferInstanceAs (Decidable (_ ∧ _))

/-- A reversal stops before its flip, or runs the correction loop after it. -/
theorem reverseExpense_run (host : Host) (l : Ledger) (expenseId : Id) (actor reason : String) :
    (¬ Reversible l expenseId ∧ Refuses (reverseExpense host expenseId actor reason) l) ∨
      ∃ expense snaps log, l.expenses.get? expenseId = some expense ∧
        expense.state ∈ verifiedExpenseStates ∧
        snaps.map Prod.fst = l.receiptIdsOf expenseId ∧
        (∀ p ∈ snaps, l.receiptSnapshots.get? p.1 = some p.2) ∧
        (reverseExpense host expenseId actor reason).run l =
          ((fun corrections => (correctedExpense expense .reversed reason, corrections)) <$>
            reversalCorrections host (correctedExpense expense .reversed reason) actor reason 0
              snaps).run
            { l.putExpense expenseId (correctedExpense expense .reversed reason) with
              auditLog := log } := by
  rw [reverseExpense]
  rcases returns_or_raises (requireExpense expenseId) l with ⟨expense, l₁, h⟩ | ⟨e, l₁, h⟩
  swap
  · obtain ⟨hnone, rfl⟩ := requireExpense_raises h
    refine Or.inl ⟨fun hrev => ?_, ⟨e, h.bind⟩⟩
    rw [Reversible, expenseIn, hnone] at hrev
    exact Bool.false_ne_true hrev.1
  obtain ⟨hexp, rfl⟩ := returns_requireExpense.mp h
  by_cases hstate : expense.state ∈ verifiedExpenseStates
  swap
  · refine Or.inl ⟨fun hrev => ?_, h.bind_refuses (Refuses.bind ⟨_, raises_raiseIf.mpr
      ⟨hstate, rfl, rfl⟩⟩)⟩
    have hin := hrev.1
    rw [expenseIn, hexp] at hin
    exact hstate (of_decide_eq_true hin)
  have hguard : Returns (raiseIf (expense.state ∉ verifiedExpenseStates)
      (stateError "only APPROVED or RECONCILED expenses can be reversed")) l () l :=
    returns_raiseIf.mpr ⟨not_not.mpr hstate, rfl⟩
  rcases returns_or_raises (priorSnapshots (l.receiptIdsOf expenseId)) l with
    ⟨snaps, l₂, hs⟩ | ⟨e, l₂, hs⟩
  swap
  · obtain rfl := (priorSnapshots_readOnly _).atomic _ _ _ hs
    refine Or.inl ⟨fun hrev => ?_, h.bind_refuses (hguard.bind_refuses ?_)⟩
    · obtain ⟨rid, hmem, hnone⟩ := priorSnapshots_raises hs
      exact hnone (hrev.2 rid hmem)
    · exact ⟨e, raises_get_bind.mpr hs.bind⟩
  obtain ⟨hids, hsnaps⟩ := returns_priorSnapshots hs
  obtain rfl := (priorSnapshots_readOnly _).returns hs
  refine Or.inr ⟨expense, snaps, l₂.auditLog ++ [auditReceipt host
    (l₂.putExpense expenseId (correctedExpense expense .reversed reason)) "ExpenseReversed"
    "Expense" expenseId actor (.obj [
      ("reason", .str reason),
      ("prior_receipts", .arr ((l₂.receiptIdsOf expenseId).map .str))])],
    hexp, hstate, hids, hsnaps, ?_⟩
  rw [h.bind, hguard.bind, map_eq_bind]
  exact hs.bind

/-- A supersession from its flip on, whatever happens to the replacement. -/
def supersedeAfterFlip (host : Host) (organizationId : Id) (priorReceiptIds : List Id)
    (superseded : Expense) (expenseId : Id) (replacement : Expense)
    (splits : List (Id × Decimal.Amount)) (actor reason approvedBy : String) :
    LedgerM (Expense × Expense × List UseOfFundsReceipt) := do
  raiseIf (replacement.id = expenseId)
    (invariantError "replacement expense must have a new id")
  raiseIf (replacement.organizationId ≠ organizationId)
    (invariantError "replacement organization_id mismatch")
  let _ ← importExpense host (replacementExpense replacement expenseId reason)
  let _ ← allocateExpenseSplits host replacement.id splits
  let approved ← approveExpense host replacement.id approvedBy
  audit host "ExpenseSuperseded" "Expense" expenseId actor (.obj [
    ("replacement_id", .str replacement.id),
    ("reason", .str reason)])
  let corrections ←
    supersedeCorrections host superseded actor reason replacement.id 0 priorReceiptIds
  return (superseded, approved, corrections)

theorem supersedeExpense_eq (expenseId : Id) (replacement : Expense)
    (splits : List (Id × Decimal.Amount)) (actor reason approvedBy : String) :
    supersedeExpense host expenseId replacement splits actor reason approvedBy = (do
      let old ← requireExpense expenseId
      raiseIf (old.state ∉ verifiedExpenseStates)
        (stateError "only APPROVED or RECONCILED expenses can be superseded")
      let l ← get
      modify fun l => l.putExpense expenseId (correctedExpense old .superseded reason)
      supersedeAfterFlip host l.organization.id (l.receiptIdsOf expenseId)
        (correctedExpense old .superseded reason) expenseId replacement splits actor reason
        approvedBy) := rfl

/-- A supersession stops before its flip, or runs the rest after it. -/
theorem supersedeExpense_run (host : Host) (l : Ledger) (expenseId : Id)
    (replacement : Expense) (splits : List (Id × Decimal.Amount))
    (actor reason approvedBy : String) :
    (l.expenseIn verifiedExpenseStates expenseId = false ∧
      Refuses (supersedeExpense host expenseId replacement splits actor reason approvedBy) l) ∨
    ∃ old, l.expenses.get? expenseId = some old ∧ old.state ∈ verifiedExpenseStates ∧
      (supersedeExpense host expenseId replacement splits actor reason approvedBy).run l =
        (supersedeAfterFlip host l.organization.id (l.receiptIdsOf expenseId)
          (correctedExpense old .superseded reason) expenseId replacement splits actor reason
          approvedBy).run (l.putExpense expenseId (correctedExpense old .superseded reason)) := by
  rw [supersedeExpense_eq]
  rcases returns_or_raises (requireExpense expenseId) l with ⟨old, l₁, h⟩ | ⟨e, l₁, h⟩
  · obtain ⟨hold, rfl⟩ := returns_requireExpense.mp h
    by_cases hstate : old.state ∈ verifiedExpenseStates
    · refine Or.inr ⟨old, hold, hstate, ?_⟩
      rw [h.bind, (returns_raiseIf (u := ()).mpr ⟨not_not.mpr hstate, rfl⟩ : Returns _ l () l).bind]
      rfl
    · refine Or.inl ⟨?_, ?_⟩
      · rw [expenseIn, hold]
        exact decide_eq_false hstate
      · exact h.bind_refuses (Refuses.bind ⟨_, raises_raiseIf.mpr ⟨hstate, rfl, rfl⟩⟩)
  · obtain ⟨hnone, rfl⟩ := requireExpense_raises h
    exact Or.inl ⟨by rw [expenseIn, hnone], ⟨e, h.bind⟩⟩

omit [Digest] in
theorem refuseUnfit_refuses {α : Type} (l : Ledger) (expenseId organizationId : Id)
    (replacement : UnfitReplacement) :
    Refuses (refuseUnfit expenseId organizationId replacement : LedgerM α) l := by
  by_cases hid : replacement = .nanAmount (.text expenseId)
  · exact ⟨_, raises_get_bind.mpr (raises_raiseIf_bind.mpr (Or.inl ⟨hid, rfl, rfl⟩))⟩
  by_cases horg : organizationId ≠ l.organization.id
  · exact ⟨_, raises_get_bind.mpr (raises_raiseIf_bind.mpr (Or.inr ⟨hid,
      raises_raiseIf_bind.mpr (Or.inl ⟨horg, rfl, rfl⟩)⟩))⟩
  · exact ⟨_, raises_get_bind.mpr (raises_raiseIf_bind.mpr (Or.inr ⟨hid,
      raises_raiseIf_bind.mpr (Or.inr ⟨horg, rfl⟩)⟩))⟩

omit [Digest] in
/-- By a replacement that cannot be imported, a supersession ends in the flip and a raise. -/
theorem supersedeByUnfit_run {α : Type} (l : Ledger) (expenseId organizationId : Id)
    (replacement : UnfitReplacement) (reason : String) :
    (l.expenseIn verifiedExpenseStates expenseId = false ∧
      Refuses (supersedeByUnfit expenseId organizationId replacement reason : LedgerM α) l) ∨
    ∃ old e, l.expenses.get? expenseId = some old ∧ old.state ∈ verifiedExpenseStates ∧
      Raises (supersedeByUnfit expenseId organizationId replacement reason : LedgerM α) l e
        (l.putExpense expenseId (correctedExpense old .superseded reason)) := by
  rw [supersedeByUnfit]
  rcases returns_or_raises (requireExpense expenseId) l with ⟨old, l₁, h⟩ | ⟨e, l₁, h⟩
  · obtain ⟨hold, rfl⟩ := returns_requireExpense.mp h
    by_cases hstate : old.state ∈ verifiedExpenseStates
    · obtain ⟨e, hrefused⟩ : Refuses
          (refuseUnfit expenseId organizationId replacement : LedgerM α)
          (l.putExpense expenseId (correctedExpense old .superseded reason)) :=
        refuseUnfit_refuses _ _ _ _
      refine Or.inr ⟨old, e, hold, hstate, h.bind.trans ?_⟩
      exact raises_raiseIf_bind.mpr (Or.inr ⟨not_not.mpr hstate, hrefused⟩)
    · refine Or.inl ⟨?_, ?_⟩
      · rw [expenseIn, hold]
        exact decide_eq_false hstate
      · exact h.bind_refuses (Refuses.bind ⟨_, raises_raiseIf.mpr ⟨hstate, rfl, rfl⟩⟩)
  · obtain ⟨hnone, rfl⟩ := requireExpense_raises h
    exact Or.inl ⟨by rw [expenseIn, hnone], ⟨e, h.bind⟩⟩

omit [Digest] in
theorem not_returns_supersedeByUnfit {α : Type} {expenseId organizationId : Id}
    {replacement : UnfitReplacement} {reason : String} {a : α} :
    ¬ Returns (supersedeByUnfit expenseId organizationId replacement reason) l a l' := by
  intro h
  rcases supersedeByUnfit_run l expenseId organizationId replacement reason with
    ⟨_, href⟩ | ⟨_, e, _, _, hraises⟩
  · exact href.not_accepts ⟨a, l', h⟩
  · exact h.not_raises hraises

theorem importExpense_post {expense r : Expense} (hok : ok l (.imported expense))
    (h : Returns (importExpense host expense) l r l') : Post fresh ok l l' := by
  obtain ⟨horg, hpos, hnew, hstate, rfl, log, rfl⟩ := importExpense_returns h
  exact ⟨.imported r, log, ⟨hnew, hpos, hstate, horg⟩, hok, rfl⟩

theorem allocateExpenseSplits_post {expenseId : Id} {splits : List (Id × Decimal.Amount)}
    {eas : List ExpenseAllocation} (hok : ∀ expense, ok l (.classified expenseId expense eas))
    (hfresh : fresh → FreshDraws host "ea" splits.length l.expenseAllocations)
    (h : Returns (allocateExpenseSplits host expenseId splits) l eas l') : Post fresh ok l l' := by
  obtain ⟨expense, parsed, hexp, hc, hv, hparsed, _, rfl, log, rfl⟩ :=
    allocateExpenseSplits_returns h
  rw [← length_parseSplits hparsed] at hfresh
  exact ⟨.classified expenseId expense _, log, ⟨hexp, hc, hv, splitRecords_classify hparsed,
    fun hf => FreshDraws.splitRecords expenseId (hfresh hf)⟩, hok expense, rfl⟩

theorem approveExpense_post {expenseId : Id} {approvedBy : String} {r : Expense}
    (hok : ∀ expense, ok l (.approved expenseId expense approvedBy))
    (h : Returns (approveExpense host expenseId approvedBy) l r l') : Post fresh ok l l' := by
  obtain ⟨expense, hexp, hc, hv, hs, htotal, hbal, hby, rfl, log, rfl⟩ := approveExpense_returns h
  exact ⟨.approved expenseId expense approvedBy, log, ⟨hexp, hc, hv, hs, htotal, hbal, hby⟩,
    hok expense, rfl⟩

theorem publishUseOfFundsReceipt_post {expenseId donationId allocationId : Id} {actor : String}
    {createdAt : Option String} {receipt : UseOfFundsReceipt}
    (hok : receipt.donationId = donationId → receipt.allocationId = allocationId →
      ok l (.published expenseId receipt))
    (h : Returns (publishUseOfFundsReceipt host expenseId donationId allocationId actor createdAt)
      l receipt l') : Post fresh ok l l' := by
  obtain ⟨_, hnew, hcorr, rfl, hexp, rfl, hlive, hstate, log, rfl⟩ :=
    publishUseOfFundsReceipt_returns h
  obtain ⟨attr, hattr, hamount, hmethod⟩ := publishUseOfFundsReceipt_attribution h
  exact ⟨.published expenseId receipt, log,
    ⟨hnew, hcorr, hexp, hstate, hlive, attr, hattr, hamount, hmethod⟩, hok rfl rfl, rfl⟩

theorem reverseExpense_posts {expenseId : Id} {actor reason : String}
    (hok : ∀ l p, Posting.of (.reverseExpense expenseId actor reason) p → ok l p)
    (hfresh : fresh → FreshDraws host "uofc" (l.receiptIdsOf expenseId).length l.receipts) :
    Posts fresh ok l (after (reverseExpense host expenseId actor reason) l) := by
  rcases reverseExpense_run host l expenseId actor reason with
    ⟨_, h⟩ | ⟨expense, snaps, log, hexp, hv, hids, _, hrun⟩
  · rw [h.after]
  · rw [after_congr hrun, after_map]
    have hlen : snaps.length = (l.receiptIdsOf expenseId).length := by
      rw [← hids, List.length_map]
    rw [← hlen] at hfresh
    have hflip : Post fresh ok l
        { l.putExpense expenseId (correctedExpense expense .reversed reason) with
          auditLog := log } :=
      ⟨.corrected expenseId expense .reversed reason, log, ⟨hexp, hv, by simp⟩,
        hok _ _ (Or.inl ⟨expense, rfl⟩), rfl⟩
    refine (ReflTransGen.single hflip).trans (reversalCorrections_posts (fun l prior r => ?_)
      fun hf => (hfresh hf).freshFrom)
    exact hok _ _ (Or.inr ⟨_, prior, r, rfl⟩)

theorem supersedeAfterFlip_posts {organizationId : Id} {priorReceiptIds : List Id}
    {superseded : Expense} {expenseId : Id} {replacement : Expense}
    {splits : List (Id × Decimal.Amount)} {actor reason approvedBy : String}
    (hok : ∀ l p, Posting.of
      (.supersedeExpense expenseId replacement splits actor reason approvedBy) p →
      p.isApproval = false → ok l p)
    (hea : fresh → FreshDraws host "ea" splits.length l.expenseAllocations)
    (huofc : fresh → FreshDraws host "uofc" priorReceiptIds.length l.receipts)
    (happ : ∀ r l₁ eas l', Returns
      (importExpense host (replacementExpense replacement expenseId reason)) l r l₁ →
      Returns (allocateExpenseSplits host replacement.id splits) l₁ eas l' →
      ∀ expense, ok l' (.approved replacement.id expense approvedBy)) :
    Posts fresh ok l (after (supersedeAfterFlip host organizationId priorReceiptIds superseded
      expenseId replacement splits actor reason approvedBy) l) := by
  rw [supersedeAfterFlip, after_raiseIf_bind]
  split
  · exact .refl
  rw [after_raiseIf_bind]
  split
  · exact .refl
  rcases returns_or_raises (importExpense host (replacementExpense replacement expenseId reason)) l
    with ⟨r, l₁, himp⟩ | ⟨e, l₁, himp⟩
  swap
  · rw [himp.after_bind, importExpense_atomic _ _ _ _ himp]
  rw [himp.after_bind]
  have hp₁ : Posts fresh ok l l₁ :=
    .single (importExpense_post (hok _ _ (Or.inr (Or.inl rfl)) rfl) himp)
  obtain ⟨_, _, _, _, _, log, hl₁⟩ := importExpense_returns himp
  have hea₁ : fresh → FreshDraws host "ea" splits.length l₁.expenseAllocations := hl₁ ▸ hea
  rcases returns_or_raises (allocateExpenseSplits host replacement.id splits) l₁ with
    ⟨eas, l₂, hall⟩ | ⟨e, l₂, hall⟩
  swap
  · rw [hall.after_bind, allocateExpenseSplits_atomic _ _ _ _ _ hall]
    exact hp₁
  rw [hall.after_bind]
  have hp₂ : Posts fresh ok l l₂ := hp₁.tail (allocateExpenseSplits_post
    (fun expense => hok _ _ (Or.inr (Or.inr (Or.inl ⟨expense, eas, rfl⟩))) rfl) hea₁ hall)
  have hrec₂ : l₂.receipts = l.receipts := by
    obtain ⟨_, _, _, _, _, _, _, _, log', hl₂⟩ := allocateExpenseSplits_returns hall
    rw [hl₂, hl₁]
    simp only [moveToApprovalPending, replaceExpenseAllocations]
    split <;> rfl
  rcases returns_or_raises (approveExpense host replacement.id approvedBy) l₂ with
    ⟨approved, l₃, happr⟩ | ⟨e, l₃, happr⟩
  swap
  · rw [happr.after_bind, approveExpense_atomic _ _ _ _ _ happr]
    exact hp₂
  rw [happr.after_bind, audit, after_modify_bind, after_bind_pure]
  have hp₃ := hp₂.tail (approveExpense_post (happ r l₁ eas l₂ himp hall) happr)
  have hnote := hok l₃ .note (Or.inr (Or.inr (Or.inr (Or.inr (Or.inl rfl))))) rfl
  refine (hp₃.tail ⟨.note, _, trivial, hnote, rfl⟩).trans
    (supersedeCorrections_posts (fun l prior r => ?_) fun hf => ?_)
  · exact hok _ _ (Or.inr (Or.inr (Or.inr (Or.inr (Or.inr ⟨_, prior, r, rfl⟩))))) rfl
  · obtain ⟨_, _, _, _, _, _, _, _, _, log', hl₃⟩ := approveExpense_returns happr
    rw [hl₃]
    exact hrec₂ ▸ (huofc hf).freshFrom

theorem supersedeExpense_posts {expenseId : Id} {replacement : Expense}
    {splits : List (Id × Decimal.Amount)} {actor reason approvedBy : String}
    (hok : ∀ l p, Posting.of
      (.supersedeExpense expenseId replacement splits actor reason approvedBy) p →
      p.isApproval = false → ok l p)
    (hea : fresh → FreshDraws host "ea" splits.length l.expenseAllocations)
    (huofc : fresh → FreshDraws host "uofc" (l.receiptIdsOf expenseId).length l.receipts)
    (happ : ∀ eas l', Returns (supersedeUntilApproval host expenseId replacement splits reason) l
      eas l' → ∀ expense, ok l' (.approved replacement.id expense approvedBy)) :
    Posts fresh ok l
      (after (supersedeExpense host expenseId replacement splits actor reason approvedBy) l) := by
  rcases supersedeExpense_run host l expenseId replacement splits actor reason approvedBy with
    ⟨_, h⟩ | ⟨old, hold, hstate, hrun⟩
  · rw [h.after]
  · rw [after_congr hrun]
    have hflip : Post fresh ok l
        (l.putExpense expenseId (correctedExpense old .superseded reason)) :=
      ⟨.corrected expenseId old .superseded reason, l.auditLog, ⟨hold, hstate, by simp⟩,
        hok _ _ (Or.inl ⟨old, rfl⟩) rfl, rfl⟩
    refine (ReflTransGen.single hflip).trans (supersedeAfterFlip_posts hok hea huofc ?_)
    intro r l₁ eas l' himp hall
    refine happ eas l' (returns_requireExpense_bind.mpr ⟨old, hold, ?_⟩)
    exact returns_modify_bind.mpr (returns_bind.mpr ⟨r, l₁, himp, hall⟩)

/-! ## A whole call -/

omit [Digest] in
theorem returns_post {α : Type} {x : LedgerM α} (hx : Atomic x)
    (h : ∀ a l', Returns x l a l' → Post fresh ok l l') :
    after x l = l ∨ Post fresh ok l (after x l) := by
  rcases returns_or_raises x l with ⟨a, l', hr⟩ | ⟨e, l', hr⟩
  · exact Or.inr (hr.after.symm ▸ h a l' hr)
  · exact Or.inl (hr.after.trans (hx l e l' hr))

/-- A call that is no correction makes one of its postings, or none. -/
theorem step_post {c : Call} (hc : corrects c.op = false) (hfresh : fresh → FreshIds l c) :
    step l c = l ∨ Post fresh (fun _ p => Posting.of c.op p) l (step l c) := by
  obtain ⟨host, op⟩ := c
  rw [step]
  cases op with
  | registerDonor donor =>
      rw [exec, after_map]
      refine returns_post (registerDonor_atomic _) fun r l' h => ?_
      obtain ⟨log, rfl⟩ := registerDonor_returns h
      exact ⟨.donor donor, log, trivial, rfl, rfl⟩
  | importDonation donation =>
      rw [exec, after_map]
      refine returns_post (importDonation_atomic _) fun r l' h => ?_
      obtain ⟨hpos, hnew, hdonor, log, rfl⟩ := importDonation_returns h
      exact ⟨.donation donation, log, ⟨hpos, hnew, hdonor⟩, rfl, rfl⟩
  | registerAllocation allocation =>
      rw [exec, after_map]
      refine returns_post (registerAllocation_atomic _) fun r l' h => ?_
      obtain ⟨log, rfl⟩ := registerAllocation_returns h
      exact ⟨.allocation allocation, log, hfresh, rfl, rfl⟩
  | assignDonationAllocation donationId allocationId amount daId =>
      rw [exec, after_map]
      refine returns_post (assignDonationAllocation_atomic _ _ _ _) fun da l' h => ?_
      obtain ⟨hid, rfl, rfl, hreg, hpos, hamount, hdon, log, rfl⟩ :=
        assignDonationAllocation_returns h
      have hnew : fresh → da.id ∉ l.donationAllocations := hid ▸ hfresh
      exact ⟨.designation da, log, ⟨hnew, hreg, hpos, hdon⟩, ⟨da, rfl, rfl, rfl, hamount⟩, rfl⟩
  | importExpense expense =>
      rw [exec, after_map]
      exact returns_post (importExpense_atomic _) fun r l' h => importExpense_post rfl h
  | attachEvidence evidence =>
      rw [exec, after_map]
      refine returns_post (attachEvidence_atomic _) fun r l' h => ?_
      obtain ⟨hmem, log, rfl⟩ := attachEvidence_returns h
      exact ⟨.evidence evidence, log, hmem, rfl, rfl⟩
  | allocateExpense expenseId allocationId amount eaId =>
      rw [exec, after_map]
      refine returns_post (allocateExpense_atomic _ _ _ _) fun ea l' h => ?_
      obtain ⟨hid, rfl, rfl, hreg, hpos, hamount, expense, hexp, hcorr, hv, log, rfl⟩ :=
        allocateExpense_returns h
      have hnew : fresh → ea.id ∉ l.expenseAllocations := hid ▸ hfresh
      refine ⟨.classified ea.expenseId expense [ea], log, ⟨hexp, hcorr, hv, ?_, ?_⟩,
        ⟨expense, ea, rfl, rfl, hamount⟩, rfl⟩
      · intro ea' hea'
        rw [List.mem_singleton.mp hea']
        exact ⟨rfl, hreg, hpos⟩
      · refine fun hf => ⟨fun ea' hea' => ?_, List.nodup_singleton _⟩
        rw [List.mem_singleton.mp hea']
        exact hnew hf
  | allocateExpenseSplits expenseId splits =>
      rw [exec, after_map]
      exact returns_post (allocateExpenseSplits_atomic _ _) fun eas l' h =>
        allocateExpenseSplits_post (fun expense => ⟨expense, eas, rfl⟩) hfresh h
  | approveExpense expenseId approvedBy =>
      rw [exec, after_map]
      exact returns_post (approveExpense_atomic _ _) fun r l' h =>
        approveExpense_post (fun expense => ⟨expense, rfl⟩) h
  | reconcileExpense expenseId actor =>
      rw [exec, after_map]
      refine returns_post (reconcileExpense_atomic _ _) fun r l' h => ?_
      obtain ⟨expense, hexp, hs, rfl, log, rfl⟩ := reconcileExpense_returns h
      exact ⟨.reconciled expenseId expense _, log, ⟨hexp, hs⟩, ⟨expense, _, rfl⟩, rfl⟩
  | attributeDonorToExpense donorId donationId expenseId allocationId method amount attrId =>
      rw [exec, after_map]
      refine returns_post (attributeDonorToExpense_atomic _ _ _ _ _ _ _) fun attr l' h => ?_
      obtain ⟨hid, htriple, _, _, _, hexp, hpos, hcharge, hsum, log, rfl⟩ :=
        attributeDonorToExpense_returns h
      have hnew : fresh → attr.id ∉ l.attributions := hid ▸ hfresh
      exact ⟨.attributed donationId expenseId allocationId attr, log,
        ⟨hnew, htriple, hexp, hpos, hcharge, hsum⟩, ⟨attr, rfl⟩, rfl⟩
  | publishUseOfFundsReceipt expenseId donationId allocationId actor createdAt =>
      rw [exec, after_map]
      exact returns_post (publishUseOfFundsReceipt_atomic _ _ _ _ _) fun r l' h =>
        publishUseOfFundsReceipt_post (fun hdon hall => ⟨r, rfl, hdon, hall⟩) h
  | getReceipt receiptId =>
      rw [exec, after_map, getReceipt_readOnly]
      exact Or.inl rfl
  | getReceiptSnapshot receiptId =>
      rw [exec, after_map, getReceiptSnapshot_readOnly]
      exact Or.inl rfl
  | reverseExpense expenseId actor reason => exact nomatch hc
  | supersedeExpense expenseId replacement splits actor reason approvedBy => exact nomatch hc
  | mutateReceipt receiptId => exact Or.inl rfl
  | mutateApprovedExpense expenseId =>
      rw [exec, mutateApprovedExpense_readOnly]
      exact Or.inl rfl
  | allocationRemainingBalance allocationId =>
      rw [exec, after_map, allocationRemainingBalance_readOnly]
      exact Or.inl rfl
  | donorRemainingOnAllocation donationId allocationId => exact Or.inl rfl

/-- What a call does to the ledger, returning or raising, is a chain of its postings. -/
theorem step_posts {c : Call} (hok : ∀ l p, Posting.of c.op p → p.isApproval = false → ok l p)
    (happ : ApprovalsMeet (fun l expenseId => ∀ expense approvedBy,
      ok l (.approved expenseId expense approvedBy)) l c)
    (hfresh : fresh → FreshIds l c) : Posts fresh ok l (step l c) := by
  cases hc : corrects c.op with
  | false =>
      rcases step_post hc hfresh with heq | ⟨p, log, hguard, hof, heq⟩
      · rw [heq]
      · refine .single ⟨p, log, hguard, ?_, heq⟩
        cases hp : p.isApproval with
        | false => exact hok l p hof hp
        | true =>
            obtain ⟨host, op⟩ := c
            cases p with
            | approved expenseId expense approvedBy =>
                cases op <;> simp_all [Posting.of, ApprovalsMeet, corrects]
            | _ => exact nomatch hp
  | true =>
      obtain ⟨host, op⟩ := c
      cases op with
      | reverseExpense expenseId actor reason =>
          rw [step, exec, after_map]
          refine reverseExpense_posts (fun l p hof => hok l p hof ?_) hfresh
          rcases hof with ⟨_, rfl⟩ | ⟨_, _, _, rfl⟩ <;> rfl
      | supersedeExpense expenseId replacement splits actor reason approvedBy =>
          rw [step, exec, after_map]
          exact supersedeExpense_posts hok (fun hf => (hfresh hf).2.1)
            (fun hf => (hfresh hf).2.2) fun eas l' h expense => happ eas l' h expense approvedBy
      | _ => exact nomatch hc

end Ledger

end ImpactRelay
