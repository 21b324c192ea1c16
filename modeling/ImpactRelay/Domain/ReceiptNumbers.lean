/-
# `Domain.ReceiptNumbers` — whether a receipt's own numbers add up

A receipt states what was attributed to the expense and what remains of the
designation.  At its creation an original adds up: the attribution it states is
among those the remaining balance has subtracted.  So does a reversal, which
states zero.  A supersession copies the attributed amount of the receipt it
corrects, and computes the balance with the superseded expense already out of the
way: the amount is stated twice, unless the donation's attributions to other
verified expenses consume at least as much (`SupersedesWithin`).
-/
import ImpactRelay.Domain.LiveReceipts
import ImpactRelay.Domain.Restitution

namespace ImpactRelay

open Raise Relation

namespace Ledger

variable {l l' : Ledger} {host : Host}

/-! ## The law -/

/-- What the receipt attributes and what it says remains fit the designation. -/
def AddsUp (l : Ledger) (r : UseOfFundsReceipt) : Prop :=
  r.attributedAmount + r.remainingDesignatedBalance ≤ l.designated r.donationId r.allocationId

/-- Every receipt that is new in `l'` adds up there. -/
def NewReceiptsAddUp (l l' : Ledger) : Prop :=
  ∀ rid r, rid ∉ l.receipts → l'.receipts.get? rid = some r → AddsUp l' r

theorem NewReceiptsAddUp.of_receipts (h : l'.receipts = l.receipts) : NewReceiptsAddUp l l' :=
  fun _ _ hnew hr => absurd (Dict.mem_of_get? (h ▸ hr)) hnew

/-- What a donation's attributions to other verified expenses consume of a fund. -/
def consumedBesides (l : Ledger) (expenseId donationId allocationId : Id) : Int :=
  l.attributions.sum (fun attr =>
    attr.donationId = donationId && attr.allocationId = allocationId &&
      (attr.expenseId ≠ expenseId && l.expenseIn verifiedExpenseStates attr.expenseId))
    (·.attributedAmount)

/-- A supersession that goes through corrects only receipts whose attributed
amount the other verified expenses consume as well. -/
def SupersedesWithin (l : Ledger) (c : Call) : Prop :=
  match c.op with
  | .supersedeExpense expenseId replacement splits _ _ approvedBy =>
      l.expenseIn verifiedExpenseStates expenseId = true →
        ReplacementAccepted l expenseId replacement splits approvedBy →
        ∀ rid ∈ l.receiptIdsOf expenseId, OnSome (l.receipts.get? rid) fun prior =>
          prior.attributedAmount ≤ l.consumedBesides expenseId prior.donationId prior.allocationId
  | _ => True

instance (l : Ledger) (c : Call) : Decidable (SupersedesWithin l c) := by
  apply Op.casesOn (motive := fun op => Decidable (SupersedesWithin l ⟨c.host, op⟩)) c.op
  all_goals
    intros
    dsimp only [SupersedesWithin]
    infer_instance

/-! ## What is consumed -/

theorem consumed_nonneg (hpos : ∀ v ∈ l.attributions.values, 0 < v.attributedAmount)
    (donationId allocationId : Id) : 0 ≤ l.consumed donationId allocationId :=
  Dict.sum_nonneg fun v hv => Int.le_of_lt (hpos v hv)

/-- An attribution to a verified expense is consumed. -/
theorem le_consumed (hpos : ∀ v ∈ l.attributions.values, 0 < v.attributedAmount)
    {donationId expenseId allocationId : Id} {attr : DonorExpenseAttribution}
    (hattr : l.findAttribution donationId expenseId allocationId = some attr)
    (hv : l.expenseIn verifiedExpenseStates expenseId = true) :
    attr.attributedAmount ≤ l.consumed donationId allocationId := by
  have hmem := List.mem_of_find?_eq_some hattr
  have htriple := List.find?_some hattr
  simp only [DonorExpenseAttribution.onTriple, Bool.and_eq_true, decide_eq_true_eq] at htriple
  obtain ⟨⟨hdonation, rfl⟩, hallocation⟩ := htriple
  refine List.single_le_sum (fun x hx => ?_) _ (List.mem_map.mpr ⟨attr, ?_, rfl⟩)
  · obtain ⟨v, hv, rfl⟩ := List.mem_map.mp hx
    exact Int.le_of_lt (hpos v (List.mem_of_mem_filter hv))
  · refine List.mem_filter.mpr ⟨hmem, ?_⟩
    simp [hdonation, hallocation, hv]

/-- Once a verified expense is superseded the others are all that is consumed. -/
theorem consumed_superseded {expenseId : Id} {old : Expense} (reason : String)
    (donationId allocationId : Id) :
    (l.putExpense expenseId (correctedExpense old .superseded reason)).consumed donationId
      allocationId = l.consumedBesides expenseId donationId allocationId := by
  refine Dict.sum_congr fun v _ => ?_
  rw [expenseIn_putExpense]
  by_cases heq : v.expenseId = expenseId
  · simp [heq, correctedExpense, withExpenseState]
  · simp [heq]

/-! ## What the correction loops store -/

/-- `r` corrects `prior` and takes its numbers from the ledger `l`. -/
structure CorrectionOf (l : Ledger) (kind : String) (prior r : UseOfFundsReceipt) : Prop where
  donation : r.donationId = prior.donationId
  allocation : r.allocationId = prior.allocationId
  attributed : r.attributedAmount = if kind = "REVERSAL" then 0 else prior.attributedAmount
  remaining : r.remainingDesignatedBalance =
    l.donorRemainingOnAllocation prior.donationId prior.allocationId

theorem CorrectionOf.congr {kind : String} {prior r : UseOfFundsReceipt} (h : SameBooks l l')
    (hr : CorrectionOf l' kind prior r) : CorrectionOf l kind prior r :=
  ⟨hr.donation, hr.allocation, hr.attributed, hr.remaining.trans (h.donorRemaining _ _)⟩

/-- Each of the receipts `rids` was corrected on the way from `l` to `l'`, and
nothing else was stored. -/
structure Corrected (kind : String) (rids : List Id) (l l' : Ledger) : Prop where
  books : SameBooks l l'
  kept : ∀ rid ∈ l.receipts, l'.receipts.get? rid = l.receipts.get? rid
  only : ∀ cid r, cid ∉ l.receipts → l'.receipts.get? cid = some r →
    ∃ rid ∈ rids, ∃ prior, l.receipts.get? rid = some prior ∧ CorrectionOf l kind prior r
  each : ∀ rid ∈ rids, ∃ prior cid r, l.receipts.get? rid = some prior ∧ cid ∉ l.receipts ∧
    l'.receipts.get? cid = some r ∧ CorrectionOf l kind prior r

theorem Corrected.nil (kind : String) (l : Ledger) : Corrected kind [] l l where
  books := .refl l
  kept := fun _ _ => rfl
  only := fun _ _ hnew hr => absurd (Dict.mem_of_get? hr) hnew
  each := fun _ hmem => absurd hmem List.not_mem_nil

theorem Corrected.cons {kind : String} {rid expenseId : Id} {rids : List Id}
    {prior r : UseOfFundsReceipt} {log : List AuditReceipt}
    (hprior : l.receipts.get? rid = some prior) (hr : CorrectionOf l kind prior r)
    (hnew : r.receiptId ∉ l.receipts) (hstored : ∀ rid ∈ rids, rid ∈ l.receipts)
    (h : Corrected kind rids { storeReceipt expenseId r l with auditLog := log } l') :
    Corrected kind (rid :: rids) l l' := by
  have hbooks := SameBooks.storeReceipt l expenseId r log
  -- the stored receipt is all that the rest of the loop finds besides those of `l`
  have hself : Dict.get? (storeReceipt expenseId r l).receipts r.receiptId = some r :=
    Dict.get?_set_self _ _ _
  have hold : ∀ x ∈ l.receipts, (storeReceipt expenseId r l).receipts.get? x =
      l.receipts.get? x :=
    fun x hx => Dict.get?_set_ne fun heq => hnew (heq ▸ hx)
  have hafter : l'.receipts.get? r.receiptId = some r :=
    (h.kept _ (Dict.mem_of_get? hself)).trans hself
  constructor
  case books => exact hbooks.trans h.books
  case kept =>
    intro x hx
    exact (h.kept x (Dict.mem_set.mpr (Or.inr hx))).trans (hold x hx)
  case only =>
    intro cid c hcid hc
    by_cases heq : cid = r.receiptId
    · rw [heq, hafter] at hc
      obtain rfl := Option.some.inj hc
      exact ⟨rid, List.mem_cons_self, prior, hprior, hr⟩
    · have hcid' : cid ∉ (storeReceipt expenseId r l).receipts := by
        intro hmem
        rcases Dict.mem_set.mp hmem with hmem | hmem
        · exact heq hmem
        · exact hcid hmem
      obtain ⟨x, hx, p, hp, hcorrects⟩ := h.only cid c hcid' hc
      exact ⟨x, List.mem_cons_of_mem _ hx, p, (hold x (hstored x hx)).symm.trans hp,
        hcorrects.congr hbooks⟩
  case each =>
    intro x hx
    rcases List.mem_cons.mp hx with rfl | hx
    · exact ⟨prior, r.receiptId, r, hprior, hnew, hafter, hr⟩
    · obtain ⟨p, cid, c, hp, hcid, hc, hcorrects⟩ := h.each x hx
      exact ⟨p, cid, c, (hold x (hstored x hx)).symm.trans hp,
        fun hmem => hcid (Dict.mem_set.mpr (Or.inr hmem)), hc, hcorrects.congr hbooks⟩

section Calls

variable [Digest] {expenseId : Id} {actor reason : String}

theorem correctionOf_correctionReceipt (l : Ledger) (i : Nat) (prior : UseOfFundsReceipt)
    (expense : Expense) (actor kind reason : String) (replacementId : Option Id) :
    CorrectionOf l kind prior
      (correctionReceipt host l i prior expense actor kind reason replacementId) :=
  ⟨rfl, rfl, rfl, rfl⟩

omit [Digest] in
theorem FreshFrom.head {i n : Nat} (h : FreshFrom host i (n + 1) l.receipts) :
    host.newId "uofc" i ∉ l.receipts :=
  h.1 i (Nat.le_refl i) (by omega)

theorem reversalCorrections_corrected {expense : Expense} {snaps : List (Id × Json)} {i : Nat}
    {rs : List UseOfFundsReceipt} (hfresh : FreshFrom host i snaps.length l.receipts)
    (hstored : ∀ rid ∈ snaps.map Prod.fst, rid ∈ l.receipts)
    (h : Returns (reversalCorrections host expense actor reason i snaps) l rs l') :
    Corrected "REVERSAL" (snaps.map Prod.fst) l l' := by
  induction snaps generalizing i l rs with
  | nil =>
      obtain ⟨_, rfl⟩ := returns_pure.mp h
      exact .nil _ _
  | cons entry snaps ih =>
      obtain ⟨rid, snap⟩ := entry
      rw [reversalCorrections, returns_get_bind, returns_orRaise_bind] at h
      obtain ⟨prior, hprior, h⟩ := h
      obtain ⟨_, l₀, hcheck, h⟩ := returns_bind.mp h
      rw [(checkSnapshot_readOnly _ _).returns hcheck] at h
      obtain ⟨c, l₁, hpub, h⟩ := returns_bind.mp h
      obtain ⟨cs, l₂, hrest, h⟩ := returns_bind.mp h
      obtain ⟨_, rfl⟩ := returns_pure.mp h
      have hfresh' := hfresh.publish hpub
      obtain ⟨rfl, log, rfl⟩ := publishCorrectionReceipt_returns hpub
      have hstored' : ∀ rid ∈ snaps.map Prod.fst, rid ∈ l.receipts :=
        fun rid hrid => hstored rid (List.mem_cons_of_mem _ hrid)
      exact .cons hprior (correctionOf_correctionReceipt _ _ _ _ _ _ _ _) hfresh.head hstored'
        (ih hfresh' (fun rid hrid => Dict.mem_set.mpr (Or.inr (hstored' rid hrid))) hrest)

theorem supersedeCorrections_corrected {expense : Expense} {replacementId : Id} {rids : List Id}
    {i : Nat} {rs : List UseOfFundsReceipt} (hfresh : FreshFrom host i rids.length l.receipts)
    (hstored : ∀ rid ∈ rids, rid ∈ l.receipts)
    (h : Returns (supersedeCorrections host expense actor reason replacementId i rids) l rs l') :
    Corrected "SUPERSEDE" rids l l' := by
  induction rids generalizing i l rs with
  | nil =>
      obtain ⟨_, rfl⟩ := returns_pure.mp h
      exact .nil _ _
  | cons rid rids ih =>
      rw [supersedeCorrections, returns_get_bind, returns_orRaise_bind] at h
      obtain ⟨prior, hprior, h⟩ := h
      obtain ⟨c, l₁, hpub, h⟩ := returns_bind.mp h
      obtain ⟨cs, l₂, hrest, h⟩ := returns_bind.mp h
      obtain ⟨_, rfl⟩ := returns_pure.mp h
      have hfresh' := hfresh.publish hpub
      obtain ⟨rfl, log, rfl⟩ := publishCorrectionReceipt_returns hpub
      have hstored' : ∀ rid ∈ rids, rid ∈ l.receipts :=
        fun rid hrid => hstored rid (List.mem_cons_of_mem _ hrid)
      exact .cons hprior (correctionOf_correctionReceipt _ _ _ _ _ _ _ _) hfresh.head hstored'
        (ih hfresh' (fun rid hrid => Dict.mem_set.mpr (Or.inr (hstored' rid hrid))) hrest)

/-! ## What a call stores -/

/-- A reversal only stores receipts that attribute nothing. -/
theorem reverseExpense_adds_up (hkempt : Kempt l) (hlin : Lineage l)
    (hfresh : FreshDraws host "uofc" (l.receiptIdsOf expenseId).length l.receipts)
    {r : Expense × List UseOfFundsReceipt}
    (h : Returns (reverseExpense host expenseId actor reason) l r l') :
    NewReceiptsAddUp l l' := by
  obtain ⟨expense, snaps, log, hexp, hv, hids, hloop⟩ := reverseExpense_returns h
  have hstored : ∀ rid ∈ snaps.map Prod.fst, rid ∈ l.receipts := hids ▸ hlin.priorsStored expenseId
  rw [← hids, List.length_map] at hfresh
  have hcorrected : Corrected "REVERSAL" (snaps.map Prod.fst)
      { l.putExpense expenseId (correctedExpense expense .reversed reason) with
        auditLog := log } l' :=
    reversalCorrections_corrected hfresh.freshFrom hstored hloop
  intro rid c hnew hc
  obtain ⟨_, _, prior, _, hcorrects⟩ := hcorrected.only rid c hnew hc
  have hzero : c.attributedAmount = 0 := hcorrects.attributed
  have hnonneg := consumed_nonneg (l := l.putExpense expenseId
    (correctedExpense expense .reversed reason)) hkempt.1.pos prior.donationId prior.allocationId
  have hremaining := hcorrects.remaining
  rw [donorRemaining_eq] at hremaining
  rw [AddsUp, hzero, hcorrects.donation, hcorrects.allocation, hcorrected.books.designated,
    hremaining]
  show 0 + (_ - (l.putExpense expenseId
    (correctedExpense expense .reversed reason)).consumed _ _) ≤ _
  omega

/-- What a supersession stores adds up exactly when the other verified expenses
consume what each corrected receipt attributes. -/
theorem supersedeExpense_adds_up_iff {replacement : Expense} {splits : List (Id × Decimal.Amount)}
    {approvedBy : String} (hkempt : Kempt l) (hlin : Lineage l)
    (hfresh : FreshDraws host "uofc" (l.receiptIdsOf expenseId).length l.receipts)
    {r : Expense × Expense × List UseOfFundsReceipt}
    (h : Returns (supersedeExpense host expenseId replacement splits actor reason approvedBy) l r
      l') :
    NewReceiptsAddUp l l' ↔
      ∀ rid ∈ l.receiptIdsOf expenseId, OnSome (l.receipts.get? rid) fun prior =>
        prior.attributedAmount ≤ l.consumedBesides expenseId prior.donationId
          prior.allocationId := by
  obtain ⟨old, l₁, l₂, eas, approved, log, hold, hv, huntil, happ, hreplaced, hloop⟩ :=
    supersedeExpense_returns h
  have hreceipts : ({ l₂ with auditLog := log } : Ledger).receipts = l.receipts :=
    hreplaced.receipts
  rw [← hreceipts] at hfresh
  have hcorrected := supersedeCorrections_corrected hfresh.freshFrom
    (fun rid hrid => hreceipts ▸ hlin.priorsStored expenseId rid hrid) hloop
  have hsums : ∀ prior c, CorrectionOf { l₂ with auditLog := log } "SUPERSEDE" prior c →
      (AddsUp l' c ↔ prior.attributedAmount ≤
        l.consumedBesides expenseId prior.donationId prior.allocationId) := by
    intro prior c hcorrects
    have hattributed : c.attributedAmount = prior.attributedAmount := hcorrects.attributed
    rw [AddsUp, hattributed, hcorrects.donation, hcorrects.allocation, hcorrects.remaining,
      hcorrected.books.designated, donorRemaining_eq, hreplaced.consumed hkempt.1.refs,
      consumed_superseded]
    omega
  constructor
  · intro hall rid hrid
    obtain ⟨prior, cid, c, hprior, hnew, hc, hcorrects⟩ := hcorrected.each rid hrid
    rw [hreceipts] at hprior hnew
    exact onSome_iff.mpr ⟨prior, hprior, (hsums prior c hcorrects).mp (hall cid c hnew hc)⟩
  · intro hall cid c hnew hc
    rw [← hreceipts] at hnew
    obtain ⟨rid, hrid, prior, hprior, hcorrects⟩ := hcorrected.only cid c hnew hc
    rw [hreceipts] at hprior
    obtain ⟨p, hp, hle⟩ := onSome_iff.mp (hall rid hrid)
    obtain rfl := Option.some.inj (hprior.symm.trans hp)
    exact (hsums prior c hcorrects).mpr hle

/-- A publication states an attribution the remaining balance has subtracted. -/
theorem publishUseOfFundsReceipt_adds_up {donationId allocationId : Id} {createdAt : Option String}
    {receipt : UseOfFundsReceipt} (hkempt : Kempt l)
    (h : Returns (publishUseOfFundsReceipt host expenseId donationId allocationId actor createdAt)
      l receipt l') : NewReceiptsAddUp l l' := by
  have hreceipt := publishUseOfFundsReceipt_receipt h
  obtain ⟨attr, hattr, hamount, _⟩ := publishUseOfFundsReceipt_attribution h
  obtain ⟨_, hnew, _, hdonation, hexp, hallocation, _, hstate, log, rfl⟩ :=
    publishUseOfFundsReceipt_returns h
  have hremaining : receipt.remainingDesignatedBalance =
      l.donorRemainingOnAllocation donationId allocationId := by
    rw [publishedReceipt] at hreceipt
    split at hreceipt
    · rw [← Option.some.inj hreceipt]
      rfl
    · cases hreceipt
  have hle := le_consumed hkempt.1.pos hattr hstate
  intro rid c hrid hc
  have hc' : (l.receipts.set receipt.receiptId receipt).get? rid = some c := hc
  rw [Dict.get?_set] at hc'
  split at hc'
  · obtain rfl := Option.some.inj hc'
    rw [donorRemaining_eq] at hremaining
    rw [AddsUp, hamount, hdonation, hallocation, hremaining]
    show _ ≤ l.designated donationId allocationId
    omega
  · exact absurd (Dict.mem_of_get? hc') hrid

/-- A supersession that raises has stored no receipt. -/
theorem supersedeExpense_raises_receipts {replacement : Expense}
    {splits : List (Id × Decimal.Amount)} {approvedBy : String} {e : PyExc} (hlin : Lineage l)
    (hfresh : FreshDraws host "uofc" (l.receiptIdsOf expenseId).length l.receipts)
    (h : Raises (supersedeExpense host expenseId replacement splits actor reason approvedBy) l e
      l') : l'.receipts = l.receipts := by
  rcases supersedeExpense_run host l expenseId replacement splits actor reason approvedBy with
    ⟨_, hrefuses⟩ | ⟨old, hold, hv, hrun⟩
  · rw [← h.after, hrefuses.after]
  have hraises := hrun.symm.trans h
  rw [supersedeAfterFlip] at hraises
  rcases raises_raiseIf_bind.mp hraises with ⟨_, _, rfl⟩ | ⟨_, hraises⟩
  · rfl
  rcases raises_raiseIf_bind.mp hraises with ⟨_, _, rfl⟩ | ⟨_, hraises⟩
  · rfl
  rcases raises_bind.mp hraises with himp | ⟨_, l₁, himp, hraises⟩
  · rw [importExpense_atomic _ _ _ _ himp]
  obtain ⟨_, _, _, _, rfl, log, rfl⟩ := importExpense_returns himp
  rcases raises_bind.mp hraises with hall | ⟨eas, l₂, hall, hraises⟩
  · rw [allocateExpenseSplits_atomic _ _ _ _ _ hall]
  have hreceipts : l₂.receipts = l.receipts := by
    obtain ⟨_, _, _, _, _, _, _, _, log', rfl⟩ := allocateExpenseSplits_returns hall
    exact receipts_write (p := .classified replacement.id _ eas) rfl
  rcases raises_bind.mp hraises with happ | ⟨approved, l₃, happ, hraises⟩
  · rw [approveExpense_atomic _ _ _ _ _ happ, hreceipts]
  obtain ⟨_, _, _, _, _, _, _, _, _, log'', rfl⟩ := approveExpense_returns happ
  rcases raises_bind.mp hraises with haudit | ⟨_, l₄, haudit, hraises⟩
  · exact absurd haudit (audit_total _ _ _)
  have hreceipts₄ : l₄.receipts = l.receipts := by
    obtain ⟨_, rfl⟩ := returns_modify.mp haudit
    exact hreceipts
  -- the loop goes through, every receipt it corrects being stored
  have hstored : ∀ rid ∈ l.receiptIdsOf expenseId, rid ∈ l₄.receipts :=
    fun rid hrid => hreceipts₄ ▸ hlin.priorsStored expenseId rid hrid
  obtain ⟨cs, l₅, hloop⟩ := (supersedeCorrections_accepts_iff
    (correctedExpense old .superseded reason) actor reason replacement.id
    (hlin.drawsAvoid expenseId hfresh)).mpr hstored
  rcases raises_bind.mp hraises with hstuck | ⟨_, _, _, hpure⟩
  · exact absurd hstuck hloop.not_raises
  · exact absurd hpure not_raises_pure

theorem receipts_step {c : Call} (hc : corrects c.op = false)
    (hreceipt : ∀ p, Posting.of c.op p → p.isReceipt = false) :
    (step l c).receipts = l.receipts := by
  have hpost : step l c = l ∨ Post False (fun _ p => Posting.of c.op p) l (step l c) :=
    step_post hc False.elim
  rcases hpost with hsame | ⟨p, log, _, hof, heq⟩
  · rw [hsame]
  · rw [heq]
    exact receipts_write (hreceipt p hof)

/-- A call stores receipts that add up exactly when it is no supersession that
states an amount twice. -/
theorem step_adds_up_iff {c : Call} (hkempt : Kempt l) (hlin : Lineage l) (hfresh : FreshIds l c) :
    NewReceiptsAddUp l (step l c) ↔ SupersedesWithin l c := by
  obtain ⟨host, op⟩ := c
  cases op with
  | publishUseOfFundsReceipt expenseId donationId allocationId actor createdAt =>
      refine iff_of_true ?_ trivial
      rw [step, exec, after_map]
      rcases returns_or_raises (publishUseOfFundsReceipt host expenseId donationId allocationId
        actor createdAt) l with ⟨receipt, l', h⟩ | ⟨e, l', h⟩
      · exact h.after ▸ publishUseOfFundsReceipt_adds_up hkempt h
      · rw [h.after, publishUseOfFundsReceipt_atomic _ _ _ _ _ _ _ _ h]
        exact .of_receipts rfl
  | reverseExpense expenseId actor reason =>
      refine iff_of_true ?_ trivial
      rw [step, exec, after_map]
      rcases returns_or_raises (reverseExpense host expenseId actor reason) l with
        ⟨r, l', h⟩ | ⟨e, l', h⟩
      · exact h.after ▸ reverseExpense_adds_up hkempt hlin hfresh h
      · rw [h.after, reverseExpense_raises hlin hfresh h]
        exact .of_receipts rfl
  | supersedeExpense expenseId replacement splits actor reason approvedBy =>
      rw [step, exec, after_map]
      have haccepts := supersedeExpense_accepts_iff replacement actor reason approvedBy hfresh.2.1
        (hlin.drawsAvoid expenseId hfresh.2.2)
      rcases returns_or_raises (supersedeExpense host expenseId replacement splits actor reason
        approvedBy) l with ⟨r, l', h⟩ | ⟨e, l', h⟩
      · rw [h.after, supersedeExpense_adds_up_iff hkempt hlin hfresh.2.2 h]
        obtain ⟨hv, haccepted, _⟩ := haccepts.mp ⟨r, l', h⟩
        exact ⟨fun hall _ _ => hall, fun hall => hall hv haccepted⟩
      · rw [h.after]
        refine iff_of_true (.of_receipts (supersedeExpense_raises_receipts hlin hfresh.2.2 h)) ?_
        intro hv haccepted
        obtain ⟨r, l'', hret⟩ := haccepts.mpr ⟨hv, haccepted, hlin.priorsStored expenseId⟩
        exact absurd h hret.not_raises
  | _ =>
      refine iff_of_true (.of_receipts (receipts_step rfl fun p hof => ?_)) trivial
      cases p with
      | published _ _ => simp [Posting.of] at hof
      | correction _ _ _ => simp [Posting.of] at hof
      | _ => rfl

theorem lineage_step {c : Call} (hfresh : FreshIds l c) (h : Lineage l) : Lineage (step l c) := by
  have hwrites : Writes True (fun _ _ => True) l (step l c) :=
    step_writes (fun _ => hfresh) (approvalsMeet_true l c)
  exact hwrites.preserve (fun _ _ hw h => h.write hw) h

/-- In a run with fresh identifiers every receipt adds up at its creation,
exactly when every supersession of the run stays within what the other verified
expenses consume. -/
theorem receipts_add_up_iff {organization : Organization} {calls : List Call}
    (hfresh : Along step FreshIds (.new organization) calls) :
    Along step (fun l c => NewReceiptsAddUp l (step l c)) (.new organization) calls ↔
      Along step SupersedesWithin (.new organization) calls := by
  refine along_congr (I := fun l => Kempt l ∧ Lineage l)
    (fun l c hl hc => ⟨kempt_step hl.1 hc, lineage_step hc hl.2⟩)
    (fun l c hl hc => step_adds_up_iff hl.1 hl.2 hc)
    ⟨kempt_new organization, fun _ _ h => absurd h List.not_mem_nil⟩ hfresh

end Calls

section Sample

attribute [local instance] Digest.plain

theorem publishedRun_adds_up :
    Along step (fun l c => NewReceiptsAddUp l (step l c)) (.new Sample.organization)
      Sample.publishedRun :=
  (receipts_add_up_iff (by decide)).mpr (by decide)

/-- The receipt of 50.00 out of 100.00 is superseded: its correction attributes
50.00 and says that 100.00 remain. -/
theorem superseded_counted_twice : ¬ ∀ (organization : Organization) (calls : List Call),
    Along step FreshIds (.new organization) calls →
      Along step (fun l c => NewReceiptsAddUp l (step l c)) (.new organization) calls := by
  intro h
  have hfresh : Along step FreshIds (.new Sample.organization)
      (Sample.publishedRun ++ [Sample.supersessionCall]) := by decide
  have hlast := (along_append.mp (h _ _ hfresh)).2.1
  have hpast := along_append.mp hfresh
  have hkempt : Kempt (run step (.new Sample.organization) Sample.publishedRun) :=
    run_invariant (fun _ _ hl hc => kempt_step hl hc) (kempt_new _) hpast.1
  have hwithin := (step_adds_up_iff hkempt (lineage_run _ _) hpast.2.1).mp hlast
  exact absurd hwithin (by decide)

end Sample

end Ledger

end ImpactRelay
