/-
# `Domain.Amounts` — no amount outgrows the decimal context

Every record runs its amounts through `money` when it is constructed, and `money`
refuses more digits than the context has.  A receipt states a balance besides, the
designations less the verified attributions: it stays within the digits because a
donation is never designated beyond its amount, and the attributions were within a
designation when each of them was written.
-/
import ImpactRelay.Domain.LedgerLog
import ImpactRelay.Domain.Designations
import ImpactRelay.Domain.Attribution

namespace ImpactRelay

open Raise

/-! ## Digits -/

theorem Fits.of_le {a b : Int} (h : Fits b) (hnonneg : 0 ≤ a) (hle : a ≤ b) : Fits a := by
  have hb : b.natAbs < 10 ^ Decimal.precision := h
  show a.natAbs < 10 ^ Decimal.precision
  omega

theorem Fits.sub {a b : Int} (ha : Fits a) (hb : Fits b) (hnonneg : 0 ≤ a) (hnonneg' : 0 ≤ b) :
    Fits (a - b) := by
  have ha' : a.natAbs < 10 ^ Decimal.precision := ha
  have hb' : b.natAbs < 10 ^ Decimal.precision := hb
  show (a - b).natAbs < 10 ^ Decimal.precision
  omega

theorem fits_zero : Fits 0 := by decide

/-- What `money` returns has no more digits than the context. -/
theorem fits_of_money {value : Decimal.Amount} {cents : Int} (h : orderedMoney value = .ok cents) :
    Fits cents := by
  have hquantize := orderedMoney_ok.mp h
  cases value with
  | finite coeff exp =>
      rw [Decimal.quantize] at hquantize
      split at hquantize
      · rename_i hfit
        obtain rfl := Decimal.Quantized.cents.inj (Option.some.inj hquantize)
        exact hfit
      · cases hquantize
  | nan => cases Option.some.inj hquantize
  | _ => cases hquantize

namespace Ledger

variable {l l' : Ledger}

/-- The amounts of a receipt have no more digits than the context. -/
abbrev ReceiptFits (r : UseOfFundsReceipt) : Prop :=
  Fits r.grossAmount ∧ Fits r.attributedAmount ∧ Fits r.remainingDesignatedBalance

/-- The amounts are within the digits of the context, and so are the sums that a
receipt's balance is made of. -/
structure Sized (l : Ledger) : Prop where
  amounts : AmountsFit l
  designated : Designated l
  refs : ∀ v ∈ l.attributions.values, v.expenseId ∈ l.expenses
  pos : ∀ v ∈ l.attributions.values, 0 < v.attributedAmount
  claimed : ∀ donationId allocationId, Fits (l.activeAttributionTotal donationId allocationId none)

theorem Sized.new (organization : Organization) : Sized (.new organization) where
  amounts := ⟨fun _ h => absurd h List.not_mem_nil, fun _ h => absurd h List.not_mem_nil,
    fun _ h => absurd h List.not_mem_nil, fun _ h => absurd h List.not_mem_nil,
    fun _ h => absurd h List.not_mem_nil, fun _ h => absurd h List.not_mem_nil⟩
  designated := Designated.new organization
  refs _ h := absurd h List.not_mem_nil
  pos _ h := absurd h List.not_mem_nil
  claimed _ _ := fits_zero

theorem activeAttributionTotal_nonneg (hpos : ∀ v ∈ l.attributions.values, 0 < v.attributedAmount)
    (donationId allocationId : Id) (exclude : Option Id) :
    0 ≤ l.activeAttributionTotal donationId allocationId exclude :=
  Dict.sum_nonneg fun v hv => Int.le_of_lt (hpos v hv)

/-- What a donation has designated to a fund is part of its amount. -/
theorem Sized.designated_fits (h : Sized l) (donationId allocationId : Id) :
    0 ≤ l.designated donationId allocationId ∧ Fits (l.designated donationId allocationId) := by
  have hpos : ∀ da ∈ l.donationAllocations.values, 0 ≤ da.amount :=
    fun da hda => Int.le_of_lt (h.designated.pos da hda)
  have hnonneg : 0 ≤ l.designated donationId allocationId := Dict.sum_nonneg hpos
  refine ⟨hnonneg, ?_⟩
  cases hget : l.donations.get? donationId with
  | none =>
      have hzero : l.designated donationId allocationId = 0 := by
        refine Dict.sum_eq_zero fun da hda => ?_
        have hne : da.donationId ≠ donationId := fun heq =>
          Dict.get?_eq_none.mp hget (heq ▸ h.designated.donation da hda)
        simp [hne]
      exact hzero ▸ fits_zero
  | some donation =>
      have hle : l.designated donationId allocationId ≤ l.sumDonationAllocations donationId :=
        Dict.sum_le_sum hpos fun da _ hda => (Bool.and_eq_true_iff.mp hda).1
      have hfits : Fits donation.amount :=
        h.amounts.donations donation (Dict.mem_values.mpr ⟨donationId, hget⟩)
      exact hfits.of_le hnonneg (le_trans hle (h.designated.within donationId donation hget))

/-- The balance a receipt would state. -/
theorem Sized.donorRemaining_fits (h : Sized l) (donationId allocationId : Id) :
    Fits (l.donorRemainingOnAllocation donationId allocationId) := by
  obtain ⟨hnonneg, hfits⟩ := h.designated_fits donationId allocationId
  have hpos : ∀ v ∈ l.attributions.values, 0 ≤ v.attributedAmount :=
    fun v hv => Int.le_of_lt (h.pos v hv)
  have hle : l.attributions.sum
      (fun attr => decide (attr.donationId = donationId) &&
        decide (attr.allocationId = allocationId) &&
        l.expenseIn verifiedExpenseStates attr.expenseId) (·.attributedAmount) ≤
      l.activeAttributionTotal donationId allocationId none := by
    refine Dict.sum_le_sum hpos fun v _ hv => ?_
    simp only [Bool.and_eq_true] at hv ⊢
    exact ⟨⟨hv.1, rfl⟩, expenseActive_of_verified hv.2⟩
  exact hfits.sub ((h.claimed donationId allocationId).of_le (Dict.sum_nonneg hpos) hle) hnonneg
    (Dict.sum_nonneg hpos)

/-! ## Writes -/

theorem Sized.logged (h : Sized l) (log : List AuditReceipt) :
    Sized { l with auditLog := log } where
  amounts := ⟨h.amounts.donations, h.amounts.donationAllocations, h.amounts.expenses,
    h.amounts.expenseAllocations, h.amounts.attributions, h.amounts.receipts⟩
  designated := h.designated.congr rfl rfl
  refs := h.refs
  pos := h.pos
  claimed := h.claimed

theorem Sized.donor (h : Sized l) (donor : Donor) :
    Sized { l with donors := l.donors.set donor.id donor } where
  amounts := ⟨h.amounts.donations, h.amounts.donationAllocations, h.amounts.expenses,
    h.amounts.expenseAllocations, h.amounts.attributions, h.amounts.receipts⟩
  designated := h.designated.congr rfl rfl
  refs := h.refs
  pos := h.pos
  claimed := h.claimed

theorem Sized.allocation (h : Sized l) (allocation : Allocation) :
    Sized { l with allocations := l.allocations.set allocation.id allocation } where
  amounts := ⟨h.amounts.donations, h.amounts.donationAllocations, h.amounts.expenses,
    h.amounts.expenseAllocations, h.amounts.attributions, h.amounts.receipts⟩
  designated := h.designated.congr rfl rfl
  refs := h.refs
  pos := h.pos
  claimed := h.claimed

theorem Sized.evidence (h : Sized l) (evidence : EvidenceRecord) :
    Sized { l with evidence := l.evidence.set evidence.id evidence } where
  amounts := ⟨h.amounts.donations, h.amounts.donationAllocations, h.amounts.expenses,
    h.amounts.expenseAllocations, h.amounts.attributions, h.amounts.receipts⟩
  designated := h.designated.congr rfl rfl
  refs := h.refs
  pos := h.pos
  claimed := h.claimed

theorem Sized.donation (h : Sized l) {donation : Donation} (hfits : Fits donation.amount)
    (hpos : 0 < donation.amount) (hnew : donation.id ∉ l.donations) :
    Sized { l with donations := l.donations.set donation.id donation } where
  amounts := by
    refine ⟨fun v hv => ?_, h.amounts.donationAllocations, h.amounts.expenses,
      h.amounts.expenseAllocations, h.amounts.attributions, h.amounts.receipts⟩
    rcases Dict.mem_values_set hv with rfl | hv
    · exact hfits
    · exact h.amounts.donations v hv
  designated := h.designated.imported hpos hnew
  refs := h.refs
  pos := h.pos
  claimed := h.claimed

theorem Sized.designation (h : Sized l) {da : DonationAllocation} {donation : Donation}
    (hpos : 0 < da.amount) (hdonation : l.donations.get? da.donationId = some donation)
    (hcleared : donation.cleared = true)
    (hle : l.sumDonationAllocations da.donationId + da.amount ≤ donation.amount) :
    Sized { l with donationAllocations := l.donationAllocations.set da.id da } where
  amounts := by
    refine ⟨h.amounts.donations, fun v hv => ?_, h.amounts.expenses, h.amounts.expenseAllocations,
      h.amounts.attributions, h.amounts.receipts⟩
    rcases Dict.mem_values_set hv with rfl | hv
    · have halready : 0 ≤ l.sumDonationAllocations v.donationId :=
        Dict.sum_nonneg fun da hda => Int.le_of_lt (h.designated.pos da hda)
      have hfits : Fits donation.amount :=
        h.amounts.donations donation (Dict.mem_values.mpr ⟨v.donationId, hdonation⟩)
      exact hfits.of_le (Int.le_of_lt hpos) (by omega)
    · exact h.amounts.donationAllocations v hv
  designated := h.designated.designation hpos hdonation hcleared hle
  refs := h.refs
  pos := h.pos
  claimed := h.claimed

/-- Writing an expense that is not active unless it was. -/
theorem Sized.putExpense (h : Sized l) {expenseId : Id} {expense : Expense}
    (hfits : Fits expense.amount) (hactive : ∀ v ∈ l.attributions.values, v.expenseId = expenseId →
      l.expenseActive expenseId = true ∨ expense.state ∈ correctedExpenseStates) :
    Sized (l.putExpense expenseId expense) where
  amounts := by
    refine ⟨h.amounts.donations, h.amounts.donationAllocations, fun v hv => ?_,
      h.amounts.expenseAllocations, h.amounts.attributions, h.amounts.receipts⟩
    rcases Dict.mem_values_set hv with rfl | hv
    · exact hfits
    · exact h.amounts.expenses v hv
  designated := h.designated.congr rfl rfl
  refs v hv := Dict.mem_set.mpr (Or.inr (h.refs v hv))
  pos := h.pos
  claimed donationId allocationId := by
    have hnonneg : 0 ≤ (l.putExpense expenseId expense).activeAttributionTotal donationId
        allocationId none := activeAttributionTotal_nonneg (l := l.putExpense expenseId expense)
      h.pos donationId allocationId none
    refine (h.claimed donationId allocationId).of_le hnonneg ?_
    refine activeAttributionTotal_le h.pos rfl fun v hv hnew => ?_
    rw [expenseActive_putExpense] at hnew
    split at hnew
    · rename_i heq
      rcases hactive v hv heq with hold | hcorr
      · exact heq ▸ hold
      · simp [hcorr] at hnew
    · exact hnew

/-- An expense on its way to approval, and the approved one, were active before. -/
theorem expenseActive_of_open {expenseId : Id} {expense : Expense}
    (hexp : l.expenses.get? expenseId = some expense) (hopen : expense.state ∈
      [ExpenseState.draft, .imported, .classificationPending, .approvalPending, .approved]) :
    l.expenseActive expenseId = true := by
  rw [expenseActive_of_get? hexp]
  simp only [List.mem_cons, List.not_mem_nil, or_false] at hopen
  rcases hopen with hs | hs | hs | hs | hs <;> simp [hs]

theorem Sized.expense_fits (h : Sized l) {expenseId : Id} {expense : Expense}
    (hexp : l.expenses.get? expenseId = some expense) : Fits expense.amount :=
  h.amounts.expenses expense (Dict.mem_values.mpr ⟨expenseId, hexp⟩)

/-- Writing a stored expense again with its amount. -/
theorem Sized.changeExpense (h : Sized l) {expenseId : Id} {expense : Expense} (new : Expense)
    (hexp : l.expenses.get? expenseId = some expense) (hamount : new.amount = expense.amount)
    (hactive : l.expenseActive expenseId = true ∨ new.state ∈ correctedExpenseStates) :
    Sized (l.putExpense expenseId new) :=
  h.putExpense (hamount ▸ h.expense_fits hexp) fun _ _ _ => hactive

theorem Sized.classified (h : Sized l) {expenseId : Id} {expense : Expense}
    {eas : List ExpenseAllocation} (hexp : l.expenses.get? expenseId = some expense)
    (hfits : ∀ ea ∈ eas, Fits ea.amount) :
    Sized (moveToApprovalPending expenseId expense (replaceExpenseAllocations expenseId eas l)) := by
  have hea : Sized (replaceExpenseAllocations expenseId eas l) := by
    refine ⟨⟨h.amounts.donations, h.amounts.donationAllocations, h.amounts.expenses, fun v hv => ?_,
      h.amounts.attributions, h.amounts.receipts⟩, h.designated.congr rfl rfl, h.refs, h.pos,
      h.claimed⟩
    rcases Dict.mem_values_setAll hv with hv | hv
    · exact hfits v hv
    · rw [Dict.values_filter] at hv
      exact h.amounts.expenseAllocations v (List.mem_of_mem_filter hv)
  rw [moveToApprovalPending]
  split
  · rename_i hstate
    refine hea.changeExpense _ hexp rfl (Or.inl ?_)
    refine expenseActive_of_open (l := replaceExpenseAllocations expenseId eas l) hexp ?_
    simp only [List.mem_cons, List.not_mem_nil, or_false] at hstate ⊢
    rcases hstate with hs | hs | hs <;> simp [hs]
  · exact hea

theorem Sized.attributed (h : Sized l) {donationId expenseId allocationId : Id}
    {attr : DonorExpenseAttribution}
    (htriple : attr.onTriple donationId expenseId allocationId = true)
    (hexp : expenseId ∈ l.expenses) (hpos : 0 < attr.attributedAmount)
    (hsum : l.activeAttributionTotal donationId allocationId (some expenseId) +
      attr.attributedAmount ≤ l.designated donationId allocationId) :
    Sized { l with attributions := (l.attributions.filter
      (fun v => !v.onTriple donationId expenseId allocationId)).set attr.id attr } := by
  simp only [DonorExpenseAttribution.onTriple, Bool.and_eq_true, decide_eq_true_eq] at htriple
  obtain ⟨⟨rfl, rfl⟩, rfl⟩ := htriple
  obtain ⟨-, hfits⟩ := h.designated_fits attr.donationId attr.allocationId
  have hothers := activeAttributionTotal_nonneg h.pos attr.donationId attr.allocationId
    (some attr.expenseId)
  have hpos' : ∀ v ∈ ((l.attributions.filter (fun v => !v.onTriple attr.donationId attr.expenseId
      attr.allocationId)).set attr.id attr).values, 0 < v.attributedAmount := by
    intro v hv
    rcases mem_attributed hv with rfl | hv
    · exact hpos
    · exact h.pos v hv
  refine ⟨⟨h.amounts.donations, h.amounts.donationAllocations, h.amounts.expenses,
    h.amounts.expenseAllocations, fun v hv => ?_, h.amounts.receipts⟩, h.designated.congr rfl rfl,
    fun v hv => ?_, hpos', fun d a => ?_⟩
  · rcases mem_attributed hv with rfl | hv
    · exact hfits.of_le (Int.le_of_lt hpos) (by omega)
    · exact h.amounts.attributions v hv
  · rcases mem_attributed hv with rfl | hv
    · exact hexp
    · exact h.refs v hv
  · have hle := activeAttributionTotal_attributed h.pos hpos d a
    have hnonneg : 0 ≤ ({ l with attributions := (l.attributions.filter (fun v =>
        !v.onTriple attr.donationId attr.expenseId attr.allocationId)).set attr.id attr } :
        Ledger).activeAttributionTotal d a none :=
      Dict.sum_nonneg fun v hv => Int.le_of_lt (hpos' v hv)
    split at hle
    · rename_i hpair
      obtain ⟨rfl, rfl⟩ := hpair
      exact hfits.of_le hnonneg (le_trans hle hsum)
    · exact (h.claimed d a).of_le hnonneg hle

theorem Sized.storeReceipt (h : Sized l) {receipt : UseOfFundsReceipt} (expenseId : Id)
    (hfits : ReceiptFits receipt) : Sized (storeReceipt expenseId receipt l) := by
  refine ⟨⟨h.amounts.donations, h.amounts.donationAllocations, h.amounts.expenses,
    h.amounts.expenseAllocations, h.amounts.attributions, fun v hv => ?_⟩,
    h.designated.congr rfl rfl, h.refs, h.pos, h.claimed⟩
  rcases Dict.mem_values_set hv with rfl | hv
  · exact hfits
  · exact h.amounts.receipts v hv

/-! ## Methods -/

section Methods

variable [Digest] {host : Host}

omit [Digest] in
/-- Every parsed split went through `money`. -/
theorem parseSplits_fits {splits : List (Id × Decimal.Amount)} {parsed : List (Id × Int)}
    (h : parseSplits l splits = .ok parsed) : ∀ p ∈ parsed, Fits p.2 := by
  induction splits generalizing parsed with
  | nil =>
      obtain rfl := Except.ok.inj h
      exact fun p hp => absurd hp List.not_mem_nil
  | cons entry splits ih =>
      obtain ⟨allocationId, raw⟩ := entry
      rw [parseSplits] at h
      split at h
      · cases h
      split at h
      · cases h
      rename_i amt hamt
      split at h
      · cases h
      split at h
      · cases h
      rename_i rest hrest
      obtain rfl := Except.ok.inj h
      intro p hp
      rcases List.mem_cons.mp hp with rfl | hp
      · exact fits_of_money hamt
      · exact ih hrest p hp

theorem importExpense_sized {expense : Expense} (hfits : Fits expense.amount) :
    Preserves Sized (importExpense host expense) := by
  refine (importExpense_atomic expense).preserves fun l r l' hl h => ?_
  obtain ⟨-, -, hnew, -, -, log, rfl⟩ := importExpense_returns h
  refine (hl.putExpense hfits fun v hv heq => ?_).logged log
  exact absurd (heq ▸ hl.refs v hv) hnew

theorem allocateExpenseSplits_sized (expenseId : Id) (splits : List (Id × Decimal.Amount)) :
    Preserves Sized (allocateExpenseSplits host expenseId splits) := by
  refine (allocateExpenseSplits_atomic expenseId splits).preserves fun l eas l' hl h => ?_
  obtain ⟨expense, parsed, hexp, -, -, hparsed, -, rfl, log, rfl⟩ := allocateExpenseSplits_returns h
  refine (hl.classified hexp fun ea hea => ?_).logged log
  exact parseSplits_fits hparsed _ (mem_splitRecords hea).2

theorem approveExpense_sized (expenseId : Id) (approvedBy : String) :
    Preserves Sized (approveExpense host expenseId approvedBy) := by
  refine (approveExpense_atomic expenseId approvedBy).preserves fun l r l' hl h => ?_
  obtain ⟨expense, hexp, -, -, hstate, -, -, -, rfl, log, rfl⟩ := approveExpense_returns h
  have hactive : l.expenseActive expenseId = true := by
    refine expenseActive_of_open hexp ?_
    simp only [List.mem_cons, List.not_mem_nil, or_false] at hstate ⊢
    rcases hstate with hs | hs | hs <;> simp [hs]
  exact (hl.changeExpense { withExpenseState expense .approved with approvedBy := some approvedBy }
    hexp rfl (Or.inl hactive)).logged log

/-- What a published receipt states. -/
theorem publishUseOfFundsReceipt_amounts {expenseId donationId allocationId : Id} {actor : String}
    {createdAt : Option String} {receipt : UseOfFundsReceipt}
    (h : Returns (publishUseOfFundsReceipt host expenseId donationId allocationId actor createdAt)
      l receipt l') :
    (∃ expense, l.expenses.get? expenseId = some expense ∧ receipt.grossAmount = expense.amount) ∧
      (∃ attr ∈ l.attributions.values, receipt.attributedAmount = attr.attributedAmount) ∧
      receipt.remainingDesignatedBalance =
        l.donorRemainingOnAllocation donationId allocationId := by
  simp only [publishUseOfFundsReceipt, returns_requireExpense_bind, returns_raiseIf_bind,
    returns_requireDonation_bind, returns_requireAllocation_bind, returns_get_bind,
    returns_orRaise_bind, returns_raiseOn_bind, returns_allocationRemainingBalance_bind,
    returns_modify_bind, returns_audit_bind, returns_pure] at h
  obtain ⟨expense, hexp, _, _, _, _, _, attr, hattr, _, _, _, _, _, rfl, _⟩ := h
  exact ⟨⟨expense, hexp, rfl⟩, ⟨attr, List.mem_of_find?_eq_some hattr, rfl⟩, rfl⟩

theorem publishCorrectionReceipt_sized {i : Nat} {prior : UseOfFundsReceipt}
    (hprior : ReceiptFits prior) (expense : Expense) (actor kind reason : String)
    (replacementId : Option Id) : Preserves Sized
      (publishCorrectionReceipt host i prior expense actor kind reason replacementId) := by
  refine (publishCorrectionReceipt_total _ _ _ _ _ _ _).atomic.preserves fun l r l' hl h => ?_
  obtain ⟨rfl, log, rfl⟩ := publishCorrectionReceipt_returns h
  have hattributed : Fits (if kind = "REVERSAL" then 0 else prior.attributedAmount) := by
    split
    · exact fits_zero
    · exact hprior.2.1
  have hfits : ReceiptFits
      (correctionReceipt host l i prior expense actor kind reason replacementId) :=
    ⟨hprior.1, hattributed, hl.donorRemaining_fits prior.donationId prior.allocationId⟩
  exact (hl.storeReceipt expense.id hfits).logged log

omit [Digest] in
/-- One round of a correction loop: the prior receipt is one of the ledger's. -/
theorem correction_sized {α : Type} {rid : Id} {e : PyExc}
    {rest : UseOfFundsReceipt → LedgerM α}
    (hrest : ∀ prior, ReceiptFits prior → Preserves Sized (rest prior)) :
    Preserves Sized (do
      let l ← get
      let prior ← orRaise e (l.receipts.get? rid)
      rest prior) := by
  intro l hl
  rw [after_get_bind]
  cases hprior : l.receipts.get? rid with
  | none => exact hl
  | some prior =>
      exact hrest prior (hl.amounts.receipts prior (Dict.mem_values.mpr ⟨rid, hprior⟩)) l hl

theorem reversalCorrections_sized (expense : Expense) (actor reason : String)
    (snaps : List (Id × Json)) (i : Nat) :
    Preserves Sized (reversalCorrections host expense actor reason i snaps) := by
  induction snaps generalizing i with
  | nil => exact .pure _
  | cons entry snaps ih =>
      refine correction_sized fun prior hprior => ?_
      exact .bind ((checkSnapshot_readOnly _ _).preserves _) fun _ =>
        .bind (publishCorrectionReceipt_sized hprior _ _ _ _ _) fun _ => .bind (ih (i + 1))
        fun _ => .pure _

theorem supersedeCorrections_sized (expense : Expense) (actor reason : String)
    (replacementId : Id) (rids : List Id) (i : Nat) : Preserves Sized
      (supersedeCorrections host expense actor reason replacementId i rids) := by
  induction rids generalizing i with
  | nil => exact .pure _
  | cons rid rids ih =>
      refine correction_sized fun prior hprior => ?_
      exact .bind (publishCorrectionReceipt_sized hprior _ _ _ _ _) fun _ => .bind (ih (i + 1))
        fun _ => .pure _

theorem audit_sized (eventType entityType entityId actor : String) (payload : Json) :
    Preserves Sized (audit host eventType entityType entityId actor payload) :=
  .modify fun _ h => h.logged _

end Methods

end Ledger

/-! ## Calls -/

/-- The records a call brings were constructed: `money` has taken their amounts. -/
def Op.Constructed : Op → Prop
  | .importDonation donation => Fits donation.amount
  | .importExpense expense => Fits expense.amount
  | .supersedeExpense _ replacement _ _ _ _ => Fits replacement.amount
  | _ => True

instance (op : Op) : Decidable op.Constructed := by
  apply Op.casesOn (motive := fun op => Decidable (op.Constructed)) op
  all_goals
    intros
    dsimp only [Op.Constructed]
    infer_instance

namespace Ledger

variable [Digest] {l : Ledger}

theorem exec_sized {op : Op} (host : Host) (hop : op.Constructed) :
    Preserves Sized (exec host op) := by
  cases op with
  | registerDonor donor =>
      refine .map _ ((registerDonor_atomic donor).preserves fun l r l' hl h => ?_)
      obtain ⟨log, rfl⟩ := registerDonor_returns h
      exact (hl.donor donor).logged log
  | importDonation donation =>
      refine .map _ ((importDonation_atomic donation).preserves fun l r l' hl h => ?_)
      obtain ⟨hpos, hnew, -, log, rfl⟩ := importDonation_returns h
      exact (hl.donation hop hpos hnew).logged log
  | registerAllocation allocation =>
      refine .map _ ((registerAllocation_atomic allocation).preserves fun l r l' hl h => ?_)
      obtain ⟨log, rfl⟩ := registerAllocation_returns h
      exact (hl.allocation allocation).logged log
  | assignDonationAllocation donationId allocationId amount daId =>
      refine .map _ ((assignDonationAllocation_atomic _ _ _ _).preserves fun l da l' hl h => ?_)
      obtain ⟨-, rfl, rfl, -, hpos, -, ⟨donation, hdonation, hcleared, hle⟩, log, rfl⟩ :=
        assignDonationAllocation_returns h
      exact (hl.designation hpos hdonation hcleared hle).logged log
  | importExpense expense => exact .map _ (importExpense_sized hop)
  | attachEvidence evidence =>
      refine .map _ ((attachEvidence_atomic evidence).preserves fun l r l' hl h => ?_)
      obtain ⟨-, log, rfl⟩ := attachEvidence_returns h
      exact (hl.evidence evidence).logged log
  | allocateExpense expenseId allocationId amount eaId =>
      refine .map _ ((allocateExpense_atomic _ _ _ _).preserves fun l ea l' hl h => ?_)
      obtain ⟨-, -, -, -, -, hamount, expense, hexp, -, -, log, rfl⟩ := allocateExpense_returns h
      refine (hl.classified hexp fun ea' hea' => ?_).logged log
      exact List.mem_singleton.mp hea' ▸ fits_of_money hamount
  | allocateExpenseSplits expenseId splits =>
      exact .map _ (allocateExpenseSplits_sized expenseId splits)
  | approveExpense expenseId approvedBy => exact .map _ (approveExpense_sized expenseId approvedBy)
  | reconcileExpense expenseId actor =>
      refine .map _ ((reconcileExpense_atomic _ _).preserves fun l r l' hl h => ?_)
      obtain ⟨expense, hexp, hs, rfl, log, rfl⟩ := reconcileExpense_returns h
      have hactive : l.expenseActive expenseId = true :=
        expenseActive_of_open hexp (by rw [hs]; decide)
      exact (hl.changeExpense { withExpenseState expense .reconciled with
        reconciledAt := some (host.nowIso "reconciled" 0) } hexp rfl (Or.inl hactive)).logged log
  | attributeDonorToExpense donorId donationId expenseId allocationId method amount attrId =>
      refine .map _ ((attributeDonorToExpense_atomic _ _ _ _ _ _ _).preserves
        fun l attr l' hl h => ?_)
      obtain ⟨-, htriple, -, -, -, hexp, hpos, -, hsum, log, rfl⟩ :=
        attributeDonorToExpense_returns h
      exact (hl.attributed htriple hexp hpos hsum).logged log
  | publishUseOfFundsReceipt expenseId donationId allocationId actor createdAt =>
      refine .map _ ((publishUseOfFundsReceipt_atomic _ _ _ _ _).preserves fun l r l' hl h => ?_)
      obtain ⟨⟨expense, hexp, hgross⟩, ⟨attr, hattr, hamount⟩, hremaining⟩ :=
        publishUseOfFundsReceipt_amounts h
      obtain ⟨-, -, -, -, -, -, -, -, log, rfl⟩ := publishUseOfFundsReceipt_returns h
      refine (hl.storeReceipt expenseId ⟨?_, ?_, ?_⟩).logged log
      · exact hgross ▸ hl.expense_fits hexp
      · exact hamount ▸ hl.amounts.attributions attr hattr
      · exact hremaining ▸ hl.donorRemaining_fits donationId allocationId
  | getReceipt receiptId => exact .map _ ((getReceipt_readOnly _).preserves _)
  | getReceiptSnapshot receiptId => exact .map _ ((getReceiptSnapshot_readOnly _).preserves _)
  | reverseExpense expenseId actor reason =>
      refine .map _ fun l hl => ?_
      rcases reverseExpense_run host l expenseId actor reason with
        ⟨-, h⟩ | ⟨expense, snaps, log, hexp, -, -, -, hrun⟩
      · exact h.after.symm ▸ hl
      · rw [after_congr hrun, after_map]
        have hflip : Sized (l.putExpense expenseId (correctedExpense expense .reversed reason)) :=
          hl.changeExpense _ hexp rfl (Or.inr List.mem_cons_self)
        exact reversalCorrections_sized _ _ _ _ _ _ (hflip.logged log)
  | supersedeExpense expenseId replacement splits actor reason approvedBy =>
      refine .map _ fun l hl => ?_
      rcases supersedeExpense_run host l expenseId replacement splits actor reason approvedBy with
        ⟨-, h⟩ | ⟨old, hold, -, hrun⟩
      · exact h.after.symm ▸ hl
      · rw [after_congr hrun]
        have hflip : Sized (l.putExpense expenseId (correctedExpense old .superseded reason)) :=
          hl.changeExpense _ hold rfl (Or.inr (List.mem_cons_of_mem _ List.mem_cons_self))
        refine Preserves.bind (.raiseIf _ _) (fun _ => .bind (.raiseIf _ _) fun _ => ?_) _ hflip
        exact .bind (importExpense_sized hop) fun _ => .bind (allocateExpenseSplits_sized _ _)
          fun _ => .bind (approveExpense_sized _ _) fun _ => .bind (audit_sized _ _ _ _ _)
          fun _ => .bind (supersedeCorrections_sized _ _ _ _ _ _) fun _ => .pure _
  | mutateReceipt receiptId => exact .throw _
  | mutateApprovedExpense expenseId => exact (mutateApprovedExpense_readOnly _).preserves _
  | allocationRemainingBalance allocationId =>
      exact .map _ ((allocationRemainingBalance_readOnly _).preserves _)
  | donorRemainingOnAllocation donationId allocationId => exact .pure _

/-- In every ledger that calls with constructed records lead to. -/
theorem sized_run (organization : Organization) {calls : List Call}
    (hcalls : ∀ c ∈ calls, c.op.Constructed) : Sized (run step (.new organization) calls) := by
  refine run_invariant (fun l c hl hc => ?_) (Sized.new organization) (along_of_mem hcalls)
  exact exec_sized c.host hc l hl

end Ledger

end ImpactRelay
