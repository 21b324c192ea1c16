/-
# `Domain.LiveReceipts` — what a published receipt says, and the attribution behind it

A publication copies amount and method of the attribution on its triple.  Nothing
ties the two afterwards: `attribute_donor_to_expense` replaces the attribution of a
triple whether or not a receipt is out.  So a live receipt keeps its evidence
exactly as long as no attribution is replaced by a different one under it
(`evidence_kept_iff`); everything else that is done to the ledger leaves them in
agreement.
-/
import ImpactRelay.Domain.Classification

namespace ImpactRelay

open Raise

namespace ExpenseState

theorem Moves.settled {s s' : ExpenseState} (h : s.Moves s') (hs : s ∈ settledExpenseStates) :
    s' ∈ settledExpenseStates := by
  rcases h with rfl | hnext
  · exact hs
  · cases s <;> cases s' <;> revert hs hnext <;> decide

/-- What is verified after it was settled was verified before. -/
theorem Moves.verified {s s' : ExpenseState} (h : s.Moves s') (hs : s ∈ settledExpenseStates)
    (hs' : s' ∈ verifiedExpenseStates) : s ∈ verifiedExpenseStates := by
  rcases h with rfl | hnext
  · exact hs'
  · cases s <;> cases s' <;> revert hs hs' hnext <;> decide

end ExpenseState

namespace Ledger

variable {l l' : Ledger} {r : UseOfFundsReceipt}

/-! ## Live receipts -/

/-- An original receipt whose expense counts. -/
def LiveOriginal (l : Ledger) (r : UseOfFundsReceipt) : Prop :=
  r ∈ l.receipts.values ∧ r.corrected = false ∧
    l.expenseIn verifiedExpenseStates r.expenditureExpenseId = true

/-- The ledger holds the attribution that the receipt states. -/
def Evidenced (l : Ledger) (r : UseOfFundsReceipt) : Prop :=
  ∃ v ∈ l.attributions.values,
    v.onTriple r.donationId r.expenditureExpenseId r.allocationId = true ∧
      v.attributedAmount = r.attributedAmount ∧ v.method.value = r.attributionMethod

def EvidenceKept (l : Ledger) : Prop := ∀ r, LiveOriginal l r → Evidenced l r

/-- An accepted attribution on the triple of a live receipt says what the receipt says. -/
def RestatesLive (l : Ledger) (c : Call) : Prop :=
  match c.op with
  | .attributeDonorToExpense donorId donationId expenseId allocationId method amount attrId =>
      ∀ share ∈ attributionOf l
          (.attributeDonorToExpense donorId donationId expenseId allocationId method amount attrId),
        ∀ r ∈ l.receipts.values, r.corrected = false →
          l.expenseIn verifiedExpenseStates r.expenditureExpenseId = true →
          r.donationId = donationId ∧ r.expenditureExpenseId = expenseId ∧
            r.allocationId = allocationId →
          r.attributedAmount = share.amount ∧ r.attributionMethod = method.value
  | _ => True

instance (l : Ledger) (c : Call) : Decidable (RestatesLive l c) := by
  apply Op.casesOn (motive := fun op => Decidable (RestatesLive l ⟨c.host, op⟩)) c.op
  all_goals
    intros
    dsimp only [RestatesLive]
    infer_instance

/-- An original receipt is of an expense that was approved. -/
def ReceiptsSettled (l : Ledger) : Prop :=
  ∀ r ∈ l.receipts.values, r.corrected = false →
    ∃ x, l.expenses.get? r.expenditureExpenseId = some x ∧ x.state ∈ settledExpenseStates

/-! ## Postings -/

/-- The posting stores a receipt. -/
def Posting.isReceipt : Posting → Bool
  | published _ _ => true
  | correction _ _ _ => true
  | _ => false

theorem receipts_write {p : Posting} (h : p.isReceipt = false) :
    (p.write l).receipts = l.receipts := by
  cases p with
  | published expenseId receipt => exact nomatch h
  | correction expenseId prior receipt => exact nomatch h
  | classified expenseId expense eas =>
      rw [Posting.write, moveToApprovalPending]
      split <;> rfl
  | _ => rfl

theorem Posting.evolves {p : Posting} (hguard : p.guard True l) : Evolves l (p.write l) :=
  fun _ _ hx => p.movesTo hguard hx

theorem ReceiptsSettled.evolves (h : ReceiptsSettled l) (hmoves : Evolves l l')
    (hreceipts : l'.receipts = l.receipts) : ReceiptsSettled l' := by
  intro r hr horiginal
  rw [hreceipts] at hr
  obtain ⟨x, hx, hsettled⟩ := h r hr horiginal
  obtain ⟨x', hx', hmove⟩ := hmoves _ x hx
  exact ⟨x', hx', hmove.state.settled hsettled⟩

/-- An expense that counts after the step, of a receipt that was out, has counted before. -/
theorem LiveOriginal.before (hsettled : ReceiptsSettled l) (hmoves : Evolves l l')
    (hreceipts : l'.receipts = l.receipts) (h : LiveOriginal l' r) : LiveOriginal l r := by
  obtain ⟨hr, horiginal, hverified⟩ := h
  rw [hreceipts] at hr
  obtain ⟨x, hx, hstate⟩ := hsettled r hr horiginal
  obtain ⟨x', hx', hmove⟩ := hmoves _ x hx
  refine ⟨hr, horiginal, ?_⟩
  rw [expenseIn_of_get? hx'] at hverified
  rw [expenseIn_of_get? hx]
  exact decide_eq_true (hmove.state.verified hstate (of_decide_eq_true hverified))

theorem Evidenced.congr (h : Evidenced l r) (hattributions : l'.attributions = l.attributions) :
    Evidenced l' r := by
  rw [Evidenced, hattributions]
  exact h

theorem receiptsSettled_write {p : Posting} {log : List AuditReceipt} (hguard : p.guard True l)
    (h : ReceiptsSettled l) : ReceiptsSettled { p.write l with auditLog := log } := by
  cases hp : p.isReceipt with
  | false => exact h.evolves (p.evolves hguard) (receipts_write hp)
  | true =>
      intro r hr horiginal
      cases p with
      | published expenseId receipt =>
          rcases Dict.mem_values_set hr with rfl | hr
          · obtain ⟨-, -, hexp, hverified, -⟩ := hguard
            rw [expenseIn] at hverified
            split at hverified
            · cases hverified
            · rename_i x hx
              refine ⟨x, hexp ▸ hx, mem_settledExpenseStates.mpr (Or.inl ?_)⟩
              exact of_decide_eq_true hverified
          · exact h r hr horiginal
      | correction expenseId prior receipt =>
          rcases Dict.mem_values_set hr with rfl | hr
          · rw [hguard.2.1] at horiginal
            cases horiginal
          · exact h r hr horiginal
      | _ => cases hp

theorem evidenceKept_write {p : Posting} {log : List AuditReceipt} (hguard : p.guard True l)
    (hp : p.isAttribution = false) (hsettled : ReceiptsSettled l) (h : EvidenceKept l) :
    EvidenceKept { p.write l with auditLog := log } := by
  intro r hlive
  have hsame : (p.write l).attributions = l.attributions := attributions_write hp
  cases hreceipt : p.isReceipt with
  | false =>
      have hbefore := LiveOriginal.before hsettled (p.evolves hguard) (receipts_write hreceipt) hlive
      exact (h r hbefore).congr hsame
  | true =>
      obtain ⟨hr, horiginal, hverified⟩ := hlive
      cases p with
      | published expenseId receipt =>
          rcases Dict.mem_values_set hr with rfl | hr
          · obtain ⟨-, -, rfl, -, -, attr, hfind, hamount, hmethod⟩ := hguard
            exact ⟨attr, List.mem_of_find?_eq_some hfind, List.find?_some hfind, hamount.symm,
              hmethod.symm⟩
          · exact h r ⟨hr, horiginal, hverified⟩
      | correction expenseId prior receipt =>
          rcases Dict.mem_values_set hr with rfl | hr
          · rw [hguard.2.1] at horiginal
            exact nomatch horiginal
          · exact h r ⟨hr, horiginal, hverified⟩
      | _ => exact nomatch hreceipt

/-! ## Calls -/

section Calls

variable [Digest] {c : Call}

theorem receiptsSettled_step (hfresh : FreshIds l c) (h : ReceiptsSettled l) :
    ReceiptsSettled (step l c) := by
  have hposts : Posts True (fun _ p => Posting.of c.op p) l (step l c) := step_posts_of fun _ => hfresh
  refine hposts.preserve ?_ h
  rintro m m' ⟨p, log, hguard, -, rfl⟩ hm
  exact receiptsSettled_write hguard hm

/-- A call that is no attribution leaves every live receipt its evidence. -/
theorem evidenceKept_of_posts (hfresh : FreshIds l c)
    (hop : ∀ p, Posting.of c.op p → p.isAttribution = false) (hsettled : ReceiptsSettled l)
    (h : EvidenceKept l) : EvidenceKept (step l c) := by
  have hposts : Posts True (fun _ p => Posting.of c.op p) l (step l c) := step_posts_of fun _ => hfresh
  have hboth : ReceiptsSettled (step l c) ∧ EvidenceKept (step l c) := by
    refine hposts.preserve (P := fun m => ReceiptsSettled m ∧ EvidenceKept m) ?_ ⟨hsettled, h⟩
    rintro m m' ⟨p, log, hguard, hof, rfl⟩ ⟨hms, hme⟩
    exact ⟨receiptsSettled_write hguard hms, evidenceKept_write hguard (hop p hof) hms hme⟩
  exact hboth.2

omit [Digest] in
/-- What replaces the attribution of a triple is the only one on it. -/
theorem evidenced_replaced {donationId expenseId allocationId : Id} {attr : DonorExpenseAttribution}
    (hattributions : l'.attributions = (l.attributions.filter
      (fun v => !v.onTriple donationId expenseId allocationId)).set attr.id attr)
    (hnew : attr.id ∉ l.attributions)
    (htriple : attr.onTriple donationId expenseId allocationId = true) :
    Evidenced l' r ↔
      if r.donationId = donationId ∧ r.expenditureExpenseId = expenseId ∧
          r.allocationId = allocationId then
        r.attributedAmount = attr.attributedAmount ∧ r.attributionMethod = attr.method.value
      else Evidenced l r := by
  have hvalues : l'.attributions.values = l.attributions.values.filter
      (fun v => !v.onTriple donationId expenseId allocationId) ++ [attr] := by
    rw [hattributions, Dict.values_set_of_not_mem fun hmem => hnew (Dict.mem_of_mem_filter hmem),
      Dict.values_filter]
  rw [Evidenced, hvalues]
  split
  · rename_i hr
    obtain ⟨rfl, rfl, rfl⟩ := hr
    constructor
    · rintro ⟨v, hv, hon, hamount, hmethod⟩
      rcases List.mem_append.mp hv with hv | hv
      · have hoff := (List.mem_filter.mp hv).2
        rw [hon] at hoff
        cases hoff
      · obtain rfl := List.mem_singleton.mp hv
        exact ⟨hamount.symm, hmethod.symm⟩
    · rintro ⟨hamount, hmethod⟩
      exact ⟨attr, List.mem_append_right _ (List.mem_singleton.mpr rfl), htriple, hamount.symm,
        hmethod.symm⟩
  · rename_i hr
    have hoff : ∀ v : DonorExpenseAttribution,
        v.onTriple r.donationId r.expenditureExpenseId r.allocationId = true →
          v.onTriple donationId expenseId allocationId = false := by
      intro v hv
      cases hon : v.onTriple donationId expenseId allocationId with
      | false => rfl
      | true =>
          simp only [DonorExpenseAttribution.onTriple, Bool.and_eq_true, decide_eq_true_eq] at hv hon
          obtain ⟨⟨h₁, h₂⟩, h₃⟩ := hv
          obtain ⟨⟨h₁', h₂'⟩, h₃'⟩ := hon
          exact absurd ⟨h₁.symm.trans h₁', h₂.symm.trans h₂', h₃.symm.trans h₃'⟩ hr
    constructor
    · rintro ⟨v, hv, hon, hrest⟩
      rcases List.mem_append.mp hv with hv | hv
      · exact ⟨v, List.mem_of_mem_filter hv, hon, hrest⟩
      · obtain rfl := List.mem_singleton.mp hv
        rw [hoff v hon] at htriple
        cases htriple
    · rintro ⟨v, hv, hon, hrest⟩
      refine ⟨v, List.mem_append_left _ (List.mem_filter.mpr ⟨hv, ?_⟩), hon, hrest⟩
      rw [hoff v hon]
      rfl

/-- After a call every live receipt has its evidence exactly when the call does not replace
it by another. -/
theorem evidenceKept_step (hsettled : ReceiptsSettled l) (hfresh : FreshIds l c)
    (h : EvidenceKept l) : EvidenceKept (step l c) ↔ RestatesLive l c := by
  obtain ⟨host, op⟩ := c
  cases op with
  | attributeDonorToExpense donorId donationId expenseId allocationId method amount attrId =>
      rw [RestatesLive]
      rcases returns_or_raises (attributeDonorToExpense host donorId donationId expenseId
        allocationId method amount attrId) l with ⟨attr, l', hcall⟩ | ⟨exc, l', hcall⟩
      · have hamount := attributeDonorToExpense_amount hcall
        have haccepted := attributeDonorToExpense_accepts_iff.mp ⟨attr, l', hcall⟩
        have hafter := hcall.after
        obtain ⟨hid, htriple, hmethod, -, -, -, -, -, -, log, rfl⟩ :=
          attributeDonorToExpense_returns hcall
        have hnew : attr.id ∉ l.attributions := hid ▸ hfresh
        have hshare : attributionOf l (.attributeDonorToExpense donorId donationId expenseId
            allocationId method amount attrId) =
              some ⟨donationId, expenseId, allocationId, attr.attributedAmount⟩ := by
          simp only [attributionOf, hamount, if_pos haccepted]
        rw [step, exec, after_map, hafter]
        constructor
        · intro hkept share hsome r hr horiginal hverified hon
          rw [hshare] at hsome
          obtain rfl := Option.some.inj hsome
          have hevidenced := (evidenced_replaced rfl hnew htriple).mp
            (hkept r ⟨hr, horiginal, hverified⟩)
          rw [if_pos hon, hmethod] at hevidenced
          exact hevidenced
        · intro hrestates r hlive
          refine (evidenced_replaced rfl hnew htriple).mpr ?_
          split
          · rename_i hon
            rw [hmethod]
            exact hrestates _ hshare r hlive.1 hlive.2.1 hlive.2.2 hon
          · exact h r hlive
      · have hnot : ¬ AttributionAccepted l donorId donationId expenseId allocationId method
            amount := by
          intro haccepted
          obtain ⟨attr, l'', hreturns⟩ := attributeDonorToExpense_accepts_iff.mpr haccepted
          exact hreturns.not_raises hcall
        have hnone : attributionOf l (.attributeDonorToExpense donorId donationId expenseId
            allocationId method amount attrId) = none := by
          simp only [attributionOf, if_neg hnot]
          split <;> rfl
        rw [step, exec, after_map, hcall.after, attributeDonorToExpense_atomic _ _ _ _ _ _ _ _ _ _
          hcall]
        refine iff_of_true h fun share hsome => ?_
        rw [hnone] at hsome
        cases hsome
  | _ =>
      refine iff_of_true (evidenceKept_of_posts hfresh (fun p hof => ?_) hsettled h) trivial
      cases p with
      | attributed _ _ _ _ => simp [Posting.of] at hof
      | _ => rfl

/-- In every state of a run every live receipt has its evidence, exactly when no call of the
run attributes otherwise what a live receipt states. -/
theorem evidence_kept_iff {organization : Organization} {calls : List Call}
    (hfresh : Along step FreshIds (.new organization) calls) :
    (∀ past, past <+: calls → EvidenceKept (run step (.new organization) past)) ↔
      Along step RestatesLive (.new organization) calls :=
  forall_run_iff (P := EvidenceKept) (fun _ _ hsettled hfresh => receiptsSettled_step hfresh hsettled)
    (fun _ _ => evidenceKept_step) (fun _ hr => absurd hr List.not_mem_nil)
    (fun _ hlive => absurd hlive.1 List.not_mem_nil) hfresh

end Calls

section Sample

attribute [local instance] Digest.plain

/-- A receipt over 50.00 is published. -/
def Sample.evidencedRun : List Call := script (Sample.gift ++ [
  .importExpense (Sample.expense "expense" 5000),
  .allocateExpense "expense" "fund" (.finite 50 0) none,
  .approveExpense "expense" "human:finance",
  .attributeDonorToExpense "donor" "gift" "expense" "fund" .directRestricted none none,
  .publishUseOfFundsReceipt "expense" "gift" "fund" "human:finance" none])

theorem evidencedRun_kept :
    ((∀ past, past <+: Sample.evidencedRun →
        EvidenceKept (run step (.new Sample.organization) past)) ↔
      Along step RestatesLive (.new Sample.organization) Sample.evidencedRun) ∧
    Along step RestatesLive (.new Sample.organization) Sample.evidencedRun :=
  ⟨evidence_kept_iff (by decide), by decide⟩

/-- The attribution is lowered to 10.00 after the receipt is out. -/
def Sample.reattribution : Call where
  host := .numbered 10
  op := .attributeDonorToExpense "donor" "gift" "expense" "fund" .directRestricted
    (some (.finite 10 0)) none

theorem reattribution_contradicts : ¬ ∀ (organization : Organization) (calls : List Call),
    Along step FreshIds (.new organization) calls →
      EvidenceKept (run step (.new organization) calls) := by
  intro h
  have hkept := h Sample.organization (Sample.evidencedRun ++ [Sample.reattribution]) (by decide)
  have hlive : ∃ r ∈ (run step (.new Sample.organization)
      (Sample.evidencedRun ++ [Sample.reattribution])).receipts.values, r.corrected = false ∧
        (run step (.new Sample.organization) (Sample.evidencedRun ++
          [Sample.reattribution])).expenseIn verifiedExpenseStates r.expenditureExpenseId = true ∧
        ∀ v ∈ (run step (.new Sample.organization)
          (Sample.evidencedRun ++ [Sample.reattribution])).attributions.values,
          v.attributedAmount ≠ r.attributedAmount := by decide
  obtain ⟨r, hr, horiginal, hverified, hnone⟩ := hlive
  obtain ⟨v, hv, -, hamount, -⟩ := hkept r ⟨hr, horiginal, hverified⟩
  exact hnone v hv hamount

end Sample

end Ledger

end ImpactRelay
