/-
# `Domain.Shares` — what donors claim of an expense and what it charges

Attributing checks one donation's amount against the whole charge, never the
donations together, and classifying again looks at no attribution.  So two
statements about shares and charges hold of a run only as far as its calls see
to it, and this module says exactly how far:

  * `cost_claimed_once_iff` — the donations together claim at most the charge in
    every state of the run exactly when every call is `SharesFit`;
  * `receipt_backed` — a published amount is covered by the charge when every
    call is `KeepsCharge` for its triple.
-/
import ImpactRelay.Domain.Charges

namespace ImpactRelay

open Raise

namespace Ledger

variable {l l' : Ledger}

/-! ## The invariant both rest on -/

/-- Attributions name stored expenses and are positive, and so are charges. -/
structure Booked (l : Ledger) : Prop where
  refs : ∀ v ∈ l.attributions.values, v.expenseId ∈ l.expenses
  pos : ∀ ea ∈ l.expenseAllocations.values, 0 < ea.amount

theorem Booked.write {fit : Ledger → Id → Prop} (hw : Write True fit l l')
    (h : Attributed l ∧ Booked l) : Attributed l' ∧ Booked l' := by
  have hattr := h.1.write hw
  refine ⟨hattr, hattr.refs, ?_⟩
  cases hw with
  | classified expenseId expense eas _ _ _ heas _ =>
      have hpos : ∀ ea ∈ (replaceExpenseAllocations expenseId eas l).expenseAllocations.values,
          0 < ea.amount := by
        intro ea hea
        rcases Dict.mem_values_setAll hea with hea | hea
        · exact (heas ea hea).2.2
        · rw [Dict.values_filter] at hea
          exact h.2.pos ea (List.mem_of_mem_filter hea)
      rw [moveToApprovalPending]
      split <;> exact hpos
  | _ => exact h.2.pos

theorem Booked.expenseCharge_nonneg (h : Booked l) (expenseId allocationId : Id) :
    0 ≤ l.expenseCharge expenseId allocationId :=
  Dict.sum_nonneg fun ea hea => Int.le_of_lt (h.pos ea hea)

/-- What a run with fresh identifiers keeps of the two stores. -/
abbrev Kempt (l : Ledger) : Prop := Attributed l ∧ Booked l

theorem kempt_new (organization : Organization) : Kempt (.new organization) :=
  ⟨.new organization, fun _ h => absurd h List.not_mem_nil, fun _ h => absurd h List.not_mem_nil⟩

/-! ## All that is claimed of a charge -/

/-- The total attributed, over all donations, to an expense on a fund. -/
def attributedTo (l : Ledger) (expenseId allocationId : Id) : Int :=
  l.attributions.sum (fun v => decide (v.expenseId = expenseId) &&
    decide (v.allocationId = allocationId)) (·.attributedAmount)

/-- What is attributed where the share is, the share's own triple left out. -/
def attributedBesides (l : Ledger) (share : Share) : Int :=
  l.attributions.sum (fun v =>
    !v.onTriple share.donationId share.expenseId share.allocationId &&
      (decide (v.expenseId = share.expenseId) && decide (v.allocationId = share.allocationId)))
    (·.attributedAmount)

theorem attributedTo_congr (h : l'.attributions = l.attributions) (expenseId allocationId : Id) :
    l'.attributedTo expenseId allocationId = l.attributedTo expenseId allocationId := by
  rw [attributedTo, attributedTo, h]

theorem attributedTo_eq_zero {expenseId allocationId : Id}
    (h : ∀ v ∈ l.attributions.values, v.expenseId = expenseId → v.allocationId ≠ allocationId) :
    l.attributedTo expenseId allocationId = 0 := by
  refine Dict.sum_eq_zero fun v hv => ?_
  by_cases heq : v.expenseId = expenseId
  · rw [decide_eq_false (h v hv heq), Bool.and_false]
  · rw [decide_eq_false heq, Bool.false_and]

/-- The totals with a share in place of the one on its triple. -/
theorem attributedTo_replace {share : Share} {attr : DonorExpenseAttribution}
    (hnew : attr.id ∉ l.attributions)
    (htriple : attr.onTriple share.donationId share.expenseId share.allocationId = true)
    (hattr : l'.attributions = (l.attributions.filter (fun v =>
      !v.onTriple share.donationId share.expenseId share.allocationId)).set attr.id attr)
    (expenseId allocationId : Id) :
    l'.attributedTo expenseId allocationId =
      if expenseId = share.expenseId ∧ allocationId = share.allocationId then
        l.attributedBesides share + attr.attributedAmount
      else l.attributedTo expenseId allocationId := by
  simp only [DonorExpenseAttribution.onTriple, Bool.and_eq_true, decide_eq_true_eq] at htriple
  obtain ⟨⟨_, he⟩, ha⟩ := htriple
  have hnew' : attr.id ∉ l.attributions.filter (fun v =>
      !v.onTriple share.donationId share.expenseId share.allocationId) :=
    fun hm => hnew (Dict.mem_of_mem_filter hm)
  rw [attributedTo, hattr, Dict.sum_set_of_not_mem hnew', Dict.sum_filter, he, ha]
  by_cases hon : expenseId = share.expenseId ∧ allocationId = share.allocationId
  · obtain ⟨rfl, rfl⟩ := hon
    simp [attributedBesides]
  · rw [if_neg hon, if_neg, add_zero, attributedTo]
    · refine Dict.sum_congr fun v _ => ?_
      cases hp : decide (v.expenseId = expenseId) && decide (v.allocationId = allocationId) with
      | false => rw [Bool.and_false]
      | true =>
          -- what counts here is on another triple than the one replaced
          rw [Bool.and_true, Bool.not_eq_true', DonorExpenseAttribution.onTriple]
          simp only [Bool.and_eq_true, decide_eq_true_eq] at hp
          obtain ⟨rfl, rfl⟩ := hp
          by_cases h₁ : v.expenseId = share.expenseId
          · by_cases h₂ : v.allocationId = share.allocationId
            · exact absurd ⟨h₁, h₂⟩ hon
            · rw [decide_eq_false h₂, Bool.and_false]
          · rw [decide_eq_false h₁, Bool.and_false, Bool.false_and]
    · simp only [Bool.and_eq_true, decide_eq_true_eq]
      exact fun hp => hon ⟨hp.1.symm, hp.2.symm⟩

/-! ## The cost is claimed once -/

/-- Nobody's cost is claimed beyond what is charged. -/
def CostClaimedOnce (l : Ledger) : Prop :=
  ∀ expenseId allocationId, l.attributedTo expenseId allocationId ≤
    l.expenseCharge expenseId allocationId

/-- An accepted attribution fits beside those of the other donations, and an
accepted classification leaves a charge for what is attributed already. -/
def SharesFit (l : Ledger) (c : Call) : Prop :=
  (∀ share ∈ attributionOf l c.op, l.attributedBesides share + share.amount ≤
      l.expenseCharge share.expenseId share.allocationId) ∧
    ∀ p ∈ classificationOf l c.op, ∀ v ∈ l.attributions.values, v.expenseId = p.1 →
      l.attributedTo p.1 v.allocationId ≤ chargeOn p.2 v.allocationId

instance (l : Ledger) (c : Call) : Decidable (SharesFit l c) :=
  inferInstanceAs (Decidable (_ ∧ _))

theorem classificationOf_of_attribution {op : Op} {share : Share}
    (h : attributionOf l op = some share) : classificationOf l op = none := by
  cases op with
  | attributeDonorToExpense _ _ _ _ _ _ _ => rfl
  | _ => exact nomatch h

section Runs

variable [Digest] {c : Call}

theorem kempt_step (h : Kempt l) (hfresh : FreshIds l c) : Kempt (step l c) :=
  (step_writes (fun _ => hfresh) (approvalsMeet_true l c)).preserve
    (fun _ _ hw h => Booked.write hw h) h

/-- The charge, after a call, of an expense the ledger had. -/
theorem expenseCharge_step {e : Id} (hfresh : FreshIds l c) (he : e ∈ l.expenses)
    (allocationId : Id) : (step l c).expenseCharge e allocationId =
      match classificationOf l c.op with
      | some (expenseId, splits) =>
          if e = expenseId then chargeOn splits allocationId else l.expenseCharge e allocationId
      | none => l.expenseCharge e allocationId := by
  rw [← chargeOn_splitsOf, splitsOf_step hfresh he]
  cases classificationOf l c.op with
  | none => exact chargeOn_splitsOf l e allocationId
  | some p =>
      obtain ⟨expenseId, splits⟩ := p
      by_cases heq : e = expenseId
      · simp only [if_pos heq]
      · simp only [if_neg heq, chargeOn_splitsOf]

/-- An attribution moves one total; the charges stay. -/
theorem claimed_attribution {share : Share} {attr : DonorExpenseAttribution} (hl : Kempt l)
    (hfresh : FreshIds l c) (hshare : attributionOf l c.op = some share)
    (hnew : attr.id ∉ l.attributions)
    (htriple : attr.onTriple share.donationId share.expenseId share.allocationId = true)
    (hamount : attr.attributedAmount = share.amount) (hexp : share.expenseId ∈ l.expenses)
    (hattr : (step l c).attributions = (l.attributions.filter (fun v =>
      !v.onTriple share.donationId share.expenseId share.allocationId)).set attr.id attr)
    (h : CostClaimedOnce l) : CostClaimedOnce (step l c) ↔ SharesFit l c := by
  have hnone := classificationOf_of_attribution hshare
  have hcharge : ∀ e ∈ l.expenses, ∀ a, (step l c).expenseCharge e a = l.expenseCharge e a := by
    intro e he a
    rw [expenseCharge_step hfresh he, hnone]
  rw [SharesFit, hshare, hnone]
  constructor
  · intro hnext
    refine ⟨fun s hs => ?_, fun p hp => absurd hp (Option.not_mem_none p)⟩
    obtain rfl := Option.mem_some.mp hs
    have hle := hnext share.expenseId share.allocationId
    rw [attributedTo_replace hnew htriple hattr, if_pos ⟨rfl, rfl⟩, hamount,
      hcharge _ hexp] at hle
    exact hle
  · rintro ⟨hfit, _⟩ e a
    rw [attributedTo_replace hnew htriple hattr]
    split
    · next heq =>
        obtain ⟨rfl, rfl⟩ := heq
        rw [hamount, hcharge _ hexp]
        exact hfit share rfl
    · by_cases he : e ∈ l.expenses
      · rw [hcharge e he]
        exact h e a
      · have hzero : l.attributedTo e a = 0 :=
          attributedTo_eq_zero fun v hv heq => absurd (heq ▸ hl.2.refs v hv) he
        rw [hzero]
        exact (kempt_step hl hfresh).2.expenseCharge_nonneg e a

/-- A classification moves the charges of one expense; the totals stay. -/
theorem claimed_classification (hl : Kempt l) (hfresh : FreshIds l c)
    (hshare : attributionOf l c.op = none) (hattr : (step l c).attributions = l.attributions)
    (h : CostClaimedOnce l) : CostClaimedOnce (step l c) ↔ SharesFit l c := by
  rw [SharesFit, hshare]
  constructor
  · intro hnext
    refine ⟨fun s hs => absurd hs (Option.not_mem_none s), fun p hp v hv heq => ?_⟩
    have hle := hnext p.1 v.allocationId
    rw [attributedTo_congr hattr, expenseCharge_step hfresh (heq ▸ hl.2.refs v hv),
      Option.mem_def.mp hp] at hle
    simpa only [if_true] using hle
  · rintro ⟨_, hfit⟩ e a
    rw [attributedTo_congr hattr]
    by_cases hany : ∃ v ∈ l.attributions.values, v.expenseId = e ∧ v.allocationId = a
    · obtain ⟨v, hv, rfl, rfl⟩ := hany
      rw [expenseCharge_step hfresh (hl.2.refs v hv)]
      split
      · next expenseId splits hclass =>
          split
          · next heq => exact heq ▸ hfit (expenseId, splits) hclass v hv heq
          · exact h v.expenseId v.allocationId
      · exact h v.expenseId v.allocationId
    · have hzero : l.attributedTo e a = 0 :=
        attributedTo_eq_zero fun v hv he ha => hany ⟨v, hv, he, ha⟩
      rw [hzero]
      exact (kempt_step hl hfresh).2.expenseCharge_nonneg e a

theorem claimed_step (hl : Kempt l) (hfresh : FreshIds l c) (h : CostClaimedOnce l) :
    CostClaimedOnce (step l c) ↔ SharesFit l c := by
  rcases attributions_step hfresh with
    ⟨hnone, hattr⟩ | ⟨share, attr, hshare, hnew, htriple, hamount, hexp, _, _, hattr⟩
  · exact claimed_classification hl hfresh hnone hattr h
  · exact claimed_attribution hl hfresh hshare hnew htriple hamount hexp hattr h

/-- In a run with fresh record identifiers, what all donations together are
attributed of an expense on a fund is at most what the expense charges there, in
every state of the run, exactly when every call of the run lets the shares fit. -/
theorem cost_claimed_once_iff {organization : Organization} {calls : List Call}
    (hfresh : Along step FreshIds (.new organization) calls) :
    (∀ past, past <+: calls → ∀ expenseId allocationId,
        (run step (.new organization) past).attributedTo expenseId allocationId ≤
          (run step (.new organization) past).expenseCharge expenseId allocationId) ↔
      Along step SharesFit (.new organization) calls :=
  forall_run_iff (P := CostClaimedOnce) (fun _ _ hl hc => kempt_step hl hc)
    (fun _ _ hl hc h => claimed_step hl hc h) (kempt_new organization) (fun _ _ => le_refl _) hfresh

/-! ## A published amount is charged -/

/-- What is on record for a triple is covered by the charge. -/
def BackedOn (donationId expenseId allocationId : Id) (l : Ledger) : Prop :=
  ∀ v ∈ l.attributions.values, v.onTriple donationId expenseId allocationId = true →
    v.attributedAmount ≤ l.expenseCharge expenseId allocationId

omit [Digest] in
/-- An accepted classification of the expense leaves on the fund at least what
is on record for the triple. -/
def KeepsCharge (donationId expenseId allocationId : Id) (l : Ledger) (c : Call) : Prop :=
  ∀ p ∈ classificationOf l c.op, p.1 = expenseId → ∀ v ∈ l.attributions.values,
    v.onTriple donationId expenseId allocationId = true →
      v.attributedAmount ≤ chargeOn p.2 allocationId

instance (donationId expenseId allocationId : Id) (l : Ledger) (c : Call) :
    Decidable (KeepsCharge donationId expenseId allocationId l c) :=
  inferInstanceAs (Decidable (∀ p ∈ classificationOf l c.op, _))

theorem backedOn_step {donationId expenseId allocationId : Id} (hl : Kempt l)
    (hfresh : FreshIds l c) (hkeep : KeepsCharge donationId expenseId allocationId l c)
    (h : BackedOn donationId expenseId allocationId l) :
    BackedOn donationId expenseId allocationId (step l c) := by
  have hexpense : ∀ v : DonorExpenseAttribution,
      v.onTriple donationId expenseId allocationId = true → v.expenseId = expenseId := by
    intro v hv
    simp only [DonorExpenseAttribution.onTriple, Bool.and_eq_true, decide_eq_true_eq] at hv
    exact hv.1.2
  rcases attributions_step hfresh with
    ⟨_, hattr⟩ | ⟨share, attr, hshare, _, htriple, hamount, hexp, _, hle, hattr⟩
  · intro v hv hon
    rw [hattr] at hv
    rw [expenseCharge_step hfresh (hexpense v hon ▸ hl.2.refs v hv)]
    split
    · next e splits hclass =>
        split
        · next heq => exact hkeep (e, splits) hclass heq.symm v hv hon
        · exact h v hv hon
    · exact h v hv hon
  · intro v hv hon
    have hcharge : ∀ e ∈ l.expenses, (step l c).expenseCharge e allocationId =
        l.expenseCharge e allocationId := by
      intro e he
      rw [expenseCharge_step hfresh he, classificationOf_of_attribution hshare]
    rw [hattr] at hv
    rcases Dict.mem_values_set hv with rfl | hv
    · -- the new share was checked against this charge
      simp only [DonorExpenseAttribution.onTriple, Bool.and_eq_true, decide_eq_true_eq] at hon htriple
      obtain ⟨⟨_, rfl⟩, rfl⟩ := hon
      rw [← htriple.1.2] at hexp hle
      rw [← htriple.2] at hle
      rw [hcharge _ hexp, hamount]
      exact hle
    · rw [Dict.values_filter] at hv
      have hmem := List.mem_of_mem_filter hv
      rw [hcharge _ (hexpense v hon ▸ hl.2.refs v hmem)]
      exact h v hmem hon

/-- A publication states the amount that is on record, and changes no charge. -/
theorem published_share {host : Host} {expenseId donationId allocationId : Id} {actor : String}
    {createdAt : Option String} {receipt : UseOfFundsReceipt}
    (hpub : Returns (publishUseOfFundsReceipt host expenseId donationId allocationId actor
      createdAt) l receipt l') :
    ∃ attr, l.findAttribution donationId expenseId allocationId = some attr ∧
      receipt.attributedAmount = attr.attributedAmount ∧
      ∀ e a, l'.expenseCharge e a = l.expenseCharge e a := by
  obtain ⟨attr, hfind, hamount, _⟩ := publishUseOfFundsReceipt_attribution hpub
  obtain ⟨_, _, _, _, _, _, _, _, log, rfl⟩ := publishUseOfFundsReceipt_returns hpub
  exact ⟨attr, hfind, hamount, fun _ _ => rfl⟩

/-- In a run with fresh record identifiers whose classifications keep what is on
record for a triple, a publication for the triple that succeeds publishes at
most what the expense charges to the fund at that moment. -/
theorem receipt_backed {organization : Organization} {calls : List Call} {host : Host}
    {expenseId donationId allocationId : Id} {actor : String} {createdAt : Option String}
    {receipt : UseOfFundsReceipt} (hfresh : Along step FreshIds (.new organization) calls)
    (hkeep : Along step (KeepsCharge donationId expenseId allocationId) (.new organization) calls)
    (hpub : Returns (publishUseOfFundsReceipt host expenseId donationId allocationId actor
      createdAt) (run step (.new organization) calls) receipt l') :
    receipt.attributedAmount ≤ l'.expenseCharge expenseId allocationId := by
  have hbacked : Kempt (run step (.new organization) calls) ∧
      BackedOn donationId expenseId allocationId (run step (.new organization) calls) := by
    refine run_invariant (P := fun l => Kempt l ∧ BackedOn donationId expenseId allocationId l)
      (fun l c h hc => ?_) ⟨kempt_new organization, fun v hv => absurd hv List.not_mem_nil⟩
      (hfresh.and hkeep)
    exact ⟨kempt_step h.1 hc.1, backedOn_step h.1 hc.1 hc.2 h.2⟩
  obtain ⟨attr, hfind, hamount, hcharge⟩ := published_share hpub
  rw [hamount, hcharge]
  exact hbacked.2 attr (List.mem_of_find?_eq_some hfind) (List.find?_some hfind)

end Runs

section Sample

attribute [local instance] Digest.plain

theorem attributedRun_claimed_once :
    ((∀ past, past <+: Sample.attributedRun → ∀ expenseId allocationId,
        (run step (.new Sample.organization) past).attributedTo expenseId allocationId ≤
          (run step (.new Sample.organization) past).expenseCharge expenseId allocationId) ↔
      Along step SharesFit (.new Sample.organization) Sample.attributedRun) ∧
    Along step SharesFit (.new Sample.organization) Sample.attributedRun :=
  ⟨cost_claimed_once_iff (by decide), by decide⟩

/-- A second donor gives to the fund as much as the first. -/
def Sample.secondGift : List Op := [
  .registerDonor { id := "other", organizationId := "org", displayName := "Other" },
  .importDonation { Sample.donation with id := "gift2", donorId := "other" },
  .assignDonationAllocation "gift2" "fund" (.finite 100 0) none]

/-- Both donors are attributed the whole of an expense of 50.00. -/
def Sample.claimedTwiceRun : List Call := script (Sample.gift ++ Sample.secondGift ++ [
  .importExpense (Sample.expense "expense" 5000),
  .allocateExpense "expense" "fund" (.finite 50 0) none,
  .attributeDonorToExpense "donor" "gift" "expense" "fund" .directRestricted none none,
  .attributeDonorToExpense "other" "gift2" "expense" "fund" .directRestricted none none])

theorem cost_claimed_twice : ¬ ∀ (organization : Organization) (calls : List Call),
    Along step FreshIds (.new organization) calls → ∀ expenseId allocationId,
      (run step (.new organization) calls).attributedTo expenseId allocationId ≤
        (run step (.new organization) calls).expenseCharge expenseId allocationId := by
  intro h
  have hle := h Sample.organization Sample.claimedTwiceRun (by decide) "expense" "fund"
  exact absurd hle (by decide)

/-- The expense is attributed, approved and kept as it was classified. -/
def Sample.publishableRun : List Call := script (Sample.gift ++ [
  .importExpense (Sample.expense "expense" 5000),
  .allocateExpense "expense" "fund" (.finite 50 0) none,
  .attributeDonorToExpense "donor" "gift" "expense" "fund" .directRestricted none none,
  .approveExpense "expense" "human:finance"])

theorem publishableRun_backed : ∃ receipt l',
    Returns (publishUseOfFundsReceipt (.numbered 8) "expense" "gift" "fund" "system" none)
      (run step (.new Sample.organization) Sample.publishableRun) receipt l' ∧
    receipt.attributedAmount ≤ l'.expenseCharge "expense" "fund" := by
  obtain ⟨receipt, l', hpub⟩ : Accepts (publishUseOfFundsReceipt (.numbered 8) "expense" "gift"
      "fund" "system" none) (run step (.new Sample.organization) Sample.publishableRun) :=
    publishUseOfFundsReceipt_accepts_iff.mpr (by decide)
  exact ⟨receipt, l', hpub, receipt_backed (by decide) (by decide) hpub⟩

/-- After the attribution most of the expense is moved to another fund. -/
def Sample.reclassifiedRun : List Call := script (Sample.gift ++ Sample.secondGift.take 2 ++ [
  .registerAllocation { Sample.fund with id := "fund2" },
  .assignDonationAllocation "gift2" "fund2" (.finite 100 0) none,
  .importExpense (Sample.expense "expense" 5000),
  .allocateExpense "expense" "fund" (.finite 50 0) none,
  .attributeDonorToExpense "donor" "gift" "expense" "fund" .directRestricted none none,
  .allocateExpenseSplits "expense" [("fund", .finite 10 0), ("fund2", .finite 40 0)],
  .approveExpense "expense" "human:finance"])

theorem reclassified_unbacked : ¬ ∀ (organization : Organization) (calls : List Call)
    (host : Host) (expenseId donationId allocationId : Id) (actor : String)
    (createdAt : Option String) (receipt : UseOfFundsReceipt) (l' : Ledger),
    Along step FreshIds (.new organization) calls →
      Returns (publishUseOfFundsReceipt host expenseId donationId allocationId actor createdAt)
        (run step (.new organization) calls) receipt l' →
      receipt.attributedAmount ≤ l'.expenseCharge expenseId allocationId := by
  intro h
  have hfresh : Along step FreshIds (.new Sample.organization) Sample.reclassifiedRun := by decide
  -- 50.00 is on record where 10.00 is charged
  have hclaimed : (findAttribution (run step (.new Sample.organization) Sample.reclassifiedRun)
      "gift" "expense" "fund").map (·.attributedAmount) = some 5000 := by decide
  have hcharged : (run step (.new Sample.organization) Sample.reclassifiedRun).expenseCharge
      "expense" "fund" = 1000 := by decide
  obtain ⟨receipt, l', hpub⟩ : Accepts (publishUseOfFundsReceipt (.numbered 20) "expense" "gift"
      "fund" "system" none) (run step (.new Sample.organization) Sample.reclassifiedRun) :=
    publishUseOfFundsReceipt_accepts_iff.mpr (by decide)
  obtain ⟨attr, hfind, hamount, hcharge⟩ := published_share hpub
  rw [hfind] at hclaimed
  have hshare : receipt.attributedAmount = 5000 := hamount.trans (Option.some.inj hclaimed)
  have hcharge' : l'.expenseCharge "expense" "fund" = 1000 := (hcharge "expense" "fund").trans hcharged
  have hle := h Sample.organization Sample.reclassifiedRun (.numbered 20) "expense" "gift" "fund"
    "system" none receipt l' hfresh hpub
  rw [hshare, hcharge'] at hle
  exact absurd hle (by decide)

end Sample

end Ledger

end ImpactRelay
