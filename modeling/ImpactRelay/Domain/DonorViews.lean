/-
# `Domain.DonorViews` — the donor's balances, and the ledger's

`DonorReadService.allocation_balances` groups by donor: it adds up the
designations of all the donor's donations, fund by fund, and filters the
attributions by their donor.  The ledger's own balance filters by donation.
The two agree because an attribution names the donor of its donation
(`OwnBooks`): the donor's attributions are those of the donor's donations, each
of them once.
-/
import ImpactRelay.Domain.LiveReceipts
import ImpactRelay.Domain.Restitution

namespace ImpactRelay

open Raise Relation

structure AllocationBalanceView where
  allocationId : Id
  allocationName : String
  restrictionType : String
  designatedTotal : Int
  used : Int
  remaining : Int
  pendingUnreconciled : Int
deriving DecidableEq, Repr

def AllocationBalanceView.toDict (v : AllocationBalanceView) : Json :=
  .obj [
    ("allocation_id", .str v.allocationId),
    ("allocation_name", .str v.allocationName),
    ("restriction_type", .str v.restrictionType),
    ("designated_total", .str (Decimal.toStr v.designatedTotal)),
    ("used", .str (Decimal.toStr v.used)),
    ("remaining", .str (Decimal.toStr v.remaining)),
    ("pending_unreconciled", .str (Decimal.toStr v.pendingUnreconciled))]

/-! ## The read service -/

namespace DonorReadService

variable (ledger : Ledger)

def requireDonor (donorId : Id) : Except PyExc Unit :=
  match ledger.donors.get? donorId with
  | none => .error (notFoundError s!"donor not found: {donorId}")
  | some donor =>
      if donor.organizationId ≠ ledger.organization.id then
        .error (notFoundError s!"donor not found: {donorId}")
      else .ok ()

/-- `designated[a] = designated.get(a, Decimal("0.00")) + da.amount`. -/
def addDesignation (designated : Dict Id Int) (da : DonationAllocation) : Dict Id Int :=
  designated.set da.allocationId
    (Decimal.add ((designated.get? da.allocationId).getD 0) da.amount)

/-- The inner loop: the designations of one donation. -/
def designate (designated : Dict Id Int) (don : Donation) : Dict Id Int :=
  (ledger.donationAllocations.values.filter (fun da => da.donationId = don.id)).foldl
    addDesignation designated

def donationsOf (donorId : Id) : List Donation :=
  ledger.donations.values.filter (fun don => don.donorId = donorId)

/-- The fund totals of all donations of the donor. -/
def designatedTotals (donorId : Id) : Dict Id Int :=
  (donationsOf ledger donorId).foldl (designate ledger) .empty

/-- The donor's attributions on a fund, of the expenses that `counts` picks. -/
def amountsOn (donorId allocationId : Id) (counts : Id → Bool) : List Int :=
  (ledger.attributions.values.filter fun attr =>
    attr.donorId = donorId && attr.allocationId = allocationId && counts attr.expenseId).map
    (·.attributedAmount)

def usedAmounts (donorId allocationId : Id) : List Int :=
  amountsOn ledger donorId allocationId (ledger.expenseIn verifiedExpenseStates)

/-- What waits for its expense to be verified. -/
def pendingAmounts (donorId allocationId : Id) : List Int :=
  amountsOn ledger donorId allocationId fun e =>
    !ledger.expenseIn verifiedExpenseStates e && ledger.expenseActive e

/-- The sums are finite, so `money` has cents or raises. -/
def balanceView (donorId allocationId : Id) (total : Int) (alloc : Allocation) :
    Except PyExc AllocationBalanceView := do
  let used := Decimal.total (usedAmounts ledger donorId allocationId)
  let pending := Decimal.total (pendingAmounts ledger donorId allocationId)
  let remaining ← orderedMoney (Decimal.ofCents (Decimal.sub total used))
  let designatedTotal ← orderedMoney (Decimal.ofCents total)
  let used ← orderedMoney (Decimal.ofCents used)
  let pendingUnreconciled ← orderedMoney (Decimal.ofCents pending)
  return {
    allocationId
    allocationName := alloc.name
    restrictionType := alloc.restrictionType.value
    designatedTotal, used, remaining, pendingUnreconciled }

/-- The loop over the sorted totals; `self.ledger.allocations[allocation_id]` may
raise. -/
def balanceViews (donorId : Id) : List (Id × Int) → Except PyExc (List AllocationBalanceView)
  | [] => .ok []
  | (allocationId, total) :: rest =>
      match ledger.allocations.get? allocationId with
      | none => .error (keyError allocationId)
      | some alloc => do
          let view ← balanceView ledger donorId allocationId total alloc
          let views ← balanceViews donorId rest
          return view :: views

def allocationBalances (donorId : Id) : Except PyExc (List AllocationBalanceView) := do
  requireDonor ledger donorId
  balanceViews ledger donorId
    ((designatedTotals ledger donorId).entries.mergeSort fun a b => decide (a.1 ≤ b.1))

end DonorReadService

/-! ## The totals by fund -/

namespace DonorReadService

variable {ledger : Ledger}

theorem mem_foldl_addDesignation {a : Id} {das : List DonationAllocation} {d : Dict Id Int} :
    a ∈ das.foldl addDesignation d ↔ a ∈ d ∨ ∃ da ∈ das, da.allocationId = a := by
  induction das generalizing d with
  | nil => simp
  | cons da das ih =>
      rw [List.foldl_cons, ih, addDesignation, Dict.mem_set]
      simp only [List.mem_cons, exists_eq_or_imp, eq_comm (a := a)]
      tauto

theorem getD_foldl_addDesignation (a : Id) {das : List DonationAllocation} {d : Dict Id Int} :
    ((das.foldl addDesignation d).get? a).getD 0 =
      ((das.filter (fun da => da.allocationId = a)).map (·.amount)).foldl Decimal.add
        ((d.get? a).getD 0) := by
  induction das generalizing d with
  | nil => simp
  | cons da das ih =>
      rw [List.foldl_cons, ih, addDesignation, Dict.get?_set]
      by_cases heq : a = da.allocationId
      · subst heq
        simp
      · simp [heq, Ne.symm heq]

/-- What a donation designates to a fund, one after the other. -/
def designatedAmounts (ledger : Ledger) (donationId a : Id) : List Int :=
  (ledger.donationAllocations.values.filter fun da =>
    da.donationId = donationId && da.allocationId = a).map (·.amount)

theorem getD_designate (a : Id) (don : Donation) (d : Dict Id Int) :
    ((designate ledger d don).get? a).getD 0 =
      (designatedAmounts ledger don.id a).foldl Decimal.add ((d.get? a).getD 0) := by
  rw [designate, getD_foldl_addDesignation, List.filter_filter, designatedAmounts]
  simp only [Bool.and_comm]

/-- The designations of all the donor's donations to a fund. -/
def givenAmounts (ledger : Ledger) (donorId a : Id) : List Int :=
  (donationsOf ledger donorId).flatMap fun don => designatedAmounts ledger don.id a

theorem getD_designatedTotals (donorId a : Id) :
    ((designatedTotals ledger donorId).get? a).getD 0 =
      Decimal.total (givenAmounts ledger donorId a) := by
  have hfold : ∀ (dons : List Donation) (d : Dict Id Int),
      ((dons.foldl (designate ledger) d).get? a).getD 0 =
        (dons.flatMap fun don => designatedAmounts ledger don.id a).foldl Decimal.add
          ((d.get? a).getD 0) := by
    intro dons
    induction dons with
    | nil => simp
    | cons don dons ih =>
        intro d
        rw [List.foldl_cons, ih, getD_designate, List.flatMap_cons, List.foldl_append]
  rw [designatedTotals, hfold, Dict.get?_empty, Option.getD_none, givenAmounts, Decimal.total]

theorem sum_givenAmounts (donorId a : Id) :
    (givenAmounts ledger donorId a).sum =
      ((donationsOf ledger donorId).map fun don => ledger.designated don.id a).sum := by
  rw [givenAmounts, List.flatMap_def, List.sum_flatten, List.map_map]
  rfl

/-! ## Sums within the context -/

/-- The donor's designations to a fund, and the attributions on it, add up to no more digits
than the context has. -/
def TotalsFit (ledger : Ledger) (donorId a : Id) : Prop :=
  (givenAmounts ledger donorId a).sum < 10 ^ Decimal.precision ∧
    (usedAmounts ledger donorId a).sum < 10 ^ Decimal.precision ∧
    (pendingAmounts ledger donorId a).sum < 10 ^ Decimal.precision

instance (donorId a : Id) : Decidable (TotalsFit ledger donorId a) :=
  inferInstanceAs (Decidable (_ ∧ _))

theorem amountsOn_nonneg (h : ledger.Positive) {donorId a : Id} {counts : Id → Bool} :
    ∀ amount ∈ amountsOn ledger donorId a counts, 0 ≤ amount := by
  intro amount hamount
  obtain ⟨attr, hattr, rfl⟩ := List.mem_map.mp hamount
  exact (h.attributed attr (List.mem_of_mem_filter hattr)).le

theorem givenAmounts_nonneg (h : ledger.Positive) {donorId a : Id} :
    ∀ amount ∈ givenAmounts ledger donorId a, 0 ≤ amount := by
  intro amount hamount
  obtain ⟨don, _, hamount⟩ := List.mem_flatMap.mp hamount
  obtain ⟨da, hda, rfl⟩ := List.mem_map.mp hamount
  exact (h.given da (List.mem_of_mem_filter hda)).le

/-- Where the sums fit, the view of a fund is made, to the cent. -/
theorem balanceView_ok (h : ledger.Positive) {donorId a : Id} (hfit : TotalsFit ledger donorId a)
    (alloc : Allocation) : ∃ v,
      balanceView ledger donorId a (Decimal.total (givenAmounts ledger donorId a)) alloc = .ok v ∧
        v.allocationId = a ∧ v.designatedTotal = (givenAmounts ledger donorId a).sum ∧
        v.used = (usedAmounts ledger donorId a).sum ∧
        v.remaining = v.designatedTotal - v.used := by
  obtain ⟨hgiven, hused, hpending⟩ := hfit
  have hgiven₀ : 0 ≤ (givenAmounts ledger donorId a).sum := List.sum_nonneg (givenAmounts_nonneg h)
  have hused₀ : 0 ≤ (usedAmounts ledger donorId a).sum := List.sum_nonneg (amountsOn_nonneg h)
  have hpending₀ : 0 ≤ (pendingAmounts ledger donorId a).sum :=
    List.sum_nonneg (amountsOn_nonneg h)
  have hdiff : Fits ((givenAmounts ledger donorId a).sum - (usedAmounts ledger donorId a).sum) :=
    Decimal.fits_iff.mpr ⟨by omega, by omega⟩
  have husedTotal : Decimal.total (usedAmounts ledger donorId a) =
      (usedAmounts ledger donorId a).sum := Decimal.total_of_lt (amountsOn_nonneg h) hused
  have hpendingTotal : Decimal.total (pendingAmounts ledger donorId a) =
      (pendingAmounts ledger donorId a).sum := Decimal.total_of_lt (amountsOn_nonneg h) hpending
  rw [balanceView, Decimal.total_of_lt (givenAmounts_nonneg h) hgiven, husedTotal, hpendingTotal,
    Decimal.sub, Decimal.fit_of_fits hdiff,
    orderedMoney_ofCents hdiff, orderedMoney_ofCents (Decimal.fits_of_nonneg hgiven₀ hgiven),
    orderedMoney_ofCents (Decimal.fits_of_nonneg hused₀ hused),
    orderedMoney_ofCents (Decimal.fits_of_nonneg hpending₀ hpending)]
  exact ⟨_, rfl, rfl, rfl, rfl, rfl⟩

/-- The funds the donor's donations are designated to. -/
def DesignatesTo (ledger : Ledger) (donorId a : Id) : Prop :=
  ∃ don ∈ ledger.donations.values, don.donorId = donorId ∧
    ∃ da ∈ ledger.donationAllocations.values, da.donationId = don.id ∧ da.allocationId = a

theorem mem_designatedTotals {donorId a : Id} :
    a ∈ designatedTotals ledger donorId ↔ DesignatesTo ledger donorId a := by
  have hfold : ∀ (dons : List Donation) (d : Dict Id Int),
      a ∈ dons.foldl (designate ledger) d ↔ a ∈ d ∨ ∃ don ∈ dons,
        ∃ da ∈ ledger.donationAllocations.values, da.donationId = don.id ∧ da.allocationId = a := by
    intro dons
    induction dons with
    | nil => simp
    | cons don dons ih =>
        intro d
        rw [List.foldl_cons, ih, designate, mem_foldl_addDesignation]
        simp only [List.mem_filter, decide_eq_true_eq, List.mem_cons, exists_eq_or_imp, or_assoc,
          and_assoc]
  rw [designatedTotals, hfold]
  simp only [Dict.not_mem_empty, false_or, donationsOf, List.mem_filter, decide_eq_true_eq,
    and_assoc, DesignatesTo]

/-- A view with the sums of its fund. -/
structure Sums (ledger : Ledger) (donorId : Id) (v : AllocationBalanceView) : Prop where
  designatedTotal : v.designatedTotal = (givenAmounts ledger donorId v.allocationId).sum
  used : v.used = (usedAmounts ledger donorId v.allocationId).sum
  remaining : v.remaining = v.designatedTotal - v.used

theorem balanceViews_ok (h : ledger.Positive) (donorId : Id) {totals : List (Id × Int)}
    (htotals : ∀ e ∈ totals, e.1 ∈ ledger.allocations ∧
      e.2 = Decimal.total (givenAmounts ledger donorId e.1) ∧ TotalsFit ledger donorId e.1) :
    ∃ views, balanceViews ledger donorId totals = .ok views ∧
      views.map (·.allocationId) = totals.map Prod.fst ∧ ∀ v ∈ views, Sums ledger donorId v := by
  induction totals with
  | nil => exact ⟨[], rfl, rfl, fun v hv => absurd hv List.not_mem_nil⟩
  | cons e totals ih =>
      obtain ⟨a, total⟩ := e
      obtain ⟨⟨hreg, htotal, hfit⟩, htotals⟩ := List.forall_mem_cons.mp htotals
      obtain ⟨views, hviews, hids, hall⟩ := ih htotals
      obtain ⟨alloc, halloc⟩ := Dict.mem_iff_get?.mp hreg
      obtain ⟨v, hv, rfl, hdesignated, hused, hremaining⟩ := balanceView_ok h hfit alloc
      refine ⟨v :: views, ?_, ?_, ?_⟩
      · rw [balanceViews, halloc, show total = _ from htotal]
        simp only [hv, hviews]
        rfl
      · rw [List.map_cons, hids]
        rfl
      · exact List.forall_mem_cons.mpr ⟨⟨hdesignated, hused, hremaining⟩, hall⟩

end DonorReadService

namespace Ledger

variable {l l' : Ledger} {host : Host}

/-! ## Whose records they are -/

/-- Donors are of the organization, donations are stored under their ids, an
attribution names the donor of its donation, and a designation a registered fund. -/
structure OwnBooks (l : Ledger) : Prop where
  donor : ∀ k donor, l.donors.get? k = some donor → donor.organizationId = l.organization.id
  donation : ∀ k don, l.donations.get? k = some don → don.id = k
  attribution : ∀ v ∈ l.attributions.values, ∃ don,
    l.donations.get? v.donationId = some don ∧ don.donorId = v.donorId
  designation : ∀ da ∈ l.donationAllocations.values, da.allocationId ∈ l.allocations

theorem OwnBooks.new (organization : Organization) : OwnBooks (.new organization) where
  donor := fun _ _ h => nomatch h
  donation := fun _ _ h => nomatch h
  attribution := fun _ h => absurd h List.not_mem_nil
  designation := fun _ h => absurd h List.not_mem_nil

/-- What a posting has to bring for the books to stay so. -/
def Vouched (l : Ledger) : Posting → Prop
  | .donor donor => donor.organizationId = l.organization.id
  | .attributed _ _ _ attr =>
      ∃ don, l.donations.get? attr.donationId = some don ∧ don.donorId = attr.donorId
  | _ => True

theorem OwnBooks.posted {p : Posting} {fresh : Prop} (hguard : p.guard fresh l)
    (hvouched : Vouched l p) (h : OwnBooks l) : OwnBooks (p.write l) := by
  cases p with
  | donor donor =>
      refine ⟨fun k other hk => ?_, h.donation, h.attribution, h.designation⟩
      have hk' : (l.donors.set donor.id donor).get? k = some other := hk
      rw [Dict.get?_set] at hk'
      split at hk'
      · rw [← Option.some.inj hk']
        exact hvouched
      · exact h.donor k other hk'
  | donation don =>
      obtain ⟨_, hnew, _⟩ := hguard
      refine ⟨h.donor, fun k other hk => ?_, fun v hv => ?_, h.designation⟩
      · have hk' : (l.donations.set don.id don).get? k = some other := hk
        rw [Dict.get?_set] at hk'
        split at hk'
        · rename_i heq
          rw [← Option.some.inj hk', heq]
        · exact h.donation k other hk'
      · obtain ⟨own, hown, hdonor⟩ := h.attribution v hv
        have hne : v.donationId ≠ don.id := fun heq => hnew (heq ▸ Dict.mem_of_get? hown)
        exact ⟨own, (Dict.get?_set_ne hne).trans hown, hdonor⟩
  | allocation a =>
      refine ⟨h.donor, h.donation, h.attribution, fun da hda => ?_⟩
      exact Dict.mem_set.mpr (Or.inr (h.designation da hda))
  | designation da =>
      refine ⟨h.donor, h.donation, h.attribution, fun other hother => ?_⟩
      rcases Dict.mem_values_set hother with rfl | hother
      · exact hguard.2.1
      · exact h.designation other hother
  | classified expenseId expense eas =>
      rw [Posting.write, moveToApprovalPending]
      split <;> exact ⟨h.donor, h.donation, h.attribution, h.designation⟩
  | attributed donationId expenseId allocationId attr =>
      refine ⟨h.donor, h.donation, fun v hv => ?_, h.designation⟩
      rcases Dict.mem_values_set hv with rfl | hv
      · exact hvouched
      · rw [Dict.values_filter] at hv
        exact h.attribution v (List.mem_of_mem_filter hv)
  | _ => exact ⟨h.donor, h.donation, h.attribution, h.designation⟩

theorem OwnBooks.logged (h : OwnBooks l) (log : List AuditReceipt) :
    OwnBooks { l with auditLog := log } :=
  ⟨h.donor, h.donation, h.attribution, h.designation⟩

section Calls

variable [Digest] {c : Call}

/-- A call none of whose postings needs a voucher. -/
theorem ownBooks_of_posts (hop : ∀ l p, Posting.of c.op p → Vouched l p) (h : OwnBooks l) :
    OwnBooks (step l c) := by
  have hposts : Posts False Vouched l (step l c) := by
    refine step_posts (fun l p hof _ => hop l p hof) ?_ False.elim
    exact (approvalsMeet_true l c).mono fun _ _ _ _ _ => trivial
  refine hposts.preserve ?_ h
  rintro m m' ⟨p, log, hguard, hvouched, rfl⟩ hm
  exact (hm.posted hguard hvouched).logged log

theorem ownBooks_step (h : OwnBooks l) : OwnBooks (step l c) := by
  obtain ⟨host, op⟩ := c
  cases op with
  | registerDonor donor =>
      rw [step, exec, after_map]
      refine after_of_cases (fun r l' hret => ?_) fun e l' hraises => ?_
      · simp only [registerDonor, returns_get_bind, returns_raiseIf_bind, returns_modify_bind,
          returns_audit_bind, returns_pure, not_not] at hret
        obtain ⟨horg, _, rfl⟩ := hret
        have hguard : (Posting.donor donor).guard False l := trivial
        exact (h.posted hguard horg).logged _
      · rw [registerDonor_atomic _ _ _ _ hraises]
        exact h
  | attributeDonorToExpense donorId donationId expenseId allocationId method amount attrId =>
      rw [step, exec, after_map]
      refine after_of_cases (fun attr l' hret => ?_) fun e l' hraises => ?_
      · obtain ⟨_, htriple, _, _, _, hexp, hpos, hcharge, hsum, _⟩ :=
          attributeDonorToExpense_returns hret
        simp only [attributeDonorToExpense, returns_raiseIf_bind, returns_get_bind,
          returns_requireDonation_bind, returns_requireExpense_bind, returns_okOrRaise_bind,
          returns_modify_bind, returns_audit_bind, returns_pure, not_not] at hret
        obtain ⟨_, _, don, hdon, _, _, hdonor, _, _, _, _, _, _, _, _, _, rfl, rfl⟩ := hret
        have hguard : (Posting.attributed donationId expenseId allocationId _).guard False l :=
          ⟨False.elim, htriple, hexp, hpos, hcharge, hsum⟩
        exact (h.posted hguard ⟨don, hdon, hdonor⟩).logged _
      · rw [attributeDonorToExpense_atomic _ _ _ _ _ _ _ _ _ _ hraises]
        exact h
  | _ =>
      refine ownBooks_of_posts (fun l p hof => ?_) h
      cases p with
      | donor _ => simp [Posting.of] at hof
      | attributed _ _ _ _ => simp [Posting.of] at hof
      | _ => trivial

end Calls

end Ledger

/-! ## The agreement -/

namespace DonorReadService

variable {ledger : Ledger} {donorId : Id}

theorem nodup_donationsOf (h : ledger.OwnBooks) :
    ((donationsOf ledger donorId).map (·.id)).Nodup := by
  have hids : ledger.donations.values.map (·.id) = ledger.donations.entries.map Prod.fst := by
    rw [Dict.values, List.map_map]
    exact List.map_congr_left fun e he => h.donation e.1 e.2 (Dict.get?_eq_some.mpr he)
  have hnodup : (ledger.donations.values.map (·.id)).Nodup := by
    rw [hids]
    exact ledger.donations.nodup
  exact hnodup.sublist (List.Sublist.map _ List.filter_sublist)

/-- Attributions of some donations, each of which counts once. -/
theorem sum_consumed {a : Id} : ∀ {dons : List Donation}, (dons.map (·.id)).Nodup →
    (dons.map fun don => ledger.consumed don.id a).sum =
      ledger.attributions.sum (fun attr =>
        (dons.any fun don => attr.donationId = don.id) && (attr.allocationId = a &&
          ledger.expenseIn verifiedExpenseStates attr.expenseId)) (·.attributedAmount)
  | [], _ => (Dict.sum_eq_zero fun _ _ => rfl).symm
  | don :: dons, hnodup => by
      rw [List.map_cons, List.nodup_cons] at hnodup
      rw [List.map_cons, List.sum_cons, sum_consumed hnodup.2, Ledger.consumed, Ledger.counted,
        ← Dict.sum_or]
      · refine Dict.sum_congr fun attr _ => ?_
        rw [List.any_cons, Bool.and_assoc, Bool.and_or_distrib_right]
      · rintro attr _ ⟨h₁, h₂⟩
        simp only [Bool.and_eq_true, decide_eq_true_eq, List.any_eq_true] at h₁ h₂
        obtain ⟨other, hother, heq⟩ := h₂.1
        refine hnodup.1 (List.mem_map.mpr ⟨other, hother, ?_⟩)
        exact heq.symm.trans h₁.1.1

/-- The donor's attributions are those of the donor's donations. -/
theorem sum_usedAmounts (h : ledger.OwnBooks) (a : Id) :
    (usedAmounts ledger donorId a).sum =
      ((donationsOf ledger donorId).map fun don => ledger.consumed don.id a).sum := by
  rw [sum_consumed (nodup_donationsOf h)]
  show ledger.attributions.sum (fun attr => attr.donorId = donorId && attr.allocationId = a &&
    ledger.expenseIn verifiedExpenseStates attr.expenseId) (·.attributedAmount) = _
  refine Dict.sum_congr fun attr hattr => ?_
  obtain ⟨own, hown, hdonor⟩ := h.attribution attr hattr
  have hany : ((donationsOf ledger donorId).any fun don => attr.donationId = don.id) =
      decide (attr.donorId = donorId) := by
    rw [Bool.eq_iff_iff, List.any_eq_true, decide_eq_true_eq]
    constructor
    · rintro ⟨don, hdon, heq⟩
      rw [decide_eq_true_eq] at heq
      obtain ⟨hdon, hmine⟩ := List.mem_filter.mp hdon
      obtain ⟨k, hk⟩ := Dict.mem_values.mp hdon
      rw [heq, h.donation k don hk, hk] at hown
      rw [← hdonor, ← Option.some.inj hown]
      exact of_decide_eq_true hmine
    · intro hmine
      refine ⟨own, List.mem_filter.mpr ⟨Dict.mem_values.mpr ⟨_, hown⟩, ?_⟩, ?_⟩
      · exact decide_eq_true (hdonor.trans hmine)
      · rw [h.donation _ own hown]
        exact decide_eq_true rfl
  rw [hany, Bool.and_assoc]

/-- The views of a donor: one for each fund the donations are designated to, with
the balances the ledger gives for them. -/
structure Agrees (ledger : Ledger) (donorId : Id) (views : List AllocationBalanceView) : Prop where
  nodup : (views.map (·.allocationId)).Nodup
  funds : ∀ a, a ∈ views.map (·.allocationId) ↔ DesignatesTo ledger donorId a
  remaining : ∀ v ∈ views, v.remaining = ((donationsOf ledger donorId).map fun don =>
    ledger.donorRemainingOnAllocation don.id v.allocationId).sum
  adds_up : ∀ v ∈ views, v.designatedTotal = v.used + v.remaining

theorem sum_donorRemaining (a : Id) : ∀ dons : List Donation,
    (dons.map fun don => ledger.donorRemainingOnAllocation don.id a).sum =
      (dons.map fun don => ledger.designated don.id a).sum -
        (dons.map fun don => ledger.consumed don.id a).sum
  | [] => rfl
  | don :: dons => by
      rw [List.map_cons, List.map_cons, List.map_cons, List.sum_cons, List.sum_cons, List.sum_cons,
        sum_donorRemaining a dons, Ledger.donorRemaining_eq]
      omega

theorem requireDonor_ok (h : ledger.OwnBooks) (hdonor : donorId ∈ ledger.donors) :
    requireDonor ledger donorId = .ok () := by
  obtain ⟨donor, hget⟩ := Dict.mem_iff_get?.mp hdonor
  have horg := h.donor donorId donor hget
  rw [requireDonor, hget]
  exact if_neg (not_not.mpr horg)

theorem agrees_of_ownBooks (h : ledger.OwnBooks) (hpositive : ledger.Positive)
    (hdonor : donorId ∈ ledger.donors)
    (hfits : ∀ a ∈ ledger.allocations.keys, TotalsFit ledger donorId a) :
    ∃ views, allocationBalances ledger donorId = .ok views ∧ Agrees ledger donorId views := by
  have hsorted := (designatedTotals ledger donorId).entries.mergeSort_perm
    fun a b => decide (a.1 ≤ b.1)
  have htotals : ∀ e ∈ (designatedTotals ledger donorId).entries.mergeSort
      fun a b => decide (a.1 ≤ b.1), e.1 ∈ ledger.allocations ∧
        e.2 = Decimal.total (givenAmounts ledger donorId e.1) ∧ TotalsFit ledger donorId e.1 := by
    intro e he
    have hentry := hsorted.mem_iff.mp he
    have hmem : e.1 ∈ designatedTotals ledger donorId := List.mem_map_of_mem hentry
    obtain ⟨_, _, _, da, hda, _, hfund⟩ := mem_designatedTotals.mp hmem
    have hreg : e.1 ∈ ledger.allocations := hfund ▸ h.designation da hda
    have hget : (designatedTotals ledger donorId).get? e.1 = some e.2 :=
      Dict.get?_eq_some.mpr hentry
    refine ⟨hreg, ?_, hfits e.1 hreg⟩
    rw [← getD_designatedTotals, hget, Option.getD_some]
  obtain ⟨views, hviews, hids, hall⟩ := balanceViews_ok hpositive donorId htotals
  have hperm := hsorted.map Prod.fst
  rw [← hids] at hperm
  refine ⟨views, ?_, hperm.nodup_iff.mpr (designatedTotals ledger donorId).nodup, fun a => ?_,
    fun v hv => ?_, fun v hv => ?_⟩
  · rw [allocationBalances, requireDonor_ok h hdonor]
    exact hviews
  · exact hperm.mem_iff.trans mem_designatedTotals
  · obtain ⟨hdesignated, hused, hremaining⟩ := hall v hv
    rw [hremaining, hdesignated, hused, sum_givenAmounts, sum_usedAmounts h, sum_donorRemaining]
  · have hremaining := (hall v hv).remaining
    omega

/-- In every reachable ledger, the dashboard of a registered donor and the ledger
agree on the balances, as long as no sum is rounded. -/
theorem allocation_balances_agree [Digest] (organization : Organization) (calls : List Ledger.Call)
    (donorId : Id) (hdonor : donorId ∈ (run Ledger.step (.new organization) calls).donors)
    (hfits : ∀ a ∈ (run Ledger.step (.new organization) calls).allocations.keys,
      TotalsFit (run Ledger.step (.new organization) calls) donorId a) :
    ∃ views, allocationBalances (run Ledger.step (.new organization) calls) donorId = .ok views ∧
      Agrees (run Ledger.step (.new organization) calls) donorId views := by
  have hany : Along Ledger.step (fun _ _ => True) (.new organization) calls :=
    along_of_forall fun _ _ => trivial
  exact agrees_of_ownBooks
    (run_invariant (fun _ _ hl _ => Ledger.ownBooks_step hl) (.new organization) hany)
    (Ledger.positive_run organization calls) hdonor hfits

section Sample

attribute [local instance] Digest.plain

theorem publishedRun_agrees : ∃ views,
    allocationBalances (run Ledger.step (.new Ledger.Sample.organization)
      Ledger.Sample.publishedRun) "donor" = .ok views ∧
    Agrees (run Ledger.step (.new Ledger.Sample.organization) Ledger.Sample.publishedRun) "donor"
      views :=
  allocation_balances_agree Ledger.Sample.organization Ledger.Sample.publishedRun "donor"
    (by decide) (by decide)

/-- The donor gives 60000000000000000000000000.00 twice, both to one fund. -/
def Sample.largeGifts : List Ledger.Call :=
  Ledger.script (Ledger.Sample.gift ++
    Ledger.Sample.given "large" 6000000000000000000000000000 ++
    Ledger.Sample.given "second" 6000000000000000000000000000)

/-- The total has one digit too many, and no balance is shown. -/
theorem large_gifts_raise : ¬ ∀ (organization : Organization) (calls : List Ledger.Call) (donorId),
    donorId ∈ (run Ledger.step (.new organization) calls).donors →
      ∃ views, allocationBalances (run Ledger.step (.new organization) calls) donorId =
          .ok views ∧
        Agrees (run Ledger.step (.new organization) calls) donorId views := by
  intro h
  obtain ⟨views, hviews, -⟩ :=
    h Ledger.Sample.organization Sample.largeGifts "donor" (by decide)
  have hraises : (allocationBalances (run Ledger.step (.new Ledger.Sample.organization)
      Sample.largeGifts) "donor").isOk = false := by decide +kernel
  rw [hviews] at hraises
  cases hraises

end Sample

end DonorReadService

end ImpactRelay
