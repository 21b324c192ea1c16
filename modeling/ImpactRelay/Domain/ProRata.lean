/-
# `Domain.ProRata` — pro-rata attribution is fair up to rounding

A pro-rata attribution gives a donation its share of the charge: the charge
times what the donation designates to the fund, over what all donations do.  The
product is quantized to cents, so each amount is half a cent off at most, and so
is, for every donation, the sum (`pro_rata_fair`).

The share is a quotient in a context of 28 digits.  What that costs is kept apart
(`quotientError`): nothing where quotients are taken exactly, and where the pool
fits the context never more than two parts in `10 ^ 27` of the charge
(`quotientError_le`).
-/
import ImpactRelay.Domain.Balance
import ImpactRelay.Domain.Charges
import ImpactRelay.Domain.Shares
import ImpactRelay.Lib.Rounding

namespace ImpactRelay

open Raise

namespace Ledger

variable {l : Ledger} {expenseId allocationId donationId : Id}

/-- The exact share of the charge, in cents. -/
def exactShare (l : Ledger) (expenseId allocationId donationId : Id) : ℚ :=
  l.expenseCharge expenseId allocationId * l.designated donationId allocationId /
    l.pooled allocationId

/-- The product the code quantizes. -/
def proRataProduct (l : Ledger) (expenseId allocationId donationId : Id) : Decimal.Amount :=
  Decimal.mul (Decimal.ofCents (l.expenseCharge expenseId allocationId))
    (Decimal.div (Decimal.ofCents (l.designated donationId allocationId))
      (Decimal.ofCents (l.donationPoolForAllocation allocationId)))

/-- What the digits of the context cost the share: nothing when the quotient is
taken exactly. -/
def quotientError (l : Ledger) (expenseId allocationId donationId : Id) : ℚ :=
  |Decimal.cents (l.proRataProduct expenseId allocationId donationId) -
    l.exactShare expenseId allocationId donationId|

/-- The attribution was made pro rata to the expense, when the designations and
the charge were those of `l`. -/
def AttributedProRata (l : Ledger) (expenseId allocationId : Id)
    (attr : DonorExpenseAttribution) : Prop :=
  ∃ (_ : Digest) (host : Host) (donorId : Id) (amount : Option Decimal.Amount)
    (attrId : Option Id) (before after_ : Ledger),
    before.donationAllocations = l.donationAllocations ∧
    before.expenseCharge expenseId allocationId = l.expenseCharge expenseId allocationId ∧
    Returns (attributeDonorToExpense host donorId attr.donationId expenseId allocationId
      .proRataPool amount attrId) before attr after_

/-! ## One attribution -/

theorem attributionAmount_proRata {amount : Option Decimal.Amount} {amt : Int}
    (h : l.attributionAmount allocationId .proRataPool amount (l.designated donationId allocationId)
      (l.expenseCharge expenseId allocationId) = .ok amt) :
    0 < l.donationPoolForAllocation allocationId ∧
      Decimal.quantize (l.proRataProduct expenseId allocationId donationId) =
        some (.cents amt) := by
  simp only [attributionAmount] at h
  split at h
  · cases h
  · next hpool => exact ⟨Int.not_le.mp hpool, orderedMoney_ok.mp h⟩

/-- An amount is half a cent from the exact share, and what the quotient costs. -/
theorem amount_close {amt : Int}
    (h : Decimal.quantize (l.proRataProduct expenseId allocationId donationId) =
      some (.cents amt)) :
    |(amt : ℚ) - l.exactShare expenseId allocationId donationId| ≤
      1 / 2 + l.quotientError expenseId allocationId donationId :=
  (abs_sub_le _ _ _).trans (add_le_add_left (Decimal.quantize_close h) _)

theorem attributeDonorToExpense_donationId [Digest] {host : Host} {l' : Ledger} {donorId : Id}
    {method : AttributionMethod} {amount : Option Decimal.Amount} {attrId : Option Id}
    {attr : DonorExpenseAttribution}
    (h : Returns (attributeDonorToExpense host donorId donationId expenseId allocationId method
      amount attrId) l attr l') : attr.donationId = donationId := by
  simp only [attributeDonorToExpense, returns_raiseIf_bind, returns_get_bind,
    returns_requireDonation_bind, returns_requireExpense_bind, returns_okOrRaise_bind,
    returns_modify_bind, returns_audit_bind, returns_pure] at h
  obtain ⟨_, _, _, _, _, _, _, _, _, _, _, _, _, _, _, _, rfl, rfl⟩ := h
  rfl

/-- A charge the pool covers gives no donation more than it designated. -/
theorem amount_le_designated {amt : Int}
    (h : Decimal.quantize (l.proRataProduct expenseId allocationId donationId) =
      some (.cents amt))
    (hpool : 0 < l.donationPoolForAllocation allocationId)
    (hdesignated : 0 < l.designated donationId allocationId)
    (hcovered : l.expenseCharge expenseId allocationId ≤ l.pooled allocationId)
    (herror : l.quotientError expenseId allocationId donationId < 1 / 2) :
    amt ≤ l.designated donationId allocationId := by
  rcases le_or_gt (l.pooled allocationId) 0 with hempty | hpooled
  · -- nothing is charged to an empty pool
    refine le_trans (Decimal.quantize_le h ?_) hdesignated.le
    have hnonpos := Decimal.mul_div_nonpos (hcovered.trans hempty) hdesignated hpool
    rw [← proRataProduct] at hnonpos
    push_cast
    linarith
  have hpool' : (0 : ℚ) < l.pooled allocationId := by exact_mod_cast hpooled
  have hdesignated' : (0 : ℚ) ≤ l.designated donationId allocationId := by
    exact_mod_cast hdesignated.le
  have hcovered' : (l.expenseCharge expenseId allocationId : ℚ) ≤
      l.pooled allocationId := by exact_mod_cast hcovered
  have hshare : l.exactShare expenseId allocationId donationId ≤
      l.designated donationId allocationId := by
    rw [exactShare, div_le_iff₀ hpool', mul_comm (l.designated donationId allocationId : ℚ)]
    gcongr
  refine Decimal.quantize_le h ?_
  have hnear := (abs_lt.mp herror).2
  linarith

/-- An attribution made under the same designations and charge quantizes the
product of `l`. -/
theorem AttributedProRata.amount {attr : DonorExpenseAttribution}
    (h : l.AttributedProRata expenseId allocationId attr) :
    Decimal.quantize (l.proRataProduct expenseId allocationId attr.donationId) =
      some (.cents attr.attributedAmount) := by
  obtain ⟨_, host, donorId, amount, attrId, before, after_, hdesignations, hcharge, hcall⟩ := h
  have hquantized := (attributionAmount_proRata (attributeDonorToExpense_amount hcall)).2
  have hproduct : before.proRataProduct expenseId allocationId attr.donationId =
      l.proRataProduct expenseId allocationId attr.donationId := by
    rw [proRataProduct, proRataProduct, hcharge, designated, designated,
      donationPoolForAllocation, donationPoolForAllocation, inflowAmounts, inflowAmounts,
      hdesignations]
  rw [← hproduct]
  exact hquantized

/-! ## All attributions -/

/-- What the donations designate, shared out, is what each is owed. -/
theorem sum_exactShare (l : Ledger) (expenseId allocationId : Id) (donationIds : List Id) :
    (donationIds.map (l.exactShare expenseId allocationId)).sum =
      l.expenseCharge expenseId allocationId *
        (donationIds.map fun id => (l.designated id allocationId : ℚ)).sum /
          l.pooled allocationId := by
  induction donationIds with
  | nil => simp
  | cons id ids ih =>
      rw [List.map_cons, List.map_cons, List.sum_cons, List.sum_cons, ih, exactShare]
      ring

/-- The quotients of a fund cost a charge two parts in `10 ^ 27` of it at most. -/
theorem quotientError_le (hl : Positive l) (hfits : l.PoolFits allocationId)
    (hcharge : 0 ≤ l.expenseCharge expenseId allocationId)
    (hdesignated : 0 < l.designated donationId allocationId)
    (hwithin : l.designated donationId allocationId ≤ l.pooled allocationId) :
    l.quotientError expenseId allocationId donationId ≤
      l.expenseCharge expenseId allocationId * (2 / 10 ^ 27) := by
  have hpool := hdesignated.trans_le hwithin
  have hcharge' : (0 : ℚ) ≤ l.expenseCharge expenseId allocationId := by exact_mod_cast hcharge
  have hpool' : (0 : ℚ) < l.pooled allocationId := by exact_mod_cast hpool
  have hwithin' : (l.designated donationId allocationId : ℚ) ≤
      l.pooled allocationId := by exact_mod_cast hwithin
  have hshare : l.exactShare expenseId allocationId donationId ≤
      l.expenseCharge expenseId allocationId := by
    rw [exactShare, div_le_iff₀ hpool']
    gcongr
  rw [quotientError, proRataProduct, hl.donationPool hfits, exactShare]
  refine (Decimal.mul_div_close hcharge hdesignated hpool).trans ?_
  exact mul_le_mul_of_nonneg_right hshare (by norm_num)

/-- Attributions of one charge, made pro rata under the same designations, sum to
the share of what their donations designate: each is off by half a cent at most,
and by what its quotient costs.  A charge the pool covers leaves each amount
within what the donation designates, so that a donation attributed for the first
time passes both checks on it. -/
theorem pro_rata_fair (l : Ledger) (expenseId allocationId : Id) :
    (∀ attrs : List DonorExpenseAttribution,
      (∀ attr ∈ attrs, l.AttributedProRata expenseId allocationId attr) →
        |(attrs.map fun attr => (attr.attributedAmount : ℚ)).sum -
            l.expenseCharge expenseId allocationId *
              (attrs.map fun attr => (l.designated attr.donationId allocationId : ℚ)).sum /
                l.pooled allocationId| ≤
          attrs.length * (1 / 2) +
            (attrs.map fun attr => l.quotientError expenseId allocationId attr.donationId).sum) ∧
    (l.expenseCharge expenseId allocationId ≤ l.pooled allocationId →
      ∀ (donationId : Id) (amount : Option Decimal.Amount) (amt : Int),
        0 < l.designated donationId allocationId →
        l.quotientError expenseId allocationId donationId < 1 / 2 →
        l.attributionAmount allocationId .proRataPool amount (l.designated donationId allocationId)
          (l.expenseCharge expenseId allocationId) = .ok amt →
        amt ≤ l.designated donationId allocationId ∧
          (l.activeAttributionTotal donationId allocationId (some expenseId) = 0 →
            l.activeAttributionTotal donationId allocationId (some expenseId) + amt ≤
              l.designated donationId allocationId)) := by
  refine ⟨fun attrs hattrs => ?_, fun hcovered donationId amount amt hdesignated herror h => ?_⟩
  · have hshares := sum_exactShare l expenseId allocationId (attrs.map (·.donationId))
    rw [List.map_map, List.map_map] at hshares
    have hclose := Decimal.sum_close fun attr hattr => amount_close (hattrs attr hattr).amount
    rw [List.sum_map_add, List.map_const', List.sum_replicate, nsmul_eq_mul] at hclose
    exact hshares ▸ hclose
  · obtain ⟨hpool, hquantized⟩ := attributionAmount_proRata h
    have hle := amount_le_designated hquantized hpool hdesignated hcovered herror
    exact ⟨hle, fun hfirst => by rwa [hfirst, zero_add]⟩

section Sample

attribute [local instance] Digest.plain

/-- An expense of 50.00 is charged to a fund two donations are designated to. -/
def Sample.sharedRun : List Call := script (Sample.gift ++ Sample.secondGift ++ [
  .importExpense (Sample.expense "expense" 5000),
  .allocateExpense "expense" "fund" (.finite 50 0) none])

theorem sharedRun_fair :
    (∃ attrs : List DonorExpenseAttribution, attrs.map (·.donationId) = ["gift", "gift2"] ∧
      |(attrs.map fun attr => (attr.attributedAmount : ℚ)).sum -
          (run step (.new Sample.organization) Sample.sharedRun).expenseCharge "expense" "fund" *
            (attrs.map fun attr => ((run step (.new Sample.organization) Sample.sharedRun).designated
              attr.donationId "fund" : ℚ)).sum /
            (run step (.new Sample.organization) Sample.sharedRun).pooled
              "fund"| ≤
        attrs.length * (1 / 2) + (attrs.map fun attr =>
          (run step (.new Sample.organization) Sample.sharedRun).quotientError "expense" "fund"
            attr.donationId).sum) ∧
    2500 ≤ (run step (.new Sample.organization) Sample.sharedRun).designated "gift" "fund" := by
  have hfair := pro_rata_fair (run step (.new Sample.organization) Sample.sharedRun) "expense"
    "fund"
  refine ⟨?_, ?_⟩
  · obtain ⟨attr, l', hattr⟩ : Accepts (attributeDonorToExpense (.numbered 8) "donor" "gift"
        "expense" "fund" .proRataPool none none)
        (run step (.new Sample.organization) Sample.sharedRun) :=
      accepts_of_raised_eq_false (by decide)
    obtain ⟨attr', l'', hattr'⟩ : Accepts (attributeDonorToExpense (.numbered 9) "other" "gift2"
        "expense" "fund" .proRataPool none none)
        (run step (.new Sample.organization) Sample.sharedRun) :=
      accepts_of_raised_eq_false (by decide)
    have hid := attributeDonorToExpense_donationId hattr
    have hid' := attributeDonorToExpense_donationId hattr'
    refine ⟨[attr, attr'], by rw [List.map_cons, List.map_cons, List.map_nil, hid, hid'],
      hfair.1 [attr, attr'] fun v hv => ?_⟩
    rcases List.mem_pair.mp hv with rfl | rfl
    · exact ⟨_, _, _, _, _, _, _, rfl, rfl, by rw [hid]; exact hattr⟩
    · exact ⟨_, _, _, _, _, _, _, rfl, rfl, by rw [hid']; exact hattr'⟩
  · have hexact : (run step (.new Sample.organization) Sample.sharedRun).quotientError "expense"
        "fund" "gift" < 1 / 2 := by
      refine (quotientError_le (positive_run _ _) (by decide) (by decide) (by decide)
        (by decide)).trans_lt ?_
      have hcharge : (run step (.new Sample.organization) Sample.sharedRun).expenseCharge "expense"
          "fund" = 5000 := by decide
      rw [hcharge]
      norm_num
    exact (hfair.2 (by decide) "gift" none 2500 (by decide) hexact (by decide)).1

end Sample

end Ledger

end ImpactRelay
