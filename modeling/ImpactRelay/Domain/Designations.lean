/-
# `Domain.Designations` — a donation is never designated twice over

`assign_donation_allocation` compares what the donation has designated already, and
the new amount, with what was given.  It does not ask whether the identifier is in
use, and need not for this: what an assignment overwrites is counted in the sum it
checks, or it is another donation's and makes that one's sum smaller.
-/
import ImpactRelay.Domain.Writes

namespace ImpactRelay

open Raise

namespace Ledger

variable {l l' : Ledger}

/-- Every designation is of a donation in the ledger, and positive; a donation has
designated at most its amount, and nothing unless it is cleared. -/
structure Designated (l : Ledger) : Prop where
  donation : ∀ da ∈ l.donationAllocations.values, da.donationId ∈ l.donations
  pos : ∀ da ∈ l.donationAllocations.values, 0 < da.amount
  within : ∀ d donation, l.donations.get? d = some donation →
    l.sumDonationAllocations d ≤ donation.amount
  cleared : ∀ d donation, l.donations.get? d = some donation → donation.cleared = false →
    ∀ da ∈ l.donationAllocations.values, da.donationId ≠ d

theorem Designated.new (organization : Organization) : Designated (.new organization) where
  donation := fun _ h => absurd h List.not_mem_nil
  pos := fun _ h => absurd h List.not_mem_nil
  within := fun _ _ h => nomatch h
  cleared := fun _ _ h => nomatch h

theorem Designated.congr (h : Designated l) (hdonations : l'.donations = l.donations)
    (hdesignations : l'.donationAllocations = l.donationAllocations) : Designated l' := by
  refine ⟨?_, ?_, ?_, ?_⟩
  · rw [hdesignations, hdonations]
    exact h.donation
  · rw [hdesignations]
    exact h.pos
  · rw [hdonations]
    intro d donation hd
    rw [sumDonationAllocations, hdesignations]
    exact h.within d donation hd
  · rw [hdesignations, hdonations]
    exact h.cleared

/-- A new donation has designated nothing yet. -/
theorem Designated.imported (h : Designated l) {donation : Donation} (hpos : 0 < donation.amount)
    (hnew : donation.id ∉ l.donations) :
    Designated { l with donations := l.donations.set donation.id donation } where
  donation := fun da hda => Dict.mem_set.mpr (Or.inr (h.donation da hda))
  pos := h.pos
  within := by
    intro d other hd
    have hd' : (l.donations.set donation.id donation).get? d = some other := hd
    rw [Dict.get?_set] at hd'
    split at hd'
    · rename_i heq
      obtain rfl := Option.some.inj hd'
      have hzero : l.sumDonationAllocations d = 0 := by
        refine Dict.sum_eq_zero fun da hda => decide_eq_false fun hsame => hnew ?_
        rw [← heq, ← hsame]
        exact h.donation da hda
      change l.sumDonationAllocations d ≤ donation.amount
      rw [hzero]
      exact Int.le_of_lt hpos
    · exact h.within d other hd'
  cleared := by
    intro d other hd hnot da hda hsame
    have hd' : (l.donations.set donation.id donation).get? d = some other := hd
    rw [Dict.get?_set] at hd'
    split at hd'
    · rename_i heq
      refine hnew ?_
      rw [← heq, ← hsame]
      exact h.donation da hda
    · exact h.cleared d other hd' hnot da hda hsame

/-- A designation that fits what the donation has left, whatever it overwrites. -/
theorem Designated.designation (h : Designated l) {da : DonationAllocation} {donation : Donation}
    (hpos : 0 < da.amount) (hdonation : l.donations.get? da.donationId = some donation)
    (hcleared : donation.cleared = true)
    (hfits : l.sumDonationAllocations da.donationId + da.amount ≤ donation.amount) :
    Designated { l with donationAllocations := l.donationAllocations.set da.id da } where
  donation := by
    intro v hv
    rcases Dict.mem_values_set hv with rfl | hv
    · exact Dict.mem_of_get? hdonation
    · exact h.donation v hv
  pos := by
    intro v hv
    rcases Dict.mem_values_set hv with rfl | hv
    · exact hpos
    · exact h.pos v hv
  within := by
    intro d other hd
    have hle := Dict.sum_set_le (fun v hv => Int.le_of_lt (h.pos v hv)) da.id da
      (fun v => decide (v.donationId = d))
    refine le_trans hle ?_
    by_cases hsame : da.donationId = d
    · subst hsame
      rw [hdonation] at hd
      obtain rfl := Option.some.inj hd
      rw [if_pos (decide_eq_true rfl)]
      exact hfits
    · rw [if_neg (by simpa using hsame), Int.add_zero]
      exact h.within d other hd
  cleared := by
    intro d other hd hnot v hv
    rcases Dict.mem_values_set hv with rfl | hv
    · rintro rfl
      rw [hdonation] at hd
      obtain rfl := Option.some.inj hd
      rw [hcleared] at hnot
      exact nomatch hnot
    · exact h.cleared d other hd hnot v hv

theorem Designated.write {fresh : Prop} {fit : Ledger → Id → Prop} (hw : Write fresh fit l l')
    (h : Designated l) : Designated l' := by
  cases hw with
  | donation donation hpos hnew hdonor => exact h.imported hpos hnew
  | designation da donation hnew hreg hpos hdonation hcleared hfits =>
      exact h.designation hpos hdonation hcleared hfits
  | classified expenseId expense eas hexp hc hv heas hnew =>
      refine h.congr ?_ ?_
      · rw [moveToApprovalPending]
        split <;> rfl
      · rw [moveToApprovalPending]
        split <;> rfl
  | _ => exact h.congr rfl rfl

/-- In every ledger any calls lead to, whatever identifiers they bring. -/
theorem donations_within_amount [Digest] (organization : Organization) (calls : List Call)
    (d : Id) (donation : Donation)
    (hd : (run step (.new organization) calls).donations.get? d = some donation) :
    (run step (.new organization) calls).sumDonationAllocations d ≤ donation.amount ∧
      (donation.cleared = false →
        ∀ da ∈ (run step (.new organization) calls).donationAllocations.values,
          da.donationId ≠ d) := by
  have h : Designated (run step (.new organization) calls) :=
    run_preserve_any (fun _ _ hw hl => hl.write hw) (.new organization)
  exact ⟨h.within d donation hd, h.cleared d donation hd⟩

/-- The second assignment overwrites the first. -/
def Sample.reassignedRun : List Call := script [
  .registerDonor { id := "donor", organizationId := "org", displayName := "Donor" },
  .registerAllocation Sample.fund,
  .importDonation Sample.donation,
  .assignDonationAllocation "gift" "fund" (.finite 60 0) (some "da"),
  .assignDonationAllocation "gift" "fund" (.finite 40 0) (some "da")]

section Sample

attribute [local instance] Digest.plain

theorem reassignedRun_within :
    (run step (.new Sample.organization) Sample.reassignedRun).sumDonationAllocations "gift" ≤
      Sample.donation.amount ∧
    (Sample.donation.cleared = false →
      ∀ da ∈ (run step (.new Sample.organization) Sample.reassignedRun).donationAllocations.values,
        da.donationId ≠ "gift") :=
  donations_within_amount Sample.organization Sample.reassignedRun "gift" Sample.donation (by decide)

end Sample

end Ledger

end ImpactRelay
