/-
# `Domain.DonorPrivacy` — what the reads of a donor do not depend on

Two tenants are alike for a donor (`Alike`) when they share the organization, the funds, the
expenses, the evidence and the programs, and the donor has the same records in both, in the
same order.  What the others have is left open.  Then the donor's dashboard, each detail of
a receipt of the donor and the donor's export are the same in both: `donor_reads_private`.

| a read | what passes over the other donors | what it rests on |
| :-- | :-- | :-- |
| dashboard, timeline | `donor_id`, and `donation_id` for designations | nothing |
| detail | the lookup, then `donor_id` | receipts filed under their ids, of two kinds |
| export | `donor_id` or `intent_id` | a delivery is for the donor of its intent |

The right column is what every reachable tenant keeps (`Kept`).
-/
import ImpactRelay.Domain.TenantRuns

namespace ImpactRelay

open Raise

/-- The shared stores read alike, and the donor has the same records. -/
structure Alike (donorId : Id) (ws ws' : Tenant) : Prop where
  organization : ws.ledger.organization = ws'.ledger.organization
  allocations : ∀ a, ws.ledger.allocations.get? a = ws'.ledger.allocations.get? a
  expenses : ∀ e, ws.ledger.expenses.get? e = ws'.ledger.expenses.get? e
  evidence : ws.ledger.evidence.values = ws'.ledger.evidence.values
  programs : ∀ p, ws.impact.programs.find? p = ws'.impact.programs.find? p
  donor : ws.ledger.donors.get? donorId = ws'.ledger.donors.get? donorId
  donations : ws.donationsOf donorId = ws'.donationsOf donorId
  designations : ws.designationsOf donorId = ws'.designationsOf donorId
  attributions : ws.attributionsOf donorId = ws'.attributionsOf donorId
  receipts : ws.receiptsOf donorId = ws'.receiptsOf donorId
  impactReceipts : ws.impactReceiptsOf donorId = ws'.impactReceiptsOf donorId
  consents : ws.consentsOf donorId = ws'.consentsOf donorId
  preferences : ws.preferencesOf donorId = ws'.preferencesOf donorId
  intents : ws.intentsOf donorId = ws'.intentsOf donorId
  deliveries : ws.deliveriesOf donorId = ws'.deliveriesOf donorId

namespace Alike

open DonorReadService

variable {donorId : Id} {ws ws' : Tenant}

theorem symm (h : Alike donorId ws ws') : Alike donorId ws' ws where
  organization := h.organization.symm
  allocations a := (h.allocations a).symm
  expenses e := (h.expenses e).symm
  evidence := h.evidence.symm
  programs p := (h.programs p).symm
  donor := h.donor.symm
  donations := h.donations.symm
  designations := h.designations.symm
  attributions := h.attributions.symm
  receipts := h.receipts.symm
  impactReceipts := h.impactReceipts.symm
  consents := h.consents.symm
  preferences := h.preferences.symm
  intents := h.intents.symm
  deliveries := h.deliveries.symm

theorem requireDonor_eq (h : Alike donorId ws ws') :
    requireDonor ws.ledger donorId = requireDonor ws'.ledger donorId := by
  rw [requireDonor, requireDonor, h.donor, h.organization]

/-! ## Balances -/

/-- The designations of a donation are among those of its donor. -/
theorem designationsFor_of_mem {don : Donation} (hdon : don ∈ ws.donationsOf donorId) :
    designationsFor ws.ledger don.id =
      (ws.designationsOf donorId).filter fun da => da.donationId = don.id := by
  rw [designationsFor, Tenant.designationsOf, List.filter_filter]
  refine List.filter_congr fun da _ => ?_
  rw [eq_comm, Bool.and_eq_left_iff_imp]
  intro heq
  exact decide_eq_true (of_decide_eq_true heq ▸ List.mem_map_of_mem hdon)

theorem designationsFor_eq (h : Alike donorId ws ws') {don : Donation}
    (hdon : don ∈ ws.donationsOf donorId) :
    designationsFor ws.ledger don.id = designationsFor ws'.ledger don.id := by
  rw [designationsFor_of_mem hdon, designationsFor_of_mem (h.donations ▸ hdon), h.designations]

theorem designatedTotals_eq (h : Alike donorId ws ws') :
    designatedTotals ws.ledger donorId = designatedTotals ws'.ledger donorId := by
  rw [designatedTotals, designatedTotals, show donationsOf ws'.ledger donorId = _ from
    h.donations.symm]
  refine List.foldl_ext _ _ _ fun d don hdon => ?_
  exact congrArg (List.foldl addDesignation d) (h.designationsFor_eq hdon)

theorem expenseIn_eq (h : Alike donorId ws ws') (states : List ExpenseState) (e : Id) :
    ws.ledger.expenseIn states e = ws'.ledger.expenseIn states e := by
  rw [Ledger.expenseIn, Ledger.expenseIn, h.expenses]

theorem expenseActive_eq (h : Alike donorId ws ws') (e : Id) :
    ws.ledger.expenseActive e = ws'.ledger.expenseActive e := by
  rw [Ledger.expenseActive, Ledger.expenseActive, h.expenses]

/-- The amounts are of attributions of the donor. -/
theorem amountsOn_of_attributions (a : Id) (counts : Id → Bool) :
    amountsOn ws.ledger donorId a counts =
      ((ws.attributionsOf donorId).filter fun attr =>
        attr.allocationId = a && counts attr.expenseId).map (·.attributedAmount) := by
  rw [amountsOn, Tenant.attributionsOf, List.filter_filter]
  simp only [Bool.and_comm, Bool.and_left_comm]

theorem usedAmounts_eq (h : Alike donorId ws ws') (a : Id) :
    usedAmounts ws.ledger donorId a = usedAmounts ws'.ledger donorId a := by
  simp only [usedAmounts, amountsOn_of_attributions, h.attributions, h.expenseIn_eq]

theorem pendingAmounts_eq (h : Alike donorId ws ws') (a : Id) :
    pendingAmounts ws.ledger donorId a = pendingAmounts ws'.ledger donorId a := by
  simp only [pendingAmounts, amountsOn_of_attributions, h.attributions, h.expenseIn_eq,
    h.expenseActive_eq]

theorem balanceViews_eq (h : Alike donorId ws ws') (totals : List (Id × Int)) :
    balanceViews ws.ledger donorId totals = balanceViews ws'.ledger donorId totals := by
  induction totals with
  | nil => rfl
  | cons e totals ih =>
      rw [balanceViews, balanceViews, h.allocations, ih]
      simp only [balanceView, h.usedAmounts_eq, h.pendingAmounts_eq]

theorem allocationBalances_eq (h : Alike donorId ws ws') :
    allocationBalances ws.ledger donorId = allocationBalances ws'.ledger donorId := by
  rw [allocationBalances, allocationBalances, h.requireDonor_eq, h.designatedTotals_eq]
  simp only [h.balanceViews_eq]

/-! ## Timeline, receipts, dashboard -/

theorem assignments_eq (h : Alike donorId ws ws') (don : Donation)
    (das : List DonationAllocation) : assignments ws don das = assignments ws' don das := by
  induction das with
  | nil => rfl
  | cons da das ih =>
      rw [assignments, assignments, allocationAssigned, allocationAssigned, h.allocations, ih]

theorem donationEvents_eq (h : Alike donorId ws ws') {dons : List Donation}
    (hdons : dons ⊆ ws.donationsOf donorId) : donationEvents ws dons = donationEvents ws' dons := by
  induction dons with
  | nil => rfl
  | cons don dons ih =>
      obtain ⟨hdon, hdons⟩ := List.cons_subset.mp hdons
      rw [donationEvents, donationEvents, h.designationsFor_eq hdon, h.assignments_eq, ih hdons]

theorem fundTimeline_eq (h : Alike donorId ws ws') :
    fundTimeline ws donorId = fundTimeline ws' donorId := by
  rw [fundTimeline, fundTimeline, h.requireDonor_eq, h.donationEvents_eq (List.Subset.refl _),
    h.donations, h.receipts, h.impactReceipts]

theorem listReceipts_eq (h : Alike donorId ws ws') :
    listReceipts ws donorId = listReceipts ws' donorId := by
  rw [listReceipts, listReceipts, h.requireDonor_eq, h.receipts, h.impactReceipts]

theorem donorDashboard_eq (h : Alike donorId ws ws') :
    donorDashboard ws donorId = donorDashboard ws' donorId := by
  rw [donorDashboard, donorDashboard, h.requireDonor_eq, h.allocationBalances_eq,
    h.fundTimeline_eq, h.listReceipts_eq, h.organization]

end Alike

/-! ## Whose receipt an id is of -/

/-- The id of a receipt of the donor, of either kind. -/
def OwnsReceipt (ws : Tenant) (donorId receiptId : Id) : Prop :=
  (∃ r ∈ ws.receiptsOf donorId, r.receiptId = receiptId) ∨
    ∃ ir ∈ ws.impactReceiptsOf donorId, ir.receiptId = receiptId

namespace Tenant.Kept

open DonorReadService

variable {donorId receiptId : Id} {ws : Tenant}

theorem mem_receiptsOf_iff (h : ws.Kept) {r : UseOfFundsReceipt} :
    r ∈ ws.receiptsOf donorId ∧ r.receiptId = receiptId ↔
      ws.ledger.receipts.get? receiptId = some r ∧ r.donorId = donorId := by
  rw [receiptsOf, List.mem_filter, decide_eq_true_eq]
  constructor
  · rintro ⟨⟨hr, hdonor⟩, rfl⟩
    obtain ⟨rid, hget⟩ := Dict.mem_values.mp hr
    exact ⟨h.filed rid r hget ▸ hget, hdonor⟩
  · rintro ⟨hget, hdonor⟩
    exact ⟨⟨Dict.mem_values.mpr ⟨_, hget⟩, hdonor⟩, h.filed _ r hget⟩

theorem mem_impactReceiptsOf_iff {ir : ImpactReceipt} :
    ir ∈ ws.impactReceiptsOf donorId ∧ ir.receiptId = receiptId ↔
      ws.impact.impactReceipts.find? receiptId = some ir ∧ ir.donorId = donorId := by
  rw [impactReceiptsOf, List.mem_filter, decide_eq_true_eq, Table.mem_rows]
  constructor
  · rintro ⟨⟨hfind, hdonor⟩, rfl⟩
    exact ⟨hfind, hdonor⟩
  · rintro ⟨hfind, hdonor⟩
    have hid : ir.receiptId = receiptId := Table.key_of_find? hfind
    exact ⟨⟨hid.symm ▸ hfind, hdonor⟩, hid⟩

/-- The id of an impact receipt is not the id of a receipt of the ledger. -/
theorem receipt_eq_none (h : ws.Kept) {ir : ImpactReceipt}
    (hfind : ws.impact.impactReceipts.find? receiptId = some ir) :
    ws.ledger.receipts.get? receiptId = none := by
  rw [Dict.get?_eq_none]
  intro hmem
  have hid : ir.receiptId = receiptId := Table.key_of_find? hfind
  have himpact := h.impactReceipts ir (Table.mem_rows.mpr (hid.symm ▸ hfind))
  rw [hid] at himpact
  exact absurd (startsWith_unique (h.receipts _ hmem) himpact) (by decide)

/-- A receipt of another donor is refused like one that is not there. -/
theorem getReceiptDetail_of_other (h : ws.Kept) {other : Id} (hother : other ≠ donorId)
    (howns : OwnsReceipt ws other receiptId) :
    getReceiptDetail ws donorId receiptId = .error (notFoundError
      (if donorId ∈ ws.ledger.donors then s!"receipt not found: {receiptId}"
        else s!"donor not found: {donorId}")) := by
  by_cases hdonor : donorId ∈ ws.ledger.donors
  swap
  · rw [getReceiptDetail, requireDonor, Dict.get?_eq_none.mpr hdonor, if_neg hdonor]
    rfl
  rw [getReceiptDetail, requireDonor_ok h.books hdonor, if_pos hdonor]
  rcases howns with ⟨r, hr⟩ | ⟨ir, hir⟩
  · obtain ⟨hget, hmine⟩ := h.mem_receiptsOf_iff.mp hr
    rw [hget]
    exact if_pos fun heq => hother (hmine.symm.trans heq)
  · obtain ⟨hfind, hmine⟩ := mem_impactReceiptsOf_iff.mp hir
    rw [h.receipt_eq_none hfind, hfind]
    exact if_pos fun heq => hother (hmine.symm.trans heq)

end Tenant.Kept

/-! ## Details and the export -/

namespace Alike

open DonorReadService Tenant.Kept

variable {donorId receiptId : Id} {ws ws' : Tenant}

/-- A receipt of the donor is found under its id in both. -/
theorem receipt_of_own (h : Alike donorId ws ws') (hws : ws.Kept) (hws' : ws'.Kept)
    {r : UseOfFundsReceipt} (hget : ws.ledger.receipts.get? receiptId = some r)
    (hdonor : r.donorId = donorId) : ws'.ledger.receipts.get? receiptId = some r := by
  obtain ⟨hr, hid⟩ := hws.mem_receiptsOf_iff.mpr ⟨hget, hdonor⟩
  rw [h.receipts] at hr
  exact (hws'.mem_receiptsOf_iff.mp ⟨hr, hid⟩).1

theorem own_eq (h : Alike donorId ws ws') (hws : ws.Kept) (hws' : ws'.Kept) (rid : Id) :
    ((ws.ledger.receipts.get? rid).bind fun r => if r.donorId = donorId then some r else none) =
      (ws'.ledger.receipts.get? rid).bind fun r => if r.donorId = donorId then some r else none := by
  refine Option.ext fun r => ?_
  simp only [Option.bind_eq_some_iff, Option.ite_none_right_eq_some, Option.some.injEq]
  constructor
  · rintro ⟨_, hget, hdonor, rfl⟩
    exact ⟨_, h.receipt_of_own hws hws' hget hdonor, hdonor, rfl⟩
  · rintro ⟨_, hget, hdonor, rfl⟩
    exact ⟨_, h.symm.receipt_of_own hws' hws hget hdonor, hdonor, rfl⟩

theorem priorOf_eq (h : Alike donorId ws ws') (hws : ws.Kept) (hws' : ws'.Kept)
    {r : UseOfFundsReceipt} (hget : ws.ledger.receipts.get? receiptId = some r)
    (hget' : ws'.ledger.receipts.get? receiptId = some r) :
    priorOf ws donorId receiptId = priorOf ws' donorId receiptId := by
  rw [priorOf, priorOf, hget, hget']
  cases hprior : orElse r.correctsReceiptId none with
  | none => simp only [Option.bind_eq_bind, Option.bind_some, hprior, Option.bind_none]
  | some priorId =>
      simp only [Option.bind_eq_bind, Option.bind_some, hprior]
      exact h.own_eq hws hws' priorId

theorem useOfFundsDetail_eq (h : Alike donorId ws ws') (hws : ws.Kept) (hws' : ws'.Kept)
    {r : UseOfFundsReceipt} (hget : ws.ledger.receipts.get? receiptId = some r)
    (hget' : ws'.ledger.receipts.get? receiptId = some r) :
    useOfFundsDetail ws donorId receiptId r = useOfFundsDetail ws' donorId receiptId r := by
  rw [useOfFundsDetail, useOfFundsDetail, correctionHistory, correctionHistory,
    evidenceSafeAttachments, evidenceSafeAttachments, h.requireDonor_eq, h.allocationBalances_eq,
    h.priorOf_eq hws hws' hget hget', h.receipts, h.evidence, hget, hget']

theorem getReceiptDetail_eq (h : Alike donorId ws ws') (hws : ws.Kept) (hws' : ws'.Kept)
    (howns : OwnsReceipt ws donorId receiptId) :
    getReceiptDetail ws donorId receiptId = getReceiptDetail ws' donorId receiptId := by
  rw [getReceiptDetail, getReceiptDetail, h.requireDonor_eq]
  rcases howns with ⟨r, hr⟩ | ⟨ir, hir⟩
  · obtain ⟨hget, hdonor⟩ := hws.mem_receiptsOf_iff.mp hr
    have hget' := h.receipt_of_own hws hws' hget hdonor
    rw [hget, hget']
    simp only [h.useOfFundsDetail_eq hws hws' hget hget']
  · obtain ⟨hfind, -⟩ := mem_impactReceiptsOf_iff.mp hir
    obtain ⟨hfind', -⟩ := mem_impactReceiptsOf_iff.mp ⟨h.impactReceipts ▸ hir.1, hir.2⟩
    rw [hws.receipt_eq_none hfind, hws'.receipt_eq_none hfind', hfind, hfind']

theorem assertDonor_eq (h : Alike donorId ws ws') :
    ws.assertDonor donorId = ws'.assertDonor donorId := by
  rw [Tenant.assertDonor, Tenant.assertDonor, TenantWorkspace.assertDonor,
    TenantWorkspace.assertDonor]
  cases hdonor : ws.ledger.donors.get? donorId with
  | none =>
      rw [h.donor.symm.trans hdonor]
      rfl
  | some donor =>
      rw [h.donor.symm.trans hdonor]
      by_cases horg : donor.organizationId ≠ ws.ledger.organization.id
      · simp only [orRaise, pure_bind, raiseIf, if_pos horg, if_pos (h.organization ▸ horg)]
        rfl
      · simp only [orRaise, pure_bind, raiseIf, if_neg horg, if_neg (h.organization ▸ horg)]
        rfl

theorem exportDonorData_eq (h : Alike donorId ws ws') (hws : ws.Kept) (hws' : ws'.Kept)
    (host : Host) : ws.exportDonorData host donorId = ws'.exportDonorData host donorId := by
  have hledger : ws.ledgerExport donorId = ws'.ledgerExport donorId := by
    rw [Tenant.ledgerExport, Tenant.ledgerExport, h.donations, h.designations, h.attributions,
      h.receipts, h.impactReceipts]
  have hnotifications : ws.notificationsExport donorId = ws'.notificationsExport donorId := by
    rw [Tenant.notificationsExport, Tenant.notificationsExport, h.consents, h.preferences,
      h.intents, Tenant.exportedDeliveries_eq hws.notifications,
      Tenant.exportedDeliveries_eq hws'.notifications, h.deliveries]
  rw [Tenant.exportDonorData, Tenant.exportDonorData, h.assertDonor_eq, h.donor,
    h.donorDashboard_eq, h.fundTimeline_eq, h.allocationBalances_eq, h.organization, hledger,
    hnotifications]

end Alike

/-! ## The reads are private -/

open DonorReadService in
/-- The reads of a donor give the same in two tenants, receipts of others are refused as not
found, and an export has all records of the donor; it is made where the sums of the balances
have no more digits than the decimal context. -/
structure ReadsPrivate (donorId : Id) (ws ws' : Tenant) : Prop where
  dashboard : donorDashboard ws donorId = donorDashboard ws' donorId
  details : ∀ receiptId, OwnsReceipt ws donorId receiptId →
    getReceiptDetail ws donorId receiptId = getReceiptDetail ws' donorId receiptId
  refused : ∀ other, other ≠ donorId → ∀ receiptId, OwnsReceipt ws other receiptId →
    getReceiptDetail ws donorId receiptId = .error (notFoundError
      (if donorId ∈ ws.ledger.donors then s!"receipt not found: {receiptId}"
        else s!"donor not found: {donorId}"))
  exported : ∀ host : Host, ws.exportDonorData host donorId = ws'.exportDonorData host donorId
  complete : ∀ (host : Host) e, ws.exportDonorData host donorId = .ok e → ws.Exports donorId e
  made : donorId ∈ ws.ledger.donors →
    (∀ a ∈ ws.ledger.allocations.keys, TotalsFit ws.ledger donorId a) →
    ∀ host : Host, ∃ e, ws.exportDonorData host donorId = .ok e

theorem donor_reads_private [Digest] (organization organization' : Organization)
    (as as' : List TenantAction) (donorId : Id)
    (hfresh : Along Tenant.step Tenant.FreshIntent (.new organization) as)
    (hfresh' : Along Tenant.step Tenant.FreshIntent (.new organization') as')
    (halike : Alike donorId (run Tenant.step (.new organization) as)
      (run Tenant.step (.new organization') as')) :
    ReadsPrivate donorId (run Tenant.step (.new organization) as)
      (run Tenant.step (.new organization') as') := by
  have hkept := Tenant.kept_of_run hfresh
  have hkept' := Tenant.kept_of_run hfresh'
  constructor
  · exact halike.donorDashboard_eq
  · exact fun _ howns => halike.getReceiptDetail_eq hkept hkept' howns
  · exact fun _ hother _ howns => hkept.getReceiptDetail_of_other hother howns
  · exact fun host => halike.exportDonorData_eq hkept hkept' host
  · exact fun _ _ hexport => Tenant.exportDonorData_exports hkept.notifications hexport
  · exact fun hdonor hfits host =>
      Tenant.exportDonorData_ok host hkept.books hkept.positive hdonor hfits

section Sample

/-- One digest for all bodies: the hash of a receipt is not looked at here. -/
@[reducible] def Tenant.Sample.constantDigest : Digest := ⟨fun _ => "digest"⟩

attribute [local instance] Tenant.Sample.constantDigest

namespace Tenant.Sample

def draw (call : Nat) : Draw where
  hex _ k := toString call ++ "_" ++ toString k
  nowIso _ _ := "2026-01-01T00:00:00+00:00"

def ledgerActions (start : Nat) (ops : List Op) : List TenantAction :=
  (ops.zipIdx start).map fun e => .ledger (draw e.2) e.1

def consent (donorId : Id) : ConsentRecord :=
  { donorId, organizationId := "org", channel := .email, granted := true, provenance := "form",
    recordedAt := "2026-01-01T00:00:00+00:00" }

/-- A message about a receipt, with the consent to it. -/
def notified (start : Nat) (donorId receiptId : Id) : List TenantAction := [
  .notifications (draw start) (fun _ => none) (.recordConsent (consent donorId)),
  .notifications (draw (start + 1)) (fun _ => none)
    (.evaluateForUseOfFunds receiptId .email true [])]

/-- The donor gives 100.00; of an expense of 50.00 a share of 30.00 is the donor's. -/
def donorAlone : List TenantAction := ledgerActions 0 (Ledger.Sample.gift ++ [
  .importExpense (Ledger.Sample.expense "expense" 5000),
  .allocateExpense "expense" "fund" (.finite 50 0) none,
  .approveExpense "expense" "human:finance",
  .attributeDonorToExpense "donor" "gift" "expense" "fund" .directRestricted
    (some (.finite 30 0)) none,
  .publishUseOfFundsReceipt "expense" "gift" "fund" "human:finance" none]) ++
  notified 9 "donor" "uof_8_0"

/-- A second donor has the other share. -/
def withSecond : List TenantAction := donorAlone ++ ledgerActions 11 [
  .registerDonor { id := "second", organizationId := "org", displayName := "Second" },
  .importDonation { Ledger.Sample.donation with id := "gift2", donorId := "second" },
  .assignDonationAllocation "gift2" "fund" (.finite 100 0) none,
  .attributeDonorToExpense "second" "gift2" "expense" "fund" .directRestricted
    (some (.finite 20 0)) none,
  .publishUseOfFundsReceipt "expense" "gift2" "fund" "human:finance" none] ++
  notified 16 "second" "uof_15_0"

def reached (as : List TenantAction) : Tenant :=
  run Tenant.step (.new Ledger.Sample.organization) as

end Tenant.Sample

open Tenant.Sample

/-- The second donor's records make no difference to the reads of the first. -/
theorem donor_not_seen_by_second :
    ReadsPrivate "donor" (reached donorAlone) (reached withSecond) :=
  donor_reads_private _ _ donorAlone withSecond "donor" (by decide +kernel) (by decide +kernel) {
    organization := by decide +kernel
    allocations := fun a => congrArg (Dict.get? · a) (show
      (reached donorAlone).ledger.allocations = (reached withSecond).ledger.allocations by
        decide +kernel)
    expenses := fun e => congrArg (Dict.get? · e) (show
      (reached donorAlone).ledger.expenses = (reached withSecond).ledger.expenses by
        decide +kernel)
    evidence := by decide +kernel
    programs := fun _ => rfl
    donor := by decide +kernel
    donations := by decide +kernel
    designations := by decide +kernel
    attributions := by decide +kernel
    receipts := by decide +kernel
    impactReceipts := by decide +kernel
    consents := by decide +kernel
    preferences := by decide +kernel
    intents := by decide +kernel
    deliveries := by decide +kernel }

/-- The donor gives 60000000000000000000000000.00 twice, both to one fund. -/
def Tenant.Sample.largeGifts : List TenantAction := ledgerActions 0 (Ledger.Sample.gift ++
  Ledger.Sample.given "large" 6000000000000000000000000000 ++
  Ledger.Sample.given "second" 6000000000000000000000000000)

/-- The donor's total on the fund has one digit too many, and the export raises. -/
theorem export_not_always_made : ¬ ∀ (organization : Organization) (as : List TenantAction)
    (donorId : Id), Along Tenant.step Tenant.FreshIntent (.new organization) as →
      donorId ∈ (run Tenant.step (.new organization) as).ledger.donors → ∀ host : Host,
        ∃ e, (run Tenant.step (.new organization) as).exportDonorData host donorId = .ok e ∧
          (run Tenant.step (.new organization) as).Exports donorId e := by
  intro h
  obtain ⟨e, hexport, -⟩ := h Ledger.Sample.organization largeGifts "donor" (by decide +kernel)
    (by decide +kernel) (draw 20).host
  have hraises : ((reached largeGifts).exportDonorData (draw 20).host "donor").isOk = false := by
    decide +kernel
  rw [reached, hexport] at hraises
  cases hraises

example : OwnsReceipt (reached withSecond) "donor" "uof_8_0" ∧
    OwnsReceipt (reached withSecond) "second" "uof_15_0" ∧
    (reached withSecond).notifications.deliveries.values.map (·.donorId) = ["donor", "second"] := by
  refine ⟨Or.inl ?_, Or.inl ?_, ?_⟩ <;> decide +kernel

end Sample

end ImpactRelay
