/-
# `Domain.DonorExport` — the export of a donor's data

`export_donor_data` of `privacy_ops.py`.  The export is built from every store of the
tenant, each filtered to the donor and sorted by id, and from the donor's projections.

An export lists each record of the donor once (`exportDonorData_exports`).  The export of a
registered donor is made as long as the sums of the balances have no more digits than the
decimal context (`exportDonorData_ok`).  The deliveries take two filters, the donor's and the one of
the donor's intents; in coherent stores the second adds nothing (`exportedDeliveries_eq`).
-/
import ImpactRelay.Domain.DonorReads
import ImpactRelay.Domain.LedgerLog
import ImpactRelay.Domain.PrivacyOps

namespace ImpactRelay

open Raise

/-! ## Records as dictionaries -/

def ConsentRecord.toJson (c : ConsentRecord) : Json :=
  .obj [("donor_id", .str c.donorId), ("organization_id", .str c.organizationId),
    ("channel", .str c.channel.value), ("granted", .bool c.granted),
    ("provenance", .str c.provenance), ("recorded_at", .str c.recordedAt)]

def NotificationPreference.toJson (p : NotificationPreference) : Json :=
  .obj [("donor_id", .str p.donorId), ("organization_id", .str p.organizationId),
    ("channel", .str p.channel.value), ("enabled", .bool p.enabled),
    ("topics", .arr (p.topics.map .str)), ("cadence", .str p.cadence),
    ("quiet_hours_start", Json.ofOption p.quietHoursStart),
    ("quiet_hours_end", Json.ofOption p.quietHoursEnd)]

def NotificationIntent.toJson (i : NotificationIntent) : Json :=
  .obj [("id", .str i.id), ("organization_id", .str i.organizationId), ("donor_id", .str i.donorId),
    ("channel", .str i.channel.value), ("message_class", .str i.messageClass.value),
    ("source_type", .str i.sourceType), ("source_id", .str i.sourceId),
    ("dedup_key", .str i.dedupKey), ("policy_version", .str i.policyVersion),
    ("status", .str i.status.value), ("template_version", .str i.templateVersion),
    ("payload", .obj i.payload), ("created_at", .str i.createdAt)]

def NotificationDelivery.toJson (d : NotificationDelivery) : Json :=
  .obj [("id", .str d.id), ("intent_id", .str d.intentId),
    ("organization_id", .str d.organizationId), ("donor_id", .str d.donorId),
    ("channel", .str d.channel.value), ("success", .bool d.success), ("provider", .str d.provider),
    ("provider_receipt", .str d.providerReceipt), ("attempted_at", .str d.attemptedAt),
    ("detail", .str d.detail)]

/-! ## The export -/

namespace Tenant

open DonorReadService

variable (host : Host) (ws : Tenant) (donorId : Id)

/-- `_assert_donor`, which writes nothing. -/
def assertDonor : Except PyExc Unit :=
  match (TenantWorkspace.assertDonor ws.ledger donorId).run ws.notifications with
  | .ok _ _ => .ok ()
  | .error e _ => .error e

/-- The donor's deliveries, and those of the donor's intents. -/
def exportedDeliveries : List NotificationDelivery :=
  ws.notifications.deliveries.values.filter fun d =>
    decide (d.donorId = donorId) || decide (d.intentId ∈ (ws.intentsOf donorId).map (·.id))

/-- The records of the ledger and the impact stores. -/
def ledgerExport : Json :=
  .obj [
    ("donations", .arr ((sortedBy (·.id) (ws.donationsOf donorId)).map (·.toJson))),
    ("donation_allocations", .arr ((sortedBy (·.id) (ws.designationsOf donorId)).map (·.toJson))),
    ("attributions", .arr ((sortedBy (·.id) (ws.attributionsOf donorId)).map (·.toJson))),
    ("use_of_funds_receipts",
      .arr ((sortedBy (·.receiptId) (ws.receiptsOf donorId)).map (·.toDict))),
    ("impact_receipts",
      .arr ((sortedBy (·.receiptId) (ws.impactReceiptsOf donorId)).map (·.toDict)))]

def notificationsExport : Json :=
  .obj [
    ("consents", .arr ((sortedBy (·.channel.value) (ws.consentsOf donorId)).map (·.toJson))),
    ("preferences",
      .arr ((sortedBy (·.channel.value) (ws.preferencesOf donorId)).map (·.toJson))),
    ("intents", .arr ((sortedBy (·.id) (ws.intentsOf donorId)).map (·.toJson))),
    ("deliveries", .arr ((sortedBy (·.id) (ws.exportedDeliveries donorId)).map (·.toJson)))]

/-- Build a donor-scoped portable export from immutable and mutable stores. -/
def exportDonorData : Except PyExc Json := do
  ws.assertDonor donorId
  match ws.ledger.donors.get? donorId with
  | none => .error (keyError donorId)
  | some donor => do
      let dashboard ← donorDashboard ws donorId
      let timeline ← fundTimeline ws donorId
      let balances ← allocationBalances ws.ledger donorId
      return .obj [
        ("export_kind", .str "donor_data_portable_export"),
        ("schema_version", .str "v1.0"),
        ("organization", .obj [
          ("id", .str ws.ledger.organization.id),
          ("name", .str ws.ledger.organization.name),
          ("policy_version", .str ws.ledger.organization.policyVersion)]),
        ("donor", donor.toJson),
        ("ledger", ws.ledgerExport donorId),
        ("donor_experience", .obj [
          ("dashboard", dashboard),
          ("timeline", .arr (timeline.map (·.toDict))),
          ("allocation_balances", .arr (balances.map (·.toDict)))]),
        ("notifications", ws.notificationsExport donorId),
        ("exported_at", .str (host.nowIso "export" 0))]

/-! ## What an export lists -/

/-- The list under `part` and `name` is these records, each of them once. -/
def Lists (e : Json) (part name : String) (records : List Json) : Prop :=
  ∃ listed, (e.field? part).bind (·.field? name) = some (.arr listed) ∧ listed.Perm records

/-- Every record of the donor is in the export. -/
structure Exports (ws : Tenant) (donorId : Id) (e : Json) : Prop where
  donor : e.field? "donor" = (ws.ledger.donors.get? donorId).map (·.toJson)
  donations : Lists e "ledger" "donations" ((ws.donationsOf donorId).map (·.toJson))
  designations :
    Lists e "ledger" "donation_allocations" ((ws.designationsOf donorId).map (·.toJson))
  attributions : Lists e "ledger" "attributions" ((ws.attributionsOf donorId).map (·.toJson))
  receipts : Lists e "ledger" "use_of_funds_receipts" ((ws.receiptsOf donorId).map (·.toDict))
  impactReceipts :
    Lists e "ledger" "impact_receipts" ((ws.impactReceiptsOf donorId).map (·.toDict))
  consents : Lists e "notifications" "consents" ((ws.consentsOf donorId).map (·.toJson))
  preferences : Lists e "notifications" "preferences" ((ws.preferencesOf donorId).map (·.toJson))
  intents : Lists e "notifications" "intents" ((ws.intentsOf donorId).map (·.toJson))
  deliveries : Lists e "notifications" "deliveries" ((ws.deliveriesOf donorId).map (·.toJson))

end Tenant

/-! ## An export is made -/

namespace DonorReadService

variable {ws : Tenant} {donorId : Id}

theorem assignments_ok (don : Donation) {das : List DonationAllocation}
    (h : ∀ da ∈ das, da.allocationId ∈ ws.ledger.allocations) :
    ∃ events, assignments ws don das = .ok events := by
  induction das with
  | nil => exact ⟨[], rfl⟩
  | cons da das ih =>
      obtain ⟨hda, hdas⟩ := List.forall_mem_cons.mp h
      obtain ⟨alloc, halloc⟩ := Dict.mem_iff_get?.mp hda
      obtain ⟨events, hevents⟩ := ih hdas
      rw [assignments, allocationAssigned, halloc, hevents]
      exact ⟨_, rfl⟩

theorem donationEvents_ok (h : ws.ledger.OwnBooks) (dons : List Donation) :
    ∃ events, donationEvents ws dons = .ok events := by
  induction dons with
  | nil => exact ⟨[], rfl⟩
  | cons don dons ih =>
      have hfunds : ∀ da ∈ designationsFor ws.ledger don.id,
          da.allocationId ∈ ws.ledger.allocations :=
        fun da hda => h.designation da (List.mem_of_mem_filter hda)
      obtain ⟨assigned, hassigned⟩ := assignments_ok don hfunds
      obtain ⟨events, hevents⟩ := ih
      rw [donationEvents, hassigned, hevents]
      exact ⟨_, rfl⟩

theorem fundTimeline_ok (h : ws.ledger.OwnBooks) (hdonor : donorId ∈ ws.ledger.donors) :
    ∃ events, fundTimeline ws donorId = .ok events := by
  obtain ⟨events, hevents⟩ := donationEvents_ok h (ws.donationsOf donorId)
  rw [fundTimeline, requireDonor_ok h hdonor, hevents]
  exact ⟨_, rfl⟩

theorem donorDashboard_ok (h : ws.ledger.OwnBooks) (hpositive : ws.ledger.Positive)
    (hdonor : donorId ∈ ws.ledger.donors)
    (hfits : ∀ a ∈ ws.ledger.allocations.keys, TotalsFit ws.ledger donorId a) :
    ∃ dashboard, donorDashboard ws donorId = .ok dashboard := by
  obtain ⟨views, hviews, -⟩ := agrees_of_ownBooks h hpositive hdonor hfits
  obtain ⟨events, hevents⟩ := fundTimeline_ok h hdonor
  rw [donorDashboard, listReceipts, requireDonor_ok h hdonor, hviews, hevents]
  exact ⟨_, rfl⟩

end DonorReadService

namespace Tenant

open DonorReadService

variable {host : Host} {ws : Tenant} {donorId : Id}

theorem assertDonor_ok (h : ws.ledger.OwnBooks) (hdonor : donorId ∈ ws.ledger.donors) :
    ws.assertDonor donorId = .ok () := by
  obtain ⟨donor, hget⟩ := Dict.mem_iff_get?.mp hdonor
  have hreturns : Returns (TenantWorkspace.assertDonor ws.ledger donorId) ws.notifications ()
      ws.notifications := by
    rw [TenantWorkspace.assertDonor, returns_orRaise_bind]
    exact ⟨donor, hget, returns_raiseIf.mpr ⟨not_not.mpr (h.donor donorId donor hget), rfl⟩⟩
  rw [assertDonor, show EStateM.run _ _ = _ from hreturns]

theorem lists_of_sorted {α : Type} {e : Json} {part name : String} {key : α → String}
    {toJson : α → Json} {items : List α}
    (h : (e.field? part).bind (·.field? name) = some (.arr ((sortedBy key items).map toJson))) :
    Lists e part name (items.map toJson) :=
  ⟨_, h, (List.mergeSort_perm items _).map toJson⟩

/-- A delivery of an intent of the donor is the donor's. -/
theorem exportedDeliveries_eq (h : ws.notifications.Coherent) :
    ws.exportedDeliveries donorId = ws.deliveriesOf donorId := by
  refine List.filter_congr fun d hd => ?_
  rw [Bool.or_eq_left_iff_imp]
  intro hmine
  obtain ⟨i, hi, hid⟩ := List.mem_map.mp (of_decide_eq_true hmine)
  obtain ⟨hi, hdonor⟩ := List.mem_filter.mp hi
  obtain ⟨k, hk⟩ := Dict.mem_values.mp hi
  obtain ⟨k', hd⟩ := Dict.mem_values.mp hd
  obtain ⟨own, hown, hsame⟩ := h.deliveries hd
  -- the intent that the delivery names is the one found
  rw [← hid, ← (h.intents hk).1, hk] at hown
  rw [hsame, ← Option.some.inj hown]
  exact hdonor

/-- The export of a registered donor is made where no sum is too long. -/
theorem exportDonorData_ok (host : Host) (hbooks : ws.ledger.OwnBooks)
    (hpositive : ws.ledger.Positive) (hdonor : donorId ∈ ws.ledger.donors)
    (hfits : ∀ a ∈ ws.ledger.allocations.keys, TotalsFit ws.ledger donorId a) :
    ∃ e, exportDonorData host ws donorId = .ok e := by
  obtain ⟨donor, hget⟩ := Dict.mem_iff_get?.mp hdonor
  obtain ⟨dashboard, hdashboard⟩ := donorDashboard_ok hbooks hpositive hdonor hfits
  obtain ⟨events, hevents⟩ := fundTimeline_ok hbooks hdonor
  obtain ⟨views, hviews, -⟩ := agrees_of_ownBooks hbooks hpositive hdonor hfits
  rw [exportDonorData, assertDonor_ok hbooks hdonor, hget]
  simp only [hdashboard, hevents, hviews]
  exact ⟨_, rfl⟩

/-- An export has every record of the donor. -/
theorem exportDonorData_exports (hcoherent : ws.notifications.Coherent) {e : Json}
    (h : exportDonorData host ws donorId = .ok e) : Exports ws donorId e := by
  obtain ⟨_, _, h⟩ := except_bind_eq_ok.mp h
  cases hget : ws.ledger.donors.get? donorId with
  | none =>
      rw [hget] at h
      cases h
  | some donor =>
  rw [hget] at h
  obtain ⟨dashboard, _, h⟩ := except_bind_eq_ok.mp h
  obtain ⟨timeline, _, h⟩ := except_bind_eq_ok.mp h
  obtain ⟨balances, _, h⟩ := except_bind_eq_ok.mp h
  cases h
  constructor
  · rw [hget]
    rfl
  · exact lists_of_sorted rfl
  · exact lists_of_sorted rfl
  · exact lists_of_sorted rfl
  · exact lists_of_sorted rfl
  · exact lists_of_sorted rfl
  · exact lists_of_sorted rfl
  · exact lists_of_sorted rfl
  · exact lists_of_sorted rfl
  · rw [← exportedDeliveries_eq hcoherent]
    exact lists_of_sorted rfl

end Tenant

end ImpactRelay
