/-
# `Domain.PrivacyOps` — erasing a donor's notification state

`erase_donor_notification_state` of `privacy_ops.py`, and what one successful
erasure leaves.  Three facts about it are proved:

  * the stores of every other donor read as before (`Coherent.othersKept`);
  * the donor has no preference and no granted consent, and no intent and no
    delivery when the history is erased too (`Coherent.forgotten`);
  * the stores stay coherent (`Coherent.erased`).

The first two need the stores to be coherent before, as they are after any
history of the notification service (`Domain.NotificationStores`).
-/
import ImpactRelay.Domain.NotificationStores
import Mathlib

namespace ImpactRelay

open Raise

def tenantIsolationError (msg : String) : PyExc := ⟨.tenantIsolationError, msg⟩

/-- What an erasure reports. -/
structure DonorNotificationEraseReceipt where
  donorId : Id
  organizationId : Id
  erasedAt : String
  revokedConsents : Nat
  removedPreferences : Nat
  removedIntents : Nat
  removedDeliveries : Nat
  immutableLedgerPreserved : Bool := true
deriving DecidableEq, Repr

namespace TenantWorkspace

def assertDonor (l : Ledger) (donorId : Id) : WorkspaceM Unit := do
  let donor ← orRaise (notFoundError s!"donor not found: {donorId}") (l.donors.get? donorId)
  raiseIf (donor.organizationId ≠ l.organization.id)
    (tenantIsolationError s!"cross-tenant donor access denied: {donorId}")

/-! ## What belongs to the donor -/

section Donor

variable (ws : TenantWorkspace) (donorId : Id)

def consentKeys : List (Id × NotificationChannel) := ws.consents.keys.filter (·.1 = donorId)

def preferenceKeys : List (Id × NotificationChannel) := ws.preferences.keys.filter (·.1 = donorId)

def donorIntents : List (Id × NotificationIntent) :=
  ws.intents.entries.filter (·.2.donorId = donorId)

def intentIds : List Id := (ws.donorIntents donorId).map Prod.fst

def deliveryIds : List Id :=
  (ws.deliveries.entries.filter fun e =>
    e.2.donorId = donorId ∨ e.2.intentId ∈ ws.intentIds donorId).map Prod.fst

/-- The channels a consent or a preference of the donor is about. -/
def erasureChannels : List NotificationChannel :=
  ((ws.consentKeys donorId).filterMap (fun key => (ws.consents.get? key).map (·.channel)) ++
    (ws.preferenceKeys donorId).filterMap
      (fun key => (ws.preferences.get? key).map (·.channel))).dedup

end Donor

/-! ## The erasure -/

def revokedConsent (l : Ledger) (donorId : Id) (channel : NotificationChannel)
    (actor provenance at_ : String) : ConsentRecord where
  donorId := donorId
  organizationId := l.organization.id
  channel := channel
  granted := false
  provenance := s!"{provenance}; actor={actor}; privacy_erasure=true"
  recordedAt := at_

def supersededIntent (intent : NotificationIntent) : NotificationIntent :=
  { intent with status := .superseded }

/-- The donor's preferences go, and each channel they or a consent was about is
left with a revoked consent. -/
def erasedConsents (l : Ledger) (ws : TenantWorkspace) (donorId : Id)
    (actor provenance at_ : String) (eraseHistory : Bool) :
    Dict (Id × NotificationChannel) ConsentRecord :=
  (if eraseHistory then ws.consents.popAll (ws.consentKeys donorId) else ws.consents).update
    ((ws.erasureChannels donorId).map fun channel =>
      ((donorId, channel), revokedConsent l donorId channel actor provenance at_))

/-- The workspace an erasure leaves. -/
def erased (l : Ledger) (ws : TenantWorkspace) (donorId : Id) (actor provenance at_ : String)
    (eraseHistory : Bool) : TenantWorkspace :=
  { ws with
    preferences := ws.preferences.popAll (ws.preferenceKeys donorId)
    consents := erasedConsents l ws donorId actor provenance at_ eraseHistory
    deliveries := if eraseHistory then ws.deliveries.popAll (ws.deliveryIds donorId)
      else ws.deliveries
    intents := if eraseHistory then ws.intents.popAll (ws.intentIds donorId)
      else ws.intents.update ((ws.donorIntents donorId).map fun e => (e.1, supersededIntent e.2))
    intentsByDedup :=
      if eraseHistory then
        ws.intentsByDedup.popAll ((ws.donorIntents donorId).map fun e => e.2.dedupKey)
      else ws.intentsByDedup.update
        ((ws.donorIntents donorId).map fun e => (e.2.dedupKey, supersededIntent e.2)) }

/-- Revoke consent and remove the donor's mutable notification state. -/
def eraseDonorNotificationState (host : Host) (l : Ledger) (donorId : Id)
    (actor provenance : String) (eraseHistory : Bool) (revokedAt : Option String) :
    WorkspaceM DonorNotificationEraseReceipt := do
  assertDonor l donorId
  raiseIf (Text.isBlank actor) ⟨.valueError, "actor is required"⟩
  raiseIf (Text.isBlank provenance) ⟨.valueError, "provenance is required"⟩
  let ws ← get
  let at_ := truthyOr revokedAt (host.nowIso "erasure" 0)
  modify fun ws => erased l ws donorId actor provenance at_ eraseHistory
  return {
    donorId
    organizationId := l.organization.id
    erasedAt := at_
    revokedConsents := (ws.erasureChannels donorId).length
    removedPreferences := (ws.preferenceKeys donorId).length
    removedIntents := if eraseHistory then (ws.intentIds donorId).length else 0
    removedDeliveries := if eraseHistory then (ws.deliveryIds donorId).length else 0 }

section Erase

variable {host : Host} {l : Ledger} {ws ws' : TenantWorkspace} {donorId : Id}
  {actor provenance : String} {eraseHistory : Bool} {revokedAt : Option String}
  {receipt : DonorNotificationEraseReceipt}

/-- An erasure that returns has found the donor in the tenant, and has an actor
and a provenance; what it leaves is `erased`. -/
theorem eraseDonorNotificationState_returns
    (h : Returns (eraseDonorNotificationState host l donorId actor provenance eraseHistory
      revokedAt) ws receipt ws') :
    donorId ∈ l.donors ∧ ∃ at_, ws' = erased l ws donorId actor provenance at_ eraseHistory := by
  rw [eraseDonorNotificationState] at h
  obtain ⟨_, ws₁, hdonor, h⟩ := returns_bind.mp h
  rw [assertDonor, returns_orRaise_bind] at hdonor
  obtain ⟨donor, hfound, hguard⟩ := hdonor
  obtain ⟨_, rfl⟩ := returns_raiseIf.mp hguard
  rw [returns_raiseIf_bind, returns_raiseIf_bind, returns_get_bind, returns_modify_bind,
    returns_pure] at h
  exact ⟨Dict.mem_of_get? hfound, _, h.2.2.2.symm⟩

/-- A donor of the tenant, an actor and a provenance: the erasure is done. -/
theorem eraseDonorNotificationState_accepts (host : Host) (ws : TenantWorkspace)
    (eraseHistory : Bool) (revokedAt : Option String) {donor : Donor}
    (hdonor : l.donors.get? donorId = some donor)
    (htenant : donor.organizationId = l.organization.id) (hactor : Text.isBlank actor = false)
    (hprovenance : Text.isBlank provenance = false) :
    ∃ receipt, Returns (eraseDonorNotificationState host l donorId actor provenance eraseHistory
      revokedAt) ws receipt (erased l ws donorId actor provenance
        (truthyOr revokedAt (host.nowIso "erasure" 0)) eraseHistory) := by
  have hguard : Returns (assertDonor l donorId) ws () ws := by
    rw [assertDonor, returns_orRaise_bind]
    exact ⟨donor, hdonor, returns_raiseIf.mpr ⟨not_not.mpr htenant, rfl⟩⟩
  rw [eraseDonorNotificationState]
  simp only [returns_bind (x := assertDonor l donorId), returns_raiseIf_bind, returns_get_bind,
    returns_modify_bind, returns_pure]
  exact ⟨_, (), ws, hguard, Bool.eq_false_iff.mp hactor, Bool.eq_false_iff.mp hprovenance, rfl, rfl⟩

end Erase

/-! ## What an erasure leaves -/

/-- The stores of the other donors are as before. -/
structure OthersKept (donorId : Id) (ws ws' : TenantWorkspace) : Prop where
  consents : ∀ k, k.1 ≠ donorId → ws'.consents.get? k = ws.consents.get? k
  preferences : ∀ k, k.1 ≠ donorId → ws'.preferences.get? k = ws.preferences.get? k
  intents : ∀ k i, i.donorId ≠ donorId →
    (ws'.intents.get? k = some i ↔ ws.intents.get? k = some i)
  dedup : ∀ k i, i.donorId ≠ donorId →
    (ws'.intentsByDedup.get? k = some i ↔ ws.intentsByDedup.get? k = some i)
  deliveries : ∀ k d, d.donorId ≠ donorId →
    (ws'.deliveries.get? k = some d ↔ ws.deliveries.get? k = some d)

/-- Nothing of the donor is left that an erasure is to remove. -/
structure Forgotten (donorId : Id) (eraseHistory : Bool) (ws : TenantWorkspace) : Prop where
  preferences : ∀ k ∈ ws.preferences, k.1 ≠ donorId
  consents : ∀ k c, ws.consents.get? k = some c → k.1 = donorId → c.granted = false
  intents : eraseHistory = true → ∀ k i, ws.intents.get? k = some i → i.donorId ≠ donorId
  deliveries : eraseHistory = true → ∀ k d, ws.deliveries.get? k = some d → d.donorId ≠ donorId

section Erased

variable {l : Ledger} {ws : TenantWorkspace} {donorId : Id} {actor provenance at_ : String}
  {eraseHistory : Bool}

theorem mem_donorIntents {k : Id} {i : NotificationIntent} :
    (k, i) ∈ ws.donorIntents donorId ↔ ws.intents.get? k = some i ∧ i.donorId = donorId := by
  rw [donorIntents, List.mem_filter, Dict.get?_eq_some, decide_eq_true_eq]

theorem mem_intentIds {k : Id} :
    k ∈ ws.intentIds donorId ↔ ∃ i, ws.intents.get? k = some i ∧ i.donorId = donorId := by
  simp [intentIds, mem_donorIntents]

theorem mem_deliveryIds {k : Id} :
    k ∈ ws.deliveryIds donorId ↔ ∃ d, ws.deliveries.get? k = some d ∧
      (d.donorId = donorId ∨ d.intentId ∈ ws.intentIds donorId) := by
  simp [deliveryIds, Dict.get?_eq_some]

theorem mem_consentKeys {k : Id × NotificationChannel} :
    k ∈ ws.consentKeys donorId ↔ k ∈ ws.consents ∧ k.1 = donorId := by
  rw [consentKeys, List.mem_filter, Dict.mem_def, decide_eq_true_eq]

theorem mem_preferenceKeys {k : Id × NotificationChannel} :
    k ∈ ws.preferenceKeys donorId ↔ k ∈ ws.preferences ∧ k.1 = donorId := by
  rw [preferenceKeys, List.mem_filter, Dict.mem_def, decide_eq_true_eq]

/-- The channels of the records are the channels of their keys. -/
theorem Coherent.mem_erasureChannels (hws : ws.Coherent) {channel : NotificationChannel} :
    channel ∈ ws.erasureChannels donorId ↔
      (donorId, channel) ∈ ws.consents ∨ (donorId, channel) ∈ ws.preferences := by
  rw [erasureChannels, List.mem_dedup, List.mem_append, List.mem_filterMap, List.mem_filterMap]
  refine or_congr ⟨?_, ?_⟩ ⟨?_, ?_⟩
  · rintro ⟨k, hk, hchannel⟩
    obtain ⟨c, hc, rfl⟩ := Option.map_eq_some_iff.mp hchannel
    obtain ⟨hmem, rfl⟩ := mem_consentKeys.mp hk
    have hkey := hws.consents hc
    rw [hkey] at hmem ⊢
    exact hmem
  · intro hmem
    obtain ⟨c, hc⟩ := Dict.mem_iff_get?.mp hmem
    refine ⟨(donorId, channel), mem_consentKeys.mpr ⟨hmem, rfl⟩, ?_⟩
    rw [hc, Option.map_some, (Prod.mk.inj (hws.consents hc)).2]
  · rintro ⟨k, hk, hchannel⟩
    obtain ⟨c, hc, rfl⟩ := Option.map_eq_some_iff.mp hchannel
    obtain ⟨hmem, rfl⟩ := mem_preferenceKeys.mp hk
    have hkey := hws.preferences hc
    rw [hkey] at hmem ⊢
    exact hmem
  · intro hmem
    obtain ⟨c, hc⟩ := Dict.mem_iff_get?.mp hmem
    refine ⟨(donorId, channel), mem_preferenceKeys.mpr ⟨hmem, rfl⟩, ?_⟩
    rw [hc, Option.map_some, (Prod.mk.inj (hws.preferences hc)).2]

/-! ### Store by store -/

/-- The donor's channels are left with a revoked consent each, and with the
history the other consents of the donor go. -/
theorem erased_consents_donor {k : Id × NotificationChannel} {c : ConsentRecord}
    (h : (erased l ws donorId actor provenance at_ eraseHistory).consents.get? k = some c) :
    (k.1 = donorId ∧ k.2 ∈ ws.erasureChannels donorId ∧
        c = revokedConsent l donorId k.2 actor provenance at_) ∨
      (k.2 ∉ ws.erasureChannels donorId ∨ k.1 ≠ donorId) ∧
        (eraseHistory = true → k.1 ≠ donorId) ∧ ws.consents.get? k = some c := by
  rcases Dict.get?_update_cases h with hmem | ⟨hmem, hget⟩
  · obtain ⟨channel, hchannel, heq⟩ := List.mem_map.mp hmem
    cases heq
    exact Or.inl ⟨rfl, hchannel, rfl⟩
  · refine Or.inr ⟨?_, ?_⟩
    · by_contra hnot
      rw [not_or, not_not, not_not] at hnot
      refine hmem (List.mem_map.mpr ⟨_, List.mem_map.mpr ⟨k.2, hnot.1, rfl⟩, ?_⟩)
      rw [← hnot.2]
    · cases eraseHistory with
      | false => exact ⟨fun h => (nomatch h), hget⟩
      | true =>
          obtain ⟨hkeys, hget⟩ := Dict.get?_popAll_eq_some.mp hget
          exact ⟨fun _ hk => hkeys (mem_consentKeys.mpr ⟨Dict.mem_of_get? hget, hk⟩), hget⟩

theorem erased_consents_other {k : Id × NotificationChannel} (hk : k.1 ≠ donorId) :
    (erased l ws donorId actor provenance at_ eraseHistory).consents.get? k =
      ws.consents.get? k := by
  have hmem : k ∉ ((ws.erasureChannels donorId).map fun channel =>
      ((donorId, channel), revokedConsent l donorId channel actor provenance at_)).map Prod.fst := by
    intro hmem
    simp only [List.map_map, List.mem_map, Function.comp] at hmem
    obtain ⟨channel, _, rfl⟩ := hmem
    exact hk rfl
  refine (Dict.get?_update_of_not_mem hmem).trans ?_
  cases eraseHistory with
  | false => rfl
  | true => exact Dict.get?_popAll_of_not_mem fun h => hk (mem_consentKeys.mp h).2

/-- A channel a record was about is left with a revoked consent. -/
theorem erased_consents_revoked {channel : NotificationChannel}
    (hchannel : channel ∈ ws.erasureChannels donorId) :
    (erased l ws donorId actor provenance at_ eraseHistory).consents.get? (donorId, channel) =
      some (revokedConsent l donorId channel actor provenance at_) := by
  refine Dict.get?_update_of_forall ?_ ?_
  · exact List.mem_map.mpr ⟨_, List.mem_map.mpr ⟨channel, hchannel, rfl⟩, rfl⟩
  · intro c hc
    obtain ⟨_, _, heq⟩ := List.mem_map.mp hc
    cases heq
    rfl

theorem erased_preferences {k : Id × NotificationChannel} {p : NotificationPreference} :
    (erased l ws donorId actor provenance at_ eraseHistory).preferences.get? k = some p ↔
      k.1 ≠ donorId ∧ ws.preferences.get? k = some p := by
  refine Dict.get?_popAll_eq_some.trans ⟨?_, ?_⟩
  · rintro ⟨hk, hp⟩
    exact ⟨fun h => hk (mem_preferenceKeys.mpr ⟨Dict.mem_of_get? hp, h⟩), hp⟩
  · rintro ⟨hk, hp⟩
    exact ⟨fun h => hk (mem_preferenceKeys.mp h).2, hp⟩

/-- What is left of an intent whose history is kept. -/
def retired (donorId : Id) (i : NotificationIntent) : NotificationIntent :=
  if i.donorId = donorId then supersededIntent i else i

@[simp] theorem retired_donorId (i : NotificationIntent) :
    (retired donorId i).donorId = i.donorId := by
  rw [retired]
  split <;> rfl

@[simp] theorem retired_dedupKey (i : NotificationIntent) :
    (retired donorId i).dedupKey = i.dedupKey := by
  rw [retired]
  split <;> rfl

@[simp] theorem retired_id (i : NotificationIntent) : (retired donorId i).id = i.id := by
  rw [retired]
  split <;> rfl

theorem retired_of_ne {i : NotificationIntent} (hi : i.donorId ≠ donorId) : retired donorId i = i :=
  if_neg hi

theorem map_retired_eq_some {o : Option NotificationIntent} {i : NotificationIntent}
    (hi : i.donorId ≠ donorId) : o.map (retired donorId) = some i ↔ o = some i := by
  rw [Option.map_eq_some_iff]
  constructor
  · rintro ⟨j, hj, rfl⟩
    rw [retired_donorId] at hi
    rw [hj, retired_of_ne hi]
  · exact fun ho => ⟨i, ho, retired_of_ne hi⟩

/-- Writing the superseded intents of the donor into a store that holds them
under the same keys maps `retired` over the store. -/
theorem get?_update_retired {store : Dict String NotificationIntent}
    (key : Id × NotificationIntent → String)
    (hstore : ∀ e ∈ ws.donorIntents donorId, store.get? (key e) = some e.2)
    (hdonor : ∀ k i, store.get? k = some i → i.donorId = donorId →
      ∃ e ∈ ws.donorIntents donorId, key e = k) (k : String) :
    (store.update ((ws.donorIntents donorId).map fun e => (key e, supersededIntent e.2))).get? k =
      (store.get? k).map (retired donorId) := by
  have hkeys : ((ws.donorIntents donorId).map fun e => (key e, supersededIntent e.2)).map Prod.fst =
      (ws.donorIntents donorId).map key := by
    rw [List.map_map]
    rfl
  by_cases hk : k ∈ (ws.donorIntents donorId).map key
  · obtain ⟨e, he, rfl⟩ := List.mem_map.mp hk
    have hown : e.2.donorId = donorId := (mem_donorIntents.mp he).2
    rw [hstore e he, Option.map_some, retired, if_pos hown]
    refine Dict.get?_update_of_forall (hkeys ▸ hk) fun i hi => ?_
    obtain ⟨e', he', heq⟩ := List.mem_map.mp hi
    obtain ⟨hkey, rfl⟩ := Prod.mk.inj heq
    have hsame : some e'.2 = some e.2 := by rw [← hstore e' he', hkey, hstore e he]
    rw [Option.some.inj hsame]
  · rw [Dict.get?_update_of_not_mem (hkeys ▸ hk)]
    cases hget : store.get? k with
    | none => rfl
    | some i =>
        have hne : i.donorId ≠ donorId := by
          intro hown
          obtain ⟨e, he, rfl⟩ := hdonor k i hget hown
          exact hk (List.mem_map_of_mem he)
        rw [Option.map_some, retired_of_ne hne]

theorem erased_intents_kept (k : Id) :
    (erased l ws donorId actor provenance at_ false).intents.get? k =
      (ws.intents.get? k).map (retired donorId) := by
  refine get?_update_retired Prod.fst (fun e he => ?_) (fun k i hi hown => ?_) k
  · exact (mem_donorIntents.mp he).1
  · exact ⟨(k, i), mem_donorIntents.mpr ⟨hi, hown⟩, rfl⟩

theorem Coherent.erased_dedup_kept (hws : ws.Coherent) (k : String) :
    (erased l ws donorId actor provenance at_ false).intentsByDedup.get? k =
      (ws.intentsByDedup.get? k).map (retired donorId) := by
  refine get?_update_retired (fun e => e.2.dedupKey) (fun e he => ?_)
    (fun k i hi hown => ?_) k
  · exact (hws.intents (mem_donorIntents.mp he).1).2
  · obtain ⟨rfl, hstored⟩ := hws.dedup hi
    exact ⟨(i.id, i), mem_donorIntents.mpr ⟨hstored, hown⟩, rfl⟩

theorem erased_intents_gone {k : Id} {i : NotificationIntent} :
    (erased l ws donorId actor provenance at_ true).intents.get? k = some i ↔
      i.donorId ≠ donorId ∧ ws.intents.get? k = some i := by
  refine Dict.get?_popAll_eq_some.trans (and_congr_left fun hi => not_congr ?_)
  rw [mem_intentIds, hi]
  exact ⟨fun ⟨_, hj, hown⟩ => Option.some.inj hj ▸ hown, fun hown => ⟨i, rfl, hown⟩⟩

theorem Coherent.erased_dedup_gone (hws : ws.Coherent) {k : String} {i : NotificationIntent} :
    (erased l ws donorId actor provenance at_ true).intentsByDedup.get? k = some i ↔
      i.donorId ≠ donorId ∧ ws.intentsByDedup.get? k = some i := by
  refine Dict.get?_popAll_eq_some.trans (and_congr_left fun hi => not_congr ?_)
  rw [List.mem_map]
  constructor
  · rintro ⟨e, he, rfl⟩
    obtain ⟨hstored, hown⟩ := mem_donorIntents.mp he
    have hsame : some e.2 = some i := (hws.intents hstored).2.symm.trans hi
    exact Option.some.inj hsame ▸ hown
  · intro hown
    obtain ⟨rfl, hstored⟩ := hws.dedup hi
    exact ⟨(i.id, i), mem_donorIntents.mpr ⟨hstored, hown⟩, rfl⟩

/-- A delivery is the donor's when its intent is. -/
theorem Coherent.mem_deliveryIds_iff (hws : ws.Coherent) {k : Id} {d : NotificationDelivery}
    (hd : ws.deliveries.get? k = some d) :
    k ∈ ws.deliveryIds donorId ↔ d.donorId = donorId := by
  rw [mem_deliveryIds]
  constructor
  · rintro ⟨d', hd', hown⟩
    obtain rfl : d = d' := Option.some.inj (hd.symm.trans hd')
    rcases hown with hown | hown
    · exact hown
    · obtain ⟨i, hi, rfl⟩ := mem_intentIds.mp hown
      obtain ⟨j, hj, hdonor⟩ := hws.deliveries hd
      obtain rfl : i = j := Option.some.inj (hi.symm.trans hj)
      exact hdonor
  · exact fun hown => ⟨d, hd, Or.inl hown⟩

theorem Coherent.erased_deliveries_gone (hws : ws.Coherent) {k : Id} {d : NotificationDelivery} :
    (erased l ws donorId actor provenance at_ true).deliveries.get? k = some d ↔
      d.donorId ≠ donorId ∧ ws.deliveries.get? k = some d :=
  Dict.get?_popAll_eq_some.trans
    (and_congr_left fun hd => not_congr (hws.mem_deliveryIds_iff hd))

/-! ### The three results -/

theorem Coherent.othersKept (hws : ws.Coherent) (l : Ledger) (donorId : Id)
    (actor provenance at_ : String) (eraseHistory : Bool) :
    OthersKept donorId ws (erased l ws donorId actor provenance at_ eraseHistory) where
  consents k hk := erased_consents_other hk
  preferences k hk := by
    refine Option.ext fun p => ?_
    rw [erased_preferences]
    exact and_iff_right hk
  intents k i hi := by
    cases eraseHistory with
    | true => exact erased_intents_gone.trans (and_iff_right hi)
    | false =>
        rw [erased_intents_kept]
        exact map_retired_eq_some hi
  dedup k i hi := by
    cases eraseHistory with
    | true => exact hws.erased_dedup_gone.trans (and_iff_right hi)
    | false =>
        rw [hws.erased_dedup_kept]
        exact map_retired_eq_some hi
  deliveries k d hd := by
    cases eraseHistory with
    | true => exact hws.erased_deliveries_gone.trans (and_iff_right hd)
    | false => exact Iff.rfl

theorem Coherent.forgotten (hws : ws.Coherent) (l : Ledger) (donorId : Id)
    (actor provenance at_ : String) (eraseHistory : Bool) :
    Forgotten donorId eraseHistory (erased l ws donorId actor provenance at_ eraseHistory) where
  preferences k hk := by
    obtain ⟨p, hp⟩ := Dict.mem_iff_get?.mp hk
    exact (erased_preferences.mp hp).1
  consents k c hc hk := by
    rcases erased_consents_donor hc with ⟨_, _, rfl⟩ | ⟨hchannel, _, hold⟩
    · rfl
    · -- a consent of the donor is about a channel that is revoked
      refine absurd ?_ (hchannel.resolve_right (not_not.mpr hk))
      rw [hws.mem_erasureChannels, ← hk]
      exact Or.inl (Dict.mem_of_get? hold)
  intents := by
    rintro rfl k i hi
    exact (erased_intents_gone.mp hi).1
  deliveries := by
    rintro rfl k d hd
    exact (hws.erased_deliveries_gone.mp hd).1

/-- An erasure keeps the stores coherent. -/
theorem Coherent.erased (hws : ws.Coherent) (l : Ledger) (donorId : Id)
    (actor provenance at_ : String) (eraseHistory : Bool) :
    Coherent (erased l ws donorId actor provenance at_ eraseHistory) where
  consents {k c} hc := by
    rcases erased_consents_donor hc with ⟨rfl, _, rfl⟩ | ⟨_, _, hold⟩
    · rfl
    · exact hws.consents hold
  preferences hp := hws.preferences (erased_preferences.mp hp).2
  intents {k i} hi := by
    cases eraseHistory with
    | true =>
        obtain ⟨hdonor, hold⟩ := erased_intents_gone.mp hi
        obtain ⟨hk, hdedup⟩ := hws.intents hold
        exact ⟨hk, hws.erased_dedup_gone.mpr ⟨hdonor, hdedup⟩⟩
    | false =>
        rw [erased_intents_kept] at hi
        obtain ⟨j, hj, rfl⟩ := Option.map_eq_some_iff.mp hi
        obtain ⟨hk, hdedup⟩ := hws.intents hj
        rw [retired_id, retired_dedupKey, hws.erased_dedup_kept, hdedup]
        exact ⟨hk, rfl⟩
  dedup {k i} hi := by
    cases eraseHistory with
    | true =>
        obtain ⟨hdonor, hold⟩ := hws.erased_dedup_gone.mp hi
        obtain ⟨hk, hstored⟩ := hws.dedup hold
        exact ⟨hk, erased_intents_gone.mpr ⟨hdonor, hstored⟩⟩
    | false =>
        rw [hws.erased_dedup_kept] at hi
        obtain ⟨j, hj, rfl⟩ := Option.map_eq_some_iff.mp hi
        obtain ⟨hk, hstored⟩ := hws.dedup hj
        rw [retired_id, retired_dedupKey, erased_intents_kept, hstored]
        exact ⟨hk, rfl⟩
  deliveries {k d} hd := by
    cases eraseHistory with
    | true =>
        obtain ⟨hdonor, hold⟩ := hws.erased_deliveries_gone.mp hd
        obtain ⟨i, hi, hsame⟩ := hws.deliveries hold
        exact ⟨i, erased_intents_gone.mpr ⟨hsame ▸ hdonor, hi⟩, hsame⟩
    | false =>
        obtain ⟨i, hi, hsame⟩ := hws.deliveries hd
        refine ⟨retired donorId i, ?_, hsame.trans (retired_donorId i).symm⟩
        rw [erased_intents_kept, hi, Option.map_some]
  once {k k' d d'} hd hd' := by
    cases eraseHistory with
    | true =>
        exact hws.once (hws.erased_deliveries_gone.mp hd).2 (hws.erased_deliveries_gone.mp hd').2
    | false => exact hws.once hd hd'

end Erased

end TenantWorkspace

end ImpactRelay
