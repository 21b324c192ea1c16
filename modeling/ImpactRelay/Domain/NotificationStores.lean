/-
# `Domain.NotificationStores` — the notification stores over a history

What one evaluation can do to the stores is said once (`evaluateIntent_after`):
nothing, or a new intent in both maps, or the new intent with the status of its
one delivery.  From it, the invariant of the stores (`Coherent`): each record
stands under its own key, an intent and its deduplication entry are one record,
and a delivery belongs to a stored intent, which has no other.
-/
import ImpactRelay.Domain.Notifications

namespace ImpactRelay

open Raise

namespace TenantWorkspace

/-! ## What an evaluation leaves -/

/-- The workspace once a delivery attempt is recorded. -/
def settled (intent : NotificationIntent) (status : NotificationIntentStatus)
    (delivery : NotificationDelivery) (ws : TenantWorkspace) : TenantWorkspace :=
  { storeIntent { intent with status } ws with
    deliveries := ws.deliveries.set delivery.id delivery }

section After

variable {ws : TenantWorkspace} {host : Host} {l : Ledger} {donorId : Id}
  {channel : NotificationChannel} {messageClass : NotificationMessageClass} {sourceType : String}
  {sourceId : Id} {payload : List (String × Json)} {templateVersion : String}
  {createdAt : Option String} {deliverNow : Bool}

/-- The record of an attempt: who was asked, and what it answered. -/
def attempted (host : Host) (intent : NotificationIntent) (provider : String)
    (answer : Bool × String × String) : NotificationDelivery where
  id := host.newId "ndel" 0
  intentId := intent.id
  organizationId := intent.organizationId
  donorId := intent.donorId
  channel := intent.channel
  success := answer.1
  provider := provider
  providerReceipt := answer.2.1
  attemptedAt := host.nowIso "ndel" 0
  detail := answer.2.2

theorem deliver_without_adapter {intent : NotificationIntent}
    (hadapter : ws.adapters intent.channel = none) :
    Returns (deliver host intent) ws
      (attempted host intent "none" (false, "", "no adapter for channel"))
      (settled intent .failed
        (attempted host intent "none" (false, "", "no adapter for channel")) ws) := by
  rw [deliver]
  simp only [returns_get_bind, hadapter, returns_modify_bind, returns_pure]
  exact ⟨rfl, rfl⟩

theorem deliver_answered {intent : NotificationIntent} {adapter : DeliveryAdapter}
    {answer : Bool × String × String} (hadapter : ws.adapters intent.channel = some adapter)
    (hanswer : adapter.deliver intent = .ok answer) :
    Returns (deliver host intent) ws (attempted host intent adapter.providerName answer)
      (settled intent (deliveryStatus answer.1 answer.2.2)
        (attempted host intent adapter.providerName answer) ws) := by
  rw [deliver]
  simp only [returns_get_bind, hadapter, hanswer, returns_okOrRaise_bind, returns_modify_bind,
    returns_pure]
  exact ⟨answer, rfl, rfl, rfl⟩

theorem deliver_raised {intent : NotificationIntent} {adapter : DeliveryAdapter} {e : PyExc}
    (hadapter : ws.adapters intent.channel = some adapter)
    (hanswer : adapter.deliver intent = .error e) :
    Raises (deliver host intent) ws e ws := by
  rw [deliver]
  simp only [raises_get_bind, hadapter, hanswer]
  exact Raises.bind (raises_okOrRaise.mpr ⟨rfl, rfl⟩)

/-- An attempt records a delivery of its intent, or the transport raises. -/
theorem deliver_after (host : Host) (ws : TenantWorkspace) (intent : NotificationIntent) :
    after (deliver host intent) ws = ws ∨
      ∃ status delivery, delivery.intentId = intent.id ∧ delivery.donorId = intent.donorId ∧
        after (deliver host intent) ws = settled intent status delivery ws := by
  cases hadapter : ws.adapters intent.channel with
  | none => exact Or.inr ⟨_, _, rfl, rfl, (deliver_without_adapter hadapter).after⟩
  | some adapter =>
      cases hanswer : adapter.deliver intent with
      | error e => exact Or.inl (deliver_raised hadapter hanswer).after
      | ok answer => exact Or.inr ⟨_, _, rfl, rfl, (deliver_answered hadapter hanswer).after⟩

theorem deliverStored_after (host : Host) (ws : TenantWorkspace) (intent : NotificationIntent) :
    after (deliverStored host intent) ws = after (deliver host intent) ws := by
  rw [deliverStored]
  rcases returns_or_raises (deliver host intent) ws with ⟨delivery, ws', h⟩ | ⟨e, ws', h⟩
  · rw [h.after_bind, h.after, after_get_bind]
    exact ReadOnly.orRaise _ _ ws'
  · rw [h.after_bind, h.after]

/-- What one evaluation can do: nothing, or store a new intent, or store it and
record the one attempt to deliver it. -/
theorem evaluateIntent_after (ws : TenantWorkspace) {ws' : TenantWorkspace}
    (h : after (evaluateIntent host l donorId channel messageClass sourceType sourceId payload
      templateVersion createdAt deliverNow) ws = ws') :
    ws' = ws ∨
      donorId ∈ l.donors ∧
      intentDedupKey l donorId channel messageClass sourceType sourceId templateVersion ∉
        ws.intentsByDedup ∧
      ∃ intent,
        intent = newIntent host l donorId channel messageClass sourceType sourceId payload
          templateVersion (truthyOr createdAt (host.nowIso "nint" 0))
          (ws.intentStatus donorId channel messageClass
            (truthyOr createdAt (host.nowIso "nint" 0))) ∧
        (ws' = storeIntent intent ws ∨
          intent.status = .created ∧ deliverNow = true ∧
          ∃ status delivery, delivery.intentId = intent.id ∧ delivery.donorId = intent.donorId ∧
            ws' = settled intent status delivery (storeIntent intent ws)) := by
  subst h
  rw [evaluateIntent, after_raiseIf_bind]
  by_cases hdonor : donorId ∈ l.donors
  swap
  · exact Or.inl (if_pos hdonor)
  rw [if_neg (not_not.mpr hdonor), after_get_bind]
  cases hkey : ws.intentsByDedup.get? (intentDedupKey l donorId channel messageClass sourceType
    sourceId templateVersion) with
  | some existing => exact Or.inl (ReadOnly.pure _ _)
  | none =>
      refine Or.inr ⟨hdonor, Dict.get?_eq_none.mp hkey, _, rfl, ?_⟩
      simp only [after_modify_bind]
      split
      next hgo =>
        rw [deliverStored_after]
        refine (deliver_after host _ _).imp_right fun hsettled => ⟨hgo.1, hgo.2, hsettled⟩
      next => exact Or.inl (ReadOnly.pure _ _)

end After

/-! ## Coherent stores -/

/-- Each record under its own key, one record for an intent and its
deduplication entry, and each delivery the only one of a stored intent, for the
donor of that intent. -/
structure Coherent (ws : TenantWorkspace) : Prop where
  consents : ∀ {k c}, ws.consents.get? k = some c → k = (c.donorId, c.channel)
  preferences : ∀ {k p}, ws.preferences.get? k = some p → k = (p.donorId, p.channel)
  intents : ∀ {k i}, ws.intents.get? k = some i →
    k = i.id ∧ ws.intentsByDedup.get? i.dedupKey = some i
  dedup : ∀ {k i}, ws.intentsByDedup.get? k = some i →
    k = i.dedupKey ∧ ws.intents.get? i.id = some i
  deliveries : ∀ {k d}, ws.deliveries.get? k = some d →
    ∃ i, ws.intents.get? d.intentId = some i ∧ d.donorId = i.donorId
  once : ∀ {k k' d d'}, ws.deliveries.get? k = some d → ws.deliveries.get? k' = some d' →
    d.intentId = d'.intentId → k = k'

theorem Coherent.empty (adapters : NotificationChannel → Option DeliveryAdapter) :
    Coherent { notificationAdapters := adapters } where
  consents h := nomatch h
  preferences h := nomatch h
  intents h := nomatch h
  dedup h := nomatch h
  deliveries h := nomatch h
  once h := nomatch h

section Coherent

variable {ws : TenantWorkspace} {intent : NotificationIntent}

/-- The transports are no part of it. -/
theorem Coherent.of_adapters (hws : ws.Coherent)
    (adapters : NotificationChannel → Option DeliveryAdapter) :
    Coherent { ws with notificationAdapters := adapters } :=
  ⟨hws.consents, hws.preferences, hws.intents, hws.dedup, hws.deliveries, hws.once⟩

theorem Coherent.setConsent (hws : ws.Coherent) (c : ConsentRecord) :
    Coherent { ws with consents := ws.consents.set (c.donorId, c.channel) c } where
  consents {k c'} h := by
    by_cases hk : k = (c.donorId, c.channel)
    · rw [hk, Dict.get?_set_self] at h
      cases h
      exact hk
    · rw [Dict.get?_set_ne hk] at h
      exact hws.consents h
  preferences := hws.preferences
  intents := hws.intents
  dedup := hws.dedup
  deliveries := hws.deliveries
  once := hws.once

theorem Coherent.setPreference (hws : ws.Coherent) (p : NotificationPreference) :
    Coherent { ws with preferences := ws.preferences.set (p.donorId, p.channel) p } where
  consents := hws.consents
  preferences {k p'} h := by
    by_cases hk : k = (p.donorId, p.channel)
    · rw [hk, Dict.get?_set_self] at h
      cases h
      exact hk
    · rw [Dict.get?_set_ne hk] at h
      exact hws.preferences h
  intents := hws.intents
  dedup := hws.dedup
  deliveries := hws.deliveries
  once := hws.once

/-- Storing an intent under its own id and key, both free or both its own. -/
theorem Coherent.storeIntent (hws : ws.Coherent)
    (hid : ∀ i, ws.intents.get? intent.id = some i →
      i.dedupKey = intent.dedupKey ∧ i.donorId = intent.donorId)
    (hkey : ∀ i, ws.intentsByDedup.get? intent.dedupKey = some i → i.id = intent.id) :
    Coherent (storeIntent intent ws) where
  consents := hws.consents
  preferences := hws.preferences
  intents {k i} h := by
    by_cases hk : k = intent.id
    · subst hk
      cases (Dict.get?_set_self _ _ _).symm.trans h
      exact ⟨rfl, Dict.get?_set_self _ _ _⟩
    · rw [TenantWorkspace.storeIntent, Dict.get?_set_ne hk] at h
      obtain ⟨rfl, hdedup⟩ := hws.intents h
      refine ⟨rfl, (Dict.get?_set_ne fun hsame => hk ?_).trans hdedup⟩
      exact hkey i (hsame ▸ hdedup)
  dedup {k i} h := by
    by_cases hk : k = intent.dedupKey
    · subst hk
      cases (Dict.get?_set_self _ _ _).symm.trans h
      exact ⟨rfl, Dict.get?_set_self _ _ _⟩
    · rw [TenantWorkspace.storeIntent, Dict.get?_set_ne hk] at h
      obtain ⟨rfl, hstored⟩ := hws.dedup h
      refine ⟨rfl, (Dict.get?_set_ne fun hsame => hk ?_).trans hstored⟩
      exact (hid i (hsame ▸ hstored)).1
  deliveries {k d} h := by
    obtain ⟨i, hi, hdonor⟩ := hws.deliveries h
    by_cases hk : d.intentId = intent.id
    · refine ⟨intent, ?_, hdonor.trans (hid i (hk ▸ hi)).2⟩
      rw [hk]
      exact Dict.get?_set_self _ _ _
    · exact ⟨i, (Dict.get?_set_ne hk).trans hi, hdonor⟩
  once := hws.once

/-- Recording the first delivery of a stored intent. -/
theorem Coherent.setDelivery (hws : ws.Coherent) (intent : NotificationIntent)
    {d : NotificationDelivery} (hstored : ws.intents.get? d.intentId = some intent)
    (hdonor : d.donorId = intent.donorId)
    (hfirst : ∀ k d', ws.deliveries.get? k = some d' → d'.intentId ≠ d.intentId) :
    Coherent { ws with deliveries := ws.deliveries.set d.id d } where
  consents := hws.consents
  preferences := hws.preferences
  intents := hws.intents
  dedup := hws.dedup
  deliveries {k d'} h := by
    by_cases hk : k = d.id
    · rw [hk, Dict.get?_set_self] at h
      cases h
      exact ⟨intent, hstored, hdonor⟩
    · rw [Dict.get?_set_ne hk] at h
      exact hws.deliveries h
  once {k k' d₁ d₂} h h' hsame := by
    by_cases hk : k = d.id <;> by_cases hk' : k' = d.id
    · rw [hk, hk']
    · rw [hk, Dict.get?_set_self] at h
      cases h
      rw [Dict.get?_set_ne hk'] at h'
      exact absurd hsame.symm (hfirst k' d₂ h')
    · rw [hk', Dict.get?_set_self] at h'
      cases h'
      rw [Dict.get?_set_ne hk] at h
      exact absurd hsame (hfirst k d₁ h)
    · rw [Dict.get?_set_ne hk] at h
      rw [Dict.get?_set_ne hk'] at h'
      exact hws.once h h' hsame

/-- An evaluation keeps the stores coherent when it draws a new id. -/
theorem Coherent.evaluateIntent (hws : ws.Coherent) {host : Host} (l : Ledger) (donorId : Id)
    (channel : NotificationChannel) (messageClass : NotificationMessageClass)
    (sourceType : String) (sourceId : Id) (payload : List (String × Json))
    (templateVersion : String) (createdAt : Option String) (deliverNow : Bool)
    (hfresh : host.newId "nint" 0 ∉ ws.intents) :
    Coherent (after (evaluateIntent host l donorId channel messageClass sourceType sourceId payload
      templateVersion createdAt deliverNow) ws) := by
  rcases evaluateIntent_after ws rfl with heq | ⟨_, hkey, intent, hintent, hafter⟩
  · exact heq.symm ▸ hws
  have hid : intent.id = host.newId "nint" 0 := by rw [hintent]; rfl
  have hkey' : intent.dedupKey ∉ ws.intentsByDedup := by rw [hintent]; exact hkey
  have hstored : Coherent (TenantWorkspace.storeIntent intent ws) :=
    hws.storeIntent (fun i hi => absurd (Dict.mem_of_get? hi) (hid ▸ hfresh))
      (fun i hi => absurd (Dict.mem_of_get? hi) hkey')
  rcases hafter with heq | ⟨_, _, status, d, hd, hdonor, heq⟩
  · exact heq.symm ▸ hstored
  rw [heq]
  -- the status changes, then the attempt is recorded
  have hsettled : Coherent (TenantWorkspace.storeIntent { intent with status }
      (TenantWorkspace.storeIntent intent ws)) := by
    refine hstored.storeIntent (fun i hi => ?_) (fun i hi => ?_)
    · cases (Dict.get?_set_self _ _ _).symm.trans hi
      exact ⟨rfl, rfl⟩
    · cases (Dict.get?_set_self _ _ _).symm.trans hi
      rfl
  refine hsettled.setDelivery { intent with status } ?_ hdonor ?_
  · rw [hd]
    exact Dict.get?_set_self _ _ _
  · intro k d' hd' hsame
    obtain ⟨i, hi, _⟩ := hws.deliveries hd'
    rw [hsame, hd, hid] at hi
    exact hfresh (Dict.mem_of_get? hi)

end Coherent

end TenantWorkspace

end ImpactRelay
