/-
# `Domain.StuckIntents` — what a transport that raises leaves behind

`evaluate_intent` stores the new intent as CREATED, asks the transport, and writes the
status and the delivery record afterwards.  Where the transport raises, the exception
passes through with the CREATED intent in both maps, and every later evaluation under the
key finds it there and returns it.

`evaluation_settles_iff` says which evaluations leave what a finished notification is, no
intent under the key or a final one with one delivery record, and which leave a CREATED
one: besides the ones that have found it so, those whose transport raises.
-/
import ImpactRelay.Domain.ConsentGate

namespace ImpactRelay

open Raise TenantWorkspace

/-! ## The states of a key -/

/-- The statuses that say how a delivery went. -/
def finalStatuses : List NotificationIntentStatus := [.delivered, .failed, .permanentFailure]

namespace TenantWorkspace

/-- No intent under the key, or one with a final status and exactly one delivery. -/
def SettledKey (ws : TenantWorkspace) (key : String) : Prop :=
  ∀ intent, ws.intentsByDedup.get? key = some intent → intent.status ∈ finalStatuses ∧
    ∃ k d, ws.deliveries.get? k = some d ∧ d.intentId = intent.id ∧
      ∀ k' d', ws.deliveries.get? k' = some d' → d'.intentId = intent.id → k' = k

/-- The intent under the key has been created, and nothing else. -/
def StuckKey (ws : TenantWorkspace) (key : String) : Prop :=
  ∃ intent, ws.intentsByDedup.get? key = some intent ∧ intent.status = .created

end TenantWorkspace

/-! ## An evaluation that delivers -/

/-- The arguments of `evaluate_intent(…, deliver=True)`, with what the call draws. -/
structure Evaluation where
  host : Host
  ledger : Ledger
  donorId : Id
  channel : NotificationChannel
  messageClass : NotificationMessageClass
  sourceType : String
  sourceId : Id
  payload : List (String × Json)
  templateVersion : String
  createdAt : Option String

namespace Evaluation

variable {e : Evaluation} {ws : TenantWorkspace}

def program (e : Evaluation) : WorkspaceM NotificationIntent :=
  evaluateIntent e.host e.ledger e.donorId e.channel e.messageClass e.sourceType e.sourceId
    e.payload e.templateVersion e.createdAt true

def key (e : Evaluation) : String :=
  intentDedupKey e.ledger e.donorId e.channel e.messageClass e.sourceType e.sourceId
    e.templateVersion

/-- The intent it would store. -/
def intent (e : Evaluation) (ws : TenantWorkspace) : NotificationIntent :=
  newIntent e.host e.ledger e.donorId e.channel e.messageClass e.sourceType e.sourceId e.payload
    e.templateVersion (truthyOr e.createdAt (e.host.nowIso "nint" 0))
    (ws.intentStatus e.donorId e.channel e.messageClass
      (truthyOr e.createdAt (e.host.nowIso "nint" 0)))

/-- The donor is known, and the key is not. -/
def IsNew (e : Evaluation) (ws : TenantWorkspace) : Prop :=
  e.donorId ∈ e.ledger.donors ∧ e.key ∉ ws.intentsByDedup

/-- Consent, preference and the time of day let the intent through. -/
def LetThrough (e : Evaluation) (ws : TenantWorkspace) : Prop := (e.intent ws).status = .created

/-- The transport of the channel raises for the intent. -/
def Crashes (e : Evaluation) (ws : TenantWorkspace) : Prop :=
  ∃ adapter exc, ws.adapters e.channel = some adapter ∧
    adapter.deliver (e.intent ws) = .error exc

/-! ### What it leaves -/

theorem after_of_not_new (h : ¬ e.IsNew ws) : after e.program ws = ws := by
  rw [program, evaluateIntent, after_raiseIf_bind]
  by_cases hdonor : e.donorId ∈ e.ledger.donors
  · rw [if_neg (not_not.mpr hdonor), after_get_bind]
    cases hkey : ws.intentsByDedup.get? e.key with
    | none => exact absurd ⟨hdonor, Dict.get?_eq_none.mp hkey⟩ h
    | some existing =>
        rw [key] at hkey
        rw [hkey]
        exact ReadOnly.pure _ _
  · exact if_pos hdonor

instance (e : Evaluation) (ws : TenantWorkspace) : Decidable (e.LetThrough ws) :=
  inferInstanceAs (Decidable (_ = _))

theorem after_of_new (h : e.IsNew ws) : after e.program ws =
    if e.LetThrough ws then
      after (deliver e.host (e.intent ws)) (storeIntent (e.intent ws) ws)
    else storeIntent (e.intent ws) ws := by
  have hkey : ws.intentsByDedup.get? e.key = none := Dict.get?_eq_none.mpr h.2
  rw [key] at hkey
  rw [program, evaluateIntent, after_raiseIf_bind, if_neg (not_not.mpr h.1), after_get_bind, hkey]
  simp only [after_modify_bind, and_true]
  change after (if e.LetThrough ws then deliverStored e.host (e.intent ws)
    else pure (e.intent ws)) (storeIntent (e.intent ws) ws) = _
  split
  · exact deliverStored_after _ _ _
  · exact ReadOnly.pure _ _

theorem after_of_crash (h : e.IsNew ws) (hthrough : e.LetThrough ws) (hcrash : e.Crashes ws) :
    after e.program ws = storeIntent (e.intent ws) ws := by
  obtain ⟨adapter, exc, hadapter, hraise⟩ := hcrash
  have hasked : (storeIntent (e.intent ws) ws).adapters (e.intent ws).channel = some adapter :=
    hadapter
  rw [after_of_new h, if_pos hthrough]
  exact (deliver_raised hasked hraise).after

theorem deliveryStatus_final (success : Bool) (detail : String) :
    deliveryStatus success detail ∈ finalStatuses := by
  rw [deliveryStatus]
  split
  · decide
  split
  · decide
  · decide

theorem after_of_answer (h : e.IsNew ws) (hthrough : e.LetThrough ws) (hcrash : ¬ e.Crashes ws) :
    ∃ status d, status ∈ finalStatuses ∧ d.intentId = (e.intent ws).id ∧
      after e.program ws = settled (e.intent ws) status d (storeIntent (e.intent ws) ws) := by
  rw [after_of_new h, if_pos hthrough]
  cases hasked : (storeIntent (e.intent ws) ws).adapters (e.intent ws).channel with
  | none => exact ⟨.failed, _, by decide, rfl, (deliver_without_adapter hasked).after⟩
  | some adapter =>
      cases hanswer : adapter.deliver (e.intent ws) with
      | error exc => exact absurd ⟨adapter, exc, hasked, hanswer⟩ hcrash
      | ok answer =>
          exact ⟨_, _, deliveryStatus_final _ _, rfl, (deliver_answered hasked hanswer).after⟩

/-! ### The key afterwards -/

/-- An intent that is withheld or not answered for stands under the key as it is. -/
theorem stored_get? : (storeIntent (e.intent ws) ws).intentsByDedup.get? e.key =
    some (e.intent ws) :=
  Dict.get?_set_self _ _ _

/-- No delivery is of an intent that is not stored yet. -/
theorem no_delivery (hws : ws.Coherent) (hfresh : e.host.newId "nint" 0 ∉ ws.intents) {k : Id}
    {d : NotificationDelivery} (hd : ws.deliveries.get? k = some d) :
    d.intentId ≠ (e.intent ws).id := by
  intro hsame
  obtain ⟨i, hi, _⟩ := hws.deliveries hd
  rw [hsame] at hi
  exact hfresh (Dict.mem_of_get? hi)

theorem settled_of_answer (hws : ws.Coherent) (hfresh : e.host.newId "nint" 0 ∉ ws.intents)
    {status : NotificationIntentStatus} {d : NotificationDelivery} (hstatus : status ∈ finalStatuses)
    (hd : d.intentId = (e.intent ws).id) :
    (settled (e.intent ws) status d (storeIntent (e.intent ws) ws)).SettledKey e.key := by
  intro intent hintent
  obtain rfl : { e.intent ws with status } = intent :=
    Option.some.inj ((Dict.get?_set_self _ _ _).symm.trans hintent)
  refine ⟨hstatus, d.id, d, Dict.get?_set_self _ _ _, hd, fun k' d' hd' hsame => ?_⟩
  by_contra hne
  have hbefore : ws.deliveries.get? k' = some d' := (Dict.get?_set_ne hne).symm.trans hd'
  exact no_delivery hws hfresh hbefore hsame

theorem settled_not_stuck {key : String} (h : ws.SettledKey key) : ¬ ws.StuckKey key := by
  rintro ⟨intent, hintent, hstatus⟩
  have hfinal := (h intent hintent).1
  rw [hstatus] at hfinal
  exact absurd hfinal (by decide)

/-- A first evaluation stores no final status. -/
theorem intent_not_final : (e.intent ws).status ∉ finalStatuses := by
  have hstatus : (e.intent ws).status = ws.intentStatus e.donorId e.channel e.messageClass
      (truthyOr e.createdAt (e.host.nowIso "nint" 0)) := rfl
  rw [hstatus, intentStatus]
  split
  · decide
  split
  · decide
  split
  · decide
  · decide

theorem stored_not_settled : ¬ (storeIntent (e.intent ws) ws).SettledKey e.key :=
  fun h => intent_not_final (h _ stored_get?).1

theorem stored_stuck_iff : (storeIntent (e.intent ws) ws).StuckKey e.key ↔ e.LetThrough ws := by
  constructor
  · rintro ⟨intent, hintent, hstatus⟩
    obtain rfl := Option.some.inj (stored_get?.symm.trans hintent)
    exact hstatus
  · exact fun h => ⟨_, stored_get?, h⟩

end Evaluation

open Evaluation

/-- An evaluation leaves its key settled when it has found it so, or when it is the first,
lets the intent through, and gets an answer; it leaves a created intent when it has found
one, or when the transport raises for its own. -/
theorem evaluation_settles_iff (e : Evaluation) (ws : TenantWorkspace) (hws : ws.Coherent)
    (hfresh : e.host.newId "nint" 0 ∉ ws.intents) :
    ((after e.program ws).SettledKey e.key ↔
        (¬ e.IsNew ws ∧ ws.SettledKey e.key) ∨ e.IsNew ws ∧ e.LetThrough ws ∧ ¬ e.Crashes ws) ∧
      ((after e.program ws).StuckKey e.key ↔
        ws.StuckKey e.key ∨ e.IsNew ws ∧ e.LetThrough ws ∧ e.Crashes ws) := by
  by_cases hnew : e.IsNew ws
  swap
  · rw [after_of_not_new hnew]
    simp [hnew]
  have hfree : ¬ ws.StuckKey e.key := by
    rintro ⟨intent, hintent, -⟩
    exact hnew.2 (Dict.mem_of_get? hintent)
  by_cases hthrough : e.LetThrough ws
  swap
  · -- withheld: stored with the status that says so
    have hafter : after e.program ws = storeIntent (e.intent ws) ws :=
      (after_of_new hnew).trans (if_neg hthrough)
    rw [hafter, stored_stuck_iff]
    simp [hnew, hthrough, hfree, stored_not_settled]
  by_cases hcrash : e.Crashes ws
  · rw [after_of_crash hnew hthrough hcrash, stored_stuck_iff]
    simp [hnew, hthrough, hcrash, stored_not_settled]
  · obtain ⟨status, d, hstatus, hd, hafter⟩ := after_of_answer hnew hthrough hcrash
    have hsettled : (after e.program ws).SettledKey e.key := by
      rw [hafter]
      exact settled_of_answer hws hfresh hstatus hd
    exact ⟨iff_of_true hsettled (Or.inr ⟨hnew, hthrough, hcrash⟩),
      iff_of_false (settled_not_stuck hsettled) (by simp [hfree, hcrash])⟩

section Sample

attribute [local instance] Digest.plain

namespace Evaluation

/-- A workspace in which the donor has consented to emails, with this transport. -/
def Sample.consented (email : Option DeliveryAdapter) : TenantWorkspace :=
  { run TenantWorkspace.step {} (TenantWorkspace.Sample.history.take 1) with
    notificationAdapters := fun channel => if channel = .email then email else none }

theorem Sample.consented_coherent (email : Option DeliveryAdapter) :
    (Sample.consented email).Coherent :=
  (coherent_of_history (by decide +kernel)).of_adapters _

def Sample.evaluation : Evaluation where
  host := .numbered 7
  ledger := run Ledger.step (.new Ledger.Sample.organization) (Ledger.script Ledger.Sample.gift)
  donorId := "donor"
  channel := .email
  messageClass := .digest
  sourceType := "DIGEST"
  sourceId := "first"
  payload := []
  templateVersion := "v1.0"
  createdAt := none

/-- A transport that raises while it builds the headers. -/
def Sample.smtp : DeliveryAdapter where
  providerName := "smtp"
  deliver _ := .error ⟨.valueError,
    "Header values may not contain linefeed or carriage return characters"⟩

theorem Sample.evaluation_new (email : Option DeliveryAdapter) :
    Sample.evaluation.IsNew (Sample.consented email) := by
  constructor
  · decide +kernel
  · exact (by decide +kernel : Sample.evaluation.key ∉ (Sample.consented none).intentsByDedup)

end Evaluation

/-- The fixture answers. -/
theorem answered_settles :
    (after Sample.evaluation.program (Sample.consented none)).SettledKey Sample.evaluation.key :=
  (evaluation_settles_iff Sample.evaluation (Sample.consented none)
    (Sample.consented_coherent none) (by decide +kernel)).1.mpr
    (Or.inr ⟨Sample.evaluation_new none, by decide +kernel, fun ⟨_, _, hadapter, hraise⟩ => by
      obtain rfl := Option.some.inj hadapter
      exact nomatch hraise⟩)

/-- A header that cannot be built leaves the intent as it was created. -/
theorem raising_transport_not_settled : ¬ ∀ (e : Evaluation) (ws : TenantWorkspace),
    ws.Coherent → e.host.newId "nint" 0 ∉ ws.intents →
      (after e.program ws).SettledKey e.key := by
  intro h
  have hsettled := h Sample.evaluation (Sample.consented (some Sample.smtp))
    (Sample.consented_coherent _) (by decide +kernel)
  rw [after_of_crash (Sample.evaluation_new _) (by decide +kernel) ⟨Sample.smtp, _, rfl, rfl⟩]
    at hsettled
  exact stored_not_settled hsettled

end Sample

end ImpactRelay
