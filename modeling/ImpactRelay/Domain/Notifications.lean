/-
# `Domain.Notifications` — consent, preferences and delivery

The notification stores of a tenant workspace (`domain/tenant.py`) and the
methods of `domain/notifications.py` that write them.  A method reads the
ledger and is a program over the workspace.  A delivery adapter is host code:
its `deliver` answers or raises, and what it keeps for itself is not part of
the workspace.
-/
import ImpactRelay.Domain.Ledger
import ImpactRelay.Lib.Text

namespace ImpactRelay

open Raise

inductive NotificationChannel where
  | push | email | sms
deriving DecidableEq, Repr

def NotificationChannel.value : NotificationChannel → String
  | .push => "PUSH"
  | .email => "EMAIL"
  | .sms => "SMS"

inductive NotificationMessageClass where
  | moneyUsed | impactOccurred | correction | digest
deriving DecidableEq, Repr

def NotificationMessageClass.value : NotificationMessageClass → String
  | .moneyUsed => "MONEY_USED"
  | .impactOccurred => "IMPACT_OCCURRED"
  | .correction => "CORRECTION"
  | .digest => "DIGEST"

inductive NotificationIntentStatus where
  | created | blockedNoConsent | blockedPreference | deferredQuietHours
  | delivered | failed | superseded | permanentFailure
deriving DecidableEq, Repr

def NotificationIntentStatus.value : NotificationIntentStatus → String
  | .created => "CREATED"
  | .blockedNoConsent => "BLOCKED_NO_CONSENT"
  | .blockedPreference => "BLOCKED_PREFERENCE"
  | .deferredQuietHours => "DEFERRED_QUIET_HOURS"
  | .delivered => "DELIVERED"
  | .failed => "FAILED"
  | .superseded => "SUPERSEDED"
  | .permanentFailure => "PERMANENT_FAILURE"

structure NotificationPreference where
  donorId : Id
  organizationId : Id
  channel : NotificationChannel
  enabled : Bool
  topics : List String := []
  cadence : String := "immediate"
  /-- UTC "HH:MM", inclusive start and exclusive end; wraps midnight -/
  quietHoursStart : Option String := none
  quietHoursEnd : Option String := none
deriving DecidableEq, Repr

structure ConsentRecord where
  donorId : Id
  organizationId : Id
  channel : NotificationChannel
  granted : Bool
  provenance : String
  recordedAt : String
deriving DecidableEq, Repr

structure NotificationIntent where
  id : Id
  organizationId : Id
  donorId : Id
  channel : NotificationChannel
  messageClass : NotificationMessageClass
  sourceType : String
  sourceId : Id
  dedupKey : String
  policyVersion : String
  status : NotificationIntentStatus
  templateVersion : String
  payload : List (String × Json)
  createdAt : String
deriving DecidableEq

structure NotificationDelivery where
  id : Id
  intentId : Id
  organizationId : Id
  donorId : Id
  channel : NotificationChannel
  success : Bool
  provider : String
  providerReceipt : String
  attemptedAt : String
  detail : String := ""
deriving DecidableEq, Repr

/-- A delivery transport: success, provider receipt and detail, or an exception. -/
structure DeliveryAdapter where
  providerName : String
  /-- The in-process fixture, for which a missing consent is filled in. -/
  fixtureConsentBootstrap : Bool := false
  deliver : NotificationIntent → Except PyExc (Bool × String × String)

/-- Records delivery without calling external networks. -/
def inProcessDeliveryAdapter (providerName : String) : DeliveryAdapter where
  providerName := providerName
  fixtureConsentBootstrap := true
  deliver intent := .ok (true, "ok_" ++ intent.id, "delivered in-process")

/-- The notification stores of a tenant. -/
structure TenantWorkspace where
  consents : Dict (Id × NotificationChannel) ConsentRecord := .empty
  preferences : Dict (Id × NotificationChannel) NotificationPreference := .empty
  intents : Dict Id NotificationIntent := .empty
  intentsByDedup : Dict String NotificationIntent := .empty
  deliveries : Dict Id NotificationDelivery := .empty
  /-- Host-owned transports; none until the host configures them. -/
  notificationAdapters : NotificationChannel → Option DeliveryAdapter := fun _ => none

abbrev WorkspaceM := EStateM PyExc TenantWorkspace

namespace TenantWorkspace

/-- `notification_adapters or {…}`: with no transport configured at all, each
channel has its in-process fixture. -/
def adapters (ws : TenantWorkspace) (channel : NotificationChannel) : Option DeliveryAdapter :=
  if (ws.notificationAdapters .push).isNone ∧ (ws.notificationAdapters .email).isNone ∧
      (ws.notificationAdapters .sms).isNone then
    match channel with
    | .push => some (inProcessDeliveryAdapter "push_fixture")
    | .email => some (inProcessDeliveryAdapter "email_fixture")
    | .sms => some (inProcessDeliveryAdapter "sms_fixture")
  else ws.notificationAdapters channel

def recordConsent (l : Ledger) (consent : ConsentRecord) : WorkspaceM ConsentRecord := do
  raiseIf (consent.organizationId ≠ l.organization.id)
    (stateError "consent organization_id mismatch")
  raiseIf (consent.donorId ∉ l.donors) (notFoundError s!"donor not found: {consent.donorId}")
  modify fun ws => { ws with consents := ws.consents.set (consent.donorId, consent.channel) consent }
  return consent

def setPreference (l : Ledger) (pref : NotificationPreference) :
    WorkspaceM NotificationPreference := do
  raiseIf (pref.organizationId ≠ l.organization.id)
    (stateError "preference organization_id mismatch")
  raiseIf (pref.donorId ∉ l.donors) (notFoundError s!"donor not found: {pref.donorId}")
  modify fun ws => { ws with preferences := ws.preferences.set (pref.donorId, pref.channel) pref }
  return pref

/-! ## The decision -/

def hasConsent (ws : TenantWorkspace) (donorId : Id) (channel : NotificationChannel) : Bool :=
  match ws.consents.get? (donorId, channel) with
  | some c => c.granted
  | none => false

def prefAllows (ws : TenantWorkspace) (donorId : Id) (channel : NotificationChannel)
    (messageClass : NotificationMessageClass) : Bool :=
  match ws.preferences.get? (donorId, channel) with
  -- Default: email enabled for receipts if consent; others require a preference.
  | none => decide (channel = .email)
  | some pref =>
      -- An empty topic list means "all topics".
      pref.enabled && (pref.topics.isEmpty || decide (messageClass.value ∈ pref.topics))

/-- The "HH:MM" of a timestamp; noon when it has no time part. -/
def timePart (nowIso : String) : String :=
  if 'T' ∈ nowIso.toList then
    String.ofList (((nowIso.toList.dropWhile (· ≠ 'T')).drop 1).take 5)
  else "12:00"

def inQuietHours (ws : TenantWorkspace) (donorId : Id) (channel : NotificationChannel)
    (nowIso : String) : Bool :=
  match ws.preferences.get? (donorId, channel) with
  | none => false
  | some pref =>
      match pref.quietHoursStart, pref.quietHoursEnd with
      | some start, some stop =>
          if start = "" ∨ stop = "" then false
          else if start ≤ stop then
            decide (start ≤ timePart nowIso) && decide (timePart nowIso < stop)
          -- wraps midnight
          else decide (start ≤ timePart nowIso) || decide (timePart nowIso < stop)
      | _, _ => false

/-- The status a new intent is stored with: blocked, deferred, or to be delivered. -/
def intentStatus (ws : TenantWorkspace) (donorId : Id) (channel : NotificationChannel)
    (messageClass : NotificationMessageClass) (created : String) : NotificationIntentStatus :=
  if ws.hasConsent donorId channel = false then .blockedNoConsent
  else if ws.prefAllows donorId channel messageClass = false then .blockedPreference
  else if ws.inQuietHours donorId channel created then .deferredQuietHours
  else .created

def intentDedupKey (l : Ledger) (donorId : Id) (channel : NotificationChannel)
    (messageClass : NotificationMessageClass) (sourceType : String) (sourceId : Id)
    (templateVersion : String) : String :=
  s!"{l.organization.id}|{donorId}|{channel.value}|{messageClass.value}|{sourceType}|{sourceId}|{templateVersion}"

/-! ## Intents and delivery -/

def storeIntent (intent : NotificationIntent) (ws : TenantWorkspace) : TenantWorkspace :=
  { ws with
    intents := ws.intents.set intent.id intent
    intentsByDedup := ws.intentsByDedup.set intent.dedupKey intent }

/-- The status a delivery attempt leaves. -/
def deliveryStatus (success : Bool) (detail : String) : NotificationIntentStatus :=
  if success then .delivered
  else if Text.hasSubstring "permanent" (Text.lower detail) ∨
      Text.hasSubstring "bounce" (Text.lower detail) then .permanentFailure
  else .failed

/-- One attempt to deliver a stored intent. -/
def deliver (host : Host) (intent : NotificationIntent) : WorkspaceM NotificationDelivery := do
  let ws ← get
  match ws.adapters intent.channel with
  | none =>
      modify (storeIntent { intent with status := .failed })
      let delivery : NotificationDelivery :=
        { id := host.newId "ndel" 0, intentId := intent.id, organizationId := intent.organizationId,
          donorId := intent.donorId, channel := intent.channel, success := false,
          provider := "none", providerReceipt := "", attemptedAt := host.nowIso "ndel" 0,
          detail := "no adapter for channel" }
      modify fun ws => { ws with deliveries := ws.deliveries.set delivery.id delivery }
      return delivery
  | some adapter =>
      let (success, providerReceipt, detail) ← okOrRaise (adapter.deliver intent)
      modify (storeIntent { intent with status := deliveryStatus success detail })
      let delivery : NotificationDelivery :=
        { id := host.newId "ndel" 0, intentId := intent.id, organizationId := intent.organizationId,
          donorId := intent.donorId, channel := intent.channel, success,
          provider := adapter.providerName, providerReceipt, attemptedAt := host.nowIso "ndel" 0,
          detail }
      modify fun ws => { ws with deliveries := ws.deliveries.set delivery.id delivery }
      return delivery

def newIntent (host : Host) (l : Ledger) (donorId : Id) (channel : NotificationChannel)
    (messageClass : NotificationMessageClass) (sourceType : String) (sourceId : Id)
    (payload : List (String × Json)) (templateVersion created : String)
    (status : NotificationIntentStatus) : NotificationIntent where
  id := host.newId "nint" 0
  organizationId := l.organization.id
  donorId := donorId
  channel := channel
  messageClass := messageClass
  sourceType := sourceType
  sourceId := sourceId
  dedupKey := intentDedupKey l donorId channel messageClass sourceType sourceId templateVersion
  policyVersion := l.organization.policyVersion
  status := status
  templateVersion := templateVersion
  payload :=
    if status = .deferredQuietHours then
      Json.setField payload "deferred_reason" (.str "quiet_hours")
    else payload
  createdAt := created

/-- `self._deliver(intent); intent = self.ws.intents[intent_id]`. -/
def deliverStored (host : Host) (intent : NotificationIntent) : WorkspaceM NotificationIntent := do
  let _ ← deliver host intent
  let ws ← get
  orRaise (keyError intent.id) (ws.intents.get? intent.id)

/-- Create at most one intent for a deduplication key; deliver it when nothing
stands in the way. -/
def evaluateIntent (host : Host) (l : Ledger) (donorId : Id) (channel : NotificationChannel)
    (messageClass : NotificationMessageClass) (sourceType : String) (sourceId : Id)
    (payload : List (String × Json)) (templateVersion : String) (createdAt : Option String)
    (deliverNow : Bool) : WorkspaceM NotificationIntent := do
  raiseIf (donorId ∉ l.donors) (notFoundError s!"donor not found: {donorId}")
  let ws ← get
  match ws.intentsByDedup.get?
      (intentDedupKey l donorId channel messageClass sourceType sourceId templateVersion) with
  | some existing => return existing
  | none =>
      let created := truthyOr createdAt (host.nowIso "nint" 0)
      let intent := newIntent host l donorId channel messageClass sourceType sourceId payload
        templateVersion created (ws.intentStatus donorId channel messageClass created)
      modify (storeIntent intent)
      if intent.status = .created ∧ deliverNow then deliverStored host intent
      else return intent

/-- A receipt is news of money used, or of a correction. -/
def receiptMessageClass (r : UseOfFundsReceipt) : NotificationMessageClass :=
  if r.corrected then .correction else .moneyUsed

def receiptSourceType (r : UseOfFundsReceipt) : String :=
  if r.corrected then "CORRECTION" else "USE_OF_FUNDS"

def evaluateForUseOfFunds (host : Host) (l : Ledger) (receiptId : Id) (channel : NotificationChannel)
    (deliverNow : Bool) (payloadPatch : List (String × Json)) : WorkspaceM NotificationIntent := do
  let receipt ← orRaise (notFoundError s!"receipt not found: {receiptId}")
    (l.receipts.get? receiptId)
  evaluateIntent host l receipt.donorId channel (receiptMessageClass receipt)
    (receiptSourceType receipt) receiptId (Json.merge receipt.toDict.fields payloadPatch) "v1.0"
    none deliverNow

/-! ## The end of an evaluation -/

section Evaluation

variable {ws ws' : TenantWorkspace} {host : Host} {l : Ledger} {donorId : Id}
  {channel : NotificationChannel} {messageClass : NotificationMessageClass} {sourceType : String}
  {sourceId : Id} {payload : List (String × Json)} {templateVersion created : String}

/-- The intent is to be delivered, and its transport reports success. -/
def Delivers (ws : TenantWorkspace) (intent : NotificationIntent) : Prop :=
  intent.status = .created ∧ OnSome (ws.adapters intent.channel) fun adapter =>
    OnOk (adapter.deliver intent) fun answer => answer.1 = true

instance (ws : TenantWorkspace) (intent : NotificationIntent) : Decidable (ws.Delivers intent) :=
  inferInstanceAs (Decidable (_ ∧ _))

theorem storeIntent_mem (intent : NotificationIntent) (ws : TenantWorkspace) :
    intent.dedupKey ∈ (storeIntent intent ws).intentsByDedup :=
  Dict.mem_set.mpr (Or.inl rfl)

/-- One delivery attempt: the status of the answer is stored, or the transport raises. -/
theorem deliver_ends (host : Host) (ws : TenantWorkspace) (intent : NotificationIntent) :
    (∃ success detail delivery ws', Returns (deliver host intent) ws delivery ws' ∧
        ws'.intents.get? intent.id =
          some { intent with status := deliveryStatus success detail } ∧
        intent.dedupKey ∈ ws'.intentsByDedup ∧
        (success = true ↔ OnSome (ws.adapters intent.channel) fun adapter =>
          OnOk (adapter.deliver intent) fun answer => answer.1 = true)) ∨
      (Refuses (deliver host intent) ws ∧
        ¬ OnSome (ws.adapters intent.channel) fun adapter =>
          OnOk (adapter.deliver intent) fun answer => answer.1 = true) := by
  cases hadapter : ws.adapters intent.channel with
  | none =>
      refine Or.inl ⟨false, "", ?_⟩
      rw [deliver]
      simp only [returns_get_bind, hadapter, returns_modify_bind, returns_pure]
      exact ⟨_, _, ⟨rfl, rfl⟩, Dict.get?_set_self _ _ _, Dict.mem_set.mpr (Or.inl rfl),
        by simp [OnSome]⟩
  | some adapter =>
      cases hanswer : adapter.deliver intent with
      | error e =>
          refine Or.inr ⟨?_, by simp [OnSome, OnOk, hanswer]⟩
          rw [deliver]
          refine (returns_get.mpr ⟨rfl, rfl⟩).bind_refuses ?_
          simp only [hadapter, hanswer]
          exact (refuses_throw e).bind
      | ok answer =>
          obtain ⟨success, providerReceipt, detail⟩ := answer
          refine Or.inl ⟨success, detail, ?_⟩
          rw [deliver]
          simp only [returns_get_bind, hadapter, hanswer, returns_okOrRaise_bind,
            returns_modify_bind, returns_pure]
          refine ⟨_, _, ⟨_, rfl, rfl, rfl⟩, Dict.get?_set_self _ _ _, Dict.mem_set.mpr (Or.inl rfl),
            by simp [OnSome, OnOk, hanswer]⟩

theorem deliveryStatus_eq_delivered (success : Bool) (detail : String) :
    deliveryStatus success detail = .delivered ↔ success = true := by
  cases success with
  | true => exact iff_of_true rfl rfl
  | false =>
      refine iff_of_false ?_ Bool.false_ne_true
      rw [deliveryStatus, if_neg Bool.false_ne_true]
      split <;> exact fun h => nomatch h

theorem intentStatus_ne_delivered (ws : TenantWorkspace) (donorId : Id)
    (channel : NotificationChannel) (messageClass : NotificationMessageClass) (created : String) :
    ws.intentStatus donorId channel messageClass created ≠ .delivered := by
  unfold intentStatus
  split_ifs <;> exact fun h => nomatch h

theorem ne_of_mem_intentsByDedup {key : String} (hnone : ws.intentsByDedup.get? key = none)
    (hmem : key ∈ ws'.intentsByDedup) : ws' ≠ ws := by
  rintro rfl
  exact Dict.get?_eq_none.mp hnone hmem

/-- A first evaluation leaves an intent under its key; it ends with a delivered
one exactly when the intent is delivered. -/
theorem evaluateIntent_new (ws : TenantWorkspace) (intent : NotificationIntent)
    (hdonor : donorId ∈ l.donors)
    (hintent : newIntent host l donorId channel messageClass sourceType sourceId payload
      templateVersion (host.nowIso "nint" 0)
      (ws.intentStatus donorId channel messageClass (host.nowIso "nint" 0)) = intent)
    (hnone : ws.intentsByDedup.get?
      (intentDedupKey l donorId channel messageClass sourceType sourceId templateVersion) = none) :
    (ws.Delivers intent ∧ ∃ i ws', Returns (evaluateIntent host l donorId channel messageClass
        sourceType sourceId payload templateVersion none true) ws i ws' ∧ i.status = .delivered) ∨
      (¬ ws.Delivers intent ∧ ∃ ws', intent.dedupKey ∈ ws'.intentsByDedup ∧
        ((∃ e, Raises (evaluateIntent host l donorId channel messageClass sourceType sourceId payload
          templateVersion none true) ws e ws') ∨
        ∃ i, Returns (evaluateIntent host l donorId channel messageClass sourceType sourceId payload
          templateVersion none true) ws i ws' ∧ i.status ≠ .delivered)) := by
  have hrun : (evaluateIntent host l donorId channel messageClass sourceType sourceId payload
      templateVersion none true).run ws =
      (if intent.status = .created then deliverStored host intent else pure intent).run
        (storeIntent intent ws) := by
    rw [evaluateIntent, (returns_raiseIf (u := ()).mpr ⟨not_not.mpr hdonor, rfl⟩ :
      Returns _ ws () ws).bind, (returns_get.mpr ⟨rfl, rfl⟩ : Returns get ws ws ws).bind, hnone,
      ← hintent]
    simp only [and_true]
    rfl
  by_cases hcreated : intent.status = .created
  swap
  · -- blocked or deferred: stored, and not delivered
    rw [if_neg hcreated] at hrun
    refine Or.inr ⟨fun h => hcreated h.1, storeIntent intent ws, storeIntent_mem intent ws,
      Or.inr ⟨intent, hrun, ?_⟩⟩
    rw [← hintent]
    exact intentStatus_ne_delivered ws donorId channel messageClass _
  rw [if_pos hcreated] at hrun
  rcases deliver_ends host (storeIntent intent ws) intent with
    ⟨success, detail, delivery, ws', hdel, hstored, hmem, hsuccess⟩ | ⟨⟨e, href⟩, hfail⟩
  · have hret : Returns (evaluateIntent host l donorId channel messageClass sourceType sourceId
        payload templateVersion none true) ws
        { intent with status := deliveryStatus success detail } ws' := by
      refine hrun.trans (hdel.bind.trans ?_)
      exact returns_get_bind.mpr (returns_orRaise.mpr ⟨hstored, rfl⟩)
    by_cases hdelivered : success = true
    · exact Or.inl ⟨⟨hcreated, hsuccess.mp hdelivered⟩, _, ws', hret,
        (deliveryStatus_eq_delivered success detail).mpr hdelivered⟩
    · refine Or.inr ⟨fun h => hdelivered (hsuccess.mpr h.2), ws', hmem, Or.inr ⟨_, hret, ?_⟩⟩
      exact fun h => hdelivered ((deliveryStatus_eq_delivered success detail).mp h)
  · exact Or.inr ⟨fun h => hfail h.2, storeIntent intent ws,
      storeIntent_mem intent ws, Or.inl ⟨e, hrun.trans href.bind⟩⟩

end Evaluation

end TenantWorkspace

end ImpactRelay
