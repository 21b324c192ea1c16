/-
# `Agents.Erasure` — whether an erasure stays effective

What `privacy_ops.py` erases, the notification service and the executor's send
can write again.  A run after the erasure is a list of their calls, with a
caller's consents and preferences in between; what a transport answers is new
at every call.

  * `Silenced` — no consent of the donor, and no way to fill one in; every call
    keeps it, a caller's new consent for the donor apart, and delivers nothing
    to the donor (`Silenced.take`);
  * an erasure that leaves a revoked EMAIL consent leaves the donor silenced.
    One that finds neither an EMAIL consent nor an EMAIL preference leaves no
    record, and a send through the in-process fixture then grants the consent
    by itself (`delivers_after_erasure`).
-/
import ImpactRelay.Agents.Fates
import ImpactRelay.Domain.ConsentGate
import ImpactRelay.Domain.LiveReceipts
import Mathlib

namespace ImpactRelay

open Raise

namespace LedgerCommandExecutor

/-! ## The calls after an erasure -/

/-- One call of the notification service or the executor.  The evaluation of an
impact receipt is an `evaluateIntent` with that receipt's donor and body. -/
inductive LaterCall
  | evaluateIntent (donorId : Id) (channel : NotificationChannel)
      (messageClass : NotificationMessageClass) (sourceType : String) (sourceId : Id)
      (payload : List (String × Json)) (templateVersion : String) (createdAt : Option String)
      (deliverNow : Bool)
  | evaluateForUseOfFunds (receiptId : Id) (channel : NotificationChannel) (deliverNow : Bool)
      (payloadPatch : List (String × Json))
  | recordConsent (consent : ConsentRecord)
  | setPreference (pref : NotificationPreference)
  | registerPreview (preview : EmailPreview)
  | sendNotification (p : SendPayload)

/-- A call, what it draws, and what the transports answer to it. -/
structure Later where
  host : Host
  answers : NotificationChannel → NotificationIntent → Except PyExc (Bool × String × String)
  call : LaterCall

/-- The configured transports with their answers of the moment. -/
def answering (answers : NotificationChannel → NotificationIntent →
    Except PyExc (Bool × String × String)) (ws : TenantWorkspace) : TenantWorkspace :=
  { ws with
    notificationAdapters := fun channel =>
      (ws.notificationAdapters channel).map fun adapter =>
        { adapter with deliver := answers channel } }

/-- A method of the executor's workspace, when it has one. -/
def onItsWorkspace {α : Type} (x : WorkspaceM α) : ExecutorM Unit := do
  let s ← get
  match s.workspace with
  | none => pure ()
  | some ws => (fun _ => ()) <$> onWorkspace ws x

def perform (host : Host) (l : Ledger) : LaterCall → ExecutorM Unit
  | .evaluateIntent donorId channel messageClass sourceType sourceId payload templateVersion
      createdAt deliverNow =>
      onItsWorkspace (TenantWorkspace.evaluateIntent host l donorId channel messageClass sourceType
        sourceId payload templateVersion createdAt deliverNow)
  | .evaluateForUseOfFunds receiptId channel deliverNow payloadPatch =>
      onItsWorkspace (TenantWorkspace.evaluateForUseOfFunds host l receiptId channel deliverNow
        payloadPatch)
  | .recordConsent consent => onItsWorkspace (TenantWorkspace.recordConsent l consent)
  | .setPreference pref => onItsWorkspace (TenantWorkspace.setPreference l pref)
  | .registerPreview preview =>
      modify fun s => { s with previews := s.previews.set preview.previewId preview }
  | .sendNotification p => (fun _ => ()) <$> sendNotification host p

/-- The executor after a call, however it ended. -/
def take (s : LedgerCommandExecutor) (later : Later) : LedgerCommandExecutor :=
  after (perform later.host s.ledger later.call)
    { s with workspace := s.workspace.map (answering later.answers) }

/-- A caller records a new granted consent for the donor. -/
def Later.Consents (donorId : Id) (later : Later) : Prop :=
  ∃ c, later.call = .recordConsent c ∧ c.donorId = donorId ∧ c.granted = true

/-- Each successful delivery to the donor was there before. -/
def NothingDelivered (donorId : Id) (s₁ s : LedgerCommandExecutor) : Prop :=
  ∀ ws₁ ws, s₁.workspace = some ws₁ → s.workspace = some ws →
    ∀ k d, ws.deliveries.get? k = some d → d.donorId = donorId → d.success = true →
      ws₁.deliveries.get? k = some d

/-- Whatever is called from now on, without a new consent nothing is delivered. -/
def StaysErased (donorId : Id) (s : LedgerCommandExecutor) : Prop :=
  ∀ run : List Later, (∀ later ∈ run, ¬ later.Consents donorId) →
    NothingDelivered donorId s (run.foldl take s)

/-! ## The transports -/

/-- The EMAIL transport asks for a missing consent to be filled in. -/
def emailFixture (ws : TenantWorkspace) : Bool :=
  match ws.adapters .email with
  | some adapter => adapter.fixtureConsentBootstrap
  | none => false

theorem bootstraps_iff {ws : TenantWorkspace} {donorId : Id} :
    bootstraps ws donorId = true ↔
      emailFixture ws = true ∧ (donorId, NotificationChannel.email) ∉ ws.consents := by
  rw [bootstraps, Bool.and_eq_true, decide_eq_true_eq]
  exact Iff.rfl

section Answering

variable (answers : NotificationChannel → NotificationIntent →
  Except PyExc (Bool × String × String)) (ws : TenantWorkspace)

/-- No transport is configured exactly when none was. -/
theorem answering_adapters (channel : NotificationChannel) :
    (answering answers ws).adapters channel =
      if (ws.notificationAdapters .push).isNone ∧ (ws.notificationAdapters .email).isNone ∧
          (ws.notificationAdapters .sms).isNone then ws.adapters channel
      else (ws.adapters channel).map fun adapter =>
        { adapter with deliver := answers channel } := by
  have hmap : ∀ c, ((answering answers ws).notificationAdapters c).isNone =
      (ws.notificationAdapters c).isNone := fun c => Option.isNone_map
  unfold TenantWorkspace.adapters
  rw [hmap, hmap, hmap]
  split
  · rfl
  · rfl

theorem emailFixture_answering : emailFixture (answering answers ws) = emailFixture ws := by
  unfold emailFixture
  rw [answering_adapters]
  by_cases hnone : (ws.notificationAdapters .push).isNone ∧
      (ws.notificationAdapters .email).isNone ∧ (ws.notificationAdapters .sms).isNone
  · rw [if_pos hnone]
  · rw [if_neg hnone]
    cases ws.adapters .email <;> rfl

/-- A fixture whose answer is a success, and the built-in one always. -/
theorem emailFixture_succeeds (h : emailFixture ws = true)
    (hanswers : ∀ channel intent, ∃ answer, answers channel intent = .ok answer ∧
      answer.1 = true) :
    ∃ adapter, (answering answers ws).adapters .email = some adapter ∧
      ∀ intent, ∃ answer, adapter.deliver intent = .ok answer ∧ answer.1 = true := by
  rw [answering_adapters]
  split
  next hnone =>
    refine ⟨inProcessDeliveryAdapter "email_fixture", ?_, fun intent => ⟨_, rfl, rfl⟩⟩
    rw [TenantWorkspace.adapters, if_pos hnone]
  next =>
    rw [emailFixture] at h
    cases hadapter : ws.adapters .email with
    | none =>
        rw [hadapter] at h
        exact nomatch h
    | some adapter => exact ⟨_, rfl, hanswers .email⟩

end Answering

/-! ## A silenced donor -/

/-- No channel has a granted consent of the donor, none can be filled in, and
each successful delivery is one of `before`. -/
structure Silenced (donorId : Id) (before : Dict Id NotificationDelivery) (l : Ledger)
    (ws : TenantWorkspace) : Prop where
  noConsent : ∀ channel, ws.hasConsent donorId channel = false
  noBootstrap : bootstraps ws donorId = false ∨
    ∀ k r, l.receipts.get? k = some r → r.donorId ≠ donorId
  undelivered : ∀ k d, ws.deliveries.get? k = some d → d.donorId = donorId → d.success = true →
    before.get? k = some d

section Silenced

variable {donorId : Id} {before : Dict Id NotificationDelivery} {l : Ledger} {host : Host}
  {ws : TenantWorkspace}

/-- Only the consents, the transports and the deliveries matter. -/
theorem Silenced.congr {ws' : TenantWorkspace} (h : Silenced donorId before l ws)
    (hconsents : ws'.consents = ws.consents)
    (hadapters : ws'.notificationAdapters = ws.notificationAdapters)
    (hdeliveries : ws'.deliveries = ws.deliveries) : Silenced donorId before l ws' where
  noConsent channel := by
    rw [TenantWorkspace.hasConsent, hconsents]
    exact h.noConsent channel
  noBootstrap := by
    have hsame : bootstraps ws' donorId = bootstraps ws donorId := by
      rw [bootstraps, bootstraps, TenantWorkspace.adapters, TenantWorkspace.adapters, hconsents,
        hadapters]
    exact hsame ▸ h.noBootstrap
  undelivered := hdeliveries ▸ h.undelivered

theorem Silenced.answering (h : Silenced donorId before l ws)
    (answers : NotificationChannel → NotificationIntent → Except PyExc (Bool × String × String)) :
    Silenced donorId before l (answering answers ws) where
  noConsent := h.noConsent
  noBootstrap := by
    refine h.noBootstrap.imp_left fun hnot => Bool.eq_false_iff.mpr fun hboot => ?_
    obtain ⟨hfixture, hmem⟩ := bootstraps_iff.mp hboot
    rw [emailFixture_answering] at hfixture
    exact Bool.eq_false_iff.mp hnot (bootstraps_iff.mpr ⟨hfixture, hmem⟩)
  undelivered := h.undelivered

/-- A consent of another donor, or one that is not granted. -/
theorem Silenced.setConsent (h : Silenced donorId before l ws) {c : ConsentRecord}
    (hc : c.donorId = donorId → c.granted = false) :
    Silenced donorId before l
      { ws with consents := ws.consents.set (c.donorId, c.channel) c } where
  noConsent channel := by
    by_cases hk : (donorId, channel) = (c.donorId, c.channel)
    · rw [TenantWorkspace.hasConsent, hk, Dict.get?_set_self]
      exact hc (Prod.mk.inj hk).1.symm
    · rw [TenantWorkspace.hasConsent, Dict.get?_set_ne hk]
      exact h.noConsent channel
  noBootstrap := by
    refine h.noBootstrap.imp_left fun hnot => Bool.eq_false_iff.mpr fun hboot => ?_
    obtain ⟨hfixture, hmem⟩ := bootstraps_iff.mp hboot
    refine Bool.eq_false_iff.mp hnot (bootstraps_iff.mpr ⟨hfixture, fun hold => hmem ?_⟩)
    exact Dict.mem_set.mpr (Or.inr hold)
  undelivered := h.undelivered

/-- An intent of the donor is blocked, and an attempt is one for another donor. -/
theorem silenced_evaluateIntent (donorId' : Id) (channel : NotificationChannel)
    (messageClass : NotificationMessageClass) (sourceType : String) (sourceId : Id)
    (payload : List (String × Json)) (templateVersion : String) (createdAt : Option String)
    (deliverNow : Bool) :
    Preserves (Silenced donorId before l)
      (TenantWorkspace.evaluateIntent host l donorId' channel messageClass sourceType sourceId
        payload templateVersion createdAt deliverNow) := by
  intro ws h
  rcases TenantWorkspace.evaluateIntent_after ws rfl with
    heq | ⟨_, _, intent, hintent, heq | ⟨hcreated, _, status, d, _, hd, heq⟩⟩
  · exact heq.symm ▸ h
  · rw [heq]
    exact h.congr rfl rfl rfl
  · have hdonor : intent.donorId = donorId' := by rw [hintent]; rfl
    have hother : donorId' ≠ donorId := by
      rintro rfl
      rw [hintent] at hcreated
      have hblocked : ws.intentStatus donorId' channel messageClass
          (truthyOr createdAt (host.nowIso "nint" 0)) = .blockedNoConsent :=
        if_pos (h.noConsent channel)
      exact nomatch hblocked.symm.trans hcreated
    rw [heq]
    have hstored : Silenced donorId before l
        (TenantWorkspace.storeIntent { intent with status }
          (TenantWorkspace.storeIntent intent ws)) := h.congr rfl rfl rfl
    refine ⟨hstored.noConsent, hstored.noBootstrap, fun k d' hd' hown hsuccess => ?_⟩
    by_cases hk : k = d.id
    · rw [TenantWorkspace.settled, hk, Dict.get?_set_self] at hd'
      cases hd'
      exact absurd (hd.symm.trans hown) (hdonor ▸ hother)
    · rw [TenantWorkspace.settled, Dict.get?_set_ne hk] at hd'
      exact h.undelivered k d' hd' hown hsuccess

theorem silenced_evaluateForUseOfFunds (receiptId : Id) (channel : NotificationChannel)
    (deliverNow : Bool) (payloadPatch : List (String × Json)) :
    Preserves (Silenced donorId before l)
      (TenantWorkspace.evaluateForUseOfFunds host l receiptId channel deliverNow payloadPatch) :=
  ((ReadOnly.orRaise _ _).preserves _).bind fun _ => silenced_evaluateIntent _ _ _ _ _ _ _ _ _

theorem silenced_recordConsent {c : ConsentRecord} (hc : c.donorId = donorId → c.granted = false) :
    Preserves (Silenced donorId before l) (TenantWorkspace.recordConsent l c) := by
  refine (Preserves.raiseIf _ _).bind fun _ => (Preserves.raiseIf _ _).bind fun _ => ?_
  exact (Preserves.modify fun ws h => h.setConsent hc).bind fun _ => Preserves.pure _

theorem silenced_setPreference (pref : NotificationPreference) :
    Preserves (Silenced donorId before l) (TenantWorkspace.setPreference l pref) := by
  refine (Preserves.raiseIf _ _).bind fun _ => (Preserves.raiseIf _ _).bind fun _ => ?_
  exact (Preserves.modify fun ws h => h.congr rfl rfl rfl).bind fun _ => Preserves.pure _

/-- A consent is filled in for another donor only. -/
theorem silenced_bootstrapConsent {receiptId : Id} {r : UseOfFundsReceipt}
    (hr : l.receipts.get? receiptId = some r) :
    Preserves (Silenced donorId before l) (bootstrapConsent host l r.donorId) := by
  intro ws h
  rw [bootstrapConsent, after_get_bind]
  by_cases hboot : bootstraps ws r.donorId = true
  swap
  · rw [if_neg hboot]
    exact (ReadOnly.pure () ws).symm ▸ h
  have hother : r.donorId ≠ donorId := by
    rintro rfl
    rcases h.noBootstrap with hnot | hnone
    · exact Bool.eq_false_iff.mp hnot hboot
    · exact hnone receiptId r hr rfl
  rw [if_pos hboot]
  refine Preserves.bind (P := Silenced donorId before l) ?_ (fun _ => ?_) ws h
  · exact silenced_recordConsent fun hsame => absurd hsame hother
  · exact (silenced_setPreference _).bind fun _ => Preserves.pure _

theorem silenced_sendFrom {preview : EmailPreview} {receiptId : Id} {r : UseOfFundsReceipt}
    (hr : l.receipts.get? receiptId = some r) :
    Preserves (Silenced donorId before l) (sendFrom host l preview receiptId r) := by
  refine (silenced_bootstrapConsent hr).bind fun _ => ?_
  refine (silenced_evaluateForUseOfFunds _ _ _ _).bind fun _ => ?_
  exact (Preserves.raiseIf _ _).bind fun _ => Preserves.get.bind fun _ => Preserves.pure _

end Silenced

/-! ## One call, and a run of them -/

section Run

variable {donorId : Id} {before : Dict Id NotificationDelivery} {l : Ledger}
  {s : LedgerCommandExecutor}

/-- The executor over the ledger `l`, and the donor silenced in its workspace. -/
def SilencedIn (donorId : Id) (before : Dict Id NotificationDelivery) (l : Ledger)
    (s : LedgerCommandExecutor) : Prop :=
  s.ledger = l ∧ ∀ ws, s.workspace = some ws → Silenced donorId before l ws

theorem silencedIn_onItsWorkspace {α : Type} {x : WorkspaceM α}
    (hx : Preserves (Silenced donorId before l) x) :
    Preserves (SilencedIn donorId before l) (onItsWorkspace x) := by
  intro s h
  rw [onItsWorkspace, after_get_bind]
  cases hws : s.workspace with
  | none => exact (ReadOnly.pure () s).symm ▸ h
  | some ws =>
      refine after_map.symm ▸ after_of_cases (fun a s' hret => ?_) (fun e s' hraise => ?_)
      · obtain ⟨ws', hx', rfl⟩ := returns_within.mp hret
        rw [hws] at hx'
        refine ⟨h.1, fun ws'' heq => ?_⟩
        cases heq
        exact hx.returns (h.2 ws hws) hx'
      · obtain ⟨ws', hx', rfl⟩ := raises_within.mp hraise
        rw [hws] at hx'
        refine ⟨h.1, fun ws'' heq => ?_⟩
        cases heq
        exact hx.raises (h.2 ws hws) hx'

theorem silencedIn_sendNotification {host : Host} (p : SendPayload) :
    Preserves (SilencedIn donorId before l) (sendNotification host p) := by
  intro s h
  rw [sendNotification, after_get_bind]
  refine Preserves.okOrRaise_bind (P := SilencedIn donorId before l) ?_ s h
  rintro ⟨ws, preview, receiptId, r⟩ hargs s' h'
  obtain ⟨hws, hr⟩ := sendArgs_ok hargs
  have hx : Preserves (Silenced donorId before l)
      (sendFrom host s.ledger preview receiptId r) := by
    rw [h.1]
    exact silenced_sendFrom (h.1 ▸ hr)
  refine after_of_cases (fun a s'' hret => ?_) (fun e s'' hraise => ?_)
  · obtain ⟨ws', hx', rfl⟩ := returns_within.mp hret
    refine ⟨h'.1, fun ws'' heq => ?_⟩
    cases heq
    refine hx.returns ?_ hx'
    cases hws' : s'.workspace with
    | none => exact h.2 ws hws
    | some w => exact h'.2 w hws'
  · obtain ⟨ws', hx', rfl⟩ := raises_within.mp hraise
    refine ⟨h'.1, fun ws'' heq => ?_⟩
    cases heq
    refine hx.raises ?_ hx'
    cases hws' : s'.workspace with
    | none => exact h.2 ws hws
    | some w => exact h'.2 w hws'

theorem silencedIn_perform {host : Host} {call : LaterCall}
    (hcall : ∀ c, call = .recordConsent c → c.donorId = donorId → c.granted = false) :
    Preserves (SilencedIn donorId before l) (perform host l call) := by
  cases call with
  | evaluateIntent => exact silencedIn_onItsWorkspace (silenced_evaluateIntent _ _ _ _ _ _ _ _ _)
  | evaluateForUseOfFunds =>
      exact silencedIn_onItsWorkspace (silenced_evaluateForUseOfFunds _ _ _ _)
  | recordConsent c => exact silencedIn_onItsWorkspace (silenced_recordConsent (hcall c rfl))
  | setPreference pref => exact silencedIn_onItsWorkspace (silenced_setPreference pref)
  | registerPreview preview => exact Preserves.modify fun s h => h
  | sendNotification p => exact (silencedIn_sendNotification p).map _

/-- One call, whatever it is and however it ends. -/
theorem SilencedIn.take (h : SilencedIn donorId before l s) {later : Later}
    (hlater : ¬ later.Consents donorId) : SilencedIn donorId before l (take s later) := by
  obtain ⟨rfl, hsilenced⟩ := h
  have hanswering : SilencedIn donorId before s.ledger
      { s with workspace := s.workspace.map (answering later.answers) } := by
    refine ⟨rfl, fun ws hws => ?_⟩
    obtain ⟨w, hw, rfl⟩ := Option.map_eq_some_iff.mp hws
    exact (hsilenced w hw).answering later.answers
  refine silencedIn_perform (fun c hc hdonor => ?_) _ hanswering
  exact Bool.eq_false_iff.mpr fun hgranted => hlater ⟨c, hc, hdonor, hgranted⟩

/-- A run of calls, by induction on the list. -/
theorem SilencedIn.run (h : SilencedIn donorId before l s) {run : List Later}
    (hrun : ∀ later ∈ run, ¬ later.Consents donorId) :
    SilencedIn donorId before l (run.foldl LedgerCommandExecutor.take s) := by
  induction run generalizing s with
  | nil => exact h
  | cons later run ih =>
      exact ih (h.take (hrun later List.mem_cons_self))
        fun m hm => hrun m (List.mem_cons_of_mem _ hm)

end Run

/-! ## A donor without a record -/

section Unrecorded

variable {donorId : Id} {l : Ledger} {ws : TenantWorkspace} {host : Host}

/-- A granted EMAIL consent and the fixture's preference, behind a fixture. -/
structure Opened (l : Ledger) (donorId : Id) (ws : TenantWorkspace) : Prop where
  consent : ws.hasConsent donorId .email = true
  preference : ws.preferences.get? (donorId, .email) = some (fixturePreference l donorId)
  fixture : emailFixture ws = true

theorem Opened.congr {ws' : TenantWorkspace} (h : Opened l donorId ws)
    (hconsents : ws'.consents = ws.consents) (hpreferences : ws'.preferences = ws.preferences)
    (hadapters : ws'.notificationAdapters = ws.notificationAdapters) : Opened l donorId ws' where
  consent := by
    rw [TenantWorkspace.hasConsent, hconsents]
    exact h.consent
  preference := hpreferences ▸ h.preference
  fixture := by
    unfold emailFixture TenantWorkspace.adapters
    rw [hadapters]
    exact h.fixture

theorem opened_evaluateForUseOfFunds (receiptId : Id) (channel : NotificationChannel)
    (deliverNow : Bool) (payloadPatch : List (String × Json)) :
    Preserves (Opened l donorId)
      (TenantWorkspace.evaluateForUseOfFunds host l receiptId channel deliverNow payloadPatch) := by
  refine ((ReadOnly.orRaise _ _).preserves _).bind fun r ws h => ?_
  rcases TenantWorkspace.evaluateIntent_after ws rfl with
    heq | ⟨_, _, intent, _, heq | ⟨_, _, status, d, _, _, heq⟩⟩
  · exact heq.symm ▸ h
  · rw [heq]
    exact h.congr rfl rfl rfl
  · rw [heq]
    exact h.congr rfl rfl rfl

/-- A send through the fixture opens the channel of a donor without a record,
whether or not its own intent is delivered. -/
theorem opened_sendFrom {preview : EmailPreview} {receiptId : Id} {r : UseOfFundsReceipt}
    (hdonor : r.donorId ∈ l.donors) (hboot : bootstraps ws r.donorId = true) :
    Opened l r.donorId (after (sendFrom host l preview receiptId r) ws) := by
  rw [sendFrom, (bootstrapConsent_returns hdonor).after_bind]
  have hopened : Opened l r.donorId (bootstrapped host l ws r.donorId) := by
    rw [bootstrapped, if_pos hboot]
    refine ⟨?_, Dict.get?_set_self _ _ _, (bootstraps_iff.mp hboot).1⟩
    rw [TenantWorkspace.hasConsent, Dict.get?_set_self]
    rfl
  refine Preserves.bind (opened_evaluateForUseOfFunds _ _ _ _) (fun intent => ?_) _ hopened
  exact (Preserves.raiseIf _ _).bind fun _ => Preserves.get.bind fun _ => Preserves.pure _

/-- Infinitely many texts, and finitely many keys. -/
theorem exists_fresh {ν : Type} (d : Dict String ν) {f : String → String}
    (hf : Function.Injective f) : ∃ a, f a ∉ d := by
  obtain ⟨_, ⟨a, rfl⟩, hk⟩ :=
    (Set.infinite_range_of_injective hf).exists_notMem_finset d.keys.toFinset
  exact ⟨a, fun h => hk (List.mem_toFinset.mpr h)⟩

/-- Some source of a message has no intent yet. -/
theorem exists_fresh_source (l : Ledger) (donorId : Id) {ν : Type} (d : Dict String ν) :
    ∃ sourceId, TenantWorkspace.intentDedupKey l donorId .email .moneyUsed "USE_OF_FUNDS" sourceId
      "v1.0" ∉ d := by
  refine exists_fresh d fun a b h => ?_
  have hlist := congrArg String.toList h
  simp only [TenantWorkspace.intentDedupKey, String.toList_append, List.append_assoc,
    List.append_cancel_left_eq] at hlist
  exact String.toList_injective (List.append_cancel_right hlist)

/-- An open channel whose transport succeeds delivers a message of a new source. -/
theorem delivers_of_opened (host : Host) (h : Opened l donorId ws) (hdonor : donorId ∈ l.donors)
    {adapter : DeliveryAdapter} (hadapter : ws.adapters .email = some adapter)
    (hsucceeds : ∀ intent, ∃ answer, adapter.deliver intent = .ok answer ∧ answer.1 = true)
    {sourceId : Id} (hsource : TenantWorkspace.intentDedupKey l donorId .email .moneyUsed
      "USE_OF_FUNDS" sourceId "v1.0" ∉ ws.intentsByDedup) :
    ∃ d, (after (TenantWorkspace.evaluateIntent host l donorId .email .moneyUsed "USE_OF_FUNDS"
        sourceId [] "v1.0" none true) ws).deliveries.get? (host.newId "ndel" 0) = some d ∧
      d.donorId = donorId ∧ d.success = true := by
  have hstatus : ∀ created, ws.intentStatus donorId .email .moneyUsed created = .created := by
    intro created
    have hallows : ws.prefAllows donorId .email .moneyUsed = true := by
      rw [TenantWorkspace.prefAllows, h.preference]
      rfl
    have hquiet : ws.inQuietHours donorId .email created = false := by
      rw [TenantWorkspace.inQuietHours, h.preference]
      rfl
    simp [TenantWorkspace.intentStatus, h.consent, hallows, hquiet]
  rw [TenantWorkspace.evaluateIntent, after_raiseIf_bind, if_neg (not_not.mpr hdonor),
    after_get_bind, Dict.get?_eq_none.mpr hsource]
  simp only [after_modify_bind, hstatus]
  generalize hintent : TenantWorkspace.newIntent host l donorId .email .moneyUsed "USE_OF_FUNDS"
    sourceId [] "v1.0" _ _ = intent
  have hcreated : intent.status = .created := by rw [← hintent]; rfl
  rw [if_pos (And.intro hcreated trivial), TenantWorkspace.deliverStored_after]
  have hchannel : intent.channel = .email := by rw [← hintent]; rfl
  have hown : intent.donorId = donorId := by rw [← hintent]; rfl
  obtain ⟨answer, hanswer, hsuccess⟩ := hsucceeds intent
  have hsame : (TenantWorkspace.storeIntent intent ws).adapters intent.channel = some adapter :=
    hchannel ▸ hadapter
  rw [(TenantWorkspace.deliver_answered hsame hanswer).after]
  exact ⟨_, Dict.get?_set_self _ _ _, hown, hsuccess⟩

end Unrecorded

/-! ## After an erasure -/

section Erased

variable {donorId : Id} {s : LedgerCommandExecutor} {ws : TenantWorkspace}
  {actor provenance at_ : String} {eraseHistory : Bool}

/-- The donor had an EMAIL consent or preference to be revoked, or no send can
fill in a consent: its transport is no fixture, or the donor has no receipt. -/
def NoWayBack (l : Ledger) (ws : TenantWorkspace) (donorId : Id) : Prop :=
  (donorId, NotificationChannel.email) ∈ ws.consents ∨
    (donorId, NotificationChannel.email) ∈ ws.preferences ∨
    emailFixture ws = false ∨ ∀ k r, l.receipts.get? k = some r → r.donorId ≠ donorId

/-- A revoked EMAIL consent is left exactly when there was a record to revoke. -/
theorem mem_erased_consents (hws : ws.Coherent) (l : Ledger) :
    (donorId, NotificationChannel.email) ∈
        (TenantWorkspace.erased l ws donorId actor provenance at_ eraseHistory).consents ↔
      (donorId, NotificationChannel.email) ∈ ws.consents ∨
        (donorId, NotificationChannel.email) ∈ ws.preferences := by
  rw [← hws.mem_erasureChannels]
  constructor
  · intro hmem
    obtain ⟨c, hc⟩ := Dict.mem_iff_get?.mp hmem
    rcases TenantWorkspace.erased_consents_donor hc with ⟨_, hchannel, _⟩ | ⟨_, _, hold⟩
    · exact hchannel
    · exact hws.mem_erasureChannels.mpr (Or.inl (Dict.mem_of_get? hold))
  · exact fun hchannel => Dict.mem_of_get? (TenantWorkspace.erased_consents_revoked hchannel)

theorem silenced_of_erased (hws : ws.Coherent) (l : Ledger) (hback : NoWayBack l ws donorId) :
    Silenced donorId
      (TenantWorkspace.erased l ws donorId actor provenance at_ eraseHistory).deliveries l
      (TenantWorkspace.erased l ws donorId actor provenance at_ eraseHistory) where
  noConsent channel := by
    rw [TenantWorkspace.hasConsent]
    split
    next c hc =>
      exact (hws.forgotten l donorId actor provenance at_ eraseHistory).consents _ c hc rfl
    next => rfl
  noBootstrap := by
    rcases or_assoc.mpr hback with hrecord | hfixture | hnone
    · refine Or.inl (Bool.eq_false_iff.mpr fun hboot => ?_)
      exact (bootstraps_iff.mp hboot).2 ((mem_erased_consents hws l).mpr hrecord)
    · refine Or.inl (Bool.eq_false_iff.mpr fun hboot => ?_)
      exact Bool.eq_false_iff.mp hfixture (bootstraps_iff.mp hboot).1
    · exact Or.inr hnone
  undelivered k d hd _ _ := hd

/-- A preview of a receipt, as the send gate wants it. -/
def previewOf (r : UseOfFundsReceipt) : EmailPreview where
  previewId := "preview"
  tenantId := r.organizationId
  receiptId := r.receiptId
  subject := ""
  bodyText := ""
  receiptHash := r.receiptHash
  contentHash := ""
  facts := receiptFacts r

/-- The send of a registered preview. -/
def sendOf (receiptId : Id) (preview : EmailPreview) : SendPayload where
  previewId := some preview.previewId
  receiptId := some receiptId
  contentHash := some preview.contentHash
  receiptHash := some preview.receiptHash

/-- The gate lets the send of a preview through that has the receipt's id, hash
and facts, whatever its text is. -/
theorem sendArgs_sendOf {receiptId : Id} {r : UseOfFundsReceipt} {preview : EmailPreview}
    (hws : s.workspace = some ws) (hr : s.ledger.receipts.get? receiptId = some r)
    (hpreview : s.previews.get? preview.previewId = some preview) (hid : preview.previewId ≠ "")
    (hreceipt : preview.receiptId = r.receiptId) (hhash : preview.receiptHash = r.receiptHash)
    (hfacts : preview.facts = receiptFacts r) :
    sendArgs s (sendOf receiptId preview) = .ok (ws, preview, receiptId, r) := by
  have hsame : preview.facts.sameItems (receiptFacts r) = true :=
    hfacts ▸ Dict.sameItems_self preview.facts
  simp [sendArgs, hws, sendOf, orElse, hid, hpreview, need, hr, assertPreviewMatchesReceipt,
    hreceipt, hhash, hsame, bind, Except.bind, pure, Except.pure]

/-- A host that draws one id. -/
def drawing (id : Id) : Host where
  newId _ _ := id
  nowIso _ _ := ""

/-- A call to which every transport reports success. -/
def succeeding (id : Id) (call : LaterCall) : Later where
  host := drawing id
  answers _ _ := .ok (true, "", "")
  call := call

theorem take_registerPreview (hws : s.workspace = some ws) (id : Id) (preview : EmailPreview) :
    take s (succeeding id (.registerPreview preview)) =
      { s with
        workspace := some (answering (succeeding id (.registerPreview preview)).answers ws)
        previews := s.previews.set preview.previewId preview } := by
  rw [take, hws]
  rfl

/-- A send that passes the gate runs on the workspace. -/
theorem take_sendNotification {p : SendPayload} {preview : EmailPreview} {receiptId : Id}
    {r : UseOfFundsReceipt} (later : Later) (hcall : later.call = .sendNotification p)
    (hargs : sendArgs { s with workspace := s.workspace.map (answering later.answers) } p =
      .ok (ws, preview, receiptId, r)) :
    take s later = { s with
      workspace := some (after (sendFrom later.host s.ledger preview receiptId r) ws) } := by
  have hws : s.workspace.map (answering later.answers) = some ws := (sendArgs_ok hargs).1
  rw [take, hcall, perform, after_map, sendNotification, after_get_bind,
    (returns_okOrRaise.mpr ⟨hargs, rfl⟩ : Returns (okOrRaise _) _ _ _).after_bind]
  unfold onWorkspace
  rw [after_within]
  simp only [hws, Option.getD_some]

/-- The donor has no record, its transport is a fixture, and it has a receipt:
a send of the receipt opens the channel, and the next message is delivered. -/
theorem delivers_after_erasure {receiptId : Id} {r : UseOfFundsReceipt}
    (hws : s.workspace = some ws) (hdonor : r.donorId ∈ s.ledger.donors)
    (hr : s.ledger.receipts.get? receiptId = some r) (hfixture : emailFixture ws = true)
    (hrecord : (r.donorId, NotificationChannel.email) ∉ ws.consents) :
    ¬ StaysErased r.donorId s := by
  obtain ⟨id, hid⟩ := exists_fresh ws.deliveries (f := fun k => k) Function.injective_id
  -- the state after the registration and the send
  let registered := take s (succeeding id (.registerPreview (previewOf r)))
  let sending := succeeding id (.sendNotification (sendOf receiptId (previewOf r)))
  have hregistered : registered = { s with
      workspace := some (answering sending.answers ws)
      previews := s.previews.set "preview" (previewOf r) } := take_registerPreview hws id _
  have hargs : sendArgs { registered with
      workspace := registered.workspace.map (answering sending.answers) } (sendOf receiptId
        (previewOf r)) =
      .ok (answering sending.answers (answering sending.answers ws), previewOf r, receiptId, r) := by
    rw [hregistered]
    exact sendArgs_sendOf rfl hr (Dict.get?_set_self _ _ _) (by simp [previewOf]) rfl rfl rfl
  have hsent := take_sendNotification sending rfl hargs
  have hboot : bootstraps (answering sending.answers (answering sending.answers ws)) r.donorId =
      true := by
    refine bootstraps_iff.mpr ⟨?_, hrecord⟩
    rw [emailFixture_answering, emailFixture_answering, hfixture]
  have hopened : Opened registered.ledger r.donorId (after (sendFrom sending.host registered.ledger
      (previewOf r) receiptId r) (answering sending.answers (answering sending.answers ws))) :=
    opened_sendFrom (by rw [hregistered]; exact hdonor) hboot
  generalize after (sendFrom sending.host registered.ledger (previewOf r) receiptId r)
    (answering sending.answers (answering sending.answers ws)) = ws₃ at hsent hopened
  -- the evaluation of a new source
  obtain ⟨sourceId, hsource⟩ :=
    exists_fresh_source registered.ledger r.donorId ws₃.intentsByDedup
  let evaluating := succeeding id (.evaluateIntent r.donorId .email .moneyUsed "USE_OF_FUNDS"
    sourceId [] "v1.0" none true)
  obtain ⟨adapter, hadapter, hsucceeds⟩ := emailFixture_succeeds evaluating.answers ws₃
    hopened.fixture fun _ _ => ⟨_, rfl, rfl⟩
  have hopened' : Opened registered.ledger r.donorId (answering evaluating.answers ws₃) :=
    ⟨hopened.consent, hopened.preference, by rw [emailFixture_answering, hopened.fixture]⟩
  obtain ⟨d, hd, hown, hsuccess⟩ := delivers_of_opened evaluating.host hopened'
    (by rw [hregistered]; exact hdonor) hadapter hsucceeds hsource
  have hevaluated : (take (take registered sending) evaluating).workspace = some (after
      (TenantWorkspace.evaluateIntent evaluating.host registered.ledger r.donorId .email .moneyUsed
        "USE_OF_FUNDS" sourceId [] "v1.0" none true) (answering evaluating.answers ws₃)) := by
    rw [hsent, take]
    show (after (onItsWorkspace _) _).workspace = _
    rw [onItsWorkspace, after_get_bind]
    simp only [Option.map_some, after_map]
    unfold onWorkspace
    rw [after_within]
    rfl
  intro hstays
  have hbefore := hstays [succeeding id (.registerPreview (previewOf r)), sending, evaluating]
    (by simp [Later.Consents, sending, evaluating, succeeding])
    ws _ hws hevaluated id d hd hown hsuccess
  exact hid (Dict.mem_of_get? hbefore)

end Erased

end LedgerCommandExecutor

open LedgerCommandExecutor in
/-- An erasure changes the workspace only, keeps the stores of the other donors
and forgets the donor.  It stays effective over every run of later calls exactly
when no send can fill in the consent it did not revoke. -/
theorem erasure_stays_effective_iff {s s₁ : LedgerCommandExecutor} {ws : TenantWorkspace}
    (hws : s.workspace = some ws) (hcoherent : ws.Coherent) {host : Host} {donorId : Id}
    {actor provenance : String} {eraseHistory : Bool} {revokedAt : Option String}
    {receipt : DonorNotificationEraseReceipt}
    (h : Returns (onWorkspace ws (TenantWorkspace.eraseDonorNotificationState host s.ledger donorId
      actor provenance eraseHistory revokedAt)) s receipt s₁) :
    ((∃ ws₁, s₁ = { s with workspace := some ws₁ } ∧ TenantWorkspace.OthersKept donorId ws ws₁ ∧
        TenantWorkspace.Forgotten donorId eraseHistory ws₁) ∧ StaysErased donorId s₁) ↔
      NoWayBack s.ledger ws donorId := by
  obtain ⟨ws₁, herase, rfl⟩ := returns_within.mp h
  rw [hws] at herase
  obtain ⟨hdonor, at_, rfl⟩ := TenantWorkspace.eraseDonorNotificationState_returns herase
  have hdone : ∃ ws₁, ({ s with workspace := some (TenantWorkspace.erased s.ledger ws donorId actor
      provenance at_ eraseHistory) } : LedgerCommandExecutor) = { s with workspace := some ws₁ } ∧
      TenantWorkspace.OthersKept donorId ws ws₁ ∧
      TenantWorkspace.Forgotten donorId eraseHistory ws₁ :=
    ⟨_, rfl, hcoherent.othersKept _ _ _ _ _ _, hcoherent.forgotten _ _ _ _ _ _⟩
  refine (and_iff_right hdone).trans ⟨fun hstays => ?_, fun hback run hrun => ?_⟩
  · by_contra hnot
    simp only [NoWayBack, not_or, Bool.not_eq_false, not_forall, not_not] at hnot
    obtain ⟨hconsent, hpreference, hfixture, k, r, hr, rfl⟩ := hnot
    refine delivers_after_erasure (s := { s with workspace := some (TenantWorkspace.erased s.ledger
      ws r.donorId actor provenance at_ eraseHistory) }) rfl hdonor hr hfixture (fun hmem => ?_)
      hstays
    exact ((mem_erased_consents hcoherent _).mp hmem).elim hconsent hpreference
  · intro ws₁ ws' hws₁ hws' k d hd hown hsuccess
    cases hws₁
    have hsilenced : SilencedIn donorId (TenantWorkspace.erased s.ledger ws donorId actor provenance
        at_ eraseHistory).deliveries s.ledger { s with workspace := some (TenantWorkspace.erased
          s.ledger ws donorId actor provenance at_ eraseHistory) } := by
      refine ⟨rfl, fun ws'' heq => ?_⟩
      cases heq
      exact silenced_of_erased hcoherent s.ledger hback
    exact ((hsilenced.run hrun).2 ws' hws').undelivered k d hd hown hsuccess

section Sample

attribute [local instance] Digest.plain

namespace LedgerCommandExecutor

/-- The ledger of a donor with a published receipt. -/
def Sample.published : Ledger := run Ledger.step (.new Ledger.Sample.organization)
  Ledger.Sample.evidencedRun

def Sample.consent : ConsentRecord where
  donorId := "donor"
  organizationId := "org"
  channel := .email
  granted := true
  provenance := "form"
  recordedAt := "2026-01-01T00:00:00+00:00"

/-- The donor has agreed to EMAIL. -/
def Sample.agreed : TenantWorkspace :=
  { consents := Dict.set .empty ("donor", .email) Sample.consent }

/-- The erasure of the donor, over the workspace `ws`. -/
def Sample.erase (ws : TenantWorkspace) : ExecutorM DonorNotificationEraseReceipt :=
  onWorkspace ws (TenantWorkspace.eraseDonorNotificationState (.numbered 20) Sample.published
    "donor" "privacy officer" "request 1" true none)

/-- What it leaves. -/
def Sample.erased (ws : TenantWorkspace) : LedgerCommandExecutor :=
  { LedgerCommandExecutor.new Sample.published false (some ws) with
    workspace := some (TenantWorkspace.erased Sample.published ws "donor" "privacy officer"
      "request 1" "2026-01-01T00:00:00+00:00" true) }

theorem Sample.erase_returns (ws : TenantWorkspace) : ∃ receipt,
    Returns (Sample.erase ws) (.new Sample.published false (some ws)) receipt
      (Sample.erased ws) := by
  obtain ⟨donor, hdonor, htenant⟩ : ∃ donor, Sample.published.donors.get? "donor" = some donor ∧
      donor.organizationId = Sample.published.organization.id := by decide
  obtain ⟨receipt, h⟩ := TenantWorkspace.eraseDonorNotificationState_accepts (.numbered 20) ws true
    none hdonor htenant (show Text.isBlank "privacy officer" = false by decide)
    (show Text.isBlank "request 1" = false by decide)
  unfold Sample.erase onWorkspace
  exact ⟨receipt, returns_within.mpr ⟨_, h, rfl⟩⟩

end LedgerCommandExecutor

open LedgerCommandExecutor

theorem agreed_stays_effective :
    ((∃ ws₁, Sample.erased Sample.agreed =
        { LedgerCommandExecutor.new Sample.published false (some Sample.agreed) with
          workspace := some ws₁ } ∧ TenantWorkspace.OthersKept "donor" Sample.agreed ws₁ ∧
        TenantWorkspace.Forgotten "donor" true ws₁) ∧
      StaysErased "donor" (Sample.erased Sample.agreed)) ↔
      NoWayBack Sample.published Sample.agreed "donor" := by
  obtain ⟨receipt, h⟩ := Sample.erase_returns Sample.agreed
  exact erasure_stays_effective_iff rfl
    ((TenantWorkspace.Coherent.empty _).setConsent Sample.consent) h

/-- The donor never gave a consent, asks for an erasure, and is written to. -/
theorem unrecorded_donor_notified : ¬ ∀ (s s₁ : LedgerCommandExecutor) (ws : TenantWorkspace)
    (host : Host) (donorId : Id) (actor provenance : String) (eraseHistory : Bool)
    (revokedAt : Option String) (receipt : DonorNotificationEraseReceipt),
    s.workspace = some ws → ws.Coherent →
      Returns (onWorkspace ws (TenantWorkspace.eraseDonorNotificationState host s.ledger donorId
        actor provenance eraseHistory revokedAt)) s receipt s₁ → StaysErased donorId s₁ := by
  intro h
  obtain ⟨receipt, herase⟩ := Sample.erase_returns {}
  have hstays : StaysErased "donor" (Sample.erased {}) :=
    h (.new Sample.published false (some {})) (Sample.erased {}) {} (.numbered 20) "donor"
      "privacy officer" "request 1" true none receipt rfl (.empty _) herase
  have hmem : ∃ r ∈ Sample.published.receipts.values, r.donorId = "donor" := by decide
  obtain ⟨r, hr, hown⟩ := hmem
  obtain ⟨k, hk⟩ := Dict.mem_values.mp hr
  have hdonor : r.donorId ∈ Sample.published.donors := by
    rw [hown]
    decide
  refine delivers_after_erasure (s := Sample.erased {}) rfl hdonor hk rfl ?_ (hown ▸ hstays)
  rw [hown]
  decide

end Sample

end ImpactRelay
