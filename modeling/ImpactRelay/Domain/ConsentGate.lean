/-
# `Domain.ConsentGate` — one notification a key, and only with consent

Over any history of the notification service the workspace holds one intent and
one delivery for each deduplication key, and a transport is called only while
the donor's consent, preference and quiet hours let the message through.

That a method calls a transport is read off its end: what the transport answers
makes a difference (`Calls`).  For an evaluation this is said exactly
(`calls_evaluateIntent_iff`): the transport of the channel is called, with the
new intent, if and only if the key is new and the intent is neither blocked nor
deferred.  The quiet hours are compared as texts by the code; as `HH:MM` texts
these have the order of the minutes of the day (`Datetime.hhmm_lt_iff`).  But the
code takes five characters after the first `T` for the time of day, whatever the
timestamp looks like (`HasClock`): `20260102T223000Z` is in the night of a window
from 22:00 and is delivered (`basic_timestamp_delivered`).
-/
import ImpactRelay.Domain.PrivacyOps
import ImpactRelay.Lib.IsoOrder
import ImpactRelay.Lib.Run

namespace ImpactRelay

open Raise

open Datetime (hhmm)

namespace TenantWorkspace

/-! ## Calls of a transport -/

/-- What each transport answers to each intent. -/
abbrev Answers := NotificationChannel → NotificationIntent → Except PyExc (Bool × String × String)

/-- The same transports, answering as `answers`. -/
def withAnswers (answers : Answers) (ws : TenantWorkspace) : TenantWorkspace :=
  { ws with
    notificationAdapters := fun channel =>
      (ws.adapters channel).map fun adapter => { adapter with deliver := answers channel } }

/-- How a method ends, the transports themselves left aside. -/
def outcome {α : Type} (x : WorkspaceM α) (ws : TenantWorkspace) :
    Except PyExc α × TenantWorkspace :=
  match x.run ws with
  | .ok a ws' => (.ok a, { ws' with notificationAdapters := fun _ => none })
  | .error e ws' => (.error e, { ws' with notificationAdapters := fun _ => none })

/-- The method hands `intent` to the transport of `channel`: how it ends depends
on what this transport answers to this intent. -/
def Calls {α : Type} (x : WorkspaceM α) (ws : TenantWorkspace) (channel : NotificationChannel)
    (intent : NotificationIntent) : Prop :=
  ∃ a b : Answers, (∀ c i, (c, i) ≠ (channel, intent) → a c i = b c i) ∧
    outcome x (withAnswers a ws) ≠ outcome x (withAnswers b ws)

section Calls

variable {ws : TenantWorkspace} {host : Host} {l : Ledger} {donorId : Id}
  {channel : NotificationChannel} {messageClass : NotificationMessageClass} {sourceType : String}
  {sourceId : Id} {payload : List (String × Json)} {templateVersion : String}
  {createdAt : Option String} {deliverNow : Bool}

theorem withAnswers_adapters (answers : Answers) (ws : TenantWorkspace)
    (channel : NotificationChannel) :
    (withAnswers answers ws).adapters channel =
      (ws.adapters channel).map fun adapter => { adapter with deliver := answers channel } := by
  have hmap : ∀ c, ((withAnswers answers ws).notificationAdapters c).isNone =
      (ws.adapters c).isNone := fun c => Option.isNone_map
  rw [adapters.eq_def, hmap, hmap, hmap]
  refine if_neg fun hnone => ?_
  -- with no transport at all the fixtures stand in
  unfold adapters at hnone
  by_cases hall : (ws.notificationAdapters .push).isNone ∧
      (ws.notificationAdapters .email).isNone ∧ (ws.notificationAdapters .sms).isNone
  · rw [if_pos hall] at hnone
    exact nomatch hnone.1
  · rw [if_neg hall, if_neg hall, if_neg hall] at hnone
    exact hall hnone

theorem outcome_of_returns {α : Type} {x : WorkspaceM α} {ws' : TenantWorkspace} {a : α}
    (h : Returns x ws a ws') :
    outcome x ws = (.ok a, { ws' with notificationAdapters := fun _ => none }) := by
  rw [outcome, show x.run ws = .ok a ws' from h]

theorem outcome_of_raises {α : Type} {x : WorkspaceM α} {ws' : TenantWorkspace} {e : PyExc}
    (h : Raises x ws e ws') :
    outcome x ws = (.error e, { ws' with notificationAdapters := fun _ => none }) := by
  rw [outcome, show x.run ws = .error e ws' from h]

theorem outcome_congr {α : Type} {x y : WorkspaceM α} {ws' : TenantWorkspace}
    (h : x.run ws = y.run ws') : outcome x ws = outcome y ws' := by
  rw [outcome, outcome, h]

/-- The intent an evaluation makes, whoever the transports are. -/
def evaluated (host : Host) (l : Ledger) (ws : TenantWorkspace) (donorId : Id)
    (channel : NotificationChannel) (messageClass : NotificationMessageClass) (sourceType : String)
    (sourceId : Id) (payload : List (String × Json)) (templateVersion : String)
    (createdAt : Option String) : NotificationIntent :=
  newIntent host l donorId channel messageClass sourceType sourceId payload templateVersion
    (truthyOr createdAt (host.nowIso "nint" 0))
    (ws.intentStatus donorId channel messageClass (truthyOr createdAt (host.nowIso "nint" 0)))

/-- An attempt ends as the answer to its intent has it. -/
theorem outcome_deliverStored (answers : Answers) (intent : NotificationIntent) :
    outcome (deliverStored host intent) (withAnswers answers (storeIntent intent ws)) =
      match ws.adapters intent.channel with
      | none => (.ok { intent with status := .failed },
          { settled intent .failed (attempted host intent "none"
            (false, "", "no adapter for channel")) (storeIntent intent ws) with
            notificationAdapters := fun _ => none })
      | some adapter =>
          match answers intent.channel intent with
          | .error e => (.error e,
              { storeIntent intent ws with notificationAdapters := fun _ => none })
          | .ok answer => (.ok { intent with status := deliveryStatus answer.1 answer.2.2 },
              { settled intent (deliveryStatus answer.1 answer.2.2)
                (attempted host intent adapter.providerName answer) (storeIntent intent ws) with
                notificationAdapters := fun _ => none }) := by
  have hadapters := withAnswers_adapters answers (storeIntent intent ws) intent.channel
  have hsame : (storeIntent intent ws).adapters intent.channel = ws.adapters intent.channel := rfl
  rw [hsame] at hadapters
  have hstored : ∀ {status delivery} {ws' : TenantWorkspace},
      Returns (deliver host intent) (withAnswers answers (storeIntent intent ws)) delivery
        (settled intent status delivery ws') →
      Returns (deliverStored host intent) (withAnswers answers (storeIntent intent ws))
        { intent with status } (settled intent status delivery ws') := by
    intro status delivery ws' hret
    refine returns_bind.mpr ⟨delivery, _, hret, ?_⟩
    rw [returns_get_bind, returns_orRaise]
    exact ⟨Dict.get?_set_self _ _ _, rfl⟩
  cases hadapter : ws.adapters intent.channel with
  | none =>
      rw [hadapter] at hadapters
      exact (outcome_of_returns (hstored (deliver_without_adapter hadapters))).trans rfl
  | some adapter =>
      rw [hadapter] at hadapters
      cases hanswer : answers intent.channel intent with
      | error e =>
          have hraises : Raises (deliverStored host intent)
              (withAnswers answers (storeIntent intent ws)) e _ :=
            (deliver_raised hadapters hanswer).bind
          exact (outcome_of_raises hraises).trans rfl
      | ok answer =>
          exact (outcome_of_returns (hstored (deliver_answered hadapters hanswer))).trans rfl

/-- A donor nobody registered, or a key that has its intent: the transports make
no difference. -/
theorem outcome_of_refused (a b : Answers)
    (h : donorId ∉ l.donors ∨ intentDedupKey l donorId channel messageClass sourceType sourceId
      templateVersion ∈ ws.intentsByDedup) :
    outcome (evaluateIntent host l donorId channel messageClass sourceType sourceId payload
        templateVersion createdAt deliverNow) (withAnswers a ws) =
      outcome (evaluateIntent host l donorId channel messageClass sourceType sourceId payload
        templateVersion createdAt deliverNow) (withAnswers b ws) := by
  by_cases hdonor : donorId ∈ l.donors
  · obtain ⟨existing, hkey⟩ := Dict.mem_iff_get?.mp (h.resolve_left (not_not.mpr hdonor))
    have hreturns : ∀ answers, Returns (evaluateIntent host l donorId channel messageClass
        sourceType sourceId payload templateVersion createdAt deliverNow)
        (withAnswers answers ws) existing (withAnswers answers ws) := by
      intro answers
      have hsome : (withAnswers answers ws).intentsByDedup.get? (intentDedupKey l donorId
        channel messageClass sourceType sourceId templateVersion) = some existing := hkey
      rw [evaluateIntent, returns_raiseIf_bind, returns_get_bind, hsome]
      exact ⟨not_not.mpr hdonor, returns_pure.mpr ⟨rfl, rfl⟩⟩
    exact (outcome_of_returns (hreturns a)).trans (outcome_of_returns (hreturns b)).symm
  · have hraises : ∀ answers, Raises (evaluateIntent host l donorId channel messageClass
        sourceType sourceId payload templateVersion createdAt deliverNow)
        (withAnswers answers ws) (notFoundError s!"donor not found: {donorId}")
        (withAnswers answers ws) := by
      intro answers
      rw [evaluateIntent, raises_raiseIf_bind]
      exact Or.inl ⟨hdonor, rfl, rfl⟩
    exact (outcome_of_raises (hraises a)).trans (outcome_of_raises (hraises b)).symm

/-- Otherwise the new intent is stored, and delivered or returned. -/
theorem outcome_of_new (answers : Answers) (hdonor : donorId ∈ l.donors)
    (hkey : intentDedupKey l donorId channel messageClass sourceType sourceId templateVersion ∉
      ws.intentsByDedup) {intent : NotificationIntent}
    (hintent : evaluated host l ws donorId channel messageClass sourceType sourceId payload
      templateVersion createdAt = intent) :
    outcome (evaluateIntent host l donorId channel messageClass sourceType sourceId payload
        templateVersion createdAt deliverNow) (withAnswers answers ws) =
      if intent.status = .created ∧ deliverNow = true then
        outcome (deliverStored host intent) (withAnswers answers (storeIntent intent ws))
      else (.ok intent, { storeIntent intent ws with notificationAdapters := fun _ => none }) := by
  have hnone : (withAnswers answers ws).intentsByDedup.get? (intentDedupKey l donorId channel
      messageClass sourceType sourceId templateVersion) = none := Dict.get?_eq_none.mpr hkey
  have hrun : (evaluateIntent host l donorId channel messageClass sourceType sourceId payload
      templateVersion createdAt deliverNow).run (withAnswers answers ws) =
      (if intent.status = .created ∧ deliverNow then deliverStored host intent
        else pure intent).run (withAnswers answers (storeIntent intent ws)) := by
    rw [evaluateIntent, (returns_raiseIf (u := ()).mpr ⟨not_not.mpr hdonor, rfl⟩ :
      Returns _ _ () _).bind, (returns_get.mpr ⟨rfl, rfl⟩ : Returns get _ _ _).bind, hnone,
      ← hintent]
    rfl
  rw [outcome_congr hrun]
  split
  · rfl
  · exact (outcome_of_returns (returns_pure.mpr ⟨rfl, rfl⟩)).trans rfl

/-- The transport of the channel is called, and with the new intent, exactly
when the donor and the key are right and nothing blocks or defers the intent. -/
theorem calls_evaluateIntent_iff {c : NotificationChannel} {i : NotificationIntent} :
    Calls (evaluateIntent host l donorId channel messageClass sourceType sourceId payload
        templateVersion createdAt deliverNow) ws c i ↔
      donorId ∈ l.donors ∧
      intentDedupKey l donorId channel messageClass sourceType sourceId templateVersion ∉
        ws.intentsByDedup ∧
      (ws.adapters channel).isSome ∧ c = channel ∧
      evaluated host l ws donorId channel messageClass sourceType sourceId payload
        templateVersion createdAt = i ∧ i.status = .created ∧ deliverNow = true := by
  constructor
  · rintro ⟨a, b, hagree, hdiff⟩
    by_cases hrefused : donorId ∉ l.donors ∨ intentDedupKey l donorId channel messageClass
        sourceType sourceId templateVersion ∈ ws.intentsByDedup
    · exact absurd (outcome_of_refused a b hrefused) hdiff
    rw [not_or, not_not] at hrefused
    obtain ⟨hdonor, hnew⟩ := hrefused
    rw [outcome_of_new a hdonor hnew rfl, outcome_of_new b hdonor hnew rfl] at hdiff
    have hchannel : (evaluated host l ws donorId channel messageClass sourceType sourceId
      payload templateVersion createdAt).channel = channel := rfl
    generalize evaluated host l ws donorId channel messageClass sourceType sourceId payload
      templateVersion createdAt = intent at hdiff hchannel ⊢
    by_cases hgo : intent.status = .created ∧ deliverNow = true
    swap
    · rw [if_neg hgo, if_neg hgo] at hdiff
      exact absurd rfl hdiff
    rw [if_pos hgo, if_pos hgo, outcome_deliverStored, outcome_deliverStored, hchannel] at hdiff
    cases hadapter : ws.adapters channel with
    | none =>
        rw [hadapter] at hdiff
        exact absurd rfl hdiff
    | some adapter =>
        by_cases hthis : (channel, intent) = (c, i)
        · cases hthis
          exact ⟨hdonor, hnew, rfl, rfl, rfl, hgo.1, hgo.2⟩
        · rw [hagree channel intent hthis] at hdiff
          exact absurd rfl hdiff
  · rintro ⟨hdonor, hnew, hadapter, rfl, hintent, hgo⟩
    classical
    obtain ⟨adapter, hsome⟩ := Option.isSome_iff_exists.mp hadapter
    have hchannel : i.channel = c := by rw [← hintent]; rfl
    -- one answer that raises, against one that does not
    refine ⟨fun _ _ => .ok (true, "", ""), fun c' i' => if (c', i') = (c, i) then
      .error (keyError "") else .ok (true, "", ""), fun c' i' hne => (if_neg hne).symm, ?_⟩
    rw [outcome_of_new _ hdonor hnew hintent, outcome_of_new _ hdonor hnew hintent, if_pos hgo,
      if_pos hgo, outcome_deliverStored, outcome_deliverStored, hchannel, hsome]
    simp

end Calls

/-! ## The time of day -/

/-- Inside a window of minutes, inclusive start and exclusive end, which wraps
past midnight when it ends before it starts. -/
def InWindow (start stop t : Nat) : Prop :=
  if start ≤ stop then start ≤ t ∧ t < stop else start ≤ t ∨ t < stop

/-- The part of a timestamp the windows are compared with. -/
theorem timePart_eq {date rest : String} {t : Nat} (hdate : 'T' ∉ date.toList) (ht : t < 1440) :
    timePart (date ++ "T" ++ hhmm t ++ rest) = hhmm t := by
  have hlist : (date ++ "T" ++ hhmm t ++ rest).toList =
      date.toList ++ 'T' :: ((hhmm t).toList ++ rest.toList) := by
    have hsep : "T".toList = ['T'] := rfl
    rw [String.toList_append, String.toList_append, String.toList_append, hsep,
      List.append_assoc, List.append_assoc, List.singleton_append]
  have hdrop : (date.toList ++ 'T' :: ((hhmm t).toList ++ rest.toList)).dropWhile (· ≠ 'T') =
      'T' :: ((hhmm t).toList ++ rest.toList) := by
    rw [List.dropWhile_append_of_pos]
    · rfl
    · intro c hc
      exact decide_eq_true fun h => hdate (h ▸ hc)
  rw [timePart, hlist, if_pos (List.mem_append_right _ List.mem_cons_self), hdrop]
  rw [List.drop_one, List.tail_cons, ← Datetime.length_hhmm ht, List.take_left, String.ofList_toList]

/-- The minute of the day of an instant, in UTC. -/
def minuteOf (d : Datetime) : Nat := (d.micros / 60000000 % 1440).toNat

theorem minuteOf_lt (d : Datetime) : minuteOf d < 1440 := by
  rw [minuteOf]
  omega

/-- The minute of the day that a timestamp in UTC names: of the instant it is read as, or,
where its date is of no form that is read, the one it has after a `T`. -/
def NamesMinute (text : String) (t : Nat) : Prop :=
  match Datetime.fromisoformat text with
  | some d => d.offset = 0 ∧ t = minuteOf d
  | none => t < 1440 ∧ ∃ date rest, 'T' ∉ date.toList ∧ text = date ++ "T" ++ hhmm t ++ rest

/-- What a timestamp in UTC has after its first `T` is the `HH:MM` of the instant. -/
def HasClock (text : String) : Prop :=
  match Datetime.fromisoformat text with
  | some d => d.offset = 0 → timePart text = hhmm (minuteOf d)
  | none => True

instance (text : String) : Decidable (HasClock text) := by
  unfold HasClock
  split <;> infer_instance

theorem HasClock.timePart_eq {text : String} {t : Nat} (h : HasClock text)
    (hnames : NamesMinute text t) : t < 1440 ∧ timePart text = hhmm t := by
  rw [HasClock] at h
  rw [NamesMinute] at hnames
  cases hread : Datetime.fromisoformat text with
  | some d =>
      simp only [hread] at h hnames
      obtain ⟨hutc, rfl⟩ := hnames
      exact ⟨minuteOf_lt d, h hutc⟩
  | none =>
      simp only [hread] at hnames
      obtain ⟨ht, date, rest, hdate, rfl⟩ := hnames
      exact ⟨ht, TenantWorkspace.timePart_eq hdate ht⟩

/-- Every timestamp that `isoformat` writes in UTC has its clock there. -/
theorem hasClock_isoformat {d : Datetime} (h : d.InRange) (hutc : d.offset = 0) :
    HasClock d.isoformat := by
  have hminute : minuteOf d = d.micros.toNat / 1000000 % 86400 / 60 := by
    have hpos := h.pos
    rw [minuteOf]
    omega
  rw [HasClock, Datetime.fromisoformat_isoformat h]
  intro _
  obtain ⟨date, rest, hdate, htext⟩ := Datetime.isoformat_hhmm hutc
  rw [htext, hminute]
  exact TenantWorkspace.timePart_eq hdate (by omega)

/-- The time of day an intent was created at is outside the donor's window. -/
def OutsideQuietHours (ws : TenantWorkspace) (intent : NotificationIntent) : Prop :=
  ∀ pref start stop t,
    ws.preferences.get? (intent.donorId, intent.channel) = some pref →
    pref.quietHoursStart = some (hhmm start) → pref.quietHoursEnd = some (hhmm stop) →
    start < 1440 → stop < 1440 → NamesMinute intent.createdAt t → ¬ InWindow start stop t

/-- The comparison of texts is the window. -/
theorem inQuietHours_iff {ws : TenantWorkspace} {donorId : Id} {channel : NotificationChannel}
    {pref : NotificationPreference} {start stop t : Nat} {text : String}
    (hpref : ws.preferences.get? (donorId, channel) = some pref)
    (hstart : pref.quietHoursStart = some (hhmm start))
    (hstop : pref.quietHoursEnd = some (hhmm stop)) (hs : start < 1440) (he : stop < 1440)
    (ht : t < 1440) (htime : timePart text = hhmm t) :
    ws.inQuietHours donorId channel text = true ↔ InWindow start stop t := by
  rw [inQuietHours, hpref]
  simp only [hstart, hstop]
  rw [if_neg (not_or.mpr ⟨Datetime.hhmm_ne_empty hs, Datetime.hhmm_ne_empty he⟩), htime, InWindow]
  by_cases hle : start ≤ stop
  · rw [if_pos ((Datetime.hhmm_le_iff hs he).mpr hle), if_pos hle, Bool.and_eq_true, decide_eq_true_eq,
      decide_eq_true_eq, Datetime.hhmm_le_iff hs ht, Datetime.hhmm_lt_iff ht he]
  · rw [if_neg (mt (Datetime.hhmm_le_iff hs he).mp hle), if_neg hle, Bool.or_eq_true, decide_eq_true_eq,
      decide_eq_true_eq, Datetime.hhmm_le_iff hs ht, Datetime.hhmm_lt_iff ht he]

/-! ## The gate -/

/-- The donor has granted consent for the channel, the preference, or email by
default, allows the topic, and it is not quiet. -/
structure Open (ws : TenantWorkspace) (intent : NotificationIntent) : Prop where
  consent : ∃ c, ws.consents.get? (intent.donorId, intent.channel) = some c ∧ c.granted = true
  topic : match ws.preferences.get? (intent.donorId, intent.channel) with
    | none => intent.channel = .email
    | some pref => pref.enabled = true ∧
        (pref.topics = [] ∨ intent.messageClass.value ∈ pref.topics)
  time : OutsideQuietHours ws intent

theorem prefAllows_iff {ws : TenantWorkspace} {donorId : Id} {channel : NotificationChannel}
    {messageClass : NotificationMessageClass} :
    ws.prefAllows donorId channel messageClass = true ↔
      match ws.preferences.get? (donorId, channel) with
      | none => channel = .email
      | some pref => pref.enabled = true ∧
          (pref.topics = [] ∨ messageClass.value ∈ pref.topics) := by
  rw [prefAllows]
  cases ws.preferences.get? (donorId, channel) with
  | none => exact decide_eq_true_iff
  | some pref => simp

/-- The donor has set a quiet-hours window for the channel. -/
def hasQuietHours (ws : TenantWorkspace) (donorId : Id) (channel : NotificationChannel) : Bool :=
  (ws.preferences.get? (donorId, channel)).any fun pref =>
    pref.quietHoursStart.isSome && pref.quietHoursEnd.isSome

/-- An intent that nothing blocked or deferred is one the gate lets through. -/
theorem open_of_created {ws : TenantWorkspace} {intent : NotificationIntent}
    (hclock : ws.hasQuietHours intent.donorId intent.channel = true → HasClock intent.createdAt)
    (h : ws.intentStatus intent.donorId intent.channel intent.messageClass intent.createdAt =
      .created) : ws.Open intent := by
  rw [intentStatus] at h
  split_ifs at h with hconsent hallows hquiet
  refine ⟨?_, prefAllows_iff.mp (by simpa using hallows), ?_⟩
  · rw [hasConsent] at hconsent
    split at hconsent
    next c hc => exact ⟨c, hc, by simpa using hconsent⟩
    next => exact absurd rfl hconsent
  · intro pref start stop t hpref hstart hstop hs he hnames hin
    have hset : ws.hasQuietHours intent.donorId intent.channel = true := by
      simp [hasQuietHours, hpref, hstart, hstop]
    obtain ⟨ht, htime⟩ := (hclock hset).timePart_eq hnames
    exact hquiet ((inQuietHours_iff hpref hstart hstop hs he ht htime).mpr hin)

/-- A call of a transport goes through the gate. -/
theorem open_of_calls {ws : TenantWorkspace} {host : Host} {l : Ledger} {donorId : Id}
    {channel : NotificationChannel} {messageClass : NotificationMessageClass} {sourceType : String}
    {sourceId : Id} {payload : List (String × Json)} {templateVersion : String}
    {createdAt : Option String} {deliverNow : Bool} {c : NotificationChannel}
    {i : NotificationIntent}
    (hclock : ws.hasQuietHours donorId channel = true →
      HasClock (truthyOr createdAt (host.nowIso "nint" 0)))
    (h : Calls (evaluateIntent host l donorId channel messageClass sourceType sourceId payload
      templateVersion createdAt deliverNow) ws c i) : i.channel = c ∧ ws.Open i := by
  obtain ⟨_, _, _, rfl, rfl, hcreated, _⟩ := calls_evaluateIntent_iff.mp h
  exact ⟨rfl, open_of_created hclock hcreated⟩

/-! ## Histories -/

/-- A call of the notification service, or an erasure.  The evaluation of an
impact receipt is an `evaluateIntent` with that receipt's donor and body. -/
inductive NotificationOp
  | recordConsent (consent : ConsentRecord)
  | setPreference (pref : NotificationPreference)
  | evaluateIntent (donorId : Id) (channel : NotificationChannel)
      (messageClass : NotificationMessageClass) (sourceType : String) (sourceId : Id)
      (payload : List (String × Json)) (templateVersion : String) (createdAt : Option String)
      (deliverNow : Bool)
  | evaluateForUseOfFunds (receiptId : Id) (channel : NotificationChannel) (deliverNow : Bool)
      (payloadPatch : List (String × Json))
  | eraseDonorNotificationState (donorId : Id) (actor provenance : String) (eraseHistory : Bool)
      (revokedAt : Option String)

/-- What a call runs, and the intent it answers with. -/
def NotificationOp.program (host : Host) (l : Ledger) :
    NotificationOp → WorkspaceM (Option NotificationIntent)
  | .recordConsent consent => (fun _ => none) <$> TenantWorkspace.recordConsent l consent
  | .setPreference pref => (fun _ => none) <$> TenantWorkspace.setPreference l pref
  | .evaluateIntent donorId channel messageClass sourceType sourceId payload templateVersion
      createdAt deliverNow =>
      some <$> TenantWorkspace.evaluateIntent host l donorId channel messageClass sourceType
        sourceId payload templateVersion createdAt deliverNow
  | .evaluateForUseOfFunds receiptId channel deliverNow payloadPatch =>
      some <$> TenantWorkspace.evaluateForUseOfFunds host l receiptId channel deliverNow
        payloadPatch
  | .eraseDonorNotificationState donorId actor provenance eraseHistory revokedAt =>
      (fun _ => none) <$> TenantWorkspace.eraseDonorNotificationState host l donorId actor
        provenance eraseHistory revokedAt

/-- A call with what it draws, the ledger of the moment and its transports. -/
structure Notice where
  host : Host
  ledger : Ledger
  adapters : NotificationChannel → Option DeliveryAdapter
  op : NotificationOp

/-- The workspace a call runs on. -/
def Notice.enter (notice : Notice) (ws : TenantWorkspace) : TenantWorkspace :=
  { ws with notificationAdapters := notice.adapters }

def step (ws : TenantWorkspace) (notice : Notice) : TenantWorkspace :=
  after (notice.op.program notice.host notice.ledger) (notice.enter ws)

/-- The id a new intent would draw is not in use. -/
def FreshIntent (ws : TenantWorkspace) (notice : Notice) : Prop :=
  notice.host.newId "nint" 0 ∉ ws.intents

instance (ws : TenantWorkspace) (notice : Notice) : Decidable (FreshIntent ws notice) :=
  inferInstanceAs (Decidable (¬ _))

/-- Whose intent an evaluation makes, for which channel, and when. -/
def Notice.evaluates (notice : Notice) : Option (Id × NotificationChannel × String) :=
  match notice.op with
  | .evaluateIntent donorId channel _ _ _ _ _ createdAt _ =>
      some (donorId, channel, truthyOr createdAt (notice.host.nowIso "nint" 0))
  | .evaluateForUseOfFunds receiptId channel _ _ =>
      (notice.ledger.receipts.get? receiptId).map fun r =>
        (r.donorId, channel, truthyOr none (notice.host.nowIso "nint" 0))
  | _ => none

/-- An evaluation for a donor with quiet hours is made at a time that they are compared with. -/
def Clocked (ws : TenantWorkspace) (notice : Notice) : Prop :=
  ∀ e ∈ notice.evaluates, ws.hasQuietHours e.1 e.2.1 = true → HasClock e.2.2

instance (ws : TenantWorkspace) (notice : Notice) : Decidable (Clocked ws notice) := by
  unfold Clocked
  cases notice.evaluates with
  | none => exact isTrue fun _ he => absurd he (by simp)
  | some e =>
      exact decidable_of_iff (ws.hasQuietHours e.1 e.2.1 = true → HasClock e.2.2) (by simp)

/-- The call hands `intent` to the transport of `channel`. -/
def Notice.Calls (notice : Notice) (ws : TenantWorkspace) (channel : NotificationChannel)
    (intent : NotificationIntent) : Prop :=
  TenantWorkspace.Calls (notice.op.program notice.host notice.ledger) (notice.enter ws) channel
    intent

section History

variable {ws : TenantWorkspace} {host : Host} {l : Ledger}

theorem outcome_map {α β : Type} (x : WorkspaceM α) (f : α → β) (ws : TenantWorkspace) :
    outcome (f <$> x) ws = ((outcome x ws).1.map f, (outcome x ws).2) := by
  rcases returns_or_raises x ws with ⟨a, ws', h⟩ | ⟨e, ws', h⟩
  · rw [outcome_of_returns (returns_map.mpr ⟨a, h, rfl⟩), outcome_of_returns h]
    rfl
  · rw [outcome_of_raises (raises_map.mpr h), outcome_of_raises h]
    rfl

theorem calls_of_map {α β : Type} {x : WorkspaceM α} {f : α → β} {channel : NotificationChannel}
    {intent : NotificationIntent} (h : Calls (f <$> x) ws channel intent) :
    Calls x ws channel intent := by
  obtain ⟨a, b, hagree, hdiff⟩ := h
  refine ⟨a, b, hagree, fun hsame => hdiff ?_⟩
  rw [outcome_map, outcome_map, hsame]

/-- A call is the method's, whether or not it answers with its intent. -/
theorem calls_map_some {α : Type} {x : WorkspaceM α} {channel : NotificationChannel}
    {intent : NotificationIntent} (h : Calls x ws channel intent) :
    Calls (some <$> x) ws channel intent := by
  have hinj : ∀ r r' : Except PyExc α, r.map some = r'.map some → r = r' := by
    intro r r' hsame
    cases r <;> cases r' <;> cases hsame <;> rfl
  obtain ⟨a, b, hagree, hdiff⟩ := h
  refine ⟨a, b, hagree, fun hsame => hdiff ?_⟩
  rw [outcome_map, outcome_map] at hsame
  obtain ⟨hresult, hstores⟩ := Prod.mk.inj hsame
  exact Prod.ext (hinj _ _ hresult) hstores

/-- The stores, without the transports. -/
def stores (ws : TenantWorkspace) : TenantWorkspace :=
  { ws with notificationAdapters := fun _ => none }

/-- How the method ends depends on the stores only. -/
def Blind {α : Type} (x : WorkspaceM α) : Prop :=
  ∀ ws ws', stores ws = stores ws' → outcome x ws = outcome x ws'

theorem Blind.not_calls {α : Type} {x : WorkspaceM α} (hx : Blind x)
    {channel : NotificationChannel} {intent : NotificationIntent} :
    ¬ Calls x ws channel intent :=
  fun ⟨_, _, _, hdiff⟩ => hdiff (hx _ _ rfl)

theorem Blind.of_readOnly {α : Type} {x : WorkspaceM α}
    (hx : ∀ ws ws', (∃ a, Returns x ws a ws ∧ Returns x ws' a ws') ∨
      ∃ e, Raises x ws e ws ∧ Raises x ws' e ws') : Blind x := by
  intro ws ws' hstores
  rcases hx ws ws' with ⟨a, h, h'⟩ | ⟨e, h, h'⟩
  · rw [outcome_of_returns h, outcome_of_returns h']
    exact congrArg _ hstores
  · rw [outcome_of_raises h, outcome_of_raises h']
    exact congrArg _ hstores

theorem Blind.pure {α : Type} (a : α) : Blind (pure a : WorkspaceM α) :=
  .of_readOnly fun _ _ => Or.inl ⟨a, returns_pure.mpr ⟨rfl, rfl⟩, returns_pure.mpr ⟨rfl, rfl⟩⟩

theorem Blind.raiseIf (c : Prop) [Decidable c] (e : PyExc) :
    Blind (raiseIf c e : WorkspaceM Unit) := by
  refine .of_readOnly fun _ _ => ?_
  by_cases h : c
  · exact Or.inr ⟨e, raises_raiseIf.mpr ⟨h, rfl, rfl⟩, raises_raiseIf.mpr ⟨h, rfl, rfl⟩⟩
  · exact Or.inl ⟨(), returns_raiseIf.mpr ⟨h, rfl⟩, returns_raiseIf.mpr ⟨h, rfl⟩⟩

theorem Blind.orRaise {α : Type} (e : PyExc) (o : Option α) :
    Blind (orRaise e o : WorkspaceM α) := by
  refine .of_readOnly fun _ _ => ?_
  cases o with
  | none => exact Or.inr ⟨e, raises_orRaise.mpr ⟨rfl, rfl, rfl⟩, raises_orRaise.mpr ⟨rfl, rfl, rfl⟩⟩
  | some a => exact Or.inl ⟨a, returns_orRaise.mpr ⟨rfl, rfl⟩, returns_orRaise.mpr ⟨rfl, rfl⟩⟩

theorem Blind.modify {f : TenantWorkspace → TenantWorkspace}
    (hf : ∀ ws, stores (f ws) = stores (f (stores ws))) :
    Blind (modify f : WorkspaceM PUnit) := by
  intro ws ws' hstores
  rw [outcome_of_returns (returns_modify.mpr rfl), outcome_of_returns (returns_modify.mpr rfl)]
  refine congrArg (Prod.mk (Except.ok PUnit.unit)) ?_
  exact (hf ws).trans ((congrArg (fun w => stores (f w)) hstores).trans (hf ws').symm)

/-- A first part that ends alike, and a rest that sees the stores only. -/
theorem outcome_bind_congr {α β : Type} {x : WorkspaceM α} {f : α → WorkspaceM β}
    {ws ws' : TenantWorkspace} (hx : outcome x ws = outcome x ws') (hf : ∀ a, Blind (f a)) :
    outcome (x >>= f) ws = outcome (x >>= f) ws' := by
  rcases returns_or_raises x ws with ⟨a, w, h⟩ | ⟨e, w, h⟩ <;>
    rcases returns_or_raises x ws' with ⟨a', w', h'⟩ | ⟨e', w', h'⟩
  · rw [outcome_of_returns h, outcome_of_returns h', Prod.mk.injEq, Except.ok.injEq] at hx
    obtain ⟨rfl, hstates⟩ := hx
    rw [outcome_congr h.bind, outcome_congr h'.bind]
    exact hf a w w' hstates
  · rw [outcome_of_returns h, outcome_of_raises h'] at hx
    exact nomatch hx
  · rw [outcome_of_raises h, outcome_of_returns h'] at hx
    exact nomatch hx
  · rw [outcome_of_raises h, outcome_of_raises h', Prod.mk.injEq, Except.error.injEq] at hx
    obtain ⟨rfl, hstates⟩ := hx
    rw [outcome_of_raises h.bind, outcome_of_raises h'.bind]
    exact congrArg _ hstates

theorem Blind.bind {α β : Type} {x : WorkspaceM α} {f : α → WorkspaceM β} (hx : Blind x)
    (hf : ∀ a, Blind (f a)) : Blind (x >>= f) :=
  fun ws ws' hstores => outcome_bind_congr (hx ws ws' hstores) hf

/-- What is read from the workspace is read from its stores. -/
theorem Blind.get_bind {α : Type} {f : TenantWorkspace → WorkspaceM α}
    (hf : ∀ ws, Blind (f ws)) (hread : ∀ ws, f ws = f (stores ws)) : Blind (get >>= f) := by
  intro ws ws' hstores
  have hget : ∀ w, outcome (get >>= f) w = outcome (f (stores w)) w := by
    intro w
    rw [← hread w]
    exact outcome_congr (returns_get.mpr ⟨rfl, rfl⟩ : Returns get w w w).bind
  rw [hget, hget, hstores]
  exact hf (stores ws') ws ws' hstores

theorem blind_recordConsent (consent : ConsentRecord) : Blind (recordConsent l consent) :=
  (Blind.raiseIf _ _).bind fun _ => (Blind.raiseIf _ _).bind fun _ =>
    (Blind.modify fun _ => rfl).bind fun _ => .pure _

theorem blind_setPreference (pref : NotificationPreference) : Blind (setPreference l pref) :=
  (Blind.raiseIf _ _).bind fun _ => (Blind.raiseIf _ _).bind fun _ =>
    (Blind.modify fun _ => rfl).bind fun _ => .pure _

theorem blind_erase (donorId : Id) (actor provenance : String) (eraseHistory : Bool)
    (revokedAt : Option String) :
    Blind (eraseDonorNotificationState host l donorId actor provenance eraseHistory revokedAt) := by
  have hdonor : Blind (assertDonor l donorId) :=
    (Blind.orRaise _ _).bind fun _ => Blind.raiseIf _ _
  refine hdonor.bind fun _ => (Blind.raiseIf _ _).bind fun _ => (Blind.raiseIf _ _).bind fun _ => ?_
  exact Blind.get_bind (fun _ => (Blind.modify fun _ => rfl).bind fun _ => .pure _) fun _ => rfl

/-- A receipt on record is evaluated as its donor's intent. -/
theorem evaluateForUseOfFunds_of_get? {receiptId : Id} {r : UseOfFundsReceipt}
    (hr : l.receipts.get? receiptId = some r) (channel : NotificationChannel) (deliverNow : Bool)
    (payloadPatch : List (String × Json)) :
    evaluateForUseOfFunds host l receiptId channel deliverNow payloadPatch =
      evaluateIntent host l r.donorId channel (receiptMessageClass r) (receiptSourceType r)
        receiptId (Json.merge r.toDict.fields payloadPatch) "v1.0" none deliverNow := by
  unfold evaluateForUseOfFunds
  rw [hr]
  rfl

theorem clocked_of_receipt {adapters : NotificationChannel → Option DeliveryAdapter} {receiptId : Id}
    {channel : NotificationChannel} {deliverNow : Bool} {payloadPatch : List (String × Json)}
    {r : UseOfFundsReceipt} (hr : l.receipts.get? receiptId = some r)
    (h : Clocked ws ⟨host, l, adapters,
      .evaluateForUseOfFunds receiptId channel deliverNow payloadPatch⟩) :
    ws.hasQuietHours r.donorId channel = true →
      HasClock (truthyOr none (host.nowIso "nint" 0)) := by
  refine h (r.donorId, channel, _) ?_
  rw [Notice.evaluates]
  dsimp only
  rw [hr]
  rfl

/-- A call of a transport, in any history, goes through the gate as it is then. -/
theorem Notice.open_of_calls {notice : Notice} {channel : NotificationChannel}
    {intent : NotificationIntent} (hclocked : Clocked ws notice)
    (h : notice.Calls ws channel intent) :
    intent.channel = channel ∧ (notice.enter ws).Open intent := by
  obtain ⟨host, l, adapters, op⟩ := notice
  cases op with
  | recordConsent consent => exact absurd (calls_of_map h) (blind_recordConsent consent).not_calls
  | setPreference pref => exact absurd (calls_of_map h) (blind_setPreference pref).not_calls
  | evaluateIntent =>
      have hcalls := calls_of_map h
      refine TenantWorkspace.open_of_calls ?_ hcalls
      exact hclocked _ rfl
  | evaluateForUseOfFunds receiptId =>
      have hcalls := calls_of_map h
      cases hr : l.receipts.get? receiptId with
      | none =>
          refine absurd hcalls (Blind.not_calls ?_)
          unfold evaluateForUseOfFunds
          rw [hr]
          intro w w' hstores
          rw [outcome_of_raises (raises_orRaise_bind.mpr (Or.inl ⟨rfl, rfl, rfl⟩)),
            outcome_of_raises (raises_orRaise_bind.mpr (Or.inl ⟨rfl, rfl, rfl⟩))]
          exact congrArg _ hstores
      | some r =>
          rw [evaluateForUseOfFunds_of_get? hr] at hcalls
          exact TenantWorkspace.open_of_calls (clocked_of_receipt hr hclocked) hcalls
  | eraseDonorNotificationState =>
      exact absurd (calls_of_map h) (blind_erase _ _ _ _ _).not_calls

/-! ## The stores over a history -/

theorem coherent_recordConsent (consent : ConsentRecord) :
    Preserves Coherent (recordConsent l consent) :=
  (Preserves.raiseIf _ _).bind fun _ => (Preserves.raiseIf _ _).bind fun _ =>
    (Preserves.modify fun _ h => h.setConsent consent).bind fun _ => Preserves.pure _

theorem coherent_setPreference (pref : NotificationPreference) :
    Preserves Coherent (setPreference l pref) :=
  (Preserves.raiseIf _ _).bind fun _ => (Preserves.raiseIf _ _).bind fun _ =>
    (Preserves.modify fun _ h => h.setPreference pref).bind fun _ => Preserves.pure _

theorem coherent_evaluateForUseOfFunds (h : ws.Coherent) (receiptId : Id)
    (channel : NotificationChannel) (deliverNow : Bool) (payloadPatch : List (String × Json))
    (hfresh : host.newId "nint" 0 ∉ ws.intents) :
    Coherent (after (evaluateForUseOfFunds host l receiptId channel deliverNow payloadPatch) ws) := by
  cases hr : l.receipts.get? receiptId with
  | none =>
      unfold evaluateForUseOfFunds
      rw [hr, (raises_orRaise_bind.mpr (Or.inl ⟨rfl, rfl, rfl⟩) : Raises _ ws _ ws).after]
      exact h
  | some r =>
      rw [evaluateForUseOfFunds_of_get? hr]
      exact h.evaluateIntent _ _ _ _ _ _ _ _ _ _ hfresh

theorem coherent_eraseDonorNotificationState (donorId : Id) (actor provenance : String)
    (eraseHistory : Bool) (revokedAt : Option String) :
    Preserves Coherent (eraseDonorNotificationState host l donorId actor provenance eraseHistory
      revokedAt) := by
  have hdonor : ReadOnly (assertDonor l donorId) :=
    (ReadOnly.orRaise _ _).bind fun _ => ReadOnly.raiseIf _ _
  refine (hdonor.preserves _).bind fun _ => (Preserves.raiseIf _ _).bind fun _ =>
    (Preserves.raiseIf _ _).bind fun _ => Preserves.get.bind fun _ => ?_
  exact (Preserves.modify fun _ h => h.erased _ _ _ _ _ _).bind fun _ => Preserves.pure _

theorem Coherent.step (h : ws.Coherent) {notice : Notice} (hfresh : FreshIntent ws notice) :
    Coherent (TenantWorkspace.step ws notice) := by
  have henter : (notice.enter ws).Coherent := h.of_adapters _
  rw [TenantWorkspace.step]
  obtain ⟨host, l, adapters, op⟩ := notice
  cases op with
  | recordConsent consent =>
      rw [NotificationOp.program, after_map]
      exact coherent_recordConsent consent _ henter
  | setPreference pref =>
      rw [NotificationOp.program, after_map]
      exact coherent_setPreference pref _ henter
  | evaluateIntent =>
      rw [NotificationOp.program, after_map]
      exact henter.evaluateIntent _ _ _ _ _ _ _ _ _ _ hfresh
  | evaluateForUseOfFunds =>
      rw [NotificationOp.program, after_map]
      exact coherent_evaluateForUseOfFunds henter _ _ _ _ hfresh
  | eraseDonorNotificationState =>
      rw [NotificationOp.program, after_map]
      exact coherent_eraseDonorNotificationState _ _ _ _ _ _ henter

/-- The stores are coherent after any history of the service. -/
theorem coherent_of_history {adapters : NotificationChannel → Option DeliveryAdapter}
    {history : List Notice}
    (hfresh : Along TenantWorkspace.step FreshIntent { notificationAdapters := adapters } history) :
    Coherent (run TenantWorkspace.step { notificationAdapters := adapters } history) :=
  run_invariant (fun _ _ h hok => h.step hok) (.empty adapters) hfresh

/-- One intent and one successful delivery for a deduplication key, and the two
maps of the intents agree. -/
structure OncePerKey (ws : TenantWorkspace) : Prop where
  intents : ∀ k k' i i', ws.intents.get? k = some i → ws.intents.get? k' = some i' →
    i.dedupKey = i'.dedupKey → k = k'
  maps : ∀ k i, ws.intentsByDedup.get? k = some i ↔
    ws.intents.get? i.id = some i ∧ i.dedupKey = k
  delivered : ∀ k d, ws.deliveries.get? k = some d → ∃ i, ws.intents.get? d.intentId = some i
  deliveries : ∀ k k' d d' i i', ws.deliveries.get? k = some d →
    ws.deliveries.get? k' = some d' → d.success = true → d'.success = true →
    ws.intents.get? d.intentId = some i → ws.intents.get? d'.intentId = some i' →
    i.dedupKey = i'.dedupKey → k = k'

theorem Coherent.oncePerKey (h : ws.Coherent) : ws.OncePerKey := by
  have hone : ∀ k k' i i', ws.intents.get? k = some i → ws.intents.get? k' = some i' →
      i.dedupKey = i'.dedupKey → k = k' := by
    intro k k' i i' hi hi' hkey
    have hsame : some i = some i' := by
      rw [← (h.intents hi).2, hkey, (h.intents hi').2]
    rw [(h.intents hi).1, (h.intents hi').1, Option.some.inj hsame]
  refine ⟨hone, fun k i => ⟨fun hk => ?_, fun ⟨hi, hk⟩ => ?_⟩, fun k d hd => ?_, ?_⟩
  · exact ⟨(h.dedup hk).2, (h.dedup hk).1.symm⟩
  · exact hk ▸ (h.intents hi).2
  · obtain ⟨i, hi, _⟩ := h.deliveries hd
    exact ⟨i, hi⟩
  · intro k k' d d' i i' hd hd' _ _ hi hi' hkey
    exact h.once hd hd' (hone _ _ i i' hi hi' hkey)

end History

end TenantWorkspace

open TenantWorkspace in
/-- Over every history of consents, preferences and evaluations a key has one
intent and one successful delivery, and where the timestamps have their clock after
a `T`, each call of a transport finds consent, preference and time of day as they
should be at that moment. -/
theorem notified_once_with_consent (adapters : NotificationChannel → Option DeliveryAdapter)
    (history : List Notice)
    (hfresh : Along TenantWorkspace.step FreshIntent { notificationAdapters := adapters } history)
    (hclock : Along TenantWorkspace.step Clocked { notificationAdapters := adapters } history) :
    OncePerKey (run TenantWorkspace.step { notificationAdapters := adapters } history) ∧
    ∀ past notice, past ++ [notice] <+: history → ∀ channel intent,
      notice.Calls (run TenantWorkspace.step { notificationAdapters := adapters } past) channel
        intent →
      intent.channel = channel ∧
        Open (run TenantWorkspace.step { notificationAdapters := adapters } past) intent := by
  refine ⟨(coherent_of_history hfresh).oncePerKey,
    fun past notice hpast channel intent hcalls => ?_⟩
  obtain ⟨hchannel, hopen⟩ := Notice.open_of_calls (hclock.at_prefix hpast) hcalls
  exact ⟨hchannel, hopen.consent, hopen.topic, hopen.time⟩

section Sample

attribute [local instance] Digest.plain

namespace TenantWorkspace

def Sample.notice (call : Nat) (op : NotificationOp) : Notice where
  host := .numbered call
  ledger := run Ledger.step (.new Ledger.Sample.organization) (Ledger.script Ledger.Sample.gift)
  adapters _ := none
  op := op

/-- A message in the night of a window that wraps past midnight, one in the day,
and the second one again. -/
def Sample.history : List Notice := [
  Sample.notice 1 (.recordConsent {
    donorId := "donor", organizationId := "org", channel := .email, granted := true
    provenance := "form", recordedAt := "2026-01-01T00:00:00+00:00" }),
  Sample.notice 2 (.setPreference {
    donorId := "donor", organizationId := "org", channel := .email, enabled := true
    quietHoursStart := some "22:00", quietHoursEnd := some "06:30" }),
  Sample.notice 3 (.evaluateIntent "donor" .email .digest "DIGEST" "first" [] "v1.0"
    (some "2026-01-02T06:29:59+00:00") true),
  Sample.notice 4 (.evaluateIntent "donor" .email .digest "DIGEST" "second" [] "v1.0"
    (some "2026-01-02T06:30:00+00:00") true),
  Sample.notice 5 (.evaluateIntent "donor" .email .digest "DIGEST" "second" [] "v1.0"
    (some "2026-01-02T12:00:00+00:00") true)]

theorem Sample.history_gated :
    OncePerKey (run TenantWorkspace.step { notificationAdapters := fun _ => none }
      Sample.history) ∧
    ∀ past notice, past ++ [notice] <+: Sample.history → ∀ channel intent,
      notice.Calls (run TenantWorkspace.step { notificationAdapters := fun _ => none } past) channel
        intent →
      intent.channel = channel ∧
        Open (run TenantWorkspace.step { notificationAdapters := fun _ => none } past) intent :=
  notified_once_with_consent _ Sample.history (by decide +kernel) (by decide +kernel)

/-- A message at half past ten in the evening, its time written without a colon. -/
def Sample.inTheNight : Notice :=
  Sample.notice 3 (.evaluateIntent "donor" .email .digest "DIGEST" "first" [] "v1.0"
    (some "20260102T223000Z") true)

/-- `22300` comes before `22:00`, and the message is delivered in the quiet hours. -/
theorem basic_timestamp_delivered :
    ¬ ∀ (adapters : NotificationChannel → Option DeliveryAdapter) (history : List Notice),
      Along TenantWorkspace.step FreshIntent { notificationAdapters := adapters } history →
      ∀ past notice, past ++ [notice] <+: history → ∀ channel intent,
        notice.Calls (run TenantWorkspace.step { notificationAdapters := adapters } past) channel
          intent →
        Open (run TenantWorkspace.step { notificationAdapters := adapters } past) intent := by
  intro h
  obtain ⟨ws, hws⟩ : ∃ ws, ws = run TenantWorkspace.step { notificationAdapters := fun _ => none }
    (Sample.history.take 2) := ⟨_, rfl⟩
  obtain ⟨intent, hintent⟩ : ∃ intent, intent = evaluated (.numbered 3) Sample.inTheNight.ledger
    (Sample.inTheNight.enter ws) "donor" .email .digest "DIGEST" "first" [] "v1.0"
      (some "20260102T223000Z") := ⟨_, rfl⟩
  have hcalls : Sample.inTheNight.Calls ws .email intent := by
    refine calls_map_some (calls_evaluateIntent_iff.mpr ⟨?_, ?_, ?_, rfl, hintent.symm, ?_, rfl⟩)
    · decide +kernel
    · rw [hws]
      decide +kernel
    · rw [hws]
      decide +kernel
    · rw [hintent, hws]
      decide +kernel
  have hopen := h (fun _ => none) (Sample.history.take 2 ++ [Sample.inTheNight])
    (by decide +kernel) _ _ List.prefix_rfl .email intent (hws ▸ hcalls)
  rw [hintent, hws] at hopen
  have hpref : (run TenantWorkspace.step { notificationAdapters := fun _ => none }
      (Sample.history.take 2)).preferences.get? ("donor", .email) = some {
        donorId := "donor", organizationId := "org", channel := .email, enabled := true
        quietHoursStart := some "22:00", quietHoursEnd := some "06:30" } := by decide +kernel
  refine hopen.time _ 1320 390 1350 hpref (by decide +kernel) (by decide +kernel) (by decide)
    (by decide) ?_ (by rw [InWindow]; decide)
  have hread : Datetime.fromisoformat "20260102T223000Z" =
      some ⟨63902989800 * 1000000, 0⟩ := by decide +kernel
  show NamesMinute "20260102T223000Z" 1350
  rw [NamesMinute, hread]
  exact ⟨rfl, by decide⟩

example : ((run TenantWorkspace.step { notificationAdapters := fun _ => none }
    Sample.history).intents.values.map (·.status)) = [.deferredQuietHours, .delivered] := by
  decide +kernel

end TenantWorkspace

end Sample

end ImpactRelay
