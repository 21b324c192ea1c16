/-
# `Workflows.EmailText` — the text a send hands to the email transport

`compose_email_from_uof` makes the subject and the body from the receipt, and
hashes them.  The send gate compares the facts of the registered preview with
the receipt, and the hash the command carries with the one the preview carries;
the text itself it neither recomputes nor hashes.  So what goes out is the text
of the preview, whatever it is.

A send calls the EMAIL transport at most once, with the intent of its receipt
(`calls_sendFrom`), and a send that succeeds for a new key does
(`calls_of_accepts`).
-/
import ImpactRelay.Agents.Erasure
import ImpactRelay.Workflows.Steps

namespace ImpactRelay

open Raise TenantWorkspace

namespace LedgerCommandExecutor

/-! ## What a send calls -/

section Send

variable {host : Host} {l : Ledger} {ws : TenantWorkspace} {preview : EmailPreview}
  {receiptId : Id} {r : UseOfFundsReceipt} {channel : NotificationChannel}
  {intent : NotificationIntent}

theorem bootstraps_withAnswers (answers : Answers) (ws : TenantWorkspace) (donorId : Id) :
    bootstraps (withAnswers answers ws) donorId = bootstraps ws donorId := by
  rw [bootstraps, bootstraps, withAnswers_adapters]
  cases ws.adapters .email <;> rfl

theorem bootstrapped_withAnswers (answers : Answers) (ws : TenantWorkspace) (donorId : Id) :
    bootstrapped host l (withAnswers answers ws) donorId =
      withAnswers answers (bootstrapped host l ws donorId) := by
  rw [bootstrapped, bootstrapped, bootstraps_withAnswers]
  split <;> rfl

/-- What follows the evaluation reads the stores only. -/
theorem blind_afterEvaluation (intent : NotificationIntent) :
    Blind (do
      raiseIf (intent.status ≠ .delivered)
        (stateError s!"notification delivery did not complete: {intent.status.value}")
      let ws ← get
      let deliveries := ws.deliveries.values.filter fun d => d.intentId = intent.id
      return intent.id :: (deliveries.getLast?.map (·.id)).toList : WorkspaceM (List Id)) :=
  (Blind.raiseIf _ _).bind fun _ => Blind.get_bind (fun _ => .pure _) fun _ => rfl

/-- A transport is called by the evaluation only, once the consent is there. -/
theorem calls_sendFrom (hr : l.receipts.get? receiptId = some r)
    (h : Calls (sendFrom host l preview receiptId r) ws channel intent) :
    channel = .email ∧ sendKey l receiptId r ∉ ws.intentsByDedup ∧ intent.status = .created ∧
      intent = sendIntent host l (bootstrapped host l ws r.donorId) preview receiptId r := by
  by_cases hdonor : r.donorId ∈ l.donors
  swap
  · -- refused before anything is called
    obtain ⟨a, b, _, hdiff⟩ := h
    have hrefuses : ∀ answers, outcome (sendFrom host l preview receiptId r)
        (withAnswers answers ws) = (.error (notFoundError s!"donor not found: {r.donorId}"),
          stores ws) :=
      fun answers => (outcome_of_raises (sendFrom_raises hr hdonor)).trans rfl
    exact absurd ((hrefuses a).trans (hrefuses b).symm) hdiff
  have heval : Calls (evaluateForUseOfFunds host l receiptId .email true (emailPatch preview))
      (bootstrapped host l ws r.donorId) channel intent := by
    obtain ⟨a, b, hagree, hdiff⟩ := h
    refine ⟨a, b, hagree, fun hsame => hdiff ?_⟩
    have hboot : ∀ answers, outcome (sendFrom host l preview receiptId r)
        (withAnswers answers ws) = outcome (evaluateForUseOfFunds host l receiptId .email true
          (emailPatch preview) >>= fun intent => do
            raiseIf (intent.status ≠ .delivered)
              (stateError s!"notification delivery did not complete: {intent.status.value}")
            let ws ← get
            let deliveries := ws.deliveries.values.filter fun d => d.intentId = intent.id
            return intent.id :: (deliveries.getLast?.map (·.id)).toList)
          (withAnswers answers (bootstrapped host l ws r.donorId)) := by
      intro answers
      rw [← bootstrapped_withAnswers]
      exact outcome_congr (bootstrapConsent_returns hdonor).bind
    rw [hboot, hboot]
    exact outcome_bind_congr hsame blind_afterEvaluation
  unfold evaluateForUseOfFunds at heval
  rw [hr] at heval
  obtain ⟨_, hkey, _, hchannel, hintent, hcreated, _⟩ := calls_evaluateIntent_iff.mp heval
  rw [bootstrapped_intentsByDedup] at hkey
  exact ⟨hchannel, hkey, hcreated, hintent.symm⟩

/-- With no intent under its key, a send delivers its own or is cut short. -/
theorem sendFrom_new (host : Host) (ws : TenantWorkspace) (preview : EmailPreview)
    (hr : l.receipts.get? receiptId = some r) (hdonor : r.donorId ∈ l.donors)
    (hkey : sendKey l receiptId r ∉ ws.intentsByDedup) :
    (if (bootstrapped host l ws r.donorId).Delivers
        (sendIntent host l (bootstrapped host l ws r.donorId) preview receiptId r) then .done
      else .cutShort : Fate).Holds (fun w w' => w' ≠ w)
      (sendFrom host l preview receiptId r) ws := by
  have hholds := @sendFrom_fate host l ws receiptId r preview hr
  rw [sendFromFate, if_neg (not_not.mpr hdonor), Dict.get?_eq_none.mpr hkey] at hholds
  exact hholds

/-- A send that succeeds for a key without an intent calls the EMAIL transport. -/
theorem calls_of_accepts (hr : l.receipts.get? receiptId = some r)
    (hkey : sendKey l receiptId r ∉ ws.intentsByDedup)
    (h : Accepts (sendFrom host l preview receiptId r) ws) :
    ∃ i, Calls (sendFrom host l preview receiptId r) ws .email i := by
  have hdonor : r.donorId ∈ l.donors := by
    by_contra hdonor
    obtain ⟨_, _, hret⟩ := h
    exact hret.not_raises (sendFrom_raises hr hdonor)
  have hdelivers : (bootstrapped host l ws r.donorId).Delivers
      (sendIntent host l (bootstrapped host l ws r.donorId) preview receiptId r) := by
    by_contra hnot
    have hcut := sendFrom_new host ws preview hr hdonor hkey
    rw [if_neg hnot] at hcut
    obtain ⟨_, _, hraises, _⟩ := hcut
    obtain ⟨_, _, hret⟩ := h
    exact hret.not_raises hraises
  obtain ⟨hcreated, hanswer⟩ := hdelivers
  obtain ⟨adapter, hadapter, _⟩ := onSome_iff.mp hanswer
  -- the intent is the same whatever the transports answer
  have hsame : ∀ answers, sendIntent host l (bootstrapped host l (withAnswers answers ws)
      r.donorId) preview receiptId r =
      sendIntent host l (bootstrapped host l ws r.donorId) preview receiptId r := by
    intro answers
    rw [bootstrapped_withAnswers]
    rfl
  have hiff : ∀ answers : Answers, (bootstrapped host l (withAnswers answers ws)
      r.donorId).Delivers (sendIntent host l (bootstrapped host l (withAnswers answers ws)
        r.donorId) preview receiptId r) ↔
      OnOk (answers .email (sendIntent host l (bootstrapped host l ws r.donorId) preview receiptId
        r)) fun answer => answer.1 = true := by
    intro answers
    rw [hsame, bootstrapped_withAnswers, Delivers, withAnswers_adapters, hadapter]
    exact and_iff_right hcreated
  generalize sendIntent host l (bootstrapped host l ws r.donorId) preview receiptId r = i at hiff
  have hdone : ∀ answers : Answers, answers .email i = .ok (true, "", "") →
      Accepts (sendFrom host l preview receiptId r) (withAnswers answers ws) := by
    intro answers hok
    have hfate := sendFrom_new host (withAnswers answers ws) preview hr hdonor hkey
    rw [if_pos ((hiff answers).mpr (by rw [hok]; rfl))] at hfate
    exact hfate
  have hcut : ∀ answers : Answers, answers .email i = .error (keyError "") →
      ¬ Accepts (sendFrom host l preview receiptId r) (withAnswers answers ws) := by
    rintro answers herror ⟨_, _, hret⟩
    have hfate := sendFrom_new host (withAnswers answers ws) preview hr hdonor hkey
    rw [if_neg (mt (hiff answers).mp (by rw [herror]; exact not_false))] at hfate
    obtain ⟨_, _, hraises, _⟩ := hfate
    exact hret.not_raises hraises
  classical
  let answers : Answers := fun c i' =>
    if (c, i') = (.email, i) then .error (keyError "") else .ok (true, "", "")
  refine ⟨i, fun _ _ => .ok (true, "", ""), answers, fun c i' hne => (if_neg hne).symm, ?_⟩
  intro hequal
  obtain ⟨refs, w, hret⟩ := hdone (fun _ _ => .ok (true, "", "")) rfl
  rw [outcome_of_returns hret] at hequal
  rcases returns_or_raises (sendFrom host l preview receiptId r) (withAnswers answers ws) with
    ⟨refs', w', hret'⟩ | ⟨e, w', hraises⟩
  · exact hcut answers (if_pos rfl) ⟨refs', w', hret'⟩
  · rw [outcome_of_raises hraises] at hequal
    exact nomatch congrArg Prod.fst hequal

/-- A send that returns has its workspace part accepted. -/
theorem sendFrom_accepts {s s' : LedgerCommandExecutor} {p : SendPayload} {refs : List Id}
    (hargs : sendArgs s p = .ok (ws, preview, receiptId, r))
    (h : Returns (sendNotification host p) s refs s') :
    Accepts (sendFrom host s.ledger preview receiptId r) ws := by
  rw [sendNotification, returns_get_bind, hargs, returns_okOrRaise_bind] at h
  obtain ⟨_, heq, hret⟩ := h
  cases heq
  obtain ⟨ws', hret, _⟩ := returns_within.mp hret
  rw [(sendArgs_ok hargs).1] at hret
  exact ⟨refs, ws', hret⟩

/-! ## The text -/

/-- The subject and the body an EMAIL transport reads off an intent. -/
def Carries (intent : NotificationIntent) (subject bodyText : String) : Prop :=
  (Json.obj intent.payload).field? "email_subject" = some (.str subject) ∧
    (Json.obj intent.payload).field? "email_body_text" = some (.str bodyText)

/-- A new intent of a send carries the text of its preview. -/
theorem sendIntent_carries (hcreated : (sendIntent host l ws preview receiptId r).status = .created) :
    Carries (sendIntent host l ws preview receiptId r) preview.subject preview.bodyText := by
  have hpayload : (sendIntent host l ws preview receiptId r).payload =
      Json.merge r.toDict.fields (emailPatch preview) := by
    refine if_neg fun hdeferred => ?_
    exact nomatch hcreated.symm.trans hdeferred
  rw [Carries, hpayload, emailPatch]
  simp [Json.merge]

theorem Carries.unique {subject subject' bodyText bodyText' : String}
    (h : Carries intent subject bodyText) (h' : Carries intent subject' bodyText') :
    subject = subject' ∧ bodyText = bodyText' := by
  have hsubject := h.1.symm.trans h'.1
  have hbody := h.2.symm.trans h'.2
  simp only [Option.some.injEq, Json.str.injEq] at hsubject hbody
  exact ⟨hsubject, hbody⟩

end Send

end LedgerCommandExecutor

open LedgerCommandExecutor in
/-- What a successful send hands to a transport is the composed text of its
receipt exactly when the registered preview has this text, or when the receipt
was notified before and nothing is handed over. -/
theorem email_text_iff [Digest] {host : Host} {s s' : LedgerCommandExecutor} {p : SendPayload}
    {refs : List Id} {ws : TenantWorkspace} {preview : EmailPreview} {receiptId : Id}
    {r : UseOfFundsReceipt} (x : Surroundings)
    (hargs : sendArgs s p = .ok (ws, preview, receiptId, r))
    (h : Returns (sendNotification host p) s refs s') :
    (∀ channel intent, Calls (sendFrom host s.ledger preview receiptId r) ws channel intent →
      Carries intent (composeEmailFromUof x r).subject (composeEmailFromUof x r).bodyText) ↔
      (preview.subject = (composeEmailFromUof x r).subject ∧
        preview.bodyText = (composeEmailFromUof x r).bodyText) ∨
      sendKey s.ledger receiptId r ∈ ws.intentsByDedup := by
  have hr := (sendArgs_ok hargs).2
  have haccepts := sendFrom_accepts hargs h
  constructor
  · intro hcarries
    by_contra hnot
    rw [not_or] at hnot
    obtain ⟨i, hcalls⟩ := calls_of_accepts hr hnot.2 haccepts
    obtain ⟨_, _, hcreated, heq⟩ := calls_sendFrom hr hcalls
    rw [heq] at hcreated
    have hown := sendIntent_carries hcreated
    rw [← heq] at hown
    exact hnot.1 (hown.unique (hcarries _ i hcalls))
  · rintro (⟨hsubject, hbody⟩ | hkey) channel i hcalls
    · obtain ⟨_, _, hcreated, heq⟩ := calls_sendFrom hr hcalls
      rw [heq] at hcreated ⊢
      exact hsubject ▸ hbody ▸ sendIntent_carries hcreated
    · exact absurd hkey (calls_sendFrom hr hcalls).2.1

section Sample

attribute [local instance] Digest.plain

namespace LedgerCommandExecutor

def Sample.surroundings : Surroundings where
  clock := ⟨0, 0⟩
  utc := ⟨0, 0⟩
  host := .numbered 30
  execution _ := { host := .numbered 31 }

/-- The composed preview of a receipt, with what `edit` makes of its body. -/
def Sample.preview (edit : String → String) (r : UseOfFundsReceipt) : EmailPreview :=
  let composed := composeEmailFromUof Sample.surroundings r
  { composed with bodyText := edit composed.bodyText }

/-- The donor of the receipt agreed to emails, and the preview is registered. -/
def Sample.sending (edit : String → String) (r : UseOfFundsReceipt) : LedgerCommandExecutor :=
  { LedgerCommandExecutor.new Sample.published false (some Sample.agreed) with
    previews := Dict.set .empty (Sample.preview edit r).previewId (Sample.preview edit r) }

theorem Sample.sends (edit : String → String)
    (h : ∃ e ∈ Sample.published.receipts.entries,
      sendFromFate (.numbered 32) Sample.published Sample.agreed (Sample.preview edit e.2) e.1 e.2 =
        .done) : ∃ receiptId r,
      sendArgs (Sample.sending edit r) (sendOf receiptId (Sample.preview edit r)) =
        .ok (Sample.agreed, Sample.preview edit r, receiptId, r) ∧
      Accepts (sendNotification (.numbered 32) (sendOf receiptId (Sample.preview edit r)))
        (Sample.sending edit r) := by
  obtain ⟨⟨receiptId, r⟩, hmem, hdone⟩ := h
  have hr : Sample.published.receipts.get? receiptId = some r := Dict.get?_eq_some.mpr hmem
  have hid : (Sample.preview edit r).previewId ≠ "" := by
    show (Host.numbered 30).newId "emprev" 0 ≠ ""
    decide
  have hargs : sendArgs (Sample.sending edit r) (sendOf receiptId (Sample.preview edit r)) =
      .ok (Sample.agreed, Sample.preview edit r, receiptId, r) :=
    sendArgs_sendOf rfl hr (Dict.get?_set_self _ _ _) hid rfl rfl rfl
  have hholds : (sendFate (.numbered 32) (Sample.sending edit r)
      (sendOf receiptId (Sample.preview edit r))).Holds Touched
      (sendNotification (.numbered 32) (sendOf receiptId (Sample.preview edit r)))
      (Sample.sending edit r) := sendNotification_fate _
  have hfate : sendFate (.numbered 32) (Sample.sending edit r)
      (sendOf receiptId (Sample.preview edit r)) = .done := by
    rw [sendFate, hargs]
    exact hdone
  rw [hfate] at hholds
  exact ⟨receiptId, r, hargs, hholds⟩

end LedgerCommandExecutor

open LedgerCommandExecutor

theorem composed_text_sent : ∃ receiptId r, ∀ x,
    (∀ channel intent,
      Calls (sendFrom (.numbered 32) (Sample.sending id r).ledger (Sample.preview id r) receiptId r)
        Sample.agreed channel intent →
      Carries intent (composeEmailFromUof x r).subject (composeEmailFromUof x r).bodyText) ↔
      ((Sample.preview id r).subject = (composeEmailFromUof x r).subject ∧
        (Sample.preview id r).bodyText = (composeEmailFromUof x r).bodyText) ∨
      sendKey (Sample.sending id r).ledger receiptId r ∈ Sample.agreed.intentsByDedup := by
  obtain ⟨receiptId, r, hargs, _, _, hret⟩ := Sample.sends id (by decide +kernel)
  exact ⟨receiptId, r, fun x => email_text_iff x hargs hret⟩

/-- A preview whose body was replaced passes the gate and goes out. -/
theorem edited_body_sent : ¬ ∀ (host : Host) (s s' : LedgerCommandExecutor) (p : SendPayload)
    (refs : List Id) (ws : TenantWorkspace) (preview : EmailPreview) (receiptId : Id)
    (r : UseOfFundsReceipt) (x : Surroundings),
    sendArgs s p = .ok (ws, preview, receiptId, r) →
      Returns (sendNotification host p) s refs s' → ∀ channel intent,
        Calls (sendFrom host s.ledger preview receiptId r) ws channel intent →
          Carries intent (composeEmailFromUof x r).subject (composeEmailFromUof x r).bodyText := by
  intro h
  let edit : String → String := fun _ => "Nothing was spent."
  obtain ⟨receiptId, r, hargs, refs, s', hret⟩ := Sample.sends edit (by decide +kernel)
  have hbody : edit (composeEmailFromUof Sample.surroundings r).bodyText ≠
      (composeEmailFromUof Sample.surroundings r).bodyText := by
    intro heq
    have hfirst := congrArg (fun text => text.toList.head?) heq
    simp [edit, composeEmailFromUof] at hfirst
  have hkey : sendKey Sample.published receiptId r ∉ Sample.agreed.intentsByDedup :=
    Dict.not_mem_empty _
  have haccepts := sendFrom_accepts hargs hret
  have hr : Sample.published.receipts.get? receiptId = some r := (sendArgs_ok hargs).2
  obtain ⟨i, hcalls⟩ := calls_of_accepts hr hkey haccepts
  obtain ⟨_, _, hcreated, heq⟩ := calls_sendFrom hr hcalls
  rw [heq] at hcreated
  have hown := sendIntent_carries hcreated
  rw [← heq] at hown
  exact hbody (hown.unique (h _ _ s' _ refs _ _ receiptId r Sample.surroundings hargs hret _ i
    hcalls)).2

end Sample

end ImpactRelay
