/-
# `Agents.Fates` — refused, cut short or done, for each handler

A handler that makes one atomic ledger call is refused or done.  Five of them
write more than once and can be cut short between two writes: the import before
its evidence is read, the publication after its attribution, the notification
after the fixture's consent or the new intent, and the two corrections after
the record is flipped.  `handlerFate` computes the end from the executor before
the call, check by check; `handle_fate` proves it right.

A value that cannot be hashed is met late: as the id of an item of evidence, once the
expense is imported; as the id of a replacement, once the old record is flipped; as the
replacement's external id, once the ledger is done.
-/
import ImpactRelay.Agents.Executor
import ImpactRelay.Domain.Atomicity
import ImpactRelay.Lib.Fate

namespace ImpactRelay

open Raise

/-- The item can be asked for its values, and its id is a key. -/
def EvidenceItem.readable : EvidenceItem → Bool
  | .mapping id _ _ _ => id.all KeyValue.hashable
  | .other _ => false

def EvidenceField.readable : EvidenceField → Bool
  | .items rows => rows.all EvidenceItem.readable
  | .notIterable _ => false

namespace LedgerCommandExecutor

variable {s s' : LedgerCommandExecutor}

/-- The stores a failed command has to leave as they were. -/
def Untouched (s s' : LedgerCommandExecutor) : Prop :=
  s'.ledger.entities = s.ledger.entities ∧ s'.workspace = s.workspace ∧
    s'.externalIndex = s.externalIndex ∧ s'.seenKeys = s.seenKeys

def Touched (s s' : LedgerCommandExecutor) : Prop := ¬ Untouched s s'

theorem touched_of_entities (h : s'.ledger.entities ≠ s.ledger.entities) : Touched s s' :=
  fun hsame => h hsame.1

section Fates

variable [Digest] (host : Host) (s : LedgerCommandExecutor)

/-! ## Fates -/

def importFate (expense : Option NormalizedRow) : Fate :=
  .given (need "expense" expense) fun row =>
    .given (need "external_source_id" row.externalSourceId) fun ext =>
      if ext ∈ s.externalIndex then .done
      else
        .given (expenseOfRow host s.ledger ext row) fun e =>
          if s.ledger.ImportAccepted e then
            if row.evidence.readable then .done else .cutShort
          else .refused

def allocateFate (p : AllocatePayload) : Fate :=
  .given (allocateArgs s.ledger p) fun a =>
    if s.ledger.AllocationAccepted a.1 a.2.1 a.2.2 then .done else .refused

def approveFate (p : ApprovePayload) : Fate :=
  .given (approveArgs p) fun a => if s.ledger.ApprovalAccepted a.1 a.2 then .done else .refused

def rejectFate (p : RejectPayload) : Fate :=
  .given (need "expense_id" p.expenseId) fun expenseId =>
    if expenseId ∈ s.ledger.expenses then .done else .refused

/-- The ledger once the attribution of a publication is written. -/
def attributed (a : PublishArgs) : Ledger :=
  s.ledger.attributed host a.donorId a.donationId a.expenseId a.allocationId a.method (some a.amount)

def publishFate [Json.CharTable] (p : PublishPayload) : Fate :=
  .given (publishArgs p) fun a =>
    if s.ledger.AttributionAccepted a.donorId a.donationId a.expenseId a.allocationId a.method
        (some a.amount) then
      if (attributed host s a).PublicationAccepted host a.expenseId a.donationId a.allocationId ∧
          OnSome ((attributed host s a).publishedReceipt host a.expenseId a.donationId
            a.allocationId a.actor p.createdAt) NoResidue then .done
      else .cutShort
    else .refused

/-- The workspace once the fixture's consent is filled in, where it is. -/
def bootstrapped (l : Ledger) (ws : TenantWorkspace) (donorId : Id) : TenantWorkspace :=
  if bootstraps ws donorId then
    { ws with
      consents := ws.consents.set (donorId, .email) (fixtureConsent host l donorId)
      preferences := ws.preferences.set (donorId, .email) (fixturePreference l donorId) }
  else ws

/-- The intent a send creates when its key has none. -/
def sendIntent (l : Ledger) (ws : TenantWorkspace) (preview : EmailPreview) (receiptId : Id)
    (r : UseOfFundsReceipt) : NotificationIntent :=
  TenantWorkspace.newIntent host l r.donorId .email (TenantWorkspace.receiptMessageClass r)
    (TenantWorkspace.receiptSourceType r) receiptId
    (Json.merge r.toDict.fields (emailPatch preview)) "v1.0" (host.nowIso "nint" 0)
    (ws.intentStatus r.donorId .email (TenantWorkspace.receiptMessageClass r)
      (host.nowIso "nint" 0))

def sendKey (l : Ledger) (receiptId : Id) (r : UseOfFundsReceipt) : String :=
  TenantWorkspace.intentDedupKey l r.donorId .email (TenantWorkspace.receiptMessageClass r)
    (TenantWorkspace.receiptSourceType r) receiptId "v1.0"

def sendFromFate (l : Ledger) (ws : TenantWorkspace) (preview : EmailPreview) (receiptId : Id)
    (r : UseOfFundsReceipt) : Fate :=
  if r.donorId ∉ l.donors then .refused
  else
    match ws.intentsByDedup.get? (sendKey l receiptId r) with
    | some existing =>
        if existing.status = .delivered then .done
        else if bootstraps ws r.donorId then .cutShort
        else .refused
    | none =>
        if (bootstrapped host l ws r.donorId).Delivers
            (sendIntent host l (bootstrapped host l ws r.donorId) preview receiptId r) then .done
        else .cutShort

def sendFate (p : SendPayload) : Fate :=
  .given (sendArgs s p) fun a => sendFromFate host s.ledger a.1 a.2.1 a.2.2.1 a.2.2.2

def reverseFate (p : ReversePayload) : Fate :=
  .given (reverseArgs p) fun a =>
    if s.ledger.expenseIn [.reversed] a.1 then .done
    else if ¬ s.ledger.Reversible a.1 then .refused
    else if s.ledger.PriorsIntact a.1 then .done
    else .cutShort

def supersedeFate (p : SupersedePayload) : Fate :=
  .given (supersedeArgs p) fun a =>
    if s.ledger.expenseIn [.superseded] a.1 then .done
    else
      .given (replacementArgs host s.ledger p) fun r =>
        if s.ledger.expenseIn verifiedExpenseStates a.1 = false then .refused
        else
          match r.1 with
          | .unfit _ => .cutShort
          | .fit replacement =>
              if (s.ledger.ReplacementAccepted a.1 replacement r.2 (truthyOr p.approvedBy a.2.1) ∧
                  s.ledger.PriorsStored a.1) ∧
                p.externalSourceId.all KeyValue.hashable = true then .done
              else .cutShort

def handlerFate [Json.CharTable] : Payload → Fate
  | .importNormalizedExpense expense => importFate host s expense
  | .allocateExpense p => allocateFate s p
  | .approveExpense p => approveFate s p
  | .rejectExpense p => rejectFate s p
  | .publishUseOfFundsReceipt p => publishFate host s p
  | .sendNotification p => sendFate host s p
  | .reverseExpense p => reverseFate s p
  | .supersedeExpense p => supersedeFate host s p
  | .unsupported _ => .refused

end Fates

/-! ## Atomic handlers -/

section Handlers

variable [Digest] {host : Host}

omit [Digest] in
theorem holds_onLedger {α : Type} {x : LedgerM α} {fate : Fate}
    (h : fate.Holds (fun l l' => l'.entities ≠ l.entities) x s.ledger) :
    fate.Holds Touched (onLedger x) s :=
  Fate.holds_within rfl (fun _ ht => touched_of_entities ht) h

theorem allocate_fate (p : AllocatePayload) :
    (allocateFate s p).Holds Touched (allocate host p) s := by
  refine Fate.holds_get (Fate.holds_given fun a _ => ?_)
  refine Fate.holds_bind_total (fun _ _ => accepts_pure _) (holds_onLedger ?_)
  exact Fate.holds_atomic (Ledger.allocateExpense_atomic _ _ _ _)
    Ledger.allocateExpense_accepts_iff

theorem approve_fate (p : ApprovePayload) :
    (approveFate s p).Holds Touched (approve host p) s := by
  refine Fate.holds_given fun a _ => ?_
  refine Fate.holds_bind_total (fun _ _ => accepts_pure _) (holds_onLedger ?_)
  exact Fate.holds_atomic (Ledger.approveExpense_atomic _ _) Ledger.approveExpense_accepts_iff

omit [Digest] in
theorem reject_fate (p : RejectPayload) : (rejectFate s p).Holds Touched (reject p) s := by
  refine Fate.holds_given fun expenseId _ => Fate.holds_get ?_
  refine Fate.holds_bind_total (fun _ _ => accepts_pure _) (Fate.holds_atomic ?_ ?_)
  · exact (ReadOnly.raiseIf _ _).atomic
  · simp [Accepts]

/-! ## The import and its evidence -/

theorem attachEvidence_step (host : Host) (evidence : EvidenceRecord)
    (hexp : evidence.expenseId ∈ s.ledger.expenses) :
    ∃ r s₁, Returns (onLedger (Ledger.attachEvidence host evidence)) s r s₁ ∧
      s₁.ledger.expenses = s.ledger.expenses := by
  obtain ⟨r, l', hret⟩ : Accepts (Ledger.attachEvidence host evidence) s.ledger :=
    Ledger.attachEvidence_accepts_iff.mpr hexp
  obtain ⟨_, log, hl'⟩ := Ledger.attachEvidence_returns hret
  exact ⟨r, { s with ledger := l' }, returns_within.mpr ⟨l', hret, rfl⟩, by rw [hl']⟩

omit [Digest] in
/-- The id an item of evidence is stored under. -/
theorem evidenceId_readable {i : Nat} {id : Option KeyValue} (h : id.all KeyValue.hashable = true) :
    ∃ key, evidenceId host i id = .text key := by
  cases id with
  | none => exact ⟨_, rfl⟩
  | some key =>
      cases key with
      | text s =>
          by_cases hs : s = ""
          · refine ⟨host.newId "ev" i, ?_⟩
            simp [evidenceId, KeyValue.firstOf, KeyValue.truthy, Option.filter, hs]
          · refine ⟨s, ?_⟩
            simp [evidenceId, KeyValue.firstOf, KeyValue.truthy, Option.filter, hs]
      | unhashable typeName repr => cases h

omit [Digest] in
theorem evidenceId_unreadable {i : Nat} {id : Option KeyValue}
    (h : id.all KeyValue.hashable = false) :
    ∃ typeName repr, evidenceId host i id = .unhashable typeName repr := by
  cases id with
  | none => cases h
  | some key =>
      cases key with
      | text s => cases h
      | unhashable typeName repr => exact ⟨typeName, repr, rfl⟩

theorem attachAll_accepts {expenseId : Id} {rows : List EvidenceItem} {i : Nat}
    (hexp : expenseId ∈ s.ledger.expenses) (hread : (EvidenceField.items rows).readable = true) :
    Accepts (attachAll host expenseId i rows) s := by
  induction rows generalizing i s with
  | nil => exact accepts_pure ()
  | cons row rows ih =>
      cases row with
      | other typeName => exact nomatch hread
      | mapping id kind summary donorVisible =>
          obtain ⟨hid, hrest⟩ := Bool.and_eq_true_iff.mp hread
          obtain ⟨key, hkey⟩ := evidenceId_readable hid
          obtain ⟨r, s₁, hstep, hs₁⟩ := attachEvidence_step host
            (evidenceRecord expenseId key kind summary donorVisible) hexp
          rw [attachAll, hkey]
          exact hstep.bind_accepts (ih (hs₁ ▸ hexp) hrest)

theorem attachAll_raises {expenseId : Id} {rows : List EvidenceItem} {i : Nat}
    (hexp : expenseId ∈ s.ledger.expenses) (hread : (EvidenceField.items rows).readable = false) :
    ∃ e s', Raises (attachAll host expenseId i rows) s e s' ∧
      s'.ledger.expenses = s.ledger.expenses := by
  induction rows generalizing i s with
  | nil => exact nomatch hread
  | cons row rows ih =>
      cases row with
      | other typeName => exact ⟨_, s, raises_throw.mpr ⟨rfl, rfl⟩, rfl⟩
      | mapping id kind summary donorVisible =>
          cases hid : id.all KeyValue.hashable with
          | false =>
              obtain ⟨typeName, repr, hkey⟩ := evidenceId_unreadable hid
              rw [attachAll, hkey]
              exact ⟨_, s, raises_throw.mpr ⟨rfl, rfl⟩, rfl⟩
          | true =>
              have hrest : (EvidenceField.items rows).readable = false :=
                (Bool.and_eq_false_iff.mp hread).resolve_left fun h =>
                  Bool.false_ne_true (h.symm.trans hid)
              obtain ⟨key, hkey⟩ := evidenceId_readable hid
              obtain ⟨r, s₁, hstep, hs₁⟩ := attachEvidence_step host
                (evidenceRecord expenseId key kind summary donorVisible) hexp
              obtain ⟨e, s', he, hs'⟩ := ih (hs₁ ▸ hexp) hrest
              rw [attachAll, hkey]
              exact ⟨e, s', raises_bind.mpr (Or.inr ⟨r, s₁, hstep, he⟩), hs'.trans hs₁⟩

theorem importNormalized_fate (expense : Option NormalizedRow) :
    (importFate host s expense).Holds Touched (importNormalized host expense) s := by
  refine Fate.holds_given fun row _ => Fate.holds_given fun ext _ => Fate.holds_get ?_
  cases hidx : s.externalIndex.get? ext with
  | some eid =>
      rw [if_pos (Dict.mem_of_get? hidx)]
      exact accepts_pure _
  | none =>
      rw [if_neg (Dict.get?_eq_none.mp hidx)]
      refine Fate.holds_given fun e _ => ?_
      by_cases hacc : s.ledger.ImportAccepted e
      swap
      · rw [if_neg hacc]
        exact Refuses.bind (refuses_within rfl ((Ledger.importExpense_atomic e).refuses_iff.mpr
          (mt Ledger.importExpense_accepts_iff.mp hacc)))
      rw [if_pos hacc]
      obtain ⟨r, l', hret⟩ : Accepts (Ledger.importExpense host e) s.ledger :=
        Ledger.importExpense_accepts_iff.mpr hacc
      obtain ⟨_, _, hnew, _, _, log, hl'⟩ := Ledger.importExpense_returns hret
      have himp : Returns (onLedger (Ledger.importExpense host e)) s r { s with ledger := l' } :=
        returns_within.mpr ⟨l', hret, rfl⟩
      have hmem : e.id ∈ l'.expenses := by
        rw [hl']
        exact Dict.mem_set.mpr (Or.inl rfl)
      have htouch : ∀ s' : LedgerCommandExecutor, s'.ledger.expenses = l'.expenses →
          Touched s s' := by
        intro s' hs'
        refine touched_of_entities fun h => hnew ?_
        have hexp : s'.ledger.entities.expenses = s.ledger.entities.expenses :=
          congrArg Ledger.expenses h
        exact (show s'.ledger.expenses = s.ledger.expenses from hexp) ▸ hs'.symm ▸ hmem
      cases hread : row.evidence.readable with
      | true =>
          rw [if_pos rfl]
          refine himp.bind_accepts ?_
          have hattach : Accepts (attachEvidenceField host e.id row.evidence)
              { s with ledger := l' } := by
            cases hfield : row.evidence with
            | items rows => exact attachAll_accepts hmem (hfield ▸ hread)
            | notIterable typeName => rw [hfield] at hread; exact nomatch hread
          obtain ⟨u, s₂, hu⟩ := hattach
          exact hu.bind_accepts ⟨_, _, returns_modify_bind.mpr (returns_pure.mpr ⟨rfl, rfl⟩)⟩
      | false =>
          rw [if_neg Bool.false_ne_true]
          have hattach : ∃ err s', Raises (attachEvidenceField host e.id row.evidence)
              { s with ledger := l' } err s' ∧ s'.ledger.expenses = l'.expenses := by
            cases hfield : row.evidence with
            | items rows => exact attachAll_raises hmem (hfield ▸ hread)
            | notIterable typeName => exact ⟨_, _, raises_throw.mpr ⟨rfl, rfl⟩, rfl⟩
          obtain ⟨err, s', he, hs'⟩ := hattach
          exact ⟨err, s', raises_bind.mpr (Or.inr ⟨r, _, himp, he.bind⟩), htouch s' hs'⟩

/-! ## The publication and its attribution -/

omit [Digest] in
theorem touched_of_attribution {id : Id} (hnew : id ∉ s.ledger.attributions)
    (hmem : id ∈ s'.ledger.attributions) : Touched s s' := by
  refine touched_of_entities fun h => hnew ?_
  have hkept : s'.ledger.attributions = s.ledger.attributions :=
    show s'.ledger.entities.attributions = s.ledger.entities.attributions from
      congrArg Ledger.attributions h
  exact hkept ▸ hmem

theorem publishReceipt_fate [Json.CharTable] (p : PublishPayload)
    (hfresh : host.newId "attr" 0 ∉ s.ledger.attributions) :
    (publishFate host s p).Holds Touched (publishReceipt host p) s := by
  refine Fate.holds_given fun a _ => ?_
  by_cases hacc : s.ledger.AttributionAccepted a.donorId a.donationId a.expenseId a.allocationId
      a.method (some a.amount)
  swap
  · rw [if_neg hacc]
    exact Refuses.bind (refuses_within rfl
      ((Ledger.attributeDonorToExpense_atomic _ _ _ _ _ _ _).refuses_iff.mpr
        (mt Ledger.attributeDonorToExpense_accepts_iff.mp hacc)))
  rw [if_pos hacc]
  obtain ⟨attr, l', hattr⟩ : Accepts (Ledger.attributeDonorToExpense host a.donorId a.donationId
      a.expenseId a.allocationId a.method (some a.amount) none) s.ledger :=
    Ledger.attributeDonorToExpense_accepts_iff.mpr hacc
  obtain ⟨log, hl'⟩ : ∃ log, l' = { attributed host s a with auditLog := log } :=
    Ledger.attributeDonorToExpense_attributed hattr
  have hmem : host.newId "attr" 0 ∈ l'.attributions := by
    obtain ⟨hid, _, _, _, _, _, _, _, _, log, rfl⟩ := Ledger.attributeDonorToExpense_returns hattr
    exact Dict.mem_set.mpr (Or.inl hid.symm)
  have hstep : Returns (onLedger (Ledger.attributeDonorToExpense host a.donorId a.donationId
      a.expenseId a.allocationId a.method (some a.amount) none)) s attr { s with ledger := l' } :=
    returns_within.mpr ⟨l', hattr, rfl⟩
  have haudit : l'.PublicationAccepted host a.expenseId a.donationId a.allocationId ↔
      (attributed host s a).PublicationAccepted host a.expenseId a.donationId a.allocationId := by
    rw [hl']
    exact Iff.rfl
  by_cases hpub : l'.PublicationAccepted host a.expenseId a.donationId a.allocationId
  swap
  · -- the publication itself is refused, and the attribution stays
    rw [if_neg fun h => hpub (haudit.mpr h.1)]
    obtain ⟨e, he⟩ := (Ledger.publishUseOfFundsReceipt_atomic a.expenseId a.donationId
      a.allocationId a.actor p.createdAt).refuses_iff.mpr
        (mt Ledger.publishUseOfFundsReceipt_accepts_iff.mp hpub)
    exact ⟨e, _, raises_bind.mpr (Or.inr ⟨attr, _, hstep,
      Raises.bind (raises_within.mpr ⟨l', he, rfl⟩)⟩), touched_of_attribution hfresh hmem⟩
  obtain ⟨receipt, l₂, hreceipt⟩ : Accepts (Ledger.publishUseOfFundsReceipt host a.expenseId
      a.donationId a.allocationId a.actor p.createdAt) l' :=
    Ledger.publishUseOfFundsReceipt_accepts_iff.mpr hpub
  have hstep₂ : Returns (onLedger (Ledger.publishUseOfFundsReceipt host a.expenseId a.donationId
      a.allocationId a.actor p.createdAt)) { s with ledger := l' } receipt
      { s with ledger := l₂ } := returns_within.mpr ⟨l₂, hreceipt, rfl⟩
  have hpublished : (attributed host s a).publishedReceipt host a.expenseId a.donationId
      a.allocationId a.actor p.createdAt = some receipt := by
    have h := Ledger.publishUseOfFundsReceipt_receipt hreceipt
    rw [hl'] at h
    exact h
  rw [hpublished]
  by_cases hsafe : NoResidue receipt
  · rw [if_pos ⟨haudit.mp hpub, hsafe⟩]
    exact hstep.bind_accepts (hstep₂.bind_accepts
      ⟨_, _, returns_okOrRaise_bind.mpr
        ⟨(), (assertPublicSafe_receiptToPublic receipt).mpr hsafe, returns_pure.mpr ⟨rfl, rfl⟩⟩⟩)
  · -- the receipt is stored by now, with the attribution behind it
    rw [if_neg fun h => hsafe h.2]
    cases hscan : assertPublicSafe (receiptToPublic receipt) with
    | ok u => exact absurd ((assertPublicSafe_receiptToPublic receipt).mp hscan) hsafe
    | error e =>
        refine ⟨e, { s with ledger := l₂ }, raises_bind.mpr (Or.inr ⟨attr, _, hstep,
          raises_bind.mpr (Or.inr ⟨receipt, _, hstep₂,
            raises_okOrRaise_bind.mpr (Or.inl ⟨hscan, rfl⟩)⟩)⟩), ?_⟩
        obtain ⟨_, _, _, _, _, _, _, _, log, rfl⟩ :=
          Ledger.publishUseOfFundsReceipt_returns hreceipt
        exact touched_of_attribution hfresh hmem

end Handlers

/-! ## The notification, its consent and its intent -/

section Send

variable {host : Host} {l : Ledger} {ws : TenantWorkspace} {receiptId : Id} {r : UseOfFundsReceipt}

theorem bootstrapConsent_returns {donorId : Id} (hdonor : donorId ∈ l.donors) :
    Returns (bootstrapConsent host l donorId) ws () (bootstrapped host l ws donorId) := by
  rw [bootstrapConsent, returns_get_bind, bootstrapped]
  split
  · rw [TenantWorkspace.recordConsent, TenantWorkspace.setPreference]
    simp only [returns_bind, returns_raiseIf, returns_modify, returns_pure]
    simp [fixtureConsent, fixturePreference, hdonor]
  · exact returns_pure.mpr ⟨rfl, rfl⟩

theorem bootstrapConsent_raises {donorId : Id} (hdonor : donorId ∉ l.donors)
    (hboot : bootstraps ws donorId = true) :
    Raises (bootstrapConsent host l donorId) ws
      (notFoundError s!"donor not found: {donorId}") ws := by
  rw [bootstrapConsent, raises_get_bind, if_pos hboot, TenantWorkspace.recordConsent]
  exact Raises.bind (raises_raiseIf_bind.mpr (Or.inr ⟨not_not.mpr rfl,
    raises_raiseIf_bind.mpr (Or.inl ⟨hdonor, rfl, rfl⟩)⟩))

theorem bootstrapped_intentsByDedup (donorId : Id) :
    (bootstrapped host l ws donorId).intentsByDedup = ws.intentsByDedup := by
  rw [bootstrapped]
  split <;> rfl

/-- A consent that was filled in was not there before. -/
theorem bootstrapped_ne {donorId : Id} (hboot : bootstraps ws donorId = true) :
    bootstrapped host l ws donorId ≠ ws := by
  intro h
  have hnew : (donorId, NotificationChannel.email) ∉ ws.consents := by
    rw [bootstraps, Bool.and_eq_true] at hboot
    exact of_decide_eq_true hboot.2
  rw [← h, bootstrapped, if_pos hboot] at hnew
  exact hnew (Dict.mem_set.mpr (Or.inl rfl))

/-- The steps of a send after its intent: an intent that is not delivered is an error. -/
theorem sendFrom_of_evaluated {preview : EmailPreview} {intent : NotificationIntent}
    {ws₁ ws₂ : TenantWorkspace} (hr : l.receipts.get? receiptId = some r)
    (hdonor : r.donorId ∈ l.donors) (hws₁ : bootstrapped host l ws r.donorId = ws₁)
    (heval : Returns (TenantWorkspace.evaluateIntent host l r.donorId .email
      (TenantWorkspace.receiptMessageClass r) (TenantWorkspace.receiptSourceType r) receiptId
      (Json.merge r.toDict.fields (emailPatch preview)) "v1.0" none true) ws₁ intent ws₂) :
    (intent.status = .delivered → Accepts (sendFrom host l preview receiptId r) ws) ∧
      (intent.status ≠ .delivered →
        ∃ e, Raises (sendFrom host l preview receiptId r) ws e ws₂) := by
  have hboot : Returns (bootstrapConsent host l r.donorId) ws () ws₁ :=
    hws₁ ▸ bootstrapConsent_returns hdonor
  have huse : Returns (TenantWorkspace.evaluateForUseOfFunds host l receiptId .email true
      (emailPatch preview)) ws₁ intent ws₂ := returns_orRaise_bind.mpr ⟨r, hr, heval⟩
  constructor
  · intro hdel
    have hpass : Returns (raiseIf (intent.status ≠ .delivered) (stateError
        s!"notification delivery did not complete: {intent.status.value}")) ws₂ () ws₂ :=
      returns_raiseIf.mpr ⟨not_not.mpr hdel, rfl⟩
    refine hboot.bind_accepts (huse.bind_accepts (hpass.bind_accepts ?_))
    exact (returns_get.mpr ⟨rfl, rfl⟩ : Returns get ws₂ ws₂ ws₂).bind_accepts (accepts_pure _)
  · intro hdel
    refine ⟨_, raises_bind.mpr (Or.inr ⟨(), ws₁, hboot,
      raises_bind.mpr (Or.inr ⟨intent, ws₂, huse, raises_raiseIf_bind.mpr (Or.inl ⟨hdel, rfl, rfl⟩)⟩)⟩)⟩

/-- A donor nobody registered: neither a consent nor an intent is written. -/
theorem sendFrom_raises {preview : EmailPreview} (hr : l.receipts.get? receiptId = some r)
    (hdonor : r.donorId ∉ l.donors) :
    Raises (sendFrom host l preview receiptId r) ws
      (notFoundError s!"donor not found: {r.donorId}") ws := by
  by_cases hboot : bootstraps ws r.donorId = true
  · exact (bootstrapConsent_raises hdonor hboot).bind
  have hskip : Returns (bootstrapConsent host l r.donorId) ws () ws := by
    rw [bootstrapConsent, returns_get_bind, if_neg hboot]
    exact returns_pure.mpr ⟨rfl, rfl⟩
  refine raises_bind.mpr (Or.inr ⟨(), ws, hskip, Raises.bind ?_⟩)
  exact raises_orRaise_bind.mpr (Or.inr ⟨r, hr,
    raises_raiseIf_bind.mpr (Or.inl ⟨hdonor, rfl, rfl⟩)⟩)

theorem sendFrom_fate (preview : EmailPreview) (hr : l.receipts.get? receiptId = some r) :
    (sendFromFate host l ws preview receiptId r).Holds (fun ws ws' => ws' ≠ ws)
      (sendFrom host l preview receiptId r) ws := by
  rw [sendFromFate]
  by_cases hdonor : r.donorId ∈ l.donors
  swap
  · rw [if_pos hdonor]
    exact ⟨_, sendFrom_raises hr hdonor⟩
  rw [if_neg (not_not.mpr hdonor)]
  have hdedup : (bootstrapped host l ws r.donorId).intentsByDedup = ws.intentsByDedup :=
    bootstrapped_intentsByDedup r.donorId
  cases hkey : ws.intentsByDedup.get? (sendKey l receiptId r) with
  | some existing =>
      have heval : Returns (TenantWorkspace.evaluateIntent host l r.donorId .email
          (TenantWorkspace.receiptMessageClass r) (TenantWorkspace.receiptSourceType r) receiptId
          (Json.merge r.toDict.fields (emailPatch preview)) "v1.0" none true)
          (bootstrapped host l ws r.donorId) existing (bootstrapped host l ws r.donorId) := by
        rw [sendKey] at hkey
        rw [TenantWorkspace.evaluateIntent, returns_raiseIf_bind, returns_get_bind, hdedup, hkey]
        exact ⟨not_not.mpr hdonor, returns_pure.mpr ⟨rfl, rfl⟩⟩
      obtain ⟨hdone, hshort⟩ := sendFrom_of_evaluated hr hdonor rfl heval
      show (if existing.status = .delivered then Fate.done
        else if bootstraps ws r.donorId then .cutShort else .refused).Holds _ _ ws
      by_cases hdel : existing.status = .delivered
      · rw [if_pos hdel]
        exact hdone hdel
      rw [if_neg hdel]
      obtain ⟨e, he⟩ := hshort hdel
      by_cases hboot : bootstraps ws r.donorId = true
      · rw [if_pos hboot]
        exact ⟨e, _, he, bootstrapped_ne hboot⟩
      · rw [if_neg hboot]
        rw [bootstrapped, if_neg hboot] at he
        exact ⟨e, he⟩
  | none =>
      have hne : ∀ ws₂ : TenantWorkspace, sendKey l receiptId r ∈ ws₂.intentsByDedup → ws₂ ≠ ws :=
        fun ws₂ hmem => TenantWorkspace.ne_of_mem_intentsByDedup hkey hmem
      show (if (bootstrapped host l ws r.donorId).Delivers (sendIntent host l
        (bootstrapped host l ws r.donorId) preview receiptId r) then Fate.done
        else .cutShort).Holds _ _ ws
      rcases TenantWorkspace.evaluateIntent_new (bootstrapped host l ws r.donorId)
          (sendIntent host l (bootstrapped host l ws r.donorId) preview receiptId r) hdonor rfl
          (hdedup ▸ hkey) with
        ⟨hdel, i, ws₂, heval, hi⟩ | ⟨hdel, ws₂, hmem, ⟨e, he⟩ | ⟨i, heval, hi⟩⟩
      · rw [if_pos hdel]
        exact (sendFrom_of_evaluated hr hdonor rfl heval).1 hi
      · -- the transport raised, and the intent stays as it was created
        rw [if_neg hdel]
        refine ⟨e, ws₂, raises_bind.mpr (Or.inr ⟨(), _, bootstrapConsent_returns hdonor, ?_⟩),
          hne ws₂ hmem⟩
        exact Raises.bind (raises_orRaise_bind.mpr (Or.inr ⟨r, hr, he⟩))
      · rw [if_neg hdel]
        obtain ⟨e, he⟩ := (sendFrom_of_evaluated hr hdonor rfl heval).2 hi
        exact ⟨e, ws₂, he, hne ws₂ hmem⟩

theorem need_eq_ok {α : Type} {key : String} {o : Option α} {a : α} :
    need key o = .ok a ↔ o = some a := by
  cases o <;> simp [need]

theorem sendArgs_ok {p : SendPayload} {ws : TenantWorkspace} {preview : EmailPreview}
    {receiptId : Id} {r : UseOfFundsReceipt} (h : sendArgs s p = .ok (ws, preview, receiptId, r)) :
    s.workspace = some ws ∧ s.ledger.receipts.get? receiptId = some r := by
  rw [sendArgs] at h
  split at h
  · exact nomatch h
  next hws =>
    split at h
    · exact nomatch h
    next preview hpreview =>
      simp only [except_bind_eq_ok, need_eq_ok] at h
      obtain ⟨rid, _, r', hr, _, _, h⟩ := h
      split_ifs at h
      cases h
      exact ⟨hws, hr⟩

theorem sendNotification_fate (p : SendPayload) :
    (sendFate host s p).Holds Touched (sendNotification host p) s := by
  refine Fate.holds_get (Fate.holds_given fun a ha => ?_)
  obtain ⟨ws, preview, receiptId, r⟩ := a
  obtain ⟨hws, hr⟩ := sendArgs_ok ha
  have hpart : s.workspace.getD ws = ws := by rw [hws]; rfl
  refine Fate.holds_within (S := fun ws ws' => ws' ≠ ws) ?_ ?_ ?_
  · show { s with workspace := some (s.workspace.getD ws) } = s
    rw [hpart, ← hws]
  · intro t ht hsame
    rw [hpart] at ht
    exact ht (Option.some.inj (hsame.2.1.trans hws))
  · rw [hpart]
    exact sendFrom_fate preview hr

end Send

/-! ## The corrections -/

section Corrections

variable {host : Host}

theorem reverseArgs_ok {p : ReversePayload} {expenseId : Id} {actor reason : String}
    (h : reverseArgs p = .ok (expenseId, actor, reason)) : p.expenseId = some expenseId := by
  simp only [reverseArgs, except_bind_eq_ok, need_eq_ok] at h
  obtain ⟨e, he, _, _, _, _, h⟩ := h
  cases h
  exact he

theorem supersedeArgs_ok {p : SupersedePayload} {expenseId : Id} {actor reason : String}
    (h : supersedeArgs p = .ok (expenseId, actor, reason)) : p.expenseId = some expenseId := by
  simp only [supersedeArgs, except_bind_eq_ok, need_eq_ok] at h
  obtain ⟨e, he, _, _, _, _, h⟩ := h
  cases h
  exact he

theorem splitsOf_length {replacementAmount : Decimal.Amount} {items : List SplitItem}
    {splits : List (Id × Decimal.Amount)} (h : splitsOf replacementAmount items = .ok splits) :
    splits.length = items.length := by
  induction items generalizing splits with
  | nil =>
      cases h
      rfl
  | cons item items ih =>
      have htail : ∀ (pair : Id × Decimal.Amount),
          (splitsOf replacementAmount items).map (pair :: ·) = .ok splits →
            splits.length = items.length + 1 := by
        intro pair hmap
        cases hrest : splitsOf replacementAmount items with
        | error e => rw [hrest] at hmap; exact nomatch hmap
        | ok rest =>
            rw [hrest] at hmap
            cases hmap
            rw [List.length_cons, ih hrest]
      cases item with
      | pair allocationId amount => exact htail _ h
      | mapping allocationId amount =>
          cases allocationId with
          | none => exact nomatch h
          | some allocationId => exact htail _ h
      | other text => exact nomatch h

theorem replacementArgs_length {l : Ledger} {p : SupersedePayload} {replacement : Replacement}
    {splits : List (Id × Decimal.Amount)}
    (h : replacementArgs host l p = .ok (replacement, splits)) :
    splits.length = p.splits.length := by
  rw [replacementArgs] at h
  split at h
  · exact nomatch h
  · simp only [except_bind_eq_ok] at h
    obtain ⟨e, _, h⟩ := h
    split_ifs at h
    simp only [except_bind_eq_ok] at h
    obtain ⟨splits', hsplits, h⟩ := h
    cases h
    exact splitsOf_length hsplits

variable [Digest]

theorem reverseExpense_fate (p : ReversePayload)
    (hdraws : ∀ expenseId ∈ p.expenseId, Ledger.DrawsAvoid host 0
      (s.ledger.receiptIdsOf expenseId).length (s.ledger.receiptIdsOf expenseId)) :
    (reverseFate s p).Holds Touched (reverseExpense host p) s := by
  refine Fate.holds_given fun a ha => Fate.holds_get ?_
  obtain ⟨expenseId, actor, reason⟩ := a
  have havoid := hdraws expenseId (reverseArgs_ok ha)
  show Fate.Holds Touched (if s.ledger.expenseIn [.reversed] expenseId then _ else _) s
    (if s.ledger.expenseIn [.reversed] expenseId then _ else _)
  by_cases hdone : s.ledger.expenseIn [.reversed] expenseId = true
  · rw [if_pos hdone, if_pos hdone]
    exact accepts_pure _
  rw [if_neg hdone, if_neg hdone]
  refine Fate.holds_bind_total (fun _ _ => accepts_pure _) (holds_onLedger ?_)
  by_cases hrev : s.ledger.Reversible expenseId
  swap
  · rw [if_pos hrev]
    exact Ledger.reverseExpense_refuses hrev
  rw [if_neg (not_not.mpr hrev)]
  have hiff : Accepts (Ledger.reverseExpense host expenseId actor reason) s.ledger ↔
      s.ledger.Reversible expenseId ∧ s.ledger.PriorsIntact expenseId :=
    Ledger.reverseExpense_accepts_iff actor reason havoid
  by_cases hpriors : s.ledger.PriorsIntact expenseId
  · rw [if_pos hpriors]
    exact hiff.mpr ⟨hrev, hpriors⟩
  · rw [if_neg hpriors]
    exact Fate.holds_cutShort (fun h => hpriors (hiff.mp h).2)
      (Ledger.reverseExpense_changes host actor reason hrev)

omit [Digest] in
theorem assertIndexable_ok_iff {ext : Option KeyValue} :
    assertIndexable ext = .ok () ↔ ext.all KeyValue.hashable = true := by
  cases ext with
  | none => simp [assertIndexable]
  | some key => cases key <;> simp [assertIndexable, KeyValue.hashable]

omit [Digest] in
/-- A replacement that no import accepts leaves the flip, where there is something to flip. -/
theorem supersedeByUnfit_fate {α : Type} (l : Ledger) (expenseId organizationId : Id)
    (replacement : Ledger.UnfitReplacement) (reason : String) :
    (if l.expenseIn verifiedExpenseStates expenseId = false then Fate.refused
      else .cutShort).Holds (fun l l' => l'.entities ≠ l.entities)
      (Ledger.supersedeByUnfit expenseId organizationId replacement reason : LedgerM α) l := by
  have hrun := Ledger.supersedeByUnfit_run (α := α) l expenseId organizationId replacement reason
  rcases hrun with ⟨hnot, href⟩ | ⟨old, e, hold, hstate, hraises⟩
  · rw [if_pos hnot]
    exact href
  · have hver : l.expenseIn verifiedExpenseStates expenseId = true :=
      (Ledger.expenseIn_of_get? hold).trans (decide_eq_true hstate)
    rw [if_neg fun h => Bool.false_ne_true (h.symm.trans hver)]
    exact ⟨e, _, hraises, Ledger.entities_ne_of_corrected hver
      (Ledger.expenseIn_putExpense_corrected (by simp))⟩

theorem supersedeExpense_fate (p : SupersedePayload)
    (hea : Ledger.FreshDraws host "ea" p.splits.length s.ledger.expenseAllocations)
    (hdraws : ∀ expenseId ∈ p.expenseId, Ledger.DrawsAvoid host 0
      (s.ledger.receiptIdsOf expenseId).length (s.ledger.receiptIdsOf expenseId)) :
    (supersedeFate host s p).Holds Touched (supersedeExpense host p) s := by
  refine Fate.holds_given fun a ha => Fate.holds_get ?_
  obtain ⟨expenseId, actor, reason⟩ := a
  have havoid := hdraws expenseId (supersedeArgs_ok ha)
  show Fate.Holds Touched (if s.ledger.expenseIn [.superseded] expenseId then _ else _) s
    (if s.ledger.expenseIn [.superseded] expenseId then _ else _)
  by_cases hdone : s.ledger.expenseIn [.superseded] expenseId = true
  · rw [if_pos hdone, if_pos hdone]
    exact accepts_pure _
  rw [if_neg hdone, if_neg hdone]
  refine Fate.holds_given fun r hr => ?_
  obtain ⟨replacement, splits⟩ := r
  rw [← replacementArgs_length hr] at hea
  cases replacement with
  | unfit replacement =>
      exact holds_onLedger (supersedeByUnfit_fate s.ledger expenseId _ replacement reason)
  | fit replacement =>
  have hiff : Accepts (Ledger.supersedeExpense host expenseId replacement splits actor reason
      (truthyOr p.approvedBy actor)) s.ledger ↔ _ :=
    Ledger.supersedeExpense_accepts_iff replacement actor reason (truthyOr p.approvedBy actor) hea
      havoid
  show Fate.Holds Touched _ s (if s.ledger.expenseIn verifiedExpenseStates expenseId = false then
    Fate.refused else if (s.ledger.ReplacementAccepted expenseId replacement splits
      (truthyOr p.approvedBy actor) ∧ s.ledger.PriorsStored expenseId) ∧
        p.externalSourceId.all KeyValue.hashable = true then .done else .cutShort)
  by_cases hver : s.ledger.expenseIn verifiedExpenseStates expenseId = false
  · rw [if_pos hver]
    exact Refuses.bind (refuses_within rfl (Ledger.supersedeExpense_refuses hver))
  rw [if_neg hver]
  rw [Bool.not_eq_false] at hver
  have hchanges := Ledger.supersedeExpense_changes host replacement splits actor reason
    (truthyOr p.approvedBy actor) hver
  rcases returns_or_raises (Ledger.supersedeExpense host expenseId replacement splits actor reason
    (truthyOr p.approvedBy actor)) s.ledger with ⟨result, l', hret⟩ | ⟨e, l', he⟩
  · have hstep : Returns (onLedger (Ledger.supersedeExpense host expenseId replacement splits actor
        reason (truthyOr p.approvedBy actor))) s result { s with ledger := l' } :=
      returns_within.mpr ⟨l', hret, rfl⟩
    have hacc := (hiff.mp ⟨result, l', hret⟩).2
    by_cases hkey : p.externalSourceId.all KeyValue.hashable = true
    · rw [if_pos ⟨hacc, hkey⟩]
      exact hstep.bind_accepts ⟨_, _, returns_okOrRaise_bind.mpr ⟨(),
        assertIndexable_ok_iff.mpr hkey, returns_modify_bind.mpr (returns_pure.mpr ⟨rfl, rfl⟩)⟩⟩
    · -- the ledger is done by now, and only the index is missing
      rw [if_neg fun h => hkey h.2]
      cases hindex : assertIndexable p.externalSourceId with
      | ok u => exact absurd (assertIndexable_ok_iff.mp hindex) hkey
      | error e =>
          refine ⟨e, { s with ledger := l' }, raises_bind.mpr (Or.inr ⟨result, _, hstep,
            raises_okOrRaise_bind.mpr (Or.inl ⟨rfl, rfl⟩)⟩), ?_⟩
          rw [hret.after] at hchanges
          exact touched_of_entities hchanges
  · rw [if_neg fun h => (hiff.mpr ⟨hver, h.1⟩).elim fun a ha => ha.elim fun l'' hret =>
      hret.not_raises he]
    rw [he.after] at hchanges
    exact ⟨e, { s with ledger := l' }, Raises.bind (raises_within.mpr ⟨l', he, rfl⟩),
      touched_of_entities hchanges⟩

end Corrections

/-! ## Every handler -/

section Execution

variable [Digest] [Json.CharTable] {host : Host}

/-- The identifiers a handler draws are not in use: the one of a publication's
attribution, and those of a correction's receipts and charges. -/
def DrawsUnused (host : Host) (s : LedgerCommandExecutor) : Payload → Prop
  | .publishUseOfFundsReceipt _ => host.newId "attr" 0 ∉ s.ledger.attributions
  | .reverseExpense p => ∀ expenseId ∈ p.expenseId, Ledger.DrawsAvoid host 0
      (s.ledger.receiptIdsOf expenseId).length (s.ledger.receiptIdsOf expenseId)
  | .supersedeExpense p =>
      Ledger.FreshDraws host "ea" p.splits.length s.ledger.expenseAllocations ∧
        ∀ expenseId ∈ p.expenseId, Ledger.DrawsAvoid host 0
          (s.ledger.receiptIdsOf expenseId).length (s.ledger.receiptIdsOf expenseId)
  | _ => True

instance (host : Host) (s : LedgerCommandExecutor) (payload : Payload) :
    Decidable (DrawsUnused host s payload) := by
  unfold DrawsUnused
  split <;> infer_instance

theorem handle_fate (payload : Payload) (hdraws : DrawsUnused host s payload) :
    (handlerFate host s payload).Holds Touched (handle host payload) s := by
  cases payload with
  | importNormalizedExpense expense => exact importNormalized_fate expense
  | allocateExpense p => exact allocate_fate p
  | approveExpense p => exact approve_fate p
  | rejectExpense p => exact reject_fate p
  | publishUseOfFundsReceipt p => exact publishReceipt_fate p hdraws
  | sendNotification p => exact sendNotification_fate p
  | reverseExpense p => exact reverseExpense_fate p hdraws
  | supersedeExpense p => exact supersedeExpense_fate p hdraws.1 hdraws.2
  | unsupported commandType => exact refuses_throw _

/-! ## What a handler does not touch -/

section Frame

/-- `P` looks at nothing a handler writes. -/
def Framed (P : LedgerCommandExecutor → Prop) : Prop :=
  ∀ s l ws index, P s → P { s with ledger := l, workspace := ws, externalIndex := index }

variable {P : LedgerCommandExecutor → Prop}

omit [Digest] [Json.CharTable] in
theorem onLedger_frame {α : Type} (hP : Framed P) (x : LedgerM α) : Preserves P (onLedger x) :=
  .within fun s l h => hP s l s.workspace s.externalIndex h

omit [Json.CharTable] in
theorem attachAll_frame (hP : Framed P) (expenseId : Id) (i : Nat) (items : List EvidenceItem) :
    Preserves P (attachAll host expenseId i items) := by
  induction items generalizing i with
  | nil => exact .pure ()
  | cons item items ih =>
      cases item with
      | other typeName => exact .throw _
      | mapping id kind summary donorVisible =>
          rw [attachAll]
          cases evidenceId host i id with
          | text key => exact (onLedger_frame hP _).bind fun _ => ih (i + 1)
          | unhashable typeName repr => exact .throw _

omit [Json.CharTable] in
theorem importNormalized_frame (hP : Framed P) (expense : Option NormalizedRow) :
    Preserves P (importNormalized host expense) := by
  refine Preserves.bind (.okOrRaise _) fun row => Preserves.bind (.okOrRaise _) fun ext =>
    Preserves.bind .get fun s => ?_
  split
  · exact .pure _
  refine Preserves.bind (.okOrRaise _) fun e => (onLedger_frame hP _).bind fun _ =>
    Preserves.bind ?_ fun _ => Preserves.bind (.modify fun s h => ?_) fun _ => .pure _
  · cases row.evidence with
    | items items => exact attachAll_frame hP _ _ items
    | notIterable typeName => exact .throw _
  · exact hP s s.ledger s.workspace (s.externalIndex.set ext e.id) h

theorem handle_frame (hP : Framed P) (payload : Payload) : Preserves P (handle host payload) := by
  cases payload with
  | importNormalizedExpense expense => exact importNormalized_frame hP expense
  | allocateExpense p =>
      exact Preserves.bind .get fun _ => Preserves.bind (.okOrRaise _) fun _ =>
        (onLedger_frame hP _).bind fun _ => .pure _
  | approveExpense p =>
      exact Preserves.bind (.okOrRaise _) fun _ => (onLedger_frame hP _).bind fun _ => .pure _
  | rejectExpense p =>
      exact Preserves.bind (.okOrRaise _) fun _ => Preserves.bind .get fun _ =>
        Preserves.bind (.raiseIf _ _) fun _ => .pure _
  | publishUseOfFundsReceipt p =>
      exact Preserves.bind (.okOrRaise _) fun _ => (onLedger_frame hP _).bind fun _ =>
        (onLedger_frame hP _).bind fun _ => Preserves.bind (.okOrRaise _) fun _ => .pure _
  | sendNotification p =>
      exact Preserves.bind .get fun _ => Preserves.bind (.okOrRaise _) fun _ =>
        .within fun s ws h => hP s s.ledger (some ws) s.externalIndex h
  | reverseExpense p =>
      refine Preserves.bind (.okOrRaise _) fun _ => Preserves.bind .get fun _ => ?_
      split
      · exact .pure _
      · exact (onLedger_frame hP _).bind fun _ => .pure _
  | supersedeExpense p =>
      refine Preserves.bind (.okOrRaise _) fun _ => Preserves.bind .get fun _ => ?_
      dsimp only
      split
      · exact .pure _
      refine Preserves.bind (.okOrRaise _) fun r => ?_
      cases r.1 with
      | unfit replacement => exact onLedger_frame hP _
      | fit replacement =>
          exact (onLedger_frame hP _).bind fun _ => Preserves.bind (.okOrRaise _) fun _ =>
            Preserves.bind (.modify fun s h => hP s s.ledger s.workspace _ h) fun _ => .pure _
  | unsupported commandType => exact .throw _

end Frame

/-! ## Dispatch and its log -/

/-- The handler's fate, for a command of the ledger's own tenant. -/
def dispatchFate (host : Host) (s : LedgerCommandExecutor) (command : AgentCommand) : Fate :=
  if command.tenantId ≠ s.ledger.organization.id then .refused
  else handlerFate host s command.payload

theorem dispatch_fate (command : AgentCommand) (hdraws : DrawsUnused host s command.payload) :
    (dispatchFate host s command).Holds Touched (dispatch host command) s := by
  refine Fate.holds_get ?_
  rw [dispatchFate]
  by_cases htenant : command.tenantId = s.ledger.organization.id
  · rw [if_neg (not_not.mpr htenant)]
    exact Fate.holds_of_returns (returns_raiseIf (u := ()).mpr ⟨not_not.mpr htenant, rfl⟩)
      (handle_fate command.payload hdraws)
  · rw [if_pos htenant]
    exact ⟨_, raises_raiseIf_bind.mpr (Or.inl ⟨htenant, rfl, rfl⟩)⟩

/-- The executor after the result of a command is logged. -/
def logResult (command : AgentCommand) (refs : List Id) (s : LedgerCommandExecutor) :
    LedgerCommandExecutor :=
  match s.ledgerLog with
  | none => s
  | some log =>
      if s.simulation = false ∧ command.commandType ∈ loggedCommandTypes then
        { s with ledgerLog := some (log.appended (resultRow command s.ledger refs)) }
      else s

omit [Digest] [Json.CharTable] in
theorem logResult_eq (command : AgentCommand) (refs : List Id) (s : LedgerCommandExecutor) :
    ∃ log, logResult command refs s = { s with ledgerLog := log } := by
  rw [logResult]
  split
  · exact ⟨_, rfl⟩
  · split <;> exact ⟨_, rfl⟩

/-- Logging a result cannot fail. -/
theorem returns_loggedDispatch {command : AgentCommand} {refs : List Id} :
    Returns (loggedDispatch host command) s refs s' ↔
      ∃ s₁, Returns (dispatch host command) s refs s₁ ∧ logResult command refs s₁ = s' := by
  have hlog : ∀ (refs : List Id) (s₁ : LedgerCommandExecutor), Returns
      (do
        let s ← get
        match s.ledgerLog with
        | none => return refs
        | some log =>
            if s.simulation = false ∧ command.commandType ∈ loggedCommandTypes then
              within (·.ledgerLog.getD log) (fun log s => { s with ledgerLog := some log })
                (FileLedgerCommandLog.append (resultRow command s.ledger refs))
              return refs
            else return refs : ExecutorM (List Id)) s₁ refs (logResult command refs s₁) := by
    intro refs s₁
    rw [returns_get_bind, logResult]
    cases hlog : s₁.ledgerLog with
    | none => exact returns_pure.mpr ⟨rfl, rfl⟩
    | some log =>
        dsimp only
        split
        · refine returns_bind.mpr ⟨(), _, returns_within.mpr ⟨_, ?_, rfl⟩,
            returns_pure.mpr ⟨rfl, rfl⟩⟩
          rw [hlog]
          exact FileLedgerCommandLog.append_returns rfl log
        · exact returns_pure.mpr ⟨rfl, rfl⟩
  constructor
  · intro h
    obtain ⟨refs', s₁, hdispatch, hrest⟩ := returns_bind.mp h
    obtain ⟨rfl, rfl⟩ := Returns.unique (hlog refs' s₁) hrest
    exact ⟨s₁, hdispatch, rfl⟩
  · rintro ⟨s₁, hdispatch, rfl⟩
    exact returns_bind.mpr ⟨refs, s₁, hdispatch, hlog refs s₁⟩

theorem loggedDispatch_fate (command : AgentCommand)
    (hdraws : DrawsUnused host s command.payload) :
    (dispatchFate host s command).Holds Touched (loggedDispatch host command) s := by
  have hfate := dispatch_fate command hdraws
  cases hend : dispatchFate host s command with
  | refused =>
      rw [hend] at hfate
      exact Refuses.bind hfate
  | cutShort =>
      rw [hend] at hfate
      obtain ⟨e, s₁, he, htouch⟩ := hfate
      exact ⟨e, s₁, he.bind, htouch⟩
  | done =>
      rw [hend] at hfate
      obtain ⟨refs, s₁, hret⟩ := hfate
      exact ⟨refs, _, returns_loggedDispatch.mpr ⟨s₁, hret, rfl⟩⟩

end Execution

end LedgerCommandExecutor

end ImpactRelay
