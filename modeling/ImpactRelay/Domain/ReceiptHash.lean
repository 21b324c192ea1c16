/-
# `Domain.ReceiptHash` — what the hash of a receipt binds

Three lists of fields are written by hand for one receipt: the body that is
hashed, the document the donor gets (`toDict`) and the public document
(`receiptToPublic`).  The body is read off its hash (`Lib.JsonText`), so equal
hashes agree on every field of the body, and a correction's on the body of the
receipt it corrects (`SameBound`).  The documents show more than that.  Which
inputs they show and the hash leaves out is `Publication.unhashed` for an
original and `Correction.unhashed` for a correction; two receipts with one hash
read alike exactly when these agree (`receipt_hash_binds_iff`).
-/
import ImpactRelay.Agents.Privacy
import ImpactRelay.Domain.ReceiptNumbers
import ImpactRelay.Lib.JsonText

namespace ImpactRelay

open Raise

/-! ## What a donor sees -/

/-- Both documents of the receipts agree on every field but the receipt's id. -/
def SameExported (r r' : UseOfFundsReceipt) : Prop :=
  (∀ key, key ≠ "receipt_id" → r.toDict.field? key = r'.toDict.field? key) ∧
    ∀ key, key ≠ "receiptId" → (receiptToPublic r).field? key = (receiptToPublic r').field? key

/-- The receipts agree on the fields an original's hash reads, of itself or of
the original it corrects. -/
structure SameBound (r r' : UseOfFundsReceipt) : Prop where
  type : r.type = r'.type
  organizationId : r.organizationId = r'.organizationId
  donationId : r.donationId = r'.donationId
  donorId : r.donorId = r'.donorId
  allocationId : r.allocationId = r'.allocationId
  allocationName : r.allocationName = r'.allocationName
  expenditureExpenseId : r.expenditureExpenseId = r'.expenditureExpenseId
  grossAmount : r.grossAmount = r'.grossAmount
  attributedAmount : r.attributedAmount = r'.attributedAmount
  purchaseDate : r.purchaseDate = r'.purchaseDate
  category : r.category = r'.category
  description : r.description = r'.description
  verificationState : r.verificationState = r'.verificationState
  attributionMethod : r.attributionMethod = r'.attributionMethod
  createdAt : r.createdAt = r'.createdAt
  corrected : r.corrected = r'.corrected
  correctsReceiptId : r.correctsReceiptId = r'.correctsReceiptId
  correctionKind : r.correctionKind = r'.correctionKind

/-- The receipts agree on the fields that are shown besides. -/
structure SameBesides (r r' : UseOfFundsReceipt) : Prop where
  organizationName : r.organizationName = r'.organizationName
  restrictionType : r.restrictionType = r'.restrictionType
  vendor : r.vendor = r'.vendor
  currency : r.currency = r'.currency
  remainingDesignatedBalance : r.remainingDesignatedBalance = r'.remainingDesignatedBalance
  policyVersion : r.policyVersion = r'.policyVersion
  evidenceSummary : r.evidenceSummary = r'.evidenceSummary
  provenance : r.provenanceFields = r'.provenanceFields

theorem Decimal.toStr_inj {c c' : Int} (h : Decimal.toStr c = Decimal.toStr c') : c = c' := by
  have htext := congrArg Decimal.read h
  rw [Decimal.read_toStr, Decimal.read_toStr] at htext
  exact (Decimal.Amount.finite.inj htext).1

theorem RestrictionType.value_inj {a b : RestrictionType} (h : a.value = b.value) : a = b := by
  cases a <;> cases b <;> first | rfl | exact absurd h (by decide)

theorem SameExported.besides {r r' : UseOfFundsReceipt} (h : SameExported r r') :
    SameBesides r r' := by
  have horganization : r.organizationId = r'.organizationId ∧
      r.organizationName = r'.organizationName := by
    simpa [UseOfFundsReceipt.toDict, Json.field?] using h.1 "organization" (by decide)
  have hallocation : r.allocationId = r'.allocationId ∧ r.allocationName = r'.allocationName ∧
      r.restrictionType = r'.restrictionType := by
    simpa [UseOfFundsReceipt.toDict, Json.field?] using h.1 "allocation" (by decide)
  have hvendor : r.vendor = r'.vendor := by
    simpa [receiptToPublic, Json.field?] using h.2 "vendor" (by decide)
  have hcurrency : r.currency = r'.currency := by
    simpa [receiptToPublic, Json.field?] using h.2 "currency" (by decide)
  have hremaining : Decimal.toStr r.remainingDesignatedBalance =
      Decimal.toStr r'.remainingDesignatedBalance := by
    simpa [UseOfFundsReceipt.toDict, Json.field?] using
      h.1 "remaining_designated_balance" (by decide)
  have hattribution : r.attributionMethod = r'.attributionMethod ∧
      r.policyVersion = r'.policyVersion := by
    simpa [UseOfFundsReceipt.toDict, Json.field?] using h.1 "attribution" (by decide)
  have hevidence : r.evidenceSummary = r'.evidenceSummary := by
    simpa [UseOfFundsReceipt.toDict, Json.field?] using h.1 "evidence_summary" (by decide)
  have hprovenance : r.provenanceFields = r'.provenanceFields := by
    simpa [UseOfFundsReceipt.toDict, Json.field?] using h.1 "provenance" (by decide)
  exact ⟨horganization.2, hallocation.2.2, hvendor, hcurrency, Decimal.toStr_inj hremaining,
    hattribution.2, hevidence, hprovenance⟩

theorem SameBound.exported {r r' : UseOfFundsReceipt} (h : SameBound r r')
    (hhash : r.receiptHash = r'.receiptHash) (hbesides : SameBesides r r') : SameExported r r' := by
  refine ⟨fun key hkey => ?_, fun key hkey => ?_⟩
  · simp [UseOfFundsReceipt.toDict, Json.field?, hkey.symm, h.type, h.organizationId, h.donationId,
      h.donorId, h.allocationId, h.allocationName, h.expenditureExpenseId, h.grossAmount,
      h.attributedAmount, h.purchaseDate, h.category, h.description, h.verificationState,
      h.attributionMethod, h.corrected, h.correctsReceiptId, h.correctionKind,
      hbesides.organizationName, hbesides.restrictionType, hbesides.vendor, hbesides.currency,
      hbesides.remainingDesignatedBalance, hbesides.policyVersion, hbesides.evidenceSummary,
      hbesides.provenance]
  · simp [receiptToPublic, Json.field?, hhash, h.allocationName, h.grossAmount, h.attributedAmount,
      h.purchaseDate, h.category, h.description, h.verificationState, h.attributionMethod,
      h.createdAt, h.corrected, h.correctionKind, hbesides.organizationName,
      hbesides.restrictionType, hbesides.vendor, hbesides.currency,
      hbesides.remainingDesignatedBalance, hbesides.evidenceSummary]

theorem SameBound.exported_iff {r r' : UseOfFundsReceipt} (h : SameBound r r')
    (hhash : r.receiptHash = r'.receiptHash) : SameExported r r' ↔ SameBesides r r' :=
  ⟨SameExported.besides, h.exported hhash⟩

namespace Ledger

/-! ## The hashed bodies -/

/-- The body an original hashes, from the receipt and what remains in the fund. -/
def originalBody (r : UseOfFundsReceipt) (poolRemaining : Int) : List (String × Json) := [
  ("type", .str r.type),
  ("organization_id", .str r.organizationId),
  ("donation_id", .str r.donationId),
  ("donor_id", .str r.donorId),
  ("allocation_id", .str r.allocationId),
  ("allocation_name", .str r.allocationName),
  ("expense_id", .str r.expenditureExpenseId),
  ("gross_amount", .str (Decimal.toStr r.grossAmount)),
  ("attributed_amount", .str (Decimal.toStr r.attributedAmount)),
  ("purchase_date", .str r.purchaseDate),
  ("category", .str r.category),
  ("description", .str r.description),
  ("verification_state", .str r.verificationState),
  ("remaining_designated_balance", .str (Decimal.toStr r.remainingDesignatedBalance)),
  ("allocation_pool_remaining", .str (Decimal.toStr poolRemaining)),
  ("attribution_method", .str r.attributionMethod),
  ("policy_version", .str r.policyVersion),
  ("approved_by", Json.ofOption r.approvedBy),
  ("created_at", .str r.createdAt)]

/-- The body a correction hashes. -/
def correctionBody (r : UseOfFundsReceipt) (replacementExpenseId : Option Id) (priorHash : String) :
    List (String × Json) := [
  ("type", .str r.type),
  ("corrected", .bool r.corrected),
  ("correction_kind", Json.ofOption r.correctionKind),
  ("corrects_receipt_id", Json.ofOption r.correctsReceiptId),
  ("expense_id", .str r.expenditureExpenseId),
  ("verification_state", .str r.verificationState),
  ("reason", Json.ofOption r.evidenceSummary),
  ("replacement_expense_id", Json.ofOption replacementExpenseId),
  ("created_at", .str r.createdAt),
  ("prior_receipt_hash", .str priorHash)]

theorem scalar_originalBody (r : UseOfFundsReceipt) (poolRemaining : Int) :
    ∀ e ∈ originalBody r poolRemaining, e.2.Scalar := by
  simp [originalBody]

theorem scalar_correctionBody (r : UseOfFundsReceipt) (replacementExpenseId : Option Id)
    (priorHash : String) : ∀ e ∈ correctionBody r replacementExpenseId priorHash, e.2.Scalar := by
  simp [correctionBody]

section Hashes

variable [Digest]

theorem originalBody_inj {r r' : UseOfFundsReceipt} {pool pool' : Int}
    (hinj : Function.Injective Digest.sha256)
    (h : stableHash (.obj (originalBody r pool)) = stableHash (.obj (originalBody r' pool'))) :
    originalBody r pool = originalBody r' pool' :=
  Json.eq_of_dumps rfl (by simp [originalBody]) (scalar_originalBody r pool) (scalar_originalBody r' pool')
    (hinj h)

theorem correctionBody_inj {r r' : UseOfFundsReceipt} {replacement replacement' : Option Id}
    {prior prior' : String} (hinj : Function.Injective Digest.sha256)
    (h : stableHash (.obj (correctionBody r replacement prior)) =
      stableHash (.obj (correctionBody r' replacement' prior'))) :
    correctionBody r replacement prior = correctionBody r' replacement' prior' :=
  Json.eq_of_dumps rfl (by simp [correctionBody]) (scalar_correctionBody r replacement prior)
    (scalar_correctionBody r' replacement' prior') (hinj h)

/-- An original and a correction are never hashed alike. -/
theorem originalBody_ne_correctionBody {r r' : UseOfFundsReceipt} {pool : Int}
    {replacement : Option Id} {prior : String} (hinj : Function.Injective Digest.sha256) :
    stableHash (.obj (originalBody r pool)) ≠
      stableHash (.obj (correctionBody r' replacement prior)) := by
  intro h
  have hlength := (Json.perm_of_dumps (scalar_originalBody r pool)
    (scalar_correctionBody r' replacement prior) (hinj h)).length_eq
  simp [originalBody, correctionBody] at hlength

/-! ## Publications -/

/-- A call that publishes an original. -/
structure Publication where
  host : Host
  ledger : Ledger
  expenseId : Id
  donationId : Id
  allocationId : Id
  actor : String
  createdAt : Option String

/-- The call returns the receipt. -/
def Publication.Yields (p : Publication) (r : UseOfFundsReceipt) : Prop :=
  ∃ l', Returns (publishUseOfFundsReceipt p.host p.expenseId p.donationId p.allocationId p.actor
    p.createdAt) p.ledger r l'

/-- What an original shows of the inputs and its hash leaves out. -/
@[ext]
structure Publication.Unhashed where
  organizationName : String
  restrictionType : Option RestrictionType
  vendor : Option String
  currency : Option String
  evidenceSummary : Option String
  actor : String
  attributionId : Option Id
deriving DecidableEq

def Publication.unhashed (p : Publication) : Publication.Unhashed where
  organizationName := p.ledger.organization.name
  restrictionType := (p.ledger.allocations.get? p.allocationId).map (·.restrictionType)
  vendor := (p.ledger.expenses.get? p.expenseId).map (·.vendor)
  currency := (p.ledger.expenses.get? p.expenseId).map (·.currency)
  evidenceSummary := p.ledger.donorVisibleEvidenceSummary p.expenseId
  actor := p.actor
  attributionId := (p.ledger.findAttribution p.donationId p.expenseId p.allocationId).map (·.id)

/-- A call that publishes the `i`-th correction of a reversal or a supersession. -/
structure Correction where
  host : Host
  ledger : Ledger
  i : Nat
  prior : UseOfFundsReceipt
  expense : Expense
  actor : String
  kind : String
  reason : String
  replacementExpenseId : Option Id

def Correction.Yields (c : Correction) (r : UseOfFundsReceipt) : Prop :=
  ∃ l', Returns (publishCorrectionReceipt c.host c.i c.prior c.expense c.actor c.kind c.reason
    c.replacementExpenseId) c.ledger r l'

/-- What a correction shows of the inputs and its hash leaves out. -/
@[ext]
structure Correction.Unhashed where
  organizationName : String
  restrictionType : String
  vendor : String
  currency : String
  remaining : Int
  policyVersion : String
  approvedBy : Option String
  actor : String
deriving DecidableEq

def Correction.unhashed (c : Correction) : Correction.Unhashed where
  organizationName := c.prior.organizationName
  restrictionType := c.prior.restrictionType
  vendor := c.prior.vendor
  currency := c.prior.currency
  remaining := c.ledger.donorRemainingOnAllocation c.prior.donationId c.prior.allocationId
  policyVersion := c.ledger.organization.policyVersion
  approvedBy := orElse c.expense.approvedBy c.prior.approvedBy
  actor := c.actor

/-- The receipts ledgers publish: originals, and corrections of published receipts. -/
inductive Published : UseOfFundsReceipt → Prop
  | original {p : Publication} {r : UseOfFundsReceipt} (h : p.Yields r) : Published r
  | correction {c : Correction} {r : UseOfFundsReceipt} (hprior : Published c.prior)
      (h : c.Yields r) : Published r

theorem Publication.Yields.hash {p : Publication} {r : UseOfFundsReceipt} (h : p.Yields r) :
    r.receiptHash = stableHash (.obj (originalBody r (p.ledger.poolRemaining p.allocationId))) ∧
      r.corrected = false ∧ r.correctsReceiptId = none ∧ r.correctionKind = none := by
  obtain ⟨_, hreturns⟩ := h
  have hreceipt := publishUseOfFundsReceipt_receipt hreturns
  rw [publishedReceipt] at hreceipt
  split at hreceipt
  · cases Option.some.inj hreceipt
    exact ⟨rfl, rfl, rfl, rfl⟩
  · cases hreceipt

/-- What a publication hashes. -/
def Publication.body (p : Publication) : List (String × Json) :=
  match publishedReceipt p.host p.ledger p.expenseId p.donationId p.allocationId p.actor
    p.createdAt with
  | some r => originalBody r (p.ledger.poolRemaining p.allocationId)
  | none => []

theorem Publication.Yields.hash_body {p : Publication} {r : UseOfFundsReceipt} (h : p.Yields r) :
    r.receiptHash = stableHash (.obj p.body) := by
  rw [h.hash.1, body]
  obtain ⟨_, hreturns⟩ := h
  rw [publishUseOfFundsReceipt_receipt hreturns]

theorem Correction.Yields.receipt {c : Correction} {r : UseOfFundsReceipt} (h : c.Yields r) :
    r = correctionReceipt c.host c.ledger c.i c.prior c.expense c.actor c.kind c.reason
      c.replacementExpenseId := by
  obtain ⟨_, hreturns⟩ := h
  exact (publishCorrectionReceipt_returns hreturns).1

theorem Correction.Yields.hash {c : Correction} {r : UseOfFundsReceipt} (h : c.Yields r) :
    r.receiptHash =
      stableHash (.obj (correctionBody r c.replacementExpenseId c.prior.receiptHash)) := by
  rw [h.receipt]
  rfl

/-! ## The receipts of a ledger -/

/-- Every receipt of the ledger was published. -/
def AllPublished (l : Ledger) : Prop := ∀ r ∈ l.receipts.values, Published r

theorem AllPublished.store {l : Ledger} (h : AllPublished l) {r : UseOfFundsReceipt}
    (hr : Published r) (expenseId : Id) (log : List AuditReceipt) :
    AllPublished { storeReceipt expenseId r l with auditLog := log } := by
  intro v hv
  rcases Dict.mem_values_set hv with rfl | hv
  · exact hr
  · exact h v hv

/-- A correction of a stored receipt is stored as a published one. -/
theorem AllPublished.correct {l l' : Ledger} (h : AllPublished l) {host : Host} {i : Nat} {rid : Id}
    {prior r : UseOfFundsReceipt} {expense : Expense} {actor kind reason : String}
    {replacementId : Option Id} (hprior : l.receipts.get? rid = some prior)
    (hpub : Returns (publishCorrectionReceipt host i prior expense actor kind reason replacementId)
      l r l') : AllPublished l' := by
  have hstored := h prior (Dict.mem_values.mpr ⟨rid, hprior⟩)
  have hr : Published r := .correction
    (c := ⟨host, l, i, prior, expense, actor, kind, reason, replacementId⟩) hstored ⟨l', hpub⟩
  obtain ⟨_, log, rfl⟩ := publishCorrectionReceipt_returns hpub
  exact h.store hr expense.id log

theorem AllPublished.reversalCorrections {host : Host} {expense : Expense} {actor reason : String}
    {snaps : List (Id × Json)} {i : Nat} {rs : List UseOfFundsReceipt} {l l' : Ledger}
    (h : AllPublished l)
    (hloop : Returns (reversalCorrections host expense actor reason i snaps) l rs l') :
    AllPublished l' := by
  induction snaps generalizing i l rs with
  | nil =>
      obtain ⟨_, rfl⟩ := returns_pure.mp hloop
      exact h
  | cons entry snaps ih =>
      obtain ⟨rid, snap⟩ := entry
      rw [Ledger.reversalCorrections, returns_get_bind, returns_orRaise_bind] at hloop
      obtain ⟨prior, hprior, hloop⟩ := hloop
      obtain ⟨_, l₀, hcheck, hloop⟩ := returns_bind.mp hloop
      rw [(checkSnapshot_readOnly _ _).returns hcheck] at hloop
      obtain ⟨c, l₁, hpub, hloop⟩ := returns_bind.mp hloop
      obtain ⟨cs, l₂, hrest, hloop⟩ := returns_bind.mp hloop
      obtain ⟨_, rfl⟩ := returns_pure.mp hloop
      exact ih (h.correct hprior hpub) hrest

theorem AllPublished.supersedeCorrections {host : Host} {expense : Expense} {actor reason : String}
    {replacementId : Id} {rids : List Id} {i : Nat} {rs : List UseOfFundsReceipt} {l l' : Ledger}
    (h : AllPublished l)
    (hloop : Returns (supersedeCorrections host expense actor reason replacementId i rids) l rs l') :
    AllPublished l' := by
  induction rids generalizing i l rs with
  | nil =>
      obtain ⟨_, rfl⟩ := returns_pure.mp hloop
      exact h
  | cons rid rids ih =>
      rw [Ledger.supersedeCorrections, returns_get_bind, returns_orRaise_bind] at hloop
      obtain ⟨prior, hprior, hloop⟩ := hloop
      obtain ⟨c, l₁, hpub, hloop⟩ := returns_bind.mp hloop
      obtain ⟨cs, l₂, hrest, hloop⟩ := returns_bind.mp hloop
      obtain ⟨_, rfl⟩ := returns_pure.mp hloop
      exact ih (h.correct hprior hpub) hrest

theorem AllPublished.of_receipts {l l' : Ledger} (h : AllPublished l)
    (heq : l'.receipts = l.receipts) : AllPublished l' := by
  intro r hr
  rw [heq] at hr
  exact h r hr

theorem allPublished_step {l : Ledger} {c : Call} (hlin : Lineage l) (hfresh : FreshIds l c)
    (h : AllPublished l) : AllPublished (step l c) := by
  obtain ⟨host, op⟩ := c
  cases op with
  | publishUseOfFundsReceipt expenseId donationId allocationId actor createdAt =>
      rw [step, exec, after_map]
      rcases returns_or_raises (publishUseOfFundsReceipt host expenseId donationId allocationId
        actor createdAt) l with ⟨receipt, l', hpub⟩ | ⟨e, l', hraises⟩
      · have hr : Published receipt := .original
          (p := ⟨host, l, expenseId, donationId, allocationId, actor, createdAt⟩) ⟨l', hpub⟩
        obtain ⟨_, _, _, _, _, _, _, _, log, hl'⟩ := publishUseOfFundsReceipt_returns hpub
        rw [hpub.after, hl']
        exact h.store hr expenseId log
      · rwa [hraises.after, publishUseOfFundsReceipt_atomic _ _ _ _ _ _ _ _ hraises]
  | reverseExpense expenseId actor reason =>
      rw [step, exec, after_map]
      rcases returns_or_raises (reverseExpense host expenseId actor reason) l with
        ⟨r, l', hreverse⟩ | ⟨e, l', hraises⟩
      · obtain ⟨expense, snaps, log, _, _, _, hloop⟩ := reverseExpense_returns hreverse
        rw [hreverse.after]
        refine AllPublished.reversalCorrections ?_ hloop
        exact h.of_receipts rfl
      · rwa [hraises.after, reverseExpense_raises hlin hfresh hraises]
  | supersedeExpense expenseId replacement splits actor reason approvedBy =>
      rw [step, exec, after_map]
      rcases returns_or_raises (supersedeExpense host expenseId replacement splits actor reason
        approvedBy) l with ⟨r, l', hsupersede⟩ | ⟨e, l', hraises⟩
      · obtain ⟨old, l₁, l₂, eas, approved, log, _, _, _, _, hreplaced, hloop⟩ :=
          supersedeExpense_returns hsupersede
        rw [hsupersede.after]
        exact (h.of_receipts hreplaced.receipts).supersedeCorrections hloop
      · rw [hraises.after]
        exact h.of_receipts (supersedeExpense_raises_receipts hlin hfresh.2.2 hraises)
  | _ =>
      refine h.of_receipts (receipts_step rfl fun p hof => ?_)
      cases p with
      | published _ _ => simp [Posting.of] at hof
      | correction _ _ _ => simp [Posting.of] at hof
      | _ => rfl

/-- The receipts of every ledger are published ones: what is corrected was. -/
theorem allPublished_run {organization : Organization} {calls : List Call}
    (hfresh : Along step FreshIds (.new organization) calls) :
    AllPublished (run step (.new organization) calls) := by
  have hboth := run_invariant (P := fun l => Lineage l ∧ AllPublished l)
    (fun l c h hc => ⟨lineage_step hc h.1, allPublished_step h.1 hc h.2⟩)
    ⟨lineage_run organization [], fun r hr => absurd hr List.not_mem_nil⟩ hfresh
  exact hboth.2

/-! ## What the hash binds -/

theorem sameBound_of_originals {p q : Publication} {r r' : UseOfFundsReceipt} (h : p.Yields r)
    (h' : q.Yields r') (hinj : Function.Injective Digest.sha256)
    (hhash : r.receiptHash = r'.receiptHash) : SameBound r r' := by
  obtain ⟨hbody, hcorrected, hcorrects, hkind⟩ := h.hash
  obtain ⟨hbody', hcorrected', hcorrects', hkind'⟩ := h'.hash
  have hfields := originalBody_inj hinj (hbody.symm.trans (hhash.trans hbody'))
  simp only [originalBody, List.cons.injEq, Prod.mk.injEq, Json.str.injEq, true_and] at hfields
  obtain ⟨htype, horganization, hdonation, hdonor, hallocation, hname, hexpense, hgross, hattributed,
    hdate, hcategory, hdescription, hstate, _, _, hmethod, _, _, hcreated, _⟩ := hfields
  exact {
    type := htype
    organizationId := horganization
    donationId := hdonation
    donorId := hdonor
    allocationId := hallocation
    allocationName := hname
    expenditureExpenseId := hexpense
    grossAmount := Decimal.toStr_inj hgross
    attributedAmount := Decimal.toStr_inj hattributed
    purchaseDate := hdate
    category := hcategory
    description := hdescription
    verificationState := hstate
    attributionMethod := hmethod
    createdAt := hcreated
    corrected := hcorrected.trans hcorrected'.symm
    correctsReceiptId := hcorrects.trans hcorrects'.symm
    correctionKind := hkind.trans hkind'.symm }

/-- Corrections with one hash correct receipts with one hash, for one reason. -/
theorem Correction.Yields.hash_eq {c d : Correction} {r r' : UseOfFundsReceipt} (h : c.Yields r)
    (h' : d.Yields r') (hinj : Function.Injective Digest.sha256)
    (hhash : r.receiptHash = r'.receiptHash) :
    c.kind = d.kind ∧ c.prior.receiptId = d.prior.receiptId ∧ c.expense.id = d.expense.id ∧
      c.expense.state.value = d.expense.state.value ∧ c.reason = d.reason ∧
      c.replacementExpenseId = d.replacementExpenseId ∧
      c.host.nowIso "uofc" c.i = d.host.nowIso "uofc" d.i ∧
      c.prior.receiptHash = d.prior.receiptHash := by
  have hfields := correctionBody_inj hinj (h.hash.symm.trans (hhash.trans h'.hash))
  rw [h.receipt, h'.receipt] at hfields
  simpa [correctionBody, correctionReceipt] using hfields

theorem sameBound_of_corrections {c d : Correction} {r r' : UseOfFundsReceipt} (h : c.Yields r)
    (h' : d.Yields r') (hinj : Function.Injective Digest.sha256)
    (hhash : r.receiptHash = r'.receiptHash) (hprior : SameBound c.prior d.prior) :
    SameBound r r' := by
  obtain ⟨hkind, hcorrects, hexpense, hstate, _, _, hcreated, _⟩ := h.hash_eq h' hinj hhash
  have hattributed : (if c.kind = "REVERSAL" then 0 else c.prior.attributedAmount) =
      if d.kind = "REVERSAL" then 0 else d.prior.attributedAmount := by
    rw [hkind, hprior.attributedAmount]
  rw [h.receipt, h'.receipt]
  exact {
    type := rfl
    organizationId := hprior.organizationId
    donationId := hprior.donationId
    donorId := hprior.donorId
    allocationId := hprior.allocationId
    allocationName := hprior.allocationName
    expenditureExpenseId := hexpense
    grossAmount := hprior.grossAmount
    attributedAmount := hattributed
    purchaseDate := hprior.purchaseDate
    category := hprior.category
    description := hprior.description
    verificationState := hstate
    attributionMethod := hprior.attributionMethod
    createdAt := hcreated
    corrected := rfl
    correctsReceiptId := congrArg some hcorrects
    correctionKind := congrArg some hkind }

/-- Published receipts with one hash agree on what the hash binds: a correction's
hash reads the hash of the receipt it corrects. -/
theorem Published.sameBound {r r' : UseOfFundsReceipt} (h : Published r) (h' : Published r')
    (hinj : Function.Injective Digest.sha256) (hhash : r.receiptHash = r'.receiptHash) :
    SameBound r r' := by
  induction h generalizing r' with
  | original hp =>
      cases h' with
      | original hq => exact sameBound_of_originals hp hq hinj hhash
      | correction _ hd =>
          exact absurd (hp.hash.1.symm.trans (hhash.trans hd.hash))
            (originalBody_ne_correctionBody hinj)
  | correction hprior hc ih =>
      cases h' with
      | original hq =>
          exact absurd (hq.hash.1.symm.trans (hhash.symm.trans hc.hash))
            (originalBody_ne_correctionBody hinj)
      | correction hprior' hd =>
          obtain ⟨_, _, _, _, _, _, _, hpriors⟩ := hc.hash_eq hd hinj hhash
          exact sameBound_of_corrections hc hd hinj hhash (ih hprior' hpriors)

/-! ## What it leaves out -/

/-- An original shows the inputs its hash leaves out. -/
structure Publication.Shows (p : Publication) (r : UseOfFundsReceipt) : Prop where
  organizationName : p.unhashed.organizationName = r.organizationName
  restrictionType : p.unhashed.restrictionType.map (·.value) = some r.restrictionType
  vendor : p.unhashed.vendor = some r.vendor
  currency : p.unhashed.currency = some r.currency
  evidenceSummary : p.unhashed.evidenceSummary = r.evidenceSummary
  provenance : ∃ attributionId, p.unhashed.attributionId = some attributionId ∧
    r.provenanceFields = [("actor", .str p.unhashed.actor),
      ("policy_version", .str r.policyVersion), ("attribution_id", .str attributionId),
      ("approved_by", Json.ofOption r.approvedBy), ("receipt_hash", .str r.receiptHash),
      ("created_at", .str r.createdAt)]

theorem Publication.Yields.shows {p : Publication} {r : UseOfFundsReceipt} (h : p.Yields r) :
    p.Shows r := by
  obtain ⟨_, hreturns⟩ := h
  have hreceipt := publishUseOfFundsReceipt_receipt hreturns
  rw [publishedReceipt] at hreceipt
  split at hreceipt
  case h_2 => cases hreceipt
  case h_1 expense donation allocation attr hexp _ hall hattr =>
    cases Option.some.inj hreceipt
    exact {
      organizationName := rfl
      restrictionType := by rw [unhashed, hall]; rfl
      vendor := by rw [unhashed, hexp]; rfl
      currency := by rw [unhashed, hexp]; rfl
      evidenceSummary := rfl
      provenance := ⟨attr.id, by rw [unhashed, hattr]; rfl, rfl⟩ }

theorem originals_exported_iff {p q : Publication} {r r' : UseOfFundsReceipt} (h : p.Yields r)
    (h' : q.Yields r') (hinj : Function.Injective Digest.sha256)
    (hhash : r.receiptHash = r'.receiptHash) : SameExported r r' ↔ p.unhashed = q.unhashed := by
  have hbound := sameBound_of_originals h h' hinj hhash
  -- of an original the hash binds the balance, the policy version and the approver too
  have hfields := originalBody_inj hinj (h.hash.1.symm.trans (hhash.trans h'.hash.1))
  simp only [originalBody, List.cons.injEq, Prod.mk.injEq, Json.str.injEq, Json.ofOption_inj,
    true_and] at hfields
  obtain ⟨_, _, _, _, _, _, _, _, _, _, _, _, _, hremaining, _, _, hpolicy, happroved, _⟩ := hfields
  have hshows := h.shows
  have hshows' := h'.shows
  obtain ⟨attributionId, hattribution, hprovenance⟩ := hshows.provenance
  obtain ⟨attributionId', hattribution', hprovenance'⟩ := hshows'.provenance
  rw [hbound.exported_iff hhash]
  constructor
  · intro hsame
    have hfields := hsame.provenance
    rw [hprovenance, hprovenance'] at hfields
    simp only [List.cons.injEq, Prod.mk.injEq, Json.str.injEq, true_and] at hfields
    obtain ⟨hactor, _, hid, _⟩ := hfields
    have hrestriction := hshows.restrictionType.trans
      ((congrArg some hsame.restrictionType).trans hshows'.restrictionType.symm)
    refine Publication.Unhashed.ext ?_ ?_ ?_ ?_ ?_ hactor ?_
    · rw [hshows.organizationName, hshows'.organizationName, hsame.organizationName]
    · exact Option.map_injective (fun _ _ => RestrictionType.value_inj) hrestriction
    · rw [hshows.vendor, hshows'.vendor, hsame.vendor]
    · rw [hshows.currency, hshows'.currency, hsame.currency]
    · rw [hshows.evidenceSummary, hshows'.evidenceSummary, hsame.evidenceSummary]
    · rw [hattribution, hattribution', hid]
  · intro hunhashed
    have hrestriction := hshows.restrictionType
    have hvendor := hshows.vendor
    have hcurrency := hshows.currency
    rw [hunhashed] at hrestriction hvendor hcurrency hattribution hprovenance
    constructor
    case organizationName =>
      rw [← hshows.organizationName, hunhashed, hshows'.organizationName]
    case restrictionType => exact Option.some.inj (hrestriction.symm.trans hshows'.restrictionType)
    case vendor => exact Option.some.inj (hvendor.symm.trans hshows'.vendor)
    case currency => exact Option.some.inj (hcurrency.symm.trans hshows'.currency)
    case remainingDesignatedBalance => exact Decimal.toStr_inj hremaining
    case policyVersion => exact hpolicy
    case evidenceSummary => rw [← hshows.evidenceSummary, hunhashed, hshows'.evidenceSummary]
    case provenance =>
      rw [hprovenance, hprovenance', Option.some.inj (hattribution.symm.trans hattribution'),
        hpolicy, happroved, hhash, hbound.createdAt]

theorem Correction.Yields.provenance {c : Correction} {r : UseOfFundsReceipt} (h : c.Yields r) :
    r.provenanceFields = [("actor", .str c.actor),
      ("policy_version", .str c.ledger.organization.policyVersion),
      ("prior_receipt_hash", .str c.prior.receiptHash),
      ("replacement_expense_id", Json.ofOption c.replacementExpenseId),
      ("approved_by", Json.ofOption (orElse c.expense.approvedBy c.prior.approvedBy)),
      ("receipt_hash", .str r.receiptHash), ("created_at", .str r.createdAt)] := by
  rw [h.receipt]
  rfl

theorem corrections_exported_iff {c d : Correction} {r r' : UseOfFundsReceipt}
    (hprior : Published c.prior) (hprior' : Published d.prior) (h : c.Yields r) (h' : d.Yields r')
    (hinj : Function.Injective Digest.sha256) (hhash : r.receiptHash = r'.receiptHash) :
    SameExported r r' ↔ c.unhashed = d.unhashed := by
  obtain ⟨_, _, _, _, hreason, hreplacement, _, hpriors⟩ := h.hash_eq h' hinj hhash
  have hbound := Published.sameBound (.correction hprior h) (.correction hprior' h') hinj hhash
  rw [hbound.exported_iff hhash]
  have hr := h.receipt
  have hr' := h'.receipt
  constructor
  · intro hsame
    have hfields := hsame.provenance
    rw [h.provenance, h'.provenance] at hfields
    simp only [List.cons.injEq, Prod.mk.injEq, Json.str.injEq, Json.ofOption_inj, true_and]
      at hfields
    obtain ⟨hactor, hpolicy, _, _, happroved, _⟩ := hfields
    rw [hr, hr'] at hsame
    exact Correction.Unhashed.ext hsame.organizationName hsame.restrictionType hsame.vendor
      hsame.currency hsame.remainingDesignatedBalance hpolicy happroved hactor
  · intro hunhashed
    rw [Correction.unhashed, Correction.unhashed, Correction.Unhashed.mk.injEq] at hunhashed
    obtain ⟨hname, hrestriction, hvendor, hcurrency, hremaining, hpolicy, happroved, hactor⟩ :=
      hunhashed
    have hprovenance : r.provenanceFields = r'.provenanceFields := by
      rw [h.provenance, h'.provenance, hactor, hpolicy, hpriors, hreplacement, happroved, hhash,
        hbound.createdAt]
    rw [hr, hr'] at hprovenance ⊢
    exact ⟨hname, hrestriction, hvendor, hcurrency, hremaining, hpolicy, congrArg some hreason,
      hprovenance⟩

/-- Two originals with one hash, and two corrections with one hash, show the donor
the same exactly when the inputs the hash leaves out are the same. -/
theorem receipt_hash_binds_iff (hinj : Function.Injective Digest.sha256) :
    (∀ (p q : Publication) (r r' : UseOfFundsReceipt), p.Yields r → q.Yields r' →
      r.receiptHash = r'.receiptHash → (SameExported r r' ↔ p.unhashed = q.unhashed)) ∧
    ∀ (c d : Correction) (r r' : UseOfFundsReceipt), Published c.prior → Published d.prior →
      c.Yields r → d.Yields r' → r.receiptHash = r'.receiptHash →
        (SameExported r r' ↔ c.unhashed = d.unhashed) :=
  ⟨fun _ _ _ _ h h' hhash => originals_exported_iff h h' hinj hhash,
    fun _ _ _ _ hprior hprior' h h' hhash =>
      corrections_exported_iff hprior hprior' h h' hinj hhash⟩

end Hashes

section Sample

attribute [local instance] Digest.plain

/-- The receipt of the gift's share of the expense, published in a ledger. -/
def Sample.publication (call : Nat) (calls : List Call) : Publication where
  host := .numbered call
  ledger := run step (.new Sample.organization) calls
  expenseId := "expense"
  donationId := "gift"
  allocationId := "fund"
  actor := "system"
  createdAt := none

theorem publishableRun_bound : ∃ r r',
    (Sample.publication 8 Sample.publishableRun).Yields r ∧
    (Sample.publication 9 Sample.publishableRun).Yields r' ∧ SameExported r r' := by
  obtain ⟨r, l', h⟩ : Accepts (publishUseOfFundsReceipt (.numbered 8) "expense" "gift" "fund"
      "system" none) (run step (.new Sample.organization) Sample.publishableRun) :=
    publishUseOfFundsReceipt_accepts_iff.mpr (by decide)
  obtain ⟨r', l'', h'⟩ : Accepts (publishUseOfFundsReceipt (.numbered 9) "expense" "gift" "fund"
      "system" none) (run step (.new Sample.organization) Sample.publishableRun) :=
    publishUseOfFundsReceipt_accepts_iff.mpr (by decide)
  have hr : (Sample.publication 8 Sample.publishableRun).Yields r := ⟨l', h⟩
  have hr' : (Sample.publication 9 Sample.publishableRun).Yields r' := ⟨l'', h'⟩
  have hbody : Json.beqFields (Sample.publication 8 Sample.publishableRun).body
      (Sample.publication 9 Sample.publishableRun).body = true := by decide
  have hhash : r.receiptHash = r'.receiptHash := by
    rw [hr.hash_body, hr'.hash_body, (Json.beqFields_iff _ _).mp hbody]
  refine ⟨r, r', hr, hr', ?_⟩
  exact ((receipt_hash_binds_iff fun _ _ h => h).1 _ _ r r' hr hr' hhash).mpr (by decide)

/-- The expense, bought elsewhere. -/
def Sample.otherVendorRun : List Call := script (Sample.gift ++ [
  .importExpense { Sample.expense "expense" 5000 with vendor := "Other" },
  .allocateExpense "expense" "fund" (.finite 50 0) none,
  .attributeDonorToExpense "donor" "gift" "expense" "fund" .directRestricted none none,
  .approveExpense "expense" "human:finance"])

theorem vendor_not_bound : ¬ (Function.Injective Digest.sha256 →
    ∀ (p q : Publication) (r r' : UseOfFundsReceipt), p.Yields r → q.Yields r' →
      r.receiptHash = r'.receiptHash → SameExported r r') := by
  intro hclaim
  obtain ⟨r, l', h⟩ : Accepts (publishUseOfFundsReceipt (.numbered 8) "expense" "gift" "fund"
      "system" none) (run step (.new Sample.organization) Sample.publishableRun) :=
    publishUseOfFundsReceipt_accepts_iff.mpr (by decide)
  obtain ⟨r', l'', h'⟩ : Accepts (publishUseOfFundsReceipt (.numbered 8) "expense" "gift" "fund"
      "system" none) (run step (.new Sample.organization) Sample.otherVendorRun) :=
    publishUseOfFundsReceipt_accepts_iff.mpr (by decide)
  have hr : (Sample.publication 8 Sample.publishableRun).Yields r := ⟨l', h⟩
  have hr' : (Sample.publication 8 Sample.otherVendorRun).Yields r' := ⟨l'', h'⟩
  have hbody : Json.beqFields (Sample.publication 8 Sample.publishableRun).body
      (Sample.publication 8 Sample.otherVendorRun).body = true := by decide
  have hhash : r.receiptHash = r'.receiptHash := by
    rw [hr.hash_body, hr'.hash_body, (Json.beqFields_iff _ _).mp hbody]
  have hsame := hclaim (fun _ _ h => h) _ _ r r' hr hr' hhash
  exact absurd ((originals_exported_iff hr hr' (fun _ _ h => h) hhash).mp hsame) (by decide)

end Sample

end Ledger

end ImpactRelay
