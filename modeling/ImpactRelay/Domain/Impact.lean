/-
# `Domain.Impact` — programs, funded assets, impact events, impact receipts

`ImpactService` of `domain/impact.py`, method by method.  The service writes the four
impact stores of the workspace and reads its ledger, which the methods take as an
argument.  Each store files its records under the record's own id, as every method of
the service does.

The publication is a loop over the attributions that passes over a donor and fund it
has met.  `publishEach_eq` takes the passing over out of it: it is the loop over the
first eligible attribution of each donor and fund (`targets`), and of that loop
`publishTargets_cases` says how far it gets.
-/
import ImpactRelay.Domain.Postings
import ImpactRelay.Lib.Table
import ImpactRelay.Lib.Firsts
import Mathlib

namespace ImpactRelay

open Raise

/-! ## Records -/

structure Program where
  id : Id
  organizationId : Id
  name : String
  active : Bool := true
deriving DecidableEq, Repr

inductive AssetLifecycle where
  | procured | deployed | retired
deriving DecidableEq, Repr

structure FundedAsset where
  id : Id
  organizationId : Id
  name : String
  expenseId : Id
  allocationId : Id
  lifecycle : AssetLifecycle := .procured
deriving DecidableEq, Repr

inductive ImpactEventState where
  | draft | submitted | verified | rejected
deriving DecidableEq, Repr

def ImpactEventState.value : ImpactEventState → String
  | .draft => "DRAFT"
  | .submitted => "SUBMITTED"
  | .verified => "VERIFIED"
  | .rejected => "REJECTED"

structure ImpactEvent where
  id : Id
  organizationId : Id
  programId : Id
  eventType : String
  eventDate : String
  participants : Int
  state : ImpactEventState
  fundedAssetIds : List Id := []
  expenseIds : List Id := []
  description : String := ""
  verifiedBy : Option String := none
  verifiedAt : Option String := none
deriving DecidableEq, Repr

/-- Donor-visible impact receipt. -/
structure ImpactReceipt where
  receiptId : Id
  type : String
  organizationId : Id
  organizationName : String
  donorId : Id
  donationId : Id
  allocationId : Id
  allocationName : String
  impactEventId : Id
  programId : Id
  programName : String
  eventType : String
  eventDate : String
  participants : Int
  evidenceState : String
  linkedExpenseIds : List Id
  attributionMethod : String
  policyVersion : String
  receiptHash : String
  createdAt : String
  description : String := ""
  provenance : List (String × Json) := []
deriving DecidableEq

def ImpactReceipt.toDict (r : ImpactReceipt) : Json :=
  .obj [
    ("receipt_id", .str r.receiptId),
    ("type", .str r.type),
    ("organization", .obj [
      ("id", .str r.organizationId),
      ("name", .str r.organizationName)]),
    ("donor_id", .str r.donorId),
    ("donation_id", .str r.donationId),
    ("allocation", .obj [
      ("id", .str r.allocationId),
      ("name", .str r.allocationName)]),
    ("impact", .obj [
      ("event_id", .str r.impactEventId),
      ("program_id", .str r.programId),
      ("program_name", .str r.programName),
      ("event_type", .str r.eventType),
      ("event_date", .str r.eventDate),
      ("participants", .num r.participants),
      ("evidence_state", .str r.evidenceState),
      ("description", .str r.description),
      ("linked_expense_ids", .arr (r.linkedExpenseIds.map .str))]),
    ("attribution", .obj [
      ("method", .str r.attributionMethod),
      ("policy_version", .str r.policyVersion)]),
    ("provenance", .obj (Json.merge r.provenance [
      ("receipt_hash", .str r.receiptHash),
      ("created_at", .str r.createdAt)]))]

/-- A donor and a fund: with the event, what an impact receipt is for. -/
def DonorExpenseAttribution.recipient (attr : DonorExpenseAttribution) : Id × Id :=
  (attr.donorId, attr.allocationId)

def ImpactReceipt.recipient (r : ImpactReceipt) : Id × Id := (r.donorId, r.allocationId)

/-- The impact stores of a tenant. -/
structure ImpactStores where
  programs : Table Program.id := .empty
  assets : Table FundedAsset.id := .empty
  impactEvents : Table ImpactEvent.id := .empty
  impactReceipts : Table ImpactReceipt.receiptId := .empty

abbrev ImpactM := EStateM PyExc ImpactStores

/-- A call of a method of the impact service with its arguments. -/
inductive ImpactOp where
  | registerProgram (program : Program)
  | registerFundedAsset (asset : FundedAsset)
  | deployAsset (assetId : Id)
  | submitImpactEvent (event : ImpactEvent)
  | verifyImpactEvent (eventId : Id) (verifiedBy : String)
  | publishImpactReceipts (eventId : Id) (actor : String) (createdAt : Option String)

/-! ## The service -/

namespace ImpactService

variable (l : Ledger)

def registerProgram (program : Program) : ImpactM Program := do
  raiseIf (program.organizationId ≠ l.organization.id)
    (stateError "program organization_id mismatch")
  modify fun s => { s with programs := s.programs.put program }
  return program

def registerFundedAsset (asset : FundedAsset) : ImpactM FundedAsset := do
  raiseIf (asset.organizationId ≠ l.organization.id)
    (stateError "asset organization_id mismatch")
  let exp ← orRaise (notFoundError s!"expense not found: {asset.expenseId}")
    (l.expenses.get? asset.expenseId)
  raiseIf (exp.state ∉ verifiedExpenseStates)
    (stateError "funded asset requires APPROVED or RECONCILED expense")
  raiseIf (asset.allocationId ∉ l.allocations)
    (notFoundError s!"allocation not found: {asset.allocationId}")
  modify fun s => { s with assets := s.assets.put asset }
  return asset

def deployAsset (assetId : Id) : ImpactM FundedAsset := do
  let s ← get
  let asset ← orRaise (notFoundError s!"asset not found: {assetId}") (s.assets.find? assetId)
  let updated := { asset with lifecycle := .deployed }
  modify fun s => { s with assets := s.assets.put updated }
  return updated

/-- The first of the ids that is not there, in the text of the refusal. -/
def firstMissing (what : String) (known : Id → Bool) (ids : List Id) : Option PyExc :=
  (ids.find? fun id => !known id).map fun id => notFoundError s!"{what} not found: {id}"

def submitImpactEvent (event : ImpactEvent) : ImpactM ImpactEvent := do
  raiseIf (event.organizationId ≠ l.organization.id)
    (stateError "impact event organization_id mismatch")
  let s ← get
  raiseIf ((s.programs.find? event.programId).isNone)
    (notFoundError s!"program not found: {event.programId}")
  raiseIf (event.state ∉ [ImpactEventState.draft, .submitted])
    (stateError "submit only accepts DRAFT or SUBMITTED")
  raiseOn (firstMissing "funded asset" (fun aid => (s.assets.find? aid).isSome)
    event.fundedAssetIds) id
  raiseOn (firstMissing "expense" (fun eid => (l.expenses.get? eid).isSome) event.expenseIds) id
  let submitted := { event with state := .submitted }
  modify fun s => { s with impactEvents := s.impactEvents.put submitted }
  return submitted

def verifyImpactEvent (host : Host) (eventId : Id) (verifiedBy : String) :
    ImpactM ImpactEvent := do
  let s ← get
  let event ← orRaise (notFoundError s!"impact event not found: {eventId}")
    (s.impactEvents.find? eventId)
  raiseIf (event.state ∉ [ImpactEventState.submitted, .draft])
    (stateError s!"cannot verify impact event in state {event.state.value}")
  raiseIf (verifiedBy = "") (stateError "verified_by is required")
  let verified := { event with
    state := .verified
    verifiedBy := some verifiedBy
    verifiedAt := some (host.nowIso "verified" 0) }
  modify fun s => { s with impactEvents := s.impactEvents.put verified }
  return verified

/-! ## The publication -/

/-- What a publication is about: the event, its program and the expenses it links. -/
structure Publication where
  event : ImpactEvent
  program : Program
  expenseIds : List Id

/-- The expenses of the event's funded assets. -/
def assetExpenses (s : ImpactStores) : List Id → Except PyExc (List Id)
  | [] => .ok []
  | aid :: aids =>
      match s.assets.find? aid with
      | none => .error (keyError aid)
      | some asset => (assetExpenses s aids).map (asset.expenseId :: ·)

/-- The checks before the loop. -/
def publicationOf (s : ImpactStores) (eventId : Id) : Except PyExc Publication :=
  match s.impactEvents.find? eventId with
  | none => .error (notFoundError s!"impact event not found: {eventId}")
  | some event =>
      if event.state ≠ .verified then
        .error (stateError
          s!"IMPACT receipt requires VERIFIED impact event; got {event.state.value}")
      else
        match s.programs.find? event.programId with
        | none => .error (keyError event.programId)
        | some program =>
            match assetExpenses s event.fundedAssetIds with
            | .error e => .error e
            | .ok ids =>
                if event.expenseIds ++ ids = [] then
                  .error (stateError "impact event has no linked expenses or funded assets")
                else .ok { event, program, expenseIds := event.expenseIds ++ ids }

/-- `_find_live_impact`. -/
def findLiveImpact (s : ImpactStores) (donorId eventId allocationId : Id) : Option ImpactReceipt :=
  s.impactReceipts.rows.find? fun ir =>
    ir.donorId = donorId && ir.impactEventId = eventId && ir.allocationId = allocationId

/-- `tuple(sorted(expense_ids))` of the set of ids. -/
def sortedIds (ids : List Id) : List Id := ids.dedup.insertionSort (· ≤ ·)

def impactReceipt [Digest] (receiptId : Id) (p : Publication) (actor created : String)
    (attr : DonorExpenseAttribution) (alloc : Allocation) : ImpactReceipt where
  receiptId := receiptId
  type := "IMPACT"
  organizationId := l.organization.id
  organizationName := l.organization.name
  donorId := attr.donorId
  donationId := attr.donationId
  allocationId := attr.allocationId
  allocationName := alloc.name
  impactEventId := p.event.id
  programId := p.program.id
  programName := p.program.name
  eventType := p.event.eventType
  eventDate := p.event.eventDate
  participants := p.event.participants
  evidenceState := p.event.state.value
  linkedExpenseIds := sortedIds p.expenseIds
  attributionMethod := attr.method.value
  policyVersion := l.organization.policyVersion
  receiptHash := stableHash (.obj [
    ("type", .str "IMPACT"),
    ("organization_id", .str l.organization.id),
    ("donor_id", .str attr.donorId),
    ("donation_id", .str attr.donationId),
    ("allocation_id", .str attr.allocationId),
    ("impact_event_id", .str p.event.id),
    ("program_id", .str p.program.id),
    ("event_type", .str p.event.eventType),
    ("event_date", .str p.event.eventDate),
    ("participants", .num p.event.participants),
    ("created_at", .str created)])
  createdAt := created
  description := p.event.description
  provenance := [
    ("actor", .str actor),
    ("policy_version", .str l.organization.policyVersion)]

section Loop

variable [Digest] (host : Host)

/-- The receipt for one attribution, unless the donor has one for the event and the fund;
the draws of the loop are numbered. -/
def publishOne (p : Publication) (actor created : String) (n : Nat)
    (attr : DonorExpenseAttribution) : ImpactM ImpactReceipt := do
  let alloc ← orRaise (keyError attr.allocationId) (l.allocations.get? attr.allocationId)
  let s ← get
  raiseOn (findLiveImpact s attr.donorId p.event.id attr.allocationId) fun existing =>
    stateError s!"IMPACT receipt already published for donor/event/allocation (receipt_id={existing.receiptId})"
  let ir := impactReceipt l (host.newId "imp" n) p actor created attr alloc
  modify fun s => { s with impactReceipts := s.impactReceipts.put ir }
  return ir

/-- The loop over the attributions; `seen` holds the donors and funds met, for the one
event of the loop. -/
def publishEach (p : Publication) (actor created : String) :
    List (Id × Id) → List DonorExpenseAttribution → ImpactM (List ImpactReceipt)
  | _, [] => return []
  | seen, attr :: attrs =>
      if attr.expenseId ∉ p.expenseIds then publishEach p actor created seen attrs
      else if l.expenseIn verifiedExpenseStates attr.expenseId = false then
        publishEach p actor created seen attrs
      else if attr.recipient ∈ seen then publishEach p actor created seen attrs
      else do
        let ir ← publishOne l host p actor created seen.length attr
        let receipts ← publishEach p actor created (attr.recipient :: seen) attrs
        return ir :: receipts

/-- Publish impact receipts for donors attributed to linked verified expenses. -/
def publishImpactReceipts (eventId : Id) (actor : String) (createdAt : Option String) :
    ImpactM (List ImpactReceipt) := do
  let s ← get
  let p ← okOrRaise (publicationOf s eventId)
  publishEach l host p actor (truthyOr createdAt (host.nowIso "imp" 0)) []
    l.attributions.values

/-- Run one call of the service; what it returns is dropped. -/
def exec : ImpactOp → ImpactM Unit
  | .registerProgram program => (fun _ => ()) <$> registerProgram l program
  | .registerFundedAsset asset => (fun _ => ()) <$> registerFundedAsset l asset
  | .deployAsset assetId => (fun _ => ()) <$> deployAsset assetId
  | .submitImpactEvent event => (fun _ => ()) <$> submitImpactEvent l event
  | .verifyImpactEvent eventId verifiedBy =>
      (fun _ => ()) <$> verifyImpactEvent host eventId verifiedBy
  | .publishImpactReceipts eventId actor createdAt =>
      (fun _ => ()) <$> publishImpactReceipts l host eventId actor createdAt

end Loop

/-! ### Whom the loop serves -/

/-- The attribution counts for the event: its expense is linked, and verified. -/
def eligible (p : Publication) (attr : DonorExpenseAttribution) : Bool :=
  decide (attr.expenseId ∈ p.expenseIds) && l.expenseIn verifiedExpenseStates attr.expenseId

/-- The first eligible attribution of each donor and fund. -/
def targets (p : Publication) : List DonorExpenseAttribution :=
  firsts (·.recipient) (l.attributions.values.filter (eligible l p))

/-- An attribution that can be served: its fund is there, and its donor has no receipt for
the event and the fund. -/
def Servable (s : ImpactStores) (p : Publication) (attr : DonorExpenseAttribution) : Prop :=
  attr.allocationId ∈ l.allocations ∧
    findLiveImpact s attr.donorId p.event.id attr.allocationId = none

instance (s : ImpactStores) (p : Publication) (attr : DonorExpenseAttribution) :
    Decidable (Servable l s p attr) :=
  decidable_of_iff (attr.allocationId ∈ l.allocations ∧
    (findLiveImpact s attr.donorId p.event.id attr.allocationId).isNone = true)
    (and_congr_right fun _ => Option.isNone_iff_eq_none)

/-- What every receipt of a publication says, whomever it is for. -/
structure Tells (p : Publication) (r : ImpactReceipt) : Prop where
  impactEventId : r.impactEventId = p.event.id
  programId : r.programId = p.program.id
  eventType : r.eventType = p.event.eventType
  eventDate : r.eventDate = p.event.eventDate
  participants : r.participants = p.event.participants
  linkedExpenseIds : r.linkedExpenseIds = sortedIds p.expenseIds

/-- Receipts for these attributions, one each, that can be filed. -/
structure Issued (s : ImpactStores) (p : Publication) (attrs : List DonorExpenseAttribution)
    (rs : List ImpactReceipt) : Prop where
  recipients : rs.map (·.recipient) = attrs.map (·.recipient)
  tells : ∀ r ∈ rs, Tells p r
  fresh : ∀ r ∈ rs, s.impactReceipts.find? r.receiptId = none
  distinct : (rs.map (·.receiptId)).Nodup

/-- The stores with the receipts filed. -/
def withReceipts (s : ImpactStores) (rs : List ImpactReceipt) : ImpactStores :=
  { s with impactReceipts := s.impactReceipts.putAll rs }

theorem nodup_targets (p : Publication) : ((targets l p).map (·.recipient)).Nodup :=
  nodup_firstsFrom

theorem length_targets_le (p : Publication) :
    (targets l p).length ≤ l.attributions.values.length :=
  (firstsFrom_sublist.trans List.filter_sublist).length_le

variable {l} {host : Host} {s : ImpactStores} {p : Publication} {actor created : String}
  {attr : DonorExpenseAttribution} {attrs : List DonorExpenseAttribution} {ir : ImpactReceipt}
  {rs : List ImpactReceipt} {n : Nat}

theorem Issued.rows (h : Issued s p attrs rs) :
    (withReceipts s rs).impactReceipts.rows = s.impactReceipts.rows ++ rs :=
  Table.rows_putAll h.distinct h.fresh

/-- A receipt with a new id in front of others that can be filed after it. -/
theorem Issued.cons (hrecipient : ir.recipient = attr.recipient) (htells : Tells p ir)
    (hfresh : s.impactReceipts.find? ir.receiptId = none)
    (h : Issued (withReceipts s [ir]) p attrs rs) : Issued s p (attr :: attrs) (ir :: rs) := by
  have hafter : ∀ r ∈ rs, r.receiptId ≠ ir.receiptId ∧
      s.impactReceipts.find? r.receiptId = none := by
    intro r hr
    have hnone : (s.impactReceipts.put ir).find? r.receiptId = none := h.fresh r hr
    rw [Table.find?_put] at hnone
    split at hnone
    · exact nomatch hnone
    · rename_i hne
      exact ⟨hne, hnone⟩
  constructor
  · rw [List.map_cons, List.map_cons, hrecipient, h.recipients]
  · exact List.forall_mem_cons.mpr ⟨htells, h.tells⟩
  · exact List.forall_mem_cons.mpr ⟨hfresh, fun r hr => (hafter r hr).2⟩
  · refine List.nodup_cons.mpr ⟨fun hmem => ?_, h.distinct⟩
    obtain ⟨r, hr, heq⟩ := List.mem_map.mp hmem
    exact (hafter r hr).1 heq

theorem findLiveImpact_eq_none {donorId eventId allocationId : Id} :
    findLiveImpact s donorId eventId allocationId = none ↔
      ∀ r ∈ s.impactReceipts.rows, r.impactEventId = eventId →
        r.recipient ≠ (donorId, allocationId) := by
  rw [findLiveImpact, List.find?_eq_none]
  refine forall₂_congr fun r _ => ?_
  simp only [Bool.and_eq_true, decide_eq_true_eq, ImpactReceipt.recipient, ne_eq, Prod.mk.injEq]
  tauto

/-- The event links the expense, directly or through a funded asset. -/
def Links (s : ImpactStores) (event : ImpactEvent) (expenseId : Id) : Prop :=
  expenseId ∈ event.expenseIds ∨
    ∃ aid ∈ event.fundedAssetIds, ∃ asset, s.assets.find? aid = some asset ∧
      asset.expenseId = expenseId

theorem mem_assetExpenses {aids ids : List Id} (h : assetExpenses s aids = .ok ids) {e : Id} :
    e ∈ ids ↔ ∃ aid ∈ aids, ∃ asset, s.assets.find? aid = some asset ∧ asset.expenseId = e := by
  induction aids generalizing ids with
  | nil =>
      obtain rfl := Except.ok.inj h
      simp
  | cons aid aids ih =>
      rw [assetExpenses] at h
      split at h
      · exact nomatch h
      · rename_i asset hasset
        cases hrest : assetExpenses s aids with
        | error exc =>
            rw [hrest] at h
            exact nomatch h
        | ok rest =>
            rw [hrest] at h
            obtain rfl := Except.ok.inj h
            rw [List.mem_cons, ih hrest]
            simp [hasset, eq_comm]

/-- What a publication found: a VERIFIED event, its program, and the expenses it links. -/
theorem publicationOf_ok {eventId : Id} (h : publicationOf s eventId = .ok p) :
    s.impactEvents.find? eventId = some p.event ∧ p.event.state = .verified ∧
      s.programs.find? p.event.programId = some p.program ∧
      ∀ e, e ∈ p.expenseIds ↔ Links s p.event e := by
  rw [publicationOf] at h
  split at h
  · exact nomatch h
  rename_i event hevent
  split at h
  · exact nomatch h
  rename_i hstate
  split at h
  · exact nomatch h
  rename_i program hprogram
  split at h
  · exact nomatch h
  rename_i ids hids
  split at h
  · exact nomatch h
  obtain rfl := Except.ok.inj h
  refine ⟨hevent, not_not.mp hstate, hprogram, fun e => ?_⟩
  rw [List.mem_append, mem_assetExpenses hids]
  rfl

theorem mem_sortedIds {ids : List Id} {e : Id} : e ∈ sortedIds ids ↔ e ∈ ids := by
  rw [sortedIds, List.mem_insertionSort, List.mem_dedup]

/-- A receipt for one donor and fund is in the way of no other. -/
theorem servable_withReceipts_iff (hne : ir.recipient ≠ attr.recipient)
    (hfresh : s.impactReceipts.find? ir.receiptId = none) :
    Servable l (withReceipts s [ir]) p attr ↔ Servable l s p attr := by
  have hrows : (withReceipts s [ir]).impactReceipts.rows = s.impactReceipts.rows ++ [ir] :=
    Table.rows_putAll (List.nodup_singleton _) (List.forall_mem_singleton.mpr hfresh)
  rw [Servable, Servable, findLiveImpact_eq_none, findLiveImpact_eq_none, hrows]
  simp only [List.forall_mem_append, List.forall_mem_singleton]
  exact and_congr_right fun _ => and_iff_left fun _ => hne

section Served

variable [Digest]

theorem publishOne_servable (host : Host) (actor created : String) (n : Nat)
    (h : Servable l s p attr) :
    ∃ ir, Returns (publishOne l host p actor created n attr) s ir (withReceipts s [ir]) ∧
      ir.recipient = attr.recipient ∧ Tells p ir ∧ ir.receiptId = host.newId "imp" n := by
  obtain ⟨alloc, halloc⟩ := Dict.mem_iff_get?.mp h.1
  refine ⟨impactReceipt l (host.newId "imp" n) p actor created attr alloc, ?_, rfl,
    ⟨rfl, rfl, rfl, rfl, rfl, rfl⟩, rfl⟩
  rw [publishOne, returns_orRaise_bind]
  refine ⟨alloc, halloc, ?_⟩
  rw [returns_get_bind, returns_raiseOn_bind]
  exact ⟨h.2, rfl⟩

theorem publishOne_not_servable (host : Host) (actor created : String) (n : Nat)
    (h : ¬ Servable l s p attr) :
    ∃ e, Raises (publishOne l host p actor created n attr) s e s := by
  rw [publishOne]
  cases halloc : l.allocations.get? attr.allocationId with
  | none => exact ⟨_, raises_orRaise_bind.mpr (Or.inl ⟨rfl, rfl, rfl⟩)⟩
  | some alloc =>
      have hmem : attr.allocationId ∈ l.allocations := Dict.mem_iff_get?.mpr ⟨alloc, halloc⟩
      obtain ⟨existing, hexisting⟩ := Option.ne_none_iff_exists'.mp fun hnone => h ⟨hmem, hnone⟩
      refine ⟨stateError s!"IMPACT receipt already published for donor/event/allocation (receipt_id={existing.receiptId})", ?_⟩
      rw [raises_orRaise_bind]
      refine Or.inr ⟨alloc, rfl, ?_⟩
      rw [raises_get_bind]
      exact Raises.bind (raises_raiseOn.mpr ⟨existing, hexisting, rfl, rfl⟩)

/-- The loop with nothing to pass over. -/
def publishTargets (l : Ledger) (host : Host) (p : Publication) (actor created : String) :
    Nat → List DonorExpenseAttribution → ImpactM (List ImpactReceipt)
  | _, [] => return []
  | n, attr :: attrs => do
      let ir ← publishOne l host p actor created n attr
      let receipts ← publishTargets l host p actor created (n + 1) attrs
      return ir :: receipts

theorem publishEach_eq (attrs : List DonorExpenseAttribution) (seen : List (Id × Id)) :
    publishEach l host p actor created seen attrs =
      publishTargets l host p actor created seen.length
        (firstsFrom (·.recipient) seen (attrs.filter (eligible l p))) := by
  induction attrs generalizing seen with
  | nil => rfl
  | cons attr attrs ih =>
      rw [publishEach]
      by_cases hlinked : attr.expenseId ∈ p.expenseIds
      swap
      · have hnot : eligible l p attr = false := by simp [eligible, hlinked]
        rw [if_pos hlinked, ih, List.filter_cons_of_neg (by simp [hnot])]
      by_cases hverified : l.expenseIn verifiedExpenseStates attr.expenseId = true
      swap
      · have hnot : eligible l p attr = false := by simp [eligible, hverified]
        rw [if_neg (not_not.mpr hlinked), if_pos (by simpa using hverified), ih,
          List.filter_cons_of_neg (by simp [hnot])]
      have heligible : eligible l p attr = true := by simp [eligible, hlinked, hverified]
      rw [if_neg (not_not.mpr hlinked), if_neg (by simp [hverified]),
        List.filter_cons_of_pos heligible, firstsFrom]
      by_cases hseen : attr.recipient ∈ seen
      · rw [if_pos hseen, if_pos hseen, ih]
      · rw [if_neg hseen, if_neg hseen, publishTargets]
        simp only [ih, List.length_cons]

/-- The loop serves one attribution after the other up to the first that cannot be served;
the receipts filed by then stay filed. -/
theorem publishTargets_cases (actor created : String) (n : Nat) (s : ImpactStores)
    (hdistinct : (attrs.map (·.recipient)).Nodup)
    (hfresh : ∀ i, n ≤ i → i < n + attrs.length →
      s.impactReceipts.find? (host.newId "imp" i) = none)
    (hdraws : ∀ i j, i < j → j < n + attrs.length → host.newId "imp" i ≠ host.newId "imp" j) :
    (∃ rs, (∀ attr ∈ attrs, Servable l s p attr) ∧ Issued s p attrs rs ∧
      Returns (publishTargets l host p actor created n attrs) s rs (withReceipts s rs)) ∨
    (∃ before attr rest rs e, attrs = before ++ attr :: rest ∧
      (∀ attr ∈ before, Servable l s p attr) ∧ ¬ Servable l s p attr ∧ Issued s p before rs ∧
      Raises (publishTargets l host p actor created n attrs) s e (withReceipts s rs)) := by
  induction attrs generalizing n s with
  | nil =>
      exact Or.inl ⟨[], nofun, ⟨rfl, nofun, nofun, List.nodup_nil⟩, returns_pure.mpr ⟨rfl, rfl⟩⟩
  | cons attr attrs ih =>
      obtain ⟨hnew, hrest⟩ := List.nodup_cons.mp hdistinct
      rw [publishTargets]
      by_cases hservable : Servable l s p attr
      swap
      · obtain ⟨e, hraises⟩ := publishOne_not_servable host actor created n hservable
        exact Or.inr ⟨[], attr, attrs, [], e, rfl, nofun, hservable,
          ⟨rfl, nofun, nofun, List.nodup_nil⟩, hraises.bind⟩
      obtain ⟨ir, hone, hrecipient, htells, hid⟩ :=
        publishOne_servable host actor created n hservable
      have hstored : s.impactReceipts.find? ir.receiptId = none := by
        rw [hid]
        exact hfresh n (Nat.le_refl n) (by simp)
      -- the others can be served after it exactly when they could before
      have hothers : ∀ other ∈ attrs,
          Servable l (withReceipts s [ir]) p other ↔ Servable l s p other := by
        intro other hother
        refine servable_withReceipts_iff (fun heq => hnew ?_) hstored
        exact List.mem_map.mpr ⟨other, hother, heq.symm.trans hrecipient⟩
      have hlater : ∀ i, n + 1 ≤ i → i < n + 1 + attrs.length →
          (withReceipts s [ir]).impactReceipts.find? (host.newId "imp" i) = none := by
        intro i hi hlast
        rw [List.length_cons] at hfresh hdraws
        have hne : host.newId "imp" i ≠ ir.receiptId := by
          rw [hid]
          exact (hdraws n i (by omega) (by omega)).symm
        exact (Table.find?_put_ne hne).trans (hfresh i (by omega) (by omega))
      have hdraws' : ∀ i j, i < j → j < n + 1 + attrs.length →
          host.newId "imp" i ≠ host.newId "imp" j := by
        intro i j hij hj
        rw [List.length_cons] at hdraws
        exact hdraws i j hij (by omega)
      rcases ih (n + 1) (withReceipts s [ir]) hrest hlater hdraws' with ⟨rs, hall, hissued, hreturns⟩ |
        ⟨before, blocked, rest, rs, e, rfl, hall, hblocked, hissued, hraises⟩
      · refine Or.inl ⟨ir :: rs, List.forall_mem_cons.mpr ⟨hservable, fun a ha =>
          (hothers a ha).mp (hall a ha)⟩, hissued.cons hrecipient htells hstored, ?_⟩
        exact hone.bind.trans (hreturns.bind.trans rfl)
      · have hmem : ∀ a ∈ before, a ∈ before ++ blocked :: rest := fun a ha =>
          List.mem_append_left _ ha
        refine Or.inr ⟨attr :: before, blocked, rest, ir :: rs, e, rfl,
          List.forall_mem_cons.mpr ⟨hservable, fun a ha =>
            (hothers a (hmem a ha)).mp (hall a ha)⟩,
          fun h => hblocked ((hothers blocked (by simp)).mpr h),
          hissued.cons hrecipient htells hstored, ?_⟩
        exact hone.bind.trans hraises.bind

/-- The draws of a publication are new. -/
def FreshReceipts (host : Host) (l : Ledger) (s : ImpactStores) : Prop :=
  Ledger.FreshDraws host "imp" l.attributions.values.length s.impactReceipts.dict

instance (host : Host) (l : Ledger) (s : ImpactStores) : Decidable (FreshReceipts host l s) :=
  inferInstanceAs (Decidable (Ledger.FreshDraws _ _ _ _))

/-- How a publication ends: refused before the loop, after all its targets, or at one that
cannot be served. -/
theorem publishImpactReceipts_cases {eventId : Id} {createdAt : Option String}
    (hfresh : FreshReceipts host l s) :
    (∃ e, publicationOf s eventId = .error e ∧
      Raises (publishImpactReceipts l host eventId actor createdAt) s e s) ∨
    (∃ p rs, publicationOf s eventId = .ok p ∧ (∀ attr ∈ targets l p, Servable l s p attr) ∧
      Issued s p (targets l p) rs ∧
      Returns (publishImpactReceipts l host eventId actor createdAt) s rs (withReceipts s rs)) ∨
    (∃ p before attr rest rs e, publicationOf s eventId = .ok p ∧
      targets l p = before ++ attr :: rest ∧ (∀ attr ∈ before, Servable l s p attr) ∧
      ¬ Servable l s p attr ∧ Issued s p before rs ∧
      Raises (publishImpactReceipts l host eventId actor createdAt) s e (withReceipts s rs)) := by
  rw [publishImpactReceipts]
  cases hp : publicationOf s eventId with
  | error e =>
      refine Or.inl ⟨e, rfl, ?_⟩
      rw [raises_get_bind, hp]
      exact Raises.bind (raises_okOrRaise.mpr ⟨rfl, rfl⟩)
  | ok p =>
      have hlength := length_targets_le l p
      have hloop := publishTargets_cases (l := l) (p := p) actor
        (truthyOr createdAt (host.nowIso "imp" 0)) 0 s (nodup_targets l p)
        (fun i _ hi => Dict.get?_eq_none.mpr (hfresh.1 i (by omega)))
        (fun i j hij hj => hfresh.2 j (by omega) i hij)
      have heq : publishEach l host p actor (truthyOr createdAt (host.nowIso "imp" 0)) []
          l.attributions.values = publishTargets l host p actor
            (truthyOr createdAt (host.nowIso "imp" 0)) 0 (targets l p) :=
        publishEach_eq _ _
      rw [← heq] at hloop
      rcases hloop with ⟨rs, hall, hissued, hreturns⟩ |
        ⟨before, attr, rest, rs, e, htargets, hall, hblocked, hissued, hraises⟩
      · refine Or.inr (Or.inl ⟨p, rs, rfl, hall, hissued, ?_⟩)
        rw [returns_get_bind, hp]
        exact hreturns
      · refine Or.inr (Or.inr ⟨p, before, attr, rest, rs, e, rfl, htargets, hall, hblocked,
          hissued, ?_⟩)
        rw [raises_get_bind, hp]
        exact hraises

end Served

end ImpactService

end ImpactRelay
