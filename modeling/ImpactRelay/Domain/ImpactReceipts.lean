/-
# `Domain.ImpactReceipts` — which impact receipts a publication leaves

A publication serves one target after the other and stops at the first that cannot be
served.  What it leaves is known from that alone (`publishImpactReceipts_after`), and with
it

  * when a publication that raises has filed nothing (`publication_all_or_nothing_iff`);
  * when the expenses its receipts cite are verified and the donor's own
    (`cited_spending_verified_iff`);
  * over whole runs, that receipts go to the right donors, once
    (`impact_receipts_sound_once_complete`), and when a verified event stays what its
    receipts say of it (`verified_impact_immutable_iff`).
-/
import ImpactRelay.Domain.Impact
import Mathlib

namespace ImpactRelay

open Raise

namespace ImpactService

section Publication

variable {l : Ledger} {s : ImpactStores} {p : Publication} {host : Host} {eventId : Id}
  {actor : String} {createdAt : Option String} {rs : List ImpactReceipt}

/-- The targets up to the first that cannot be served. -/
def served (l : Ledger) (s : ImpactStores) (p : Publication) : List DonorExpenseAttribution :=
  (targets l p).takeWhile fun attr => decide (Servable l s p attr)

theorem mem_served {attr : DonorExpenseAttribution} (h : attr ∈ served l s p) :
    attr ∈ targets l p ∧ Servable l s p attr := by
  have hservable := List.mem_takeWhile_imp (p := fun attr => decide (Servable l s p attr)) h
  exact ⟨List.takeWhile_subset _ h, of_decide_eq_true hservable⟩

theorem served_eq_targets (h : ∀ attr ∈ targets l p, Servable l s p attr) :
    served l s p = targets l p :=
  List.takeWhile_eq_self_iff.mpr fun attr hattr => decide_eq_true (h attr hattr)

theorem served_eq_of_split {before rest : List DonorExpenseAttribution}
    {attr : DonorExpenseAttribution} (htargets : targets l p = before ++ attr :: rest)
    (hall : ∀ attr ∈ before, Servable l s p attr) (hblocked : ¬ Servable l s p attr) :
    served l s p = before := by
  rw [served, htargets, List.takeWhile_append_of_pos fun a ha => decide_eq_true (hall a ha),
    List.takeWhile_cons_of_neg (by simpa using hblocked), List.append_nil]

/-! ## Receipts filed -/

theorem Issued.ne_nil {attr : DonorExpenseAttribution} {attrs : List DonorExpenseAttribution}
    (h : Issued s p (attr :: attrs) rs) : rs ≠ [] := by
  rintro rfl
  exact nomatch h.recipients

/-- Filing receipts changes the receipts. -/
theorem Issued.withReceipts_ne {attrs : List DonorExpenseAttribution} (h : Issued s p attrs rs)
    (hne : rs ≠ []) : (withReceipts s rs).impactReceipts ≠ s.impactReceipts := by
  intro heq
  have hrows : s.impactReceipts.rows ++ rs = s.impactReceipts.rows ++ [] := by
    rw [← h.rows, heq, List.append_nil]
  exact hne (List.append_cancel_left hrows)

theorem Issued.not_mem_rows {attrs : List DonorExpenseAttribution} (h : Issued s p attrs rs)
    {r : ImpactReceipt} (hr : r ∈ rs) : r ∉ s.impactReceipts.rows := by
  intro hrow
  have hfound := Table.mem_rows.mp hrow
  rw [h.fresh r hr] at hfound
  exact nomatch hfound

theorem Issued.mem_new_iff {attrs : List DonorExpenseAttribution} (h : Issued s p attrs rs)
    {r : ImpactReceipt} : r ∈ (withReceipts s rs).impactReceipts.rows ∧
      r ∉ s.impactReceipts.rows ↔ r ∈ rs := by
  rw [h.rows, List.mem_append]
  constructor
  · rintro ⟨hmem, hnew⟩
    exact hmem.resolve_left hnew
  · exact fun hr => ⟨Or.inr hr, h.not_mem_rows hr⟩

variable [Digest]

/-- What a publication leaves: a receipt for each target served. -/
theorem publishImpactReceipts_after (hfresh : FreshReceipts host l s) :
    (∃ e, publicationOf s eventId = .error e ∧
      after (publishImpactReceipts l host eventId actor createdAt) s = s) ∨
    ∃ p rs, publicationOf s eventId = .ok p ∧ Issued s p (served l s p) rs ∧
      after (publishImpactReceipts l host eventId actor createdAt) s = withReceipts s rs := by
  rcases publishImpactReceipts_cases hfresh with ⟨e, hp, hraises⟩ |
    ⟨p, rs, hp, hall, hissued, hreturns⟩ |
    ⟨p, before, attr, rest, rs, e, hp, htargets, hall, hblocked, hissued, hraises⟩
  · exact Or.inl ⟨e, hp, hraises.after⟩
  · exact Or.inr ⟨p, rs, hp, (served_eq_targets hall).symm ▸ hissued, hreturns.after⟩
  · exact Or.inr ⟨p, rs, hp, (served_eq_of_split htargets hall hblocked).symm ▸ hissued,
      hraises.after⟩

/-! ## All or nothing -/

/-- A publication that raises leaves the receipts as they were. -/
def AllOrNothing (host : Host) (l : Ledger) (s : ImpactStores) (eventId : Id) (actor : String)
    (createdAt : Option String) : Prop :=
  ∀ e s', Raises (publishImpactReceipts l host eventId actor createdAt) s e s' →
    s'.impactReceipts = s.impactReceipts

/-- All targets can be served, or the first cannot. -/
def StopsAtOnce (l : Ledger) (s : ImpactStores) (p : Publication) : Prop :=
  (∀ attr ∈ targets l p, Servable l s p attr) ∨
    ∀ attr ∈ (targets l p).head?, ¬ Servable l s p attr

instance (l : Ledger) (s : ImpactStores) (p : Publication) : Decidable (StopsAtOnce l s p) :=
  inferInstanceAs (Decidable (_ ∨ _))

/-- A publication is all or nothing exactly when it stops at the first target or at none. -/
theorem publication_all_or_nothing_iff (hfresh : FreshReceipts host l s) :
    AllOrNothing host l s eventId actor createdAt ↔
      ∀ p, publicationOf s eventId = .ok p → StopsAtOnce l s p := by
  rcases publishImpactReceipts_cases hfresh with ⟨e, hp, hraises⟩ |
    ⟨p, rs, hp, hall, hissued, hreturns⟩ |
    ⟨p, before, attr, rest, rs, e, hp, htargets, hall, hblocked, hissued, hraises⟩
  · refine iff_of_true (fun e' s' h => ?_) fun p hp' => ?_
    · rw [(hraises.unique h).2]
    · rw [hp] at hp'
      exact nomatch hp'
  · refine iff_of_true (fun e' s' h => absurd h hreturns.not_raises) fun p' hp' => ?_
    obtain rfl := Except.ok.inj (hp.symm.trans hp')
    exact Or.inl hall
  · cases before with
    | nil =>
        obtain rfl : rs = [] := List.map_eq_nil_iff.mp hissued.recipients
        refine iff_of_true (fun e' s' h => ?_) fun p' hp' => ?_
        · rw [← (hraises.unique h).2]
          rfl
        · obtain rfl := Except.ok.inj (hp.symm.trans hp')
          refine Or.inr fun first hfirst => ?_
          rw [htargets] at hfirst
          obtain rfl := Option.some.inj hfirst
          exact hblocked
    | cons first before =>
        refine iff_of_false (fun h => ?_) fun h => ?_
        · exact hissued.withReceipts_ne hissued.ne_nil (h e _ hraises)
        · rcases h p hp with hservable | hstops
          · exact hblocked (hservable attr (by simp [htargets]))
          · exact hstops first (by simp [htargets]) (hall first List.mem_cons_self)

/-! ## What the receipts cite -/

/-- Every expense the receipt cites is verified, and the donor has an attribution to it. -/
def CitesVerified (l : Ledger) (r : ImpactReceipt) : Prop :=
  ∀ e ∈ r.linkedExpenseIds, l.expenseIn verifiedExpenseStates e = true ∧
    ∃ attr ∈ l.attributions.values, attr.donorId = r.donorId ∧ attr.expenseId = e

/-- The receipts a publication files cite verified expenses of their donors exactly when
every expense the event links is one, for each donor it serves. -/
theorem cited_spending_verified_iff (hfresh : FreshReceipts host l s) :
    (∀ r ∈ (after (publishImpactReceipts l host eventId actor createdAt) s).impactReceipts.rows,
      r ∉ s.impactReceipts.rows → CitesVerified l r) ↔
    ∀ p, publicationOf s eventId = .ok p → ∀ attr ∈ served l s p, ∀ e, Links s p.event e →
      l.expenseIn verifiedExpenseStates e = true ∧
        ∃ other ∈ l.attributions.values, other.donorId = attr.donorId ∧ other.expenseId = e := by
  rcases publishImpactReceipts_after hfresh with ⟨e, hp, hafter⟩ | ⟨p, rs, hp, hissued, hafter⟩
  · rw [hafter]
    refine iff_of_true (fun r hr hnew => absurd hr hnew) fun p hp' => ?_
    rw [hp] at hp'
    exact nomatch hp'
  rw [hafter]
  obtain ⟨-, -, -, hlinks⟩ := publicationOf_ok hp
  have hcited : ∀ r ∈ rs, ∀ e, e ∈ r.linkedExpenseIds ↔ Links s p.event e := by
    intro r hr e
    rw [(hissued.tells r hr).linkedExpenseIds, mem_sortedIds, hlinks]
  constructor
  · intro h p' hp' attr hattr e he
    obtain rfl := Except.ok.inj (hp.symm.trans hp')
    have hrecipient : attr.recipient ∈ rs.map (·.recipient) := by
      rw [hissued.recipients]
      exact List.mem_map_of_mem hattr
    obtain ⟨r, hr, heq⟩ := List.mem_map.mp hrecipient
    obtain ⟨hrow, hnew⟩ := hissued.mem_new_iff.mpr hr
    have hdonor : r.donorId = attr.donorId := congrArg Prod.fst heq
    rw [← hdonor]
    exact h r hrow hnew e ((hcited r hr e).mpr he)
  · intro h r hrow hnew e he
    have hr := hissued.mem_new_iff.mp ⟨hrow, hnew⟩
    have hrecipient : r.recipient ∈ (served l s p).map (·.recipient) := by
      rw [← hissued.recipients]
      exact List.mem_map_of_mem hr
    obtain ⟨attr, hattr, heq⟩ := List.mem_map.mp hrecipient
    have hdonor : attr.donorId = r.donorId := congrArg Prod.fst heq
    rw [← hdonor]
    exact h p hp attr hattr e ((hcited r hr e).mp he)

end Publication

/-! ## What each method writes -/

section Methods

variable {l : Ledger} {s : ImpactStores} {host : Host} {event r : ImpactEvent}
  {s' : ImpactStores}

/-- What `submit_impact_event` checks. -/
structure Submittable (l : Ledger) (s : ImpactStores) (event : ImpactEvent) : Prop where
  organization : event.organizationId = l.organization.id
  program : (s.programs.find? event.programId).isSome
  state : event.state ∈ [ImpactEventState.draft, .submitted]
  assets : ∀ aid ∈ event.fundedAssetIds, (s.assets.find? aid).isSome
  expenses : ∀ eid ∈ event.expenseIds, (l.expenses.get? eid).isSome

theorem submittable_iff : Submittable l s event ↔
    event.organizationId = l.organization.id ∧ (s.programs.find? event.programId).isSome ∧
      event.state ∈ [ImpactEventState.draft, .submitted] ∧
      (∀ aid ∈ event.fundedAssetIds, (s.assets.find? aid).isSome) ∧
      ∀ eid ∈ event.expenseIds, (l.expenses.get? eid).isSome :=
  ⟨fun ⟨h₁, h₂, h₃, h₄, h₅⟩ => ⟨h₁, h₂, h₃, h₄, h₅⟩,
    fun ⟨h₁, h₂, h₃, h₄, h₅⟩ => ⟨h₁, h₂, h₃, h₄, h₅⟩⟩

instance (l : Ledger) (s : ImpactStores) (event : ImpactEvent) :
    Decidable (Submittable l s event) :=
  decidable_of_iff _ submittable_iff.symm

/-- What a submission files. -/
def submitted (event : ImpactEvent) : ImpactEvent := { event with state := .submitted }

/-- What a verification files. -/
def verified (host : Host) (verifiedBy : String) (event : ImpactEvent) : ImpactEvent :=
  { event with
    state := .verified
    verifiedBy := some verifiedBy
    verifiedAt := some (host.nowIso "verified" 0) }

theorem firstMissing_eq_none {what : String} {known : Id → Bool} {ids : List Id} :
    firstMissing what known ids = none ↔ ∀ id ∈ ids, known id = true := by
  rw [firstMissing, Option.map_eq_none_iff, List.find?_eq_none]
  simp

theorem submitImpactEvent_returns_iff : Returns (submitImpactEvent l event) s r s' ↔
    Submittable l s event ∧ r = submitted event ∧
      s' = { s with impactEvents := s.impactEvents.put (submitted event) } := by
  rw [submitImpactEvent]
  simp only [returns_raiseIf_bind, returns_get_bind, returns_raiseOn_bind, returns_modify_bind,
    returns_pure, firstMissing_eq_none]
  constructor
  · rintro ⟨horg, hprogram, hstate, hassets, hexpenses, hr, hs⟩
    refine ⟨⟨not_not.mp horg, ?_, not_not.mp hstate, hassets, hexpenses⟩, hr.symm, hs.symm⟩
    simpa [Option.isSome_iff_ne_none] using hprogram
  · rintro ⟨⟨horg, hprogram, hstate, hassets, hexpenses⟩, hr, hs⟩
    have hknown : ¬ (s.programs.find? event.programId).isNone = true := by
      simpa [Option.isSome_iff_ne_none] using hprogram
    exact ⟨not_not.mpr horg, hknown, not_not.mpr hstate, hassets, hexpenses, hr.symm, hs.symm⟩

end Methods

/-- What a call leaves when it has written: one record filed, or the receipts of a
publication. -/
inductive Writes (host : Host) (l : Ledger) (s : ImpactStores) : ImpactOp → ImpactStores → Prop
  | program (program : Program) :
      Writes host l s (.registerProgram program) { s with programs := s.programs.put program }
  | asset (asset : FundedAsset) :
      Writes host l s (.registerFundedAsset asset) { s with assets := s.assets.put asset }
  | deployed (assetId : Id) (asset : FundedAsset) :
      s.assets.find? assetId = some asset →
      Writes host l s (.deployAsset assetId)
        { s with assets := s.assets.put { asset with lifecycle := .deployed } }
  | submitted (event : ImpactEvent) :
      Submittable l s event →
      Writes host l s (.submitImpactEvent event)
        { s with impactEvents := s.impactEvents.put (submitted event) }
  | verified (eventId : Id) (verifiedBy : String) (event : ImpactEvent) :
      s.impactEvents.find? eventId = some event → event.state ≠ .verified →
      Writes host l s (.verifyImpactEvent eventId verifiedBy)
        { s with impactEvents := s.impactEvents.put (verified host verifiedBy event) }
  | published (eventId : Id) (actor : String) (createdAt : Option String) (p : Publication)
      (rs : List ImpactReceipt) :
      publicationOf s eventId = .ok p → Issued s p (served l s p) rs →
      Writes host l s (.publishImpactReceipts eventId actor createdAt) (withReceipts s rs)

section Exec

variable {l : Ledger} {s s' : ImpactStores} {host : Host} {op : ImpactOp}

theorem registerProgram_atomic (program : Program) : Atomic (registerProgram l program) :=
  .bind_readOnly (.raiseIf _ _) fun _ => (Total.bind (.modify _) fun _ => .pure _).atomic

theorem registerFundedAsset_atomic (asset : FundedAsset) : Atomic (registerFundedAsset l asset) :=
  .bind_readOnly (.raiseIf _ _) fun _ => .bind_readOnly (.orRaise _ _) fun _ =>
    .bind_readOnly (.raiseIf _ _) fun _ => .bind_readOnly (.raiseIf _ _) fun _ =>
    (Total.bind (.modify _) fun _ => .pure _).atomic

theorem deployAsset_atomic (assetId : Id) : Atomic (deployAsset assetId) :=
  .bind_readOnly .get fun _ => .bind_readOnly (.orRaise _ _) fun _ =>
    (Total.bind (.modify _) fun _ => .pure _).atomic

theorem submitImpactEvent_atomic (event : ImpactEvent) : Atomic (submitImpactEvent l event) :=
  .bind_readOnly (.raiseIf _ _) fun _ => .bind_readOnly .get fun _ =>
    .bind_readOnly (.raiseIf _ _) fun _ => .bind_readOnly (.raiseIf _ _) fun _ =>
    .bind_readOnly (.raiseOn _ _) fun _ => .bind_readOnly (.raiseOn _ _) fun _ =>
    (Total.bind (.modify _) fun _ => .pure _).atomic

theorem verifyImpactEvent_atomic (eventId : Id) (verifiedBy : String) :
    Atomic (verifyImpactEvent host eventId verifiedBy) :=
  .bind_readOnly .get fun _ => .bind_readOnly (.orRaise _ _) fun _ =>
    .bind_readOnly (.raiseIf _ _) fun _ => .bind_readOnly (.raiseIf _ _) fun _ =>
    (Total.bind (.modify _) fun _ => .pure _).atomic

/-- An atomic method leaves what it writes when it returns, or nothing new. -/
theorem writes_of_atomic {α : Type} {x : ImpactM α} (hx : Atomic x)
    (hret : ∀ r s', Returns x s r s' → Writes host l s op s') :
    after ((fun _ => ()) <$> x) s = s ∨
      Writes host l s op (after ((fun _ => ()) <$> x) s) := by
  rw [after_map]
  rcases returns_or_raises x s with ⟨r, s', h⟩ | ⟨e, s', h⟩
  · rw [h.after]
    exact Or.inr (hret r s' h)
  · exact Or.inl (h.after.trans (hx s e s' h))

variable [Digest]

/-- The ids a publication draws are new; no other method files receipts. -/
def FreshCall (host : Host) (l : Ledger) (s : ImpactStores) : ImpactOp → Prop
  | .publishImpactReceipts _ _ _ => FreshReceipts host l s
  | _ => True

instance (host : Host) (l : Ledger) (s : ImpactStores) (op : ImpactOp) :
    Decidable (FreshCall host l s op) := by
  unfold FreshCall
  split <;> infer_instance

/-- A call leaves the stores as they were, or has written what its method writes. -/
theorem exec_writes (hfresh : FreshCall host l s op) :
    after (exec l host op) s = s ∨ Writes host l s op (after (exec l host op) s) := by
  cases op with
  | registerProgram program =>
      refine writes_of_atomic (registerProgram_atomic program) fun r s' h => ?_
      rw [registerProgram, returns_raiseIf_bind, returns_modify_bind, returns_pure] at h
      obtain ⟨-, -, rfl⟩ := h
      exact .program program
  | registerFundedAsset asset =>
      refine writes_of_atomic (registerFundedAsset_atomic asset) fun r s' h => ?_
      rw [registerFundedAsset] at h
      simp only [returns_raiseIf_bind, returns_orRaise_bind, returns_modify_bind,
        returns_pure] at h
      obtain ⟨-, -, -, -, -, -, rfl⟩ := h
      exact .asset asset
  | deployAsset assetId =>
      refine writes_of_atomic (deployAsset_atomic assetId) fun r s' h => ?_
      rw [deployAsset, returns_get_bind, returns_orRaise_bind] at h
      obtain ⟨asset, hasset, h⟩ := h
      rw [returns_modify_bind, returns_pure] at h
      obtain ⟨-, rfl⟩ := h
      exact .deployed assetId asset hasset
  | submitImpactEvent event =>
      refine writes_of_atomic (submitImpactEvent_atomic event) fun r s' h => ?_
      obtain ⟨hsubmittable, -, rfl⟩ := submitImpactEvent_returns_iff.mp h
      exact .submitted event hsubmittable
  | verifyImpactEvent eventId verifiedBy =>
      refine writes_of_atomic (verifyImpactEvent_atomic eventId verifiedBy) fun r s' h => ?_
      rw [verifyImpactEvent, returns_get_bind, returns_orRaise_bind] at h
      obtain ⟨event, hevent, h⟩ := h
      simp only [returns_raiseIf_bind, returns_modify_bind, returns_pure] at h
      obtain ⟨hstate, -, -, rfl⟩ := h
      refine .verified eventId verifiedBy event hevent fun heq => hstate ?_
      simp [heq]
  | publishImpactReceipts eventId actor createdAt =>
      rw [exec, after_map]
      rcases publishImpactReceipts_after hfresh with ⟨e, -, hafter⟩ | ⟨p, rs, hp, hissued, hafter⟩
      · exact Or.inl hafter
      · rw [hafter]
        exact Or.inr (.published eventId actor createdAt p rs hp hissued)

end Exec

end ImpactService

/-! ## Runs of ledger and impact operations -/

/-- The ledger of a tenant with its impact stores. -/
structure ImpactWorkspace where
  ledger : Ledger
  stores : ImpactStores := {}

/-- What can happen to a workspace: a call of the ledger or of the impact service. -/
inductive ImpactAction where
  | ledger (call : Ledger.Call)
  | impact (host : Host) (op : ImpactOp)

namespace ImpactWorkspace

open ImpactService

/-- The workspace of a new organization. -/
def new (organization : Organization) : ImpactWorkspace := { ledger := .new organization }

abbrev receipts (w : ImpactWorkspace) : List ImpactReceipt := w.stores.impactReceipts.rows

abbrev event? (w : ImpactWorkspace) (eventId : Id) : Option ImpactEvent :=
  w.stores.impactEvents.find? eventId

/-! ### Entitlement -/

/-- The event is VERIFIED, and the donor has an attribution on the fund to a verified
expense that the event links. -/
def Entitled (w : ImpactWorkspace) (donorId allocationId eventId : Id) : Prop :=
  ∃ event, w.event? eventId = some event ∧ event.state = .verified ∧
    ∃ attr ∈ w.ledger.attributions.values, attr.donorId = donorId ∧
      attr.allocationId = allocationId ∧
      w.ledger.expenseIn verifiedExpenseStates attr.expenseId = true ∧
      Links w.stores event attr.expenseId

/-- No two receipts for one donor, event and fund. -/
def OneEach (w : ImpactWorkspace) : Prop :=
  ∀ r ∈ w.receipts, ∀ r' ∈ w.receipts, r.impactEventId = r'.impactEventId →
    r.recipient = r'.recipient → r = r'

section Entitlement

variable {w : ImpactWorkspace} {eventId donorId allocationId : Id} {p : Publication}
  {rs : List ImpactReceipt}

/-- A receipt that a publication files is for a donor who is entitled to it. -/
theorem entitled_of_issued {r : ImpactReceipt} (hp : publicationOf w.stores eventId = .ok p)
    (hissued : Issued w.stores p (served w.ledger w.stores p) rs) (hr : r ∈ rs) :
    r.impactEventId = eventId ∧ Entitled w r.donorId r.allocationId eventId ∧
      ∀ old ∈ w.receipts, old.impactEventId = eventId → old.recipient ≠ r.recipient := by
  obtain ⟨hevent, hstate, -, hlinks⟩ := publicationOf_ok hp
  have hid : p.event.id = eventId := Table.key_of_find? hevent
  have hrecipient : r.recipient ∈ (served w.ledger w.stores p).map (·.recipient) := by
    rw [← hissued.recipients]
    exact List.mem_map_of_mem hr
  obtain ⟨attr, hattr, heq⟩ := List.mem_map.mp hrecipient
  obtain ⟨htarget, -, hfree⟩ := mem_served hattr
  obtain ⟨hmem, heligible⟩ := List.mem_filter.mp (mem_of_mem_firstsFrom htarget).1
  rw [eligible, Bool.and_eq_true, decide_eq_true_eq] at heligible
  refine ⟨(hissued.tells r hr).impactEventId.trans hid, ⟨p.event, hevent, hstate, attr, hmem,
    congrArg Prod.fst heq, congrArg Prod.snd heq, heligible.2, (hlinks _).mp heligible.1⟩, ?_⟩
  intro old hold hevent
  rw [← heq]
  exact findLiveImpact_eq_none.mp hfree old hold (hevent.trans hid.symm)

/-- A donor who is entitled to a receipt is among the targets. -/
theorem Entitled.target (h : Entitled w donorId allocationId eventId)
    (hp : publicationOf w.stores eventId = .ok p) :
    p.event.id = eventId ∧
      ∃ attr ∈ targets w.ledger p, attr.recipient = (donorId, allocationId) := by
  obtain ⟨event, hevent, -, attr, hattr, rfl, rfl, hverified, hlinked⟩ := h
  obtain ⟨hevent', -, -, hlinks⟩ := publicationOf_ok hp
  obtain rfl := Option.some.inj (hevent'.symm.trans hevent)
  have heligible : eligible w.ledger p attr = true := by
    rw [eligible, Bool.and_eq_true, decide_eq_true_eq]
    exact ⟨(hlinks _).mpr hlinked, hverified⟩
  exact ⟨Table.key_of_find? hevent', exists_mem_firstsFrom
    (List.mem_filter.mpr ⟨hattr, heligible⟩) List.not_mem_nil⟩

end Entitlement

/-! ### Steps -/

variable [Digest]

/-- A caller goes on after an exception: the stores are what the call left behind. -/
def step (w : ImpactWorkspace) : ImpactAction → ImpactWorkspace
  | .ledger call => { w with ledger := w.ledger.step call }
  | .impact host op => { w with stores := after (exec w.ledger host op) w.stores }

def FreshIds (w : ImpactWorkspace) : ImpactAction → Prop
  | .ledger _ => True
  | .impact host op => FreshCall host w.ledger w.stores op

instance (w : ImpactWorkspace) (a : ImpactAction) : Decidable (FreshIds w a) := by
  unfold FreshIds
  split <;> infer_instance

variable {w : ImpactWorkspace} {a : ImpactAction} {org : Organization} {as bs : List ImpactAction}

theorem step_writes (hfresh : FreshIds w a) : (w.step a).stores = w.stores ∨
    ∃ host op, a = .impact host op ∧ Writes host w.ledger w.stores op (w.step a).stores := by
  cases a with
  | ledger call => exact Or.inl rfl
  | impact host op =>
      rcases exec_writes hfresh with hsame | hwrites
      · exact Or.inl hsame
      · exact Or.inr ⟨host, op, rfl, hwrites⟩

/-- Only a publication files receipts, for the targets it serves. -/
theorem receipts_step (hfresh : FreshIds w a) : (w.step a).receipts = w.receipts ∨
    ∃ host eventId actor createdAt p rs,
      a = .impact host (.publishImpactReceipts eventId actor createdAt) ∧
      publicationOf w.stores eventId = .ok p ∧
      Issued w.stores p (served w.ledger w.stores p) rs ∧
      (w.step a).receipts = w.receipts ++ rs := by
  rcases step_writes hfresh with hsame | ⟨host, op, rfl, hwrites⟩
  · exact Or.inl (congrArg (·.impactReceipts.rows) hsame)
  generalize hnext : (w.step (.impact host op)).stores = next at hwrites
  rw [receipts, hnext]
  cases hwrites with
  | program program => exact Or.inl rfl
  | asset asset => exact Or.inl rfl
  | deployed assetId asset hasset => exact Or.inl rfl
  | submitted event hsubmittable => exact Or.inl rfl
  | verified eventId verifiedBy event hevent hstate => exact Or.inl rfl
  | published eventId actor createdAt p rs hp hissued =>
      exact Or.inr ⟨host, eventId, actor, createdAt, p, rs, rfl, hp, hissued, hissued.rows⟩

/-! ### To the right donors, once -/

theorem receipts_subset_step (hfresh : FreshIds w a) : w.receipts ⊆ (w.step a).receipts := by
  rcases receipts_step hfresh with hsame | ⟨-, -, -, -, -, rs, -, -, -, hnext⟩
  · exact hsame ▸ List.Subset.refl _
  · exact hnext ▸ List.subset_append_left _ rs

theorem oneEach_step (hw : OneEach w) (hfresh : FreshIds w a) : OneEach (w.step a) := by
  rcases receipts_step hfresh with hsame | ⟨host, eventId, -, -, p, rs, -, hp, hissued, hnext⟩
  · rw [OneEach, hsame]
    exact hw
  have hnodup : (rs.map (·.recipient)).Nodup := by
    rw [hissued.recipients]
    exact (nodup_targets _ p).sublist ((List.takeWhile_sublist _).map _)
  have hclash : ∀ r ∈ w.receipts, ∀ r' ∈ rs, r.impactEventId = r'.impactEventId →
      r.recipient ≠ r'.recipient := by
    intro r hr r' hr' hevent
    obtain ⟨hid, -, hfree⟩ := entitled_of_issued hp hissued hr'
    exact hfree r hr (hevent.trans hid)
  rw [OneEach, hnext]
  intro r hr r' hr' hevent hrecipient
  rcases List.mem_append.mp hr with hr | hr <;> rcases List.mem_append.mp hr' with hr' | hr'
  · exact hw r hr r' hr' hevent hrecipient
  · exact absurd hrecipient (hclash r hr r' hr' hevent)
  · exact absurd hrecipient.symm (hclash r' hr' r hr hevent.symm)
  · exact List.inj_on_of_nodup_map hnodup hr hr' hrecipient

theorem receipts_subset_run {w : ImpactWorkspace} (hfresh : Along step FreshIds w as) :
    w.receipts ⊆ (run step w as).receipts := by
  induction as generalizing w with
  | nil => exact List.Subset.refl _
  | cons a as ih =>
      obtain ⟨ha, has⟩ := hfresh
      exact List.Subset.trans (receipts_subset_step ha) (ih has)

/-- A publication that returns leaves a receipt for every donor who is entitled to one. -/
theorem complete_of_returns {host : Host} {eventId donorId allocationId : Id} {actor : String}
    {createdAt : Option String} {rs : List ImpactReceipt} {s' : ImpactStores}
    (hfresh : FreshReceipts host w.ledger w.stores)
    (hreturns : Returns (publishImpactReceipts w.ledger host eventId actor createdAt) w.stores
      rs s') (h : Entitled w donorId allocationId eventId) :
    ∃ r ∈ s'.impactReceipts.rows, r.donorId = donorId ∧ r.allocationId = allocationId ∧
      r.impactEventId = eventId := by
  rcases publishImpactReceipts_cases hfresh with ⟨e, -, hraises⟩ |
    ⟨p, rs, hp, -, hissued, hreturns'⟩ | ⟨p, -, -, -, rs, e, -, -, -, -, -, hraises⟩
  · exact absurd hraises hreturns.not_raises
  · obtain ⟨-, rfl⟩ := hreturns.unique hreturns'
    obtain ⟨hid, attr, htarget, hrecipient⟩ := h.target hp
    have hmem : attr.recipient ∈ rs.map (·.recipient) := by
      rw [hissued.recipients]
      exact List.mem_map_of_mem htarget
    obtain ⟨r, hr, heq⟩ := List.mem_map.mp hmem
    have hfor : r.recipient = (donorId, allocationId) := heq.trans hrecipient
    refine ⟨r, (hissued.mem_new_iff.mpr hr).1, congrArg Prod.fst hfor, congrArg Prod.snd hfor, ?_⟩
    exact (hissued.tells r hr).impactEventId.trans hid
  · exact absurd hraises hreturns.not_raises

/-- Impact receipts go to the right donors, once: at most one for a donor, event and fund,
each one for a donor who was entitled to it when it was published, and after a publication
that returns one for every donor who is. -/
theorem impact_receipts_sound_once_complete (hfresh : Along step FreshIds (new org) as) :
    (∀ bs, bs <+: as → ∀ r ∈ (run step (new org) bs).receipts,
      ∀ r' ∈ (run step (new org) as).receipts, r.donorId = r'.donorId →
        r.impactEventId = r'.impactEventId → r.allocationId = r'.allocationId → r = r') ∧
    (∀ r ∈ (run step (new org) as).receipts, ∃ bs host actor createdAt,
      bs ++ [.impact host (.publishImpactReceipts r.impactEventId actor createdAt)] <+: as ∧
      r ∉ (run step (new org) bs).receipts ∧
      r ∈ (run step (new org) (bs ++
        [.impact host (.publishImpactReceipts r.impactEventId actor createdAt)])).receipts ∧
      Entitled (run step (new org) bs) r.donorId r.allocationId r.impactEventId) ∧
    (∀ bs host eventId actor createdAt rs s',
      bs ++ [.impact host (.publishImpactReceipts eventId actor createdAt)] <+: as →
      Returns (publishImpactReceipts (run step (new org) bs).ledger host eventId actor createdAt)
        (run step (new org) bs).stores rs s' →
      ∀ donorId allocationId, Entitled (run step (new org) bs) donorId allocationId eventId →
        ∃ r ∈ s'.impactReceipts.rows, r.donorId = donorId ∧ r.allocationId = allocationId ∧
          r.impactEventId = eventId) := by
  refine ⟨fun bs hbs r hr r' hr' hdonor hevent hallocation => ?_, fun r hr => ?_, ?_⟩
  · obtain ⟨rest, rfl⟩ := hbs
    have hlast : OneEach (run step (new org) (bs ++ rest)) :=
      run_invariant (P := OneEach) (fun _ _ hw ha => oneEach_step hw ha)
        (fun _ h => absurd h List.not_mem_nil) hfresh
    have hkept : r ∈ (run step (new org) (bs ++ rest)).receipts := by
      rw [run_append]
      exact receipts_subset_run (along_append.mp hfresh).2 hr
    exact hlast r hkept r' hr' hevent (Prod.ext hdonor hallocation)
  · have hnone : r ∉ (new org).receipts := List.not_mem_nil
    obtain ⟨bs, a, hbs, hbefore, hafter⟩ :=
      exists_step_into (P := fun w => r ∈ receipts w) hnone hr
    have hstep : run step (new org) (bs ++ [a]) = step (run step (new org) bs) a := by
      rw [run_append]
      rfl
    rcases receipts_step (hfresh.at_prefix hbs) with hsame |
      ⟨host, eventId, actor, createdAt, p, rs, rfl, hp, hissued, hnext⟩
    · rw [hstep, hsame] at hafter
      exact absurd hafter hbefore
    · have hmem : r ∈ rs := by
        rw [hstep, hnext] at hafter
        exact (List.mem_append.mp hafter).resolve_left hbefore
      obtain ⟨rfl, hentitled, -⟩ := entitled_of_issued hp hissued hmem
      exact ⟨bs, host, actor, createdAt, hbs, hbefore, hafter, hentitled⟩
  · intro bs host eventId actor createdAt rs s' hbs hreturns donorId allocationId hentitled
    exact complete_of_returns (hfresh.at_prefix hbs) hreturns hentitled

/-! ### Verified events -/

/-- What a receipt says of its event. -/
def Agrees (r : ImpactReceipt) (event : ImpactEvent) : Prop :=
  r.programId = event.programId ∧ r.eventType = event.eventType ∧
    r.eventDate = event.eventDate ∧ r.participants = event.participants

/-- Once an event is VERIFIED its record stays, and every receipt agrees with the stored
event it names. -/
def ImpactImmutable (org : Organization) (as : List ImpactAction) : Prop :=
  (∀ bs cs, bs <+: cs → cs <+: as → ∀ eventId event,
    (run step (new org) bs).event? eventId = some event → event.state = .verified →
      (run step (new org) cs).event? eventId = some event) ∧
  ∀ bs, bs <+: as → ∀ r ∈ (run step (new org) bs).receipts,
    ∃ event, (run step (new org) bs).event? r.impactEventId = some event ∧ Agrees r event

/-- No submission that would be accepted is for the id of a VERIFIED event. -/
def NoResubmission (w : ImpactWorkspace) : ImpactAction → Prop
  | .impact _ (.submitImpactEvent event) =>
      Submittable w.ledger w.stores event →
        ∀ stored ∈ w.event? event.id, stored.state ≠ .verified
  | _ => True

instance (w : ImpactWorkspace) (a : ImpactAction) : Decidable (NoResubmission w a) := by
  unfold NoResubmission
  split <;> infer_instance

/-- Without resubmission a step keeps the VERIFIED events. -/
theorem verified_step (hfresh : FreshIds w a) (hresubmit : NoResubmission w a) {eventId : Id}
    {event : ImpactEvent} (hevent : w.event? eventId = some event)
    (hstate : event.state = .verified) : (w.step a).event? eventId = some event := by
  rcases step_writes hfresh with hsame | ⟨host, op, rfl, hwrites⟩
  · rw [event?, hsame]
    exact hevent
  generalize hnext : (w.step (.impact host op)).stores = next at hwrites
  rw [event?, hnext]
  cases hwrites with
  | program program => exact hevent
  | asset asset => exact hevent
  | deployed assetId asset hasset => exact hevent
  | submitted other hsubmittable =>
      refine (Table.find?_put_ne fun heq => ?_).trans hevent
      rw [heq] at hevent
      exact hresubmit hsubmittable event hevent hstate
  | verified otherId verifiedBy other hother hunverified =>
      refine (Table.find?_put_ne fun heq => ?_).trans hevent
      have hid : other.id = otherId := Table.key_of_find? hother
      have hkey : eventId = otherId := heq.trans hid
      rw [hkey] at hevent
      obtain rfl := Option.some.inj (hother.symm.trans hevent)
      exact hunverified hstate
  | published otherId actor createdAt p rs hp hissued => exact hevent

/-- Every receipt names a VERIFIED event and agrees with it. -/
def Backed (w : ImpactWorkspace) : Prop :=
  ∀ r ∈ w.receipts, ∃ event, w.event? r.impactEventId = some event ∧ event.state = .verified ∧
    Agrees r event

theorem backed_step (hw : Backed w) (hfresh : FreshIds w a) (hresubmit : NoResubmission w a) :
    Backed (w.step a) := by
  intro r hr
  have hkept : ∀ event, w.event? r.impactEventId = some event → event.state = .verified →
      Agrees r event → ∃ event, (w.step a).event? r.impactEventId = some event ∧
        event.state = .verified ∧ Agrees r event := fun event hevent hstate hagrees =>
    ⟨event, verified_step hfresh hresubmit hevent hstate, hstate, hagrees⟩
  rcases receipts_step hfresh with hsame | ⟨host, eventId, -, -, p, rs, -, hp, hissued, hnext⟩
  · obtain ⟨event, hevent, hstate, hagrees⟩ := hw r (hsame ▸ hr)
    exact hkept event hevent hstate hagrees
  · rw [hnext] at hr
    rcases List.mem_append.mp hr with hr | hr
    · obtain ⟨event, hevent, hstate, hagrees⟩ := hw r hr
      exact hkept event hevent hstate hagrees
    · obtain ⟨hevent, hstate, hprogram, -⟩ := publicationOf_ok hp
      have htells := hissued.tells r hr
      have hid : r.impactEventId = eventId :=
        htells.impactEventId.trans (Table.key_of_find? hevent)
      have hprogramId : p.program.id = p.event.programId := Table.key_of_find? hprogram
      rw [← hid] at hevent
      exact hkept p.event hevent hstate ⟨htells.programId.trans hprogramId, htells.eventType,
        htells.eventDate, htells.participants⟩

/-- An accepted submission files the event as SUBMITTED. -/
theorem event?_step_of_submittable {host : Host} {event : ImpactEvent}
    (h : Submittable w.ledger w.stores event) :
    (w.step (.impact host (.submitImpactEvent event))).event? event.id =
      some (submitted event) := by
  have hreturns : Returns (submitImpactEvent w.ledger event) w.stores (submitted event) _ :=
    submitImpactEvent_returns_iff.mpr ⟨h, rfl, rfl⟩
  rw [event?, step, exec, after_map, hreturns.after]
  exact Table.find?_put_self w.stores.impactEvents (submitted event)

/-- Verified impact is immutable in exactly the runs in which no VERIFIED event is submitted
again. -/
theorem verified_impact_immutable_iff (hfresh : Along step FreshIds (new org) as) :
    ImpactImmutable org as ↔ Along step NoResubmission (new org) as := by
  constructor
  · rintro ⟨hkept, -⟩
    refine along_iff_forall_prefix.mpr fun bs a hbs => ?_
    cases a with
    | ledger call => trivial
    | impact host op =>
        cases op with
        | submitImpactEvent event =>
            intro hsubmittable stored hstored hverified
            have hafter := hkept bs _ (List.prefix_append _ _) hbs event.id stored hstored hverified
            rw [run_append] at hafter
            have hfiled := @event?_step_of_submittable _ _ host _ hsubmittable
            have heq : submitted event = stored := Option.some.inj (hfiled.symm.trans hafter)
            rw [← heq] at hverified
            exact nomatch hverified
        | _ => trivial
  · intro hresubmit
    have hboth := hfresh.and hresubmit
    refine ⟨?_, fun bs hbs r hr => ?_⟩
    · rintro bs cs ⟨ds, rfl⟩ hcs eventId event hevent hstate
      obtain ⟨rest, rfl⟩ := hcs
      have hrun := (along_append.mp (along_append.mp hboth).1).2
      rw [run_append]
      exact run_invariant (P := fun w => w.event? eventId = some event)
        (fun _ _ hevent ha => verified_step ha.1 ha.2 hevent hstate) hevent hrun
    · obtain ⟨rest, rfl⟩ := hbs
      have hbacked : Backed (run step (new org) bs) :=
        run_invariant (P := Backed) (fun _ _ hw ha => backed_step hw ha.1 ha.2)
          (fun _ h => absurd h List.not_mem_nil) (along_append.mp hboth).1
      obtain ⟨event, hevent, -, hagrees⟩ := hbacked r hr
      exact ⟨event, hevent, hagrees⟩

end ImpactWorkspace

/-! ## Two donors, two expenses, one event -/

namespace ImpactWorkspace

open ImpactService

attribute [local instance] Digest.plain

namespace Sample

/-- A second donor; an expense charged to the fund and attributed to her that waits for its
approval; and one that is approved and attributed to the first donor. -/
def ledgerOps : List Op := Ledger.Sample.gift ++ [
  .registerDonor { id := "second", organizationId := "org", displayName := "Second" },
  .importDonation { Ledger.Sample.donation with id := "gift2", donorId := "second" },
  .assignDonationAllocation "gift2" "fund" (.finite 100 0) none,
  .importExpense (Ledger.Sample.expense "waiting" 1000),
  .allocateExpense "waiting" "fund" (.finite 10 0) none,
  .attributeDonorToExpense "second" "gift2" "waiting" "fund" .directRestricted
    (some (.finite 10 0)) none,
  .importExpense (Ledger.Sample.expense "spent" 1000),
  .allocateExpense "spent" "fund" (.finite 10 0) none,
  .approveExpense "spent" "cfo",
  .attributeDonorToExpense "donor" "gift" "spent" "fund" .directRestricted
    (some (.finite 10 0)) none]

def event : ImpactEvent :=
  { id := "event", organizationId := "org", programId := "meals", eventType := "SERVED",
    eventDate := "2026-02-01", participants := 40, state := .draft,
    expenseIds := ["waiting", "spent"] }

/-- The event is submitted and verified. -/
def verifiedEvent : List ImpactAction :=
  (Ledger.script ledgerOps).map .ledger ++ [
    .impact (.numbered 20)
      (.registerProgram { id := "meals", organizationId := "org", name := "Meals" }),
    .impact (.numbered 21) (.submitImpactEvent event),
    .impact (.numbered 22) (.verifyImpactEvent "event" "director")]

def publication (call : Nat) : ImpactAction :=
  .impact (.numbered call) (.publishImpactReceipts "event" "ops" none)

/-- A publication, then the approval of the expense that waited. -/
def history : List ImpactAction :=
  verifiedEvent ++ [publication 23, .ledger ⟨.numbered 24, .approveExpense "waiting" "cfo"⟩]

def organization : Organization := Ledger.Sample.organization

/-- Where a run from the new workspace comes to. -/
def reached (as : List ImpactAction) : ImpactWorkspace := run step (new organization) as

/-- A publication of the event, from where a run has come to. -/
def published (as : List ImpactAction) (call : Nat) : ImpactM (List ImpactReceipt) :=
  publishImpactReceipts (reached as).ledger (.numbered call) "event" "ops" none

end Sample

open Sample

example : (reached (history ++ [publication 25])).receipts.map
    (fun r => (r.receiptId, r.donorId, r.linkedExpenseIds)) =
      [("imp_23_0", "donor", ["spent", "waiting"]), ("imp_25_0", "second", ["spent", "waiting"])] := by
  decide +kernel

/-- A receipt for each of the two donors, and no second one. -/
theorem two_donors_one_receipt_each :
    (reached (history ++ [publication 25])).receipts.length = 2 ∧
    ∀ r ∈ (reached (history ++ [publication 25])).receipts,
    ∀ r' ∈ (reached (history ++ [publication 25])).receipts, r.donorId = r'.donorId →
      r.impactEventId = r'.impactEventId → r.allocationId = r'.allocationId → r = r' := by
  refine ⟨by decide +kernel, fun r hr r' hr' => ?_⟩
  exact (impact_receipts_sound_once_complete (by decide +kernel)).1 _ (List.prefix_refl _) r hr r'
    hr'

/-- The second publication serves the second donor, and then comes to the first. -/
theorem second_publication_halfway :
    ¬ AllOrNothing (.numbered 25) (reached history).ledger (reached history).stores
      "event" "ops" none := by
  intro h
  have hraised : raised (published history 25) (reached history).stores = true := by
    decide +kernel
  obtain ⟨e, s', hraises⟩ := raised_iff.mp hraised
  have hgrown : (after (published history 25) (reached history).stores).impactReceipts.rows.length =
      (reached history).receipts.length + 1 := by
    decide +kernel
  rw [hraises.after, h e s' hraises] at hgrown
  have hsucc : ∀ n : Nat, n ≠ n + 1 := fun n => (Nat.succ_ne_self n).symm
  exact hsucc _ hgrown

/-- A publication repeated at once is refused whole. -/
theorem repeated_publication_whole :
    AllOrNothing (.numbered 25) (reached (verifiedEvent ++ [publication 23])).ledger
      (reached (verifiedEvent ++ [publication 23])).stores "event" "ops" none := by
  refine (publication_all_or_nothing_iff (by decide +kernel)).mpr fun p hp => ?_
  exact OnOk.of_eq (p := StopsAtOnce (reached (verifiedEvent ++ [publication 23])).ledger
    (reached (verifiedEvent ++ [publication 23])).stores) (by decide +kernel) hp

/-- The first publication cites the expense that waits. -/
theorem waiting_expense_cited :
    ¬ ∀ r ∈ (after (published verifiedEvent 23) (reached verifiedEvent).stores).impactReceipts.rows,
      r ∉ (reached verifiedEvent).receipts → CitesVerified (reached verifiedEvent).ledger r := by
  intro h
  have hcited : (after (published verifiedEvent 23)
      (reached verifiedEvent).stores).impactReceipts.rows.map (·.linkedExpenseIds) =
        [["spent", "waiting"]] := by
    decide +kernel
  obtain ⟨r, hr, hlinked⟩ := List.mem_map.mp (hcited ▸ List.mem_singleton_self _)
  have hnone : (reached verifiedEvent).receipts = [] := by
    decide +kernel
  have hverified := (h r hr (hnone ▸ List.not_mem_nil) "waiting" (by rw [hlinked]; decide)).1
  exact absurd hverified (by decide +kernel)

/-- An event of the spent expense alone. -/
def spentEvent : List ImpactAction :=
  (Ledger.script ledgerOps).map .ledger ++ [
    .impact (.numbered 20)
      (.registerProgram { id := "meals", organizationId := "org", name := "Meals" }),
    .impact (.numbered 21) (.submitImpactEvent { event with expenseIds := ["spent"] }),
    .impact (.numbered 22) (.verifyImpactEvent "event" "director")]

theorem spent_expense_cited :
    (after (published spentEvent 23) (reached spentEvent).stores).impactReceipts.rows.length = 1 ∧
    ∀ r ∈ (after (published spentEvent 23) (reached spentEvent).stores).impactReceipts.rows,
      r ∉ (reached spentEvent).receipts → CitesVerified (reached spentEvent).ledger r := by
  refine ⟨by decide +kernel, ?_⟩
  refine (cited_spending_verified_iff (by decide +kernel)).mpr fun p hp attr hattr e he => ?_
  exact OnOk.of_eq (p := fun p =>
      ∀ attr ∈ served (reached spentEvent).ledger (reached spentEvent).stores p,
        ∀ e ∈ p.expenseIds, (reached spentEvent).ledger.expenseIn verifiedExpenseStates e = true ∧
          ∃ other ∈ (reached spentEvent).ledger.attributions.values,
            other.donorId = attr.donorId ∧ other.expenseId = e) (by decide +kernel) hp
    attr hattr e (((publicationOf_ok hp).2.2.2 e).mpr he)

/-- The event submitted again, with other figures. -/
theorem resubmission_changes_verified :
    ¬ ImpactImmutable organization (history ++
      [.impact (.numbered 25) (.submitImpactEvent { event with participants := 4 })]) := by
  rintro ⟨-, hagree⟩
  have hreceipts : (reached (history ++ [.impact (.numbered 25)
      (.submitImpactEvent { event with participants := 4 })])).receipts.map
        (fun r => (r.impactEventId, r.participants)) = [("event", 40)] := by
    decide +kernel
  obtain ⟨r, hr, hfacts⟩ := List.mem_map.mp (hreceipts ▸ List.mem_singleton_self _)
  obtain ⟨stored, hstored, -, -, -, hparticipants⟩ := hagree _ (List.prefix_refl _) r hr
  have hnow : ((reached (history ++ [.impact (.numbered 25)
      (.submitImpactEvent { event with participants := 4 })])).event? "event").map
        (·.participants) = some 4 := by
    decide +kernel
  have hid : r.impactEventId = "event" := congrArg Prod.fst hfacts
  have hforty : r.participants = 40 := congrArg Prod.snd hfacts
  rw [hid] at hstored
  rw [show (reached _).event? "event" = some stored from hstored] at hnow
  have hfour : stored.participants = 4 := Option.some.inj hnow
  rw [hforty, hfour] at hparticipants
  exact absurd hparticipants (by decide)

/-- Nothing is submitted again. -/
theorem history_immutable : ImpactImmutable organization history :=
  (verified_impact_immutable_iff (by decide +kernel)).mpr (by decide +kernel)

end ImpactWorkspace

end ImpactRelay
