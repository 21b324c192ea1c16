/-
# `Storage.Workspaces` — a workspace over its life

`create` and `reopen` of `storage/workspace.py` over a run of calls, and
`verify_initialized_workspace` of `storage/portable.py`, which reads a storage and accepts an
artifact as the one that its tenant was initialized with.

    a tenant keeps the workspace it was created with     (`created_once`)
    which artifacts a storage is accepted for            (`verified_iff`)
    until when it is accepted for them                   (`initialized_until_used`)
-/
import ImpactRelay.Storage.Bundle
import ImpactRelay.Storage.Scaffolds

namespace ImpactRelay

open Raise Policy Portable StorageCall

namespace StorageBundle

section

variable [FloatText] [Digest]

/-- Reopen the storage in one read-only snapshot; never accepts readiness flags. -/
def verifyInitializedWorkspace (expectedDocument : String) (s : StorageBundle) :
    Except PyExc (Json × Json) := do
  let policy ← decodeScaffold expectedDocument
  let reopened ← s.reopen policy.tenantId
  let actual ← buildScaffold reopened.policy reopened.scaffold.idempotencyKey
  let persisted ← canonicalJson actual
  let _ ← verifyReadback expectedDocument persisted
  match (s.existing policy.tenantId).find? (·.2) with
  | some table => .error (policyError ("initialized empty storage contains rows: " ++ table.1))
  | none => do
      let state ← initializedState actual reopened.ledger.snapshotLedgerEntities
      let written ← canonicalJson state
      let _ ← decodeInitializedWorkspace written
      let receipt ← initializedReceipt state
      return (state, receipt)

end

/-! ## One workspace for a tenant -/

section

variable [FloatText] {s s' : StorageBundle} {t : Id} {w : WorkspaceScaffold}

theorem getScaffold_ok_iff : s.getScaffold t = .ok (some w) ↔
    s.scaffolds.find? t = some w ∧
      ∃ p, canonicalPolicyJson p = .ok w.policyJson ∧ p.tenantId = t := by
  rw [getScaffold]
  cases hid : isTenantId t with
  | false =>
      simp only [Bool.not_false, if_true]
      constructor
      · intro h
        cases h
      · rintro ⟨-, p, hp, rfl⟩
        rw [(canonicalPolicyJson_ok_iff.mp hp).1.1] at hid
        cases hid
  | true =>
      simp only [Bool.not_true, Bool.false_eq_true, if_false]
      cases hrow : s.scaffolds.find? t with
      | none => simp
      | some row =>
          simp only [except_bind_eq_ok]
          constructor
          · rintro ⟨p, hp, h⟩
            split at h
            · cases h
            next htenant =>
              cases h
              exact ⟨rfl, p, policyFromCanonicalJson_ok_iff.mp hp, not_not.mp htenant⟩
          · rintro ⟨hsame, p, hp, htenant⟩
            cases hsame
            exact ⟨p, policyFromCanonicalJson_ok_iff.mpr hp, if_neg (not_not.mpr htenant)⟩

/-- The organization of a workspace with this policy. -/
def organizationOf (p : TenantPolicy) : Organization :=
  { id := p.tenantId, name := p.displayName, policyVersion := p.version }

theorem reopen_of_scaffold {p : TenantPolicy} (hrow : s.scaffolds.find? p.tenantId = some w)
    (hp : canonicalPolicyJson p = .ok w.policyJson) :
    s.reopen p.tenantId =
      (foldWorkspace p.tenantId (.new (organizationOf p)) (s.commandLog.iterRows p.tenantId)).map
        fun ledger => ⟨w, p, ledger⟩ := by
  have hscaffold := getScaffold_ok_iff.mpr ⟨hrow, p, hp, rfl⟩
  rw [reopen, hscaffold]
  simp only [bind, Except.bind, policyFromCanonicalJson_ok_iff.mpr hp]
  rw [organizationOf]
  cases foldWorkspace _ _ _ <;> rfl

theorem reopen_ok {r : ReopenedWorkspace} (h : s.reopen t = .ok r) :
    s.scaffolds.find? t = some r.scaffold ∧
      canonicalPolicyJson r.policy = .ok r.scaffold.policyJson ∧ r.policy.tenantId = t ∧
        foldWorkspace t (.new (organizationOf r.policy)) (s.commandLog.iterRows t) =
          .ok r.ledger := by
  rw [reopen] at h
  obtain ⟨found, hfound, h⟩ := except_bind_eq_ok.mp h
  cases found with
  | none => cases h
  | some w =>
      obtain ⟨hrow, p, hp, rfl⟩ := getScaffold_ok_iff.mp hfound
      obtain ⟨policy, hpolicy, h⟩ := except_bind_eq_ok.mp h
      rw [policyFromCanonicalJson_ok_iff.mpr hp] at hpolicy
      cases hpolicy
      obtain ⟨ledger, hledger, h⟩ := except_bind_eq_ok.mp h
      cases h
      exact ⟨hrow, hp, rfl, hledger⟩

variable [OutboxOrder]

/-- A call leaves the workspaces that are there. -/
theorem scaffold_kept (h : s.scaffolds.find? t = some w) (c : StorageCall) :
    (step s c).scaffolds.find? t = some w := by
  by_cases hc : c.tenant = some t
  · cases c with
    | createWorkspace policy idempotencyKey =>
        cases hc
        rw [step]
        split
        next r hr =>
          obtain ⟨-, ⟨hnone, -⟩ | ⟨-, hsame⟩⟩ := create_ok_iff.mp hr
          · rw [h] at hnone
            cases hnone
          · rw [hsame]
            exact h
        next => exact h
    | upsertTenant record now => exact h
    | appendCommand c =>
        rw [step]
        split <;> exact h
    | saveLedger l =>
        rw [step]
        split <;> exact h
    | outbox c => exact h
  · rw [(step_others hc).scaffold]
    exact h

theorem scaffold_kept_run (h : s.scaffolds.find? t = some w) (calls : List StorageCall) :
    (run step s calls).scaffolds.find? t = some w :=
  run_invariant (P := fun s : StorageBundle => s.scaffolds.find? t = some w)
    (fun _ c h (_ : True) => scaffold_kept h c) h (along_of_forall fun _ _ => trivial)

omit [OutboxOrder] in
/-- What a create leaves under its tenant. -/
theorem created {policy : TenantPolicy} {idempotencyKey : String}
    (h : s.create policy idempotencyKey = .ok (w, s')) :
    canonicalPolicyJson policy = .ok w.policyJson ∧ Text.isBlank idempotencyKey = false ∧
      w.tenantId = policy.tenantId ∧ w.idempotencyKey = idempotencyKey ∧
        s'.scaffolds.find? policy.tenantId = some w := by
  obtain ⟨⟨document, hdocument, hkey, rfl⟩, ⟨-, -, rfl⟩ | ⟨hrow, rfl⟩⟩ := create_ok_iff.mp h
  · exact ⟨hdocument, hkey, rfl, rfl, Table.find?_put_self s.scaffolds _⟩
  · exact ⟨hdocument, hkey, rfl, rfl, hrow⟩

/-- Once a workspace is created, whatever is called next: a create for its tenant succeeds just
when it is for the same policy under the same key, it finds the workspace and changes nothing,
and the workspace is reopened with that policy and the commands of its own log. -/
theorem created_once {policy : TenantPolicy} {idempotencyKey : String}
    (h : s.create policy idempotencyKey = .ok (w, s')) (calls : List StorageCall) :
    let s'' := run step s' calls
    (∀ p key r, p.tenantId = policy.tenantId →
      (s''.create p key = .ok r ↔ (p = policy ∧ key = idempotencyKey) ∧ r = (w, s''))) ∧
    s''.reopen policy.tenantId =
      (foldWorkspace policy.tenantId (.new (organizationOf policy))
        (s''.commandLog.iterRows policy.tenantId)).map fun ledger => ⟨w, policy, ledger⟩ := by
  intro s''
  obtain ⟨hdocument, hkey, htenant, hidem, hrow⟩ := created h
  have hrow' : s''.scaffolds.find? policy.tenantId = some w := scaffold_kept_run hrow calls
  refine ⟨?_, reopen_of_scaffold hrow' hdocument⟩
  rintro p key ⟨w', s₁⟩ hsame
  rw [create_ok_iff, hsame, hrow']
  constructor
  · rintro ⟨⟨document, hp, -, rfl⟩, ⟨hnone, -⟩ | ⟨hsome, rfl⟩⟩
    · cases hnone
    · cases hsome
      have hpolicy := policyFromCanonicalJson_ok_iff.mpr hp
      rw [policyFromCanonicalJson_ok_iff.mpr hdocument] at hpolicy
      exact ⟨⟨(Except.ok.inj hpolicy).symm, hidem⟩, rfl⟩
  · rintro ⟨⟨rfl, rfl⟩, hr⟩
    cases hr
    refine ⟨⟨_, hdocument, hkey, ?_⟩, .inr ⟨rfl, rfl⟩⟩
    cases w
    cases htenant
    cases hidem
    rfl

end

namespace Sample

attribute [local instance] FloatText.asGiven OutboxOrder.stable

theorem example_created : ∃ w s', create TenantPolicy.example_ "key-1" {} = .ok (w, s') := by
  have hdocument := (canonicalPolicyJson_ok_iff (p := TenantPolicy.example_)).mpr
    ⟨⟨by decide, by decide, by decide⟩, rfl⟩
  exact ⟨_, _, create_ok_iff.mpr ⟨⟨_, hdocument, by decide, rfl⟩, .inl ⟨rfl, rfl, rfl⟩⟩⟩

theorem example_kept : ∃ w s', create TenantPolicy.example_ "key-1" {} = .ok (w, s') ∧
    ∀ calls, let s'' := run step s' calls
    (∀ p key r, p.tenantId = "example" →
      (s''.create p key = .ok r ↔ (p = TenantPolicy.example_ ∧ key = "key-1") ∧ r = (w, s''))) ∧
    s''.reopen "example" =
      (foldWorkspace "example" (.new (organizationOf TenantPolicy.example_))
        (s''.commandLog.iterRows "example")).map fun ledger =>
          ⟨w, TenantPolicy.example_, ledger⟩ := by
  obtain ⟨w, s', h⟩ := example_created
  exact ⟨w, s', h, fun calls => created_once h calls⟩

end Sample

/-! ## An initialized workspace -/

section

variable {s : StorageBundle}

theorem existing_false_iff {t : Id} :
    (s.existing t).find? (·.2) = none ↔ ∀ e ∈ s.existing t, e.2 = false := by
  simp only [List.find?_eq_none, Bool.not_eq_true]

/-- A tenant without rows has an empty log. -/
theorem iterRows_of_existing {t : Id} (h : ∀ e ∈ s.existing t, e.2 = false) :
    s.commandLog.iterRows t = [] := by
  have hlog := h ("ledger_command_log", s.commandLog.rows.any fun row => row.tenantId = t)
    (List.mem_cons_of_mem _ List.mem_cons_self)
  refine List.filter_eq_nil_iff.mpr fun row hrow htenant => ?_
  exact List.any_eq_false.mp hlog row hrow htenant

variable [FloatText] [Digest] [DecimalFloats]

/-- The document of an artifact is read back as itself. -/
theorem verifyReadback_self {p : TenantPolicy} {key blockBelow recommendHigh : String}
    (h : Builds p key blockBelow recommendHigh) {document : String}
    (hdocument : canonicalJson (scaffoldOf p key blockBelow recommendHigh) = .ok document) :
    ∃ r, verifyReadback document document = .ok r := by
  obtain ⟨⟨hs, -⟩, ht, -⟩ := h.decimals
  obtain ⟨hportable, rfl⟩ := canonicalJson_ok_iff.mp hdocument
  have hkeyed := keyed_scaffoldOf p key blockBelow recommendHigh
  have hpolicy := decodeScaffold_ok_iff.mpr (decoded_of_builds h hs ht)
  have hloads := loads_textOf hkeyed hportable
  have hpart (k v : String) (hv : (scaffoldOf p key blockBelow recommendHigh).field? k =
      some (.str v)) := part_of_sorted hkeyed.sorted hkeyed (Json.sorted_sorted _) hv
  rw [verifyReadback, hpolicy, hloads]
  simp only [bind, Except.bind, require, decide_true, if_true, Option.getD_some,
    hpart "tenant_id" _ rfl, hpart "idempotency_key" _ rfl, hpart "policy_sha256" _ rfl]
  exact ⟨_, rfl⟩

/-- The state of a workspace is read back, with sorted keys. -/
theorem initialized_read {p : TenantPolicy} {key : String} {artifact : Json}
    (h : buildScaffold p key = .ok artifact) :
    decodeInitializedWorkspace (textOf (stateOf p artifact)) = .ok (stateOf p artifact).sorted := by
  have hread := initializedIn_iff.mpr ⟨p, key, artifact, h, rfl, textOf_sorted _⟩
  rw [decodeInitializedWorkspace, hread]

omit [DecimalFloats] in
/-- The state of a workspace is that of its artifact and of a ledger with nothing in it. -/
theorem initializedState_of_built {p : TenantPolicy} {key : String} {artifact : Json}
    (h : buildScaffold p key = .ok artifact) :
    initializedState artifact (emptyEntities p) = .ok (stateOf p artifact) := by
  obtain ⟨blockBelow, recommendHigh, -, rfl⟩ := buildScaffold_ok_iff.mp h
  have hkeyed := keyed_scaffoldOf p key blockBelow recommendHigh
  exact initializedState_of (part_of_sorted hkeyed hkeyed rfl rfl)

theorem verify_ok_iff {document : String} {state receipt : Json} :
    s.verifyInitializedWorkspace document = .ok (state, receipt) ↔
      ∃ p key policyJson artifact,
        canonicalPolicyJson p = .ok policyJson ∧ buildScaffold p key = .ok artifact ∧
        canonicalJson artifact = .ok document ∧
        s.scaffolds.find? p.tenantId = some ⟨p.tenantId, key, policyJson⟩ ∧
        (∀ e ∈ s.existing p.tenantId, e.2 = false) ∧
        state = stateOf p artifact ∧ initializedReceipt state = .ok receipt := by
  constructor
  · intro h
    obtain ⟨p₁, hp₁, h⟩ := except_bind_eq_ok.mp h
    obtain ⟨r, hr, h⟩ := except_bind_eq_ok.mp h
    obtain ⟨artifact, hartifact, h⟩ := except_bind_eq_ok.mp h
    obtain ⟨persisted, hpersisted, h⟩ := except_bind_eq_ok.mp h
    obtain ⟨readback, hreadback, h⟩ := except_bind_eq_ok.mp h
    obtain ⟨hrow, hpolicy, htenant, hledger⟩ := reopen_ok hr
    have hsame : document = persisted := by
      simp only [verifyReadback, except_bind_eq_ok, require_ok_iff] at hreadback
      obtain ⟨-, -, -, -, -, hsame, -⟩ := hreadback
      exact of_decide_eq_true hsame
    split at h
    · cases h
    next hempty =>
      have hnone := existing_false_iff.mp hempty
      rw [iterRows_of_existing hnone] at hledger
      have hentities : r.ledger.snapshotLedgerEntities = emptyEntities r.policy := by
        rw [← Except.ok.inj hledger]
        rfl
      obtain ⟨state', hstate, h⟩ := except_bind_eq_ok.mp h
      obtain ⟨written, -, h⟩ := except_bind_eq_ok.mp h
      obtain ⟨-, -, h⟩ := except_bind_eq_ok.mp h
      obtain ⟨receipt', hreceipt, h⟩ := except_bind_eq_ok.mp h
      cases h
      rw [hentities, initializedState_of_built hartifact] at hstate
      cases hstate
      have hkey : r.scaffold.tenantId = p₁.tenantId := Table.key_of_find? hrow
      refine ⟨r.policy, r.scaffold.idempotencyKey, r.scaffold.policyJson, _, hpolicy, hartifact,
        hsame ▸ hpersisted, ?_, htenant ▸ hnone, rfl, hreceipt⟩
      rw [htenant, hrow, ← hkey]
  · rintro ⟨p, key, policyJson, artifact, hpolicy, hartifact, hdocument, hrow, hnone, rfl, hreceipt⟩
    obtain ⟨blockBelow, recommendHigh, hbuilds, rfl⟩ := buildScaffold_ok_iff.mp hartifact
    obtain ⟨⟨hs, -⟩, ht, -⟩ := hbuilds.decimals
    have hp₁ := decodeScaffold_ok_iff.mpr (decoded_of_builds hbuilds hs ht)
    obtain ⟨readback, hreadback⟩ := verifyReadback_self hbuilds hdocument
    obtain ⟨hportable, rfl⟩ := canonicalJson_ok_iff.mp hdocument
    have hreopen := reopen_of_scaffold hrow hpolicy
    rw [iterRows_of_existing hnone] at hreopen
    have hstate := initializedState_of_built hartifact
    have hwritten := canonicalJson_ok_iff.mpr ⟨(isPortable_stateOf p _).trans hportable, rfl⟩
    have hread := initialized_read hartifact
    have htable := existing_false_iff.mpr hnone
    simp only [verifyInitializedWorkspace, except_bind_eq_ok]
    refine ⟨_, hp₁, _, hreopen, _, hartifact, _, hdocument, _, hreadback, ?_⟩
    rw [show (withFloats p hs ht).tenantId = p.tenantId from rfl, htable]
    simp only [except_bind_eq_ok]
    exact ⟨_, hstate, _, hwritten, _, hread, _, hreceipt, rfl⟩

omit [DecimalFloats] in
/-- There is a receipt of every artifact's state. -/
theorem receipt_of_built {p : TenantPolicy} {key : String} {artifact : Json}
    (h : buildScaffold p key = .ok artifact) : ∃ receipt,
      initializedReceipt (stateOf p artifact) = .ok receipt ∧
        canonicalJson receipt = .ok (textOf receipt) := by
  obtain ⟨blockBelow, recommendHigh, -, rfl⟩ := buildScaffold_ok_iff.mp h
  have hportable := isPortable_scaffoldOf p key blockBelow recommendHigh
  have hscaffold : policyHash (scaffoldOf p key blockBelow recommendHigh) = .ok
      (Digest.sha256 (textOf (scaffoldOf p key blockBelow recommendHigh))) := by
    rw [policyHash, canonicalJson_ok_iff.mpr ⟨hportable, rfl⟩]
    rfl
  have hstate : policyHash (stateOf p (scaffoldOf p key blockBelow recommendHigh)) = .ok
      (Digest.sha256 (textOf (stateOf p (scaffoldOf p key blockBelow recommendHigh)))) := by
    rw [policyHash, canonicalJson_ok_iff.mpr ⟨(isPortable_stateOf p _).trans hportable, rfl⟩]
    rfl
  have hpart : part (stateOf p (scaffoldOf p key blockBelow recommendHigh)) "scaffold" some =
      .ok (scaffoldOf p key blockBelow recommendHigh) := rfl
  rw [initializedReceipt]
  simp only [bind, Except.bind, hpart, hscaffold, hstate]
  exact ⟨_, rfl, canonicalJson_ok_iff.mpr ⟨rfl, rfl⟩⟩

omit [Digest] [DecimalFloats] in
/-- The first create of a tenant's workspace finds, and leaves, no other row of the tenant. -/
theorem created_unused {s' : StorageBundle} {p : TenantPolicy} {key : String}
    {w : WorkspaceScaffold} (hfresh : s.scaffolds.find? p.tenantId = none)
    (hcreate : s.create p key = .ok (w, s')) : ∀ e ∈ s'.existing p.tenantId, e.2 = false := by
  obtain ⟨-, ⟨-, hany, rfl⟩ | ⟨hsome, -⟩⟩ := create_ok_iff.mp hcreate
  · intro e he
    exact Bool.not_eq_true _ ▸ List.any_eq_false.mp hany e he
  · rw [hfresh] at hsome
    cases hsome

/-- A storage is accepted for the artifact of the policy and key that the tenant's workspace
was created with, as long as its other tables have no row of the tenant; the state and the
receipt that come out pass their own validators. -/
theorem verified_iff (s : StorageBundle) (document : String) (state receipt : Json) :
    (s.verifyInitializedWorkspace document = .ok (state, receipt) ↔
      ∃ p key policyJson artifact,
        canonicalPolicyJson p = .ok policyJson ∧ buildScaffold p key = .ok artifact ∧
        canonicalJson artifact = .ok document ∧
        s.scaffolds.find? p.tenantId = some ⟨p.tenantId, key, policyJson⟩ ∧
        (∀ e ∈ s.existing p.tenantId, e.2 = false) ∧
        state = stateOf p artifact ∧ initializedReceipt state = .ok receipt) ∧
    (s.verifyInitializedWorkspace document = .ok (state, receipt) →
      decodeInitializedWorkspace (textOf state) = .ok state.sorted ∧
        validateInitializedReceipt (textOf receipt) state = .ok ()) := by
  refine ⟨verify_ok_iff, fun h => ?_⟩
  obtain ⟨p, key, policyJson, artifact, -, hartifact, hdocument, -, -, rfl, hreceipt⟩ :=
    verify_ok_iff.mp h
  have hread := initialized_read hartifact
  have hportable := (canonicalJson_ok_iff.mp hdocument).1
  have hwritten := canonicalJson_ok_iff.mpr ⟨(isPortable_stateOf p _).trans hportable, rfl⟩
  obtain ⟨receipt', hreceipt', htext⟩ := receipt_of_built hartifact
  rw [hreceipt] at hreceipt'
  cases hreceipt'
  refine ⟨hread, ?_⟩
  simp only [validateInitializedReceipt, except_bind_eq_ok, require_ok_iff]
  exact ⟨_, hwritten, _, hread, _, hreceipt, _, htext, decide_eq_true rfl⟩

end

namespace Sample

open Portable.Sample

attribute [local instance] floats Digest.plain decimalFloats

theorem example_canonical_created :
    ∃ w s', create TenantPolicy.example_ "key-1" {} = .ok (w, s') := by
  obtain ⟨document, hdocument⟩ := example_builds.canonical
  exact ⟨_, _, create_ok_iff.mpr ⟨⟨document, hdocument, by decide, rfl⟩, .inl ⟨rfl, rfl, rfl⟩⟩⟩

theorem example_verified : ∃ w s' state receipt,
    create TenantPolicy.example_ "key-1" {} = .ok (w, s') ∧
      s'.verifyInitializedWorkspace
        (textOf (scaffoldOf TenantPolicy.example_ "key-1" "0.75" "0.95")) = .ok (state, receipt) ∧
      validateInitializedReceipt (textOf receipt) state = .ok () := by
  obtain ⟨w, s', hcreate⟩ := example_canonical_created
  obtain ⟨hpolicy, -, htenant, hkey, hrow⟩ := created hcreate
  obtain ⟨receipt, hreceipt, -⟩ := receipt_of_built example_built
  have hscaffold : s'.scaffolds.find? TenantPolicy.example_.tenantId =
      some ⟨TenantPolicy.example_.tenantId, "key-1", w.policyJson⟩ := by
    rw [hrow, ← htenant, ← hkey]
  have hverified := (verified_iff s' _ _ receipt).1.mpr ⟨_, "key-1", w.policyJson, _, hpolicy,
    example_built, canonicalJson_scaffoldOf _ _ _ _, hscaffold, created_unused rfl hcreate, rfl,
    hreceipt⟩
  exact ⟨w, s', _, receipt, hcreate, hverified, ((verified_iff s' _ _ receipt).2 hverified).2⟩

end Sample

/-! ## The first row of a tenant -/

section

variable [FloatText]

/-- Whether the call puts a row of the tenant into one of its tables. -/
def uses (t : Id) (s : StorageBundle) : StorageCall → Bool
  | .createWorkspace .. => false
  | .upsertTenant record _ => decide (record.tenantId = t)
  | .appendCommand c => decide (c.tenantId = t) && (s.commandLog.append c).isOk
  | .saveLedger l => decide (l.organization.id = t)
  | .outbox (.append a) => decide (a.tenantId = t) && (s.outbox.find? a.eid).isNone
  | .outbox _ => false

variable {s : StorageBundle} {t : Id}

omit [FloatText] in
theorem existing_none_iff : (∀ e ∈ s.existing t, e.2 = false) ↔
    s.tenants.find? t = none ∧ s.commandLog.iterRows t = [] ∧
      (s.ledger.ledgerEntity.rows.any fun row => row.tenantId = t) = false ∧
        s.ledger.ledgerMeta.find? t = none ∧
          (s.outbox.rows.any fun row => row.tenantId = t) = false := by
  rw [SqlLedgerCommandLog.iterRows, List.filter_eq_nil_iff, ← List.any_eq_false]
  simp only [existing, List.forall_mem_cons, List.not_mem_nil, false_imp_iff, implies_true,
    and_true, Option.isSome_eq_false_iff, Option.isNone_iff_eq_none]

omit [FloatText] in
/-- A command that is logged is among the rows of its tenant. -/
theorem iterRows_append_ne_nil {c : AppendCall} {log log' : SqlLedgerCommandLog}
    (h : log.append c = .ok log') : log'.iterRows c.tenantId ≠ [] := by
  unfold SqlLedgerCommandLog.append at h
  split at h
  next payload resultJson _ _ =>
    simp only at h
    split at h
    · cases h
    next row hrow =>
      split at h
      · cases h
      · cases h
        rw [SqlLedgerCommandLog.fetch] at hrow
        have hkey : row.key = c.key := by simpa using List.find?_some hrow
        refine List.ne_nil_of_mem (a := row) (List.mem_filter.mpr ?_)
        exact ⟨List.mem_of_find?_eq_some hrow, decide_eq_true (congrArg Prod.fst hkey)⟩
  next => cases h

variable [OutboxOrder]

/-- A call that puts a row of the tenant into a table leaves one there. -/
theorem not_unused_of_uses {c : StorageCall} (h : uses t s c = true) :
    ¬ ∀ e ∈ (step s c).existing t, e.2 = false := by
  rw [existing_none_iff]
  rintro ⟨hrecord, hlog, -, hmeta, hevents⟩
  cases c with
  | createWorkspace policy idempotencyKey => cases h
  | upsertTenant record now =>
      cases of_decide_eq_true h
      rw [step, SqlTenantRepository.upsert, Table.find?_put] at hrecord
      simp only [if_true] at hrecord
      cases hrecord
  | appendCommand c =>
      obtain ⟨htenant, hok⟩ := (Bool.and_eq_true _ _).mp h
      cases of_decide_eq_true htenant
      rw [step] at hlog
      cases hr : s.commandLog.append c with
      | error exc =>
          rw [hr] at hok
          cases hok
      | ok log =>
          rw [hr] at hlog
          exact iterRows_append_ne_nil hr hlog
  | saveLedger l =>
      cases of_decide_eq_true h
      obtain ⟨r, hr, -, hrow⟩ := LedgerEntityRepository.saveLedger_ok l s.ledger
      rw [step, hr] at hmeta
      rw [hmeta] at hrow
      cases hrow
  | outbox c =>
      cases c with
      | append a =>
          obtain ⟨htenant, hnone⟩ := (Bool.and_eq_true _ _).mp h
          cases of_decide_eq_true htenant
          rw [step, SqlOutboxStore.any_tenant_append_self] at hevents
          · cases hevents
          · intro row hrow
            rw [hrow] at hnone
            cases hnone
      | claim limit => cases h
      | mark eventId publishedAt now => cases h

/-- … and one that does not leaves the tables of the tenant without rows, if they were. -/
theorem existing_of_not_uses {c : StorageCall} (h : uses t s c = false) :
    (step s c).existing t = s.existing t := by
  by_cases hc : c.tenant = some t
  · cases c with
    | createWorkspace policy idempotencyKey =>
        rw [step]
        split
        next r hr =>
          obtain ⟨-, ⟨-, -, hput⟩ | ⟨-, hkept⟩⟩ := create_ok_iff.mp hr
          · rw [hput]
            rfl
          · rw [hkept]
        next => rfl
    | upsertTenant record now =>
        cases hc
        cases (decide_eq_false_iff_not.mp h) rfl
    | appendCommand c =>
        cases hc
        rw [step]
        split
        next log hr =>
          simp [uses, hr, Except.isOk, Except.toBool] at h
        next => rfl
    | saveLedger l =>
        cases hc
        cases (decide_eq_false_iff_not.mp h) rfl
    | outbox c =>
        cases c with
        | append a =>
            cases hc
            have hsome : (s.outbox.find? a.eid).isSome = true := by
              cases hrow : s.outbox.find? a.eid with
              | some row => rfl
              | none => simp [uses, hrow] at h
            rw [step, OutboxCall.step, SqlOutboxStore.append, if_pos hsome]
        | claim limit => cases hc
        | mark eventId publishedAt now => cases hc
  · exact (step_others hc).existing

/-- Over a run the tables of a tenant stay without rows just when no call puts one. -/
theorem existing_run {calls : List StorageCall} :
    (∀ e ∈ (run step s calls).existing t, e.2 = false) ↔
      (∀ e ∈ s.existing t, e.2 = false) ∧ Along step (fun s c => uses t s c = false) s calls := by
  induction calls generalizing s with
  | nil => simp [Along]
  | cons c cs ih =>
      rw [run_cons, ih, Along]
      cases huses : uses t s c with
      | true =>
          constructor
          · rintro ⟨h, -⟩
            exact absurd h (not_unused_of_uses huses)
          · rintro ⟨-, h, -⟩
            cases h
      | false =>
          rw [existing_of_not_uses huses]
          simp

end

section

variable [FloatText] [Digest] [DecimalFloats] [OutboxOrder]

omit [OutboxOrder] in
/-- An artifact's document names one tenant. -/
theorem tenant_of_document {p p' : TenantPolicy} {key key' document : String}
    {artifact artifact' : Json} (h : buildScaffold p key = .ok artifact)
    (hdocument : canonicalJson artifact = .ok document) (h' : buildScaffold p' key' = .ok artifact')
    (hdocument' : canonicalJson artifact' = .ok document) : p.tenantId = p'.tenantId := by
  obtain ⟨s, t, hbuilds, rfl⟩ := buildScaffold_ok_iff.mp h
  obtain ⟨s', t', hbuilds', rfl⟩ := buildScaffold_ok_iff.mp h'
  obtain ⟨⟨hs, -⟩, ht, -⟩ := hbuilds.decimals
  obtain ⟨⟨hs', -⟩, ht', -⟩ := hbuilds'.decimals
  have hdecoded := decoded_of_builds hbuilds hs ht
  have hdecoded' := decoded_of_builds hbuilds' hs' ht'
  rw [(canonicalJson_ok_iff.mp hdocument).2] at hdecoded
  rw [(canonicalJson_ok_iff.mp hdocument').2, hdecoded] at hdecoded'
  have hsame := Option.some.inj hdecoded'
  show (withFloats p hs ht).tenantId = (withFloats p' hs' ht').tenantId
  rw [hsame]

end

namespace Sample

open Portable.Sample

attribute [local instance] floats Digest.plain decimalFloats OutboxOrder.stable

end Sample

end StorageBundle

end ImpactRelay
