/-
# `Storage.Bundle` — the storage root of all tenants

The tables behind `open_storage` and the calls that write to them: workspace scaffolds
(`storage/workspace.py`), the tenant registry (`storage/tenants.py`), the ledger command log,
the ledger snapshots and the outbox.  A call runs in one transaction; one that raises leaves
the tables as they were.  The engine is SQLite.

    what a tenant finds in its storage does not depend on others   (`tenants_apart`)
-/
import ImpactRelay.Storage.CommandLog
import ImpactRelay.Storage.Outbox
import ImpactRelay.Storage.Policy

namespace ImpactRelay

open Raise Policy

/-! ## The tenant registry -/

/-- Registered nonprofit. -/
structure TenantRecord where
  tenantId : Id
  displayName : String
  policyVersion : String
  policySlug : String
  status : String := "active"
  templateSource : Option String := none
  createdAt : String := ""
  updatedAt : String := ""
  meta_ : Option Json := none

/-- The rows of `tenants`. -/
abbrev SqlTenantRepository := Table TenantRecord.tenantId

namespace SqlTenantRepository

/-- `INSERT … ON CONFLICT(tenant_id) DO UPDATE`: the first `created_at` stays. -/
def upsert (record : TenantRecord) (now : String) (s : SqlTenantRepository) :
    SqlTenantRepository :=
  let created := if record.createdAt = "" then now else record.createdAt
  let createdAt := ((s.find? record.tenantId).map TenantRecord.createdAt).getD created
  s.put { record with createdAt, updatedAt := now, meta_ := some (orEmpty record.meta_).sorted }

end SqlTenantRepository

/-! ## Workspaces -/

structure WorkspaceScaffold where
  tenantId : Id
  idempotencyKey : String
  policyJson : String
deriving DecidableEq

/-- Tenant already has a different immutable scaffold request. -/
def workspaceConflict (msg : String) : PyExc :=
  ⟨.other "impact_relay.storage.workspace" "WorkspaceConflict", msg⟩

structure StorageBundle where
  scaffolds : Table WorkspaceScaffold.tenantId := .empty
  tenants : SqlTenantRepository := .empty
  commandLog : SqlLedgerCommandLog := {}
  ledger : LedgerEntityRepository := {}
  outbox : SqlOutboxStore := .empty

namespace StorageBundle

/-- Which of the tables have a row of the tenant. -/
def existing (tenantId : Id) (s : StorageBundle) : List (String × Bool) := [
  ("tenants", (s.tenants.find? tenantId).isSome),
  ("ledger_command_log", s.commandLog.rows.any fun row => row.tenantId = tenantId),
  ("ledger_entity", s.ledger.ledgerEntity.rows.any fun row => row.tenantId = tenantId),
  ("ledger_meta", (s.ledger.ledgerMeta.find? tenantId).isSome),
  ("outbox_events", s.outbox.rows.any fun row => row.tenantId = tenantId)]

section

variable [FloatText]

structure ReopenedWorkspace where
  scaffold : WorkspaceScaffold
  policy : TenantPolicy
  ledger : Ledger

/-- Create the workspace of a tenant, or find that the same one is there. -/
def create (policy : TenantPolicy) (idempotencyKey : String) (s : StorageBundle) :
    Except PyExc (WorkspaceScaffold × StorageBundle) := do
  let policyJson ← canonicalPolicyJson policy
  if Text.isBlank idempotencyKey then .error ⟨.valueError, "idempotency_key is required"⟩
  else
    let expected : WorkspaceScaffold := { tenantId := policy.tenantId, idempotencyKey, policyJson }
    match s.scaffolds.find? policy.tenantId with
    | none =>
        if (s.existing policy.tenantId).any (·.2) then
          .error (workspaceConflict "existing tenant storage requires explicit migration")
        else .ok (expected, { s with scaffolds := s.scaffolds.put expected })
    | some actual =>
        if actual ≠ expected then .error (workspaceConflict "workspace idempotency conflict")
        else .ok (actual, s)

def getScaffold (tenantId : Id) (s : StorageBundle) : Except PyExc (Option WorkspaceScaffold) :=
  if !isTenantId tenantId then .error (policyError "invalid literal tenant_id")
  else
    match s.scaffolds.find? tenantId with
    | none => .ok none
    | some row => do
        let policy ← policyFromCanonicalJson row.policyJson
        if policy.tenantId ≠ tenantId then .error (policyError "workspace policy tenant mismatch")
        else .ok (some row)

end

/-- Whether an entity of the result belongs to another organization. -/
def foreignEntity (tenantId : Id) (groups : List (String × Json)) : Bool :=
  groups.any fun group => group.2.fields.any fun entity =>
    match entity.2.field? "organization_id" with
    | some organizationId => decide (organizationId ≠ .str tenantId)
    | none => false

/-- `for group in result.get("entities", {}).values(): …`. -/
def checkEntities (tenantId : Id) (result : Json) : Except PyExc Unit :=
  match (result.field? "entities").getD (.obj []) with
  | .obj groups =>
      if foreignEntity tenantId groups then
        .error (ledgerLogError "cross-tenant entity in workspace command log")
      else .ok ()
  | entities =>
      .error ⟨.attributeError, s!"'{entities.typeName}' object has no attribute 'values'"⟩

/-- Fold the rows of a workspace's command log. -/
def foldWorkspace (tenantId : Id) (l : Ledger) : List LoggedCommand → Except PyExc Ledger
  | [] => .ok l
  | row :: rows => do
      checkEntities tenantId row.resultJson
      let l' ← l.applyResultJson row.resultJson
      foldWorkspace tenantId l' rows

section

variable [FloatText]

def reopen (tenantId : Id) (s : StorageBundle) : Except PyExc ReopenedWorkspace := do
  match ← s.getScaffold tenantId with
  | none => .error (keyError tenantId)
  | some scaffold =>
      let policy ← policyFromCanonicalJson scaffold.policyJson
      let organization : Organization :=
        { id := tenantId, name := policy.displayName, policyVersion := policy.version }
      let ledger ← foldWorkspace tenantId (.new organization) (s.commandLog.iterRows tenantId)
      return { scaffold, policy, ledger }

end

end StorageBundle

/-! ## Calls -/

section

variable [FloatText]

inductive StorageCall where
  | createWorkspace (policy : TenantPolicy) (idempotencyKey : String)
  | upsertTenant (record : TenantRecord) (now : String)
  | appendCommand (c : AppendCall)
  | saveLedger (l : Ledger)
  | outbox (c : OutboxCall)

namespace StorageCall

/-- The tenant that a call is for; a claim and a mark are for none. -/
def tenant : StorageCall → Option Id
  | createWorkspace policy _ => some policy.tenantId
  | upsertTenant record _ => some record.tenantId
  | appendCommand c => some c.tenantId
  | saveLedger l => some l.organization.id
  | outbox (.append a) => some a.tenantId
  | outbox _ => none

variable [OutboxOrder]

def step (s : StorageBundle) : StorageCall → StorageBundle
  | createWorkspace policy idempotencyKey =>
      match s.create policy idempotencyKey with
      | .ok r => r.2
      | .error _ => s
  | upsertTenant record now => { s with tenants := s.tenants.upsert record now }
  | appendCommand c =>
      match s.commandLog.append c with
      | .ok commandLog => { s with commandLog }
      | .error _ => s
  | saveLedger l =>
      match s.ledger.saveLedger l with
      | .ok ledger => { s with ledger }
      | .error _ => s
  | outbox c => { s with outbox := c.step s.outbox }

end StorageCall

end

/-! ## What a tenant finds -/

namespace StorageBundle

/-- The two storages hold the same for the tenant. -/
structure SameFor (t : Id) (s s' : StorageBundle) : Prop where
  scaffold : s.scaffolds.find? t = s'.scaffolds.find? t
  record : s.tenants.find? t = s'.tenants.find? t
  log : s.commandLog.iterRows t = s'.commandLog.iterRows t
  entities : (s.ledger.ledgerEntity.rows.filter fun row => row.tenantId = t) =
    s'.ledger.ledgerEntity.rows.filter fun row => row.tenantId = t
  meta_ : s.ledger.ledgerMeta.find? t = s'.ledger.ledgerMeta.find? t
  events : (s.outbox.rows.any fun row => row.tenantId = t) =
    s'.outbox.rows.any fun row => row.tenantId = t

section

variable {t : Id} {s s' s'' : StorageBundle}

theorem SameFor.refl (t : Id) (s : StorageBundle) : SameFor t s s := ⟨rfl, rfl, rfl, rfl, rfl, rfl⟩

theorem SameFor.trans (h : SameFor t s s') (h' : SameFor t s' s'') : SameFor t s s'' where
  scaffold := h.scaffold.trans h'.scaffold
  record := h.record.trans h'.record
  log := h.log.trans h'.log
  entities := h.entities.trans h'.entities
  meta_ := h.meta_.trans h'.meta_
  events := h.events.trans h'.events

theorem any_eq_isEmpty_filter {α : Type} (p : α → Bool) (xs : List α) :
    xs.any p = !(xs.filter p).isEmpty := by
  induction xs with
  | nil => rfl
  | cons x xs ih => cases hx : p x <;> simp [hx, ih]

theorem SameFor.existing (h : SameFor t s s') : s.existing t = s'.existing t := by
  have hlog := h.log
  rw [SqlLedgerCommandLog.iterRows, SqlLedgerCommandLog.iterRows] at hlog
  simp only [StorageBundle.existing, h.record, h.meta_, h.events, any_eq_isEmpty_filter,
    h.entities, hlog]

end

section

variable [FloatText] {t : Id} {s s' : StorageBundle}

theorem SameFor.create {policy : TenantPolicy} (h : SameFor policy.tenantId s s')
    (idempotencyKey : String) : (s.create policy idempotencyKey).map Prod.fst =
      (s'.create policy idempotencyKey).map Prod.fst := by
  simp only [StorageBundle.create, h.scaffold, h.existing]
  cases canonicalPolicyJson policy with
  | error exc => rfl
  | ok document =>
      simp only [bind, Except.bind]
      split
      · rfl
      · split
        · split <;> rfl
        · split <;> rfl

theorem SameFor.getScaffold (h : SameFor t s s') : s.getScaffold t = s'.getScaffold t := by
  rw [StorageBundle.getScaffold, StorageBundle.getScaffold, h.scaffold]

theorem SameFor.reopen (h : SameFor t s s') : s.reopen t = s'.reopen t := by
  rw [StorageBundle.reopen, StorageBundle.reopen, h.getScaffold, h.log]

end

end StorageBundle

/-! ## One call -/

namespace LedgerEntityRepository

theorem insertEntities_rows {rows : List LedgerEntityRow} {t t' : Table LedgerEntityRow.key}
    (h : insertEntities t rows = .ok t') : t'.rows = t.rows ++ rows := by
  induction rows generalizing t with
  | nil =>
      cases h
      exact (List.append_nil _).symm
  | cons row rows ih =>
      rw [insertEntities] at h
      split at h
      · cases h
      next hnew =>
        have hput : (t.put row).rows = t.rows ++ [row] :=
          Dict.values_set_of_not_mem (Dict.get?_eq_none.mp (Option.not_isSome_iff_eq_none.mp hnew))
        rw [ih h, hput, List.append_assoc]
        rfl

/-- A save leaves the snapshots of other tenants alone. -/
theorem saveLedger_others {l : Ledger} {s s' : LedgerEntityRepository} (h : saveLedger l s = .ok s')
    {t : Id} (ht : t ≠ l.organization.id) :
    (s'.ledgerEntity.rows.filter fun row => row.tenantId = t) =
        (s.ledgerEntity.rows.filter fun row => row.tenantId = t) ∧
      s'.ledgerMeta.find? t = s.ledgerMeta.find? t := by
  obtain ⟨entities, hentities, h⟩ := except_bind_eq_ok.mp h
  obtain ⟨meta_, hmeta, h⟩ := except_bind_eq_ok.mp h
  cases h
  constructor
  · rw [insertEntities_rows hentities, Table.rows_deleteWhere, List.filter_append,
      List.filter_filter]
    have hnew : ((entityRows l.organization.id l.snapshotLedgerEntities).filter fun row =>
        row.tenantId = t) = [] := by
      refine List.filter_eq_nil_iff.mpr fun row hrow heq => ht ?_
      exact (of_decide_eq_true heq).symm.trans (entityRows_tenant row hrow)
    rw [hnew, List.append_nil]
    refine List.filter_congr fun row _ => ?_
    by_cases hrow : row.tenantId = t
    · simp [hrow, ht]
    · simp [hrow]
  · rw [insertMeta] at hmeta
    split at hmeta
    · cases hmeta
    · cases hmeta
      have hdeleted : (s.ledgerMeta.deleteWhere fun row => row.tenantId = l.organization.id).find? t =
          (s.ledgerMeta.find? t).filter fun row => !decide (row.tenantId = l.organization.id) :=
        Dict.get?_filter _ s.ledgerMeta.dict t
      show (Table.put _ _).find? t = _
      rw [Table.find?_put, if_neg ht, hdeleted]
      cases hrow : s.ledgerMeta.find? t with
      | none => rfl
      | some row =>
          have hkey : row.tenantId = t := Table.key_of_find? hrow
          simp [hkey, ht]

/-- A save leaves the same under the tenant, whatever there was before. -/
theorem saveLedger_alike (l : Ledger) (s s' : LedgerEntityRepository) : ∃ r r',
    saveLedger l s = .ok r ∧ saveLedger l s' = .ok r' ∧
      (r.ledgerEntity.rows.filter fun row => row.tenantId = l.organization.id) =
        (r'.ledgerEntity.rows.filter fun row => row.tenantId = l.organization.id) ∧
      r.ledgerMeta.find? l.organization.id = r'.ledgerMeta.find? l.organization.id := by
  obtain ⟨r, hr, hentities, hmeta⟩ := saveLedger_ok l s
  obtain ⟨r', hr', hentities', hmeta'⟩ := saveLedger_ok l s'
  exact ⟨r, r', hr, hr', hentities.trans hentities'.symm, hmeta.trans hmeta'.symm⟩

end LedgerEntityRepository

namespace SqlTenantRepository

theorem find?_upsert_ne {record : TenantRecord} {now : String} {s : SqlTenantRepository} {t : Id}
    (h : t ≠ record.tenantId) : (s.upsert record now).find? t = s.find? t :=
  Table.find?_put_ne h

theorem find?_upsert_self {record : TenantRecord} {now : String} {s s' : SqlTenantRepository}
    (h : s.find? record.tenantId = s'.find? record.tenantId) :
    (s.upsert record now).find? record.tenantId =
      (s'.upsert record now).find? record.tenantId := by
  simp only [upsert, h, Table.find?_put, if_true]

end SqlTenantRepository

namespace SqlLedgerCommandLog

variable {t : Id}

/-- A row under a key is among those of its tenant. -/
theorem fetch_tenant (k : String) (rows : List LoggedCommand) :
    fetch (t, k) rows = fetch (t, k) (rows.filter fun row => row.tenantId = t) := by
  rw [fetch, fetch, List.find?_filter]
  congr 1
  funext row
  by_cases h : row.tenantId = t <;> simp [LogRow.key, h]

theorem iterRows_insert_others {row : LoggedCommand} {rows : List LoggedCommand}
    (h : row.tenantId ≠ t) : iterRows t ⟨insert row rows⟩ = iterRows t ⟨rows⟩ := by
  simp only [iterRows, insert]
  split
  · rfl
  · simp [h]

theorem iterRows_insert_self {row : LoggedCommand} {rows : List LoggedCommand}
    (h : row.tenantId = t) : iterRows t ⟨insert row rows⟩ = insert row (iterRows t ⟨rows⟩) := by
  have hfetch := fetch_tenant (t := t) row.idempotencyKey rows
  have hkey : row.key = (t, row.idempotencyKey) := by rw [LogRow.key, h]
  simp only [iterRows, insert, hkey, ← hfetch]
  split
  · rfl
  · simp [h]

/-- The command of one tenant is not seen by another. -/
theorem append_others {c : AppendCall} {log log' : SqlLedgerCommandLog}
    (h : log.append c = .ok log') (ht : c.tenantId ≠ t) : log'.iterRows t = log.iterRows t := by
  unfold append at h
  split at h
  next payload resultJson _ _ =>
    simp only at h
    split at h
    · cases h
    · split at h
      · cases h
      · cases h
        exact iterRows_insert_others ht
  next => cases h

/-- What a command does to its tenant's rows depends on these alone. -/
theorem append_alike {c : AppendCall} {log log' : SqlLedgerCommandLog}
    (h : log.iterRows c.tenantId = log'.iterRows c.tenantId) :
    (log.append c).map (iterRows c.tenantId) = (log'.append c).map (iterRows c.tenantId) := by
  unfold append
  split
  next payload resultJson _ _ =>
    have hrows (log : SqlLedgerCommandLog) :
        iterRows c.tenantId ⟨insert (c.row payload resultJson) log.rows⟩ =
          insert (c.row payload resultJson) (log.iterRows c.tenantId) :=
      iterRows_insert_self rfl
    have hsame := (hrows log).trans ((congrArg _ h).trans (hrows log').symm)
    have hfetch : fetch c.key (insert (c.row payload resultJson) log.rows) =
        fetch c.key (insert (c.row payload resultJson) log'.rows) :=
      (fetch_tenant c.idempotencyKey _).trans
        ((congrArg (fetch c.key) hsame).trans (fetch_tenant c.idempotencyKey _).symm)
    simp only [hfetch]
    split
    · rfl
    · split
      · rfl
      · exact congrArg Except.ok hsame
  next => rfl

end SqlLedgerCommandLog

namespace SqlOutboxStore

theorem any_tenant_iff {s : SqlOutboxStore} {t : Id} :
    (s.rows.any fun row => row.tenantId = t) = true ↔
      ∃ k row, s.find? k = some row ∧ row.tenantId = t := by
  rw [List.any_eq_true]
  constructor
  · rintro ⟨row, hrow, ht⟩
    exact ⟨_, row, Table.mem_rows.mp hrow, of_decide_eq_true ht⟩
  · rintro ⟨k, row, hrow, ht⟩
    refine ⟨row, Table.mem_rows.mpr ?_, decide_eq_true ht⟩
    rw [Table.key_of_find? hrow]
    exact hrow

/-- Changes to the rows under their keys, which leave the tenants as they are. -/
theorem any_tenant_map {s s' : SqlOutboxStore} {f : Id → OutboxEvent → OutboxEvent}
    (h : ∀ k, s'.find? k = (s.find? k).map (f k)) (hf : ∀ k row, (f k row).tenantId = row.tenantId)
    (t : Id) : (s'.rows.any fun row => row.tenantId = t) = s.rows.any fun row => row.tenantId = t := by
  rw [Bool.eq_iff_iff, any_tenant_iff, any_tenant_iff]
  constructor
  · rintro ⟨k, row', hrow', ht⟩
    rw [h] at hrow'
    obtain ⟨row, hrow, rfl⟩ := Option.map_eq_some_iff.mp hrow'
    exact ⟨k, row, hrow, (hf k row).symm.trans ht⟩
  · rintro ⟨k, row, hrow, ht⟩
    exact ⟨k, f k row, by rw [h, hrow, Option.map_some], (hf k row).trans ht⟩

variable [OutboxOrder]

theorem any_tenant_claim (limit : Int) (s : SqlOutboxStore) (t : Id) :
    ((OutboxCall.step s (.claim limit)).rows.any fun row => row.tenantId = t) =
      s.rows.any fun row => row.tenantId = t := by
  refine any_tenant_map (OutboxCall.find?_claim limit s) (fun k row => ?_) t
  split <;> rfl

omit [OutboxOrder] in
theorem any_tenant_mark (eventId : Id) (publishedAt : Option String) (now : String)
    (s : SqlOutboxStore) (t : Id) :
    ((s.markPublished eventId publishedAt now).rows.any fun row => row.tenantId = t) =
      s.rows.any fun row => row.tenantId = t := by
  refine any_tenant_map (find?_markPublished s eventId publishedAt now) (fun k row => ?_) t
  split <;> rfl

theorem any_tenant_append_others {a : OutboxAppend} {t : Id} (ht : a.tenantId ≠ t)
    (s : SqlOutboxStore) : ((OutboxCall.step s (.append a)).rows.any fun row => row.tenantId = t) =
      s.rows.any fun row => row.tenantId = t := by
  rw [OutboxCall.step, append]
  split
  next s' h =>
    split at h
    · cases h
    next hnew =>
      cases h
      have hrows : (s.put a.row).rows = s.rows ++ [a.row] :=
        Dict.values_set_of_not_mem (Dict.get?_eq_none.mp (Option.not_isSome_iff_eq_none.mp hnew))
      rw [hrows, List.any_append]
      simp [OutboxAppend.row, ht]
  next => rfl

/-- Once it has appended an event, a tenant has one. -/
theorem any_tenant_append_self {a : OutboxAppend} {s : SqlOutboxStore}
    (hown : ∀ row, s.find? a.eid = some row → row.tenantId = a.tenantId) :
    ((OutboxCall.step s (.append a)).rows.any fun row => row.tenantId = a.tenantId) = true := by
  rw [any_tenant_iff, OutboxCall.step, append]
  cases hfound : s.find? a.eid with
  | some row => exact ⟨_, row, hfound, hown row hfound⟩
  | none => exact ⟨_, a.row, Table.find?_put_self s a.row, rfl⟩

end SqlOutboxStore

/-! ## One call, for another tenant and for its own -/

namespace StorageBundle

/-- What a create that succeeds returns, and what it does. -/
theorem create_ok_iff [FloatText] {policy : TenantPolicy} {idempotencyKey : String}
    {s s' : StorageBundle} {w : WorkspaceScaffold} :
    s.create policy idempotencyKey = .ok (w, s') ↔
      (∃ policyJson, canonicalPolicyJson policy = .ok policyJson ∧
        Text.isBlank idempotencyKey = false ∧ w = ⟨policy.tenantId, idempotencyKey, policyJson⟩) ∧
      (s.scaffolds.find? policy.tenantId = none ∧
          (s.existing policy.tenantId).any (·.2) = false ∧
          s' = { s with scaffolds := s.scaffolds.put w } ∨
        s.scaffolds.find? policy.tenantId = some w ∧ s' = s) := by
  rw [create]
  cases hpolicy : canonicalPolicyJson policy with
  | error exc => simp [bind, Except.bind]
  | ok policyJson =>
      simp only [bind, Except.bind]
      cases hkey : Text.isBlank idempotencyKey with
      | true => simp
      | false =>
          cases hrow : s.scaffolds.find? policy.tenantId with
          | none =>
              cases hany : (s.existing policy.tenantId).any (·.2) with
              | true => simp
              | false =>
                  simp only [Bool.false_eq_true, if_false, Except.ok.injEq, Prod.mk.injEq]
                  constructor
                  · rintro ⟨rfl, rfl⟩
                    exact ⟨⟨policyJson, rfl, trivial, rfl⟩, .inl ⟨trivial, trivial, rfl⟩⟩
                  · rintro ⟨⟨_, rfl, -, rfl⟩, ⟨-, -, rfl⟩ | ⟨hsome, -⟩⟩
                    · exact ⟨rfl, rfl⟩
                    · cases hsome
          | some actual =>
              simp only [Bool.false_eq_true, if_false]
              constructor
              · intro h
                split at h
                · cases h
                next hsame =>
                  cases h
                  exact ⟨⟨policyJson, rfl, trivial, not_not.mp hsame⟩, .inr ⟨rfl, rfl⟩⟩
              · rintro ⟨⟨_, hok, -, rfl⟩, ⟨hnone, -⟩ | ⟨hsome, rfl⟩⟩
                · cases hnone
                · cases hok
                  cases hsome
                  simp

theorem outbox_create [FloatText] {policy : TenantPolicy} {idempotencyKey : String}
    {s : StorageBundle} {r : WorkspaceScaffold × StorageBundle}
    (h : s.create policy idempotencyKey = .ok r) : r.2.outbox = s.outbox := by
  obtain ⟨-, ⟨-, -, hput⟩ | ⟨-, hsame⟩⟩ := create_ok_iff.mp h
  · rw [hput]
  · rw [hsame]

/-- What a create does for a tenant depends on what the tenant finds. -/
theorem SameFor.created [FloatText] {policy : TenantPolicy} {idempotencyKey : String}
    {s s' : StorageBundle} {r r' : WorkspaceScaffold × StorageBundle}
    (h : SameFor policy.tenantId s s') (hr : s.create policy idempotencyKey = .ok r)
    (hr' : s'.create policy idempotencyKey = .ok r') : SameFor policy.tenantId r.2 r'.2 := by
  obtain ⟨w, s₁⟩ := r
  obtain ⟨w', s₁'⟩ := r'
  obtain ⟨⟨document, hdocument, -, rfl⟩, hcase⟩ := create_ok_iff.mp hr
  obtain ⟨⟨document', hdocument', -, rfl⟩, hcase'⟩ := create_ok_iff.mp hr'
  rw [hdocument] at hdocument'
  cases hdocument'
  rcases hcase with ⟨hnone, -, rfl⟩ | ⟨hsome, rfl⟩
  · rcases hcase' with ⟨-, -, rfl⟩ | ⟨hsome', -⟩
    · refine ⟨?_, h.record, h.log, h.entities, h.meta_, h.events⟩
      rw [Table.find?_put, Table.find?_put]
      simp only [if_true]
    · rw [h.scaffold, hsome'] at hnone
      cases hnone
  · rcases hcase' with ⟨hnone', -, -⟩ | ⟨-, rfl⟩
    · rw [h.scaffold, hnone'] at hsome
      cases hsome
    · exact h

end StorageBundle

namespace StorageCall

open StorageBundle

/-- The tenant and identifier of an event that the call appends. -/
def appended [FloatText] : StorageCall → Option (Id × Id)
  | outbox (.append a) => some (a.eid, a.tenantId)
  | _ => none

/-- Every event of the storage was appended by one of the calls. -/
def Appended [FloatText] (calls : List StorageCall) (s : StorageBundle) : Prop :=
  ∀ k row, s.outbox.find? k = some row → ∃ c ∈ calls, c.appended = some (k, row.tenantId)

section

variable [FloatText] [OutboxOrder] {t : Id} {s s' : StorageBundle} {c : StorageCall}

/-- A call for another tenant changes nothing for this one. -/
theorem step_others (hc : c.tenant ≠ some t) : SameFor t (step s c) s := by
  cases c with
  | createWorkspace policy idempotencyKey =>
      rw [step]
      split
      next r h =>
        obtain ⟨⟨policyJson, -, -, hw⟩, ⟨-, -, hput⟩ | ⟨-, hsame⟩⟩ := create_ok_iff.mp h
        · rw [hput]
          have hne : t ≠ r.1.tenantId := fun heq => hc (by rw [tenant, heq, hw])
          exact ⟨Table.find?_put_ne hne, rfl, rfl, rfl, rfl, rfl⟩
        · rw [hsame]
          exact .refl t s
      next => exact .refl t s
  | upsertTenant record now =>
      have hne : t ≠ record.tenantId := fun heq => hc (congrArg some heq.symm)
      exact ⟨rfl, SqlTenantRepository.find?_upsert_ne hne, rfl, rfl, rfl, rfl⟩
  | appendCommand c =>
      rw [step]
      split
      next log h =>
        have hne : c.tenantId ≠ t := fun heq => hc (congrArg some heq)
        exact ⟨rfl, rfl, SqlLedgerCommandLog.append_others h hne, rfl, rfl, rfl⟩
      next => exact .refl t s
  | saveLedger l =>
      rw [step]
      split
      next ledger h =>
        have hne : t ≠ l.organization.id := fun heq => hc (congrArg some heq.symm)
        obtain ⟨hentities, hmeta⟩ := LedgerEntityRepository.saveLedger_others h hne
        exact ⟨rfl, rfl, rfl, hentities, hmeta, rfl⟩
      next => exact .refl t s
  | outbox c =>
      refine ⟨rfl, rfl, rfl, rfl, rfl, ?_⟩
      cases c with
      | append a => exact SqlOutboxStore.any_tenant_append_others (fun heq => hc (congrArg some heq)) _
      | claim limit => exact SqlOutboxStore.any_tenant_claim limit s.outbox t
      | mark eventId publishedAt now =>
          exact SqlOutboxStore.any_tenant_mark eventId publishedAt now s.outbox t

end

section

variable [FloatText] [OutboxOrder] {t : Id} {s s' : StorageBundle} {c : StorageCall}
  {calls : List StorageCall}

omit [FloatText] [OutboxOrder] in
/-- Two calls that tell the same both fail, or both return what tells the same. -/
theorem alike_of_map {ε α β : Type} {r r' : Except ε α} {f : α → β} (h : r.map f = r'.map f) :
    (∃ e e', r = .error e ∧ r' = .error e') ∨ ∃ a a', r = .ok a ∧ r' = .ok a' ∧ f a = f a' := by
  cases r with
  | error e =>
      cases r' with
      | error e' => exact .inl ⟨e, e', rfl, rfl⟩
      | ok a' => cases h
  | ok a =>
      cases r' with
      | error e' => cases h
      | ok a' => exact .inr ⟨a, a', rfl, rfl, Except.ok.inj h⟩

/-- A call for the tenant sees what the tenant finds, and nothing else. -/
theorem step_alike (h : SameFor t s s') (hc : c.tenant = some t)
    (hown : ∀ k, c.appended = some (k, t) → ∀ row,
      (s.outbox.find? k = some row ∨ s'.outbox.find? k = some row) → row.tenantId = t) :
    SameFor t (step s c) (step s' c) := by
  cases c with
  | createWorkspace policy idempotencyKey =>
      cases hc
      obtain ⟨e, e', hr, hr'⟩ | ⟨r, r', hr, hr', -⟩ := alike_of_map (h.create idempotencyKey)
      · rw [step, step, hr, hr']
        exact h
      · rw [step, step, hr, hr']
        exact h.created hr hr'
  | upsertTenant record now =>
      cases hc
      exact ⟨h.scaffold, SqlTenantRepository.find?_upsert_self h.record, h.log, h.entities,
        h.meta_, h.events⟩
  | appendCommand c =>
      cases hc
      obtain ⟨e, e', hr, hr'⟩ | ⟨log, log', hr, hr', hlog⟩ :=
        alike_of_map (SqlLedgerCommandLog.append_alike h.log)
      · rw [step, step, hr, hr']
        exact h
      · rw [step, step, hr, hr']
        exact ⟨h.scaffold, h.record, hlog, h.entities, h.meta_, h.events⟩
  | saveLedger l =>
      cases hc
      obtain ⟨r, r', hr, hr', hentities, hmeta⟩ :=
        LedgerEntityRepository.saveLedger_alike l s.ledger s'.ledger
      rw [step, step, hr, hr']
      exact ⟨h.scaffold, h.record, h.log, hentities, hmeta, h.events⟩
  | outbox c =>
      refine ⟨h.scaffold, h.record, h.log, h.entities, h.meta_, ?_⟩
      cases c with
      | append a =>
          cases hc
          rw [step, step, SqlOutboxStore.any_tenant_append_self,
            SqlOutboxStore.any_tenant_append_self]
          · exact fun row hrow => hown a.eid rfl row (.inr hrow)
          · exact fun row hrow => hown a.eid rfl row (.inl hrow)
      | claim limit => cases hc
      | mark eventId publishedAt now => cases hc

/-- A call brings in no event but the one that it appends. -/
theorem appended_step (h : Appended calls s) (hc : c ∈ calls) : Appended calls (step s c) := by
  intro k row hrow
  cases c with
  | createWorkspace policy idempotencyKey =>
      rw [step] at hrow
      split at hrow
      next r hr =>
        rw [outbox_create hr] at hrow
        exact h k row hrow
      next => exact h k row hrow
  | upsertTenant record now => exact h k row hrow
  | appendCommand c =>
      rw [step] at hrow
      split at hrow <;> exact h k row hrow
  | saveLedger l =>
      rw [step] at hrow
      split at hrow <;> exact h k row hrow
  | outbox c =>
      obtain ⟨row', hbefore, htenant⟩ | ⟨a, rfl, rfl, rfl⟩ := OutboxCall.found_step hrow
      · exact htenant ▸ h k row' hbefore
      · exact ⟨_, hc, rfl⟩

end

/-! ## A run -/

/-- The calls for a tenant. -/
def own [FloatText] (t : Id) (calls : List StorageCall) : List StorageCall :=
  calls.filter fun c => c.tenant = some t

/-- Nobody else appends an event under an identifier of the tenant's. -/
def OwnEvents [FloatText] (t : Id) (calls : List StorageCall) : Prop :=
  ∀ c ∈ calls, ∀ c' ∈ calls, ∀ k t', c.appended = some (k, t) → c'.appended = some (k, t') → t' = t

/-- Two states alike to a tenant, with no events but those the calls append. -/
def Related [FloatText] (t : Id) (calls : List StorageCall) (s s' : StorageBundle) : Prop :=
  SameFor t s s' ∧ Appended calls s ∧ Appended calls s'

section

variable [FloatText] [OutboxOrder] {t : Id} {calls : List StorageCall}

theorem run_alike (hown : OwnEvents t calls) :
    SameFor t (run step {} calls) (run step {} (own t calls)) := by
  suffices h : Related t calls (run step {} calls) (run step {} (own t calls)) from h.1
  refine run_filter ?_ ?_ ⟨.refl t {}, fun k row hrow => ?_, fun k row hrow => ?_⟩
  · rintro c hc htenant s s' ⟨halike, hs, hs'⟩
    refine ⟨step_alike halike (of_decide_eq_true htenant) ?_, appended_step hs hc,
      appended_step hs' hc⟩
    rintro k hk row (hrow | hrow)
    · obtain ⟨c', hc', hk'⟩ := hs k row hrow
      exact hown c hc c' hc' k row.tenantId hk hk'
    · obtain ⟨c', hc', hk'⟩ := hs' k row hrow
      exact hown c hc c' hc' k row.tenantId hk hk'
  · rintro c hc htenant s s' ⟨halike, hs, hs'⟩
    exact ⟨(step_others (of_decide_eq_false htenant)).trans halike, appended_step hs hc, hs'⟩
  · cases hrow
  · cases hrow

variable [Json.CharTable]

/-- What a tenant finds after a run of calls for all tenants is what it would find after its
own calls alone: its workspace and what a create says, its registration, what an append says
and which ledgers its log and its snapshot are read back as. -/
theorem tenants_apart (hown : OwnEvents t calls) :
    let s := run step {} calls
    let s' := run step {} (own t calls)
    s.reopen t = s'.reopen t ∧
      (∀ policy idempotencyKey, policy.tenantId = t →
        (s.create policy idempotencyKey).map Prod.fst =
          (s'.create policy idempotencyKey).map Prod.fst) ∧
      s.tenants.find? t = s'.tenants.find? t ∧
      (∀ c : AppendCall, c.tenantId = t →
        (s.commandLog.append c).map (SqlLedgerCommandLog.iterRows t) =
          (s'.commandLog.append c).map (SqlLedgerCommandLog.iterRows t)) ∧
      (∀ organization baseLedger, organization.id = t →
        s.commandLog.rehydrate organization baseLedger =
          s'.commandLog.rehydrate organization baseLedger) ∧
      (∀ order organization tenantId,
        LedgerEntityRepository.requested organization tenantId = t →
          s.ledger.loadLedger order organization tenantId =
            s'.ledger.loadLedger order organization tenantId) := by
  intro s s'
  have h : SameFor t s s' := run_alike hown
  refine ⟨h.reopen, ?_, h.record, ?_, ?_, ?_⟩
  · rintro policy idempotencyKey rfl
    exact h.create idempotencyKey
  · rintro c rfl
    exact SqlLedgerCommandLog.append_alike h.log
  · rintro organization baseLedger rfl
    simp only [SqlLedgerCommandLog.rehydrate, h.log]
  · rintro order organization tenantId rfl
    rw [LedgerEntityRepository.loadLedger, LedgerEntityRepository.loadLedger, h.meta_, h.entities]

end

namespace Sample

attribute [local instance] FloatText.asGiven OutboxOrder.stable Json.CharTable.all

def registered (tenantId displayName : String) : TenantRecord :=
  { tenantId, displayName, policyVersion := "v1", policySlug := tenantId }

def publishes (tenantId eventId : String) : StorageCall :=
  .outbox (.append {
    tenantId, topic := "receipt.published", payload := .obj [], eventId := some eventId,
    newId := "obx_0", now := "2026-01-01" })

def policy (tenantId version : String) : TenantPolicy :=
  { TenantPolicy.example_ with tenantId, version }

def organization (tenantId : String) : Organization := { id := tenantId, name := tenantId }

def logs (tenantId idempotencyKey : String) : AppendCall where
  tenantId := tenantId
  idempotencyKey := idempotencyKey
  commandType := "import_normalized_expense"
  payload := []
  resultJson := [(.text "entities", .list [])]
  payload_distinct := by decide
  resultJson_distinct := by decide

/-- What a tenant stores when it is set up. -/
def setUp (tenantId eventId : String) : List StorageCall := [
  .createWorkspace (policy tenantId "v1") "create",
  .upsertTenant (registered tenantId tenantId) "2026-01-01",
  .appendCommand (logs tenantId "first"), .saveLedger (.new (organization tenantId)),
  publishes tenantId eventId]

/-- Two tenants that are set up, a claim of their events, and more for the first. -/
def calls : List StorageCall := setUp "org_a" "e1" ++ setUp "org_b" "e2" ++ [
  .outbox (.claim 10), .upsertTenant (registered "org_a" "A and friends") "2026-01-03",
  .appendCommand (logs "org_b" "second"), .createWorkspace (policy "org_b" "v2") "create"]

theorem own_events : OwnEvents "org_a" calls := by
  intro c hc c' hc' k t' hk hk'
  have happends : ∀ c ∈ calls, ∀ k t, c.appended = some (k, t) →
      (k, t) = ("e1", "org_a") ∨ (k, t) = ("e2", "org_b") := by
    intro c hc k t hk
    simp only [calls, setUp, List.mem_append, List.mem_cons, List.not_mem_nil, or_false] at hc
    rcases hc with ((rfl | rfl | rfl | rfl | rfl) | rfl | rfl | rfl | rfl | rfl) |
      rfl | rfl | rfl | rfl <;>
      simp [appended, publishes, OutboxAppend.eid, truthyOr] at hk
    · simp [← hk.1, ← hk.2]
    · simp [← hk.1, ← hk.2]
  have hfirst := happends c hc k _ hk
  have hsecond := happends c' hc' k t' hk'
  simp only [Prod.mk.injEq] at hfirst hsecond
  rcases hfirst with ⟨rfl, -⟩ | ⟨-, hb⟩
  · rcases hsecond with ⟨-, ht⟩ | ⟨he, -⟩
    · exact ht
    · exact absurd he (by decide)
  · exact absurd hb (by decide)

theorem apart_from_b :
    let s := run step {} calls
    let s' := run step {} (own "org_a" calls)
    s.reopen "org_a" = s'.reopen "org_a" ∧
      (s.create (policy "org_a" "v3") "again").map Prod.fst =
        (s'.create (policy "org_a" "v3") "again").map Prod.fst ∧
      s.tenants.find? "org_a" = s'.tenants.find? "org_a" ∧
      (s.commandLog.append (logs "org_a" "third")).map (SqlLedgerCommandLog.iterRows "org_a") =
        (s'.commandLog.append (logs "org_a" "third")).map
          (SqlLedgerCommandLog.iterRows "org_a") ∧
      s.commandLog.rehydrate (organization "org_a") none =
        s'.commandLog.rehydrate (organization "org_a") none ∧
      ∀ order, s.ledger.loadLedger order (organization "org_a") none =
        s'.ledger.loadLedger order (organization "org_a") none := by
  obtain ⟨hreopen, hcreate, hrecord, hlog, hrehydrate, hload⟩ := tenants_apart own_events
  exact ⟨hreopen, hcreate _ _ rfl, hrecord, hlog _ rfl, hrehydrate _ _ rfl,
    fun order => hload order _ _ rfl⟩

end Sample

end StorageCall

end ImpactRelay
