/-
# `Storage.LedgerRepo` — ledger snapshots in SQL tables

`storage/ledger_repo.py` on a SQLite engine.  A save replaces all rows of the
tenant: one row for each entity, under its type and its identifier, and one with the
organization, the receipts of each expense and the receipt snapshots.  A load gathers
the rows into the maps of a snapshot again and folds them over an empty ledger.

A column holds the value its text is read back as, so the objects in it have sorted
keys.  The query for the entities asks for no order: `order` is the one in which the
engine hands the rows out.  The index of external ids is left out of what is folded,
since the fold does not read it.
-/
import ImpactRelay.Lib.SortedJson
import ImpactRelay.Lib.Table
import ImpactRelay.Domain.Amounts

namespace ImpactRelay

open Raise

/-- A row of `ledger_entity`. -/
structure LedgerEntityRow where
  tenantId : Id
  entityType : String
  entityId : Id
  bodyJson : Json

/-- The primary key. -/
def LedgerEntityRow.key (row : LedgerEntityRow) : Id × String × Id :=
  (row.tenantId, row.entityType, row.entityId)

/-- A row of `ledger_meta`. -/
structure LedgerMetaRow where
  tenantId : Id
  organizationJson : Json
  expenseReceiptsJson : Json
  receiptSnapshotsJson : Json

structure LedgerEntityRepository where
  ledgerEntity : Table LedgerEntityRow.key := .empty
  ledgerMeta : Table LedgerMetaRow.tenantId := .empty

/-- The maps of a snapshot that are kept row by row. -/
def entityMaps : List String := [
  "donors", "donations", "allocations", "donation_allocations", "expenses", "expense_allocations",
  "evidence", "attributions", "receipts"]

/-- `value or {}`. -/
def orEmpty (value : Option Json) : Json :=
  match value with
  | none => .obj []
  | some j => if j.truthy then j else .obj []

/-- `str(value or default)`. -/
def strOr [Json.CharTable] (value : Option Json) (default : String) : String :=
  match value with
  | none => default
  | some (.str s) => if s = "" then default else s
  | some j => if j.truthy then j.pyRepr else default

namespace LedgerEntityRepository

/-- The entity rows of a snapshot, in the order in which they are inserted. -/
def entityRows (tenantId : Id) (snap : Json) : List LedgerEntityRow :=
  entityMaps.flatMap fun etype => (itemsOf snap etype).map fun e =>
    ⟨tenantId, etype, e.1, e.2.sorted⟩

def insertEntities (t : Table LedgerEntityRow.key) :
    List LedgerEntityRow → Except PyExc (Table LedgerEntityRow.key)
  | [] => .ok t
  | row :: rows =>
      if (t.find? row.key).isSome then
        .error ⟨.other "sqlite3" "IntegrityError", "UNIQUE constraint failed: ledger_entity.tenant_id, ledger_entity.entity_type, ledger_entity.entity_id"⟩
      else insertEntities (t.put row) rows

def insertMeta (t : Table LedgerMetaRow.tenantId) (row : LedgerMetaRow) :
    Except PyExc (Table LedgerMetaRow.tenantId) :=
  if (t.find? row.tenantId).isSome then
    .error ⟨.other "sqlite3" "IntegrityError", "UNIQUE constraint failed: ledger_meta.tenant_id"⟩
  else .ok (t.put row)

/-- Replace all stored entities of the ledger's organization. -/
def saveLedger (ledger : Ledger) (s : LedgerEntityRepository) :
    Except PyExc LedgerEntityRepository := do
  let tenantId := ledger.organization.id
  let snap := ledger.snapshotLedgerEntities
  let entities := s.ledgerEntity.deleteWhere fun row => row.tenantId = tenantId
  let meta_ := s.ledgerMeta.deleteWhere fun row => row.tenantId = tenantId
  let ledgerEntity ← insertEntities entities (entityRows tenantId snap)
  let ledgerMeta ← insertMeta meta_
    { tenantId, organizationJson := (orEmpty (snap.field? "organization")).sorted,
      expenseReceiptsJson := (orEmpty (snap.field? "expense_receipts")).sorted,
      receiptSnapshotsJson := (orEmpty (snap.field? "receipt_snapshots")).sorted }
  return { ledgerEntity, ledgerMeta }

/-- `entities.setdefault(et, {})[eid] = body`, row by row. -/
def gather (rows : List LedgerEntityRow) : Dict String (Dict Id Json) :=
  rows.foldl
    (fun entities row => entities.set row.entityType
      (((entities.get? row.entityType).getD .empty).set row.entityId row.bodyJson))
    (.ofList (entityMaps.map fun etype => (etype, .empty)))

/-- What a load folds: the maps of the rows, and those of the meta row. -/
def loadedResult (tid : Id) (rows : List LedgerEntityRow) (meta_ : LedgerMetaRow) : Json :=
  let maps := (gather rows).entries.map fun e => (e.1, Json.obj e.2.entries)
  let entities := Json.setField (Json.setField (Json.setField maps
    "expense_receipts" meta_.expenseReceiptsJson)
    "receipt_snapshots" meta_.receiptSnapshotsJson)
    "organization" meta_.organizationJson
  .obj [
    ("command_type", .str "ledger_entity_load"),
    ("idempotency_key", .str s!"load:{tid}"),
    ("entities", .obj entities),
    ("output_refs", .arr [])]

/-- The tenant a load is for; none when it is the empty text. -/
def requested (organization : Option Organization) (tenantId : Option Id) : Id :=
  truthyOr tenantId ((organization.map (·.id)).getD "")

variable [Json.CharTable]

/-- The ledger of the tenant, or nothing when no snapshot is stored. -/
def loadLedger (order : List LedgerEntityRow → List LedgerEntityRow)
    (organization : Option Organization) (tenantId : Option Id) (s : LedgerEntityRepository) :
    Except PyExc (Option Ledger) :=
  let tid := requested organization tenantId
  if tid = "" then .error ⟨.valueError, "tenant_id or organization required"⟩
  else
    match s.ledgerMeta.find? tid with
    | none => .ok none
    | some meta_ =>
        let rows := order (s.ledgerEntity.rows.filter fun row => row.tenantId = tid)
        if organization.any (·.id ≠ tid) then .error ⟨.valueError, "organization id mismatch"⟩
        else do
          let org := organization.getD
            { id := strOr (meta_.organizationJson.field? "id") tid
              name := strOr (meta_.organizationJson.field? "name") tid
              policyVersion := strOr (meta_.organizationJson.field? "policy_version") "v1.0" }
          let ledger ← (Ledger.new org).applyResultJson (loadedResult tid rows meta_)
          return some ledger

end LedgerEntityRepository

end ImpactRelay
