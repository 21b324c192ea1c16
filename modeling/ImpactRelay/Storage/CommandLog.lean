/-
# `Storage.CommandLog` — the ledger command log, in a file and in a table

`FileLedgerCommandLog` of `domain/ledger_log.py` and `SqlLedgerCommandLog` of
`storage/command_log.py` on a SQLite engine, called with whatever values.  The one writes
a line for each key that it has not seen; the other inserts a row unless there is one
under the key, reads the row back and refuses the call when it is another command's.
Both rehydrate a ledger by folding the results of a tenant, in the order in which they
were logged.

`Domain.LedgerLog` has the file as the executor fills it, with snapshots that are JSON
already; here a row has its payload besides, and is what the caller's values are written
as.  A text is kept as the value it is read back as, with the keys in the order in which
they were written: two texts that were written with sorted keys are equal when these
values are.
-/
import ImpactRelay.Lib.PyValue
import ImpactRelay.Storage.RoundTrip

namespace ImpactRelay

open Raise

/-- The arguments of `append`. -/
structure AppendCall where
  tenantId : String
  idempotencyKey : String
  commandType : String
  payload : List (PyKey × PyVal)
  resultJson : List (PyKey × PyVal)
  payload_distinct : (PyVal.dict payload).distinct = true
  resultJson_distinct : (PyVal.dict resultJson).distinct = true

/-- The identity of a command: its tenant and its idempotency key. -/
def AppendCall.key (c : AppendCall) : Id × String := (c.tenantId, c.idempotencyKey)

/-- `"entities" in result_json`. -/
def AppendCall.hasEntities (c : AppendCall) : Bool :=
  c.resultJson.any fun e => e.1 = .text "entities"

/-- What either log reads back. -/
structure LoggedCommand extends LogRow where
  payload : Json

/-- The row of a call, with the values that its payload and result are written as. -/
def AppendCall.row (c : AppendCall) (payload resultJson : Json) : LoggedCommand :=
  { tenantId := c.tenantId, idempotencyKey := c.idempotencyKey, commandType := c.commandType,
    resultJson, payload }

/-! ## The file -/

/-- The lines of the file, and the keys that `append` has seen. -/
structure FileCommandLog where
  seen : List (Id × String) := []
  rows : List LoggedCommand := []

namespace FileCommandLog

theorem lawfulBEq_key : LawfulBEq (Id × String) := inferInstance

/-- Whether a key is among those seen. -/
local instance (key : Id × String) (seen : List (Id × String)) : Decidable (key ∈ seen) :=
  haveI := lawfulBEq_key
  inferInstance

def append (c : AppendCall) (log : FileCommandLog) : Except PyExc FileCommandLog :=
  if c.key ∈ log.seen then .ok log
  else if !c.hasEntities then .error (ledgerLogError "refuse to append result without entities")
  else
    match PyVal.encode PyVal.byCaller (.dict c.payload),
      PyVal.encode PyVal.byCaller (.dict c.resultJson) with
    | some payload, some resultJson =>
        .ok { seen := c.key :: log.seen, rows := log.rows ++ [c.row payload resultJson] }
    | _, _ => .error ⟨.typeError, "not JSON serializable"⟩

/-- The rows of a tenant; all of them when it has no name. -/
def iterRows (tenantId : Id) (log : FileCommandLog) : List LoggedCommand :=
  log.rows.filter fun row => tenantId = "" || row.tenantId = tenantId

def rehydrate (organization : Organization) (baseLedger : Option Ledger) (log : FileCommandLog) :
    Except PyExc Ledger :=
  let ledger := baseLedger.getD (.new organization)
  if ledger.organization.id ≠ organization.id then
    .error (ledgerLogError "base ledger organization mismatch")
  else
    FileLedgerCommandLog.foldRows ledger ((log.iterRows organization.id).map (·.toLogRow))

end FileCommandLog

/-! ## The table -/

/-- The rows of `ledger_command_log`, in the order of `seq`. -/
structure SqlLedgerCommandLog where
  rows : List LoggedCommand := []

namespace SqlLedgerCommandLog

/-- The row under a tenant and key. -/
def fetch (key : Id × String) (rows : List LoggedCommand) : Option LoggedCommand :=
  rows.find? fun row => row.key = key

/-- `INSERT … ON CONFLICT (tenant_id, idempotency_key) DO NOTHING`. -/
def insert (row : LoggedCommand) (rows : List LoggedCommand) : List LoggedCommand :=
  if (fetch row.key rows).isSome then rows else rows ++ [row]

/-- A call that raises rolls its insertion back. -/
def append (c : AppendCall) (log : SqlLedgerCommandLog) : Except PyExc SqlLedgerCommandLog :=
  match PyVal.encode PyVal.bySort (.dict c.payload),
    PyVal.encode PyVal.bySort (.dict c.resultJson) with
  | some payload, some resultJson =>
      let rows := insert (c.row payload resultJson) log.rows
      match fetch c.key rows with
      | none => .error (ledgerLogError "missing ledger command after append")
      | some row =>
          if row.commandType ≠ c.commandType ∨ row.payload.sorted ≠ payload then
            .error (ledgerLogError "ledger command idempotency conflict")
          else .ok { rows }
  | _, _ => .error ⟨.typeError, "keys that are not written, or not compared"⟩

def iterRows (tenantId : Id) (log : SqlLedgerCommandLog) : List LoggedCommand :=
  log.rows.filter fun row => row.tenantId = tenantId

def foldRows (l : Ledger) : List LoggedCommand → Except PyExc Ledger
  | [] => .ok l
  | row :: rows => do
      let l' ← l.applyResultJson row.resultJson
      foldRows l' rows

def rehydrate (organization : Organization) (baseLedger : Option Ledger)
    (log : SqlLedgerCommandLog) : Except PyExc Ledger :=
  match baseLedger with
  | none => foldRows (.new organization) (log.iterRows organization.id)
  | some ledger =>
      if ledger.organization.id ≠ organization.id then
        .error ⟨.valueError, "base_ledger organization mismatch"⟩
      else foldRows ledger (log.iterRows organization.id)

end SqlLedgerCommandLog

end ImpactRelay
