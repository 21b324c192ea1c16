/-
# `Workflows.System` — a store, its workers and the ledgers they share

One process of the service: a workflow store, the tenants' ledgers and workspaces,
and workers that claim, advance and write back, each store call atomic and any two
of them in any order.  An advance is not one step: its worker reads the row, takes
the signals at a gate, executes, marks a signal, commits, and looks at the row
again (`workflows/worker.py`).  What it holds in between is its flight.

`enqueued` and `executed` are the history of the run: every signal a store took,
and every command an advance had executed, with the instance it had read.
-/
import ImpactRelay.Workflows.Runtime
import ImpactRelay.Workflows.Start
import ImpactRelay.Workflows.Store
import Mathlib

namespace ImpactRelay

open WorkflowStore

/-! ## The worker -/

structure WorkerConfig where
  maxAttempts : Nat := 5

namespace WorkflowWorker

/-- `_dead_letter`: the instance it hands over. -/
def deadLetter (nowIso reason : String) (inst : WorkflowInstance) : WorkflowInstance :=
  { inst.releaseLease with
    runStatus := .deadLetter, lastError := some reason }.touch nowIso

def deadLetteredEvent (reason : String) (inst : WorkflowInstance) : WorkflowEventWrite :=
  ⟨.deadLettered, .obj [("reason", .str reason), ("attempts", .num inst.attemptCount)]⟩

/-- What a worker is about to write by itself, and the event that follows. -/
structure Change where
  inst : WorkflowInstance
  event : Option WorkflowEventWrite := none

def dead (nowIso reason : String) (inst : WorkflowInstance) : Change where
  inst := deadLetter nowIso reason inst
  event := some (deadLetteredEvent reason inst)

/-- `_process_one`, before the advance: the attempts are used up. -/
def exhausted (cfg : WorkerConfig) (nowIso : String) (inst : WorkflowInstance) : Option Change :=
  if cfg.maxAttempts ≤ inst.attemptCount then some (dead nowIso "max_attempts_exceeded" inst)
  else none

/-- `_process_one`, after the advance: the end, or a backoff. -/
def settleRetry (cfg : WorkerConfig) (nowIso nextRunAt : String) (inst : WorkflowInstance) :
    Option Change :=
  if inst.runStatus ≠ .retryScheduled then none
  else if cfg.maxAttempts ≤ inst.attemptCount then
    some (dead nowIso "max_attempts_exceeded_after_retry" inst)
  else some { inst := { inst with nextRunAt := some nextRunAt } }

/-- `_handle_process_error`. -/
def handleProcessError (cfg : WorkerConfig) (nowIso nextRunAt : String) (exc : PyExc)
    (inst : WorkflowInstance) : Change :=
  let current := { inst with attemptCount := inst.attemptCount + 1, lastError := some exc.msg }
  if ¬ (classifyError exc).retryable ∨ cfg.maxAttempts ≤ current.attemptCount then
    dead nowIso ("worker_error:" ++ (classifyError exc).reason) current
  else
    { inst := { current.releaseLease with
        runStatus := .retryScheduled, nextRunAt := some nextRunAt } }

end WorkflowWorker

/-! ## The system -/

/-- How far a worker has come with a workflow. -/
inductive Phase where
  /-- claimed, or about to be advanced -/
  | claimed
  /-- `advance_once` has got the row -/
  | got
  /-- … and has taken the signals at its gate -/
  | took (signals : List WorkflowSignal)
  /-- … and has this to hand to the store -/
  | ran (signals : List WorkflowSignal) (outcome : Outcome)
  /-- the advance is over; it may have raised -/
  | over (raised : Option PyExc)
  /-- the worker writes by itself -/
  | changing (change : WorkflowWorker.Change)
  | noting (event : WorkflowEventWrite)

/-- What a worker holds of a workflow: the row as it has read it, and how far it is. -/
structure Flight where
  inst : WorkflowInstance
  phase : Phase

/-- An execution, with the instance its advance had read. -/
structure Executed where
  inst : WorkflowInstance
  execution : Execution

structure System (σ : Type) where
  store : σ
  ledgers : Dict Id Ledger := .empty
  workspaces : Dict Id TenantWorkspace := .empty
  /-- the ledger log of a durable workspace -/
  ledgerLog : Option FileLedgerCommandLog := none
  flights : String × Id → Option Flight := fun _ => none
  enqueued : List WorkflowSignal := []
  executed : List Executed := []

inductive Action where
  | start (x : Surroundings) (request : StartRequest)
  | approve (x : Surroundings) (tenantId workflowId : Id) (approval : ApprovalReceipt)
  /-- any other signal of an operator; `none` is a type the runtime does not know -/
  | operate (x : Surroundings) (tenantId workflowId : Id) (signalType : Option SignalType)
      (fields : List (String × Json))
  | claim (worker : String) (limit : Nat) (now : Datetime) (leaseTtl : Nat)
  /-- a caller that advances without a claim -/
  | pump (worker : String) (tenantId workflowId : Id)
  | get (worker : String) (workflowId : Id)
  | take (worker : String) (workflowId : Id)
  | run (worker : String) (workflowId : Id) (x : Surroundings)
  | write (worker : String) (workflowId : Id) (utcNow : String)
  /-- the worker looks at the row, before an advance or after it -/
  | look (worker : String) (workflowId : Id) (cfg : WorkerConfig) (nowIso nextRunAt : String)
  /-- the worker's process is gone -/
  | drop (worker : String) (workflowId : Id)
  | sweep (now : Datetime)

namespace System

variable {σ : Type} [WorkflowStore σ]

def ledgerOf (S : System σ) (tenantId : Id) : Ledger :=
  (S.ledgers.get? tenantId).getD (.new { id := tenantId, name := tenantId })

def workspaceOf (S : System σ) (tenantId : Id) : TenantWorkspace :=
  (S.workspaces.get? tenantId).getD {}

/-- `executor_factory(inst)`. -/
def executorFor (S : System σ) (inst : WorkflowInstance) : LedgerCommandExecutor :=
  { LedgerCommandExecutor.new (S.ledgerOf inst.tenantId) inst.simulation
      (some (S.workspaceOf inst.tenantId)) with
    receiptStore := some (receipts S.store), ledgerLog := S.ledgerLog }

def setFlight (key : String × Id) (f : Option Flight) (S : System σ) : System σ :=
  { S with flights := Function.update S.flights key f }

def withStore (s : σ) (S : System σ) : System σ := { S with store := s }

/-- Back from an advance: its executor's ledger, workspace, log and receipts are the
shared ones. -/
def land (inst : WorkflowInstance) (a : Advance) (S : System σ) : System σ :=
  { S with
    store := withReceipts (a.executor.receiptStore.getD (receipts S.store)) S.store
    ledgers := S.ledgers.set inst.tenantId a.executor.ledger
    workspaces := S.workspaces.set inst.tenantId
      (a.executor.workspace.getD (S.workspaceOf inst.tenantId))
    ledgerLog := a.executor.ledgerLog
    executed := S.executed ++ a.executed.map fun e => ⟨inst, e⟩ }

/-- The flight after a store call that may have raised. -/
def settled (key : String × Id) (inst : WorkflowInstance) (next : Option Phase) (S : System σ) :
    Except PyExc σ → System σ
  | .ok s => (S.withStore s).setFlight key (next.map (⟨inst, ·⟩))
  | .error exc => S.setFlight key (some ⟨inst, .over (some exc)⟩)

/-- Create the instance and note it. -/
def start (x : Surroundings) (request : StartRequest) (S : System σ) : System σ :=
  match WorkflowRuntime.started x request with
  | .error _ => S
  | .ok inst =>
      match create x.utcNow inst S.store with
      | .error _ => S
      | .ok s =>
          S.withStore (settle s (appendEvents x.utcNow inst.tenantId inst.workflowId
            [WorkflowRuntime.createdEvent inst] s))

/-- Put a signal into the queue of a workflow of the tenant. -/
def enqueue (x : Surroundings) (signal : WorkflowSignal) (S : System σ) : System σ :=
  match enqueueSignalAndWake x.utcNow signal .pending x.clock true S.store with
  | .error _ => S
  | .ok s => { S with store := s, enqueued := S.enqueued ++ [signal] }

def claim (worker : String) (limit : Nat) (now : Datetime) (leaseTtl : Nat) (S : System σ) :
    System σ :=
  match WorkflowStore.claim worker limit now leaseTtl S.store with
  | .error _ => S
  | .ok (claimed, s) => claimed.foldl
      (fun S inst => S.setFlight (worker, inst.workflowId) (some ⟨inst, .claimed⟩))
      (S.withStore s)

/-- `advance_once` from here to what it hands to the store. -/
def runAdvance [Digest] [Json.CharTable] (key : String × Id) (inst : WorkflowInstance)
    (signals : List WorkflowSignal) (x : Surroundings) (S : System σ) : System σ :=
  match (WorkflowRuntime.advanceOnce x inst signals).run ⟨S.executorFor inst, []⟩ with
  | .ok outcome a => (S.land inst a).setFlight key (some ⟨inst, .ran signals outcome⟩)
  | .error exc a => (S.land inst a).setFlight key (some ⟨inst, .over (some exc)⟩)

/-- Hand an outcome to the store. -/
def writeOutcome (key : String × Id) (inst : WorkflowInstance) (signals : List WorkflowSignal)
    (outcome : Outcome) (utcNow : String) (S : System σ) : System σ :=
  match outcome.mark with
  | some signalId =>
      (S.withStore (markSignalConsumed inst.tenantId signalId
        SignalConsumeResult.rejectedInvalid.value S.store)).setFlight key
          (some ⟨inst, .ran signals { outcome with mark := none }⟩)
  | none =>
      match outcome.write with
      | .commit bundle => S.settled key inst (some (.over none)) (commitAdvance utcNow bundle S.store)
      | .update new => S.settled key inst (some (.over none)) (updateInstance utcNow new S.store)
      | .nothing => S.setFlight key (some ⟨inst, .over none⟩)

/-- What the worker makes of the row it looks at; its flight is over if there is nothing
to do. -/
def lookAt (cfg : WorkerConfig) (nowIso nextRunAt : String) (f : Flight) (S : System σ) :
    Option Flight :=
  match f.phase with
  | .claimed => some (match WorkflowWorker.exhausted cfg nowIso f.inst with
      | some change => ⟨f.inst, .changing change⟩
      | none => f)
  | .over none =>
      (WorkflowStore.get S.store f.inst.tenantId f.inst.workflowId).bind fun inst =>
        (WorkflowWorker.settleRetry cfg nowIso nextRunAt inst).map fun change =>
          ⟨inst, .changing change⟩
  | .over (some exc) =>
      let current := (WorkflowStore.get S.store f.inst.tenantId f.inst.workflowId).getD f.inst
      some ⟨current, .changing
        (WorkflowWorker.handleProcessError cfg nowIso nextRunAt exc current)⟩
  | _ => some f

/-- `advance_once` gets the row. -/
def getRow (key : String × Id) (f : Flight) (S : System σ) : System σ :=
  match f.phase with
  | .claimed =>
      match WorkflowStore.get S.store f.inst.tenantId f.inst.workflowId with
      | some inst => S.setFlight key (some ⟨inst, .got⟩)
      | none => S.setFlight key
          (some ⟨f.inst, .over (some (workflowNotFoundError f.inst.workflowId))⟩)
  | _ => S

def takeSignals (key : String × Id) (f : Flight) (S : System σ) : System σ :=
  match f.phase with
  | .got =>
      if f.inst.takesSignals then S.setFlight key (some ⟨f.inst,
        .took (takeUnconsumedSignals f.inst.tenantId f.inst.workflowId S.store)⟩)
      else S
  | _ => S

def runFlight [Digest] [Json.CharTable] (key : String × Id) (f : Flight) (x : Surroundings)
    (S : System σ) : System σ :=
  match f.phase with
  | .got => if f.inst.takesSignals then S else S.runAdvance key f.inst [] x
  | .took signals => S.runAdvance key f.inst signals x
  | _ => S

def writeFlight (key : String × Id) (f : Flight) (utcNow : String) (S : System σ) : System σ :=
  match f.phase with
  | .ran signals outcome => S.writeOutcome key f.inst signals outcome utcNow
  | .changing change => S.settled key f.inst (change.event.map .noting)
      (updateInstance utcNow change.inst S.store)
  | .noting event =>
      (S.withStore (settle S.store
        (appendEvents utcNow f.inst.tenantId f.inst.workflowId [event] S.store))).setFlight key none
  | _ => S

/-- A step of a flight; nothing without one. -/
def onFlight (worker : String) (workflowId : Id)
    (f : String × Id → Flight → System σ → System σ) (S : System σ) : System σ :=
  match S.flights (worker, workflowId) with
  | some flight => f (worker, workflowId) flight S
  | none => S

def step [Digest] [Json.CharTable] (S : System σ) : Action → System σ
  | .start x request => S.start x request
  | .approve x tenantId w approval =>
      match WorkflowRuntime.approvalSignal x tenantId w approval with
      | .ok signal => S.enqueue x signal
      | .error _ => S
  | .operate x tenantId w signalType fields =>
      -- an APPROVAL goes to `signal_approval`
      if signalType = some .approval then S
      else S.enqueue x (WorkflowRuntime.operatorSignal x tenantId w signalType fields)
  | .claim worker limit now leaseTtl => S.claim worker limit now leaseTtl
  | .pump worker tenantId w =>
      match WorkflowStore.get S.store tenantId w with
      | some inst => S.setFlight (worker, w) (some ⟨inst, .claimed⟩)
      | none => S
  | .get worker w => S.onFlight worker w getRow
  | .take worker w => S.onFlight worker w takeSignals
  | .run worker w x => S.onFlight worker w fun key f => runFlight key f x
  | .write worker w utcNow => S.onFlight worker w fun key f => writeFlight key f utcNow
  | .look worker w cfg nowIso nextRunAt => S.onFlight worker w fun key f S =>
      S.setFlight key (S.lookAt cfg nowIso nextRunAt f)
  | .drop worker w => S.setFlight (worker, w) none
  | .sweep now => S.withStore (sweepApprovalTimeouts now S.store).2

end System

end ImpactRelay
