/-
# `Workflows.StoreSql` — the durable store

`SqlWorkflowStore` (`workflows/store_sql.py`) on SQLite, its default: four
tables with their keys.  Every call is one transaction, so a call that raises
leaves the tables as they were.  Timestamps are columns of texts and compared as
texts.  Unlike the in-memory store, it takes a signal in any run status, numbers
the events of a commit on from the caller's instance, and refuses a number that
is taken.
-/
import ImpactRelay.Workflows.StoreMemory

namespace ImpactRelay

open WorkflowInstance WorkflowStore

structure SqlWorkflowStore where
  workflows : Table WorkflowInstance.workflowId := .empty
  workflowEvents : List WorkflowEvent := []
  workflowSignals : List WorkflowSignal := []
  executionReceipts : ReceiptStore := .empty

def integrityError (msg : String) : PyExc := ⟨.other "sqlite3" "IntegrityError", msg⟩

namespace SqlWorkflowStore

def row (s : SqlWorkflowStore) (w : Id) : Option WorkflowInstance := s.workflows.find? w

def signalsOf (s : SqlWorkflowStore) (w : Id) : List WorkflowSignal :=
  s.workflowSignals.filter fun x => x.workflowId = w

/-- The row `WHERE workflow_id=? AND tenant_id=?`. -/
def find (tenantId w : Id) (s : SqlWorkflowStore) : Except PyExc WorkflowInstance :=
  match s.row w with
  | some inst => if inst.tenantId = tenantId then .ok inst else .error (workflowNotFoundError w)
  | none => .error (workflowNotFoundError w)

/-- The inserted row: the column `next_run_at` is not nullable. -/
def inserted (utcNow : String) (inst : WorkflowInstance) : WorkflowInstance :=
  { inst with nextRunAt := some (truthyOr inst.nextRunAt utcNow) }

def create (utcNow : String) (inst : WorkflowInstance) (s : SqlWorkflowStore) :
    Except PyExc SqlWorkflowStore :=
  let sameKey (other : WorkflowInstance) : Bool := other.tenantId = inst.tenantId ∧
    other.workflowType = inst.workflowType ∧ other.businessKey = inst.businessKey
  if (s.row inst.workflowId).isSome ∨ s.workflows.rows.any sameKey then
    .error (workflowConflictError s!"workflow or business_key conflict: {inst.workflowId}")
  else
    .ok { s with workflows := s.workflows.put (inserted utcNow inst) }

def leaseExpired (now : Datetime) (lease : String) : Bool := lease < now.utc.truncate.isoformat

/-- The `WHERE` clause of a claim. -/
def due (nowIso : String) (inst : WorkflowInstance) : Bool :=
  inst.nextRunAt.any (· ≤ nowIso) &&
    (inst.runStatus ∈ claimableRunStatuses ||
      (inst.runStatus = .running && inst.leaseExpiresAt.any (· < nowIso)))

def claim (workerId : String) (limit : Nat) (now : Datetime) (leaseTtl : Nat)
    (s : SqlWorkflowStore) : Except PyExc (List WorkflowInstance × SqlWorkflowStore) :=
  let nowIso := now.utc.truncate.isoformat
  let lease := (now.addSeconds leaseTtl).utc.truncate.isoformat
  let found := InMemoryWorkflowStore.byNextRun (s.workflows.rows.filter (due nowIso))
  let claimed := (found.take limit).map (leaseTo workerId lease nowIso)
  .ok (claimed, { s with workflows := s.workflows.putAll claimed })

/-- The columns of an `UPDATE` from the caller's instance. -/
def updated (utcNow : String) (inst old : WorkflowInstance) : WorkflowInstance :=
  { old with
    workflowState := inst.workflowState, runStatus := inst.runStatus, context := inst.context,
    waitDescriptor := inst.waitDescriptor, waitDeadline := inst.waitDeadline,
    timeoutAppliedAt := inst.timeoutAppliedAt, attemptCount := inst.attemptCount,
    nextRunAt := inst.nextRunAt, leaseOwner := inst.leaseOwner,
    leaseExpiresAt := inst.leaseExpiresAt, lastError := inst.lastError,
    updatedAt := truthyOr (some inst.updatedAt) utcNow, eventSeq := inst.eventSeq,
    policyVersion := inst.policyVersion }

/-- `UPDATE workflows SET … WHERE workflow_id=? AND tenant_id=?`. -/
def updateRow (utcNow : String) (inst : WorkflowInstance)
    (change : WorkflowInstance → WorkflowInstance) (s : SqlWorkflowStore) :
    Except PyExc SqlWorkflowStore := do
  let old ← s.find inst.tenantId inst.workflowId
  if inst.nextRunAt = none then
    .error (integrityError "NOT NULL constraint failed: workflows.next_run_at")
  else return { s with workflows := s.workflows.put (change (updated utcNow inst old)) }

/-- The column only `update_instance` sets. -/
def withSimulation (simulation : Bool) (row : WorkflowInstance) : WorkflowInstance :=
  { row with simulation }

def updateInstance (utcNow : String) (inst : WorkflowInstance) (s : SqlWorkflowStore) :
    Except PyExc SqlWorkflowStore :=
  updateRow utcNow inst (withSimulation inst.simulation) s

/-- The keys of the event table. -/
def eventClash (e e' : WorkflowEvent) : Bool :=
  e.eventId = e'.eventId || (e.workflowId = e'.workflowId && e.seq = e'.seq)

/-- `INSERT INTO workflow_events` of one event after the other. -/
def insertEvents : List WorkflowEvent → SqlWorkflowStore → Except PyExc SqlWorkflowStore
  | [], s => .ok s
  | e :: es, s =>
      if s.workflowEvents.any (eventClash e) then
        .error (integrityError "UNIQUE constraint failed: workflow_events.event_id")
      else insertEvents es { s with workflowEvents := s.workflowEvents ++ [e] }

def setSeq (w : Id) (seq : Nat) (s : SqlWorkflowStore) : SqlWorkflowStore :=
  match s.row w with
  | some inst => { s with workflows := s.workflows.put { inst with eventSeq := seq } }
  | none => s

def appendEvents (utcNow : String) (tenantId w : Id) (writes : List WorkflowEventWrite)
    (s : SqlWorkflowStore) : Except PyExc SqlWorkflowStore := do
  let inst ← s.find tenantId w
  let s' ← insertEvents (numberEvents tenantId w utcNow inst.eventSeq writes) s
  let inst' := { inst with eventSeq := inst.eventSeq + writes.length, updatedAt := utcNow }
  return { s' with workflows := s'.workflows.put inst' }

/-- There is no guard on the run status. -/
def enqueueSignalAndWake (utcNow : String) (signal : WorkflowSignal)
    (newRunStatus : WorkflowRunStatus) (nextRunAt : Datetime) (clearLease : Bool)
    (s : SqlWorkflowStore) : Except PyExc SqlWorkflowStore := do
  let inst ← s.find signal.tenantId signal.workflowId
  if s.workflowSignals.any fun x => x.signalId = signal.signalId then
    .error (integrityError "UNIQUE constraint failed: workflow_signals.signal_id")
  else
    let woken := { inst with
      runStatus := newRunStatus, nextRunAt := some nextRunAt.utc.truncate.isoformat,
      updatedAt := utcNow }
    return { s with
      workflows := s.workflows.put (if clearLease then woken.releaseLease else woken)
      workflowSignals := s.workflowSignals ++
        [{ signal with consumed := false, consumeResult := none }] }

/-- `ORDER BY created_at`. -/
def takeUnconsumedSignals (tenantId w : Id) (s : SqlWorkflowStore) : List WorkflowSignal :=
  ((s.signalsOf w).filter fun x => x.tenantId = tenantId ∧ x.consumed = false).mergeSort
    fun a b => decide (a.createdAt ≤ b.createdAt)

/-- `UPDATE workflow_signals SET consumed_at=?, consume_result=?
WHERE signal_id=? AND tenant_id=?`. -/
def markRow (tenantId signalId : Id) (result : String) (x : WorkflowSignal) : WorkflowSignal :=
  if x.signalId = signalId ∧ x.tenantId = tenantId then x.consume result else x

def markSignalConsumed (tenantId signalId : Id) (result : String) (s : SqlWorkflowStore) :
    SqlWorkflowStore :=
  { s with workflowSignals := s.workflowSignals.map (markRow tenantId signalId result) }

/-- A row of the signal table after the updates of a commit. -/
def consumedBy (tenantId : Id) (consume : List (Id × SignalConsumeResult)) (x : WorkflowSignal) :
    WorkflowSignal :=
  consume.foldl (fun x e => markRow tenantId e.1 e.2.value x) x

/-- Instance, events, receipts and consumed signals in one transaction. -/
def commitAdvance (utcNow : String) (bundle : AdvanceCommitBundle) (s : SqlWorkflowStore) :
    Except PyExc SqlWorkflowStore := do
  let inst := bundle.instance_
  let s ← updateRow utcNow inst id s
  let s ← insertEvents
    (numberEvents bundle.tenantId bundle.workflowId utcNow inst.eventSeq bundle.events) s
  let s := setSeq bundle.workflowId (inst.eventSeq + bundle.events.length) s
  let stored := bundle.executionReceipts.filter fun r => r.status ≠ .failed
  return { s with
    executionReceipts := stored.foldl
      (fun r receipt => LedgerCommandExecutor.putReceipt receipt r) s.executionReceipts
    workflowSignals := s.workflowSignals.map (consumedBy bundle.tenantId bundle.consumeSignals) }

def overdue (nowIso : String) (inst : WorkflowInstance) : Bool :=
  inst.runStatus = .waitingSignal && inst.waitDeadline.any (· < nowIso) &&
    inst.timeoutAppliedAt = none && inst.workflowState ∈ humanGateStates

def timeOut (nowIso : String) (inst : WorkflowInstance) (s : SqlWorkflowStore) :
    Except PyExc SqlWorkflowStore :=
  let seq := inst.eventSeq + 1
  let descriptor : WaitDescriptor := {
    signalType := "RESUBMIT", reason := some "approval_timeout",
    priorCommandIdempotencyKey := inst.priorKey }
  let payload := Json.obj [("reason", .str "approval_timeout"),
    ("prior_command_idempotency_key", .ofOption inst.priorKey)]
  let inst' := { inst.expireWait nowIso descriptor with eventSeq := seq }
  insertEvents
    [WorkflowEventWrite.event ⟨.approvalTimeout, payload⟩ inst.tenantId inst.workflowId seq nowIso]
    { s with workflows := s.workflows.put inst' }

def timeOutAll (nowIso : String) :
    List WorkflowInstance → SqlWorkflowStore → Except PyExc SqlWorkflowStore
  | [], s => .ok s
  | inst :: rest, s => do
      let s ← timeOut nowIso inst s
      timeOutAll nowIso rest s

def sweepApprovalTimeouts (now : Datetime) (s : SqlWorkflowStore) :
    Except PyExc (List Id) × SqlWorkflowStore :=
  let nowIso := now.utc.truncate.isoformat
  let found := s.workflows.rows.filter (overdue nowIso)
  match timeOutAll nowIso found s with
  | .ok s' => (.ok (found.map (·.workflowId)), s')
  | .error e => (.error e, s)

instance : WorkflowStore SqlWorkflowStore where
  row := row
  signalsOf := signalsOf
  receipts := executionReceipts
  withReceipts r s := { s with executionReceipts := r }
  create := create
  claim := claim
  leaseExpired := leaseExpired
  updateInstance := updateInstance
  appendEvents := appendEvents
  enqueueSignalAndWake := enqueueSignalAndWake
  takeUnconsumedSignals := takeUnconsumedSignals
  markSignalConsumed := markSignalConsumed
  commitAdvance := commitAdvance
  sweepApprovalTimeouts := sweepApprovalTimeouts

/-! ## What each call does to the rows and the signals -/

variable {s s' : SqlWorkflowStore} {w : Id} {inst : WorkflowInstance} {utcNow : String}

theorem find_eq_ok {tenantId : Id} :
    s.find tenantId w = .ok inst ↔ s.row w = some inst ∧ inst.tenantId = tenantId := by
  rw [find]
  cases s.row w with
  | none => exact ⟨(fun h => nomatch h), fun ⟨h, _⟩ => nomatch h⟩
  | some old =>
      dsimp only
      split
      · rename_i ht
        constructor
        · intro h
          obtain rfl := Except.ok.inj h
          exact ⟨rfl, ht⟩
        · rintro ⟨h, _⟩
          rw [Option.some.inj h]
      · rename_i ht
        refine ⟨(fun h => nomatch h), ?_⟩
        rintro ⟨h, ht'⟩
        obtain rfl := Option.some.inj h
        exact absurd ht' ht

theorem row_of_put (h : s'.workflows = s.workflows.put inst) (w : Id) :
    s'.row w = if w = inst.workflowId then some inst else s.row w := by
  rw [row, h]
  exact Table.find?_put s.workflows inst w

theorem onlyRow_of_put (h : s'.workflows = s.workflows.put inst) (w : Id)
    (hw : w ≠ inst.workflowId) : s'.row w = s.row w := by
  rw [row_of_put h, if_neg hw]

theorem due_cases {now : Datetime} (h : due now.utc.truncate.isoformat inst = true) :
    Claimable SqlWorkflowStore now inst := by
  obtain ⟨_, h⟩ := (Bool.and_eq_true _ _).mp h
  rcases (Bool.or_eq_true _ _).mp h with hstatus | h
  · exact Or.inl (of_decide_eq_true hstatus)
  · obtain ⟨hstatus, hlease⟩ := (Bool.and_eq_true _ _).mp h
    obtain ⟨expires, hexpires, hlt⟩ := (Option.any_eq_true _ _).mp hlease
    exact Or.inr ⟨of_decide_eq_true hstatus, expires, hexpires, hlt⟩

/-- A claim takes stored instances that are due, and leaves the others. -/
theorem claim_spec {worker : String} {limit : Nat} {now : Datetime} {ttl : Nat}
    {claimed : List WorkflowInstance} (h : claim worker limit now ttl s = .ok (claimed, s')) :
    s' = { s with workflows := s.workflows.putAll claimed } ∧
      (claimed.map WorkflowInstance.workflowId).Nodup ∧
      ∀ inst ∈ claimed, ∃ old, s.row inst.workflowId = some old ∧
        due now.utc.truncate.isoformat old = true ∧
        inst = old.leaseTo worker (now.addSeconds ttl).utc.truncate.isoformat
          now.utc.truncate.isoformat := by
  obtain ⟨rfl, rfl⟩ := Prod.mk.inj (Except.ok.inj h)
  refine ⟨rfl, ?_, fun inst hinst => ?_⟩
  · have hids : ((s.workflows.rows.filter (due now.utc.truncate.isoformat)).map
        WorkflowInstance.workflowId).Nodup :=
      s.workflows.nodup_rows.sublist (List.filter_sublist.map _)
    have hsorted := ((List.mergeSort_perm (s.workflows.rows.filter
      (due now.utc.truncate.isoformat)) fun a b =>
        decide (a.nextRunAt.getD "" ≤ b.nextRunAt.getD "")).map
          WorkflowInstance.workflowId).nodup_iff.mpr hids
    rw [List.map_map]
    exact hsorted.sublist ((List.take_sublist _ _).map _)
  · obtain ⟨old, hold, rfl⟩ := List.mem_map.mp hinst
    obtain ⟨hrow, hdue⟩ := List.mem_filter.mp (List.mem_mergeSort.mp (List.mem_of_mem_take hold))
    exact ⟨old, Table.mem_rows.mp hrow, hdue, rfl⟩

theorem create_spec (h : create utcNow inst s = .ok s') : s.row inst.workflowId = none ∧
    s' = { s with workflows := s.workflows.put (inserted utcNow inst) } := by
  rw [create] at h
  split at h
  · exact absurd h nofun
  rename_i hnew
  push Not at hnew
  exact ⟨Option.not_isSome_iff_eq_none.mp hnew.1, (Except.ok.inj h).symm⟩

theorem updateRow_spec {change : WorkflowInstance → WorkflowInstance}
    (h : updateRow utcNow inst change s = .ok s') :
    ∃ old, s.row inst.workflowId = some old ∧ old.tenantId = inst.tenantId ∧
      s' = { s with workflows := s.workflows.put (change (updated utcNow inst old)) } := by
  obtain ⟨old, hfind, h⟩ := Raise.except_bind_eq_ok.mp h
  obtain ⟨hrow, htenant⟩ := find_eq_ok.mp hfind
  split at h
  · exact absurd h nofun
  · exact ⟨old, hrow, htenant, (Except.ok.inj h).symm⟩

/-- A stored row can be written, if it says when the workflow is due. -/
theorem updateRow_takes {old : WorkflowInstance} {change : WorkflowInstance → WorkflowInstance}
    (hrow : s.row inst.workflowId = some old) (htenant : old.tenantId = inst.tenantId)
    (hdue : inst.nextRunAt ≠ none) : updateRow utcNow inst change s =
      .ok { s with workflows := s.workflows.put (change (updated utcNow inst old)) } := by
  rw [updateRow, find_eq_ok.mpr ⟨hrow, htenant⟩]
  exact if_neg hdue

/-- The column `next_run_at` is not nullable: what has been stored can be stored again. -/
theorem storable_of_ne_none {nextRunAt : Option String} (hdue : nextRunAt ≠ none) :
    Storable SqlWorkflowStore nextRunAt := by
  rintro utcNow inst old s hrow htenant rfl
  change ∃ s', updateRow utcNow inst (withSimulation inst.simulation) s = .ok s'
  exact ⟨_, updateRow_takes hrow htenant hdue⟩

theorem updateRow_due {change : WorkflowInstance → WorkflowInstance}
    (h : updateRow utcNow inst change s = .ok s') : inst.nextRunAt ≠ none := by
  obtain ⟨old, hfind, h⟩ := Raise.except_bind_eq_ok.mp h
  split at h
  · exact absurd h nofun
  · assumption

theorem update_spec (h : updateInstance utcNow inst s = .ok s') :
    ∃ old, s.row inst.workflowId = some old ∧ old.tenantId = inst.tenantId ∧
      s' = { s with workflows :=
        s.workflows.put (withSimulation inst.simulation (updated utcNow inst old)) } :=
  updateRow_spec h

/-- Only the event table grows. -/
theorem insertEvents_spec {es : List WorkflowEvent} (h : insertEvents es s = .ok s') :
    s' = { s with workflowEvents := s.workflowEvents ++ es } := by
  induction es generalizing s with
  | nil =>
      obtain rfl := Except.ok.inj h
      rw [List.append_nil]
  | cons e es ih =>
      rw [insertEvents] at h
      split at h
      · exact absurd h nofun
      · rw [ih h, List.append_assoc]
        rfl

theorem append_spec {tenantId : Id} {writes : List WorkflowEventWrite}
    (h : appendEvents utcNow tenantId w writes s = .ok s') :
    ∃ old new, s.row w = some old ∧ old.tenantId = tenantId ∧
      s'.workflows = s.workflows.put new ∧ old.SameCursor new ∧ old.SameWorkflow new ∧
      s'.workflowSignals = s.workflowSignals ∧ s'.executionReceipts = s.executionReceipts := by
  obtain ⟨inst, hfind, h⟩ := Raise.except_bind_eq_ok.mp h
  obtain ⟨hrow, htenant⟩ := find_eq_ok.mp hfind
  obtain ⟨s₁, hins, h⟩ := Raise.except_bind_eq_ok.mp h
  obtain rfl := insertEvents_spec hins
  obtain rfl := Except.ok.inj h
  exact ⟨inst, _, hrow, htenant, rfl, ⟨rfl, rfl, rfl, rfl, rfl, rfl, rfl, rfl, rfl, rfl, rfl, rfl⟩,
    ⟨rfl, rfl, rfl, rfl, rfl, rfl⟩, rfl, rfl⟩

theorem enqueue_spec {signal : WorkflowSignal} {status : WorkflowRunStatus} {nextRunAt : Datetime}
    {clear : Bool} (h : enqueueSignalAndWake utcNow signal status nextRunAt clear s = .ok s') :
    ∃ old new, s.row signal.workflowId = some old ∧ old.tenantId = signal.tenantId ∧
      s'.workflows = s.workflows.put new ∧ new.runStatus = status ∧ old.SameWorkflow new ∧
      new.workflowState = old.workflowState ∧ new.context = old.context ∧
      new.waitDeadline = old.waitDeadline ∧ new.timeoutAppliedAt = old.timeoutAppliedAt ∧
      new.attemptCount = old.attemptCount ∧ new.nextRunAt ≠ none ∧
      s'.workflowSignals = s.workflowSignals ++
        [{ signal with consumed := false, consumeResult := none }] ∧
      s'.executionReceipts = s.executionReceipts := by
  obtain ⟨inst, hfind, h⟩ := Raise.except_bind_eq_ok.mp h
  obtain ⟨hrow, htenant⟩ := find_eq_ok.mp hfind
  split at h
  · exact absurd h nofun
  obtain rfl := Except.ok.inj h
  refine ⟨inst, _, hrow, htenant, rfl, ?_⟩
  cases clear with
  | false => exact ⟨rfl, ⟨rfl, rfl, rfl, rfl, rfl, rfl⟩, rfl, rfl, rfl, rfl, rfl, nofun, rfl, rfl⟩
  | true => exact ⟨rfl, ⟨rfl, rfl, rfl, rfl, rfl, rfl⟩, rfl, rfl, rfl, rfl, rfl, nofun, rfl, rfl⟩

theorem setSeq_spec {seq : Nat} (h : s.row w = some inst) :
    setSeq w seq s = { s with workflows := s.workflows.put { inst with eventSeq := seq } } := by
  rw [setSeq, h]

/-- The row of a commit is the caller's cursor, in the place of its row. -/
theorem commit_spec {bundle : AdvanceCommitBundle} (h : commitAdvance utcNow bundle s = .ok s') :
    ∃ old new, s.row bundle.workflowId = some old ∧ old.tenantId = bundle.tenantId ∧
      s'.row bundle.workflowId = some new ∧ bundle.instance_.SameCursor new ∧
      old.SameWorkflow new ∧ OnlyRow bundle.workflowId s s' ∧
      s'.workflowEvents = s.workflowEvents ++ numberEvents bundle.tenantId bundle.workflowId utcNow
        bundle.instance_.eventSeq bundle.events ∧
      s'.workflowSignals =
        s.workflowSignals.map (consumedBy bundle.tenantId bundle.consumeSignals) ∧
      s'.executionReceipts = (bundle.executionReceipts.filter (·.status ≠ .failed)).foldl
        (fun r receipt => LedgerCommandExecutor.putReceipt receipt r) s.executionReceipts := by
  obtain ⟨s₁, hupdate, h⟩ := Raise.except_bind_eq_ok.mp h
  obtain ⟨old, hrow, htenant, hs₁⟩ := updateRow_spec hupdate
  obtain ⟨s₂, hins, h⟩ := Raise.except_bind_eq_ok.mp h
  have hs₂ := insertEvents_spec hins
  have hid : old.workflowId = bundle.workflowId := Table.key_of_find? (t := s.workflows) hrow
  have hput₂ : s₂.workflows = s.workflows.put (updated utcNow bundle.instance_ old) := by
    rw [hs₂, hs₁]
    rfl
  have hrow₂ : s₂.row bundle.workflowId = some (updated utcNow bundle.instance_ old) :=
    (row_of_put hput₂ _).trans (if_pos hid.symm)
  rw [setSeq_spec hrow₂] at h
  obtain rfl := Except.ok.inj h
  refine ⟨old, _, hrow, htenant, (Table.find?_put _ _ _).trans (if_pos hid.symm),
    ⟨rfl, rfl, rfl, rfl, rfl, rfl, rfl, rfl, rfl, rfl, rfl, rfl⟩, ⟨rfl, rfl, rfl, rfl, rfl, rfl⟩,
    fun v hv => ?_, ?_, ?_, ?_⟩
  · have hne : v ≠ (updated utcNow bundle.instance_ old).workflowId := hid ▸ hv
    refine Eq.trans ?_ (onlyRow_of_put hput₂ v hne)
    refine Table.find?_put_ne ?_
    exact hne
  · rw [hs₂, hs₁]
  · rw [hs₂, hs₁]
  · rw [hs₂, hs₁]

theorem markRow_marks (tenantId signalId : Id) (result : String) (x : WorkflowSignal) :
    markRow tenantId signalId result x = x ∨
      ∃ result', markRow tenantId signalId result x = x.consume result' := by
  rw [markRow]
  split
  · exact Or.inr ⟨result, rfl⟩
  · exact Or.inl rfl

theorem consumedBy_marks (tenantId : Id) (consume : List (Id × SignalConsumeResult))
    (x : WorkflowSignal) : consumedBy tenantId consume x = x ∨
      ∃ result, consumedBy tenantId consume x = x.consume result := by
  induction consume generalizing x with
  | nil => exact Or.inl rfl
  | cons e rest ih =>
      rw [consumedBy, List.foldl_cons, ← consumedBy]
      rcases markRow_marks tenantId e.1 e.2.value x with heq | ⟨r, heq⟩
      · rw [heq]
        exact ih x
      · rw [heq]
        rcases ih (x.consume r) with heq' | ⟨r', heq'⟩
        · exact Or.inr ⟨r, heq'⟩
        · exact Or.inr ⟨r', heq'⟩

theorem consumedBy_eq {tenantId : Id} {x : WorkflowSignal} (hx : x.tenantId = tenantId)
    (consume : List (Id × SignalConsumeResult)) :
    consumedBy tenantId consume x = consumeResultOf consume x := by
  induction consume generalizing x with
  | nil => rfl
  | cons e rest ih =>
      rw [consumedBy, List.foldl_cons, ← consumedBy, consumeResultOf, List.foldl_cons,
        ← consumeResultOf, markRow]
      by_cases hid : x.signalId = e.1
      · rw [if_pos ⟨hid, hx⟩, if_pos hid]
        exact ih hx
      · rw [if_neg fun h => hid h.1, if_neg hid]
        exact ih hx

theorem workflowId_of_marks {f : WorkflowSignal → WorkflowSignal}
    (hf : ∀ x, f x = x ∨ ∃ result, f x = x.consume result) (x : WorkflowSignal) :
    (f x).workflowId = x.workflowId := by
  rcases hf x with heq | ⟨result, heq⟩
  · rw [heq]
  · rw [heq]
    rfl

/-- Marking keeps the signals of a workflow together. -/
theorem signalsOf_map {f : WorkflowSignal → WorkflowSignal}
    (hf : ∀ x, f x = x ∨ ∃ result, f x = x.consume result)
    (h : s'.workflowSignals = s.workflowSignals.map f) (w : Id) :
    s'.signalsOf w = (s.signalsOf w).map f := by
  rw [signalsOf, h, List.filter_map, signalsOf]
  congr 2
  funext x
  exact congrArg (fun v => decide (v = w)) (workflowId_of_marks hf x)

theorem timeOut_spec {nowIso : String} (h : timeOut nowIso inst s = .ok s') :
    ∃ new, s'.workflows = s.workflows.put new ∧ new.workflowId = inst.workflowId ∧
      new.workflowState = .needsInformation ∧
      (∃ descriptor seq, new = { inst.expireWait nowIso descriptor with eventSeq := seq }) ∧
      s'.workflowSignals = s.workflowSignals ∧ s'.executionReceipts = s.executionReceipts := by
  obtain rfl := insertEvents_spec h
  exact ⟨_, rfl, rfl, rfl, ⟨_, _, rfl⟩, rfl, rfl⟩

theorem overdue_cases {nowIso : String} (h : overdue nowIso inst = true) :
    inst.runStatus = .waitingSignal ∧ inst.workflowState ∈ humanGateStates := by
  simp only [overdue, Bool.and_eq_true, decide_eq_true_eq] at h
  exact ⟨h.1.1.1, h.2⟩

theorem timeOutAll_rows {nowIso : String} {insts : List WorkflowInstance}
    (hnodup : (insts.map WorkflowInstance.workflowId).Nodup)
    (hstored : ∀ inst ∈ insts, s.row inst.workflowId = some inst ∧ overdue nowIso inst = true)
    (h : timeOutAll nowIso insts s = .ok s') (w : Id) :
    s'.row w = s.row w ∨ ∃ old new, s.row w = some old ∧ s'.row w = some new ∧ old.Swept new := by
  induction insts generalizing s with
  | nil =>
      obtain rfl := Except.ok.inj h
      exact Or.inl rfl
  | cons inst rest ih =>
      obtain ⟨hnew, hnodup⟩ := List.nodup_cons.mp hnodup
      obtain ⟨⟨hinst, hover⟩, hrest⟩ := List.forall_mem_cons.mp hstored
      obtain ⟨s₁, htime, h⟩ := Raise.except_bind_eq_ok.mp h
      obtain ⟨new, hput, hid, hstate, ⟨descriptor, seq, heq⟩, -⟩ := timeOut_spec htime
      have hrow (v : Id) : s₁.row v = if v = inst.workflowId then some new else s.row v := by
        rw [row_of_put hput, hid]
      have hrest' : ∀ x ∈ rest, s₁.row x.workflowId = some x ∧ overdue nowIso x = true :=
        fun x hx => ⟨by
          rw [hrow, if_neg fun hxid => hnew (List.mem_map.mpr ⟨x, hx, hxid⟩)]
          exact (hrest x hx).1, (hrest x hx).2⟩
      rcases ih hnodup hrest' h with hsame | ⟨old, new', hold, hnew', hswept⟩
      · by_cases hw : w = inst.workflowId
        · subst hw
          refine Or.inr ⟨inst, new, hinst, hsame.trans ((hrow _).trans (if_pos rfl)), ?_⟩
          obtain ⟨hstatus, hgate⟩ := overdue_cases hover
          exact ⟨hstatus, hgate, nowIso, descriptor, seq, heq⟩
        · exact Or.inl (hsame.trans ((hrow w).trans (if_neg hw)))
      · by_cases hw : w = inst.workflowId
        · -- a row timed out once waits for no gate any more
          rw [hrow, if_pos hw] at hold
          obtain rfl := Option.some.inj hold
          have hgone : WorkflowState.needsInformation ∉ humanGateStates := by decide
          exact absurd (hstate ▸ hswept.2.1) hgone
        · rw [hrow, if_neg hw] at hold
          exact Or.inr ⟨old, new', hold, hnew', hswept⟩

theorem timeOutAll_signals {nowIso : String} {insts : List WorkflowInstance}
    (h : timeOutAll nowIso insts s = .ok s') : s'.workflowSignals = s.workflowSignals ∧
      s'.executionReceipts = s.executionReceipts := by
  induction insts generalizing s with
  | nil =>
      obtain rfl := Except.ok.inj h
      exact ⟨rfl, rfl⟩
  | cons inst rest ih =>
      obtain ⟨s₁, htime, h⟩ := Raise.except_bind_eq_ok.mp h
      obtain ⟨_, _, _, _, _, hsignals, hreceipts⟩ := timeOut_spec htime
      obtain ⟨hsignals', hreceipts'⟩ := ih h
      exact ⟨hsignals'.trans hsignals, hreceipts'.trans hreceipts⟩

/-! ## The store is lawful -/

theorem signalsOf_congr (h : s'.workflowSignals = s.workflowSignals) :
    s'.signalsOf = s.signalsOf := by
  funext w
  rw [signalsOf, h, signalsOf]

instance : LawfulWorkflowStore SqlWorkflowStore where
  id_of_row h := Table.key_of_find? h
  row_withReceipts _ _ := rfl
  signalsOf_withReceipts _ _ := rfl
  receipts_withReceipts _ _ := rfl
  create_ok {utcNow inst s _} h := by
    obtain ⟨hnone, rfl⟩ := create_spec h
    exact ⟨hnone, ⟨_, Table.find?_put_self s.workflows (inserted utcNow inst),
      ⟨rfl, rfl, rfl, rfl, rfl, rfl⟩, rfl⟩, fun w hw => Table.find?_put_ne hw, rfl, rfl⟩
  claim_ok h := by
    obtain ⟨rfl, hnodup, hclaimed⟩ := claim_spec h
    refine ⟨fun inst hinst => ⟨Table.find?_putAll_of_mem hnodup hinst, ?_⟩,
      fun w hw => Table.find?_putAll_of_not_mem hw, rfl, rfl⟩
    obtain ⟨old, hold, hdue, heq⟩ := hclaimed inst hinst
    exact ⟨old, _, _, hold, due_cases hdue, heq⟩
  update_ok {utcNow inst _ _} h := by
    obtain ⟨old, hrow, htenant, rfl⟩ := update_spec h
    have hid := Table.key_of_find? hrow
    refine ⟨old, withSimulation inst.simulation (updated utcNow inst old), hrow, htenant, ?_,
      ⟨rfl, rfl, rfl, rfl, rfl, rfl, rfl, rfl, rfl, rfl, rfl, rfl⟩,
      fun hs => ⟨hs.1, hs.2, hs.3, hs.4, rfl, hs.6⟩, fun v hv => ?_, rfl, rfl⟩
    · exact (Table.find?_put _ _ _).trans (if_pos hid.symm)
    · refine Table.find?_put_ne ?_
      exact fun hv' => hv (hv'.trans hid)
  append_ok h := by
    obtain ⟨old, new, hrow, _, hput, hcursor, hsame, hsignals, hreceipts⟩ := append_spec h
    have hid : new.workflowId = _ := hsame.workflowId.symm.trans (Table.key_of_find? hrow)
    refine ⟨⟨old, new, hrow, (row_of_put hput _).trans (if_pos hid.symm), hcursor, hsame⟩, ?_,
      signalsOf_congr hsignals, hreceipts⟩
    intro w hw
    exact onlyRow_of_put hput w (hid ▸ hw)
  enqueue_ok {utcNow signal _ _ _ _ _} h := by
    obtain ⟨old, new, hrow, htenant, hput, hstatus, hsame, hstate, hcontext, hdeadline, happlied,
      -, -, hsignals, hreceipts⟩ := enqueue_spec h
    have hid : new.workflowId = _ := hsame.workflowId.symm.trans (Table.key_of_find? hrow)
    refine ⟨⟨old, new, hrow, htenant, ?_, hstatus, hsame, hstate, hcontext, hdeadline, happlied⟩,
      ?_,
      fun hconsumed hresult w => ?_, hreceipts⟩
    · exact (row_of_put hput _).trans (if_pos hid.symm)
    · intro w hw
      exact onlyRow_of_put hput w (hid ▸ hw)
    · have hstored : { signal with consumed := false, consumeResult := none } = signal := by
        rw [← hconsumed, ← hresult]
      change signalsOf _ w = if w = signal.workflowId then signalsOf _ w ++ [signal] else signalsOf _ w
      rw [signalsOf, hsignals, hstored, List.filter_append, ← signalsOf, List.filter_singleton]
      by_cases hw : w = signal.workflowId
      · rw [if_pos hw, decide_eq_true hw.symm]
        rfl
      · rw [if_neg hw, decide_eq_false fun heq => hw heq.symm]
        exact List.append_nil _
  take_sound h := by
    obtain ⟨hmem, htest⟩ := List.mem_filter.mp (List.mem_mergeSort.mp h)
    exact ⟨hmem, (of_decide_eq_true htest).2⟩
  take_complete _ hmem hconsumed htenant :=
    List.mem_mergeSort.mpr (List.mem_filter.mpr ⟨hmem, decide_eq_true ⟨htenant, hconsumed⟩⟩)
  mark_ok tenantId signalId result s := by
    refine ⟨rfl, rfl, fun w => ?_⟩
    have hmarks := markRow_marks tenantId signalId result
    change MarkedFrom (s.signalsOf w) ((markSignalConsumed tenantId signalId result s).signalsOf w)
    have hmap : (markSignalConsumed tenantId signalId result s).signalsOf w =
        (s.signalsOf w).map (markRow tenantId signalId result) := signalsOf_map hmarks rfl w
    rw [hmap]
    exact .map hmarks _
  commit_ok {_ bundle s s'} h := by
    obtain ⟨old, new, hrow, htenant, hnew, hcursor, hsame, honly, -, hsignals, hreceipts⟩ :=
      commit_spec h
    have hmarks := consumedBy_marks bundle.tenantId bundle.consumeSignals
    refine ⟨⟨old, new, hrow, htenant, hnew, hcursor, fun hs => hs.trans hsame⟩, honly, fun w => ?_,
      ?_, hreceipts⟩
    · change MarkedFrom (s.signalsOf w) (s'.signalsOf w)
      rw [signalsOf_map hmarks hsignals w]
      exact .map hmarks _
    · intro x hx hxt
      change _ ∈ s'.signalsOf bundle.workflowId
      rw [signalsOf_map hmarks hsignals, ← consumedBy_eq hxt]
      exact List.mem_map_of_mem hx
  commit_marks {_ bundle s s'} h := by
    obtain ⟨_, _, _, _, _, _, _, _, _, hsignals, _⟩ := commit_spec h
    change List.Forall₂ _ (s.signalsOf bundle.workflowId) (s'.signalsOf bundle.workflowId)
    rw [signalsOf_map (consumedBy_marks bundle.tenantId bundle.consumeSignals) hsignals]
    exact List.forall₂_map_right_iff.mpr (List.forall₂_same.mpr fun _ _ hx => consumedBy_eq hx _)
  update_takes {utcNow inst _ s} hrow htenant hdue :=
    storable_of_ne_none hdue utcNow inst _ s hrow htenant rfl
  commit_takes {utcNow bundle _ s} hrow htenant hdue hevents := by
    change ∃ s', commitAdvance utcNow bundle s = .ok s'
    have hfind : s.row bundle.instance_.workflowId = some _ := hrow
    rw [commitAdvance, updateRow_takes hfind htenant hdue, hevents]
    exact ⟨_, rfl⟩
  enqueue_attempts h hold hnew := by
    obtain ⟨old', new', hrow, _, hput, _, hsame, _, _, _, _, hattempts, hdue, -⟩ := enqueue_spec h
    have hid : new'.workflowId = _ := hsame.workflowId.symm.trans (Table.key_of_find? hrow)
    obtain rfl := Option.some.inj (hrow.symm.trans hold)
    obtain rfl := Option.some.inj (((row_of_put hput _).trans (if_pos hid.symm)).symm.trans hnew)
    exact ⟨hattempts, storable_of_ne_none hdue⟩
  create_storable {utcNow inst _ s _} h hnew := by
    obtain ⟨-, rfl⟩ := create_spec h
    have hstored := Table.find?_put_self s.workflows (inserted utcNow inst)
    obtain rfl := Option.some.inj (hstored.symm.trans hnew)
    exact storable_of_ne_none nofun
  update_storable h := storable_of_ne_none (updateRow_due h)
  commit_storable h := by
    obtain ⟨s₁, hupdate, -⟩ := Raise.except_bind_eq_ok.mp h
    exact storable_of_ne_none (updateRow_due hupdate)
  sweep_rows now s w := by
    change (sweepApprovalTimeouts now s).2.row w = s.row w ∨ ∃ old new, s.row w = some old ∧
      (sweepApprovalTimeouts now s).2.row w = some new ∧ old.Swept new
    rw [sweepApprovalTimeouts]
    split
    · rename_i s' h
      refine timeOutAll_rows (s.workflows.nodup_rows.sublist (List.filter_sublist.map _)) ?_ h w
      intro inst hinst
      obtain ⟨hmem, hover⟩ := List.mem_filter.mp hinst
      exact ⟨Table.mem_rows.mp hmem, hover⟩
    · exact Or.inl rfl
  sweep_signals now s := by
    change signalsOf (sweepApprovalTimeouts now s).2 = _ ∧
      (sweepApprovalTimeouts now s).2.executionReceipts = _
    rw [sweepApprovalTimeouts]
    split
    · rename_i s' h
      obtain ⟨hsignals, hreceipts⟩ := timeOutAll_signals h
      exact ⟨signalsOf_congr hsignals, hreceipts⟩
    · exact ⟨rfl, rfl⟩

end SqlWorkflowStore

end ImpactRelay
