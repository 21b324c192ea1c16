/-
# `Workflows.StoreMemory` — the process-local store

`InMemoryWorkflowStore` (`workflows/store_memory.py`).  Its dictionaries keep
the order in which keys came in; events and signals are filed by workflow.  A
signal is accepted while the workflow waits, or after it was woken and before it
is claimed.
-/
import ImpactRelay.Workflows.Store

namespace ImpactRelay

open WorkflowInstance WorkflowStore

structure InMemoryWorkflowStore where
  instances : Table WorkflowInstance.workflowId := .empty
  byBusiness : Dict (Id × WorkflowType × String) Id := .empty
  events : Dict Id (List WorkflowEvent) := .empty
  signals : Dict Id (List WorkflowSignal) := .empty
  /-- success, simulated and skipped only -/
  receipts : ReceiptStore := .empty

/-- `_parse_iso` of a stored text; `None` where there is none. -/
def parseIso : Option String → Except PyExc (Option Datetime)
  | none => .ok none
  | some text =>
      match Datetime.fromisoformat text with
      | some d => .ok (some d)
      | none => .error ⟨.valueError, s!"Invalid isoformat string: '{text}'"⟩

/-- The numbered event of a write. -/
def WorkflowEventWrite.event (e : WorkflowEventWrite) (tenantId workflowId : Id) (seq : Nat)
    (now : String) : WorkflowEvent where
  eventId := s!"evt_{workflowId}_{seq}"
  workflowId := workflowId
  tenantId := tenantId
  seq := seq
  eventType := e.eventType
  payload := e.payload
  «at» := now

/-- The events of consecutive writes, numbered on from `seq`. -/
def numberEvents (tenantId workflowId : Id) (now : String) :
    Nat → List WorkflowEventWrite → List WorkflowEvent
  | _, [] => []
  | seq, e :: es =>
      e.event tenantId workflowId (seq + 1) now :: numberEvents tenantId workflowId now (seq + 1) es

/-- Run statuses in which a signal is accepted. -/
def acceptsSignals : List WorkflowRunStatus := [.waitingSignal, .pending, .retryScheduled]

namespace InMemoryWorkflowStore

def row (s : InMemoryWorkflowStore) (w : Id) : Option WorkflowInstance := s.instances.find? w

def signalsOf (s : InMemoryWorkflowStore) (w : Id) : List WorkflowSignal :=
  (s.signals.get? w).getD []

def eventsOf (s : InMemoryWorkflowStore) (w : Id) : List WorkflowEvent := (s.events.get? w).getD []

/-- `get`, and the error of the calls that need the instance. -/
def find (tenantId w : Id) (s : InMemoryWorkflowStore) : Except PyExc WorkflowInstance :=
  match s.row w with
  | some inst => if inst.tenantId = tenantId then .ok inst else .error (workflowNotFoundError w)
  | none => .error (workflowNotFoundError w)

def create (inst : WorkflowInstance) (s : InMemoryWorkflowStore) :
    Except PyExc InMemoryWorkflowStore :=
  let bkey := (inst.tenantId, inst.workflowType, inst.businessKey)
  if (s.row inst.workflowId).isSome then
    .error (workflowConflictError s!"workflow already exists: {inst.workflowId}")
  else if bkey ∈ s.byBusiness then
    .error (workflowConflictError s!"business_key already used: {inst.businessKey}")
  else
    .ok { s with
      instances := s.instances.put inst
      byBusiness := s.byBusiness.set bkey inst.workflowId
      events := s.events.set inst.workflowId (s.eventsOf inst.workflowId)
      signals := s.signals.set inst.workflowId (s.signalsOf inst.workflowId) }

def leaseExpired (now : Datetime) (lease : String) : Bool :=
  match parseIso (some lease) with
  | .ok expires => expires.any (· < now)
  | .error _ => false

/-- Whether a claim may take the instance now. -/
def due (now : Datetime) (inst : WorkflowInstance) : Except PyExc Bool := do
  let nextRun ← parseIso inst.nextRunAt
  if now < nextRun.getD .min then return false
  else if inst.runStatus ∈ claimableRunStatuses then return true
  else if inst.runStatus = .running then
    let expires ← parseIso inst.leaseExpiresAt
    return expires.any (· < now)
  -- WAITING_SIGNAL and terminals: never
  else return false

def candidates (now : Datetime) : List WorkflowInstance → Except PyExc (List WorkflowInstance)
  | [] => .ok []
  | inst :: rest => do
      let isDue ← due now inst
      let more ← candidates now rest
      return if isDue then inst :: more else more

/-- `candidates.sort(key=lambda i: i.next_run_at or "")`. -/
def byNextRun (insts : List WorkflowInstance) : List WorkflowInstance :=
  insts.mergeSort fun a b => decide (a.nextRunAt.getD "" ≤ b.nextRunAt.getD "")

def claim (workerId : String) (limit : Nat) (now : Datetime) (leaseTtl : Nat)
    (s : InMemoryWorkflowStore) : Except PyExc (List WorkflowInstance × InMemoryWorkflowStore) := do
  let found ← candidates now s.instances.rows
  let lease := (now.addSeconds leaseTtl).truncate.isoformat
  let claimed := ((byNextRun found).take limit).map (leaseTo workerId lease now.truncate.isoformat)
  return (claimed, { s with instances := s.instances.putAll claimed })

def updateInstance (inst : WorkflowInstance) (s : InMemoryWorkflowStore) :
    Except PyExc InMemoryWorkflowStore := do
  let _ ← s.find inst.tenantId inst.workflowId
  return { s with instances := s.instances.put inst }

def appendEvents (utcNow : String) (tenantId w : Id) (writes : List WorkflowEventWrite)
    (s : InMemoryWorkflowStore) : Except PyExc InMemoryWorkflowStore := do
  let inst ← s.find tenantId w
  let inst' := { inst with eventSeq := inst.eventSeq + writes.length, updatedAt := utcNow }
  return { s with
    instances := s.instances.put inst'
    events := s.events.set w (s.eventsOf w ++ numberEvents tenantId w utcNow inst.eventSeq writes) }

def enqueueSignalAndWake (utcNow : String) (signal : WorkflowSignal)
    (newRunStatus : WorkflowRunStatus) (nextRunAt : Datetime) (clearLease : Bool)
    (s : InMemoryWorkflowStore) : Except PyExc InMemoryWorkflowStore := do
  let w := signal.workflowId
  let inst ← s.find signal.tenantId w
  if inst.runStatus ∉ acceptsSignals then
    .error (workflowStateError s!"workflow not accepting signals in {inst.runStatus.value}")
  else
    let woken := { inst with
      runStatus := newRunStatus, nextRunAt := some nextRunAt.truncate.isoformat, updatedAt := utcNow }
    return { s with
      instances := s.instances.put (if clearLease then woken.releaseLease else woken)
      signals := s.signals.set w (s.signalsOf w ++ [signal]) }

def takeUnconsumedSignals (tenantId w : Id) (s : InMemoryWorkflowStore) : List WorkflowSignal :=
  match s.find tenantId w with
  | .ok _ => (s.signalsOf w).filter fun x => !x.consumed
  | .error _ => []

/-- The first signal of the list that satisfies the test, consumed. -/
def consumeFirst (test : WorkflowSignal → Bool) (result : String) :
    List WorkflowSignal → List WorkflowSignal
  | [] => []
  | x :: xs => if test x then x.consume result :: xs else x :: consumeFirst test result xs

/-- Go through the queues in order, up to the first one that has the signal. -/
def markIn (tenantId signalId : Id) (result : String) :
    List (Id × List WorkflowSignal) → Dict Id (List WorkflowSignal) → Dict Id (List WorkflowSignal)
  | [], d => d
  | (w, xs) :: rest, d =>
      if xs.any fun x => x.signalId = signalId ∧ x.tenantId = tenantId then
        d.set w (consumeFirst (fun x => x.signalId = signalId ∧ x.tenantId = tenantId) result xs)
      else markIn tenantId signalId result rest d

def markSignalConsumed (tenantId signalId : Id) (result : String) (s : InMemoryWorkflowStore) :
    InMemoryWorkflowStore :=
  { s with signals := markIn tenantId signalId result s.signals.entries s.signals }

/-- Receipts, events, instance and consumed signals at once. -/
def commitAdvance (utcNow : String) (bundle : AdvanceCommitBundle) (s : InMemoryWorkflowStore) :
    Except PyExc InMemoryWorkflowStore := do
  let w := bundle.workflowId
  let _ ← s.find bundle.tenantId w
  let stored := bundle.executionReceipts.filter fun r => r.status ≠ .failed
  -- numbering goes on from the stored history
  let seq := match (s.eventsOf w).getLast? with
    | some last => max bundle.instance_.eventSeq last.seq
    | none => bundle.instance_.eventSeq
  let cursor := { bundle.instance_ with
    eventSeq := seq + bundle.events.length, updatedAt := utcNow }
  return { s with
    receipts := stored.foldl (fun r receipt => LedgerCommandExecutor.putReceipt receipt r) s.receipts
    events := s.events.set w (s.eventsOf w ++
      numberEvents bundle.tenantId w utcNow seq bundle.events)
    instances := s.instances.put cursor
    signals := s.signals.set w
      ((s.signalsOf w).map (WorkflowStore.consumeResultOf bundle.consumeSignals)) }

/-- An overdue wait at a human gate, not swept before. -/
def overdue (now : Datetime) (inst : WorkflowInstance) : Except PyExc Bool := do
  if inst.runStatus ≠ .waitingSignal ∨ inst.workflowState ∉ humanGateStates ∨
      orElse inst.waitDeadline none = none ∨ orElse inst.timeoutAppliedAt none ≠ none then
    return false
  else
    let deadline ← parseIso inst.waitDeadline
    return deadline.any (· < now)

def timeOut (nowIso : String) (inst : WorkflowInstance) (s : InMemoryWorkflowStore) :
    InMemoryWorkflowStore :=
  let w := inst.workflowId
  let seq := match (s.eventsOf w).getLast? with
    | some last => last.seq + 1
    | none => inst.eventSeq + 1
  let descriptor : WaitDescriptor := {
    signalType := "RESUBMIT", reason := some "approval_timeout",
    priorCommandIdempotencyKey := inst.priorKey,
    priorProposalId := orElse (inst.waitDescriptor.bind (·.proposalId))
      (inst.context.wait.bind (·.proposalId)) }
  let payload := Json.obj [("reason", .str "approval_timeout"),
    ("prior_command_idempotency_key", .ofOption inst.priorKey)]
  { s with
    instances := s.instances.put { inst.expireWait nowIso descriptor with eventSeq := seq }
    events := s.events.set w (s.eventsOf w ++
      [WorkflowEventWrite.event ⟨.approvalTimeout, payload⟩ inst.tenantId w seq nowIso]) }

/-- The loop over the instances; a deadline that is no datetime breaks it off. -/
def sweepFrom (now : Datetime) :
    List WorkflowInstance → InMemoryWorkflowStore → Except PyExc (List Id) × InMemoryWorkflowStore
  | [], s => (.ok [], s)
  | inst :: rest, s =>
      match overdue now inst with
      | .error e => (.error e, s)
      | .ok false => sweepFrom now rest s
      | .ok true =>
          let (result, s') := sweepFrom now rest (timeOut now.truncate.isoformat inst s)
          (result.map (inst.workflowId :: ·), s')

def sweepApprovalTimeouts (now : Datetime) (s : InMemoryWorkflowStore) :
    Except PyExc (List Id) × InMemoryWorkflowStore :=
  sweepFrom now s.instances.rows s

instance : WorkflowStore InMemoryWorkflowStore where
  row := row
  signalsOf := signalsOf
  receipts := receipts
  withReceipts r s := { s with receipts := r }
  create _ := create
  claim := claim
  leaseExpired := leaseExpired
  updateInstance _ := updateInstance
  appendEvents := appendEvents
  enqueueSignalAndWake := enqueueSignalAndWake
  takeUnconsumedSignals := takeUnconsumedSignals
  markSignalConsumed := markSignalConsumed
  commitAdvance := commitAdvance
  sweepApprovalTimeouts := sweepApprovalTimeouts

/-! ## What each call does to the rows and the signals -/

variable {s s' : InMemoryWorkflowStore} {w : Id} {inst : WorkflowInstance} {utcNow : String}

theorem find_eq_ok {tenantId : Id} :
    s.find tenantId w = .ok inst ↔ s.row w = some inst ∧ inst.tenantId = tenantId := by
  rw [find]
  cases s.row w with
  | none => exact ⟨(fun h => nomatch h), fun ⟨h, _⟩ => nomatch h⟩
  | some old =>
      dsimp only
      split
      · rename_i ht
        constructor
        · intro h
          obtain rfl := Except.ok.inj h
          exact ⟨rfl, ht⟩
        · rintro ⟨h, _⟩
          rw [Option.some.inj h]
      · rename_i ht
        refine ⟨(fun h => nomatch h), ?_⟩
        rintro ⟨h, ht'⟩
        obtain rfl := Option.some.inj h
        exact absurd ht' ht

theorem row_put (s : InMemoryWorkflowStore) (inst : WorkflowInstance) (w : Id) :
    (s.instances.put inst).find? w = if w = inst.workflowId then some inst else s.row w :=
  Table.find?_put s.instances inst w

theorem signalsOf_set (d : Dict Id (List WorkflowSignal)) (w w' : Id) (xs : List WorkflowSignal) :
    ((d.set w xs).get? w').getD [] = if w' = w then xs else (d.get? w').getD [] := by
  rw [Dict.get?_set]
  split <;> rfl

theorem candidates_mem {now : Datetime} {insts found : List WorkflowInstance}
    (h : candidates now insts = .ok found) :
    ∀ inst ∈ found, inst ∈ insts ∧ due now inst = .ok true := by
  induction insts generalizing found with
  | nil =>
      obtain rfl := Except.ok.inj h
      exact fun _ h => nomatch h
  | cons inst rest ih =>
      obtain ⟨isDue, hdue, h⟩ := Raise.except_bind_eq_ok.mp h
      obtain ⟨more, hmore, h⟩ := Raise.except_bind_eq_ok.mp h
      obtain rfl := Except.ok.inj h
      have hrest : ∀ x ∈ more, x ∈ inst :: rest ∧ due now x = .ok true := fun x hx =>
        ⟨List.mem_cons_of_mem _ (ih hmore x hx).1, (ih hmore x hx).2⟩
      cases isDue with
      | false => exact hrest
      | true => exact List.forall_mem_cons.mpr ⟨⟨List.mem_cons_self, hdue⟩, hrest⟩

theorem due_cases {now : Datetime} (h : due now inst = .ok true) :
    Claimable InMemoryWorkflowStore now inst := by
  rw [due] at h
  obtain ⟨nextRun, _, h⟩ := Raise.except_bind_eq_ok.mp h
  split at h
  · exact absurd (Except.ok.inj h) Bool.false_ne_true
  split at h
  · rename_i hstatus
    exact Or.inl hstatus
  split at h
  · rename_i hstatus
    obtain ⟨expires, hparse, h⟩ := Raise.except_bind_eq_ok.mp h
    cases hlease : inst.leaseExpiresAt with
    | none =>
        rw [hlease] at hparse
        obtain rfl := Except.ok.inj hparse
        exact absurd (Except.ok.inj h) Bool.false_ne_true
    | some lease =>
        rw [hlease] at hparse
        refine Or.inr ⟨hstatus, lease, hlease, ?_⟩
        change leaseExpired now lease = true
        rw [leaseExpired, hparse]
        exact Except.ok.inj h
  · exact absurd (Except.ok.inj h) Bool.false_ne_true

/-- A claim takes stored instances that are due, and leaves the others. -/
theorem claim_spec {worker : String} {limit : Nat} {now : Datetime} {ttl : Nat}
    {claimed : List WorkflowInstance} (h : claim worker limit now ttl s = .ok (claimed, s')) :
    s' = { s with instances := s.instances.putAll claimed } ∧
      ∀ inst ∈ claimed, ∃ old, s.row inst.workflowId = some old ∧ due now old = .ok true ∧
        inst = old.leaseTo worker (now.addSeconds ttl).truncate.isoformat now.truncate.isoformat := by
  obtain ⟨found, hfound, h⟩ := Raise.except_bind_eq_ok.mp h
  obtain ⟨rfl, rfl⟩ := Prod.mk.inj (Except.ok.inj h)
  refine ⟨rfl, fun inst hinst => ?_⟩
  obtain ⟨old, hold, rfl⟩ := List.mem_map.mp hinst
  have hmem : old ∈ found := List.mem_mergeSort.mp (List.mem_of_mem_take hold)
  obtain ⟨hrow, hdue⟩ := candidates_mem hfound old hmem
  exact ⟨old, Table.mem_rows.mp hrow, hdue, rfl⟩

theorem consumeFirst_marked (test : WorkflowSignal → Bool) (result : String) :
    ∀ xs, MarkedFrom xs (consumeFirst test result xs)
  | [] => .nil
  | x :: xs => by
      rw [consumeFirst]
      split
      · exact .cons (Or.inr ⟨result, rfl⟩) (MarkedFrom.refl xs)
      · exact .cons (Or.inl rfl) (consumeFirst_marked test result xs)

theorem markIn_marked (tenantId signalId : Id) (result : String) (w : Id)
    {d : Dict Id (List WorkflowSignal)} {entries : List (Id × List WorkflowSignal)}
    (h : ∀ e ∈ entries, d.get? e.1 = some e.2) :
    MarkedFrom ((d.get? w).getD []) (((markIn tenantId signalId result entries d).get? w).getD []) := by
  induction entries with
  | nil => exact .refl _
  | cons e rest ih =>
      obtain ⟨hhead, hrest⟩ := List.forall_mem_cons.mp h
      rw [markIn]
      split
      · rw [signalsOf_set]
        split
        · rename_i heq
          rw [heq, hhead]
          exact consumeFirst_marked _ result e.2
        · exact .refl _
      · exact ih hrest

theorem overdue_cases {now : Datetime} (h : overdue now inst = .ok true) :
    inst.runStatus = .waitingSignal ∧ inst.workflowState ∈ humanGateStates := by
  rw [overdue] at h
  split at h
  · exact absurd (Except.ok.inj h) Bool.false_ne_true
  · rename_i hgate
    push Not at hgate
    exact ⟨hgate.1, hgate.2.1⟩

/-- The loop times out rows it has not come to before, as it goes. -/
theorem sweepFrom_rows {now : Datetime} {insts : List WorkflowInstance}
    (hnodup : (insts.map WorkflowInstance.workflowId).Nodup)
    (hstored : ∀ inst ∈ insts, s.row inst.workflowId = some inst) (w : Id) :
    (sweepFrom now insts s).2.row w = s.row w ∨ ∃ old new, s.row w = some old ∧
      (sweepFrom now insts s).2.row w = some new ∧ Swept old new := by
  induction insts generalizing s with
  | nil => exact Or.inl rfl
  | cons inst rest ih =>
      obtain ⟨hnew, hnodup⟩ := List.nodup_cons.mp hnodup
      obtain ⟨hinst, hrest⟩ := List.forall_mem_cons.mp hstored
      rw [sweepFrom]
      cases hover : overdue now inst with
      | error e => exact Or.inl rfl
      | ok timed =>
          cases timed with
          | false => exact ih hnodup hrest
          | true =>
              dsimp only
              have hput (v : Id) : (timeOut now.truncate.isoformat inst s).row v =
                  if v = inst.workflowId then _ else s.row v := row_put s _ v
              have hrest' : ∀ x ∈ rest, (timeOut now.truncate.isoformat inst s).row x.workflowId =
                  some x := fun x hx => by
                rw [hput, if_neg fun heq => hnew (List.mem_map.mpr ⟨x, hx, heq⟩)]
                exact hrest x hx
              rcases ih hnodup hrest' with heq | ⟨old, new, hold, hnew', hswept⟩
              · by_cases hw : w = inst.workflowId
                · subst hw
                  refine Or.inr ⟨inst, _, hinst, heq.trans ((hput _).trans (if_pos rfl)), ?_⟩
                  obtain ⟨hstatus, hstate⟩ := overdue_cases hover
                  exact ⟨hstatus, hstate, _, _, _, rfl⟩
                · exact Or.inl (heq.trans ((hput w).trans (if_neg hw)))
              · by_cases hw : w = inst.workflowId
                · -- a row timed out once waits for no gate any more
                  rw [hput, if_pos hw] at hold
                  obtain rfl := Option.some.inj hold
                  have hgone : WorkflowState.needsInformation ∉ humanGateStates := by decide
                  exact absurd hswept.2.1 hgone
                · rw [hput, if_neg hw] at hold
                  exact Or.inr ⟨old, new, hold, hnew', hswept⟩

theorem sweepFrom_signals {now : Datetime} {insts : List WorkflowInstance} :
    (sweepFrom now insts s).2.signals = s.signals ∧
      (sweepFrom now insts s).2.receipts = s.receipts := by
  induction insts generalizing s with
  | nil => exact ⟨rfl, rfl⟩
  | cons inst rest ih =>
      rw [sweepFrom]
      split
      · exact ⟨rfl, rfl⟩
      · exact ih
      · exact ih

theorem candidates_sublist {now : Datetime} {insts found : List WorkflowInstance}
    (h : candidates now insts = .ok found) : found.Sublist insts := by
  induction insts generalizing found with
  | nil =>
      obtain rfl := Except.ok.inj h
      exact .slnil
  | cons inst rest ih =>
      obtain ⟨isDue, _, h⟩ := Raise.except_bind_eq_ok.mp h
      obtain ⟨more, hmore, h⟩ := Raise.except_bind_eq_ok.mp h
      obtain rfl := Except.ok.inj h
      cases isDue with
      | false => exact (ih hmore).cons inst
      | true => exact (ih hmore).cons_cons inst

/-- No workflow is claimed twice by one claim. -/
theorem claim_nodup {worker : String} {limit : Nat} {now : Datetime} {ttl : Nat}
    {claimed : List WorkflowInstance} (h : claim worker limit now ttl s = .ok (claimed, s')) :
    (claimed.map WorkflowInstance.workflowId).Nodup := by
  obtain ⟨found, hfound, h⟩ := Raise.except_bind_eq_ok.mp h
  obtain ⟨rfl, -⟩ := Prod.mk.inj (Except.ok.inj h)
  have hids : (found.map WorkflowInstance.workflowId).Nodup :=
    s.instances.nodup_rows.sublist ((candidates_sublist hfound).map _)
  have hsorted : ((byNextRun found).map WorkflowInstance.workflowId).Nodup :=
    ((List.mergeSort_perm found _).map _).nodup_iff.mpr hids
  have hsame : ((byNextRun found).take limit).map WorkflowInstance.workflowId =
      (((byNextRun found).take limit).map
        (leaseTo worker (now.addSeconds ttl).truncate.isoformat now.truncate.isoformat)).map
          WorkflowInstance.workflowId := by
    rw [List.map_map]
    rfl
  rw [← hsame]
  exact hsorted.sublist ((List.take_sublist _ _).map _)

theorem create_row (h : create inst s = .ok s') : s.row inst.workflowId = none ∧
    s'.instances = s.instances.put inst ∧
    (∀ w, s'.signalsOf w = s.signalsOf w) ∧ s'.receipts = s.receipts := by
  rw [create] at h
  split at h
  · exact absurd h nofun
  rename_i hnone
  split at h
  · exact absurd h nofun
  obtain rfl := Except.ok.inj h
  refine ⟨Option.not_isSome_iff_eq_none.mp hnone, rfl, fun w => ?_, rfl⟩
  refine (signalsOf_set s.signals inst.workflowId w _).trans ?_
  split
  · rename_i heq
    rw [heq]
  · rfl

theorem enqueue_spec {signal : WorkflowSignal} {status : WorkflowRunStatus} {nextRunAt : Datetime}
    {clear : Bool} (h : enqueueSignalAndWake utcNow signal status nextRunAt clear s = .ok s') :
    ∃ old new, s.row signal.workflowId = some old ∧ old.tenantId = signal.tenantId ∧
      old.runStatus ∈ acceptsSignals ∧ s'.instances = s.instances.put new ∧
      new.runStatus = status ∧ old.SameWorkflow new ∧
      new.workflowState = old.workflowState ∧ new.context = old.context ∧
      new.waitDeadline = old.waitDeadline ∧ new.timeoutAppliedAt = old.timeoutAppliedAt ∧
      new.attemptCount = old.attemptCount ∧
      s'.signals = s.signals.set signal.workflowId (s.signalsOf signal.workflowId ++ [signal]) ∧
      s'.receipts = s.receipts := by
  obtain ⟨inst, hfind, h⟩ := Raise.except_bind_eq_ok.mp h
  obtain ⟨hrow, htenant⟩ := find_eq_ok.mp hfind
  split at h
  · exact absurd h nofun
  rename_i haccepts
  obtain rfl := Except.ok.inj h
  refine ⟨inst, _, hrow, htenant, Classical.not_not.mp haccepts, rfl, ?_⟩
  cases clear with
  | false => exact ⟨rfl, ⟨rfl, rfl, rfl, rfl, rfl, rfl⟩, rfl, rfl, rfl, rfl, rfl, rfl, rfl⟩
  | true => exact ⟨rfl, ⟨rfl, rfl, rfl, rfl, rfl, rfl⟩, rfl, rfl, rfl, rfl, rfl, rfl, rfl⟩

theorem append_spec {tenantId : Id} {writes : List WorkflowEventWrite}
    (h : appendEvents utcNow tenantId w writes s = .ok s') :
    ∃ old new, s.row w = some old ∧ old.tenantId = tenantId ∧
      s'.instances = s.instances.put new ∧ old.SameCursor new ∧ old.SameWorkflow new ∧
      s'.signals = s.signals ∧ s'.receipts = s.receipts := by
  obtain ⟨inst, hfind, h⟩ := Raise.except_bind_eq_ok.mp h
  obtain ⟨hrow, htenant⟩ := find_eq_ok.mp hfind
  obtain rfl := Except.ok.inj h
  exact ⟨inst, _, hrow, htenant, rfl, ⟨rfl, rfl, rfl, rfl, rfl, rfl, rfl, rfl, rfl, rfl, rfl, rfl⟩,
    ⟨rfl, rfl, rfl, rfl, rfl, rfl⟩, rfl, rfl⟩

theorem update_spec (h : updateInstance inst s = .ok s') :
    ∃ old, s.row inst.workflowId = some old ∧ old.tenantId = inst.tenantId ∧
      s' = { s with instances := s.instances.put inst } := by
  obtain ⟨old, hfind, h⟩ := Raise.except_bind_eq_ok.mp h
  obtain ⟨hrow, htenant⟩ := find_eq_ok.mp hfind
  exact ⟨old, hrow, htenant, (Except.ok.inj h).symm⟩

/-- No row of the tenant is refused. -/
theorem storable (nextRunAt : Option String) : Storable InMemoryWorkflowStore nextRunAt := by
  intro utcNow inst old s hrow htenant _
  change ∃ s', updateInstance inst s = .ok s'
  rw [updateInstance, find_eq_ok.mpr ⟨hrow, htenant⟩]
  exact ⟨_, rfl⟩

theorem commit_spec {bundle : AdvanceCommitBundle} (h : commitAdvance utcNow bundle s = .ok s') :
    ∃ old seq, s.row bundle.workflowId = some old ∧ old.tenantId = bundle.tenantId ∧
      s'.instances = s.instances.put
        { bundle.instance_ with eventSeq := seq, updatedAt := utcNow } ∧
      s'.signals = s.signals.set bundle.workflowId
        ((s.signalsOf bundle.workflowId).map (consumeResultOf bundle.consumeSignals)) ∧
      s'.receipts = (bundle.executionReceipts.filter (·.status ≠ .failed)).foldl
        (fun r receipt => LedgerCommandExecutor.putReceipt receipt r) s.receipts := by
  obtain ⟨inst, hfind, h⟩ := Raise.except_bind_eq_ok.mp h
  obtain ⟨hrow, htenant⟩ := find_eq_ok.mp hfind
  obtain rfl := Except.ok.inj h
  exact ⟨inst, _, hrow, htenant, rfl, rfl, rfl⟩

theorem row_of_put (h : s'.instances = s.instances.put inst) (w : Id) :
    s'.row w = if w = inst.workflowId then some inst else s.row w := by
  rw [row, h]
  exact row_put s inst w

theorem onlyRow_of_put (h : s'.instances = s.instances.put inst) (w : Id)
    (hw : w ≠ inst.workflowId) : s'.row w = s.row w := by
  rw [row_of_put h, if_neg hw]

theorem signalsOf_of_set {xs : List WorkflowSignal} {v : Id} (h : s'.signals = s.signals.set v xs)
    (w : Id) : s'.signalsOf w = if w = v then xs else s.signalsOf w := by
  rw [signalsOf, h]
  exact signalsOf_set s.signals v w xs

theorem marked_of_set {consume : List (Id × SignalConsumeResult)} {v : Id}
    (h : s'.signals = s.signals.set v ((s.signalsOf v).map (consumeResultOf consume))) (w : Id) :
    MarkedFrom (s.signalsOf w) (s'.signalsOf w) := by
  rw [signalsOf_of_set h]
  split
  · rename_i heq
    rw [heq]
    exact .map (consumeResultOf_marks consume) _
  · exact .refl _

instance : LawfulWorkflowStore InMemoryWorkflowStore where
  id_of_row h := Table.key_of_find? h
  row_withReceipts _ _ := rfl
  signalsOf_withReceipts _ _ := rfl
  receipts_withReceipts _ _ := rfl
  create_ok h := by
    obtain ⟨hnone, hput, hsignals, hreceipts⟩ := create_row h
    refine ⟨hnone, ⟨_, ?_, .refl _, rfl⟩, onlyRow_of_put hput, funext hsignals, hreceipts⟩
    exact (row_of_put hput _).trans (if_pos rfl)
  claim_ok h := by
    have hnodup := claim_nodup h
    obtain ⟨rfl, hclaimed⟩ := claim_spec h
    refine ⟨fun inst hinst => ⟨Table.find?_putAll_of_mem hnodup hinst, ?_⟩,
      fun w hw => Table.find?_putAll_of_not_mem hw, rfl, rfl⟩
    obtain ⟨old, hold, hdue, heq⟩ := hclaimed inst hinst
    exact ⟨old, _, _, hold, due_cases hdue, heq⟩
  update_ok h := by
    obtain ⟨old, hrow, htenant, rfl⟩ := update_spec h
    exact ⟨old, _, hrow, htenant, (row_of_put rfl _).trans (if_pos rfl), .refl _, fun _ => .refl _,
      onlyRow_of_put rfl, rfl, rfl⟩
  append_ok h := by
    obtain ⟨old, new, hrow, _, hput, hcursor, hsame, hsignals, hreceipts⟩ := append_spec h
    have hid : new.workflowId = _ := hsame.workflowId.symm.trans (Table.key_of_find? hrow)
    refine ⟨⟨old, new, hrow, (row_of_put hput _).trans (if_pos hid.symm), hcursor, hsame⟩, ?_, ?_,
      hreceipts⟩
    · intro w hw
      exact onlyRow_of_put hput w (hid ▸ hw)
    · exact funext fun w => congrArg (fun d : Dict Id _ => (d.get? w).getD []) hsignals
  enqueue_ok h := by
    obtain ⟨old, new, hrow, htenant, _, hput, hstatus, hsame, hstate, hcontext, hdeadline, happlied,
      -, hsignals, hreceipts⟩ := enqueue_spec h
    have hid : new.workflowId = _ := hsame.workflowId.symm.trans (Table.key_of_find? hrow)
    refine ⟨⟨old, new, hrow, htenant, ?_, hstatus, hsame, hstate, hcontext, hdeadline, happlied⟩,
      ?_,
      fun _ _ w => ?_, hreceipts⟩
    · exact (row_of_put hput _).trans (if_pos hid.symm)
    · intro w hw
      exact onlyRow_of_put hput w (hid ▸ hw)
    · refine (signalsOf_of_set hsignals w).trans ?_
      split
      · rename_i heq
        rw [heq]
        rfl
      · rfl
  take_sound h := by
    change _ ∈ takeUnconsumedSignals _ _ _ at h
    rw [takeUnconsumedSignals] at h
    split at h
    · obtain ⟨hmem, hconsumed⟩ := List.mem_filter.mp h
      exact ⟨hmem, by simpa using hconsumed⟩
    · exact absurd h List.not_mem_nil
  take_complete hget hmem hconsumed _ := by
    obtain ⟨hrow, htenant⟩ := get_eq_some.mp hget
    change _ ∈ takeUnconsumedSignals _ _ _
    rw [takeUnconsumedSignals, find_eq_ok.mpr ⟨hrow, htenant⟩]
    exact List.mem_filter.mpr ⟨hmem, by rw [hconsumed]; rfl⟩
  mark_ok tenantId signalId result s :=
    ⟨rfl, rfl, fun w => markIn_marked tenantId signalId result w fun e he =>
      Dict.get?_eq_some.mpr he⟩
  commit_ok h := by
    obtain ⟨old, seq, hrow, htenant, hput, hsignals, hreceipts⟩ := commit_spec h
    refine ⟨⟨old, _, hrow, htenant, (row_of_put hput _).trans (if_pos rfl),
      ⟨rfl, rfl, rfl, rfl, rfl, rfl, rfl, rfl, rfl, rfl, rfl, rfl⟩,
      fun _ => ⟨rfl, rfl, rfl, rfl, rfl, rfl⟩⟩, fun w hw => onlyRow_of_put hput w hw,
      marked_of_set hsignals, fun x hx _ => ?_, hreceipts⟩
    rw [show WorkflowStore.signalsOf _ _ = _ from
      (signalsOf_of_set hsignals _).trans (if_pos rfl)]
    exact List.mem_map_of_mem hx
  commit_marks {_ bundle s s'} h := by
    obtain ⟨_, _, _, _, _, hsignals, _⟩ := commit_spec h
    change List.Forall₂ _ (s.signalsOf bundle.workflowId) (s'.signalsOf bundle.workflowId)
    rw [signalsOf_of_set hsignals, if_pos rfl]
    exact List.forall₂_map_right_iff.mpr (List.forall₂_same.mpr fun _ _ _ => rfl)
  update_takes {_ inst _ s} hrow htenant _ := storable inst.nextRunAt _ _ _ s hrow htenant rfl
  commit_takes {utcNow bundle _ s} hrow htenant _ _ := by
    change ∃ s', commitAdvance utcNow bundle s = .ok s'
    rw [commitAdvance, find_eq_ok.mpr ⟨hrow, htenant⟩]
    exact ⟨_, rfl⟩
  enqueue_attempts h hold hnew := by
    refine ⟨?_, storable _⟩
    obtain ⟨old', new', hrow, _, _, hput, _, hsame, _, _, _, _, hattempts, -⟩ := enqueue_spec h
    have hid : new'.workflowId = _ := hsame.workflowId.symm.trans (Table.key_of_find? hrow)
    obtain rfl := Option.some.inj (hrow.symm.trans hold)
    obtain rfl := Option.some.inj (((row_of_put hput _).trans (if_pos hid.symm)).symm.trans hnew)
    exact hattempts
  create_storable _ _ := storable _
  update_storable _ := storable _
  commit_storable _ := storable _
  sweep_rows now s w :=
    sweepFrom_rows s.instances.nodup_rows (fun _ hinst => Table.mem_rows.mp hinst) w
  sweep_signals now s := by
    obtain ⟨hsignals, hreceipts⟩ := sweepFrom_signals 
    exact ⟨funext fun w => congrArg (fun d : Dict Id _ => (d.get? w).getD []) hsignals, hreceipts⟩

end InMemoryWorkflowStore

end ImpactRelay
