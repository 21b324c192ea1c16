/-
# `Workflows.Store` — the store port and what it promises

`WorkflowStore` is the port of `workflows/ports.py`, each call atomic: it gives
the store after it or refuses.  `row`, `signalsOf` and `receipts` say what a
store holds; `LawfulWorkflowStore` says what each call does to that, as far as
both stores agree.  Where they differ — which calls they refuse, in which order
signals are taken, which claims are due — the law leaves it open.

`utcNow` is what `utc_now_iso()` gives inside the call.  In the in-memory store
the caller's instance is the stored object; what the caller writes into it is
taken to be stored by the call that hands it over.
-/
import ImpactRelay.Agents.Executor
import ImpactRelay.Workflows.Machine

namespace ImpactRelay

class WorkflowStore (σ : Type) where
  row : σ → Id → Option WorkflowInstance
  /-- The signals of a workflow, consumed or not. -/
  signalsOf : σ → Id → List WorkflowSignal
  receipts : σ → ReceiptStore
  withReceipts : ReceiptStore → σ → σ
  create (utcNow : String) (inst : WorkflowInstance) : σ → Except PyExc σ
  claim (workerId : String) (limit : Nat) (now : Datetime) (leaseTtl : Nat) :
    σ → Except PyExc (List WorkflowInstance × σ)
  /-- Whether a lease with this text has run out. -/
  leaseExpired : Datetime → String → Bool
  updateInstance (utcNow : String) (inst : WorkflowInstance) : σ → Except PyExc σ
  appendEvents (utcNow : String) (tenantId workflowId : Id) (events : List WorkflowEventWrite) :
    σ → Except PyExc σ
  /-- Insert the signal and wake the workflow it is for. -/
  enqueueSignalAndWake (utcNow : String) (signal : WorkflowSignal)
    (newRunStatus : WorkflowRunStatus) (nextRunAt : Datetime) (clearLease : Bool) :
    σ → Except PyExc σ
  takeUnconsumedSignals (tenantId workflowId : Id) : σ → List WorkflowSignal
  markSignalConsumed (tenantId signalId : Id) (result : String) : σ → σ
  commitAdvance (utcNow : String) (bundle : AdvanceCommitBundle) : σ → Except PyExc σ
  /-- The workflows timed out, or what the sweep broke off with. -/
  sweepApprovalTimeouts (now : Datetime) : σ → Except PyExc (List Id) × σ

namespace WorkflowInstance

/-- What no call changes of a stored instance. -/
structure SameWorkflow (a b : WorkflowInstance) : Prop where
  workflowId : a.workflowId = b.workflowId
  tenantId : a.tenantId = b.tenantId
  workflowType : a.workflowType = b.workflowType
  businessKey : a.businessKey = b.businessKey
  simulation : a.simulation = b.simulation
  createdAt : a.createdAt = b.createdAt

/-- What a caller's instance says about where the workflow is. -/
structure SameCursor (a b : WorkflowInstance) : Prop where
  workflowState : a.workflowState = b.workflowState
  runStatus : a.runStatus = b.runStatus
  context : a.context = b.context
  attemptCount : a.attemptCount = b.attemptCount
  nextRunAt : a.nextRunAt = b.nextRunAt
  waitDeadline : a.waitDeadline = b.waitDeadline
  waitDescriptor : a.waitDescriptor = b.waitDescriptor
  leaseOwner : a.leaseOwner = b.leaseOwner
  leaseExpiresAt : a.leaseExpiresAt = b.leaseExpiresAt
  lastError : a.lastError = b.lastError
  timeoutAppliedAt : a.timeoutAppliedAt = b.timeoutAppliedAt
  policyVersion : a.policyVersion = b.policyVersion

theorem SameWorkflow.refl (a : WorkflowInstance) : SameWorkflow a a := ⟨rfl, rfl, rfl, rfl, rfl, rfl⟩

theorem SameWorkflow.symm {a b : WorkflowInstance} (h : SameWorkflow a b) : SameWorkflow b a :=
  ⟨h.1.symm, h.2.symm, h.3.symm, h.4.symm, h.5.symm, h.6.symm⟩

theorem SameWorkflow.trans {a b c : WorkflowInstance} (h : SameWorkflow a b)
    (h' : SameWorkflow b c) : SameWorkflow a c :=
  ⟨h.1.trans h'.1, h.2.trans h'.2, h.3.trans h'.3, h.4.trans h'.4, h.5.trans h'.5, h.6.trans h'.6⟩

theorem SameCursor.refl (a : WorkflowInstance) : SameCursor a a :=
  ⟨rfl, rfl, rfl, rfl, rfl, rfl, rfl, rfl, rfl, rfl, rfl, rfl⟩

theorem SameCursor.symm {a b : WorkflowInstance} (h : SameCursor a b) : SameCursor b a :=
  ⟨h.1.symm, h.2.symm, h.3.symm, h.4.symm, h.5.symm, h.6.symm, h.7.symm, h.8.symm, h.9.symm,
    h.10.symm, h.11.symm, h.12.symm⟩

theorem SameCursor.trans {a b c : WorkflowInstance} (h : SameCursor a b) (h' : SameCursor b c) :
    SameCursor a c :=
  ⟨h.1.trans h'.1, h.2.trans h'.2, h.3.trans h'.3, h.4.trans h'.4, h.5.trans h'.5, h.6.trans h'.6,
    h.7.trans h'.7, h.8.trans h'.8, h.9.trans h'.9, h.10.trans h'.10, h.11.trans h'.11,
    h.12.trans h'.12⟩

/-- The instance, taken by a worker. -/
def leaseTo (worker lease nowIso : String) (inst : WorkflowInstance) : WorkflowInstance :=
  { inst with
    runStatus := .running, leaseOwner := some worker, leaseExpiresAt := some lease,
    updatedAt := nowIso }

/-- The wait of a gate, given up. -/
def expireWait (nowIso : String) (descriptor : WaitDescriptor) (inst : WorkflowInstance) :
    WorkflowInstance :=
  let context := { inst.context with
    expiredWait := inst.context.wait <|> inst.context.expiredWait
    wait := none
    waitExpired := true }
  { inst with
    workflowState := .needsInformation, runStatus := .waitingSignal, waitDeadline := none,
    lastError := some "approval_timeout", timeoutAppliedAt := some nowIso,
    waitDescriptor := some descriptor, context, updatedAt := nowIso }

/-- What a sweep may do to a row. -/
def Swept (old new : WorkflowInstance) : Prop :=
  old.runStatus = .waitingSignal ∧ old.workflowState ∈ humanGateStates ∧
    ∃ nowIso descriptor seq, new = { old.expireWait nowIso descriptor with eventSeq := seq }

/-- `wait_descriptor.get(key) or wait.get(key) or frozen_command.get("idempotency_key")`. -/
def priorKey (inst : WorkflowInstance) : Option String :=
  orElse (inst.waitDescriptor.bind (·.commandIdempotencyKey)) (inst.context.wait.bind Wait.key)

end WorkflowInstance

open WorkflowInstance

namespace WorkflowStore

variable {σ : Type} [WorkflowStore σ]

/-- `get(tenant_id, workflow_id)`. -/
def get (s : σ) (tenantId workflowId : Id) : Option WorkflowInstance :=
  (row s workflowId).filter fun inst => inst.tenantId = tenantId

theorem get_eq_some {s : σ} {tenantId workflowId : Id} {inst : WorkflowInstance} :
    get s tenantId workflowId = some inst ↔
      row s workflowId = some inst ∧ inst.tenantId = tenantId := by
  rw [get, Option.filter_eq_some_iff, decide_eq_true_iff]

/-- The entry of the consume list for a signal. -/
def consumeResultOf (consume : List (Id × SignalConsumeResult)) (signal : WorkflowSignal) :
    WorkflowSignal :=
  consume.foldl (fun s e => if s.signalId = e.1 then s.consume e.2.value else s) signal

/-- The same signals, some of them consumed by now. -/
def MarkedFrom (xs ys : List WorkflowSignal) : Prop :=
  List.Forall₂ (fun x y => y = x ∨ ∃ result, y = x.consume result) xs ys

theorem MarkedFrom.refl : ∀ xs : List WorkflowSignal, MarkedFrom xs xs
  | [] => .nil
  | _ :: xs => .cons (Or.inl rfl) (MarkedFrom.refl xs)

theorem MarkedFrom.map {f : WorkflowSignal → WorkflowSignal}
    (hf : ∀ x, f x = x ∨ ∃ result, f x = x.consume result) :
    ∀ xs : List WorkflowSignal, MarkedFrom xs (xs.map f)
  | [] => .nil
  | x :: xs => .cons (hf x) (MarkedFrom.map hf xs)

theorem MarkedFrom.exists_of_mem {xs ys : List WorkflowSignal} {y : WorkflowSignal}
    (h : MarkedFrom xs ys) (hy : y ∈ ys) : ∃ x ∈ xs, y = x ∨ ∃ result, y = x.consume result := by
  induction h with
  | nil => exact absurd hy List.not_mem_nil
  | cons hxy _ ih =>
      rcases List.mem_cons.mp hy with rfl | hmem
      · exact ⟨_, List.mem_cons_self, hxy⟩
      · obtain ⟨x, hx, hmarked⟩ := ih hmem
        exact ⟨x, List.mem_cons_of_mem _ hx, hmarked⟩

theorem consumeResultOf_marks (consume : List (Id × SignalConsumeResult)) (x : WorkflowSignal) :
    consumeResultOf consume x = x ∨ ∃ result, consumeResultOf consume x = x.consume result := by
  induction consume generalizing x with
  | nil => exact Or.inl rfl
  | cons e rest ih =>
      rw [consumeResultOf, List.foldl_cons, ← consumeResultOf]
      split
      · rcases ih (x.consume e.2.value) with heq | ⟨result, heq⟩
        · exact Or.inr ⟨_, heq⟩
        · exact Or.inr ⟨result, heq⟩
      · exact ih x

variable (σ) in
/-- What a claim takes: an instance that waits to be run, or one whose lease has
run out. -/
def Claimable (now : Datetime) (inst : WorkflowInstance) : Prop :=
  inst.runStatus ∈ claimableRunStatuses ∨
    inst.runStatus = .running ∧ ∃ lease, inst.leaseExpiresAt = some lease ∧
      leaseExpired σ now lease = true

variable (σ) in
/-- An instance that is to run then (or at no time) is written over its row. -/
def Storable (nextRunAt : Option String) : Prop :=
  ∀ (utcNow : String) (inst old : WorkflowInstance) (s : σ), row s inst.workflowId = some old →
    old.tenantId = inst.tenantId → inst.nextRunAt = nextRunAt →
      ∃ s', updateInstance utcNow inst s = .ok s'

/-- Every other row is as it was. -/
def OnlyRow (workflowId : Id) (s s' : σ) : Prop := ∀ w, w ≠ workflowId → row s' w = row s w

end WorkflowStore

open WorkflowStore

/-- What both stores promise. -/
class LawfulWorkflowStore (σ : Type) [WorkflowStore σ] : Prop where
  id_of_row : ∀ {s : σ} {w : Id} {inst : WorkflowInstance},
    row s w = some inst → inst.workflowId = w
  row_withReceipts : ∀ (r : ReceiptStore) (s : σ), row (withReceipts r s) = row s
  signalsOf_withReceipts : ∀ (r : ReceiptStore) (s : σ), signalsOf (withReceipts r s) = signalsOf s
  receipts_withReceipts : ∀ (r : ReceiptStore) (s : σ), receipts (withReceipts r s) = r
  create_ok : ∀ {utcNow : String} {inst : WorkflowInstance} {s s' : σ},
    create utcNow inst s = .ok s' → row s inst.workflowId = none ∧
      (∃ new, row s' inst.workflowId = some new ∧ new.SameWorkflow inst ∧
        new = { inst with nextRunAt := new.nextRunAt }) ∧
      OnlyRow inst.workflowId s s' ∧ signalsOf s' = signalsOf s ∧ receipts s' = receipts s
  claim_ok : ∀ {worker : String} {limit : Nat} {now : Datetime} {ttl : Nat} {s s' : σ}
    {claimed : List WorkflowInstance}, claim worker limit now ttl s = .ok (claimed, s') →
      (∀ inst ∈ claimed, row s' inst.workflowId = some inst ∧ ∃ old lease nowIso,
        row s inst.workflowId = some old ∧ Claimable σ now old ∧
        inst = old.leaseTo worker lease nowIso) ∧
      (∀ w, (∀ inst ∈ claimed, inst.workflowId ≠ w) → row s' w = row s w) ∧
      signalsOf s' = signalsOf s ∧ receipts s' = receipts s
  update_ok : ∀ {utcNow : String} {inst : WorkflowInstance} {s s' : σ},
    updateInstance utcNow inst s = .ok s' →
      ∃ old new, row s inst.workflowId = some old ∧ old.tenantId = inst.tenantId ∧
        row s' inst.workflowId = some new ∧ inst.SameCursor new ∧
        (inst.SameWorkflow old → inst.SameWorkflow new) ∧
        OnlyRow inst.workflowId s s' ∧ signalsOf s' = signalsOf s ∧ receipts s' = receipts s
  append_ok : ∀ {utcNow : String} {tenantId w : Id} {events : List WorkflowEventWrite} {s s' : σ},
    appendEvents utcNow tenantId w events s = .ok s' →
      (∃ old new, row s w = some old ∧ row s' w = some new ∧ old.SameCursor new ∧
        old.SameWorkflow new) ∧
      OnlyRow w s s' ∧ signalsOf s' = signalsOf s ∧ receipts s' = receipts s
  enqueue_ok : ∀ {utcNow : String} {signal : WorkflowSignal} {status : WorkflowRunStatus}
    {nextRunAt : Datetime} {clear : Bool} {s s' : σ},
    enqueueSignalAndWake utcNow signal status nextRunAt clear s = .ok s' →
      (∃ old new, row s signal.workflowId = some old ∧ old.tenantId = signal.tenantId ∧
        row s' signal.workflowId = some new ∧ new.runStatus = status ∧ old.SameWorkflow new ∧
        new.workflowState = old.workflowState ∧ new.context = old.context ∧
        new.waitDeadline = old.waitDeadline ∧ new.timeoutAppliedAt = old.timeoutAppliedAt) ∧
      OnlyRow signal.workflowId s s' ∧
      (signal.consumed = false → signal.consumeResult = none → ∀ w, signalsOf s' w =
        if w = signal.workflowId then signalsOf s w ++ [signal] else signalsOf s w) ∧
      receipts s' = receipts s
  take_sound : ∀ {s : σ} {tenantId w : Id} {signal : WorkflowSignal},
    signal ∈ takeUnconsumedSignals tenantId w s → signal ∈ signalsOf s w ∧ signal.consumed = false
  take_complete : ∀ {s : σ} {tenantId w : Id} {signal : WorkflowSignal} {inst : WorkflowInstance},
    get s tenantId w = some inst → signal ∈ signalsOf s w → signal.consumed = false →
      signal.tenantId = tenantId → signal ∈ takeUnconsumedSignals tenantId w s
  mark_ok : ∀ (tenantId signalId : Id) (result : String) (s : σ),
    row (markSignalConsumed tenantId signalId result s) = row s ∧
      receipts (markSignalConsumed tenantId signalId result s) = receipts s ∧
      ∀ w, MarkedFrom (signalsOf s w) (signalsOf (markSignalConsumed tenantId signalId result s) w)
  commit_ok : ∀ {utcNow : String} {bundle : AdvanceCommitBundle} {s s' : σ},
    commitAdvance utcNow bundle s = .ok s' →
      (∃ old new, row s bundle.workflowId = some old ∧ old.tenantId = bundle.tenantId ∧
        row s' bundle.workflowId = some new ∧ bundle.instance_.SameCursor new ∧
        (bundle.instance_.SameWorkflow old → bundle.instance_.SameWorkflow new)) ∧
      OnlyRow bundle.workflowId s s' ∧
      (∀ w, MarkedFrom (signalsOf s w) (signalsOf s' w)) ∧
      (∀ x ∈ signalsOf s bundle.workflowId, x.tenantId = bundle.tenantId →
        consumeResultOf bundle.consumeSignals x ∈ signalsOf s' bundle.workflowId) ∧
      receipts s' = (bundle.executionReceipts.filter (·.status ≠ .failed)).foldl
        (fun r receipt => LedgerCommandExecutor.putReceipt receipt r) (receipts s)
  commit_marks : ∀ {utcNow : String} {bundle : AdvanceCommitBundle} {s s' : σ},
    commitAdvance utcNow bundle s = .ok s' →
      List.Forall₂ (fun x y => x.tenantId = bundle.tenantId →
        y = consumeResultOf bundle.consumeSignals x)
        (signalsOf s bundle.workflowId) (signalsOf s' bundle.workflowId)
  /-- A row of the caller is written, if it says when the workflow is due. -/
  update_takes : ∀ {utcNow : String} {inst old : WorkflowInstance} {s : σ},
    row s inst.workflowId = some old → old.tenantId = inst.tenantId → inst.nextRunAt ≠ none →
      ∃ s', updateInstance utcNow inst s = .ok s'
  commit_takes : ∀ {utcNow : String} {bundle : AdvanceCommitBundle} {old : WorkflowInstance} {s : σ},
    row s bundle.workflowId = some old → old.tenantId = bundle.tenantId →
      bundle.instance_.nextRunAt ≠ none → bundle.events = [] →
      ∃ s', commitAdvance utcNow bundle s = .ok s'
  /-- A signal is no attempt. -/
  enqueue_attempts : ∀ {utcNow : String} {signal : WorkflowSignal} {status : WorkflowRunStatus}
    {nextRunAt : Datetime} {clear : Bool} {s s' : σ} {old new : WorkflowInstance},
    enqueueSignalAndWake utcNow signal status nextRunAt clear s = .ok s' →
      row s signal.workflowId = some old → row s' signal.workflowId = some new →
      new.attemptCount = old.attemptCount ∧ Storable σ new.nextRunAt
  /-- What one call has stored, an update stores again. -/
  create_storable : ∀ {utcNow : String} {inst new : WorkflowInstance} {s s' : σ},
    create utcNow inst s = .ok s' → row s' inst.workflowId = some new → Storable σ new.nextRunAt
  update_storable : ∀ {utcNow : String} {inst : WorkflowInstance} {s s' : σ},
    updateInstance utcNow inst s = .ok s' → Storable σ inst.nextRunAt
  commit_storable : ∀ {utcNow : String} {bundle : AdvanceCommitBundle} {s s' : σ},
    commitAdvance utcNow bundle s = .ok s' → Storable σ bundle.instance_.nextRunAt
  sweep_rows : ∀ (now : Datetime) (s : σ) (w : Id),
    row (sweepApprovalTimeouts now s).2 w = row s w ∨ ∃ old new, row s w = some old ∧
      row (sweepApprovalTimeouts now s).2 w = some new ∧ old.Swept new
  sweep_signals : ∀ (now : Datetime) (s : σ),
    signalsOf (sweepApprovalTimeouts now s).2 = signalsOf s ∧
      receipts (sweepApprovalTimeouts now s).2 = receipts s

/-! ## Runs of calls -/

/-- A call on the store; where a worker makes it, its name is with it. -/
inductive StoreCall where
  /-- `enqueue_signal_and_wake`, as every caller calls it -/
  | signal (utcNow : String) (signal : WorkflowSignal) (now : Datetime)
  | claim (worker : String) (limit : Nat) (now : Datetime) (leaseTtl : Nat)
  /-- the commit of an advance -/
  | commit (worker utcNow : String) (bundle : AdvanceCommitBundle)
  | update (worker utcNow : String) (inst : WorkflowInstance)
  | append (worker utcNow : String) (tenantId workflowId : Id) (events : List WorkflowEventWrite)
  | sweep (now : Datetime)

/-- The worker that writes, and the workflow it writes to. -/
def StoreCall.writer : StoreCall → Option (String × Id)
  | .commit worker _ bundle => some (worker, bundle.workflowId)
  | .update worker _ inst => some (worker, inst.workflowId)
  | .append worker _ _ w _ => some (worker, w)
  | .signal .. | .claim .. | .sweep .. => none

namespace WorkflowStore

variable {σ : Type} [WorkflowStore σ]

/-- The store after a call that may refuse. -/
def settle (s : σ) : Except PyExc σ → σ
  | .ok s' => s'
  | .error _ => s

def after (s : σ) : StoreCall → σ
  | .signal utcNow x now => settle s (enqueueSignalAndWake utcNow x .pending now true s)
  | .claim worker limit now ttl => settle s ((claim worker limit now ttl s).map Prod.snd)
  | .commit _ utcNow bundle => settle s (commitAdvance utcNow bundle s)
  | .update _ utcNow inst => settle s (updateInstance utcNow inst s)
  | .append _ utcNow tenantId w events => settle s (appendEvents utcNow tenantId w events s)
  | .sweep now => (sweepApprovalTimeouts now s).2

/-- What a call hands out to be advanced. -/
def returned (s : σ) : StoreCall → List WorkflowInstance
  | .claim worker limit now ttl =>
      match claim worker limit now ttl s with
      | .ok (claimed, _) => claimed
      | .error _ => []
  | _ => []

variable [LawfulWorkflowStore σ] {s : σ} {c : StoreCall}

/-- What is handed out is stored, leased to the worker, and was claimable. -/
theorem returned_leased {inst : WorkflowInstance} (h : inst ∈ returned s c) :
    ∃ worker limit now ttl, c = .claim worker limit now ttl ∧
      row (after s c) inst.workflowId = some inst ∧ ∃ old lease nowIso,
        row s inst.workflowId = some old ∧ Claimable σ now old ∧
        inst = old.leaseTo worker lease nowIso := by
  cases c with
  | claim worker limit now ttl =>
      rw [returned] at h
      split at h
      · rename_i claimed s' hcall
        obtain ⟨hclaimed, -⟩ := LawfulWorkflowStore.claim_ok hcall
        refine ⟨worker, limit, now, ttl, rfl, ?_⟩
        rw [after, hcall]
        exact hclaimed inst h
      · exact absurd h List.not_mem_nil
  | _ => exact absurd h List.not_mem_nil

/-- A claim leaves alone what it does not hand out. -/
theorem row_after_claim {worker : String} {limit : Nat} {now : Datetime} {ttl : Nat} {w : Id}
    (h : ∀ inst ∈ returned s (.claim worker limit now ttl), inst.workflowId ≠ w) :
    row (after s (.claim worker limit now ttl)) w = row s w := by
  rw [returned] at h
  rw [after]
  split at h
  · rename_i claimed s' hcall
    rw [hcall]
    exact (LawfulWorkflowStore.claim_ok hcall).2.1 w h
  · rename_i e hcall
    rw [hcall]
    rfl

/-- A worker writes to one row. -/
theorem onlyRow_of_writer {worker : String} {v : Id} (h : c.writer = some (worker, v)) :
    OnlyRow v s (after s c) := by
  have hsettle : ∀ result : Except PyExc σ, (∀ s', result = .ok s' → OnlyRow v s s') →
      OnlyRow v s (settle s result) := by
    intro result hresult
    cases result with
    | error e => exact fun _ _ => rfl
    | ok s' => exact hresult s' rfl
  cases c with
  | commit by_ utcNow bundle =>
      obtain ⟨rfl, rfl⟩ := Prod.mk.inj (Option.some.inj h)
      exact hsettle _ fun s' hs' => (LawfulWorkflowStore.commit_ok hs').2.1
  | update by_ utcNow inst =>
      obtain ⟨rfl, rfl⟩ := Prod.mk.inj (Option.some.inj h)
      refine hsettle _ fun s' hs' => ?_
      obtain ⟨_, _, _, _, _, _, _, honly, _⟩ := LawfulWorkflowStore.update_ok hs'
      exact honly
  | append by_ utcNow tenantId w events =>
      obtain ⟨rfl, rfl⟩ := Prod.mk.inj (Option.some.inj h)
      exact hsettle _ fun s' hs' => (LawfulWorkflowStore.append_ok hs').2.1
  | signal _ _ _ => exact nomatch h
  | claim _ _ _ _ => exact nomatch h
  | sweep _ => exact nomatch h

end WorkflowStore

/-- Noon, where the sample runs begin. -/
def noonNextDay : Datetime := ⟨63902952000 * 1000000, 0⟩

end ImpactRelay
