/-
# `Agents.Once` — a key is dispatched once

Executors come and go, each with its own ledger, workspace, seen keys and mode;
what they share is the receipt store.  So a sequence of executions is a run over
the store alone, and the executor of each call is whatever it is by then.  The
store's operations are taken not to fail.

A call leaves the store as it was or adds one receipt under a key the store did
not have (`step_cases`); a dispatch that succeeds always adds one.  The entry
stays (`Dict.Kept`), and from then on the lookup ends every authorized call with
its key before anything is dispatched (`execute_stored`).
-/
import ImpactRelay.Agents.Replay

namespace ImpactRelay

open Raise LedgerCommandExecutor

namespace Invocation

/-- The key the store files the command under. -/
def key (c : Invocation) : Id × String := (c.command.tenantId, c.command.idempotencyKey)

/-- Neither reading nor writing the store fails. -/
def StoreUp (c : Invocation) : Prop := c.outside.getFault = none ∧ c.outside.putFault = none

instance (c : Invocation) : Decidable (StoreUp c) := inferInstanceAs (Decidable (_ ∧ _))

/-- The executor of the call, over the shared store. -/
def executorOn (c : Invocation) (store : ReceiptStore) : LedgerCommandExecutor :=
  { c.executor with receiptStore := some store }

variable [Digest] [Json.CharTable]

/-- `executor.execute(command, approval=…, agent_name=…, proposal=…)`. -/
def execute (c : Invocation) : ExecutorM ExecutionReceipt :=
  LedgerCommandExecutor.execute c.outside c.command c.approval c.agentName c.proposal

/-- The call passes both gates. -/
def Authorized (c : Invocation) : Prop :=
  (∀ p ∈ c.proposal, assertProposalExecutable p (c.outside.host.nowIso "proposal" 0) = .ok ()) ∧
    assertExecutionAuthorized c.command c.approval c.agentName = .ok ()

/-- The call gets as far as the dispatch, and the dispatch returns. -/
def Dispatches (c : Invocation) (store : ReceiptStore) : Prop :=
  ReachesHandler c.outside (c.executorOn store) c.command c.approval c.agentName c.proposal ∧
    Accepts (loggedDispatch c.outside.host c.command) (c.executorOn store)

end Invocation

namespace ReceiptStore

open Invocation

variable [Digest] [Json.CharTable] {store : ReceiptStore} {c d : Invocation}
  {s s' : LedgerCommandExecutor}

/-- The store after a call. -/
def step (store : ReceiptStore) (c : Invocation) : ReceiptStore :=
  (after c.execute (c.executorOn store)).receiptStore.getD store

/-- No receipt in the store is of a command that FAILED. -/
def NoneFailed (store : ReceiptStore) : Prop :=
  ∀ key receipt, store.get? key = some receipt → receipt.status ≠ .failed

/-! ## One call -/

theorem loggedDispatch_store (host : Host) (command : AgentCommand) :
    Preserves (fun s => s.receiptStore = some store) (loggedDispatch host command) := by
  have hframe : Framed fun s => s.receiptStore = some store := fun _ _ _ _ h => h
  refine Preserves.bind (dispatch_frame hframe host command) fun refs =>
    Preserves.bind .get fun s => ?_
  split
  · exact .pure _
  · split
    · exact Preserves.bind (.within fun _ _ h => h) fun _ => .pure _
    · exact .pure _

omit [Digest] [Json.CharTable] in
theorem storeReceipt_returns {o : Outside} (receipt : ExecutionReceipt)
    (hput : o.putFault = none) (hs : s.receiptStore = some store)
    (hstatus : receipt.status ≠ .failed) : Returns (storeReceipt o receipt) s ()
      { s with receiptStore := some (putReceipt receipt store) } := by
  rw [storeReceipt, returns_get_bind, hs]
  dsimp only
  rw [if_neg hstatus]
  exact returns_raiseOn_bind.mpr ⟨hput, returns_modify.mpr rfl⟩

omit [Digest] [Json.CharTable] in
theorem addSeen_store (key : String) (hs : s.receiptStore = some store) :
    (addSeen key s).receiptStore = some store :=
  (addSeen_receiptStore key s).trans hs

/-- A stored receipt is the answer, and only the executor's list of receipts grows. -/
theorem execute_stored {receipt : ExecutionReceipt} (hup : c.StoreUp) (hauth : c.Authorized)
    (h : store.get? c.key = some receipt) :
    Returns c.execute (c.executorOn store) receipt (addReceipt receipt (c.executorOn store)) := by
  refine returns_execute.mpr ⟨hauth.1, hauth.2, ?_⟩
  refine returns_bind.mpr ⟨some receipt, c.executorOn store, ?_, ?_⟩
  · rw [storedReceipt, returns_get_bind]
    exact returns_raiseOn_bind.mpr ⟨hup.1, returns_pure.mpr ⟨h, rfl⟩⟩
  · exact returns_modify_bind.mpr (returns_pure.mpr ⟨rfl, rfl⟩)

theorem not_dispatches_of_stored {receipt : ExecutionReceipt}
    (h : store.get? c.key = some receipt) : ¬ c.Dispatches store := by
  rintro ⟨⟨_, _, hstored, _⟩, _⟩
  have hnone : store.get? c.key = none := (hstored store rfl).2
  rw [h] at hnone
  exact nomatch hnone

omit [Digest] [Json.CharTable] in
/-- The receipt of the duplicate and of the simulated branch is recorded. -/
theorem record_store {o : Outside} {receipt : ExecutionReceipt} (hput : o.putFault = none)
    (hs : s.receiptStore = some store) (hstatus : receipt.status ≠ .failed) :
    (after (do
      modify (addReceipt receipt)
      storeReceipt o receipt
      return receipt : ExecutorM ExecutionReceipt) s).receiptStore =
        some (putReceipt receipt store) := by
  have hs' : (addReceipt receipt s).receiptStore = some store := hs
  rw [after_modify_bind, (storeReceipt_returns receipt hput hs' hstatus).after_bind]
  rfl

/-- A dispatch that returns is recorded as SUCCEEDED. -/
theorem dispatchAndStore_store {refs : List Id} {o : Outside} {command : AgentCommand}
    (approval : Option ApprovalReceipt) (hput : o.putFault = none)
    (hs : s.receiptStore = some store) (h : Returns (loggedDispatch o.host command) s refs s') :
    ∃ receipt s₂, Returns (dispatchAndStore o command approval) s receipt s₂ ∧
      receipt.status = .succeeded ∧ s₂.receiptStore = some
        (store.set (command.tenantId, command.idempotencyKey) receipt) := by
  have hs' : s'.receiptStore = some store := (loggedDispatch_store o.host command).returns hs h
  have hput' := storeReceipt_returns
    (executionReceipt o.host command approval "" .succeeded refs false none) hput
    (addSeen_store command.idempotencyKey hs') (by exact nofun)
  refine ⟨_, _, returns_bind.mpr ⟨refs, s', h, returns_modify_bind.mpr
    (returns_bind.mpr ⟨(), _, hput', returns_pure.mpr ⟨rfl, rfl⟩⟩)⟩, rfl, rfl⟩

theorem execute_run (hauth : c.Authorized) (s : LedgerCommandExecutor) :
    c.execute.run s = (executeAuthorized c.outside c.command c.approval).run s := by
  obtain ⟨executor, outside, command, approval, agentName, proposal⟩ := c
  obtain ⟨hproposal, hauth⟩ := hauth
  unfold Invocation.execute LedgerCommandExecutor.execute
  dsimp only at hproposal hauth ⊢
  cases proposal with
  | none =>
      rw [hauth]
      rfl
  | some p =>
      rw [hauth]
      dsimp only
      rw [hproposal p rfl]
      rfl

theorem execute_refuses (hauth : ¬ c.Authorized) (s : LedgerCommandExecutor) :
    Refuses c.execute s := by
  have hgates : Refuses c.execute s ∨ _ := execute_gates
  rcases hgates with href | ⟨hproposal, hauthorized, _⟩
  · exact href
  · exact absurd ⟨hproposal, hauthorized⟩ hauth

/-- A call leaves the store as it was, or files one receipt under a new key; a
dispatch that succeeds files one that says so. -/
theorem step_cases (store : ReceiptStore) (hup : c.StoreUp) :
    (¬ c.Dispatches store ∧ step store c = store) ∨
      (store.get? c.key = none ∧ ∃ receipt : ExecutionReceipt, receipt.status ≠ .failed ∧
        (c.Dispatches store → receipt.status = .succeeded) ∧
        step store c = store.set c.key receipt) := by
  have hskipped : ExecutionStatus.skipped ≠ .failed := by decide
  have hsimulated : ExecutionStatus.simulated ≠ .failed := by decide
  by_cases hauth : c.Authorized
  swap
  · refine Or.inl ⟨fun hd => hauth ⟨hd.1.1, hd.1.2.1⟩, ?_⟩
    rw [step, (execute_refuses hauth _).after]
    rfl
  cases hstored : store.get? c.key with
  | some receipt =>
      refine Or.inl ⟨not_dispatches_of_stored hstored, ?_⟩
      rw [step, (execute_stored hup hauth hstored).after]
      rfl
  | none =>
      have hlookup : Returns (storedReceipt c.outside c.command) (c.executorOn store) none
          (c.executorOn store) := storedReceipt_of_none fun st hst => by
        obtain rfl := Option.mem_some.mp hst
        exact ⟨hup.1, hstored⟩
      rw [step, after_congr (execute_run hauth _), executeAuthorized, hlookup.after_bind,
        after_get_bind]
      by_cases hseen : c.command.idempotencyKey ∈ (c.executorOn store).seenKeys
      · rw [if_pos hseen, record_store hup.2 rfl hskipped]
        have hnot (hd : c.Dispatches store) : False := hd.1.2.2.2.1 hseen
        exact Or.inr ⟨rfl, _, hskipped, fun hd => (hnot hd).elim, rfl⟩
      rw [if_neg hseen]
      by_cases hsim : (c.executorOn store).simulation = true
      · rw [if_pos hsim, after_modify_bind, record_store hup.2 (addSeen_store _ rfl) hsimulated]
        have hnot (hd : c.Dispatches store) : False :=
          Bool.false_ne_true (hd.1.2.2.2.2.symm.trans hsim)
        exact Or.inr ⟨rfl, _, hsimulated, fun hd => (hnot hd).elim, rfl⟩
      rw [if_neg hsim]
      rcases returns_or_raises (loggedDispatch c.outside.host c.command) (c.executorOn store) with
        ⟨refs, s₁, h⟩ | ⟨exc, s₁, h⟩
      · obtain ⟨receipt, s₂, hret, hstatus, hstore⟩ :=
          dispatchAndStore_store c.approval hup.2 rfl h
        have hafter : (addReceipt receipt s₂).receiptStore = some (store.set c.key receipt) := hstore
        have hclean : receipt.status ≠ .failed := by
          rw [hstatus]
          decide
        rw [(returns_attempt.mpr (Or.inl ⟨receipt, hret, rfl⟩)).after_bind, after_modify_bind]
        exact Or.inr ⟨rfl, receipt, hclean, fun _ => hstatus, congrArg (·.getD store) hafter⟩
      · have hs₁ := (loggedDispatch_store c.outside.host c.command).raises rfl h
        have hraise : Raises (dispatchAndStore c.outside c.command c.approval)
            (c.executorOn store) exc s₁ := h.bind
        rw [(returns_attempt.mpr (Or.inr ⟨exc, hraise, rfl⟩)).after_bind, after_modify_bind]
        refine Or.inl ⟨?_, congrArg (·.getD store) hs₁⟩
        rintro ⟨_, refs, s₂, hret⟩
        exact hret.not_raises h

/-! ## Sequences of calls -/

theorem step_kept (hup : c.StoreUp) : Dict.Kept store (step store c) := by
  rcases step_cases store hup with ⟨_, heq⟩ | ⟨hnone, receipt, _, _, heq⟩
  · rw [heq]
    exact .refl store
  · rw [heq]
    exact .set receipt (Dict.get?_eq_none.mp hnone)

theorem step_noneFailed (hup : c.StoreUp) (h : NoneFailed store) : NoneFailed (step store c) := by
  rcases step_cases store hup with ⟨_, heq⟩ | ⟨_, receipt, hstatus, _, heq⟩
  · rw [heq]
    exact h
  · rw [heq]
    intro key r hr
    rw [Dict.get?_set] at hr
    split at hr
    · exact Option.some.inj hr ▸ hstatus
    · exact h key r hr

theorem run_kept {cs : List Invocation} (hup : ∀ c ∈ cs, c.StoreUp) :
    Dict.Kept store (run step store cs) := by
  induction cs generalizing store with
  | nil => exact .refl store
  | cons c cs ih =>
      obtain ⟨hc, hcs⟩ := List.forall_mem_cons.mp hup
      exact (step_kept hc).trans (ih hcs)

/-- What a call with the key of a receipt in the store does: nothing is
dispatched, and if it is authorized it returns that receipt, with the ledger, the
workspace and the store as they were. -/
def Answers (store : ReceiptStore) (receipt : ExecutionReceipt) (d : Invocation) : Prop :=
  store.get? d.key = some receipt ∧ ¬ d.Dispatches store ∧
    (d.Authorized → ∃ s', Returns d.execute (d.executorOn store) receipt s' ∧
      s'.ledger = d.executor.ledger ∧ s'.workspace = d.executor.workspace ∧
      s'.receiptStore = some store)

theorem answers_of_stored {receipt : ExecutionReceipt} (hup : d.StoreUp)
    (h : store.get? d.key = some receipt) : Answers store receipt d :=
  ⟨h, not_dispatches_of_stored h, fun hauth => ⟨_, execute_stored hup hauth h, rfl, rfl, rfl⟩⟩

/-- In every sequence of executions by any executors over one receipt store whose
operations do not fail, the store never holds a FAILED receipt, and once a
command is dispatched successfully, its receipt answers every later call with
its tenant and key. -/
theorem dispatched_once {calls : List Invocation} (hclean : NoneFailed store)
    (hup : ∀ c ∈ calls, c.StoreUp) :
    NoneFailed (run step store calls) ∧
      ∀ past c between, calls = past ++ c :: between → c.Dispatches (run step store past) →
        ∃ receipt : ExecutionReceipt, receipt.status = .succeeded ∧
          ∀ d : Invocation, d.StoreUp → d.key = c.key →
            Answers (run step store calls) receipt d := by
  constructor
  · have halong : ∀ (cs : List Invocation), (∀ c ∈ cs, c.StoreUp) → ∀ st, NoneFailed st →
        NoneFailed (run step st cs) := by
      intro cs
      induction cs with
      | nil => exact fun _ _ h => h
      | cons c cs ih =>
          intro hcs st hst
          obtain ⟨hc, hrest⟩ := List.forall_mem_cons.mp hcs
          exact ih hrest _ (step_noneFailed hc hst)
    exact halong calls hup store hclean
  · rintro past c between rfl hd
    have hc : c.StoreUp := hup c (List.mem_append_right _ List.mem_cons_self)
    rcases step_cases (run step store past) hc with ⟨hno, _⟩ | ⟨_, receipt, _, hstatus, heq⟩
    · exact absurd hd hno
    refine ⟨receipt, hstatus hd, fun d hdup hkey => answers_of_stored hdup ?_⟩
    rw [run_append, run_cons, hkey]
    refine run_kept (fun x hx => hup x (List.mem_append_right _ (List.mem_cons_of_mem _ hx))) _ _ ?_
    rw [heq, Dict.get?_set_self]

end ReceiptStore

section Sample

open ReceiptStore DurableLedger

attribute [local instance] Digest.plain Json.CharTable.all

/-- An import over an empty store. -/
theorem ReceiptStore.imported_dispatched_once :
    NoneFailed (run step (.empty : ReceiptStore) [Sample.imported]) ∧
      ∃ receipt : ExecutionReceipt, receipt.status = .succeeded ∧
        ∀ d : Invocation, d.StoreUp → d.key = Sample.imported.key →
          Answers (run step (.empty : ReceiptStore) [Sample.imported]) receipt d :=
  have h : NoneFailed (run step (.empty : ReceiptStore) [Sample.imported]) ∧ _ :=
    dispatched_once (fun _ _ h => nomatch h) (by decide)
  ⟨h.1, h.2 [] Sample.imported [] rfl ⟨by decide, _, _, rfl⟩⟩

end Sample

end ImpactRelay
