/-
# `Workflows.Publication` — an advance at the gate of a publication

The approved command attributes an amount to the donor, stores a receipt and returns, or
raises when the receipt's public form is not safe to show, with the receipt stored
already.  The file says it twice.  From the end: whatever the gate does, one receipt is
stored by it or none (`executeGate_stores`).  From the start: where every check on the
way holds, the step ends in the state `afterPublication` names (`step_of_afterPublication`).
The second is by the values the checks read, so that a run through a publication can be
followed without the text of the public form.
-/
import ImpactRelay.Agents.Aggregates
import ImpactRelay.Agents.Once
import ImpactRelay.Workflows.System

namespace ImpactRelay

open Raise WorkflowStore WorkflowRuntime

/-! ## What a publication stores -/

section Publication

variable [Digest] [Json.CharTable]

/-- The receipt `r` goes under a new id into the ledger, an original for what the payload
names. -/
structure Stored (host : Host) (p : PublishPayload) (l l' : Ledger) (r : UseOfFundsReceipt) :
    Prop where
  id : r.receiptId = host.newId "uof" 0
  fresh : r.receiptId ∉ l.receipts
  original : r.corrected = false
  donation : p.donationId = some r.donationId
  expense : p.expenseId = some r.expenditureExpenseId
  allocation : p.allocationId = some r.allocationId
  receipts : l'.receipts = l.receipts.set r.receiptId r

omit [Json.CharTable] in
theorem attributeDonorToExpense_receipts {host : Host} {l : Ledger}
    {donorId donationId expenseId allocationId : Id} {method : AttributionMethod}
    {amount : Option Decimal.Amount} :
    (after (Ledger.attributeDonorToExpense host donorId donationId expenseId allocationId method
      amount none) l).receipts = l.receipts := by
  rcases returns_or_raises (Ledger.attributeDonorToExpense host donorId donationId expenseId
    allocationId method amount none) l with ⟨attr, l', h⟩ | ⟨exc, l', h⟩
  · rw [h.after]
    obtain ⟨log, rfl⟩ := Ledger.attributeDonorToExpense_attributed h
    rw [Ledger.attributed]
    split <;> rfl
  · rw [h.after, Ledger.attributeDonorToExpense_atomic _ _ _ _ _ _ _ l exc l' h]

/-- A publication stores one receipt, or none. -/
theorem publishReceipt_stores (host : Host) (p : PublishPayload) (s : LedgerCommandExecutor) :
    (after (LedgerCommandExecutor.publishReceipt host p) s).ledger.receipts = s.ledger.receipts ∨
      ∃ r, Stored host p s.ledger
        (after (LedgerCommandExecutor.publishReceipt host p) s).ledger r := by
  rw [LedgerCommandExecutor.publishReceipt]
  cases hargs : LedgerCommandExecutor.publishArgs p with
  | error exc => exact Or.inl rfl
  | ok a =>
  obtain ⟨hdonation, hexpense, hallocation⟩ := LedgerCommandExecutor.publishArgs_ok hargs
  have hok : Returns (okOrRaise (.ok a : Except PyExc LedgerCommandExecutor.PublishArgs)) s a s := rfl
  rw [hok.after_bind]
  have hattributed := @attributeDonorToExpense_receipts _ host s.ledger a.donorId a.donationId
    a.expenseId a.allocationId a.method (some a.amount)
  rcases returns_or_raises (Ledger.attributeDonorToExpense host a.donorId a.donationId a.expenseId
    a.allocationId a.method (some a.amount) none) s.ledger with ⟨attr, l₁, h⟩ | ⟨exc, l₁, h⟩
  swap
  · have hraises : Raises (LedgerCommandExecutor.onLedger (Ledger.attributeDonorToExpense host
        a.donorId a.donationId a.expenseId a.allocationId a.method (some a.amount) none)) s exc
        { s with ledger := l₁ } := raises_within.mpr ⟨l₁, h, rfl⟩
    rw [h.after] at hattributed
    rw [hraises.after_bind]
    exact Or.inl hattributed
  rw [h.after] at hattributed
  have hfirst : Returns (LedgerCommandExecutor.onLedger (Ledger.attributeDonorToExpense host
      a.donorId a.donationId a.expenseId a.allocationId a.method (some a.amount) none)) s attr
      { s with ledger := l₁ } := returns_within.mpr ⟨l₁, h, rfl⟩
  rw [hfirst.after_bind]
  rcases returns_or_raises (Ledger.publishUseOfFundsReceipt host a.expenseId a.donationId
    a.allocationId a.actor p.createdAt) l₁ with ⟨r, l₂, h⟩ | ⟨exc, l₂, h⟩
  swap
  · obtain rfl := Ledger.publishUseOfFundsReceipt_atomic _ _ _ _ _ l₁ exc l₂ h
    have hraises : Raises (LedgerCommandExecutor.onLedger (Ledger.publishUseOfFundsReceipt host
        a.expenseId a.donationId a.allocationId a.actor p.createdAt)) { s with ledger := l₂ } exc
        { s with ledger := l₂ } := raises_within.mpr ⟨l₂, h, rfl⟩
    rw [hraises.after_bind]
    exact Or.inl hattributed
  have hsecond : Returns (LedgerCommandExecutor.onLedger (Ledger.publishUseOfFundsReceipt host
      a.expenseId a.donationId a.allocationId a.actor p.createdAt)) { s with ledger := l₁ } r
      { s with ledger := l₂ } := returns_within.mpr ⟨l₂, h, rfl⟩
  obtain ⟨hid, hfresh, horiginal, hdon, hexp, hall, _, _, log, rfl⟩ :=
    Ledger.publishUseOfFundsReceipt_returns h
  -- what is stored stays, also where the public form is refused
  have hpublic : ∀ t : LedgerCommandExecutor, after (do
      okOrRaise (assertPublicSafe (receiptToPublic r))
      return [r.receiptId] : ExecutorM (List Id)) t = t := by
    intro t
    rw [after_bind_pure]
    exact ReadOnly.okOrRaise _ t
  rw [hsecond.after_bind, hpublic]
  refine Or.inr ⟨r, hid, hattributed ▸ hfresh, horiginal, hdon ▸ hdonation, hexp ▸ hexpense,
    hall ▸ hallocation, ?_⟩
  rw [← hattributed]
  rfl

/-- So does a gate that has one executed. -/
theorem executeGate_stores {x : Surroundings} {inst : WorkflowInstance} {signal : WorkflowSignal}
    {approval : ApprovalReceipt} {frozen : FrozenProposedCommand} {command : AgentCommand}
    {p : PublishPayload} (hpayload : command.payload = .publishUseOfFundsReceipt p) (a : Advance) :
    (after (executeGate x inst signal approval frozen command) a).executor.ledger.receipts =
        a.executor.ledger.receipts ∨
      ∃ r, Stored (x.execution 0).host p a.executor.ledger
        (after (executeGate x inst signal approval frozen command) a).executor.ledger r := by
  have hregister : registerContextPreview inst command = pure () := by
    rw [registerContextPreview, hpayload]
  have hafter : (after (executeGate x inst signal approval frozen command) a).executor =
      after (LedgerCommandExecutor.execute (x.execution 0) command (some approval)
        (some frozen.agentName) none) a.executor := by
    rw [executeGate, hregister, pure_bind]
    rcases returns_or_raises (attempt (execute (x.execution 0) command (some approval)
      frozen.agentName none)) a with ⟨result, a', h⟩ | ⟨exc, a', h⟩
    · have hexecute : a' = after (execute (x.execution 0) command (some approval)
          frozen.agentName none) a := by rw [← after_attempt, h.after]
      rw [h.after_bind]
      have hdone : a'.executor = after (LedgerCommandExecutor.execute (x.execution 0) command
          (some approval) (some frozen.agentName) none) a.executor := by
        rw [hexecute, execute, after_modify_bind, after_within]
      split
      · exact hdone
      · split <;> exact hdone
    · exact absurd h not_raises_attempt
  rw [hafter, LedgerCommandExecutor.after_execute_ledger]
  split
  · rw [hpayload]
    exact publishReceipt_stores _ p a.executor
  · exact Or.inl rfl

end Publication

/-! ## A publication that goes through -/

namespace LedgerCommandExecutor

variable [Digest] [Json.CharTable] {s s₁ : LedgerCommandExecutor} {host : Host}

/-- A publication that is accepted and safe to show. -/
theorem publishReceipt_returns {p : PublishPayload} {a : PublishArgs}
    {attr : DonorExpenseAttribution} {r : UseOfFundsReceipt} {l₁ l₂ : Ledger}
    (hargs : publishArgs p = .ok a)
    (hattr : Returns (Ledger.attributeDonorToExpense host a.donorId a.donationId a.expenseId
      a.allocationId a.method (some a.amount) none) s.ledger attr l₁)
    (hpublish : Returns (Ledger.publishUseOfFundsReceipt host a.expenseId a.donationId
      a.allocationId a.actor p.createdAt) l₁ r l₂) (hsafe : NoResidue r) :
    Returns (publishReceipt host p) s [r.receiptId] { s with ledger := l₂ } := by
  refine returns_okOrRaise_bind.mpr ⟨a, hargs, returns_bind.mpr ⟨attr, { s with ledger := l₁ },
    returns_within.mpr ⟨l₁, hattr, rfl⟩, returns_bind.mpr ⟨r, { s with ledger := l₂ },
    returns_within.mpr ⟨l₂, hpublish, rfl⟩, ?_⟩⟩⟩
  exact returns_okOrRaise_bind.mpr
    ⟨(), (assertPublicSafe_receiptToPublic r).mpr hsafe, returns_pure.mpr ⟨rfl, rfl⟩⟩

/-- What becomes of a command whose handler returns. -/
def succeededAt (receipt : ExecutionReceipt) (store : ReceiptStore) (s : LedgerCommandExecutor) :
    LedgerCommandExecutor :=
  addReceipt receipt
    { addSeen receipt.idempotencyKey s with receiptStore := some (putReceipt receipt store) }

theorem execute_of_handled {o : Outside} {command : AgentCommand} {approval : Option ApprovalReceipt}
    {agentName : Option String} {proposal : Option AgentProposal} {refs : List Id}
    {store : ReceiptStore} (hreach : ReachesHandler o s command approval agentName proposal)
    (htenant : command.tenantId = s.ledger.organization.id)
    (hhandle : Returns (handle o.host command.payload) s refs s₁) (hlog : s₁.ledgerLog = none)
    (hstore : s₁.receiptStore = some store) (hput : o.putFault = none) :
    Returns (execute o command approval agentName proposal) s
      (executionReceipt o.host command approval "" .succeeded refs false none)
      (succeededAt (executionReceipt o.host command approval "" .succeeded refs false none) store
        s₁) := by
  have hdispatch : Returns (dispatch o.host command) s refs s₁ := by
    refine returns_get_bind.mpr (returns_raiseIf_bind.mpr ⟨fun h => h htenant, hhandle⟩)
  have hlogged : Returns (loggedDispatch o.host command) s refs s₁ := by
    refine returns_loggedDispatch.mpr ⟨s₁, hdispatch, ?_⟩
    rw [logResult, hlog]
  have hstored := ReceiptStore.storeReceipt_returns
    (executionReceipt o.host command approval "" .succeeded refs false none) hput
    (ReceiptStore.addSeen_store command.idempotencyKey hstore) (by rintro ⟨⟩)
  have hdone : Returns (dispatchAndStore o command approval) s
      (executionReceipt o.host command approval "" .succeeded refs false none) _ :=
    returns_bind.mpr ⟨refs, s₁, hlogged, returns_modify_bind.mpr
      (returns_bind.mpr ⟨(), _, hstored, returns_pure.mpr ⟨rfl, rfl⟩⟩)⟩
  obtain ⟨receipt, hreceipt, -, hreturns⟩ :=
    execute_of_attempt hreach (returns_attempt.mpr (Or.inl ⟨_, hdone, rfl⟩))
  obtain rfl := hreceipt _ rfl
  exact hreturns

end LedgerCommandExecutor

section Gate

variable [Digest] [Json.CharTable] {x : Surroundings} {inst : WorkflowInstance}
  {signal : WorkflowSignal} {signals : List WorkflowSignal} {approval : ApprovalReceipt}
  {frozen : FrozenProposedCommand} {command : AgentCommand} {a : Advance}
  {receipt : ExecutionReceipt} {e : LedgerCommandExecutor}

/-- A publication that succeeds takes the workflow on. -/
theorem executeGate_of_publishes {p : PublishPayload}
    (hpayload : command.payload = .publishUseOfFundsReceipt p)
    (h : Returns (LedgerCommandExecutor.execute (x.execution 0) command (some approval)
      (some frozen.agentName) none) a.executor receipt e) (hstatus : receipt.status ≠ .failed) :
    Returns (executeGate x inst signal approval frozen command) a
      (afterSuccess x inst signal command receipt)
      ⟨e, a.executed ++ [⟨command, some approval⟩]⟩ := by
  have hregister : registerContextPreview inst command = pure () := by
    rw [registerContextPreview, hpayload]
  have hexecute : Returns (execute (x.execution 0) command (some approval) frozen.agentName none) a
      receipt ⟨e, a.executed ++ [⟨command, some approval⟩]⟩ :=
    returns_modify_bind.mpr (returns_within.mpr ⟨e, h, rfl⟩)
  rw [executeGate, hregister, pure_bind]
  refine returns_bind.mpr ⟨.ok receipt, _, returns_attempt.mpr (Or.inl ⟨receipt, hexecute, rfl⟩), ?_⟩
  dsimp only
  rw [if_neg hstatus]
  exact returns_pure.mpr ⟨rfl, rfl⟩

end Gate

/-! ## The state a publication ends in -/

def Phase.taken : Phase → Option (List WorkflowSignal)
  | .took signals => some signals
  | _ => none

def WorkflowRuntime.GateStep.opened :
    GateStep → Option (WorkflowSignal × ApprovalReceipt × FrozenProposedCommand × AgentCommand)
  | .execute signal approval frozen command => some (signal, approval, frozen, command)
  | .settle _ => none

def Payload.publication : Payload → Option PublishPayload
  | .publishUseOfFundsReceipt p => some p
  | _ => none

theorem Phase.taken_eq_some {phase : Phase} {signals : List WorkflowSignal}
    (h : phase.taken = some signals) : phase = .took signals := by
  cases phase with
  | took taken => exact congrArg Phase.took (Option.some.inj h)
  | _ => exact nomatch h

theorem WorkflowRuntime.GateStep.opened_eq_some {step : GateStep} {signal : WorkflowSignal}
    {approval : ApprovalReceipt} {frozen : FrozenProposedCommand} {command : AgentCommand}
    (h : step.opened = some (signal, approval, frozen, command)) :
    step = .execute signal approval frozen command := by
  cases step with
  | settle outcome => exact nomatch h
  | execute signal' approval' frozen' command' =>
      obtain ⟨rfl, rfl, rfl, rfl⟩ := h
      rfl

theorem Payload.publication_eq_some {payload : Payload} {p : PublishPayload}
    (h : payload.publication = some p) : payload = .publishUseOfFundsReceipt p := by
  cases payload with
  | publishUseOfFundsReceipt q => exact congrArg _ (Option.some.inj h)
  | _ => exact nomatch h

theorem except_toOption_eq_some {ε α : Type} {result : Except ε α} {a : α}
    (h : result.toOption = some a) : result = .ok a := by
  cases result with
  | ok b => exact congrArg Except.ok (Option.some.inj h)
  | error e => exact nomatch h

namespace System

variable {σ : Type} [WorkflowStore σ] [Digest] [Json.CharTable] {S : System σ}

theorem step_run_of_returns {worker : String} {w : Id} {x : Surroundings} {inst : WorkflowInstance}
    {signals : List WorkflowSignal} {outcome : Outcome} {a : Advance}
    (hflight : S.flights (worker, w) = some ⟨inst, .took signals⟩)
    (h : Returns (advanceOnce x inst signals) ⟨S.executorFor inst, []⟩ outcome a) :
    S.step (.run worker w x) =
      (S.land inst a).setFlight (worker, w) (some ⟨inst, .ran signals outcome⟩) := by
  rw [System.step, System.onFlight, hflight]
  dsimp only [System.runFlight]
  rw [System.runAdvance, show (advanceOnce x inst signals).run _ = _ from h]

/-- The state after the step in which a publication goes through, if it does. -/
def afterPublication (S : System σ) (key : String × Id) (x : Surroundings) : Option (System σ) := do
  let f ← S.flights key
  let signals ← f.phase.taken
  let (signal, approval, frozen, command) ← (gateStep x f.inst signals).opened
  let p ← command.payload.publication
  let a ← (LedgerCommandExecutor.publishArgs p).toOption
  let o := x.execution 0
  let s := S.executorFor f.inst
  let (_, l₁) ← returned (Ledger.attributeDonorToExpense o.host a.donorId a.donationId a.expenseId
    a.allocationId a.method (some a.amount) none) s.ledger
  let (r, l₂) ← returned (Ledger.publishUseOfFundsReceipt o.host a.expenseId a.donationId
    a.allocationId a.actor p.createdAt) l₁
  let receipt := LedgerCommandExecutor.executionReceipt o.host command (some approval) "" .succeeded
    [r.receiptId] false none
  if f.inst.workflowType = .expenseToReceipt ∧ f.inst.workflowState = .publicationPending ∧
      (∀ m ∈ publicBannedSubstrings, Text.hasInfix m.toList
        (Json.pyReprChars (receiptToPublic r)) = false) ∧
      LedgerCommandExecutor.ReachesHandler o s command (some approval) (some frozen.agentName)
        none ∧
      command.tenantId = s.ledger.organization.id ∧ S.ledgerLog = none ∧ o.putFault = none then
    some ((S.land f.inst ⟨LedgerCommandExecutor.succeededAt receipt (receipts S.store)
      { s with ledger := l₂ }, [⟨command, some approval⟩]⟩).setFlight key
        (some ⟨f.inst, .ran signals (afterSuccess x f.inst signal command receipt)⟩))
  else none

theorem step_of_afterPublication {worker : String} {w : Id} {x : Surroundings} {T : System σ}
    (h : S.afterPublication (worker, w) x = some T) : S.step (.run worker w x) = T := by
  rw [afterPublication] at h
  obtain ⟨f, hflight, h⟩ := Option.bind_eq_some_iff.mp h
  obtain ⟨signals, hsignals, h⟩ := Option.bind_eq_some_iff.mp h
  obtain ⟨⟨signal, approval, frozen, command⟩, hopened, h⟩ := Option.bind_eq_some_iff.mp h
  obtain ⟨p, hpayload, h⟩ := Option.bind_eq_some_iff.mp h
  obtain ⟨a, hargs, h⟩ := Option.bind_eq_some_iff.mp h
  obtain ⟨⟨attr, l₁⟩, hattr, h⟩ := Option.bind_eq_some_iff.mp h
  obtain ⟨⟨r, l₂⟩, hpublish, h⟩ := Option.bind_eq_some_iff.mp h
  dsimp only at h
  split at h
  swap
  · exact nomatch h
  rename_i hgoes
  obtain ⟨hkind, hstate, hsafe, hreach, htenant, hlog, hput⟩ := hgoes
  obtain rfl := Option.some.inj h
  have htook : f = ⟨f.inst, .took signals⟩ := by
    rw [← Phase.taken_eq_some hsignals]
  have hgate : gateStep x f.inst signals = .execute signal approval frozen command :=
    GateStep.opened_eq_some hopened
  have hcommand : command.payload = .publishUseOfFundsReceipt p :=
    Payload.publication_eq_some hpayload
  have hresidue : NoResidue r := by
    intro marker hmarker
    rw [Text.hasSubstring, Json.toList_pyRepr]
    exact hsafe marker hmarker
  have hhandle : Returns (LedgerCommandExecutor.handle (x.execution 0).host command.payload)
      (S.executorFor f.inst) [r.receiptId] { S.executorFor f.inst with ledger := l₂ } := by
    rw [hcommand]
    exact LedgerCommandExecutor.publishReceipt_returns (except_toOption_eq_some hargs)
      (returned_eq_some.mp hattr) (returned_eq_some.mp hpublish) hresidue
  have hexecute := LedgerCommandExecutor.execute_of_handled hreach htenant hhandle hlog
    (show _ = some (receipts S.store) from rfl) hput
  have hadvance := @executeGate_of_publishes _ _ x f.inst signal _ _ _ ⟨S.executorFor f.inst, []⟩
    _ _ _ hcommand hexecute (by exact nofun)
  have hrun : advanceOnce x f.inst signals =
      executeGate x f.inst signal approval frozen command := by
    rw [advanceOnce, hkind, hstate]
    dsimp only
    rw [advanceHumanGate, hgate]
  rw [← hrun] at hadvance
  exact step_run_of_returns (htook ▸ hflight) hadvance

end System

end ImpactRelay
