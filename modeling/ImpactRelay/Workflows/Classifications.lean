/-
# `Workflows.Classifications` — a classification that is reported is not always applied

The classifier names its command after what it says: `alloc:expense:fund:amount`.
The ledger replaces the splits of the expense with each classification, but the
receipt store answers a name it knows with the receipt it has.  So a return to an
earlier choice, after another one, is answered SUCCEEDED and not applied.

The executors come and go; what they share is a ledger and a receipt store.  A
call that dispatches leaves exactly the split it reports (`dispatched_applied`), and
a call that is answered leaves the ledger alone.  Hence a run reports what it
applied exactly when every answered call finds the expense still classified as its
command says (`StillChosen`).
-/
import ImpactRelay.Agents.Once
import ImpactRelay.Workflows.Steps

namespace ImpactRelay

open Raise LedgerCommandExecutor

/-! ## The classifier -/

/-- The payload of a `classify_expense` command; the amount by its text. -/
structure ClassifyPayload where
  expenseId : Id
  allocationId : Option Id := none
  amount : Option String := none
  confidence : PyFloat := ⟨8106479329266893 / 9007199254740992, "0.9"⟩
  contradictions : List String := []

namespace AllocationClassifierAgent

/-- `evaluate`, in a context with the tenant and its default allocation. -/
def evaluate (host : Host) (expires : String) (tenantId : Id) (defaultAllocationId : Option Id)
    (p : ClassifyPayload) : Classification :=
  let allocationId := orElse p.allocationId defaultAllocationId
  let found := orElse allocationId none
  let confidence := if found.isSome then p.confidence else ⟨0, "0.0"⟩
  {
    confidence
    warnings := if found.isSome then [] else ["no allocation_id available"]
    proposal := {
      proposalId := host.newId "prop" 1, agentName := "allocation_classifier"
      confidence := some confidence, contradictions := p.contradictions, expiresAt := expires }
    command := {
      tenantId, requiredAuthority := .l1Propose, expiresAt := some expires
      payload := .allocateExpense {
        expenseId := some p.expenseId, allocationId, amount := p.amount.map Decimal.ofText }
      idempotencyKey := s!"alloc:{p.expenseId}:{textOf allocationId}:{textOf p.amount}" } }

end AllocationClassifierAgent

/-- A call with a command the classifier built for the expense.  Its authority
and its expiry may have been set anew. -/
structure ClassifyCall (expenseId : Id) where
  call : Invocation
  host : Host
  expires : String
  defaultAllocationId : Option Id
  payload : ClassifyPayload
  forExpense : payload.expenseId = expenseId
  built : ∃ authority expiresAt, call.command =
    { (AllocationClassifierAgent.evaluate host expires call.command.tenantId defaultAllocationId
        payload).command with
      requiredAuthority := authority, expiresAt }

namespace ClassifyCall

variable {expenseId : Id}

/-- The payload of the command. -/
def allocation (c : ClassifyCall expenseId) : AllocatePayload where
  expenseId := some c.payload.expenseId
  allocationId := orElse c.payload.allocationId c.defaultAllocationId
  amount := c.payload.amount.map Decimal.ofText

theorem command_payload (c : ClassifyCall expenseId) :
    c.call.command.payload = .allocateExpense c.allocation := by
  obtain ⟨authority, expiresAt, hbuilt⟩ := c.built
  rw [hbuilt]
  rfl

/-- The split the command asks for; without an amount it is all of the expense. -/
def split (c : ClassifyCall expenseId) (l : Ledger) : Option (Id × Int) :=
  match allocateArgs l c.allocation with
  | .ok (_, allocationId, amount) =>
      match orderedMoney amount with
      | .ok amt => some (allocationId, amt)
      | .error _ => none
  | .error _ => none

/-- The split the command asks for is the expense's only one. -/
def Chosen (c : ClassifyCall expenseId) (l l' : Ledger) : Prop :=
  (c.split l).isSome ∧ l'.splitsOf expenseId = (c.split l).toList

instance (c : ClassifyCall expenseId) (l l' : Ledger) : Decidable (c.Chosen l l') :=
  inferInstanceAs (Decidable (_ ∧ _))

end ClassifyCall

/-- What the executors share. -/
structure SharedBooks where
  ledger : Ledger
  store : ReceiptStore

namespace SharedBooks

variable {expenseId : Id}

def executorOn (b : SharedBooks) (c : Invocation) : LedgerCommandExecutor :=
  { c.executor with ledger := b.ledger, receiptStore := some b.store }

variable [Digest] [Json.CharTable]

def step (b : SharedBooks) (c : ClassifyCall expenseId) : SharedBooks :=
  let s := after c.call.execute (b.executorOn c.call)
  { ledger := s.ledger, store := s.receiptStore.getD b.store }

/-- A receipt that says SUCCEEDED reports what the ledger then has. -/
def Applied (b : SharedBooks) (c : ClassifyCall expenseId) : Prop :=
  ∀ receipt s', Returns c.call.execute (b.executorOn c.call) receipt s' →
    receipt.status = .succeeded → c.Chosen b.ledger s'.ledger

/-- A command the store answers with SUCCEEDED finds the expense classified as it says. -/
def StillChosen (b : SharedBooks) (c : ClassifyCall expenseId) : Prop :=
  c.call.Authorized → c.call.outside.getFault = none →
    ∀ receipt ∈ b.store.get? c.call.key, receipt.status = .succeeded → c.Chosen b.ledger b.ledger

end SharedBooks

/-! ## One classification -/

/-- The splits of an expense classified anew, whatever the new record is called. -/
theorem Ledger.splitsOf_allocated {l : Ledger} {expenseId : Id} {expense : Expense}
    {ea : ExpenseAllocation} {log : List AuditReceipt} (h : ea.expenseId = expenseId) :
    ({ moveToApprovalPending expenseId expense (replaceExpenseAllocations expenseId [ea] l) with
      auditLog := log } : Ledger).splitsOf expenseId = [(ea.allocationId, ea.amount)] := by
  have hothers : ∀ v ∈ (l.expenseAllocations.filter fun ea => decide (ea.expenseId ≠ expenseId)).values,
      decide (v.expenseId = expenseId) = false := by
    intro v hv
    rw [Dict.values_filter, List.mem_filter] at hv
    exact decide_eq_false (of_decide_eq_true hv.2)
  show ((moveToApprovalPending expenseId expense
    (replaceExpenseAllocations expenseId [ea] l)).expenseAllocationsFor expenseId).map _ = _
  rw [expenseAllocationsFor_moveToApprovalPending, expenseAllocationsFor, replaceExpenseAllocations,
    Dict.setAll_cons, Dict.setAll_nil, Dict.filter_values_set hothers (decide_eq_true h)]
  rfl

section Calls

variable [Digest] [Json.CharTable] {s s' : LedgerCommandExecutor}

/-- A dispatched `allocate_expense` leaves the split of its arguments. -/
theorem loggedDispatch_allocate {host : Host} {command : AgentCommand} {p : AllocatePayload}
    {refs : List Id} (hpayload : command.payload = .allocateExpense p)
    (h : Returns (loggedDispatch host command) s refs s') :
    ∃ a amt, allocateArgs s.ledger p = .ok a ∧ orderedMoney a.2.2 = .ok amt ∧
      s'.ledger.splitsOf a.1 = [(a.2.1, amt)] := by
  obtain ⟨s₁, hdispatch, rfl⟩ := returns_loggedDispatch.mp h
  obtain ⟨log, hlog⟩ := logResult_eq command refs s₁
  obtain ⟨_, hhandle⟩ := dispatch_returns hdispatch
  rw [hpayload] at hhandle
  obtain ⟨a, ha, hallocate⟩ := returns_okOrRaise_bind.mp (returns_get_bind.mp hhandle)
  obtain ⟨ea, s₂, hea, hpure⟩ := returns_bind.mp hallocate
  obtain ⟨_, rfl⟩ := returns_pure.mp hpure
  obtain ⟨l', hl', rfl⟩ := returns_onLedger hea
  obtain ⟨_, hexpense, hallocation, _, _, hamount, expense, _, _, _, log', rfl⟩ :=
    Ledger.allocateExpense_returns hl'
  refine ⟨a, ea.amount, ha, hamount, ?_⟩
  rw [hlog, ← hallocation]
  exact Ledger.splitsOf_allocated hexpense

omit [Digest] [Json.CharTable] in
theorem storedReceipt_some {o : Outside} {command : AgentCommand} {receipt : ExecutionReceipt}
    (h : Returns (storedReceipt o command) s (some receipt) s') :
    o.getFault = none ∧ ∃ store, s.receiptStore = some store ∧
      store.get? (command.tenantId, command.idempotencyKey) = some receipt := by
  rw [storedReceipt, returns_get_bind] at h
  cases hstore : s.receiptStore with
  | none =>
      rw [hstore] at h
      cases (returns_pure.mp h).1
  | some store =>
      rw [hstore] at h
      obtain ⟨hfault, hret⟩ := returns_raiseOn_bind.mp h
      exact ⟨hfault, store, rfl, (returns_pure.mp hret).1⟩

/-- A SUCCEEDED receipt is a stored one, or its command was dispatched. -/
theorem execute_succeeded {o : Outside} {command : AgentCommand} {approval : Option ApprovalReceipt}
    {agentName : Option String} {proposal : Option AgentProposal} {receipt : ExecutionReceipt}
    (h : Returns (execute o command approval agentName proposal) s receipt s')
    (hstatus : receipt.status = .succeeded) :
    (s'.ledger = s.ledger ∧ o.getFault = none ∧ ∃ store, s.receiptStore = some store ∧
      store.get? (command.tenantId, command.idempotencyKey) = some receipt) ∨
      ∃ refs s₁, Returns (loggedDispatch o.host command) s refs s₁ ∧ s'.ledger = s₁.ledger := by
  obtain ⟨_, _, h⟩ := returns_execute.mp h
  obtain ⟨stored, s₀, hstored, h⟩ := returns_bind.mp h
  have hs₀ := (storedReceipt_returns hstored).1
  rw [hs₀] at h hstored
  cases stored with
  | some old =>
      have hold : Returns (pure old) (addReceipt old s) receipt s' := h
      obtain ⟨rfl, rfl⟩ := returns_pure.mp hold
      exact Or.inl ⟨rfl, storedReceipt_some hstored⟩
  | none =>
      rw [returns_get_bind] at h
      by_cases hseen : command.idempotencyKey ∈ s.seenKeys
      · rw [if_pos hseen] at h
        obtain ⟨_, _, _, h⟩ := returns_bind.mp (returns_modify_bind.mp h)
        obtain ⟨rfl, _⟩ := returns_pure.mp h
        exact nomatch hstatus
      rw [if_neg hseen] at h
      by_cases hsim : s.simulation = true
      · rw [if_pos hsim] at h
        have h := returns_modify_bind.mp h
        have h := returns_modify_bind.mp h
        obtain ⟨_, _, _, h⟩ := returns_bind.mp h
        obtain ⟨rfl, _⟩ := returns_pure.mp h
        exact nomatch hstatus
      rw [if_neg hsim] at h
      obtain ⟨result, s₁, hattempt, h⟩ := returns_bind.mp h
      have h := returns_modify_bind.mp h
      obtain ⟨rfl, rfl⟩ := returns_pure.mp h
      rcases returns_attempt.mp hattempt with ⟨r, hr, rfl⟩ | ⟨exc, _, rfl⟩
      · have hat := dispatchAndStore_at (s := s) o command approval
        obtain ⟨refs, s₂, hdispatch, _⟩ := returns_bind.mp hr
        rw [hr.after, hdispatch.after] at hat
        exact Or.inr ⟨refs, s₂, hdispatch, hat.1⟩
      · exact nomatch hstatus

end Calls

namespace SharedBooks

variable {expenseId : Id} [Digest] [Json.CharTable]

/-- A call that is dispatched leaves what it reports. -/
theorem dispatched_applied {b : SharedBooks} {c : ClassifyCall expenseId} {refs : List Id}
    {s : LedgerCommandExecutor}
    (h : Returns (loggedDispatch c.call.outside.host c.call.command) (b.executorOn c.call) refs s) :
    c.Chosen b.ledger s.ledger := by
  obtain ⟨a, amt, ha, hamt, hsplits⟩ := loggedDispatch_allocate c.command_payload h
  have hexpense : a.1 = expenseId := by
    have hneeded : some c.payload.expenseId = some a.1 := allocateArgs_ok ha
    rw [← Option.some.inj hneeded, c.forExpense]
  have hsplit : c.split b.ledger = some (a.2.1, amt) := by
    have ha' : allocateArgs b.ledger c.allocation = .ok a := ha
    rw [ClassifyCall.split, ha']
    dsimp only
    rw [hamt]
  rw [ClassifyCall.Chosen, hsplit]
  exact ⟨rfl, hexpense ▸ hsplits⟩

theorem applied_iff (b : SharedBooks) (c : ClassifyCall expenseId) :
    Applied b c ↔ StillChosen b c := by
  constructor
  · intro happlied hauth hget receipt hstored hstatus
    have hreturns : Returns c.call.execute (b.executorOn c.call) receipt
        (addReceipt receipt (b.executorOn c.call)) := by
      refine returns_execute.mpr ⟨hauth.1, hauth.2, ?_⟩
      refine returns_bind.mpr ⟨some receipt, b.executorOn c.call, ?_, ?_⟩
      · rw [storedReceipt, returns_get_bind]
        exact returns_raiseOn_bind.mpr ⟨hget, returns_pure.mpr ⟨hstored, rfl⟩⟩
      · exact returns_modify_bind.mpr (returns_pure.mpr ⟨rfl, rfl⟩)
    exact happlied receipt _ hreturns hstatus
  · intro hchosen receipt s' hreturns hstatus
    rcases execute_succeeded hreturns hstatus with ⟨hledger, hget, store, hstore, hstored⟩ |
      ⟨refs, s₁, hdispatch, hledger⟩
    · obtain ⟨hproposal, hauth, _⟩ := returns_execute.mp hreturns
      obtain rfl := Option.some.inj hstore
      rw [hledger]
      exact hchosen ⟨hproposal, hauth⟩ hget receipt hstored hstatus
    · rw [hledger]
      exact dispatched_applied hdispatch

/-- In every sequence of classifications of an expense, by any executors over one
ledger and one receipt store, every SUCCEEDED receipt reports the splits of the
expense exactly when every command the store answers so finds the expense still
classified as it says. -/
theorem classifications_applied_iff (b : SharedBooks) (calls : List (ClassifyCall expenseId)) :
    Along step Applied b calls ↔ Along step StillChosen b calls :=
  along_iff (I := fun _ => True) (fun b c _ => applied_iff b c) (fun _ _ _ _ => trivial) trivial

end SharedBooks

section Sample

attribute [local instance] Digest.plain Json.CharTable.all

/-- An expense to classify, and two funds for it. -/
def Sample.unclassified : SharedBooks where
  ledger := run Ledger.step (.new Ledger.Sample.organization)
    (Ledger.script (Ledger.Sample.gift ++ [
      .registerAllocation { Ledger.Sample.fund with id := "fund2" },
      .importExpense (Ledger.Sample.expense "expense" 5000)]))
  store := .empty

/-- The classifier's command for the whole expense, in an executor of its own. -/
def Sample.classification (call : Nat) (allocationId : Id) : ClassifyCall "expense" where
  call := {
    executor := .new Sample.unclassified.ledger false none
    outside := { host := .numbered call }
    command := (AllocationClassifierAgent.evaluate (.numbered call) "2026-01-02T00:00:00+00:00"
      "org" none { expenseId := "expense", allocationId := some allocationId,
                   amount := some "50.00" }).command }
  host := .numbered call
  expires := "2026-01-02T00:00:00+00:00"
  defaultAllocationId := none
  payload := { expenseId := "expense", allocationId := some allocationId, amount := some "50.00" }
  forExpense := rfl
  built := ⟨_, _, rfl⟩

/-- To one fund, and to the other. -/
def Sample.reclassified : List (ClassifyCall "expense") :=
  [Sample.classification 10 "fund", Sample.classification 11 "fund2"]

/-- The return to the first choice is reported and not applied. -/
theorem SharedBooks.return_not_applied : ¬ ∀ (expenseId : Id) (b : SharedBooks)
    (calls : List (ClassifyCall expenseId)), (∃ expense, b.ledger.expenses.get? expenseId =
      some expense ∧ expense.state ∉ verifiedExpenseStates ++ correctedExpenseStates) →
      Along step Applied b calls := by
  intro h
  have happlied := h "expense" Sample.unclassified
    (Sample.reclassified ++ [Sample.classification 12 "fund"]) ⟨_, rfl, by decide⟩
  have hstill := (applied_iff _ _).mp (along_append.mp happlied).2.1
  obtain ⟨receipt, hstored, hstatus⟩ : ∃ receipt,
      (run step Sample.unclassified Sample.reclassified).store.get?
        (Sample.classification 12 "fund").call.key = some receipt ∧ receipt.status = .succeeded :=
    Option.map_eq_some_iff.mp (by decide)
  exact absurd (hstill ⟨fun p hp => (nomatch hp), by decide⟩ rfl receipt hstored hstatus) (by decide)

end Sample

end ImpactRelay
