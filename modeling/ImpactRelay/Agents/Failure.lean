/-
# `Agents.Failure` — what a failed command leaves behind

An execution that reaches its handler returns a FAILED receipt when the handler
raises, or when the receipt store does after it.  It leaves a trace exactly when
the handler is cut short, or is done and its receipt is then refused
(`failed_untouched_iff`).
-/
import ImpactRelay.Agents.Fates

namespace ImpactRelay

open Raise

namespace LedgerCommandExecutor

variable {s s' : LedgerCommandExecutor}

/-! ## Seen keys and stored receipts -/

theorem touched_of_seen {key : String} (hnew : key ∉ s.seenKeys) (hmem : key ∈ s'.seenKeys) :
    Touched s s' :=
  fun hsame => hnew (hsame.2.2.2 ▸ hmem)

theorem mem_addSeen (key : String) (s : LedgerCommandExecutor) : key ∈ (addSeen key s).seenKeys := by
  rw [addSeen]
  split
  · assumption
  · exact List.mem_append_right _ (List.mem_singleton_self key)

theorem addSeen_receiptStore (key : String) (s : LedgerCommandExecutor) :
    (addSeen key s).receiptStore = s.receiptStore := by
  rw [addSeen]
  split <;> rfl

/-- The write of a receipt that is not FAILED changes nothing when the store raises. -/
theorem storeReceipt_fate {T : LedgerCommandExecutor → LedgerCommandExecutor → Prop} (o : Outside)
    (receipt : ExecutionReceipt) (hstatus : receipt.status ≠ .failed) :
    (if s.receiptStore.isSome ∧ o.putFault.isSome then Fate.refused else .done).Holds T
      (storeReceipt o receipt) s := by
  refine Fate.holds_get ?_
  cases hstore : s.receiptStore with
  | none =>
      rw [if_neg (by simp)]
      exact accepts_pure ()
  | some store =>
      show Fate.Holds T (if receipt.status = .failed then _ else _) s _
      rw [if_neg hstatus]
      cases hput : o.putFault with
      | none =>
          rw [if_neg (by simp)]
          exact ⟨(), _, rfl⟩
      | some e =>
          rw [if_pos (by simp)]
          exact (refuses_throw e).bind

/-! ## The block under `try` -/

section Execution

variable [Digest] [Json.CharTable]

/-- The end of the dispatch and of the write of its receipt. -/
def executionFate (o : Outside) (s : LedgerCommandExecutor) (command : AgentCommand) : Fate :=
  match dispatchFate o.host s command with
  | .refused => .refused
  | .cutShort => .cutShort
  | .done => if s.receiptStore.isSome ∧ o.putFault.isSome then .cutShort else .done

theorem dispatch_frame {P : LedgerCommandExecutor → Prop} (hP : Framed P) (host : Host)
    (command : AgentCommand) : Preserves P (dispatch host command) :=
  Preserves.bind .get fun _ => Preserves.bind (.raiseIf _ _) fun _ =>
    handle_frame hP command.payload

theorem dispatchAndStore_fate (o : Outside) (command : AgentCommand)
    (approval : Option ApprovalReceipt) (hnew : command.idempotencyKey ∉ s.seenKeys)
    (hdraws : DrawsUnused o.host s command.payload) :
    (executionFate o s command).Holds Touched (dispatchAndStore o command approval) s := by
  have hfate := loggedDispatch_fate command hdraws
  rw [executionFate]
  cases hend : dispatchFate o.host s command with
  | refused =>
      rw [hend] at hfate
      exact Refuses.bind hfate
  | cutShort =>
      rw [hend] at hfate
      obtain ⟨e, s₁, he, htouch⟩ := hfate
      exact ⟨e, s₁, he.bind, htouch⟩
  | done =>
      rw [hend] at hfate
      obtain ⟨refs, s₁, hret⟩ := hfate
      obtain ⟨s₀, hdispatch, hlog⟩ := returns_loggedDispatch.mp hret
      obtain ⟨log, hs₁⟩ := logResult_eq command refs s₀
      have hstore : (addSeen command.idempotencyKey s₁).receiptStore = s.receiptStore := by
        have hkept : s₀.receiptStore = s.receiptStore :=
          (dispatch_frame (P := fun t => t.receiptStore = s.receiptStore) (fun _ _ _ _ h => h)
            o.host command).returns rfl hdispatch
        rw [addSeen_receiptStore, ← hlog, hs₁]
        exact hkept
      have hput := storeReceipt_fate (T := Touched) (s := addSeen command.idempotencyKey s₁) o
        (executionReceipt o.host command approval "" .succeeded refs false none)
        (fun h => nomatch h)
      rw [hstore] at hput
      show (if _ then Fate.cutShort else Fate.done).Holds _ _ _
      by_cases hfault : s.receiptStore.isSome ∧ o.putFault.isSome
      · rw [if_pos hfault] at hput ⊢
        obtain ⟨e, he⟩ := hput
        exact ⟨e, _, raises_bind.mpr (Or.inr ⟨refs, s₁, hret,
          raises_modify_bind.mpr he.bind⟩), touched_of_seen hnew (mem_addSeen _ s₁)⟩
      · rw [if_neg hfault] at hput ⊢
        obtain ⟨u, s₂, hu⟩ := hput
        exact ⟨_, s₂, returns_bind.mpr ⟨refs, s₁, hret,
          returns_modify_bind.mpr (hu.bind.trans rfl)⟩⟩

/-! ## The command as a whole -/

/-- The command passes its gates and is neither stored, seen nor simulated. -/
def ReachesHandler (o : Outside) (s : LedgerCommandExecutor) (command : AgentCommand)
    (approval : Option ApprovalReceipt) (agentName : Option String)
    (proposal : Option AgentProposal) : Prop :=
  (∀ p ∈ proposal, assertProposalExecutable p (o.host.nowIso "proposal" 0) = .ok ()) ∧
    assertExecutionAuthorized command approval agentName = .ok () ∧
    (∀ store ∈ s.receiptStore, o.getFault = none ∧
      store.get? (command.tenantId, command.idempotencyKey) = none) ∧
    command.idempotencyKey ∉ s.seenKeys ∧ s.simulation = false

instance (o : Outside) (s : LedgerCommandExecutor) (command : AgentCommand)
    (approval : Option ApprovalReceipt) (agentName : Option String)
    (proposal : Option AgentProposal) :
    Decidable (ReachesHandler o s command approval agentName proposal) :=
  inferInstanceAs (Decidable (_ ∧ _))

/-- The command reaches its handler and is cut short behind it. -/
def LeavesTrace (o : Outside) (s : LedgerCommandExecutor) (command : AgentCommand)
    (approval : Option ApprovalReceipt) (agentName : Option String)
    (proposal : Option AgentProposal) : Prop :=
  ReachesHandler o s command approval agentName proposal ∧ executionFate o s command = .cutShort

section Whole

variable {o : Outside} {command : AgentCommand} {approval : Option ApprovalReceipt}
  {agentName : Option String} {proposal : Option AgentProposal} {receipt : ExecutionReceipt}
  {exc : PyExc} {s₁ : LedgerCommandExecutor}

omit [Digest] [Json.CharTable] in
theorem storedReceipt_returns {stored : Option ExecutionReceipt}
    (h : Returns (storedReceipt o command) s stored s') : s' = s ∧ (stored = none →
      ∀ store ∈ s.receiptStore, o.getFault = none ∧
        store.get? (command.tenantId, command.idempotencyKey) = none) := by
  rw [storedReceipt, returns_get_bind] at h
  cases hstore : s.receiptStore with
  | none =>
      rw [hstore] at h
      exact ⟨(returns_pure.mp h).2.symm, fun _ store hmem => nomatch hmem⟩
  | some store =>
      rw [hstore] at h
      obtain ⟨hfault, hret⟩ := returns_raiseOn_bind.mp h
      obtain ⟨rfl, rfl⟩ := returns_pure.mp hret
      refine ⟨rfl, fun hnone store' hmem => ?_⟩
      obtain rfl := Option.mem_some.mp hmem
      exact ⟨hfault, hnone⟩

omit [Digest] [Json.CharTable] in
theorem storedReceipt_of_none (h : ∀ store ∈ s.receiptStore, o.getFault = none ∧
    store.get? (command.tenantId, command.idempotencyKey) = none) :
    Returns (storedReceipt o command) s none s := by
  rw [storedReceipt, returns_get_bind]
  cases hstore : s.receiptStore with
  | none => exact returns_pure.mpr ⟨rfl, rfl⟩
  | some store =>
      obtain ⟨hfault, hnone⟩ := h store hstore
      exact returns_raiseOn_bind.mpr ⟨hfault, returns_pure.mpr ⟨hnone, rfl⟩⟩

theorem dispatchAndStore_status (h : Returns (dispatchAndStore o command approval) s receipt s') :
    receipt.status ≠ .failed := by
  obtain ⟨refs, s₁, _, h⟩ := returns_bind.mp h
  have h := returns_modify_bind.mp h
  obtain ⟨_, _, _, h⟩ := returns_bind.mp h
  obtain ⟨rfl, _⟩ := returns_pure.mp h
  exact fun h => nomatch h

theorem returns_execute :
    Returns (execute o command approval agentName proposal) s receipt s' ↔
      (∀ p ∈ proposal, assertProposalExecutable p (o.host.nowIso "proposal" 0) = .ok ()) ∧
        assertExecutionAuthorized command approval agentName = .ok () ∧
        Returns (executeAuthorized o command approval) s receipt s' := by
  cases proposal with
  | none =>
      constructor
      · intro h
        obtain ⟨⟨⟩, hauth, h⟩ := returns_okOrRaise_bind.mp h
        exact ⟨fun p hp => (nomatch hp), hauth, h⟩
      · rintro ⟨_, hauth, h⟩
        exact returns_okOrRaise_bind.mpr ⟨(), hauth, h⟩
  | some p =>
      constructor
      · intro h
        obtain ⟨⟨⟩, hproposal, h⟩ := returns_okOrRaise_bind.mp h
        obtain ⟨⟨⟩, hauth, h⟩ := returns_okOrRaise_bind.mp h
        exact ⟨fun q hq => Option.mem_some.mp hq ▸ hproposal, hauth, h⟩
      · rintro ⟨hproposal, hauth, h⟩
        exact returns_okOrRaise_bind.mpr ⟨(), hproposal p rfl,
          returns_okOrRaise_bind.mpr ⟨(), hauth, h⟩⟩

/-- What an execution does that reaches its handler: the receipt of the block under `try`,
or a FAILED one with the message of what it raised. -/
theorem execute_of_attempt (hreach : ReachesHandler o s command approval agentName proposal)
    {result : Except PyExc ExecutionReceipt}
    (h : Returns (attempt (dispatchAndStore o command approval)) s result s₁) :
    ∃ receipt : ExecutionReceipt,
      (∀ r, result = .ok r → receipt = r) ∧
      (∀ e, result = .error e → receipt = executionReceipt o.host command approval "fail_" .failed
        [] false (some e.msg)) ∧
      Returns (execute o command approval agentName proposal) s receipt (addReceipt receipt s₁) := by
  obtain ⟨hproposal, hauth, hstored, hnew, hsim⟩ := hreach
  cases result with
  | ok r =>
      refine ⟨r, fun _ hr => Except.ok.inj hr, fun _ he => (nomatch he),
        returns_execute.mpr ⟨hproposal, hauth, ?_⟩⟩
      refine returns_bind.mpr ⟨none, s, storedReceipt_of_none hstored, ?_⟩
      rw [returns_get_bind, if_neg hnew, hsim, if_neg Bool.false_ne_true]
      exact returns_bind.mpr ⟨.ok r, s₁, h, rfl⟩
  | error e =>
      refine ⟨executionReceipt o.host command approval "fail_" .failed [] false (some e.msg),
        fun _ hr => (nomatch hr), fun _ he => ?_, returns_execute.mpr ⟨hproposal, hauth, ?_⟩⟩
      · obtain rfl := Except.error.inj he
        rfl
      refine returns_bind.mpr ⟨none, s, storedReceipt_of_none hstored, ?_⟩
      rw [returns_get_bind, if_neg hnew, hsim, if_neg Bool.false_ne_true]
      exact returns_bind.mpr ⟨.error e, s₁, h, rfl⟩

/-- A handler that raises is a FAILED receipt, and the state it left. -/
theorem execute_of_raises (hreach : ReachesHandler o s command approval agentName proposal)
    (hraise : Raises (dispatchAndStore o command approval) s exc s₁) :
    ∃ receipt : ExecutionReceipt, receipt.status = .failed ∧
      Returns (execute o command approval agentName proposal) s receipt (addReceipt receipt s₁) := by
  obtain ⟨receipt, -, hfailed, hret⟩ :=
    execute_of_attempt hreach (returns_attempt.mpr (Or.inr ⟨exc, hraise, rfl⟩))
  exact ⟨receipt, by rw [hfailed exc rfl]; rfl, hret⟩

/-- A FAILED receipt is a stored one, or a handler raised. -/
theorem execute_failed (hret : Returns (execute o command approval agentName proposal) s receipt s')
    (hfailed : receipt.status = .failed) :
    s' = addReceipt receipt s ∨
      ReachesHandler o s command approval agentName proposal ∧
        ∃ exc s₁, Raises (dispatchAndStore o command approval) s exc s₁ ∧
          s' = addReceipt receipt s₁ := by
  obtain ⟨hproposal, hauth, h⟩ := returns_execute.mp hret
  obtain ⟨stored, s₀, hstored, h⟩ := returns_bind.mp h
  obtain ⟨hs₀, hnone⟩ := storedReceipt_returns hstored
  rw [hs₀] at h
  cases stored with
  | some old =>
      have hold : Returns (pure old) (addReceipt old s) receipt s' := h
      obtain ⟨rfl, rfl⟩ := returns_pure.mp hold
      exact Or.inl rfl
  | none =>
      rw [returns_get_bind] at h
      by_cases hseen : command.idempotencyKey ∈ s.seenKeys
      · rw [if_pos hseen] at h
        obtain ⟨_, _, _, h⟩ := returns_bind.mp (returns_modify_bind.mp h)
        obtain ⟨rfl, _⟩ := returns_pure.mp h
        exact nomatch hfailed
      rw [if_neg hseen] at h
      by_cases hsim : s.simulation = true
      · rw [if_pos hsim] at h
        have h := returns_modify_bind.mp h
        have h := returns_modify_bind.mp h
        obtain ⟨_, _, _, h⟩ := returns_bind.mp h
        obtain ⟨rfl, _⟩ := returns_pure.mp h
        exact nomatch hfailed
      rw [if_neg hsim] at h
      obtain ⟨result, s₁, hattempt, h⟩ := returns_bind.mp h
      have h := returns_modify_bind.mp h
      obtain ⟨rfl, rfl⟩ := returns_pure.mp h
      rcases returns_attempt.mp hattempt with ⟨r, hr, rfl⟩ | ⟨exc, hexc, rfl⟩
      · exact absurd hfailed (dispatchAndStore_status hr)
      · exact Or.inr ⟨⟨hproposal, hauth, hnone rfl, hseen, Bool.not_eq_true _ |>.mp hsim⟩, exc, s₁,
          hexc, rfl⟩

end Whole

end Execution

section Sample

attribute [local instance] Digest.plain Json.CharTable.all

/-- 50.00 of the gift spent and allocated, and nothing approved. -/
def Sample.allocated : LedgerCommandExecutor :=
  .new (run Ledger.step (.new Ledger.Sample.organization)
    (Ledger.script (Ledger.Sample.gift ++ [
      .importExpense (Ledger.Sample.expense "expense" 5000),
      .allocateExpense "expense" "fund" (.finite 50 0) none]))) false none

def Sample.outside : Outside := { host := .numbered 7 }

/-- A publication that a human approved before the expense was. -/
def Sample.publication : AgentCommand where
  tenantId := "org"
  payload := .publishUseOfFundsReceipt {
    donorId := some "donor", donationId := some "gift", expenseId := some "expense",
    allocationId := some "fund", attributionMethod := some "DIRECT_RESTRICTED",
    attributedAmount := some (.finite 50 0), actor := some "human:finance" }
  requiredAuthority := .l3HumanApproval
  idempotencyKey := "publish-1"

def Sample.approval : ApprovalReceipt where
  approvalId := "apr"
  tenantId := "org"
  proposalId := "prop"
  commandIdempotencyKey := "publish-1"
  decision := .approve
  approverId := "human:finance"

end Sample

end LedgerCommandExecutor

end ImpactRelay
