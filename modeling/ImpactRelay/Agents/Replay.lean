/-
# `Agents.Replay` — the ledger that comes back from the log

A durable workspace is a ledger and a log.  Commands run against it one after
another, each in some executor over that ledger whose dispatch is wrapped with
that log; `rehydrate` folds the log over an empty ledger.  The fold inserts and
overwrites and never removes, so it gives back the live ledger in every run
whose commands drop nothing, fail without a trace and are logged under new keys
(`rehydrate_faithful`) — and not otherwise.
-/
import ImpactRelay.Agents.Failure
import ImpactRelay.Domain.Growth

namespace ImpactRelay

open Raise

namespace LedgerCommandExecutor

variable {s s' : LedgerCommandExecutor} {refs : List Id}

/-! ## What a handler drops -/

/-- A re-allocation drops the charges of its expense, a publication the
attribution of its triple, a supersession the charges under the replacement's
identifier: the command finds none of these. -/
def DropsNothing (host : Host) (l : Ledger) : Payload → Prop
  | .allocateExpense p => ∀ expenseId ∈ p.expenseId, l.Uncharged expenseId
  | .publishUseOfFundsReceipt p => ∀ donationId ∈ p.donationId, ∀ expenseId ∈ p.expenseId,
      ∀ allocationId ∈ p.allocationId, l.Unattributed donationId expenseId allocationId
  | .supersedeExpense p => ∀ row ∈ p.replacement,
      l.Uncharged (KeyValue.firstOf row.id row.expenseId (host.newId "exp" 0)).str
  | _ => True

instance (host : Host) (l : Ledger) (payload : Payload) :
    Decidable (DropsNothing host l payload) := by
  apply Payload.casesOn (motive := fun payload => Decidable (DropsNothing host l payload)) payload
  all_goals
    intros
    dsimp only [DropsNothing]
    infer_instance

theorem allocateArgs_ok {l : Ledger} {p : AllocatePayload} {a : Id × Id × Decimal.Amount}
    (h : allocateArgs l p = .ok a) : p.expenseId = some a.1 := by
  simp only [allocateArgs, except_bind_eq_ok, need_eq_ok] at h
  obtain ⟨expenseId, he, _, _, _, _, h⟩ := h
  cases h
  exact he

theorem publishArgs_ok {p : PublishPayload} {a : PublishArgs} (h : publishArgs p = .ok a) :
    p.donationId = some a.donationId ∧ p.expenseId = some a.expenseId ∧
      p.allocationId = some a.allocationId := by
  simp only [publishArgs, except_bind_eq_ok, need_eq_ok] at h
  obtain ⟨_, _, _, _, _, _, donationId, hd, expenseId, he, allocationId, ha, amount, _, h⟩ := h
  cases h
  exact ⟨hd, he, ha⟩

/-- A replacement that can be imported has the id it is given. -/
theorem replacementOf_fit {id : KeyValue} {quantized : Decimal.Quantized}
    {record : Id → Int → Expense} (hrecord : ∀ id amount, (record id amount).id = id)
    {replacement : Expense} (h : replacementOf id quantized record = .fit replacement) :
    replacement.id = id.str := by
  cases id with
  | text id =>
      cases quantized with
      | cents c =>
          cases h
          exact hrecord id c
      | nan => cases h
  | unhashable typeName repr => cases quantized <;> cases h

theorem replacementArgs_id {host : Host} {l : Ledger} {p : SupersedePayload} {replacement : Expense}
    {splits : List (Id × Decimal.Amount)}
    (h : replacementArgs host l p = .ok (.fit replacement, splits)) :
    ∃ row, p.replacement = some row ∧
      replacement.id = (KeyValue.firstOf row.id row.expenseId (host.newId "exp" 0)).str := by
  rw [replacementArgs] at h
  split at h
  · cases h
  next row hrow =>
    simp only [except_bind_eq_ok] at h
    obtain ⟨⟨quantized, record⟩, _, h⟩ := h
    dsimp only at h
    split_ifs at h
    simp only [except_bind_eq_ok] at h
    obtain ⟨splits', _, h⟩ := h
    obtain ⟨hfit, -⟩ := Prod.mk.inj (Except.ok.inj h)
    exact ⟨row, hrow, replacementOf_fit (fun _ _ => rfl) hfit⟩

section Handlers

theorem returns_onLedger {α : Type} {x : LedgerM α} {a : α} (h : Returns (onLedger x) s a s') :
    ∃ l', Returns x s.ledger a l' ∧ s' = { s with ledger := l' } := by
  obtain ⟨l', hl', rfl⟩ := returns_within.mp h
  exact ⟨l', hl', rfl⟩

variable [Digest] {host : Host}

theorem attachAll_grown {expenseId : Id} {i : Nat} {items : List EvidenceItem} {u : Unit}
    (h : Returns (attachAll host expenseId i items) s u s') : s.ledger.Grown s'.ledger := by
  induction items generalizing i s with
  | nil =>
      obtain ⟨_, rfl⟩ := returns_pure.mp h
      exact Ledger.Grown.refl _
  | cons item items ih =>
      cases item with
      | other typeName => exact absurd h not_returns_throw
      | mapping id kind summary donorVisible =>
          rw [attachAll] at h
          cases hkey : evidenceId host i id with
          | text key =>
              rw [hkey] at h
              obtain ⟨_, s₁, hattach, h⟩ := returns_bind.mp h
              obtain ⟨l₁, hledger, rfl⟩ := returns_onLedger hattach
              exact (Ledger.attachEvidence_grown hledger).trans (ih h)
          | unhashable typeName repr =>
              rw [hkey] at h
              exact absurd h not_returns_throw

theorem importNormalized_grown {expense : Option NormalizedRow}
    (h : Returns (importNormalized host expense) s refs s') : s.ledger.Grown s'.ledger := by
  obtain ⟨row, _, h⟩ := returns_okOrRaise_bind.mp h
  obtain ⟨ext, _, h⟩ := returns_okOrRaise_bind.mp h
  rw [returns_get_bind] at h
  cases hidx : s.externalIndex.get? ext with
  | some eid =>
      rw [hidx] at h
      obtain ⟨_, rfl⟩ := returns_pure.mp h
      exact Ledger.Grown.refl _
  | none =>
      rw [hidx] at h
      obtain ⟨e, _, h⟩ := returns_okOrRaise_bind.mp h
      obtain ⟨_, s₁, himport, h⟩ := returns_bind.mp h
      obtain ⟨l₁, hledger, rfl⟩ := returns_onLedger himport
      obtain ⟨_, s₂, hattach, h⟩ := returns_bind.mp h
      have h := returns_modify_bind.mp h
      obtain ⟨_, rfl⟩ := returns_pure.mp h
      refine (Ledger.importExpense_grown hledger).trans ?_
      cases hfield : row.evidence with
      | items items =>
          rw [hfield] at hattach
          exact attachAll_grown hattach
      | notIterable typeName =>
          rw [hfield] at hattach
          exact absurd hattach not_returns_throw

/-- A handler that returns and dropped nothing leaves a ledger that has grown. -/
theorem handle_grown [Json.CharTable] {payload : Payload}
    (hdrops : DropsNothing host s.ledger payload) (h : Returns (handle host payload) s refs s') :
    s.ledger.Grown s'.ledger := by
  cases payload with
  | importNormalizedExpense expense => exact importNormalized_grown h
  | allocateExpense p =>
      have h := returns_get_bind.mp h
      obtain ⟨a, ha, h⟩ := returns_okOrRaise_bind.mp h
      obtain ⟨ea, s₁, hcall, h⟩ := returns_bind.mp h
      obtain ⟨l₁, hledger, rfl⟩ := returns_onLedger hcall
      obtain ⟨_, rfl⟩ := returns_pure.mp h
      exact Ledger.allocateExpense_grown (hdrops a.1 (allocateArgs_ok ha)) hledger
  | approveExpense p =>
      obtain ⟨a, _, h⟩ := returns_okOrRaise_bind.mp h
      obtain ⟨_, s₁, hcall, h⟩ := returns_bind.mp h
      obtain ⟨l₁, hledger, rfl⟩ := returns_onLedger hcall
      obtain ⟨_, rfl⟩ := returns_pure.mp h
      exact Ledger.approveExpense_grown hledger
  | rejectExpense p =>
      obtain ⟨a, _, h⟩ := returns_okOrRaise_bind.mp h
      have h := returns_get_bind.mp h
      obtain ⟨_, h⟩ := returns_raiseIf_bind.mp h
      obtain ⟨_, rfl⟩ := returns_pure.mp h
      exact Ledger.Grown.refl _
  | publishUseOfFundsReceipt p =>
      obtain ⟨a, ha, h⟩ := returns_okOrRaise_bind.mp h
      obtain ⟨hdonation, hexpense, hallocation⟩ := publishArgs_ok ha
      obtain ⟨_, s₁, hattribute, h⟩ := returns_bind.mp h
      obtain ⟨l₁, hattributed, rfl⟩ := returns_onLedger hattribute
      obtain ⟨receipt, s₂, hpublish, h⟩ := returns_bind.mp h
      obtain ⟨l₂, hpublished, rfl⟩ := returns_onLedger hpublish
      obtain ⟨_, _, h⟩ := returns_okOrRaise_bind.mp h
      obtain ⟨_, rfl⟩ := returns_pure.mp h
      have hfree := hdrops a.donationId hdonation a.expenseId hexpense a.allocationId hallocation
      exact (Ledger.attributeDonorToExpense_grown hfree hattributed).trans
        (Ledger.publishUseOfFundsReceipt_grown hpublished)
  | sendNotification p =>
      have h := returns_get_bind.mp h
      obtain ⟨a, _, h⟩ := returns_okOrRaise_bind.mp h
      obtain ⟨ws, _, rfl⟩ := returns_within.mp h
      exact Ledger.Grown.refl _
  | reverseExpense p =>
      obtain ⟨a, _, h⟩ := returns_okOrRaise_bind.mp h
      have h := returns_get_bind.mp h
      split at h
      · obtain ⟨_, rfl⟩ := returns_pure.mp h
        exact Ledger.Grown.refl _
      · obtain ⟨_, s₁, hcall, h⟩ := returns_bind.mp h
        obtain ⟨l₁, hledger, rfl⟩ := returns_onLedger hcall
        obtain ⟨_, rfl⟩ := returns_pure.mp h
        exact Ledger.reverseExpense_grown hledger
  | supersedeExpense p =>
      obtain ⟨a, _, h⟩ := returns_okOrRaise_bind.mp h
      have h := returns_get_bind.mp h
      dsimp only at h
      split at h
      · obtain ⟨_, rfl⟩ := returns_pure.mp h
        exact Ledger.Grown.refl _
      · obtain ⟨⟨replacement, splits⟩, hr, h⟩ := returns_okOrRaise_bind.mp h
        cases replacement with
        | unfit replacement =>
            obtain ⟨l₁, hledger, -⟩ := returns_onLedger h
            exact absurd hledger Ledger.not_returns_supersedeByUnfit
        | fit replacement =>
            obtain ⟨row, hrow, hid⟩ := replacementArgs_id hr
            obtain ⟨_, s₁, hcall, h⟩ := returns_bind.mp h
            obtain ⟨l₁, hledger, rfl⟩ := returns_onLedger hcall
            obtain ⟨_, _, h⟩ := returns_okOrRaise_bind.mp h
            have h := returns_modify_bind.mp h
            obtain ⟨_, rfl⟩ := returns_pure.mp h
            exact Ledger.supersedeExpense_grown (hid ▸ hdrops row hrow) hledger
  | unsupported commandType => exact absurd h not_returns_throw

/-! ## What an execution does to the ledger and its log -/

/-- The ledger and the log are these. -/
def At (l : Ledger) (log : Option FileLedgerCommandLog) (s : LedgerCommandExecutor) : Prop :=
  s.ledger = l ∧ s.ledgerLog = log

omit [Digest] in
theorem addSeen_at {l : Ledger} {log : Option FileLedgerCommandLog} (key : String)
    (h : At l log s) : At l log (addSeen key s) := by
  rw [addSeen]
  split
  · exact h
  · exact h

omit [Digest] in
theorem storeReceipt_at {l : Ledger} {log : Option FileLedgerCommandLog} (o : Outside)
    (receipt : ExecutionReceipt) : Preserves (At l log) (storeReceipt o receipt) := by
  refine Preserves.bind .get fun s => ?_
  split
  · exact .pure ()
  · split
    · exact .pure ()
    · exact Preserves.bind ((ReadOnly.raiseOn _ _).preserves _) fun _ => .modify fun _ h => h

omit [Digest] in
theorem recordReceipt_at {l : Ledger} {log : Option FileLedgerCommandLog} (o : Outside)
    (receipt : ExecutionReceipt) : Preserves (At l log) (do
      modify (addReceipt receipt)
      storeReceipt o receipt
      return receipt) :=
  Preserves.bind (.modify fun _ h => h) fun _ => (storeReceipt_at o receipt).bind fun _ => .pure _

omit [Digest] in
theorem storedReceipt_at {l : Ledger} {log : Option FileLedgerCommandLog} (o : Outside)
    (command : AgentCommand) : Preserves (At l log) (storedReceipt o command) := by
  refine Preserves.bind .get fun s => ?_
  split
  · exact .pure _
  · exact Preserves.bind ((ReadOnly.raiseOn _ _).preserves _) fun _ => .pure _

variable [Json.CharTable]

/-- After the block under `try` they are what the dispatch left. -/
theorem dispatchAndStore_at (o : Outside) (command : AgentCommand)
    (approval : Option ApprovalReceipt) :
    At (after (loggedDispatch o.host command) s).ledger
      (after (loggedDispatch o.host command) s).ledgerLog
      (after (dispatchAndStore o command approval) s) := by
  rcases returns_or_raises (loggedDispatch o.host command) s with ⟨refs, s₁, h⟩ | ⟨e, s₁, h⟩
  · rw [h.after, dispatchAndStore, h.after_bind]
    refine Preserves.bind (P := At s₁.ledger s₁.ledgerLog) (.modify fun t ht => addSeen_at _ ht)
      (fun _ => ?_) s₁ ⟨rfl, rfl⟩
    exact (storeReceipt_at o _).bind fun _ => .pure _
  · rw [h.after, dispatchAndStore, h.after_bind]
    exact ⟨rfl, rfl⟩

section Execution

variable {o : Outside} {command : AgentCommand} {approval : Option ApprovalReceipt}
  {agentName : Option String} {proposal : Option AgentProposal}

/-- The gates refuse the command, or the rest of the execution follows. -/
theorem execute_gates :
    Refuses (execute o command approval agentName proposal) s ∨
      ((∀ p ∈ proposal, assertProposalExecutable p (o.host.nowIso "proposal" 0) = .ok ()) ∧
        assertExecutionAuthorized command approval agentName = .ok () ∧
        (execute o command approval agentName proposal).run s =
          (executeAuthorized o command approval).run s) := by
  have hauthorized : Refuses (okOrRaise (assertExecutionAuthorized command approval agentName) >>=
      fun _ => executeAuthorized o command approval) s ∨
      (assertExecutionAuthorized command approval agentName = .ok () ∧
        (okOrRaise (assertExecutionAuthorized command approval agentName) >>=
          fun _ => executeAuthorized o command approval).run s =
          (executeAuthorized o command approval).run s) := by
    cases assertExecutionAuthorized command approval agentName with
    | error e => exact Or.inl (refuses_throw e).bind
    | ok u => exact Or.inr ⟨rfl, rfl⟩
  cases proposal with
  | none =>
      rcases hauthorized with href | ⟨hauth, hrun⟩
      · exact Or.inl href
      · exact Or.inr ⟨fun p hp => (nomatch hp), hauth, hrun⟩
  | some p =>
      cases hp : assertProposalExecutable p (o.host.nowIso "proposal" 0) with
      | error e =>
          refine Or.inl ⟨e, raises_okOrRaise_bind.mpr (Or.inl ⟨hp, rfl⟩)⟩
      | ok u =>
          have hpass : (execute o command approval agentName (some p)).run s =
              (okOrRaise (assertExecutionAuthorized command approval agentName) >>=
                fun _ => executeAuthorized o command approval).run s := by
            rw [execute, hp]
            rfl
          rcases hauthorized with ⟨e, he⟩ | ⟨hauth, hrun⟩
          · exact Or.inl ⟨e, hpass.trans he⟩
          · exact Or.inr ⟨fun q hq => Option.mem_some.mp hq ▸ hp, hauth, hpass.trans hrun⟩

/-- An execution leaves ledger and log alone, or as its dispatch leaves them. -/
theorem execute_at (o : Outside) (command : AgentCommand) (approval : Option ApprovalReceipt)
    (agentName : Option String) (proposal : Option AgentProposal) :
    At s.ledger s.ledgerLog (after (execute o command approval agentName proposal) s) ∨
      ReachesHandler o s command approval agentName proposal ∧
        At (after (loggedDispatch o.host command) s).ledger
          (after (loggedDispatch o.host command) s).ledgerLog
          (after (execute o command approval agentName proposal) s) := by
  rcases execute_gates with href | ⟨hproposal, hauth, hrun⟩
  · rw [href.after]
    exact Or.inl ⟨rfl, rfl⟩
  rw [after_congr hrun, executeAuthorized]
  rcases returns_or_raises (storedReceipt o command) s with ⟨stored, s₀, h⟩ | ⟨e, s₀, h⟩
  swap
  · rw [h.after_bind]
    exact Or.inl ((storedReceipt_at o command).raises ⟨rfl, rfl⟩ h)
  obtain ⟨rfl, hnone⟩ := storedReceipt_returns h
  rw [h.after_bind]
  cases stored with
  | some receipt => exact Or.inl ⟨rfl, rfl⟩
  | none =>
      rw [after_get_bind]
      by_cases hseen : command.idempotencyKey ∈ s₀.seenKeys
      · rw [if_pos hseen]
        exact Or.inl (recordReceipt_at o _ s₀ ⟨rfl, rfl⟩)
      rw [if_neg hseen]
      by_cases hsim : s₀.simulation = true
      · rw [if_pos hsim]
        exact Or.inl (recordReceipt_at o _ _ (addSeen_at command.idempotencyKey ⟨rfl, rfl⟩))
      rw [if_neg hsim]
      refine Or.inr ⟨⟨hproposal, hauth, hnone rfl, hseen, Bool.not_eq_true _ |>.mp hsim⟩, ?_⟩
      have hat := dispatchAndStore_at (s := s₀) o command approval
      rcases returns_or_raises (dispatchAndStore o command approval) s₀ with ⟨r, s₁, h⟩ | ⟨e, s₁, h⟩
      · rw [h.after] at hat
        rw [(returns_attempt.mpr (Or.inl ⟨r, h, rfl⟩)).after_bind]
        exact hat
      · rw [h.after] at hat
        rw [(returns_attempt.mpr (Or.inr ⟨e, h, rfl⟩)).after_bind]
        exact hat

end Execution

/-! ## One dispatch -/

section Dispatch

variable {command : AgentCommand} {log : FileLedgerCommandLog}

theorem dispatch_returns (h : Returns (dispatch host command) s refs s') :
    command.tenantId = s.ledger.organization.id ∧
      Returns (handle host command.payload) s refs s' := by
  have h := returns_get_bind.mp h
  obtain ⟨htenant, h⟩ := returns_raiseIf_bind.mp h
  exact ⟨not_not.mp htenant, h⟩

/-- A notification is not the ledger's: nothing of it is changed or logged. -/
theorem loggedDispatch_send {p : SendPayload} (hpayload : command.payload = .sendNotification p) :
    At s.ledger s.ledgerLog (after (loggedDispatch host command) s) := by
  have hdispatch : Preserves (At s.ledger s.ledgerLog) (dispatch host command) := by
    refine Preserves.bind .get fun _ => Preserves.bind (.raiseIf _ _) fun _ => ?_
    rw [hpayload]
    exact Preserves.bind .get fun _ => Preserves.bind (.okOrRaise _) fun _ => .within fun _ _ h => h
  rcases returns_or_raises (dispatch host command) s with ⟨refs, s₁, h⟩ | ⟨e, s₁, h⟩
  · have hat := hdispatch.returns ⟨rfl, rfl⟩ h
    rw [(returns_loggedDispatch.mpr ⟨s₁, h, rfl⟩).after, logResult]
    have htype : command.commandType ∉ loggedCommandTypes := by
      rw [AgentCommand.commandType, hpayload]
      show "send_notification" ∉ loggedCommandTypes
      decide
    split
    · exact hat
    · rw [if_neg fun h => htype h.2]
      exact hat
  · rw [loggedDispatch, h.after_bind]
    exact hdispatch.raises ⟨rfl, rfl⟩ h

/-- So is every command that is not a money command. -/
theorem loggedDispatch_other (hmoney : command.commandType ∉ loggedCommandTypes) :
    At s.ledger s.ledgerLog (after (loggedDispatch host command) s) := by
  cases hpayload : command.payload with
  | sendNotification p => exact loggedDispatch_send hpayload
  | unsupported commandType =>
      have href : Refuses (dispatch host command) s := by
        refine (returns_get.mpr ⟨rfl, rfl⟩).bind_refuses ?_
        by_cases htenant : command.tenantId = s.ledger.organization.id
        · refine (returns_raiseIf (u := ()).mpr ⟨not_not.mpr htenant, rfl⟩).bind_refuses ?_
          rw [hpayload]
          exact refuses_throw _
        · exact ⟨_, raises_raiseIf_bind.mpr (Or.inl ⟨htenant, rfl, rfl⟩)⟩
      rw [loggedDispatch, href.bind.after]
      exact ⟨rfl, rfl⟩
  | _ =>
      refine absurd ?_ hmoney
      rw [AgentCommand.commandType, hpayload, Payload.commandType]
      decide

/-- A dispatch is refused, or it is done and its result is appended to the log. -/
theorem loggedDispatch_at (hlog : s.ledgerLog = some log) (hsim : s.simulation = false)
    (hmoney : command.commandType ∈ loggedCommandTypes)
    (hdraws : DrawsUnused host s command.payload) (hcut : dispatchFate host s command ≠ .cutShort)
    (hdone : dispatchFate host s command = .done →
      (command.tenantId, command.idempotencyKey) ∉ log.map LogRow.key ∧
        DropsNothing host s.ledger command.payload) :
    after (loggedDispatch host command) s = s ∨
      ∃ refs l', s.ledger.Grown l' ∧ command.tenantId = s.ledger.organization.id ∧
        At l' (some (log ++ [resultRow command l' refs])) (after (loggedDispatch host command) s) := by
  have hfate := dispatch_fate command hdraws
  cases hend : dispatchFate host s command with
  | refused =>
      rw [hend] at hfate
      exact Or.inl (Refuses.after (Refuses.bind hfate))
  | cutShort => exact absurd hend hcut
  | done =>
      obtain ⟨hnew, hdrops⟩ := hdone hend
      rw [hend] at hfate
      obtain ⟨refs, s₁, hret⟩ := hfate
      obtain ⟨htenant, hhandle⟩ := dispatch_returns hret
      have hkept : s₁.ledgerLog = some log ∧ s₁.simulation = false :=
        (dispatch_frame (P := fun t => t.ledgerLog = some log ∧ t.simulation = false)
          (fun _ _ _ _ h => h) host command).returns ⟨hlog, hsim⟩ hret
      refine Or.inr ⟨refs, s₁.ledger, handle_grown hdrops hhandle, htenant, ?_⟩
      rw [(returns_loggedDispatch.mpr ⟨s₁, hret, rfl⟩).after, logResult, hkept.1]
      show At _ _ (if s₁.simulation = false ∧ command.commandType ∈ loggedCommandTypes then _ else _)
      rw [if_pos ⟨hkept.2, hmoney⟩]
      refine ⟨rfl, ?_⟩
      exact congrArg some (if_neg hnew)

end Dispatch

end Handlers

end LedgerCommandExecutor

/-! ## Runs -/

open LedgerCommandExecutor

/-- A ledger and the log of its commands. -/
structure DurableLedger where
  ledger : Ledger
  log : FileLedgerCommandLog

/-- A command and the executor it is given to, whose ledger and log are the workspace's. -/
structure Invocation where
  executor : LedgerCommandExecutor
  outside : Outside
  command : AgentCommand
  approval : Option ApprovalReceipt := none
  agentName : Option String := none
  proposal : Option AgentProposal := none

namespace DurableLedger

/-- The executor on the workspace. -/
def executorOf (d : DurableLedger) (c : Invocation) : LedgerCommandExecutor :=
  { c.executor with ledger := d.ledger, ledgerLog := some d.log }

section Runs

variable [Digest] [Json.CharTable]

def step (d : DurableLedger) (c : Invocation) : DurableLedger :=
  let s := after (execute c.outside c.command c.approval c.agentName c.proposal) (d.executorOf c)
  { ledger := s.ledger, log := s.ledgerLog.getD d.log }

/-- The identifiers the host draws are not in use. -/
def DrawsFresh (d : DurableLedger) (c : Invocation) : Prop :=
  DrawsUnused c.outside.host (d.executorOf c) c.command.payload

/-- A money command that reaches its handler is not cut short; and when it is
done, its key is new to the log and it dropped nothing. -/
def Replayable (d : DurableLedger) (c : Invocation) : Prop :=
  ReachesHandler c.outside (d.executorOf c) c.command c.approval c.agentName c.proposal →
    c.command.commandType ∈ loggedCommandTypes →
      dispatchFate c.outside.host (d.executorOf c) c.command ≠ .cutShort ∧
        (dispatchFate c.outside.host (d.executorOf c) c.command = .done →
          (c.command.tenantId, c.command.idempotencyKey) ∉ d.log.map LogRow.key ∧
            DropsNothing c.outside.host d.ledger c.command.payload)

/-- The fold of the log so far gives an earlier state of the ledger, and the
present one once anything is logged. -/
structure Replays (start : Ledger) (d : DurableLedger) : Prop where
  organization : d.ledger.organization = start.organization
  tenant : ∀ row ∈ d.log, row.tenantId = start.organization.id
  unlogged : d.log = [] → d.ledger = start
  fold : ∃ l, FileLedgerCommandLog.foldRows (.new start.organization) d.log = .ok l ∧
    l.Grown d.ledger ∧ (d.log ≠ [] → l.entities = d.ledger.entities)

theorem replays_step {start : Ledger} {d : DurableLedger} {c : Invocation} (h : Replays start d)
    (hdraws : DrawsFresh d c) (hok : Replayable d c) (hfit : (step d c).ledger.AmountsFit) :
    Replays start (step d c) := by
  -- either nothing of the ledger and its log changes, or one result is appended
  have hcases : step d c = d ∨ ∃ refs l', d.ledger.Grown l' ∧
      c.command.tenantId = d.ledger.organization.id ∧
      step d c = { ledger := l', log := d.log ++ [resultRow c.command l' refs] } := by
    rcases execute_at (s := d.executorOf c) c.outside c.command c.approval c.agentName c.proposal
      with hat | ⟨hreach, hat⟩
    · refine Or.inl ?_
      rw [step, hat.1, hat.2]
      rfl
    by_cases hmoney : c.command.commandType ∈ loggedCommandTypes
    · obtain ⟨hcut, hdone⟩ := hok hreach hmoney
      rcases loggedDispatch_at rfl hreach.2.2.2.2 hmoney hdraws hcut hdone with
        hsame | ⟨refs, l', hgrown, htenant, hledger, hlog⟩
      · refine Or.inl ?_
        rw [step, hat.1, hat.2, hsame]
        rfl
      · refine Or.inr ⟨refs, l', hgrown, htenant, ?_⟩
        rw [step, hat.1, hat.2, hledger, hlog]
        rfl
    · refine Or.inl ?_
      have hsame : At d.ledger (some d.log)
          (after (loggedDispatch c.outside.host c.command) (d.executorOf c)) :=
        loggedDispatch_other hmoney
      rw [step, hat.1, hat.2, hsame.1, hsame.2]
      rfl
  rcases hcases with hsame | ⟨refs, l', hgrown, htenant, hstep⟩
  · rw [hsame]
    exact h
  rw [hstep] at hfit ⊢
  obtain ⟨l, hfold, hl, hentities⟩ := h.fold
  have horg : l'.organization = start.organization := hgrown.1.symm.trans h.organization
  refine ⟨horg, ?_, fun hnil => absurd hnil (by simp), { l' with auditLog := l.auditLog }, ?_, ?_, ?_⟩
  · intro row hrow
    rcases List.mem_append.mp hrow with hrow | hrow
    · exact h.tenant row hrow
    · rw [List.mem_singleton.mp hrow]
      exact htenant.trans (congrArg (·.id) h.organization)
  · rw [FileLedgerCommandLog.foldRows_append, hfold]
    have happly := Ledger.applyResultJson_grown c.command.commandType c.command.idempotencyKey refs
      (hl.trans hgrown) hfit
    show FileLedgerCommandLog.foldRows l [resultRow c.command l' refs] = _
    rw [FileLedgerCommandLog.foldRows, if_neg (fun hempty => by cases hempty), resultRow, happly]
    rfl
  · exact Ledger.Grown.refl l'
  · exact fun _ => rfl

instance (d : DurableLedger) (c : Invocation) : Decidable (DrawsFresh d c) :=
  inferInstanceAs (Decidable (DrawsUnused _ _ _))

instance (d : DurableLedger) (c : Invocation) : Decidable (Replayable d c) :=
  inferInstanceAs (Decidable (_ → _ → _))

end Runs

section Sample

attribute [local instance] Digest.plain Json.CharTable.all

/-- A gift designated to a fund, and nothing logged yet. -/
def Sample.seeded : DurableLedger where
  ledger := run Ledger.step (.new Ledger.Sample.organization)
    (Ledger.script Ledger.Sample.gift)
  log := []

/-- A command in an executor of its own. -/
def Sample.invocation (call : Nat) (key : String) (payload : Payload)
    (approval : Option ApprovalReceipt) : Invocation where
  executor := .new Sample.seeded.ledger false none
  outside := { host := .numbered call }
  command := { tenantId := "org", payload, idempotencyKey := key }
  approval := approval

def Sample.imported : Invocation :=
  Sample.invocation 10 "import-1" (.importNormalizedExpense (some {
    externalSourceId := some "x1", expenseId := some "expense", vendor := some "Vendor",
    amount := some (.finite 50 0), purchaseDate := some "2026-01-02" })) none

def Sample.allocation (call : Nat) (key : String) : Invocation :=
  Sample.invocation call key
    (.allocateExpense { expenseId := some "expense", allocationId := some "fund" }) none

theorem Sample.approver_named : "human:finance" ≠ "" := by decide

def Sample.approval : Invocation :=
  Sample.invocation 12 "approve-1"
    (.approveExpense { expenseId := some "expense", approvedBy := some "human:finance" })
    (some { approvalId := "apr", tenantId := "org", proposalId := "prop",
            commandIdempotencyKey := "approve-1", decision := .approve,
            approverId := "human:finance", named := Sample.approver_named })

/-- An expense imported, allocated and approved. -/
def Sample.approved : List Invocation :=
  [Sample.imported, Sample.allocation 11 "allocate-1", Sample.approval]

/-- An expense imported and allocated twice. -/
def Sample.reallocated : List Invocation :=
  [Sample.imported, Sample.allocation 11 "allocate-1", Sample.allocation 12 "allocate-2"]

end Sample

end DurableLedger

end ImpactRelay
