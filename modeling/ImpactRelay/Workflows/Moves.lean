/-
# `Workflows.Moves` — where an advance leaves a workflow

An advance that writes does one of nine things (`Moved`): it lets the workflow rest
where it is, has its execution tried again, turns it round where there is nothing left
to do, passes over a signal, declines at a gate, goes on from a gate whose command has
been executed or whose digest is acknowledged, makes an automatic step, or enters a
gate.  `advanceOnce_moved` goes through the branches of `advance_once` once; what a
workflow can do in a run follows from it by cases.
-/
import ImpactRelay.Workflows.Advance

namespace ImpactRelay

open Raise WorkflowRuntime

/-- No claim takes it and nothing is due: it waits for a signal, or it is over. -/
def restingRunStatuses : List WorkflowRunStatus := .waitingSignal :: terminalRunStatuses

theorem waitingSignal_rests : WorkflowRunStatus.waitingSignal ∈ restingRunStatuses :=
  List.mem_cons_self

theorem terminal_rests {status : WorkflowRunStatus} (h : status ∈ terminalRunStatuses) :
    status ∈ restingRunStatuses :=
  List.mem_cons_of_mem _ h

/-- The states in which an advance of the type has something to do. -/
def handledStates : WorkflowType → List WorkflowState
  | .expenseToReceipt => [.received, .normalized, .evidencePending, .classificationPending,
      .reviewPending, .ledgerCommitted, .publicationPending, .published, .notificationPending]
  | .correction =>
      [.received, .reviewPending, .publicationPending, .notificationPending, .ledgerCommitted,
        .needsInformation]
  | .scheduledDigest => [.received, .publicationPending, .published]

/-- The instance is over, and an advance has nothing to do for it.  Corrections and
digests are stopped by their run status; an expense is only where no step is for its state. -/
def WorkflowInstance.HandedBack (inst : WorkflowInstance) : Prop :=
  inst.runStatus ∈ terminalRunStatuses ∧ (inst.workflowType = .expenseToReceipt →
    inst.workflowState ∉ handledStates .expenseToReceipt)

instance (inst : WorkflowInstance) : Decidable inst.HandedBack :=
  inferInstanceAs (Decidable (_ ∧ (_ → _)))

/-- The steps nobody is asked about, with the run status they end in. -/
def automaticSteps : WorkflowType → WorkflowState → List (WorkflowState × WorkflowRunStatus)
  | .expenseToReceipt, .received => [(.normalized, .pending), (.blocked, .waitingSignal)]
  | .expenseToReceipt, .normalized | .expenseToReceipt, .evidencePending
  | .expenseToReceipt, .classificationPending =>
      [(.blocked, .failedTerminal), (.blocked, .waitingSignal), (.needsInformation, .waitingSignal)]
  | .correction, .received => [(.needsInformation, .waitingSignal), (.blocked, .failedTerminal)]
  | .correction, .ledgerCommitted => [(.delivered, .completed)]
  | .scheduledDigest, .received => [(.blocked, .failedTerminal), (.published, .pending)]
  | .scheduledDigest, .published => [(.delivered, .completed)]
  | _, _ => []

namespace WorkflowInstance

/-- The wait is the same, with the same deadline. -/
structure SameWait (inst new : WorkflowInstance) : Prop where
  wait : new.context.wait = inst.context.wait
  deadline : new.waitDeadline = inst.waitDeadline

/-- The wait is over. -/
structure NoWait (new : WorkflowInstance) : Prop where
  wait : new.context.wait = none
  deadline : new.waitDeadline = none

/-- The five ways into a gate: the gate, the command that is frozen there, and the
deadline of the wait. -/
inductive EntersGate (x : Surroundings) (inst : WorkflowInstance) :
    WorkflowState → FrozenProposedCommand → Option String → Prop
  | review {expenseId packetId : Id} (kind : inst.workflowType = .expenseToReceipt)
      (state : inst.workflowState ∈
        [WorkflowState.normalized, .evidencePending, .classificationPending]) :
      EntersGate x inst .reviewPending (frozenApproval x inst.tenantId expenseId packetId)
        (some (x.expires (24 * 7)))
  | publication {payload : PublishPayload} (kind : inst.workflowType = .expenseToReceipt)
      (state : inst.workflowState = .ledgerCommitted) :
      EntersGate x inst .publicationPending (frozenPublish x inst payload)
        (some (x.clock.addSeconds (7 * 86400)).isoformat)
  | notification {preview : EmailPreview} (kind : inst.workflowType = .expenseToReceipt)
      (state : inst.workflowState = .published) :
      EntersGate x inst .notificationPending (frozenSend x inst.tenantId preview) inst.waitDeadline
  | correction {frozen : FrozenProposedCommand} {kindText expenseId reason : String}
      {replacement : Option ReplacementRow} {splits : List SplitItem}
      (kind : inst.workflowType = .correction) (state : inst.workflowState = .received)
      (command : correctionCommand x inst.tenantId kindText expenseId reason replacement splits =
        .inl frozen) :
      EntersGate x inst .reviewPending frozen (some (x.expires 168))
  | digest {frozen : FrozenProposedCommand} {updatedAt : Option String}
      (kind : inst.workflowType = .scheduledDigest) (state : inst.workflowState = .received)
      (command : (digestWait x inst updatedAt).frozenCommand = some frozen) :
      EntersGate x inst .publicationPending frozen (some (x.expires 72))

/-- The key a gate asks an approval for. -/
def gateKey (inst : WorkflowInstance) : Option String :=
  match inst.workflowType with
  | .scheduledDigest => inst.context.wait.bind (·.commandIdempotencyKey)
  | .expenseToReceipt | .correction => inst.context.wait.bind Wait.key

/-- The signal a gate decides on: the first approval it has taken that names its key. -/
def decidesOn (inst : WorkflowInstance) (signals : List WorkflowSignal) : Option Id :=
  (matching inst.gateKey signals).head?.map (·.1.signalId)

/-- Where a gate goes on waiting with its command, only the signal it has decided on is
consumed. -/
def Decided (inst : WorkflowInstance) (signals : List WorkflowSignal) (consumed : List Id)
    (new : WorkflowInstance) : Prop :=
  inst.workflowState ∈ humanGateStates → new.runStatus = .waitingSignal →
    inst.context.wait.bind (·.frozenCommand) ≠ none → consumed = (inst.decidesOn signals).toList

/-- What an advance makes of the instance, with the signals it has taken and those it
marks consumed. -/
inductive Moved (x : Surroundings) (inst : WorkflowInstance) (signals : List WorkflowSignal)
    (consumed : List Id) (new : WorkflowInstance) : Prop
  | rests (state : new.workflowState = inst.workflowState) (wait : inst.SameWait new)
      (status : new.runStatus ∈ restingRunStatuses) (decided : inst.Decided signals consumed new)
  | retries (kind : inst.workflowType ≠ .scheduledDigest)
      (gate : inst.workflowState ∈ humanGateStates)
      (state : new.workflowState = inst.workflowState) (wait : inst.SameWait new)
      (status : new.runStatus = .retryScheduled) (attempt : new.attemptCount = inst.attemptCount + 1)
  | spins (idle : inst.workflowState ∉ handledStates inst.workflowType)
      (live : inst.runStatus ∉ terminalRunStatuses)
      (state : new.workflowState = inst.workflowState) (wait : inst.SameWait new)
      (status : new.runStatus = .pending)
  | ignores (gate : inst.workflowType = .scheduledDigest ∧ inst.workflowState = .publicationPending ∨
        inst.workflowState ∈ humanGateStates ∧ inst.context.wait = none)
      {signal : WorkflowSignal} (taken : signal ∈ signals) (marked : signal.signalId ∈ consumed)
      (state : new.workflowState = inst.workflowState) (wait : inst.SameWait new)
      (status : new.runStatus = inst.runStatus) (decided : inst.Decided signals consumed new)
  | declines (gate : inst.workflowState ∈ humanGateStates)
      (state : (new.workflowState, new.runStatus) ∈ [(WorkflowState.rejected,
        WorkflowRunStatus.failedTerminal), (.needsInformation, .waitingSignal)])
  | executes (kind : inst.workflowType ≠ .scheduledDigest)
      (gate : inst.workflowState ∈ humanGateStates) {frozen : FrozenProposedCommand}
      (waits : inst.context.wait.bind (·.frozenCommand) = some frozen)
      (state : new.workflowState = (succeeded x inst frozen.payload).workflowState)
      (status : new.runStatus = (succeeded x inst frozen.payload).runStatus) (wait : new.NoWait)
  | acknowledges (kind : inst.workflowType = .scheduledDigest)
      (gate : inst.workflowState = .publicationPending) (state : new.workflowState = .published)
      (status : new.runStatus = .pending) (wait : new.NoWait)
  | steps (step : (new.workflowState, new.runStatus) ∈
      automaticSteps inst.workflowType inst.workflowState)
  | enters {frozen : FrozenProposedCommand} {deadline : Option String}
      (gate : inst.EntersGate x new.workflowState frozen deadline)
      (status : new.runStatus = .waitingSignal)
      (waits : new.context.wait.bind (·.frozenCommand) = some frozen)
      (until_ : new.waitDeadline = deadline) (silent : consumed = [])

theorem Moved.touch {x : Surroundings} {inst new : WorkflowInstance}
    {signals : List WorkflowSignal} {consumed : List Id} (h : inst.Moved x signals consumed new)
    (now : String) : inst.Moved x signals consumed (new.touch now) := by
  cases h with
  | rests state wait status decided => exact .rests state ⟨wait.1, wait.2⟩ status decided
  | retries kind gate state wait status attempt =>
      exact .retries kind gate state ⟨wait.1, wait.2⟩ status attempt
  | spins idle live state wait status => exact .spins idle live state ⟨wait.1, wait.2⟩ status
  | ignores gate taken marked state wait status decided =>
      exact .ignores gate taken marked state ⟨wait.1, wait.2⟩ status decided
  | declines gate state => exact .declines gate state
  | executes kind gate waits state status wait =>
      exact .executes kind gate waits state status ⟨wait.1, wait.2⟩
  | acknowledges kind gate state status wait =>
      exact .acknowledges kind gate state status ⟨wait.1, wait.2⟩
  | steps step => exact .steps step
  | enters gate status waits until_ silent => exact .enters gate status waits until_ silent

theorem applied_touch (inst : WorkflowInstance) (now : String) :
    (inst.touch now).timeoutAppliedAt = inst.timeoutAppliedAt := rfl

end WorkflowInstance

open WorkflowInstance

namespace Outcome

/-- The signals an outcome marks consumed. -/
def consumed (o : Outcome) : List Id :=
  match o.write with
  | .commit bundle => bundle.consumeSignals.map (·.1)
  | _ => []

/-- What is written moves the instance, and no advance touches the note of a timeout.
Nothing is written for a workflow that is over, and a bare update makes one due. -/
structure Moved (x : Surroundings) (inst : WorkflowInstance) (signals : List WorkflowSignal)
    (o : Outcome) : Prop where
  written : ∀ new, o.written = some new →
    inst.Moved x signals o.consumed new ∧ new.timeoutAppliedAt = inst.timeoutAppliedAt
  nothing : o.written = none → inst.runStatus ∈ terminalRunStatuses
  updates : ∀ new, o.write = .update new → new.runStatus = .pending

end Outcome

section Branches

variable {x : Surroundings} {inst : WorkflowInstance} {signals : List WorkflowSignal}

theorem moved_of_written {o : Outcome} {new : WorkflowInstance} (hwritten : o.written = some new)
    (happlied : new.timeoutAppliedAt = inst.timeoutAppliedAt)
    (hupdates : ∀ new, o.write = .update new → new.runStatus = .pending)
    (h : inst.Moved x signals o.consumed new) : o.Moved x inst signals := by
  refine ⟨fun new' hnew' => ?_, fun hnone => ?_, hupdates⟩
  · rw [hwritten] at hnew'
    exact Option.some.inj hnew' ▸ ⟨h, happlied⟩
  · exact nomatch hwritten.symm.trans hnone

theorem nothing_moved (h : inst.runStatus ∈ terminalRunStatuses) :
    Outcome.Moved x inst signals { write := .nothing } :=
  ⟨fun _ hwritten => (nomatch hwritten), fun _ => h, fun _ hwrite => nomatch hwrite⟩

/-- A signal to mark makes no difference. -/
theorem Outcome.Moved.marking {o : Outcome} (h : o.Moved x inst signals) (mark : Option Id) :
    Outcome.Moved x inst signals { o with mark } :=
  ⟨h.written, h.nothing, h.updates⟩

theorem commit_moved {new : WorkflowInstance} {events : List WorkflowEventWrite}
    {receipts : List ExecutionReceipt} {consume : List (Id × SignalConsumeResult)}
    (happlied : new.timeoutAppliedAt = inst.timeoutAppliedAt)
    (h : inst.Moved x signals (consume.map (·.1)) new) :
    (commit x new events receipts consume).Moved x inst signals :=
  moved_of_written rfl ((applied_touch new x.clockIso).trans happlied)
    (fun _ hwrite => nomatch hwrite) (h.touch x.clockIso)

/-! ## At a gate -/

theorem gateKey_eq (h : inst.workflowType ≠ .scheduledDigest) :
    inst.gateKey = inst.context.wait.bind Wait.key := by
  rw [gateKey]
  split
  · rename_i hkind
    exact absurd hkind h
  · rfl
  · rfl

theorem decidesOn_of_head {signal : WorkflowSignal} {approval : ApprovalReceipt}
    {rest : List (WorkflowSignal × ApprovalReceipt)}
    (h : matching inst.gateKey signals = (signal, approval) :: rest) :
    inst.decidesOn signals = some signal.signalId := by
  rw [decidesOn, h]
  rfl

theorem decidesOn_of_nil (h : matching inst.gateKey signals = []) :
    inst.decidesOn signals = none := by
  rw [decidesOn, h]
  rfl

theorem decided_of_eq {consumed : List Id} {new : WorkflowInstance}
    (h : consumed = (inst.decidesOn signals).toList) : inst.Decided signals consumed new :=
  fun _ _ _ => h

/-- A gate that has put its wait aside, or one without a command. -/
theorem decided_of_idle {consumed : List Id} {new : WorkflowInstance}
    (h : inst.context.wait.bind (·.frozenCommand) = none) : inst.Decided signals consumed new :=
  fun _ _ hfrozen => absurd h hfrozen

theorem decided_of_done {consumed : List Id} {new : WorkflowInstance}
    (h : new.runStatus ≠ .waitingSignal) : inst.Decided signals consumed new :=
  fun _ hwaiting _ => absurd hwaiting h

theorem processSignal_moved {signal : WorkflowSignal} {approval : ApprovalReceipt}
    {frozen : FrozenProposedCommand} {o : Outcome} (hgate : inst.workflowState ∈ humanGateStates)
    (hfirst : inst.decidesOn signals = some signal.signalId)
    (h : processSignal x inst signal approval frozen = .settle o) : o.Moved x inst signals := by
  rw [processSignal] at h
  split at h
  · obtain rfl := GateStep.settle.inj h
    have hdecided : [signal.signalId] = (inst.decidesOn signals).toList := by
      rw [hfirst]
      rfl
    exact commit_moved rfl
      (.rests rfl ⟨rfl, rfl⟩ waitingSignal_rests (decided_of_eq hdecided))
  split at h
  · obtain rfl := GateStep.settle.inj h
    exact commit_moved rfl (.declines hgate (.head _))
  · obtain rfl := GateStep.settle.inj h
    exact commit_moved rfl (.declines hgate (.tail _ (.head _)))
  · obtain rfl := GateStep.settle.inj h
    exact commit_moved rfl (.declines hgate (.tail _ (.head _)))
  · cases h

theorem mem_of_lateApproval {signal : WorkflowSignal} {approval : ApprovalReceipt}
    (h : lateApproval inst signals = some (signal, approval)) : signal ∈ signals := by
  have hmem : (signal, approval) ∈
      signals.filterMap fun s => s.approvalReceipt.map fun ar => (s, ar) :=
    List.mem_of_find?_eq_some h
  obtain ⟨signal', htaken, hreceipt⟩ := List.mem_filterMap.mp hmem
  obtain ⟨_, _, heq⟩ := Option.map_eq_some_iff.mp hreceipt
  exact (Prod.mk.inj heq).1 ▸ htaken

theorem gateStep_moved {o : Outcome} (hkind : inst.workflowType ≠ .scheduledDigest)
    (hgate : inst.workflowState ∈ humanGateStates)
    (h : gateStep x inst signals = .settle o) : o.Moved x inst signals := by
  rw [gateStep] at h
  split at h
  · rename_i hexpired
    have hidle : inst.context.wait.bind (·.frozenCommand) = none := by
      rw [hexpired.2]
      rfl
    split at h
    · rename_i signal approval hlate
      obtain rfl := GateStep.settle.inj h
      exact commit_moved rfl (.ignores (Or.inr ⟨hgate, hexpired.2⟩)
        (mem_of_lateApproval hlate) (.head _) rfl ⟨rfl, rfl⟩ rfl (decided_of_idle hidle))
    · obtain rfl := GateStep.settle.inj h
      exact commit_moved rfl (.rests rfl ⟨rfl, rfl⟩ waitingSignal_rests (decided_of_idle hidle))
  rw [← gateKey_eq hkind] at h
  split at h
  · rename_i hmatching
    obtain rfl := GateStep.settle.inj h
    have hdecided : [] = (inst.decidesOn signals).toList := by
      rw [decidesOn_of_nil hmatching]
      rfl
    exact commit_moved rfl
      (.rests rfl ⟨rfl, rfl⟩ waitingSignal_rests (decided_of_eq hdecided))
  rename_i hmatching
  split at h
  · rename_i hnone
    obtain rfl := GateStep.settle.inj h
    exact moved_of_written rfl rfl (fun _ hwrite => by cases hwrite)
      (.rests rfl ⟨rfl, rfl⟩ waitingSignal_rests (decided_of_idle hnone))
  · exact processSignal_moved hgate (decidesOn_of_head hmatching) h

theorem afterFailure_moved {signal : WorkflowSignal} {exc : PyExc} {nextRunAt : Nat → String}
    {error : Option String} (hkind : inst.workflowType ≠ .scheduledDigest)
    (hgate : inst.workflowState ∈ humanGateStates) :
    (afterFailure x inst signal exc nextRunAt error).Moved x inst signals := by
  rw [afterFailure]
  split
  · exact commit_moved rfl (.retries hkind hgate rfl ⟨rfl, rfl⟩ rfl rfl)
  · exact commit_moved rfl
      (.rests rfl ⟨rfl, rfl⟩ (terminal_rests (.tail _ (.head _))) (decided_of_done (by rintro ⟨⟩)))

/-- Where it goes on depends on the kind of the command, not on who approved it. -/
theorem succeeded_overlay (approverId : String) (payload : Payload) :
    succeeded x inst (payload.overlay approverId) = succeeded x inst payload := by
  cases payload <;> rfl

theorem succeeded_applied (payload : Payload) :
    (succeeded x inst payload).timeoutAppliedAt = inst.timeoutAppliedAt := by
  cases payload with
  | publishUseOfFundsReceipt p =>
      rw [succeeded]
      dsimp only
      split <;> rfl
  | _ => rfl

theorem afterSuccess_moved {signal : WorkflowSignal} {approval : ApprovalReceipt}
    {frozen : FrozenProposedCommand} {receipt : ExecutionReceipt}
    (hkind : inst.workflowType ≠ .scheduledDigest) (hgate : inst.workflowState ∈ humanGateStates)
    (hwaits : inst.context.wait.bind (·.frozenCommand) = some frozen) :
    (afterSuccess x inst signal (approvedCommand frozen approval) receipt).Moved x inst signals := by
  have hpayload : succeeded x inst (approvedCommand frozen approval).payload =
      succeeded x inst frozen.payload := succeeded_overlay approval.approverId frozen.payload
  refine commit_moved (succeeded_applied _) (.executes hkind hgate hwaits ?_ ?_ ⟨rfl, rfl⟩)
  · rw [← hpayload]
    rfl
  · rw [← hpayload]
    rfl

variable [Digest] [Json.CharTable]

theorem advanceHumanGate_moved (hkind : inst.workflowType ≠ .scheduledDigest)
    (hgate : inst.workflowState ∈ humanGateStates) :
    Gives (Outcome.Moved x inst signals) (advanceHumanGate x inst signals) := by
  rw [advanceHumanGate]
  split
  · rename_i outcome hstep
    exact .pure (gateStep_moved hkind hgate hstep)
  · rename_i signal approval frozen command hstep
    obtain ⟨hopens, rfl⟩ := gateStep_execute hstep
    refine Gives.bind fun _ => Gives.bind fun result => ?_
    split
    · exact .pure (afterFailure_moved hkind hgate)
    · split
      · exact .pure (afterFailure_moved hkind hgate)
      · exact .pure (afterSuccess_moved hkind hgate hopens.waits)

/-! ## Automatic steps of an expense -/

/-- The states an expense is looked into in. -/
def readingStates : List WorkflowState := [.normalized, .evidencePending, .classificationPending]

omit [Digest] [Json.CharTable] in
theorem automaticSteps_reading (h : inst.workflowState ∈ readingStates) :
    automaticSteps .expenseToReceipt inst.workflowState = [(.blocked, .failedTerminal),
      (.blocked, .waitingSignal), (.needsInformation, .waitingSignal)] := by
  simp only [readingStates, List.mem_cons, List.not_mem_nil, or_false] at h
  rcases h with h | h | h <;> rw [h] <;> rfl

omit [Digest] [Json.CharTable] in
theorem stepEvidence_next {items : List EvidenceMapping} {flags : EvidenceFlags}
    {policy : TenantPolicy} {current : WorkflowState} {step : StepResult}
    {sufficiency : EvidenceSufficiency}
    (h : stepEvidence items flags policy current = .ok (step, sufficiency)) :
    step.nextState = .blocked ∨ step.nextState = .needsInformation ∨
      step.nextState = .classificationPending := by
  rcases hread : sufficiencyOf items flags policy with ⟨found, sound⟩
  rw [stepEvidence, hread] at h
  obtain ⟨_, _, h⟩ := except_bind_eq_ok.mp h
  obtain ⟨rfl, _⟩ := Prod.mk.inj (Except.ok.inj h)
  dsimp only
  split
  · exact Or.inl rfl
  split
  · exact Or.inr (Or.inl rfl)
  · exact Or.inr (Or.inr rfl)

omit [Digest] [Json.CharTable] in
theorem stepClassify_next {c : Classification} {policy : TenantPolicy} {current : WorkflowState}
    {step : StepResult} (h : stepClassify c policy current = .ok step) :
    step.nextState = .needsInformation ∨ step.nextState = .reviewPending := by
  rw [stepClassify] at h
  split at h
  · obtain ⟨_, _, h⟩ := except_bind_eq_ok.mp h
    exact Or.inl (Except.ok.inj h ▸ rfl)
  · obtain ⟨_, _, h⟩ := except_bind_eq_ok.mp h
    exact Or.inr (Except.ok.inj h ▸ rfl)

omit [Digest] [Json.CharTable] in
theorem stepReview_deadline {packet : FinanceReviewPacket} {current : WorkflowState}
    {step : StepResult} (h : stepReview x packet current = .ok step) :
    step.waitDeadline = some (x.expires (24 * 7)) := by
  obtain ⟨_, _, h⟩ := except_bind_eq_ok.mp h
  exact Except.ok.inj h ▸ rfl

theorem advanceReceived_moved (hkind : inst.workflowType = .expenseToReceipt)
    (hstate : inst.workflowState = .received) :
    Gives (Outcome.Moved x inst signals) (advanceReceived x inst) := by
  refine Gives.okOrRaise_bind fun step _ => Gives.bind fun receipts => Gives.bind fun a => ?_
  dsimp only
  split
  · refine .pure (commit_moved rfl (.steps ?_))
    rw [hkind, hstate]
    exact .tail _ (.head _)
  · refine .pure (commit_moved rfl (.steps ?_))
    rw [hkind, hstate]
    exact .head _

theorem advanceExpense_moved {ledger : Ledger} {expenseId : Id}
    (hkind : inst.workflowType = .expenseToReceipt) (hstate : inst.workflowState ∈ readingStates) :
    Gives (Outcome.Moved x inst signals) (advanceExpense x inst ledger expenseId) := by
  have hsteps := automaticSteps_reading hstate
  refine Gives.okOrRaise_bind fun facts _ => Gives.okOrRaise_bind fun evidence hevidence => ?_
  have hnext : evidence.1.nextState = .blocked ∨ evidence.1.nextState = .needsInformation ∨
      evidence.1.nextState = .classificationPending := stepEvidence_next hevidence
  dsimp only
  split
  · rename_i hstop
    refine .pure (commit_moved rfl (.steps ?_))
    rw [hkind, hsteps]
    dsimp only
    rcases hnext with hnext | hnext | hnext
    · rw [hnext]
      exact .tail _ (.head _)
    · rw [hnext]
      exact .tail _ (.tail _ (.head _))
    · exact absurd hnext hstop
  refine Gives.okOrRaise_bind fun classified hclassified => Gives.bind fun receipts => ?_
  split
  · rename_i hstop
    refine .pure (commit_moved rfl (.steps ?_))
    rw [hkind, hsteps]
    dsimp only
    rcases stepClassify_next hclassified with hnext | hnext
    · rw [hnext]
      exact .tail _ (.tail _ (.head _))
    · exact absurd hnext hstop
  refine Gives.okOrRaise_bind fun review hreview => .pure (commit_moved rfl ?_)
  rw [stepReview_wait hreview]
  exact .enters (.review hkind hstate) rfl rfl (stepReview_deadline hreview) rfl

theorem advanceNormalized_moved (hkind : inst.workflowType = .expenseToReceipt)
    (hstate : inst.workflowState ∈ readingStates) :
    Gives (Outcome.Moved x inst signals) (advanceNormalized x inst) := by
  refine Gives.bind fun a => ?_
  split
  · refine .pure (commit_moved rfl (.steps ?_))
    rw [hkind, automaticSteps_reading hstate]
    exact .head _
  · exact advanceExpense_moved hkind hstate

omit [Digest] [Json.CharTable] in
theorem advanceAfterLedger_moved {o : Outcome} (hkind : inst.workflowType = .expenseToReceipt)
    (hstate : inst.workflowState = .ledgerCommitted) (h : advanceAfterLedger x inst = .ok o) :
    o.Moved x inst signals := by
  rw [advanceAfterLedger] at h
  split at h
  · obtain rfl := Except.ok.inj h
    exact commit_moved rfl
      (.rests rfl ⟨rfl, rfl⟩ (terminal_rests (.head _)) (decided_of_done (by rintro ⟨⟩)))
  · obtain ⟨payload, _, h⟩ := except_bind_eq_ok.mp h
    obtain rfl := Except.ok.inj h
    have hgate : inst.EntersGate x .publicationPending (frozenPublish x inst payload)
        (some (x.clock.addSeconds (7 * 86400)).isoformat) := .publication hkind hstate
    exact commit_moved rfl (.enters hgate rfl rfl rfl rfl)

omit [Json.CharTable] in
theorem advancePublished_moved (hkind : inst.workflowType = .expenseToReceipt)
    (hstate : inst.workflowState = .published) :
    Gives (Outcome.Moved x inst signals) (advancePublished x inst) := by
  refine Gives.bind fun a => ?_
  split
  · exact .pure (commit_moved rfl
      (.rests rfl ⟨rfl, rfl⟩ (terminal_rests (.head _)) (decided_of_done nofun)))
  split
  · exact .pure (commit_moved rfl
      (.rests rfl ⟨rfl, rfl⟩ (terminal_rests (.head _)) (decided_of_done nofun)))
  · rename_i r hreceipt
    refine Gives.okOrRaise_bind fun _ _ => Gives.bind fun _ =>
      Gives.okOrRaise_bind fun send hsend => .pure (commit_moved rfl ?_)
    rw [stepComposeSend_wait hsend]
    exact .enters (.notification hkind hstate) rfl rfl rfl rfl

/-! ## Corrections and digests -/

omit [Digest] [Json.CharTable] in
/-- A correction is frozen, or the step says why not. -/
theorem stepProposeCorrection_next {tenantId kind expenseId reason : String}
    {replacement : Option ReplacementRow} {splits : List SplitItem} {current : WorkflowState}
    {step : StepResult} (h : stepProposeCorrection x tenantId kind expenseId reason replacement splits
      current = .ok step) :
    (step.wait = none ∧ (step.nextState, step.runStatus) ∈
        automaticSteps .correction .received) ∨
      ∃ frozen, correctionCommand x tenantId kind expenseId reason replacement splits =
          .inl frozen ∧ step.wait = some (waitFor frozen) ∧ step.nextState = .reviewPending ∧
        step.runStatus = .waitingSignal ∧ step.waitDeadline = some (x.expires 168) := by
  obtain ⟨_, _, h⟩ := except_bind_eq_ok.mp h
  split at h
  · rename_i result hcommand
    obtain rfl := Except.ok.inj h
    refine Or.inl ⟨correctionCommand_wait hcommand, ?_⟩
    unfold correctionCommand at hcommand
    split at hcommand
    · exact nomatch hcommand
    split at hcommand
    · split at hcommand
      · exact nomatch hcommand
      · obtain rfl := Sum.inr.inj hcommand
        exact .head _
    · obtain rfl := Sum.inr.inj hcommand
      exact .tail _ (.head _)
  · rename_i frozen hcommand
    obtain rfl := Except.ok.inj h
    exact Or.inr ⟨frozen, hcommand, rfl, rfl, rfl, rfl⟩

omit [Digest] [Json.CharTable] in
theorem proposeCorrection_moved {ledger : Ledger} {o : Outcome}
    (hkind : inst.workflowType = .correction) (hstate : inst.workflowState = .received)
    (h : proposeCorrection x inst ledger = .ok o) : o.Moved x inst signals := by
  have hsteps : automaticSteps inst.workflowType inst.workflowState =
      [(.needsInformation, .waitingSignal), (.blocked, .failedTerminal)] := by
    rw [hkind, hstate]
    rfl
  dsimp only [proposeCorrection] at h
  split at h
  · obtain rfl := Except.ok.inj h
    exact commit_moved rfl (.steps (hsteps ▸ .head _))
  split at h
  · obtain rfl := Except.ok.inj h
    exact commit_moved rfl (.steps (hsteps ▸ .head _))
  split at h
  · obtain rfl := Except.ok.inj h
    exact commit_moved rfl (.steps (hsteps ▸ .tail _ (.head _)))
  obtain ⟨step, hstep, h⟩ := except_bind_eq_ok.mp h
  obtain rfl := Except.ok.inj h
  rcases stepProposeCorrection_next hstep with ⟨hwait, hnext⟩ | ⟨frozen, hcommand, hwait, hnext, hstatus, hdeadline⟩
  · rw [hwait]
    refine commit_moved rfl (.steps ?_)
    rw [hkind, hstate]
    exact hnext
  · rw [hwait, hnext, hstatus, hdeadline]
    have hgate : inst.EntersGate x .reviewPending frozen (some (x.expires 168)) :=
      .correction hkind hstate hcommand
    exact commit_moved rfl (.enters hgate rfl rfl rfl rfl)

theorem advanceCorrection_moved (hkind : inst.workflowType = .correction) :
    Gives (Outcome.Moved x inst signals) (advanceCorrection x inst signals) := by
  have hlive : inst.workflowType ≠ .scheduledDigest := by
    rw [hkind]
    exact nofun
  refine Gives.bind fun a => ?_
  split
  · rename_i hover
    exact .pure (nothing_moved hover)
  rename_i hrunning
  split
  · rename_i hstate
    exact advanceHumanGate_moved hlive (hstate ▸ .head _)
  · rename_i hstate
    exact advanceHumanGate_moved hlive (hstate ▸ .tail _ (.head _))
  · rename_i hstate
    exact advanceHumanGate_moved hlive (hstate ▸ .tail _ (.tail _ (.head _)))
  · rename_i hstate
    exact .okOrRaise fun o h => proposeCorrection_moved hkind hstate h
  · rename_i hstate
    refine .okOrRaise_bind fun step hstep => .pure (commit_moved rfl (.steps ?_))
    obtain ⟨_, _, hstep⟩ := except_bind_eq_ok.mp hstep
    obtain rfl := Except.ok.inj hstep
    rw [hkind, hstate]
    exact .head _
  · rename_i hstate
    have hdecided : inst.Decided signals [] inst.repark :=
      fun hgate _ _ => absurd (hstate ▸ hgate) (by decide)
    exact .pure (commit_moved rfl (.rests rfl ⟨rfl, rfl⟩ waitingSignal_rests hdecided))
  · rename_i hreview hpublication hnotification hreceived hcommitted hneeds
    refine .pure (commit_moved rfl (.spins ?_ hrunning rfl ⟨rfl, rfl⟩ rfl))
    rw [hkind]
    simp only [handledStates, List.mem_cons, List.not_mem_nil, or_false, not_or]
    exact ⟨hreceived, hreview, hpublication, hnotification, hcommitted, hneeds⟩

omit [Digest] [Json.CharTable] in
theorem assembleDigest_moved {o : Outcome} (hkind : inst.workflowType = .scheduledDigest)
    (hstate : inst.workflowState = .received) (h : assembleDigest x inst = .ok o) :
    o.Moved x inst signals := by
  have hsteps : automaticSteps inst.workflowType inst.workflowState =
      [(.blocked, .failedTerminal), (.published, .pending)] := by
    rw [hkind, hstate]
    rfl
  rw [assembleDigest] at h
  split at h
  · split at h
    · obtain rfl := Except.ok.inj h
      exact commit_moved rfl (.steps (hsteps ▸ .head _))
    · cases h
  · rename_i updatedAt _
    split at h
    · obtain rfl := Except.ok.inj h
      have hgate : ∃ frozen, (digestWait x inst updatedAt).frozenCommand = some frozen ∧
          inst.EntersGate x .publicationPending frozen (some (x.expires 72)) :=
        ⟨_, rfl, .digest hkind hstate rfl⟩
      obtain ⟨frozen, hfrozen, hgate⟩ := hgate
      exact commit_moved rfl (.enters hgate rfl hfrozen rfl rfl)
    · obtain rfl := Except.ok.inj h
      exact commit_moved rfl (.steps (hsteps ▸ .tail _ (.head _)))

omit [Digest] [Json.CharTable] in
theorem advanceDigestApproval_moved (hkind : inst.workflowType = .scheduledDigest)
    (hstate : inst.workflowState = .publicationPending) :
    (advanceDigestApproval x inst signals).Moved x inst signals := by
  have hgate : inst.workflowState ∈ humanGateStates := hstate ▸ .tail _ (.head _)
  have hkey : inst.context.wait.bind (·.commandIdempotencyKey) = inst.gateKey := by
    rw [gateKey, hkind]
  rw [advanceDigestApproval, hkey]
  split
  · rename_i hmatching
    have hdecided : [] = (inst.decidesOn signals).toList := by
      rw [decidesOn_of_nil hmatching]
      rfl
    exact commit_moved rfl
      (.rests rfl ⟨rfl, rfl⟩ waitingSignal_rests (decided_of_eq hdecided))
  rename_i signal approval rest hmatching
  have hfirst : (signal, approval) ∈ matching inst.gateKey signals :=
    hmatching ▸ List.mem_cons_self
  have htaken : signal ∈ signals := (mem_matching hfirst).1
  split
  · have hdecided : [signal.signalId] = (inst.decidesOn signals).toList := by
      rw [decidesOn_of_head hmatching]
      rfl
    exact commit_moved rfl (.ignores (Or.inl ⟨hkind, hstate⟩) htaken (.head _) rfl ⟨rfl, rfl⟩ rfl
      (decided_of_eq hdecided))
  split
  · exact commit_moved rfl (.declines hgate (.head _))
  · exact commit_moved rfl (.declines hgate (.tail _ (.head _)))
  · exact commit_moved rfl (.declines hgate (.tail _ (.head _)))
  · exact commit_moved rfl (.acknowledges hkind hstate rfl rfl ⟨rfl, rfl⟩)

omit [Digest] [Json.CharTable] in
theorem advanceDigest_moved {o : Outcome} (hkind : inst.workflowType = .scheduledDigest)
    (h : advanceDigest x inst signals = .ok o) : o.Moved x inst signals := by
  rw [advanceDigest] at h
  split at h
  · rename_i hover
    obtain rfl := Except.ok.inj h
    exact nothing_moved hover
  rename_i hrunning
  split at h
  · rename_i hstate
    obtain rfl := Except.ok.inj h
    exact advanceDigestApproval_moved hkind hstate
  · rename_i hstate
    exact assembleDigest_moved hkind hstate h
  · rename_i hstate
    obtain ⟨_, _, h⟩ := except_bind_eq_ok.mp h
    obtain rfl := Except.ok.inj h
    refine commit_moved rfl (.steps ?_)
    rw [hkind, hstate]
    exact .head _
  · rename_i hpublication hreceived hpublished
    obtain rfl := Except.ok.inj h
    refine commit_moved rfl (.spins ?_ hrunning rfl ⟨rfl, rfl⟩ rfl)
    rw [hkind]
    simp only [handledStates, List.mem_cons, List.not_mem_nil, or_false, not_or]
    exact ⟨hreceived, hpublication, hpublished⟩

/-! ## Every advance -/

omit [Digest] [Json.CharTable] in
/-- An expense in a state none of its steps is for. -/
theorem idle_moved (hidle : inst.workflowState ∉ handledStates inst.workflowType) :
    Gives (Outcome.Moved x inst signals) (if inst.runStatus ∈ terminalRunStatuses then
        pure { write := .nothing }
      else pure { write := .update (inst.pendingAt x.clockIso) } : AdvanceM Outcome) := by
  split
  · rename_i hover
    exact .pure (nothing_moved hover)
  · rename_i hrunning
    have hpending : ∀ new, Write.update (inst.pendingAt x.clockIso) = .update new →
        new.runStatus = .pending := fun new hwrite => Write.update.inj hwrite ▸ rfl
    exact .pure (moved_of_written rfl rfl hpending (.spins hidle hrunning rfl ⟨rfl, rfl⟩ rfl))

theorem advanceOnce_moved : Gives (Outcome.Moved x inst signals) (advanceOnce x inst signals) := by
  rw [advanceOnce]
  split
  · rename_i hkind
    exact advanceCorrection_moved hkind
  · rename_i hkind
    exact .okOrRaise fun o h => advanceDigest_moved hkind h
  rename_i hkind
  have hlive : inst.workflowType ≠ .scheduledDigest := by
    rw [hkind]
    rintro ⟨⟩
  have hidle : ∀ state, inst.workflowState = state → state ∉ handledStates .expenseToReceipt →
      inst.workflowState ∉ handledStates inst.workflowType := by
    rintro state rfl h
    rw [hkind]
    exact h
  split
  · rename_i hstate
    exact advanceHumanGate_moved hlive (hstate ▸ .head _)
  · rename_i hstate
    exact advanceHumanGate_moved hlive (hstate ▸ .tail _ (.head _))
  · rename_i hstate
    exact advanceHumanGate_moved hlive (hstate ▸ .tail _ (.tail _ (.head _)))
  · rename_i hstate
    exact advanceReceived_moved hkind hstate
  · rename_i hstate
    exact advanceNormalized_moved hkind (hstate ▸ .head _)
  · rename_i hstate
    exact advanceNormalized_moved hkind (hstate ▸ .tail _ (.tail _ (.head _)))
  · rename_i hstate
    exact advanceNormalized_moved hkind (hstate ▸ .tail _ (.head _))
  · rename_i hstate
    exact .okOrRaise fun o h => advanceAfterLedger_moved hkind hstate h
  · rename_i hstate
    exact advancePublished_moved hkind hstate
  all_goals
    rename_i hstate
    exact idle_moved (hidle _ hstate (by decide))

theorem advanceOnce_handsBack (h : inst.HandedBack) :
    Gives (fun o => o.written = none) (advanceOnce x inst signals) := by
  have hnothing : Gives (fun o => o.written = none)
      (pure { write := .nothing } : AdvanceM Outcome) := .pure rfl
  rw [advanceOnce]
  split
  · rw [advanceCorrection]
    refine Gives.bind fun a => ?_
    rw [if_pos h.1]
    exact hnothing
  · refine .okOrRaise fun o ho => ?_
    rw [advanceDigest, if_pos h.1] at ho
    exact Except.ok.inj ho ▸ rfl
  rename_i hkind
  have hidle : ∀ state, inst.workflowState = state → state ∉ handledStates .expenseToReceipt := by
    rintro state rfl
    exact h.2 hkind
  cases hstate : inst.workflowState
  all_goals first
    | exact absurd (by decide) (hidle _ hstate)
    | dsimp only
      rw [if_pos h.1]
      exact hnothing

end Branches

end ImpactRelay
