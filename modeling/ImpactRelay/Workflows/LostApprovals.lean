/-
# `Workflows.LostApprovals` — an approval nobody is going to look at

An approval that is enqueued wakes its workflow, and an advance that finds nothing to
decide on puts it back to rest.  The two do not know of each other: what an advance
commits is made from the row and the signals it has read, and it is written over the
wake-up of an approval that has come in between.  The same happens to what an advance
passes over, since a gate decides on one approval at a time, and to what was in the
queue before the gate was entered.

`no_approval_lost_iff` says that there is no other way.  A run leaves no approval behind
exactly when every advance it writes, where the workflow is left waiting at a gate, has
decided on each approval the gate waits for (`Answers`).
-/
import ImpactRelay.Workflows.Deadlines
import ImpactRelay.Workflows.Queues

namespace ImpactRelay

open Raise WorkflowStore LawfulWorkflowStore WorkflowInstance WorkflowRuntime

namespace WorkflowInstance

/-! ## What a gate waits for -/

/-- Nobody has it, and only a signal gets it going. -/
structure WaitsAtGate (inst : WorkflowInstance) : Prop where
  unleased : inst.leaseOwner = none
  waiting : inst.runStatus = .waitingSignal
  gate : inst.workflowState ∈ humanGateStates

instance (inst : WorkflowInstance) : Decidable inst.WaitsAtGate :=
  decidable_of_iff (inst.leaseOwner = none ∧ inst.runStatus = .waitingSignal ∧
      inst.workflowState ∈ humanGateStates)
    ⟨fun ⟨h₁, h₂, h₃⟩ => ⟨h₁, h₂, h₃⟩, fun ⟨h₁, h₂, h₃⟩ => ⟨h₁, h₂, h₃⟩⟩

/-- A human's APPROVE, of the tenant, of the command that is frozen at the gate. -/
def Awaits (inst : WorkflowInstance) (signal : WorkflowSignal) : Prop :=
  ∃ approval ∈ signal.approvalReceipt, ∃ frozen ∈ inst.context.wait.bind (·.frozenCommand),
    approval.decision = .approve ∧ isAgentId approval.approverId = false ∧
      approval.tenantId = frozen.tenantId ∧
      approval.commandIdempotencyKey = frozen.idempotencyKey

instance (inst : WorkflowInstance) (signal : WorkflowSignal) : Decidable (inst.Awaits signal) :=
  inferInstanceAs (Decidable (∃ approval ∈ signal.approvalReceipt, ∃ frozen ∈ _, _))

variable {x : Surroundings} {inst new : WorkflowInstance} {signals : List WorkflowSignal}
  {consumed : List Id}

theorem WaitsAtGate.congr (h : inst.WaitsAtGate) (hcursor : inst.SameCursor new) :
    new.WaitsAtGate :=
  ⟨hcursor.leaseOwner.symm.trans h.unleased, hcursor.runStatus.symm.trans h.waiting,
    hcursor.workflowState ▸ h.gate⟩

theorem Awaits.congr {signal : WorkflowSignal} (h : inst.Awaits signal)
    (hcontext : inst.context = new.context) : new.Awaits signal := by
  rw [Awaits, ← hcontext]
  exact h

theorem Awaits.frozen {signal : WorkflowSignal} (h : inst.Awaits signal) :
    inst.context.wait.bind (·.frozenCommand) ≠ none := by
  obtain ⟨_, _, frozen, hfrozen, _⟩ := h
  rw [show inst.context.wait.bind (·.frozenCommand) = some frozen from hfrozen]
  exact nofun

/-- Of what it leaves waiting at a gate, an advance consumes only what the gate has
decided on; a gate that has just been entered has decided on nothing. -/
theorem Moved.consumed_iff (h : inst.Moved x signals consumed new)
    (hwaiting : new.runStatus = .waitingSignal) (hgate : new.workflowState ∈ humanGateStates)
    (hfrozen : new.context.wait.bind (·.frozenCommand) ≠ none) (id : Id) :
    id ∈ consumed ↔ inst.workflowState ∈ humanGateStates ∧ inst.decidesOn signals = some id := by
  have hstays : new.workflowState = inst.workflowState → inst.SameWait new →
      inst.Decided signals consumed new →
      (id ∈ consumed ↔ inst.workflowState ∈ humanGateStates ∧ inst.decidesOn signals = some id) := by
    intro hstate hwait hdecided
    have hsame : inst.workflowState ∈ humanGateStates := hstate ▸ hgate
    rw [hwait.wait] at hfrozen
    rw [hdecided hsame hwaiting hfrozen, Option.mem_toList]
    exact ⟨fun hid => ⟨hsame, hid⟩, fun hid => hid.2⟩
  cases h with
  | rests state wait status decided => exact hstays state wait decided
  | retries kind gate state wait status => exact nomatch status.symm.trans hwaiting
  | spins idle live state wait status => exact nomatch status.symm.trans hwaiting
  | ignores gate taken marked state wait status decided => exact hstays state wait decided
  | declines gate state =>
      simp only [List.mem_cons, Prod.mk.injEq, List.not_mem_nil, or_false] at state
      rcases state with ⟨hstate, _⟩ | ⟨hstate, _⟩
      · exact absurd (hstate ▸ hgate) (by decide)
      · exact absurd (hstate ▸ hgate) needsInformation_not_gate
  | executes kind gate waits state status wait =>
      rw [wait.wait] at hfrozen
      exact absurd rfl hfrozen
  | acknowledges kind gate state status wait => exact nomatch status.symm.trans hwaiting
  | steps step => exact absurd hgate (automatic_legal step).2
  | enters gate status waits until_ silent =>
      subst silent
      refine iff_of_false List.not_mem_nil ?_
      rintro ⟨hinside, -⟩
      exact (entersGate_gate gate).2 hinside

end WorkflowInstance

namespace System

variable {σ : Type} [WorkflowStore σ]

/-! ## Losing an approval -/

/-- The workflow rests at a gate, and the approval it rests for is in its queue. -/
def LosesApproval (S : System σ) (w : Id) : Prop :=
  ∃ inst ∈ row S.store w, inst.WaitsAtGate ∧
    ∃ signal ∈ signalsOf S.store w, signal.consumed = false ∧ inst.Awaits signal

instance (S : System σ) (w : Id) : Decidable (S.LosesApproval w) :=
  inferInstanceAs (Decidable (∃ inst ∈ row S.store w, _))

def NoApprovalLost (S : System σ) : Prop := ∀ w, ¬ S.LosesApproval w

/-- A worker hands over what its advance has made of the workflow, and the store takes it. -/
inductive CommitsAdvance (S : System σ) : Action → Flight → List WorkflowSignal →
    AdvanceCommitBundle → σ → Prop
  | write {worker utcNow : String} {w : Id} {f : Flight} {signals : List WorkflowSignal}
      {outcome : Outcome} {bundle : AdvanceCommitBundle} {s : σ}
      (flight : S.flights (worker, w) = some f) (phase : f.phase = .ran signals outcome)
      (unmarked : outcome.mark = none) (hands : outcome.write = .commit bundle)
      (taken : commitAdvance utcNow bundle S.store = .ok s) :
      CommitsAdvance S (.write worker w utcNow) f signals bundle s

/-- Where an advance is written that leaves its workflow waiting at a gate, it has decided
on every approval for that gate: each one that is in the queue by now is the first it took
from there under the key of the gate. -/
def Answers (S : System σ) (action : Action) : Prop :=
  ∀ f signals bundle s, S.CommitsAdvance action f signals bundle s → bundle.instance_.WaitsAtGate →
    ∀ signal ∈ signalsOf S.store bundle.workflowId, signal.consumed = false →
      bundle.instance_.Awaits signal →
      f.inst.workflowState ∈ humanGateStates ∧ f.inst.decidesOn signals = some signal.signalId

variable {S : System σ} {action : Action} {f : Flight} {signals : List WorkflowSignal}
  {bundle : AdvanceCommitBundle} {s : σ} {w : Id}

/-! ## A step -/

section Step

variable [Digest] [Json.CharTable]

theorem CommitsAdvance.store (h : S.CommitsAdvance action f signals bundle s) :
    (S.step action).store = s := by
  cases h with
  | write flight phase unmarked hands taken =>
      rw [System.step, System.onFlight, flight]
      dsimp only [System.writeFlight]
      rw [phase]
      dsimp only [System.writeOutcome]
      rw [unmarked, hands]
      dsimp only
      rw [taken]
      rfl

omit [Digest] [Json.CharTable] in
theorem CommitsAdvance.moved (h : S.CommitsAdvance action f signals bundle s) (hS : S.Recorded) :
    ∃ x, f.inst.Moved x signals (bundle.consumeSignals.map (·.1)) bundle.instance_ := by
  cases h with
  | write flight phase unmarked hands taken =>
      rename_i outcome
      have hrecorded := hS _ f flight
      rw [Flight.Recorded, phase] at hrecorded
      obtain ⟨x, hmoved, -⟩ := hrecorded
      have hwritten : outcome.written = some bundle.instance_ := by rw [Outcome.written, hands]
      have hconsumed : outcome.consumed = bundle.consumeSignals.map (·.1) := by
        rw [Outcome.consumed, hands]
      exact ⟨x, hconsumed ▸ (hmoved.written _ hwritten).1⟩

variable [LawfulWorkflowStore σ]

omit [Digest] [Json.CharTable] [LawfulWorkflowStore σ] in
theorem CommitsAdvance.taken (h : S.CommitsAdvance action f signals bundle s) :
    ∃ utcNow, commitAdvance utcNow bundle S.store = .ok s := by
  cases h with
  | write flight phase unmarked hands taken => exact ⟨_, taken⟩

/-- An approval that a step loses was lost before, or an advance has been written. -/
theorem LosesApproval.before (hS : S.Begun) (h : (S.step action).LosesApproval w) :
    S.LosesApproval w ∨ ∃ f signals bundle s, S.CommitsAdvance action f signals bundle s ∧
      bundle.workflowId = w := by
  obtain ⟨new, hnew, hwaits, signal, hsignal, hfresh, hawaits⟩ := h
  have hqueue : signal ∈ signalsOf S.store w := by
    cases queue_step S action w with
    | marks marked =>
        obtain ⟨y, hy, hmarked⟩ := marked.exists_of_mem hsignal
        rcases hmarked with rfl | ⟨result, rfl⟩
        · exact hy
        · cases hfresh
    | enqueues stored own fresh queue woken =>
        obtain ⟨woke, hwoke, hpending⟩ := woken
        obtain rfl := Option.some.inj (hwoke.symm.trans hnew)
        cases hpending.symm.trans hwaits.waiting
  have hlost : ∀ inst, row S.store w = some inst → inst.SameCursor new → S.LosesApproval w := by
    intro inst hinst hcursor
    have hback : new.SameCursor inst := hcursor.symm
    exact ⟨inst, hinst, hwaits.congr hback, signal, hqueue, hfresh, hawaits.congr hback.context⟩
  cases hold : row S.store w with
  | none =>
      obtain ⟨x, request, inst, hstarted, -, hplace⟩ :=
        (row_step hS.sound action).started w new hnew hold
      exact absurd (hplace.state ▸ hwaits.gate) (started_not_gate hstarted)
  | some old =>
  obtain ⟨new', hnew', -, hmove⟩ := (row_step hS.sound action).kept w old hold
  obtain rfl := Option.some.inj (hnew'.symm.trans hnew)
  cases hmove with
  | keeps cursor => exact Or.inl (hlost old hold cursor)
  | wakes status place => cases status.symm.trans hwaits.waiting
  | leases taken =>
      subst taken
      cases hwaits.waiting
  | swept sweeps swept =>
      obtain ⟨_, _, nowIso, descriptor, seq, rfl⟩ := swept
      exact absurd hwaits.gate needsInformation_not_gate
  | changed writes flight phase read same cursor =>
      rename_i worker utcNow v f change
      have hrecorded := hS.recorded _ f flight
      rw [Flight.Recorded, phase] at hrecorded
      exact absurd (cursor.runStatus.trans hwaits.waiting) hrecorded.2
  | advanced writes flight phase hands read same cursor =>
      subst writes
      rename_i worker utcNow v f signals outcome written
      have hid : written.workflowId = w :=
        same.workflowId.trans (read.workflowId.trans (id_of_row hold))
      have hkept : row (S.step (.write worker v utcNow)).store = row S.store →
          S.LosesApproval w := by
        intro hrows
        rw [hrows, hold] at hnew
        obtain rfl := Option.some.inj hnew
        exact hlost old hold (.refl old)
      cases hmark : outcome.mark with
      | some signalId =>
          refine Or.inl (hkept ?_)
          rw [System.step, System.onFlight, flight]
          dsimp only [System.writeFlight]
          rw [phase]
          dsimp only [System.writeOutcome]
          rw [hmark]
          exact (mark_ok (σ := σ) _ _ _ _).1
      | none =>
          cases hwrite : outcome.write with
          | commit bundle =>
              rw [Outcome.written, hwrite] at hands
              obtain rfl := Option.some.inj hands
              cases hcall : commitAdvance utcNow bundle S.store with
              | ok s =>
                  have hcommits : S.CommitsAdvance (.write worker v utcNow) f signals bundle s :=
                    .write flight phase hmark hwrite hcall
                  exact Or.inr ⟨f, signals, bundle, s, hcommits, hid⟩
              | error exc =>
                  refine Or.inl (hkept ?_)
                  rw [System.step, System.onFlight, flight]
                  dsimp only [System.writeFlight]
                  rw [phase]
                  dsimp only [System.writeOutcome]
                  rw [hmark, hwrite]
                  dsimp only
                  rw [hcall]
                  rfl
          | update inst =>
              have hrecorded := hS.recorded _ f flight
              rw [Flight.Recorded, phase] at hrecorded
              obtain ⟨x, hmoved, -⟩ := hrecorded
              rw [Outcome.written, hwrite] at hands
              obtain rfl := Option.some.inj hands
              have hpending : inst.runStatus = .pending := hmoved.updates inst hwrite
              cases hpending.symm.trans (cursor.runStatus.trans hwaits.waiting)
          | nothing =>
              rw [Outcome.written, hwrite] at hands
              cases hands

/-- What is left in the queue of an advance that is written. -/
theorem CommitsAdvance.loses_iff (h : S.CommitsAdvance action f signals bundle s) (hS : S.Begun)
    (hqueued : S.Queued) : (S.step action).LosesApproval bundle.workflowId ↔
      bundle.instance_.WaitsAtGate ∧ ∃ signal ∈ signalsOf S.store bundle.workflowId,
        signal.consumed = false ∧ bundle.instance_.Awaits signal ∧
          ¬ (f.inst.workflowState ∈ humanGateStates ∧
            f.inst.decidesOn signals = some signal.signalId) := by
  obtain ⟨x, hmoved⟩ := h.moved hS.recorded
  obtain ⟨utcNow, hcall⟩ := h.taken
  obtain ⟨⟨old, new, hold, htenant, hnew, hcursor, -⟩, -, hmarked, hkept, -⟩ := commit_ok hcall
  have hown : ∀ signal ∈ signalsOf S.store bundle.workflowId, signal.tenantId = bundle.tenantId := by
    intro signal hsignal
    obtain ⟨inst, hinst, hown⟩ := hqueued _ signal hsignal
    obtain rfl := Option.some.inj (hold.symm.trans hinst)
    exact hown.trans htenant
  have hconsumed : bundle.instance_.WaitsAtGate → ∀ signal, bundle.instance_.Awaits signal →
      (signal.signalId ∈ bundle.consumeSignals.map (·.1) ↔
        f.inst.workflowState ∈ humanGateStates ∧
          f.inst.decidesOn signals = some signal.signalId) :=
    fun hwaits signal hawaits =>
      hmoved.consumed_iff hwaits.waiting hwaits.gate hawaits.frozen signal.signalId
  rw [LosesApproval, h.store]
  constructor
  · rintro ⟨inst, hinst, hwaits, signal, hsignal, hfresh, hawaits⟩
    obtain rfl := Option.some.inj (hnew.symm.trans hinst)
    have hback : new.SameCursor bundle.instance_ := hcursor.symm
    have hawaits' : bundle.instance_.Awaits signal := hawaits.congr hback.context
    have hmarks : Marks bundle.tenantId (bundle.consumeSignals.map (·.1))
        (signalsOf S.store bundle.workflowId) (signalsOf s bundle.workflowId) :=
      .of_commit (hmarked _) (commit_marks hcall)
    obtain ⟨y, hy, ⟨hmarkedFrom, hlisted⟩⟩ := hmarks.exists_of_mem hsignal
    rcases hmarkedFrom with rfl | ⟨result, rfl⟩
    · refine ⟨hwaits.congr hback, signal, hy, hfresh, hawaits', fun hdecided => ?_⟩
      have hdone : signal.consumed = true :=
        hlisted (hown signal hy) ((hconsumed (hwaits.congr hback) signal hawaits').mpr hdecided)
      exact nomatch hfresh.symm.trans hdone
    · exact nomatch hfresh
  · rintro ⟨hwaits, signal, hsignal, hfresh, hawaits, hpassed⟩
    have hunlisted : signal.signalId ∉ bundle.consumeSignals.map (·.1) :=
      fun hlisted => hpassed ((hconsumed hwaits signal hawaits).mp hlisted)
    have hstays : signal ∈ signalsOf s bundle.workflowId := by
      have hkept' := hkept signal hsignal (hown signal hsignal)
      rwa [consumeResultOf_of_not_mem hunlisted] at hkept'
    exact ⟨new, hnew, hwaits.congr hcursor, signal, hstays, hfresh, hawaits.congr hcursor.context⟩

/-- A step from a state where no approval is lost loses none exactly when it answers. -/
theorem noApprovalLost_step (hS : S.Begun) (hqueued : S.Queued) (h : S.NoApprovalLost) :
    (S.step action).NoApprovalLost ↔ S.Answers action := by
  constructor
  · intro hnext f signals bundle s hcommits hwaits signal hsignal hfresh hawaits
    by_contra hpassed
    exact hnext bundle.workflowId ((hcommits.loses_iff hS hqueued).mpr
      ⟨hwaits, signal, hsignal, hfresh, hawaits, hpassed⟩)
  · intro hanswers w hlost
    rcases hlost.before hS with hbefore | ⟨f, signals, bundle, s, hcommits, rfl⟩
    · exact h w hbefore
    · obtain ⟨hwaits, signal, hsignal, hfresh, hawaits, hpassed⟩ :=
        (hcommits.loses_iff hS hqueued).mp hlost
      exact hpassed (hanswers f signals bundle s hcommits hwaits signal hsignal hfresh hawaits)

/-! ## Runs -/

/-- A run loses no approval exactly when every advance that is written answers. -/
def AnswersForAll (S : System σ) : Prop :=
  ∀ actions : List Action, (∀ past, past <+: actions → (run System.step S past).NoApprovalLost) ↔
    Along System.step Answers S actions

theorem Fresh.answersForAll (hS : S.Fresh) : S.AnswersForAll := by
  intro actions
  have hempty : S.NoApprovalLost := by
    rintro w ⟨inst, hinst, -⟩
    rw [hS.rows w] at hinst
    exact nomatch hinst
  have hany : Along System.step (fun _ _ => True) S actions := along_of_forall fun _ _ => trivial
  exact forall_run_iff (I := fun T => T.Begun ∧ T.Queued) (P := NoApprovalLost)
    (fun T action hT _ => ⟨hT.1.step action, hT.2.step hT.1.sound action⟩)
    (fun T action hT _ hlost => noApprovalLost_step hT.1 hT.2 hlost)
    ⟨hS.begun, hS.queued⟩ hempty hany

omit [LawfulWorkflowStore σ] in
/-- On either store, in whatever order things happen. -/
theorem no_approval_lost_iff :
    (∀ S : System InMemoryWorkflowStore, S.Fresh → S.AnswersForAll) ∧
      ∀ S : System SqlWorkflowStore, S.Fresh → S.AnswersForAll :=
  ⟨fun _ hS => hS.answersForAll, fun _ hS => hS.answersForAll⟩

end Step

end System

section Sample

attribute [local instance] Digest.plain Json.CharTable.all

namespace System

def Sample.mistaken : ApprovalReceipt :=
  { Sample.approval with approvalId := "apr_0", commandIdempotencyKey := "reverse:expense:error" }

/-- A reversal waits at its gate.  An approval of another command wakes it, and its own one
comes in when the worker has taken the signals. -/
def Sample.overtaken : List Action :=
  .start (Sample.at 20 0)
      (.correction { tenantId := "org", expenseId := "expense", reason := "duplicate" }) ::
    Sample.advance 21 0 ++
    [.approve (Sample.at 22 60) "org" "wf_corr_20_0" Sample.mistaken,
      .claim "w" 1 (noonNextDay.addSeconds 120) 60,
      .get "w" "wf_corr_20_0", .take "w" "wf_corr_20_0",
      .approve (Sample.at 23 121) "org" "wf_corr_20_0" Sample.approval,
      .run "w" "wf_corr_20_0" (Sample.at 24 122),
      .write "w" "wf_corr_20_0" "2026-01-02T12:02:02+00:00"]

end System

open ImpactRelay.System in
theorem overtaken_answers_iff :
    (∀ past, past <+: Sample.overtaken → (run System.step Sample.system past).NoApprovalLost) ↔
      Along System.step Answers Sample.system Sample.overtaken :=
  no_approval_lost_iff.2 Sample.system Sample.system_fresh Sample.overtaken

open ImpactRelay.System in
/-- The worker's commit overwrites the wake-up, and the approval stays in the queue. -/
theorem overtaken_loses_approval : ¬ ∀ S : System SqlWorkflowStore, S.Fresh →
    ∀ actions, (run System.step S actions).NoApprovalLost := by
  intro h
  refine h Sample.system Sample.system_fresh Sample.overtaken "wf_corr_20_0" ?_
  decide +kernel

end Sample

end ImpactRelay
