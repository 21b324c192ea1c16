/-
# `Workflows.LegalMoves` — the transition tables, kept

The runtime writes the business state in some twenty places and asks the tables in few
of them.  Still every state an advance or a sweep commits is one the table of the
workflow's type leads to from the state that is stored, as long as an advance acts on
the instance that is stored.  An expense goes through evidence and classification in
one advance, so there it may be a path of the table.

What a gate leads to depends on the command frozen there.  `FitsGate` is the invariant that
makes the two agree: each type has its gates, and its commands have theirs.
-/
import ImpactRelay.Workflows.Rows

namespace ImpactRelay

open WorkflowStore LawfulWorkflowStore WorkflowInstance WorkflowRuntime

/-! ## Legal moves -/

/-- The table of a type. -/
def transitionsOf : WorkflowType → WorkflowState → List WorkflowState
  | .expenseToReceipt => expenseToReceiptTransitions
  | .correction => correctionTransitions
  | .scheduledDigest => digestTransitions

/-- The states an advance of an expense may go through. -/
def passedStates : List WorkflowState := [.evidencePending, .classificationPending]

/-- A path of the expense table through nothing but these. -/
inductive Passes : WorkflowState → WorkflowState → Prop
  | edge {a b : WorkflowState} (h : b ∈ expenseToReceiptTransitions a) : Passes a b
  | via {a b c : WorkflowState} (h : b ∈ expenseToReceiptTransitions a) (passed : b ∈ passedStates)
      (rest : Passes b c) : Passes a c

inductive LegalMove : WorkflowType → WorkflowState → WorkflowState → Prop
  | edge {type : WorkflowType} {a b : WorkflowState} (h : b ∈ transitionsOf type a) :
      LegalMove type a b
  | path {a b : WorkflowState} (h : Passes a b) : LegalMove .expenseToReceipt a b

/-! ## Gates and their commands -/

/-- The gate a command is frozen at. -/
def gateOf : WorkflowType → Payload → Option WorkflowState
  | .expenseToReceipt, .approveExpense _ => some .reviewPending
  | .expenseToReceipt, .publishUseOfFundsReceipt _ => some .publicationPending
  | .expenseToReceipt, .sendNotification _ => some .notificationPending
  | .correction, .reverseExpense _ | .correction, .supersedeExpense _ => some .reviewPending
  | .scheduledDigest, .unsupported _ => some .publicationPending
  | _, _ => none

namespace WorkflowInstance

/-- At a gate the workflow waits with a command that is frozen at this gate. -/
def FitsGate (inst : WorkflowInstance) : Prop :=
  inst.workflowState ∈ humanGateStates → ∃ frozen,
    inst.context.wait.bind (·.frozenCommand) = some frozen ∧
    gateOf inst.workflowType frozen.payload = some inst.workflowState

variable {x : Surroundings} {inst old new : WorkflowInstance} {signals : List WorkflowSignal}
  {consumed : List Id} {frozen : FrozenProposedCommand} {deadline : Option String}
  {state : WorkflowState}

theorem fits_of_state (h : inst.workflowState ∉ humanGateStates) : inst.FitsGate :=
  fun hgate => absurd hgate h

theorem FitsGate.congr (h : inst.FitsGate) (htype : new.workflowType = inst.workflowType)
    (hstate : new.workflowState = inst.workflowState)
    (hwait : new.context.wait = inst.context.wait) : new.FitsGate := by
  rw [FitsGate, htype, hstate, hwait]
  exact h

theorem correction_gate {tenantId kind expenseId reason : String}
    {replacement : Option ReplacementRow} {splits : List SplitItem}
    (h : correctionCommand x tenantId kind expenseId reason replacement splits = .inl frozen) :
    gateOf .correction frozen.payload = some .reviewPending := by
  unfold correctionCommand at h
  split at h
  · exact Sum.inl.inj h ▸ rfl
  split at h
  · split at h
    · exact Sum.inl.inj h ▸ rfl
    · exact nomatch h
  · exact nomatch h

/-- The command an instance enters a gate with is one of this gate. -/
theorem EntersGate.gate (h : inst.EntersGate x state frozen deadline) :
    gateOf inst.workflowType frozen.payload = some state := by
  cases h with
  | review kind _ => exact kind ▸ rfl
  | publication kind _ => exact kind ▸ rfl
  | notification kind _ => exact kind ▸ rfl
  | correction kind _ command => exact kind ▸ correction_gate command
  | digest kind _ command => exact kind ▸ Option.some.inj command ▸ rfl

/-- Where a command leads to once it is executed, from the gate it was frozen at. -/
theorem succeeded_legal {type : WorkflowType} {payload : Payload} (hlive : type ≠ .scheduledDigest)
    (h : gateOf type payload = some state) :
    (succeeded x inst payload).workflowState ∈ transitionsOf type state ∧
      (succeeded x inst payload).workflowState ∉ humanGateStates := by
  unfold gateOf at h
  split at h
  · obtain rfl := Option.some.inj h
    exact ⟨.head _, (by decide : WorkflowState.ledgerCommitted ∉ humanGateStates)⟩
  · obtain rfl := Option.some.inj h
    have hpublished : (succeeded x inst (.publishUseOfFundsReceipt ‹_›)).workflowState =
        .published := by
      rw [succeeded]
      dsimp only
      split <;> rfl
    rw [hpublished]
    exact ⟨.head _, by decide⟩
  · obtain rfl := Option.some.inj h
    exact ⟨.head _, (by decide : WorkflowState.delivered ∉ humanGateStates)⟩
  · obtain rfl := Option.some.inj h
    exact ⟨.head _, (by decide : WorkflowState.ledgerCommitted ∉ humanGateStates)⟩
  · obtain rfl := Option.some.inj h
    exact ⟨.head _, (by decide : WorkflowState.ledgerCommitted ∉ humanGateStates)⟩
  · exact absurd rfl hlive
  · cases h

/-- From where an expense is looked into, evidence comes before classification. -/
theorem reading_passes (h : state ∈ readingStates) :
    Passes state .blocked ∧ Passes state .needsInformation ∧ Passes state .reviewPending := by
  have hclassified : Passes .classificationPending .needsInformation ∧
      Passes .classificationPending .reviewPending :=
    ⟨.edge (.tail _ (.head _)), .edge (.head _)⟩
  have hevidence : Passes .evidencePending .needsInformation ∧
      Passes .evidencePending .reviewPending :=
    ⟨.edge (.tail _ (.tail _ (.head _))), .via (.head _) (.tail _ (.head _)) hclassified.2⟩
  simp only [readingStates, List.mem_cons, List.not_mem_nil, or_false] at h
  rcases h with rfl | rfl | rfl
  · exact ⟨.edge (.tail _ (.tail _ (.head _))), .via (.head _) (.head _) hevidence.1,
      .via (.head _) (.head _) hevidence.2⟩
  · exact ⟨.edge (.tail _ (.head _)), hevidence⟩
  · exact ⟨.edge (.tail _ (.tail _ (.head _))), hclassified⟩

theorem automatic_legal {type : WorkflowType} {step : WorkflowState × WorkflowRunStatus}
    (h : step ∈ automaticSteps type state) :
    LegalMove type state step.1 ∧ step.1 ∉ humanGateStates := by
  have hreading : ∀ {current}, current ∈ readingStates → step ∈ [(WorkflowState.blocked,
      WorkflowRunStatus.failedTerminal), (.blocked, .waitingSignal),
      (.needsInformation, .waitingSignal)] →
      LegalMove .expenseToReceipt current step.1 ∧ step.1 ∉ humanGateStates := by
    intro current hcurrent hstep
    obtain ⟨hblocked, hneeds, -⟩ := reading_passes hcurrent
    simp only [List.mem_cons, List.not_mem_nil, or_false] at hstep
    rcases hstep with rfl | rfl | rfl
    · exact ⟨.path hblocked, by decide⟩
    · exact ⟨.path hblocked, by decide⟩
    · exact ⟨.path hneeds, by decide⟩
  unfold automaticSteps at h
  split at h
  · simp only [List.mem_cons, List.not_mem_nil, or_false] at h
    rcases h with rfl | rfl
    · exact ⟨.edge (.head _), by decide⟩
    · exact ⟨.edge (.tail _ (.head _)), by decide⟩
  · exact hreading (.head _) h
  · exact hreading (.tail _ (.head _)) h
  · exact hreading (.tail _ (.tail _ (.head _))) h
  · simp only [List.mem_cons, List.not_mem_nil, or_false] at h
    rcases h with rfl | rfl
    · exact ⟨.edge (.tail _ (.tail _ (.head _))), by decide⟩
    · exact ⟨.edge (.tail _ (.head _)), by decide⟩
  · obtain rfl := List.mem_singleton.mp h
    exact ⟨.edge (.head _), by decide⟩
  · simp only [List.mem_cons, List.not_mem_nil, or_false] at h
    rcases h with rfl | rfl
    · exact ⟨.edge (.tail _ (.tail _ (.head _))), by decide⟩
    · exact ⟨.edge (.head _), by decide⟩
  · obtain rfl := List.mem_singleton.mp h
    exact ⟨.edge (.head _), by decide⟩
  · exact absurd h List.not_mem_nil

theorem EntersGate.legal (h : inst.EntersGate x state frozen deadline) :
    LegalMove inst.workflowType inst.workflowState state := by
  cases h with
  | review kind from_ => exact kind ▸ .path (reading_passes from_).2.2
  | publication kind from_ => exact kind ▸ from_ ▸ .edge (.head _)
  | notification kind from_ => exact kind ▸ from_ ▸ .edge (.head _)
  | correction kind from_ _ => exact kind ▸ from_ ▸ .edge (.head _)
  | digest kind from_ _ => exact kind ▸ from_ ▸ .edge (.tail _ (.head _))

/-- Every gate can be left for REJECTED and NEEDS_INFORMATION. -/
theorem leaves_gate {type : WorkflowType} {payload : Payload} (h : gateOf type payload = some state) :
    WorkflowState.rejected ∈ transitionsOf type state ∧
      WorkflowState.needsInformation ∈ transitionsOf type state := by
  unfold gateOf at h
  split at h
  all_goals first
    | obtain rfl := Option.some.inj h
      exact ⟨by decide, by decide⟩
    | exact nomatch h

/-- An advance of an instance that fits its gate moves it along its table. -/
theorem Moved.legal (h : inst.Moved x signals consumed new) (hfits : inst.FitsGate) :
    new.workflowState = inst.workflowState ∨
      LegalMove inst.workflowType inst.workflowState new.workflowState := by
  cases h with
  | rests state wait status decided => exact Or.inl state
  | retries kind gate state wait status => exact Or.inl state
  | spins idle live state wait status => exact Or.inl state
  | ignores gate taken marked state wait status decided => exact Or.inl state
  | declines gate state =>
      obtain ⟨frozen, _, hgate⟩ := hfits gate
      obtain ⟨hrejected, hneeds⟩ := leaves_gate hgate
      simp only [List.mem_cons, Prod.mk.injEq, List.not_mem_nil, or_false] at state
      rcases state with ⟨hstate, _⟩ | ⟨hstate, _⟩
      · exact Or.inr (hstate ▸ .edge hrejected)
      · exact Or.inr (hstate ▸ .edge hneeds)
  | executes kind gate waits state status wait =>
      obtain ⟨frozen, hfrozen, hgate⟩ := hfits gate
      obtain rfl := Option.some.inj (waits.symm.trans hfrozen)
      exact Or.inr (state ▸ .edge (succeeded_legal kind hgate).1)
  | acknowledges kind gate state status wait =>
      refine Or.inr ?_
      rw [kind, gate, state]
      exact .edge (.head _)
  | steps step => exact Or.inr (automatic_legal step).1
  | enters gate status waits until_ silent => exact Or.inr gate.legal

theorem Moved.fits (h : inst.Moved x signals consumed new) (hsame : new.SameWorkflow inst)
    (hfits : inst.FitsGate) : new.FitsGate := by
  cases h with
  | rests state wait status decided => exact hfits.congr hsame.workflowType state wait.wait
  | retries kind gate state wait status => exact hfits.congr hsame.workflowType state wait.wait
  | spins idle live state wait status => exact hfits.congr hsame.workflowType state wait.wait
  | ignores gate taken marked state wait status decided =>
      exact hfits.congr hsame.workflowType state wait.wait
  | declines gate state =>
      simp only [List.mem_cons, Prod.mk.injEq, List.not_mem_nil, or_false] at state
      rcases state with ⟨hstate, _⟩ | ⟨hstate, _⟩
      · exact fits_of_state (hstate ▸ by decide)
      · exact fits_of_state (hstate ▸ by decide)
  | executes kind gate waits state status wait =>
      obtain ⟨frozen, hfrozen, hgate⟩ := hfits gate
      obtain rfl := Option.some.inj (waits.symm.trans hfrozen)
      exact fits_of_state (state ▸ (succeeded_legal kind hgate).2)
  | acknowledges kind gate state status wait => exact fits_of_state (state ▸ by decide)
  | steps step => exact fits_of_state (automatic_legal step).2
  | enters gate status waits until_ silent =>
      exact fun _ => ⟨_, waits, hsame.workflowType ▸ gate.gate⟩

theorem started_not_gate {request : StartRequest} (h : started x request = .ok inst) :
    inst.workflowState ∉ humanGateStates := by
  cases request with
  | expense r =>
      obtain rfl := Except.ok.inj h
      change (if _ then WorkflowState.normalized else .received) ∉ humanGateStates
      split <;> decide
  | digest r =>
      obtain rfl := Except.ok.inj h
      exact (by decide : WorkflowState.received ∉ humanGateStates)
  | correction r =>
      rw [started, startCorrection] at h
      split at h
      · cases h
      · obtain rfl := Except.ok.inj h
        exact (by decide : WorkflowState.received ∉ humanGateStates)

theorem fits_placeInvariant : PlaceInvariant FitsGate where
  started x request inst h := fits_of_state (started_not_gate h)
  place a b hsame hplace hfits :=
    hfits.congr hsame.workflowType hplace.state (congrArg (·.wait) hplace.context)
  swept old new hswept _ := by
    obtain ⟨_, _, nowIso, descriptor, seq, rfl⟩ := hswept
    exact fits_of_state (by decide : WorkflowState.needsInformation ∉ humanGateStates)
  moved x inst signals consumed new hmoved _ hsame hfits := hmoved.fits hsame hfits

/-- A timeout leaves the gate for NEEDS_INFORMATION. -/
theorem Swept.legal (h : old.Swept new) (hfits : old.FitsGate) :
    LegalMove old.workflowType old.workflowState new.workflowState := by
  obtain ⟨_, hgate, nowIso, descriptor, seq, rfl⟩ := h
  obtain ⟨frozen, _, hgate⟩ := hfits hgate
  exact .edge (leaves_gate hgate).2

end WorkflowInstance

/-! ## Runs -/

/-- The flight is an advance: it has read the instance and has not written it yet. -/
def Phase.advances : Phase → Bool
  | .got | .took _ | .ran _ _ => true
  | .claimed | .over _ | .changing _ | .noting _ => false

namespace System

variable {σ : Type} [WorkflowStore σ]

/-- What is stored for the workflow is still in the state the flight has read. -/
def Current (S : System σ) (f : Flight) : Prop :=
  (row S.store f.inst.workflowId).map (·.workflowState) = some f.inst.workflowState

instance (S : System σ) (f : Flight) : Decidable (S.Current f) := inferInstanceAs (Decidable (_ = _))

/-- Where an advance executes and where it writes, it acts on the stored instance. -/
def AdvancesOnStored (S : System σ) : Action → Prop
  | .run worker w _ | .write worker w _ =>
      ∀ f ∈ S.flights (worker, w), f.phase.advances → S.Current f
  | _ => True

instance (S : System σ) (action : Action) : Decidable (S.AdvancesOnStored action) :=
  match action with
  | .run worker w _ | .write worker w _ =>
      inferInstanceAs (Decidable (∀ f ∈ S.flights (worker, w), f.phase.advances → S.Current f))
  | .start .. | .approve .. | .operate .. | .claim .. | .pump .. | .get .. | .take .. | .look ..
  | .drop .. | .sweep .. => isTrue trivial

/-- A sweep, or the commit of an advance. -/
def Commits (S : System σ) : Action → Prop
  | .write worker w _ => ∃ f ∈ S.flights (worker, w), f.phase.advances
  | .sweep _ => True
  | _ => False

variable [Digest] [Json.CharTable]

/-- Whatever business state the step commits is one the table leads to. -/
def LegalCommit (S : System σ) (action : Action) : Prop :=
  S.Commits action → ∀ w old new, row S.store w = some old →
    row (S.step action).store w = some new → new.workflowState ≠ old.workflowState →
    LegalMove old.workflowType old.workflowState new.workflowState

variable [LawfulWorkflowStore σ] {S : System σ} {action : Action}

theorem legalCommit (hS : S.Begun) (hfits : S.Everywhere FitsGate) (hstored : S.AdvancesOnStored action) :
    S.LegalCommit action := by
  intro hcommits w old new hold hnew hmoves
  obtain ⟨new', hnew', _, hmove⟩ := (row_step hS.sound action).kept w old hold
  obtain rfl := Option.some.inj (hnew'.symm.trans hnew)
  cases hmove with
  | keeps cursor => exact absurd cursor.workflowState.symm hmoves
  | wakes status place => exact absurd place.state hmoves
  | leases taken => exact absurd (taken ▸ rfl) hmoves
  | swept sweeps swept => exact swept.legal (hfits.rows w old hold)
  | advanced writes flight phase hands read same cursor =>
      subst writes
      rename_i worker utcNow v f signals outcome written
      have hadvances : f.phase.advances := by
        rw [phase]
        rfl
      have hcurrent : S.Current f := hstored f flight hadvances
      rw [Current, read.workflowId, id_of_row hold, hold] at hcurrent
      have hstate : old.workflowState = f.inst.workflowState := Option.some.inj hcurrent
      have hrecorded := hS.recorded _ f flight
      rw [Flight.Recorded, phase] at hrecorded
      obtain ⟨x, hmoved, -⟩ := hrecorded
      have hnext : written.workflowState = new'.workflowState := cursor.workflowState
      rw [← read.workflowType, hstate, ← hnext]
      rcases (hmoved.written written hands).1.legal (hfits.held f.inst ⟨_, f, flight, rfl⟩) with hsame | hlegal
      · exact absurd (hnext.symm.trans (hsame.trans hstate.symm)) hmoves
      · exact hlegal
  | changed writes flight phase read same cursor =>
      subst writes
      rename_i worker utcNow v f change
      obtain ⟨g, hg, hadvances⟩ := hcommits
      obtain rfl := Option.some.inj (flight.symm.trans hg)
      rw [phase] at hadvances
      cases hadvances

theorem legal_along (hS : S.Fresh) {actions : List Action}
    (h : Along System.step AdvancesOnStored S actions) :
    Along System.step LegalCommit S actions :=
  h.of_invariant (I := fun T => T.Begun ∧ T.Everywhere FitsGate)
    (fun _ action hT _ => ⟨hT.1.step action, hT.2.step fits_placeInvariant hT.1 action⟩)
    (fun _ _ hT hstored => legalCommit hT.1 hT.2 hstored)
    ⟨hS.begun, hS.everywhere fits_placeInvariant []⟩

omit [LawfulWorkflowStore σ] in
/-- On either store, in every run whose advances act on what is stored. -/
theorem every_change_legal (actions : List Action) :
    (∀ S : System InMemoryWorkflowStore, S.Fresh → Along System.step AdvancesOnStored S actions →
      Along System.step LegalCommit S actions) ∧
    ∀ S : System SqlWorkflowStore, S.Fresh → Along System.step AdvancesOnStored S actions →
      Along System.step LegalCommit S actions :=
  ⟨fun _ hS h => legal_along hS h, fun _ hS h => legal_along hS h⟩

end System

section Sample

attribute [local instance] Digest.plain Json.CharTable.all

open ImpactRelay.System in
theorem reversal_legal : Along System.step LegalCommit Sample.system
    (Sample.approvedReversal 60 ++ Sample.advance 23 60) :=
  (every_change_legal _).2 Sample.system Sample.system_fresh (by decide +kernel)

end Sample

end ImpactRelay
