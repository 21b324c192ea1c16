/-
# `Workflows.Deadlines` — how long a gate waits

The five ways into a gate each set the deadline of the wait for themselves.  Two of
them keep the rule: the publication gate waits a week for a command that does not
expire, and the gate of a digest three days.  At the review gate the command is gone
after three days and the wait goes on for seven; so it is with corrections; and at the
notification gate there is no deadline at all, since the one the composing step
returns is not taken over.

Two facts about every reachable place carry this: an expense that is published has no
deadline left from its last gate, and no workflow outside NEEDS_INFORMATION has been
timed out.
-/
import ImpactRelay.Lib.IsoText
import ImpactRelay.Workflows.Timeouts

namespace ImpactRelay

open Raise WorkflowStore LawfulWorkflowStore WorkflowInstance WorkflowRuntime

/-! ## Clocks -/

/-- The clocks show datetimes, and will do so for another week. -/
structure Surroundings.InRange (x : Surroundings) : Prop where
  clock : (x.clock.addSeconds (7 * 86400)).InRange
  now : x.utc.truncate.InRange
  week : (x.utc.truncate.addSeconds (3600 * 168)).InRange

theorem Surroundings.InRange.expires {x : Surroundings} (h : x.InRange) {hours : Nat}
    (hweek : hours ≤ 168) : Datetime.fromisoformat (x.expires hours) =
      some (x.utc.truncate.addSeconds (3600 * hours)) := by
  refine Datetime.fromisoformat_isoformat ⟨?_, ?_, h.week.offset, h.week.second⟩
  · have hpos : 0 ≤ x.utc.truncate.micros + x.utc.truncate.offset := h.now.pos
    rw [Datetime.addSeconds]
    dsimp only
    omega
  · have hlast := h.week.last
    rw [Datetime.addSeconds] at hlast ⊢
    dsimp only at hlast ⊢
    omega

/-! ## The rule -/

/-- The wait times out: its deadline is a datetime not later than the expiry of the
command, where it has one, nor than a week from now; and a sweep after it finds the
workflow, by the instant in memory and by the text in SQL. -/
def TimesOut (x : Surroundings) (frozen : FrozenProposedCommand) (new : WorkflowInstance) : Prop :=
  ∃ text d, new.waitDeadline = some text ∧ Datetime.fromisoformat text = some d ∧
    (∀ e, frozen.expiresAt = some e →
      ∃ expires, Datetime.fromisoformat e = some expires ∧ d ≤ expires) ∧
    d ≤ x.clock.addSeconds (7 * 86400) ∧
    (∀ now, d < now → InMemoryWorkflowStore.overdue now new = .ok true) ∧
    ∀ nowIso, text < nowIso → SqlWorkflowStore.overdue nowIso new = true

/-- Where a wait in time is entered from: a committed expense goes to its publication
gate, and a digest to its own, with `datetime.now(UTC)` at most four days ahead of the
clock. -/
def EntersInTime (x : Surroundings) (inst : WorkflowInstance) : Prop :=
  inst.workflowType = .expenseToReceipt ∧ inst.workflowState = .ledgerCommitted ∨
    inst.workflowType = .scheduledDigest ∧
      x.utc.truncate.addSeconds (3600 * 72) ≤ x.clock.addSeconds (7 * 86400)

/-- No deadline is left from a gate, and no workflow that goes on has been timed out. -/
structure WorkflowInstance.Untimed (inst : WorkflowInstance) : Prop where
  published : inst.workflowType = .expenseToReceipt → inst.workflowState = .published →
    inst.waitDeadline = none
  applied : inst.workflowState ≠ .needsInformation → inst.timeoutAppliedAt = none

section Entering

variable {x : Surroundings} {inst new : WorkflowInstance} {signals : List WorkflowSignal}
  {consumed : List Id} {state : WorkflowState} {frozen : FrozenProposedCommand}
  {deadline : Option String}

theorem entersGate_gate (h : inst.EntersGate x state frozen deadline) :
    state ∈ humanGateStates ∧ inst.workflowState ∉ humanGateStates := by
  cases h with
  | review kind from_ =>
      refine ⟨.head _, ?_⟩
      have hreading : ∀ s ∈ [WorkflowState.normalized, .evidencePending, .classificationPending],
          s ∉ humanGateStates := by decide
      exact hreading _ from_
  | publication kind from_ => exact ⟨.tail _ (.head _), from_ ▸ by decide⟩
  | notification kind from_ => exact ⟨.tail _ (.tail _ (.head _)), from_ ▸ by decide⟩
  | correction kind from_ command => exact ⟨.head _, from_ ▸ by decide⟩
  | digest kind from_ command => exact ⟨.tail _ (.head _), from_ ▸ by decide⟩

/-- A sweep finds a wait that has just been entered. -/
theorem swept_after {text : String} {d : Datetime} (hstatus : new.runStatus = .waitingSignal)
    (hgate : new.workflowState ∈ humanGateStates) (happlied : new.timeoutAppliedAt = none)
    (htext : new.waitDeadline = some text) (hd : Datetime.fromisoformat text = some d) :
    (∀ now, d < now → InMemoryWorkflowStore.overdue now new = .ok true) ∧
      ∀ nowIso, text < nowIso → SqlWorkflowStore.overdue nowIso new = true := by
  have hne : text ≠ "" := by
    rintro rfl
    cases (show none = some d from hd)
  constructor
  · intro now hnow
    have horElse : orElse new.waitDeadline none = some text := by
      rw [htext, orElse, if_neg hne]
    rw [InMemoryWorkflowStore.overdue, if_neg]
    · rw [htext, parseIso, hd]
      exact congrArg Except.ok (decide_eq_true hnow)
    · rw [hstatus, horElse, happlied]
      rintro (h | h | h | h)
      · exact h rfl
      · exact h hgate
      · cases h
      · exact h rfl
  · intro nowIso hnow
    rw [SqlWorkflowStore.overdue, hstatus, htext, happlied]
    simp only [Option.any_some, decide_eq_true hnow, decide_eq_true hgate, decide_true,
      Bool.and_self]

/-- The command of a correction expires after three days. -/
theorem correction_expires {tenantId kind expenseId reason : String}
    {replacement : Option ReplacementRow} {splits : List SplitItem}
    (h : correctionCommand x tenantId kind expenseId reason replacement splits = .inl frozen) :
    frozen.expiresAt = some (x.expires 72) := by
  unfold correctionCommand at h
  split at h
  · exact Sum.inl.inj h ▸ rfl
  split at h
  · split at h
    · exact Sum.inl.inj h ▸ rfl
    · exact nomatch h
  · exact nomatch h

/-- A wait of a week for a command of three days. -/
theorem not_timesOut_of_longer (hx : x.InRange) (hdeadline : new.waitDeadline = some (x.expires 168))
    (hexpires : frozen.expiresAt = some (x.expires 72)) : ¬ TimesOut x frozen new := by
  rintro ⟨text, d, htext, hd, hbefore, -⟩
  obtain rfl := Option.some.inj (hdeadline.symm.trans htext)
  obtain rfl := Option.some.inj ((hx.expires (Nat.le_refl _)).symm.trans hd)
  obtain ⟨expires, hparse, hle⟩ := hbefore _ hexpires
  obtain rfl := Option.some.inj ((hx.expires (by decide)).symm.trans hparse)
  have hmicros : x.utc.truncate.micros + (3600 * 168 : Nat) * 1000000 ≤
      x.utc.truncate.micros + (3600 * 72 : Nat) * 1000000 := hle
  omega

/-- What decides whether a wait times out is where it is entered from. -/
theorem timesOut_iff (hx : x.InRange) (hgate : inst.EntersGate x new.workflowState frozen deadline)
    (hstatus : new.runStatus = .waitingSignal) (hdeadline : new.waitDeadline = deadline)
    (happlied : new.timeoutAppliedAt = none) (huntimed : inst.Untimed) :
    TimesOut x frozen new ↔ EntersInTime x inst := by
  have hin := (entersGate_gate hgate).1
  obtain ⟨entered, hentered⟩ : ∃ entered, entered = new.workflowState := ⟨_, rfl⟩
  rw [← hentered] at hgate
  cases hgate with
  | review kind from_ =>
      refine iff_of_false (not_timesOut_of_longer hx hdeadline rfl) ?_
      rintro (⟨-, hfrom⟩ | ⟨hkind, -⟩)
      · rw [hfrom] at from_
        exact absurd from_ (by decide)
      · exact nomatch kind.symm.trans hkind
  | publication kind from_ =>
      refine iff_of_true ?_ (Or.inl ⟨kind, from_⟩)
      have hparse := Datetime.fromisoformat_isoformat hx.clock
      have hle : x.clock.addSeconds (7 * 86400) ≤ x.clock.addSeconds (7 * 86400) := Int.le_refl _
      exact ⟨_, _, hdeadline, hparse, nofun, hle,
        swept_after hstatus hin happlied hdeadline hparse⟩
  | notification kind from_ =>
      refine iff_of_false ?_ ?_
      · rintro ⟨text, d, htext, -⟩
        rw [hdeadline, huntimed.published kind from_] at htext
        exact nomatch htext
      · rintro (⟨-, hfrom⟩ | ⟨hkind, -⟩)
        · exact nomatch from_.symm.trans hfrom
        · exact nomatch kind.symm.trans hkind
  | correction kind from_ command =>
      refine iff_of_false (not_timesOut_of_longer hx hdeadline (correction_expires command)) ?_
      rintro (⟨hkind, -⟩ | ⟨hkind, -⟩)
      · exact nomatch kind.symm.trans hkind
      · exact nomatch kind.symm.trans hkind
  | digest kind from_ command =>
      have hparse : Datetime.fromisoformat (x.expires 72) =
          some (x.utc.truncate.addSeconds (3600 * 72)) := hx.expires (by decide)
      have hnone : frozen.expiresAt = none := Option.some.inj command ▸ rfl
      constructor
      · rintro ⟨text, d, htext, hd, -, hle, -⟩
        obtain rfl := Option.some.inj (hdeadline.symm.trans htext)
        obtain rfl := Option.some.inj (hparse.symm.trans hd)
        exact Or.inr ⟨kind, hle⟩
      · rintro (⟨hkind, -⟩ | ⟨-, hle⟩)
        · exact nomatch kind.symm.trans hkind
        · refine ⟨_, _, hdeadline, hparse, fun e he => ?_, hle,
            swept_after hstatus hin happlied hdeadline hparse⟩
          rw [hnone] at he
          exact nomatch he

/-! ## What is left of deadlines -/

theorem started_untimed {request : StartRequest} (h : started x request = .ok inst) :
    inst.waitDeadline = none ∧ inst.timeoutAppliedAt = none := by
  cases request with
  | expense r => exact Except.ok.inj h ▸ ⟨rfl, rfl⟩
  | digest r => exact Except.ok.inj h ▸ ⟨rfl, rfl⟩
  | correction r =>
      rw [started, startCorrection] at h
      split at h
      · cases h
      · exact Except.ok.inj h ▸ ⟨rfl, rfl⟩

/-- An expense is published at its gate only, where the wait is over then. -/
theorem moved_published (h : inst.Moved x signals consumed new) (hsame : new.SameWorkflow inst)
    (huntimed : inst.Untimed) (hkind : new.workflowType = .expenseToReceipt)
    (hpublished : new.workflowState = .published) : new.waitDeadline = none := by
  have hkind' : inst.workflowType = .expenseToReceipt := hsame.workflowType.symm.trans hkind
  have hkeeps : new.workflowState = inst.workflowState → inst.SameWait new →
      new.waitDeadline = none := fun hstate hwait =>
    hwait.deadline.trans (huntimed.published hkind' (hstate.symm.trans hpublished))
  cases h with
  | rests state wait status decided => exact hkeeps state wait
  | retries kind gate state wait status => exact hkeeps state wait
  | spins idle live state wait status => exact hkeeps state wait
  | ignores gate taken marked state wait status decided => exact hkeeps state wait
  | declines gate state =>
      rw [hpublished] at state
      simp at state
  | executes kind gate waits state status wait => exact wait.deadline
  | acknowledges kind gate state status wait => exact wait.deadline
  | steps step =>
      have hsteps : ∀ s, ∀ step ∈ automaticSteps .expenseToReceipt s, step.1 ≠ .published := by
        intro s
        cases s <;> decide
      rw [hkind'] at step
      exact absurd hpublished (hsteps _ _ step)
  | enters gate status waits until_ silent =>
      have hgate := (entersGate_gate gate).1
      rw [hpublished] at hgate
      exact absurd hgate (by decide)

theorem untimed_placeInvariant : PlaceInvariant Untimed where
  started x request inst h := ⟨fun _ _ => (started_untimed h).1, fun _ => (started_untimed h).2⟩
  place a b hsame hplace h := by
    refine ⟨fun hkind hstate => ?_, fun hstate => ?_⟩
    · exact hplace.deadline.trans (h.published (hsame.workflowType.symm.trans hkind)
        (hplace.state.symm.trans hstate))
    · exact hplace.applied.trans (h.applied (hplace.state ▸ hstate))
  swept old new hswept _ := by
    obtain ⟨_, _, nowIso, descriptor, seq, rfl⟩ := hswept
    exact ⟨fun _ hstate => (nomatch hstate), fun hstate => absurd rfl hstate⟩
  moved x inst signals consumed new hmoved happlied hsame h := by
    refine ⟨moved_published hmoved hsame h, fun hstate => happlied.trans (h.applied ?_)⟩
    exact fun hparked => hstate (moved_parked hmoved hparked)

end Entering

/-! ## Runs -/

/-- The advance of an action works with datetimes. -/
def Action.InRange : Action → Prop
  | .run _ _ x => x.InRange
  | _ => True

/-- The flight has run, and holds what it has to hand over. -/
def Phase.runs : Phase → Bool
  | .ran _ _ => true
  | _ => false

namespace System

variable {σ : Type} [WorkflowStore σ] [Digest] [Json.CharTable]

/-- The action runs the advance of a worker, and this is the instance it hands over. -/
def HandsOver (S : System σ) (action : Action) (x : Surroundings) (inst new : WorkflowInstance) :
    Prop :=
  ∃ worker w phase signals outcome, action = .run worker w x ∧
    S.flights (worker, w) = some ⟨inst, phase⟩ ∧ phase.runs = false ∧
    (S.step action).flights (worker, w) = some ⟨inst, .ran signals outcome⟩ ∧
    outcome.written = some new

/-- A gate wait that the step's advance hands over to be committed times out: from its
entry on, and it keeps its deadline as long as the workflow stays. -/
def GateTimesOut (S : System σ) (action : Action) : Prop :=
  ∀ x inst new frozen, S.HandsOver action x inst new → new.workflowState ∈ humanGateStates →
    new.context.wait.bind (·.frozenCommand) = some frozen →
    (new.workflowState ≠ inst.workflowState → TimesOut x frozen new) ∧
      (new.workflowState = inst.workflowState → inst.SameWait new)

/-- Every gate is entered from where the wait is in time. -/
def GateInTime (S : System σ) (action : Action) : Prop :=
  ∀ x inst new, S.HandsOver action x inst new → new.workflowState ∈ humanGateStates →
    new.workflowState ≠ inst.workflowState → EntersInTime x inst

variable {S : System σ} {action : Action} {x : Surroundings} {inst new : WorkflowInstance}

theorem runAdvance_returns {key : String × Id} {signals taken : List WorkflowSignal}
    {outcome : Outcome}
    (h : (S.runAdvance key inst signals x).flights key = some ⟨inst, .ran taken outcome⟩) :
    ∃ a, Returns (advanceOnce x inst signals) ⟨S.executorFor inst, []⟩ outcome a := by
  rw [System.runAdvance] at h
  split at h
  · rename_i o a hrun
    have hflight : some ⟨inst, .ran signals o⟩ = some (⟨inst, .ran taken outcome⟩ : Flight) :=
      (Function.update_self key _ _).symm.trans h
    obtain ⟨-, hphase⟩ := Flight.mk.inj (Option.some.inj hflight)
    obtain ⟨-, rfl⟩ := Phase.ran.inj hphase
    exact ⟨a, hrun⟩
  · rename_i exc a hrun
    have hflight : some ⟨inst, .over (some exc)⟩ = some (⟨inst, .ran taken outcome⟩ : Flight) :=
      (Function.update_self key _ _).symm.trans h
    obtain ⟨-, hphase⟩ := Flight.mk.inj (Option.some.inj hflight)
    cases hphase

/-- What is handed over is what the advance of a flight returns: with the signals that were
taken, or with none where it takes none. -/
theorem HandsOver.returns (h : S.HandsOver action x inst new) : ∃ worker w signals outcome a,
    action = .run worker w x ∧ outcome.written = some new ∧
      Returns (advanceOnce x inst signals) ⟨S.executorFor inst, []⟩ outcome a ∧
      (S.flights (worker, w) = some ⟨inst, .took signals⟩ ∨
        S.flights (worker, w) = some ⟨inst, .got⟩ ∧ inst.takesSignals = false) := by
  obtain ⟨worker, w, phase, taken, outcome, rfl, hflight, hphase, hran, hwritten⟩ := h
  have hstays : ∀ T : System σ, T.flights (worker, w) = some ⟨inst, phase⟩ →
      T.flights (worker, w) = some ⟨inst, .ran taken outcome⟩ → False := by
    intro T hbefore hafter
    obtain ⟨-, heq⟩ := Flight.mk.inj (Option.some.inj (hbefore.symm.trans hafter))
    rw [heq] at hphase
    exact nomatch hphase
  rw [System.step, System.onFlight, hflight] at hran
  dsimp only [System.runFlight] at hran
  split at hran
  · split at hran
    · exact (hstays S hflight hran).elim
    · rename_i hidle
      obtain ⟨a, hreturns⟩ := runAdvance_returns hran
      exact ⟨worker, w, [], outcome, a, rfl, hwritten, hreturns,
        Or.inr ⟨hflight, Bool.eq_false_iff.mpr hidle⟩⟩
  · rename_i signals
    obtain ⟨a, hreturns⟩ := runAdvance_returns hran
    exact ⟨worker, w, signals, outcome, a, rfl, hwritten, hreturns, Or.inl hflight⟩
  · exact (hstays S hflight hran).elim

/-- What is handed over is what the advance has made of the instance. -/
theorem HandsOver.moved (h : S.HandsOver action x inst new) : ∃ signals consumed,
    inst.Moved x signals consumed new ∧ new.timeoutAppliedAt = inst.timeoutAppliedAt := by
  obtain ⟨worker, w, signals, outcome, a, rfl, hwritten, hreturns, _⟩ := h.returns
  exact ⟨signals, _, (advanceOnce_moved _ _ _ hreturns).written new hwritten⟩

theorem flight_runAdvance {key : String × Id} {signals : List WorkflowSignal} :
    ∃ phase, (S.runAdvance key inst signals x).flights key = some ⟨inst, phase⟩ := by
  rw [System.runAdvance]
  split
  · exact ⟨_, Function.update_self key _ _⟩
  · exact ⟨_, Function.update_self key _ _⟩

theorem handsOver_of_run {worker : String} {w : Id} {f g : Flight} {signals : List WorkflowSignal}
    {outcome : Outcome} (hf : S.flights (worker, w) = some f) (hruns : f.phase.runs = false)
    (hg : (S.step (.run worker w x)).flights (worker, w) = some g)
    (hphase : g.phase = .ran signals outcome) (hwritten : outcome.written = some new) :
    S.HandsOver (.run worker w x) x f.inst new ∧ g.inst = f.inst := by
  have hinst : g.inst = f.inst := by
    have hadvance : ∀ taken, (S.runAdvance (worker, w) f.inst taken x).flights (worker, w) = some g →
        g.inst = f.inst := by
      intro taken hran
      have hkept : ∃ phase, (S.runAdvance (worker, w) f.inst taken x).flights (worker, w) =
          some ⟨f.inst, phase⟩ := flight_runAdvance
      obtain ⟨phase, hflight⟩ := hkept
      obtain rfl := Option.some.inj (hflight.symm.trans hran)
      rfl
    rw [System.step, System.onFlight, hf] at hg
    dsimp only [System.runFlight] at hg
    split at hg
    · split at hg
      · exact congrArg (·.inst) (Option.some.inj (hg.symm.trans hf))
      · exact hadvance [] hg
    · exact hadvance _ hg
    · exact congrArg (·.inst) (Option.some.inj (hg.symm.trans hf))
  refine ⟨⟨worker, w, f.phase, signals, outcome, rfl, hf, hruns, ?_, hwritten⟩, hinst⟩
  rw [hg, ← hinst, ← hphase]

theorem HandsOver.held (h : S.HandsOver action x inst new) : S.Holds inst := by
  obtain ⟨worker, w, phase, _, _, _, hflight, _⟩ := h
  exact ⟨_, _, hflight, rfl⟩

end System

section Gates

variable {x : Surroundings} {inst new : WorkflowInstance} {signals : List WorkflowSignal}
  {consumed : List Id} {frozen : FrozenProposedCommand}

theorem succeeded_state (payload : Payload) :
    (succeeded x inst payload).workflowState = inst.workflowState ∨
      (succeeded x inst payload).workflowState ∉ humanGateStates := by
  cases payload with
  | approveExpense p => exact Or.inr (by decide : WorkflowState.ledgerCommitted ∉ humanGateStates)
  | reverseExpense p => exact Or.inr (by decide : WorkflowState.ledgerCommitted ∉ humanGateStates)
  | supersedeExpense p => exact Or.inr (by decide : WorkflowState.ledgerCommitted ∉ humanGateStates)
  | sendNotification p => exact Or.inr (by decide : WorkflowState.delivered ∉ humanGateStates)
  | publishUseOfFundsReceipt p =>
      refine Or.inr ?_
      rw [succeeded]
      dsimp only
      split <;> exact (by decide : WorkflowState.published ∉ humanGateStates)
  | _ => exact Or.inl rfl

/-- A gate the workflow has not been at is entered. -/
theorem moved_enters (h : inst.Moved x signals consumed new)
    (hgate : new.workflowState ∈ humanGateStates) (hnew : new.workflowState ≠ inst.workflowState) :
    ∃ frozen deadline, inst.EntersGate x new.workflowState frozen deadline ∧
      new.runStatus = .waitingSignal ∧ new.waitDeadline = deadline ∧
      new.context.wait.bind (·.frozenCommand) = some frozen := by
  cases h with
  | rests state wait status decided => exact absurd state hnew
  | retries kind gate state wait status => exact absurd state hnew
  | spins idle live state wait status => exact absurd state hnew
  | ignores gate taken marked state wait status decided => exact absurd state hnew
  | declines gate state =>
      simp only [List.mem_cons, Prod.mk.injEq, List.not_mem_nil, or_false] at state
      rcases state with ⟨hstate, _⟩ | ⟨hstate, _⟩
      · exact absurd (hstate ▸ hgate) (by decide)
      · exact absurd (hstate ▸ hgate) (by decide)
  | executes kind gate waits state status wait =>
      rcases @succeeded_state x inst _ with hsame | hleft
      · exact absurd (state.trans hsame) hnew
      · exact absurd (state ▸ hgate) hleft
  | acknowledges kind gate state status wait => exact absurd (state ▸ hgate) (by decide)
  | steps step => exact absurd hgate (automatic_legal step).2
  | enters gate status waits until_ silent => exact ⟨_, _, gate, status, until_, waits⟩

/-- A workflow that stays at its gate with a command keeps its wait. -/
theorem moved_keepsWait (h : inst.Moved x signals consumed new)
    (hgate : new.workflowState ∈ humanGateStates) (hstays : new.workflowState = inst.workflowState)
    (hfrozen : new.context.wait.bind (·.frozenCommand) = some frozen) : inst.SameWait new := by
  cases h with
  | rests state wait status decided => exact wait
  | retries kind gate state wait status => exact wait
  | spins idle live state wait status => exact wait
  | ignores gate taken marked state wait status decided => exact wait
  | declines gate state =>
      simp only [List.mem_cons, Prod.mk.injEq, List.not_mem_nil, or_false] at state
      rcases state with ⟨hstate, _⟩ | ⟨hstate, _⟩
      · exact absurd (hstate ▸ hgate) (by decide)
      · exact absurd (hstate ▸ hgate) (by decide)
  | executes kind gate waits state status wait =>
      rw [wait.wait] at hfrozen
      exact nomatch hfrozen
  | acknowledges kind gate state status wait =>
      rw [wait.wait] at hfrozen
      exact nomatch hfrozen
  | steps step => exact absurd hgate (automatic_legal step).2
  | enters gate status waits until_ silent =>
      exact absurd (hstays ▸ hgate) (entersGate_gate gate).2

end Gates

namespace System

variable {σ : Type} [WorkflowStore σ] [LawfulWorkflowStore σ] [Digest] [Json.CharTable]
  {S : System σ} {action : Action}

omit [LawfulWorkflowStore σ] in
theorem gateTimesOut_iff (huntimed : S.Everywhere Untimed) (hrange : action.InRange) :
    S.GateTimesOut action ↔ S.GateInTime action := by
  have hentered : ∀ x inst new, S.HandsOver action x inst new →
      new.workflowState ∈ humanGateStates → new.workflowState ≠ inst.workflowState →
      ∃ frozen, new.context.wait.bind (·.frozenCommand) = some frozen ∧
        (TimesOut x frozen new ↔ EntersInTime x inst) := by
    intro x inst new hhands hgate hnew
    obtain ⟨signals, consumed, hmoved, happlied⟩ := hhands.moved
    obtain ⟨frozen, deadline, henters, hstatus, hdeadline, hfrozen⟩ := moved_enters hmoved hgate hnew
    have hinst : inst.Untimed := huntimed.held inst hhands.held
    have hx : x.InRange := by
      obtain ⟨worker, w, _, _, _, rfl, _⟩ := hhands
      exact hrange
    have hparked := entersGate_not_parked henters
    exact ⟨frozen, hfrozen,
      timesOut_iff hx henters hstatus hdeadline (happlied.trans (hinst.applied hparked)) hinst⟩
  constructor
  · intro h x inst new hhands hgate hnew
    obtain ⟨frozen, hfrozen, hiff⟩ := hentered x inst new hhands hgate hnew
    exact hiff.mp ((h x inst new frozen hhands hgate hfrozen).1 hnew)
  · intro h x inst new frozen hhands hgate hfrozen
    refine ⟨fun hnew => ?_, fun hstays => ?_⟩
    · obtain ⟨frozen', hfrozen', hiff⟩ := hentered x inst new hhands hgate hnew
      obtain rfl := Option.some.inj (hfrozen'.symm.trans hfrozen)
      exact hiff.mpr (h x inst new hhands hgate hnew)
    · obtain ⟨signals, consumed, hmoved, _⟩ := hhands.moved
      exact moved_keepsWait hmoved hgate hstays hfrozen

theorem gates_along_iff (hS : S.Fresh) {actions : List Action} (hrange : ∀ a ∈ actions, a.InRange) :
    Along System.step GateTimesOut S actions ↔ Along System.step GateInTime S actions := by
  have hbegun : S.Begun ∧ S.Everywhere Untimed :=
    ⟨hS.begun, hS.everywhere untimed_placeInvariant []⟩
  have hkeeps : ∀ (ok : System σ → Action → Prop) (T : System σ) (action : Action),
      T.Begun ∧ T.Everywhere Untimed → ok T action →
        (T.step action).Begun ∧ (T.step action).Everywhere Untimed :=
    fun _ _ action hT _ => ⟨hT.1.step action, hT.2.step untimed_placeInvariant hT.1 action⟩
  have hranges : Along System.step (fun _ a => a.InRange) S actions := along_of_mem hrange
  constructor
  · exact fun h => (hranges.and h).of_invariant (hkeeps _)
      (fun _ _ hT h => (gateTimesOut_iff hT.2 h.1).mp h.2) hbegun
  · exact fun h => (hranges.and h).of_invariant (hkeeps _)
      (fun _ _ hT h => (gateTimesOut_iff hT.2 h.1).mpr h.2) hbegun

end System

section Sample

attribute [local instance] Digest.plain Json.CharTable.all

namespace System

theorem Sample.at_inRange : (Sample.at 21 0).InRange :=
  ⟨⟨by decide, by decide, by decide, by decide⟩, ⟨by decide, by decide, by decide, by decide⟩,
    ⟨by decide, by decide, by decide, by decide⟩⟩

theorem Sample.unanswered_inRange : ∀ a ∈ Sample.unanswered, a.InRange := by
  intro a ha
  simp only [Sample.unanswered, Sample.advance, List.mem_cons, List.not_mem_nil, or_false] at ha
  rcases ha with rfl | rfl | rfl | rfl | rfl | rfl
  · exact trivial
  · exact trivial
  · exact trivial
  · exact trivial
  · exact Sample.at_inRange
  · exact trivial

/-- What the flight hands over: the type of the workflow, and the states before and after. -/
def Sample.handed (f : Flight) : Option (WorkflowType × WorkflowState × WorkflowState) :=
  match f.phase with
  | .ran _ outcome =>
      outcome.written.map fun new => (f.inst.workflowType, f.inst.workflowState, new.workflowState)
  | _ => none

theorem Sample.of_handed {f : Flight} {kind : WorkflowType} {before after : WorkflowState}
    (h : Sample.handed f = some (kind, before, after)) : ∃ signals outcome new,
      f.phase = .ran signals outcome ∧ outcome.written = some new ∧ f.inst.workflowType = kind ∧
        f.inst.workflowState = before ∧ new.workflowState = after := by
  rw [Sample.handed] at h
  split at h
  · rename_i signals outcome hphase
    obtain ⟨new, hwritten, heq⟩ := Option.map_eq_some_iff.mp h
    obtain ⟨hkind, hstates⟩ := Prod.mk.inj heq
    obtain ⟨hbefore, hafter⟩ := Prod.mk.inj hstates
    exact ⟨signals, outcome, new, hphase, hwritten, hkind, hbefore, hafter⟩
  · exact nomatch h

end System

end Sample

end ImpactRelay
