/-
# `Workflows.Rest` — where a workflow comes to rest, and where it spins

A `Call` is one `advance_once` by a worker, with what the worker makes of what the call
raises.  A workflow comes to rest if so many calls one after the other, with nothing else
happening to it, leave it waiting for a signal or over.

In a state its type handles it does: each call lets it rest, takes it on from one of the
`steppingStates`, or passes over a signal that is left in its queue.  In any other state
the advance only makes the workflow due again, and the next one finds it where it was.
-/
import ImpactRelay.Workflows.LegalMoves
import ImpactRelay.Workflows.Queues

namespace ImpactRelay

open Raise WorkflowStore LawfulWorkflowStore WorkflowInstance WorkflowRuntime

/-! ## Calls -/

structure Call where
  worker : String
  x : Surroundings
  utcNow : String
  cfg : WorkerConfig := {}
  nowIso : String
  nextRunAt : String

namespace Call

/-- From the row to what the advance hands over. -/
def reads (tenantId w : Id) (c : Call) : List Action :=
  [.pump c.worker tenantId w, .get c.worker w, .take c.worker w, .run c.worker w c.x]

/-- … once the worker has the workflow. -/
def advances (w : Id) (c : Call) : List Action :=
  [.get c.worker w, .take c.worker w, .run c.worker w c.x]

/-- It marks a signal, if it has to, and commits. -/
def writes (w : Id) (c : Call) : List Action := [.write c.worker w c.utcNow, .write c.worker w c.utcNow]

/-- The worker looks at what has become of the call, writes its own change, and notes it. -/
def looks (w : Id) (c : Call) : List Action :=
  [.look c.worker w c.cfg c.nowIso c.nextRunAt, .write c.worker w c.utcNow,
    .write c.worker w c.utcNow]

def actions (tenantId w : Id) (c : Call) : List Action := c.reads tenantId w ++ c.writes w ++ c.looks w

end Call

namespace System

def Sample.call : Call where
  worker := "w"
  x := Sample.at 21 0
  utcNow := "2026-01-02T12:00:00+00:00"
  nowIso := "2026-01-02T12:00:00+00:00"
  nextRunAt := "2026-01-02T12:01:00+00:00"

variable {σ : Type} [WorkflowStore σ] [Digest] [Json.CharTable]

def call (tenantId w : Id) (S : System σ) (c : Call) : System σ :=
  run System.step S (c.actions tenantId w)

omit [Digest] [Json.CharTable] in
/-- The workflow waits for a signal, or it is over. -/
def Rests (w : Id) (S : System σ) : Prop :=
  ∃ inst ∈ row S.store w, inst.runStatus ∈ restingRunStatuses

omit [Digest] [Json.CharTable] in
/-- The workflow has been scheduled for another try, and the attempt counted. -/
def Retried (w : Id) (S T : System σ) : Prop :=
  ∃ old ∈ row S.store w, ∃ new ∈ row T.store w,
    new.runStatus = .retryScheduled ∧ new.attemptCount = old.attemptCount + 1

/-- The call comes to its end, with anything but a retryable failure. -/
def Settles (tenantId w : Id) (S : System σ) (c : Call) : Prop :=
  (S.call tenantId w c).flights (c.worker, w) = none ∧ ¬ Retried w S (S.call tenantId w c)

/-- After finitely many calls, and no signal meanwhile, the workflow rests. -/
def ComesToRest (tenantId w : Id) (S : System σ) : Prop :=
  Eventually (System.call tenantId w) (Settles tenantId w) (Rests w) S

end System

/-! ## What a move leaves to do -/

/-- The states an advance may leave for one where the workflow does not rest. -/
def steppingStates : List WorkflowState :=
  [.received, .reviewPending, .publicationPending, .notificationPending]

def stepsLeft (state : WorkflowState) : Nat := if state ∈ steppingStates then 1 else 0

namespace WorkflowInstance

variable {x : Surroundings} {inst new : WorkflowInstance} {signals : List WorkflowSignal}
  {consumed : List Id} {frozen : FrozenProposedCommand}

/-- An advance of the type does something in this state. -/
def Handled (inst : WorkflowInstance) : Prop := inst.workflowState ∈ handledStates inst.workflowType

instance (inst : WorkflowInstance) : Decidable inst.Handled := inferInstanceAs (Decidable (_ ∈ _))

/-- The workflow has come one of its steps further. -/
structure StepsOn (inst new : WorkflowInstance) : Prop where
  handled : new.workflowState ∈ handledStates inst.workflowType
  fewer : stepsLeft new.workflowState < stepsLeft inst.workflowState

theorem stepsOn_of_eq {state next : WorkflowState} (hstate : inst.workflowState = state)
    (hnext : new.workflowState = next) (hfrom : state ∈ steppingStates) (hto : next ∉ steppingStates)
    (hhandled : next ∈ handledStates inst.workflowType) : inst.StepsOn new := by
  refine ⟨hnext ▸ hhandled, ?_⟩
  rw [hstate, hnext, stepsLeft, stepsLeft, if_pos hfrom, if_neg hto]
  exact Nat.zero_lt_one

/-- After an automatic step the workflow rests, or it has come further. -/
theorem automatic_progress (h : (new.workflowState, new.runStatus) ∈
    automaticSteps inst.workflowType inst.workflowState) :
    new.runStatus ∈ restingRunStatuses ∨ inst.StepsOn new := by
  have hrests : ∀ {steps : List (WorkflowState × WorkflowRunStatus)},
      (∀ step ∈ steps, step.2 ∈ restingRunStatuses) →
      (new.workflowState, new.runStatus) ∈ steps → new.runStatus ∈ restingRunStatuses :=
    fun hall hmem => hall _ hmem
  cases hkind : inst.workflowType with
  | expenseToReceipt =>
      cases hstate : inst.workflowState <;> rw [hkind, hstate] at h
      case received =>
        rcases List.mem_cons.mp h with heq | h
        · refine Or.inr (stepsOn_of_eq hstate (Prod.mk.inj heq).1 (.head _) (by decide) ?_)
          exact hkind ▸ .tail _ (.head _)
        · exact Or.inl (hrests (by decide) h)
      all_goals exact Or.inl (hrests (by decide) h)
  | correction =>
      cases hstate : inst.workflowState <;> rw [hkind, hstate] at h
      all_goals exact Or.inl (hrests (by decide) h)
  | scheduledDigest =>
      cases hstate : inst.workflowState <;> rw [hkind, hstate] at h
      case received =>
        rcases List.mem_cons.mp h with heq | h
        · obtain ⟨_, hstatus⟩ := Prod.mk.inj heq
          exact Or.inl (hstatus ▸ terminal_rests (.tail _ (.head _)))
        · obtain heq := List.mem_singleton.mp h
          refine Or.inr (stepsOn_of_eq hstate (Prod.mk.inj heq).1 (.head _) (by decide) ?_)
          exact hkind ▸ .tail _ (.tail _ (.head _))
      all_goals exact Or.inl (hrests (by decide) h)

/-- So it does once the command of its gate is executed. -/
theorem succeeded_progress {payload : Payload} (hlive : inst.workflowType ≠ .scheduledDigest)
    (hgate : gateOf inst.workflowType payload = some inst.workflowState)
    (hstate : new.workflowState = (succeeded x inst payload).workflowState)
    (hstatus : new.runStatus = (succeeded x inst payload).runStatus) :
    new.runStatus ∈ restingRunStatuses ∨ inst.StepsOn new := by
  have hcommitted : WorkflowState.ledgerCommitted ∉ steppingStates := by decide
  unfold gateOf at hgate
  split at hgate
  · rename_i hkind
    refine Or.inr (stepsOn_of_eq (Option.some.inj hgate).symm hstate (.tail _ (.head _)) hcommitted ?_)
    exact hkind ▸ (by decide : WorkflowState.ledgerCommitted ∈ handledStates .expenseToReceipt)
  · rename_i hkind
    by_cases hemail : inst.context.sendEmail = true
    · rw [succeeded, if_pos hemail] at hstate
      refine Or.inr (stepsOn_of_eq (Option.some.inj hgate).symm hstate (.tail _ (.tail _ (.head _)))
        (by decide : WorkflowState.published ∉ steppingStates) ?_)
      exact hkind ▸ (by decide : WorkflowState.published ∈ handledStates .expenseToReceipt)
    · rw [succeeded, if_neg hemail] at hstatus
      exact Or.inl (hstatus ▸ terminal_rests (.head _))
  · exact Or.inl (hstatus ▸ terminal_rests (.head _))
  · rename_i hkind
    refine Or.inr (stepsOn_of_eq (Option.some.inj hgate).symm hstate (.tail _ (.head _)) hcommitted ?_)
    exact hkind ▸ (by decide : WorkflowState.ledgerCommitted ∈ handledStates .correction)
  · rename_i hkind
    refine Or.inr (stepsOn_of_eq (Option.some.inj hgate).symm hstate (.tail _ (.head _)) hcommitted ?_)
    exact hkind ▸ (by decide : WorkflowState.ledgerCommitted ∈ handledStates .correction)
  · rename_i hkind
    exact absurd hkind hlive
  · cases hgate

/-- What an advance in a handled state makes of the workflow, one way or the other: there
are fewer steps or fewer signals left to it. -/
theorem Moved.progress (h : inst.Moved x signals consumed new) (hfits : inst.FitsGate)
    (hhandled : inst.Handled) : new.runStatus ∈ restingRunStatuses ∨
      (new.runStatus = .retryScheduled ∧ new.attemptCount = inst.attemptCount + 1) ∨
      inst.StepsOn new ∨
      (new.workflowState = inst.workflowState ∧ ∃ y ∈ signals, y.signalId ∈ consumed) := by
  cases h with
  | rests state wait status decided => exact Or.inl status
  | retries kind gate state wait status attempt => exact Or.inr (Or.inl ⟨status, attempt⟩)
  | spins idle live state wait status => exact absurd hhandled idle
  | ignores gate taken marked state wait status decided =>
      exact Or.inr (Or.inr (Or.inr ⟨state, _, taken, marked⟩))
  | declines gate state =>
      rcases List.mem_cons.mp state with heq | state
      · exact Or.inl ((Prod.mk.inj heq).2 ▸ terminal_rests (.tail _ (.head _)))
      · exact Or.inl ((Prod.mk.inj (List.mem_singleton.mp state)).2 ▸ waitingSignal_rests)
  | executes kind gate waits state status wait =>
      obtain ⟨frozen, hfrozen, hgate⟩ := hfits gate
      obtain rfl := Option.some.inj (waits.symm.trans hfrozen)
      exact (succeeded_progress kind hgate state status).imp_right fun hsteps => Or.inr (Or.inl hsteps)
  | acknowledges kind gate state status wait =>
      refine Or.inr (Or.inr (Or.inl (stepsOn_of_eq gate state (.tail _ (.tail _ (.head _)))
        (by decide : WorkflowState.published ∉ steppingStates) ?_)))
      exact kind ▸ (by decide : WorkflowState.published ∈ handledStates .scheduledDigest)
  | steps step => exact (automatic_progress step).imp_right fun hsteps => Or.inr (Or.inl hsteps)
  | enters gate status waits until_ silent => exact Or.inl (status ▸ waitingSignal_rests)

end WorkflowInstance

/-! ## The steps of a call -/

namespace System

variable {σ : Type} [WorkflowStore σ] {S T : System σ} {inst : WorkflowInstance} {w : Id} {c : Call}
  {f : Flight}

omit [WorkflowStore σ] in
theorem onFlight_of {worker : String} (h : S.flights (worker, w) = some f)
    (g : String × Id → Flight → System σ → System σ) :
    S.onFlight worker w g = g (worker, w) f S := by
  rw [System.onFlight, h]

omit [WorkflowStore σ] in
theorem flights_setFlight (key : String × Id) (o : Option Flight) (S : System σ) :
    (S.setFlight key o).flights key = o :=
  Function.update_self _ _ _

variable [Digest] [Json.CharTable]

/-- A write of a flight that is over does nothing. -/
theorem write_over {raised : Option PyExc} {worker utcNow : String}
    (h : S.flights (worker, w) = some ⟨inst, .over raised⟩) :
    S.step (.write worker w utcNow) = S := by
  rw [System.step, onFlight_of h]
  rfl

theorem write_none {worker utcNow : String} (h : S.flights (worker, w) = none) :
    S.step (.write worker w utcNow) = S := by
  rw [System.step, System.onFlight, h]

variable [LawfulWorkflowStore σ]

variable {read : WorkflowInstance}

omit [Digest] [Json.CharTable] in
theorem get_read (hrow : row S.store w = some inst) (hread : inst.SameWorkflow read) :
    WorkflowStore.get S.store read.tenantId read.workflowId = some inst := by
  rw [← hread.tenantId, ← hread.workflowId, id_of_row hrow]
  exact get_eq_some.mpr ⟨hrow, rfl⟩

/-- With the workflow in hand, whatever was read of it, a call takes the signals, if its gate
wants them, and runs the advance on the row. -/
theorem run_advances (hrow : row S.store w = some inst) (hread : inst.SameWorkflow read)
    (hflight : S.flights (c.worker, w) = some ⟨read, .claimed⟩) :
    ∃ (U : System σ) (signals : List WorkflowSignal) (o : Option Flight),
      U = S.setFlight (c.worker, w) o ∧
      (∀ y ∈ signals, y ∈ signalsOf S.store w ∧ y.consumed = false) ∧
      (inst.takesSignals = false → signals = []) ∧
      run System.step S (c.advances w) = U.runAdvance (c.worker, w) inst signals c.x := by
  have hid : inst.workflowId = w := id_of_row hrow
  have hgot : S.step (.get c.worker w) = S.setFlight (c.worker, w) (some ⟨inst, .got⟩) := by
    rw [System.step, onFlight_of hflight]
    dsimp only [System.getRow]
    rw [get_read hrow hread]
  rw [Call.advances, run_cons, run_cons, run_cons, run_nil, hgot]
  generalize hB : S.setFlight (c.worker, w) (some ⟨inst, .got⟩) = B
  have hBstore : B.store = S.store := hB ▸ rfl
  have hBflight : B.flights (c.worker, w) = some ⟨inst, .got⟩ := hB ▸ flights_setFlight _ _ _
  by_cases htakes : inst.takesSignals = true
  · have htook : B.step (.take c.worker w) = B.setFlight (c.worker, w)
        (some ⟨inst, .took (takeUnconsumedSignals inst.tenantId w S.store)⟩) := by
      rw [System.step, onFlight_of hBflight]
      dsimp only [System.takeSignals]
      rw [if_pos htakes, hBstore, hid]
    rw [htook, System.step, onFlight_of (flights_setFlight _ _ _)]
    refine ⟨_, _, some ⟨inst, .took (takeUnconsumedSignals inst.tenantId w S.store)⟩, ?_,
      fun y hy => ?_, fun hno => ?_, rfl⟩
    · rw [← hB]
      exact congrArg (fun flights => { S with flights }) (Function.update_idem _ _ _)
    · exact take_sound hy
    · cases htakes.symm.trans hno
  · have htook : B.step (.take c.worker w) = B := by
      rw [System.step, onFlight_of hBflight]
      dsimp only [System.takeSignals]
      rw [if_neg htakes]
    rw [htook, System.step, onFlight_of hBflight]
    dsimp only [System.runFlight]
    rw [if_neg htakes]
    exact ⟨B, [], _, hB.symm, fun y hy => absurd hy List.not_mem_nil, fun _ => rfl, rfl⟩

/-- A call takes the signals, if its gate wants them, and runs the advance on the row. -/
theorem run_reads (hrow : row S.store w = some inst) :
    ∃ (U : System σ) (signals : List WorkflowSignal), U.store = S.store ∧
      (∀ y ∈ signals, y ∈ signalsOf S.store w ∧ y.consumed = false) ∧
      (inst.takesSignals = false → signals = []) ∧
      run System.step S (c.reads inst.tenantId w) =
        U.runAdvance (c.worker, w) inst signals c.x := by
  have hpump : S.step (.pump c.worker inst.tenantId w) =
      S.setFlight (c.worker, w) (some ⟨inst, .claimed⟩) := by
    rw [System.step, get_eq_some.mpr ⟨hrow, rfl⟩]
  have hreads : run System.step S (c.reads inst.tenantId w) =
      run System.step (S.setFlight (c.worker, w) (some ⟨inst, .claimed⟩)) (c.advances w) := by
    rw [← hpump]
    rfl
  rw [hreads]
  obtain ⟨U, signals, o, rfl, htaken, hnone, hrun⟩ :=
    run_advances (S := S.setFlight (c.worker, w) (some ⟨inst, .claimed⟩)) (c := c) hrow (.refl inst)
      (flights_setFlight _ _ _)
  exact ⟨(S.setFlight (c.worker, w) (some ⟨inst, .claimed⟩)).setFlight (c.worker, w) o, signals, rfl,
    htaken, hnone, hrun⟩

/-- … which ends with an outcome, or raises. -/
theorem reads_end (hrow : row S.store w = some inst) :
    row (run System.step S (c.reads inst.tenantId w)).store = row S.store ∧
    signalsOf (run System.step S (c.reads inst.tenantId w)).store = signalsOf S.store ∧
    ((∃ signals outcome, (run System.step S (c.reads inst.tenantId w)).flights (c.worker, w) =
        some ⟨inst, .ran signals outcome⟩ ∧ outcome.Moved c.x inst signals ∧
        ∀ y ∈ signals, y ∈ signalsOf S.store w ∧ y.consumed = false) ∨
      ∃ exc, (run System.step S (c.reads inst.tenantId w)).flights (c.worker, w) =
        some ⟨inst, .over (some exc)⟩) := by
  obtain ⟨U, signals, hstore, htaken, -, hrun⟩ := run_reads (c := c) hrow
  rw [hrun]
  refine ⟨hstore ▸ rows_runAdvance, hstore ▸ signals_runAdvance, ?_⟩
  rw [System.runAdvance]
  split
  · rename_i outcome a hadvance
    exact Or.inl ⟨signals, outcome, flights_setFlight _ _ _, advanceOnce_moved _ _ _ hadvance, htaken⟩
  · rename_i exc a hadvance
    exact Or.inr ⟨exc, flights_setFlight _ _ _⟩

/-! ### The writes of an advance -/

/-- The outcome has been written: the row is what the advance has made of it, and the
signals it handled are consumed. -/
structure Written (S T : System σ) (x : Surroundings) (inst : WorkflowInstance)
    (signals : List WorkflowSignal) (w : Id) (new : WorkflowInstance) : Prop where
  row : row T.store w = some new
  same : new.SameWorkflow inst
  moved : ∃ consumed, (∃ written, inst.Moved x signals consumed written ∧ written.SameCursor new) ∧
    Marks inst.tenantId consumed (signalsOf S.store w) (signalsOf T.store w)

/-- How the writes of a call end: the outcome is written, or the store has refused it. -/
def WritesEnd (S T : System σ) (x : Surroundings) (inst : WorkflowInstance)
    (signals : List WorkflowSignal) (worker : String) (w : Id) : Prop :=
  (T.flights (worker, w) = some ⟨inst, .over none⟩ ∧ ∃ new, S.Written T x inst signals w new) ∨
  ∃ exc, T.flights (worker, w) = some ⟨inst, .over (some exc)⟩ ∧ row T.store w = some inst ∧
    MarkedFrom (signalsOf S.store w) (signalsOf T.store w)

variable {worker utcNow : String} {x : Surroundings} {signals : List WorkflowSignal}
  {outcome : Outcome}

/-- A write that has nothing to mark. -/
theorem write_end (utcNow : String) (hS : S.Sound) (hrow : row S.store w = some inst)
    (hflight : S.flights (worker, w) = some ⟨inst, .ran signals outcome⟩)
    (hmoved : outcome.Moved x inst signals) (hlive : inst.runStatus ∉ terminalRunStatuses)
    (hmark : outcome.mark = none) :
    S.WritesEnd (S.step (.write worker w utcNow)) x inst signals worker w := by
  have hid : inst.workflowId = w := id_of_row hrow
  have hfollows : outcome.Follows inst := (hS.flights _ _ hflight).phase
  rw [System.step, onFlight_of hflight]
  dsimp only [System.writeFlight, System.writeOutcome]
  rw [hmark]
  dsimp only
  split
  · rename_i bundle hwrite
    have hhands : outcome.written = some bundle.instance_ := by rw [Outcome.written, hwrite]
    have hsame : bundle.instance_.SameWorkflow inst := (hfollows _ hhands).same
    have hbundle : bundle.workflowId = w := hsame.workflowId.trans hid
    cases hcall : commitAdvance utcNow bundle S.store with
    | error exc => exact Or.inr ⟨exc, flights_setFlight _ _ _, hrow, .refl _⟩
    | ok s =>
        obtain ⟨⟨old, new, hold, _, hnew, hcursor, hkeeps⟩, _, hmarked, -⟩ := commit_ok hcall
        have hmarks := commit_marks hcall
        rw [hbundle] at hold hnew hmarks
        obtain rfl := Option.some.inj (hrow.symm.trans hold)
        have hconsumed : outcome.consumed = bundle.consumeSignals.map (·.1) := by
          rw [Outcome.consumed, hwrite]
        refine Or.inl ⟨flights_setFlight _ _ _, new, hnew, (hkeeps hsame).symm.trans hsame,
          outcome.consumed, ⟨_, (hmoved.written _ hhands).1, hcursor⟩, ?_⟩
        rw [hconsumed, ← show bundle.tenantId = inst.tenantId from hsame.tenantId]
        exact .of_commit (hmarked w) hmarks
  · rename_i written hwrite
    have hhands : outcome.written = some written := by rw [Outcome.written, hwrite]
    have hsame : written.SameWorkflow inst := (hfollows _ hhands).same
    have hwritten : written.workflowId = w := hsame.workflowId.trans hid
    cases hcall : updateInstance utcNow written S.store with
    | error exc => exact Or.inr ⟨exc, flights_setFlight _ _ _, hrow, .refl _⟩
    | ok s =>
        obtain ⟨old, new, hold, _, hnew, hcursor, hkeeps, _, hsignals, -⟩ := update_ok hcall
        rw [hwritten] at hold hnew
        obtain rfl := Option.some.inj (hrow.symm.trans hold)
        have hconsumed : outcome.consumed = [] := by rw [Outcome.consumed, hwrite]
        refine Or.inl ⟨flights_setFlight _ _ _, new, hnew, (hkeeps hsame).symm.trans hsame,
          outcome.consumed, ⟨_, (hmoved.written _ hhands).1, hcursor⟩, ?_⟩
        rw [hconsumed]
        exact .of_nil (marked_of_eq hsignals w)
  · rename_i hwrite
    exact absurd (hmoved.nothing (by rw [Outcome.written, hwrite])) hlive

theorem writes_end (hS : S.Begun) (hrow : row S.store w = some inst)
    (hflight : S.flights (c.worker, w) = some ⟨inst, .ran signals outcome⟩)
    (hmoved : outcome.Moved x inst signals) (hlive : inst.runStatus ∉ terminalRunStatuses) :
    S.WritesEnd (run System.step S (c.writes w)) x inst signals c.worker w := by
  rw [Call.writes, run_cons, run_cons, run_nil]
  cases hmark : outcome.mark with
  | none =>
      have hfirst := write_end c.utcNow hS.sound hrow hflight hmoved hlive hmark
      rcases hfirst with ⟨hover, hwritten⟩ | ⟨exc, hover, hrefused⟩
      · rw [write_over hover]
        exact Or.inl ⟨hover, hwritten⟩
      · rw [write_over hover]
        exact Or.inr ⟨exc, hover, hrefused⟩
  | some signalId =>
      obtain ⟨hrows, -, hmarked⟩ := mark_ok (σ := σ) inst.tenantId signalId
        SignalConsumeResult.rejectedInvalid.value S.store
      have hnext : S.step (.write c.worker w c.utcNow) =
          (S.withStore (markSignalConsumed inst.tenantId signalId
            SignalConsumeResult.rejectedInvalid.value S.store)).setFlight (c.worker, w)
              (some ⟨inst, .ran signals { outcome with mark := none }⟩) := by
        rw [System.step, onFlight_of hflight]
        dsimp only [System.writeFlight, System.writeOutcome]
        rw [hmark]
      have hsound := (hS.step (.write c.worker w c.utcNow)).sound
      rw [hnext] at hsound ⊢
      have hsecond := write_end (x := x) c.utcNow hsound
        ((congrFun hrows w).trans hrow) (flights_setFlight _ _ _) (hmoved.marking none) hlive rfl
      rcases hsecond with ⟨hover, new, hwritten⟩ | ⟨exc, hover, hstored, hsignals⟩
      · obtain ⟨consumed, hmoves, hmarks⟩ := hwritten.moved
        exact Or.inl ⟨hover, new, hwritten.row, hwritten.same, consumed, hmoves,
          hmarks.after (hmarked w)⟩
      · exact Or.inr ⟨exc, hover, hstored, marked_trans (hmarked w) hsignals⟩

/-! ### What the worker makes of it -/

omit [Digest] [Json.CharTable] in
theorem signals_append (s : σ) (utcNow : String) (tenantId v : Id) (events : List WorkflowEventWrite) :
    signalsOf (settle s (appendEvents utcNow tenantId v events s)) = signalsOf s := by
  cases hcall : appendEvents utcNow tenantId v events s with
  | error exc => rfl
  | ok s' => exact (append_ok hcall).2.2.1

/-- The worker's own change is written, or refused. -/
theorem change_end (hS : S.Begun) {change : WorkflowWorker.Change}
    (hflight : S.flights (c.worker, w) = some ⟨inst, .changing change⟩)
    (hrow : row S.store w = some inst) :
    (run System.step S (c.writes w)).flights (c.worker, w) ≠ none ∨
    ∃ new, row (run System.step S (c.writes w)).store w = some new ∧
      change.inst.SameCursor new ∧ new.SameWorkflow inst ∧
      signalsOf (run System.step S (c.writes w)).store = signalsOf S.store := by
  have hid : inst.workflowId = w := id_of_row hrow
  have hfollows : inst.Follows change.inst := (hS.sound.flights _ _ hflight).phase
  have hchange : change.inst.workflowId = w := hfollows.same.workflowId.trans hid
  rw [Call.writes, run_cons, run_cons, run_nil]
  generalize hA : S.step (.write c.worker w c.utcNow) = A
  rw [System.step, onFlight_of hflight] at hA
  dsimp only [System.writeFlight] at hA
  cases hcall : updateInstance c.utcNow change.inst S.store with
  | error exc =>
      rw [hcall] at hA
      have hflightA : A.flights (c.worker, w) = some ⟨inst, .over (some exc)⟩ :=
        hA ▸ flights_setFlight _ _ _
      rw [write_over hflightA, hflightA]
      exact Or.inl (by rintro ⟨⟩)
  | ok s =>
      obtain ⟨old, new, hold, _, hnew, hcursor, hkeeps, _, hsignals, -⟩ := update_ok hcall
      rw [hchange] at hold hnew
      obtain rfl := Option.some.inj (hrow.symm.trans hold)
      have hsame : new.SameWorkflow inst := (hkeeps hfollows.same).symm.trans hfollows.same
      rw [hcall] at hA
      have hstoreA : A.store = s := hA ▸ rfl
      have hflightA : A.flights (c.worker, w) = change.event.map fun e => ⟨inst, .noting e⟩ := by
        rw [← hA]
        refine (flights_setFlight _ _ _).trans ?_
        rw [Option.map_map]
        rfl
      cases hevent : change.event with
      | none =>
          rw [hevent] at hflightA
          rw [write_none hflightA, hstoreA]
          exact Or.inr ⟨new, hnew, hcursor, hsame, hsignals⟩
      | some event =>
          rw [hevent] at hflightA
          rw [System.step, onFlight_of hflightA]
          dsimp only [System.writeFlight]
          have hkept : ∀ old, row s w = some old → ∃ noted, row (settle s
              (appendEvents c.utcNow inst.tenantId inst.workflowId [event] s)) w = some noted ∧
                noted.SameWorkflow old ∧ old.SameCursor noted := (append_kept w).1
          obtain ⟨noted, hnoted, hsame', hcursor'⟩ := hkept new hnew
          rw [hstoreA]
          exact Or.inr ⟨noted, hnoted, hcursor.trans hcursor', hsame'.trans hsame,
            (signals_append _ _ _ _ _).trans hsignals⟩

/-- What a call leaves: the flight has not ended, or the row is there and is like this. -/
def CallEnds (S T : System σ) (worker : String) (w : Id) (inst : WorkflowInstance)
    (P : WorkflowInstance → Prop) : Prop :=
  T.flights (worker, w) ≠ none ∨ ∃ new, row T.store w = some new ∧ new.SameWorkflow inst ∧
    signalsOf T.store = signalsOf S.store ∧ P new

theorem look_changing (hS : S.Begun) {change : WorkflowWorker.Change} {P : WorkflowInstance → Prop}
    (hrow : row S.store w = some inst)
    (hlook : S.step (.look c.worker w c.cfg c.nowIso c.nextRunAt) =
      S.setFlight (c.worker, w) (some ⟨inst, .changing change⟩))
    (hP : ∀ new, change.inst.SameCursor new → P new) :
    S.CallEnds (run System.step S (c.looks w)) c.worker w inst P := by
  have hnext := hS.step (.look c.worker w c.cfg c.nowIso c.nextRunAt)
  have hlooks : run System.step S (c.looks w) =
      run System.step (S.step (.look c.worker w c.cfg c.nowIso c.nextRunAt)) (c.writes w) := rfl
  rw [hlook] at hnext hlooks
  rw [hlooks]
  rcases change_end hnext (flights_setFlight _ _ _) hrow with hraised | ⟨new, hnew, hcursor, hrest⟩
  · exact Or.inl hraised
  · exact Or.inr ⟨new, hnew, hrest.1, hrest.2, hP new hcursor⟩

omit [LawfulWorkflowStore σ] in
/-- There is nothing for the worker to write. -/
theorem looks_nothing (hlook : S.step (.look c.worker w c.cfg c.nowIso c.nextRunAt) =
    S.setFlight (c.worker, w) none) :
    run System.step S (c.looks w) = S.setFlight (c.worker, w) none := by
  have hnone : (S.setFlight (c.worker, w) none).flights (c.worker, w) = none :=
    flights_setFlight _ _ _
  rw [Call.looks, run_cons, run_cons, run_cons, run_nil, hlook, write_none hnone, write_none hnone]

theorem look_returned (hflight : S.flights (c.worker, w) = some ⟨read, .over none⟩)
    (hrow : row S.store w = some inst) (hread : inst.SameWorkflow read) :
    S.step (.look c.worker w c.cfg c.nowIso c.nextRunAt) = S.setFlight (c.worker, w)
      ((WorkflowWorker.settleRetry c.cfg c.nowIso c.nextRunAt inst).map
        fun change => ⟨inst, .changing change⟩) := by
  rw [System.step, onFlight_of hflight]
  dsimp only [System.lookAt]
  rw [get_read hrow hread]
  rfl

theorem looks_returned (hS : S.Begun)
    (hflight : S.flights (c.worker, w) = some ⟨read, .over none⟩)
    (hrow : row S.store w = some inst) (hread : inst.SameWorkflow read) :
    S.CallEnds (run System.step S (c.looks w)) c.worker w inst fun new =>
      new.runStatus ∈ restingRunStatuses ∨ inst.SamePlace new ∧
        new.runStatus = inst.runStatus ∧ new.attemptCount = inst.attemptCount := by
  have hlook := look_returned (c := c) hflight hrow hread
  cases hsettle : WorkflowWorker.settleRetry c.cfg c.nowIso c.nextRunAt inst with
  | none =>
      rw [hsettle] at hlook
      rw [looks_nothing hlook]
      exact Or.inr ⟨inst, hrow, .refl inst, rfl, Or.inr ⟨.refl inst, rfl, rfl⟩⟩
  | some change =>
      rw [hsettle] at hlook
      refine look_changing hS hrow hlook fun new hcursor => ?_
      rw [WorkflowWorker.settleRetry] at hsettle
      split at hsettle
      · cases hsettle
      split at hsettle
      · obtain rfl := Option.some.inj hsettle
        exact Or.inl (hcursor.runStatus ▸ terminal_rests (.tail _ (.tail _ (.head _))))
      · obtain rfl := Option.some.inj hsettle
        have hplace : inst.SamePlace { inst with nextRunAt := some c.nextRunAt } :=
          ⟨rfl, rfl, rfl, rfl⟩
        exact Or.inr ⟨hplace.trans hcursor.samePlace, hcursor.runStatus.symm,
          hcursor.attemptCount.symm⟩

theorem look_raised {exc : PyExc} (hflight : S.flights (c.worker, w) = some ⟨read, .over (some exc)⟩)
    (hrow : row S.store w = some inst) (hread : inst.SameWorkflow read) :
    S.step (.look c.worker w c.cfg c.nowIso c.nextRunAt) = S.setFlight (c.worker, w)
      (some ⟨inst, .changing
        (WorkflowWorker.handleProcessError c.cfg c.nowIso c.nextRunAt exc inst)⟩) := by
  rw [System.step, onFlight_of hflight]
  dsimp only [System.lookAt]
  rw [get_read hrow hread]
  rfl

theorem looks_raised (hS : S.Begun) {exc : PyExc}
    (hflight : S.flights (c.worker, w) = some ⟨read, .over (some exc)⟩)
    (hrow : row S.store w = some inst) (hread : inst.SameWorkflow read) :
    S.CallEnds (run System.step S (c.looks w)) c.worker w inst fun new =>
      new.runStatus ∈ restingRunStatuses ∨
        new.runStatus = .retryScheduled ∧ new.attemptCount = inst.attemptCount + 1 := by
  refine look_changing hS hrow (look_raised hflight hrow hread) fun new hcursor => ?_
  rw [WorkflowWorker.handleProcessError] at hcursor
  split at hcursor
  · exact Or.inl (hcursor.runStatus ▸ terminal_rests (.tail _ (.tail _ (.head _))))
  · exact Or.inr ⟨hcursor.runStatus.symm, hcursor.attemptCount.symm⟩

/-! ## In a handled state -/

omit [LawfulWorkflowStore σ] in
theorem call_eq (S : System σ) (c : Call) (tenantId : Id) : S.call tenantId w c =
    run System.step (run System.step (run System.step S (c.reads tenantId w)) (c.writes w))
      (c.looks w) := by
  rw [System.call, Call.actions, run_append, run_append]

omit [Digest] [Json.CharTable] [LawfulWorkflowStore σ] in
theorem not_retried {new : WorkflowInstance} (hrow : row S.store w = some inst)
    (hnew : row T.store w = some new) (h : ¬ Retried w S T) :
    ¬ (new.runStatus = .retryScheduled ∧ new.attemptCount = inst.attemptCount + 1) :=
  fun hretried => h ⟨inst, hrow, new, hnew, hretried⟩

/-- A call that settles lets the workflow rest, or leaves it with less to do. -/
theorem call_progress (hS : S.Begun) (hqueued : S.Queued) (hfits : S.Everywhere FitsGate)
    (hrow : row S.store w = some inst) (hhandled : inst.Handled)
    (hawake : inst.runStatus ∉ restingRunStatuses) (hsettles : Settles inst.tenantId w S c) :
    Rests w (S.call inst.tenantId w c) ∨
      ∃ new, row (S.call inst.tenantId w c).store w = some new ∧ new.SameWorkflow inst ∧
        new.Handled ∧
        unconsumed (signalsOf (S.call inst.tenantId w c).store w) + stepsLeft new.workflowState <
          unconsumed (signalsOf S.store w) + stepsLeft inst.workflowState := by
  obtain ⟨hover, hretried⟩ := hsettles
  obtain ⟨hrows, hsignals, hreads⟩ := reads_end (c := c) hrow
  rw [call_eq] at hover hretried ⊢
  have hread : (run System.step S (c.reads inst.tenantId w)).Begun := hS.run _
  have hraised : ∀ {B : System σ} {exc : PyExc}, B.Begun →
      B.flights (c.worker, w) = some ⟨inst, .over (some exc)⟩ → row B.store w = some inst →
      (run System.step B (c.looks w)).flights (c.worker, w) = none →
      ¬ Retried w S (run System.step B (c.looks w)) → Rests w (run System.step B (c.looks w)) := by
    intro B exc hB hflight hrowB hover hretried
    rcases looks_raised hB hflight hrowB (.refl inst) with hstuck | ⟨new, hnew, -, -, hstatus⟩
    · exact absurd hover hstuck
    · rcases hstatus with hrests | hagain
      · exact ⟨new, hnew, hrests⟩
      · exact absurd hagain (not_retried hrow hnew hretried)
  generalize run System.step S (c.reads inst.tenantId w) = A at *
  have hrowA : row A.store w = some inst := (congrFun hrows w).trans hrow
  rcases hreads with ⟨signals, outcome, hran, hmoved, htaken⟩ | ⟨exc, hflight⟩
  · have hlive : inst.runStatus ∉ terminalRunStatuses := fun h => hawake (terminal_rests h)
    have hend := writes_end (c := c) hread hrowA hran hmoved hlive
    have hwrite : (run System.step A (c.writes w)).Begun := hread.run _
    generalize run System.step A (c.writes w) = B at *
    rcases hend with ⟨hflight, mid, hwritten⟩ | ⟨exc, hflight, hrowB, -⟩
    · rcases looks_returned hwrite hflight hwritten.row hwritten.same with
        hstuck | ⟨new, hnew, hsame, hsame', hlook⟩
      · exact absurd hover hstuck
      rcases hlook with hrests | ⟨hplace, hstatus, hattempt⟩
      · exact Or.inl ⟨new, hnew, hrests⟩
      obtain ⟨consumed, ⟨written, hmoves, hcursor⟩, hmarks⟩ := hwritten.moved
      have hstate : new.workflowState = written.workflowState :=
        hplace.state.trans hcursor.workflowState.symm
      have hstatus' : new.runStatus = written.runStatus := hstatus.trans hcursor.runStatus.symm
      have hattempt' : new.attemptCount = written.attemptCount :=
        hattempt.trans hcursor.attemptCount.symm
      have hworkflow : new.SameWorkflow inst := hsame.trans hwritten.same
      rw [hsignals] at hmarks
      have hfewer : unconsumed (signalsOf B.store w) ≤ unconsumed (signalsOf S.store w) :=
        unconsumed_le hmarks.marked
      rcases hmoves.progress (hfits.rows w inst hrow) hhandled with
        hrests | hagain | hsteps | ⟨hstays, y, hy, hlisted⟩
      · exact Or.inl ⟨new, hnew, hstatus' ▸ hrests⟩
      · exact absurd ⟨hstatus'.trans hagain.1, hattempt'.trans hagain.2⟩
          (not_retried hrow hnew hretried)
      · refine Or.inr ⟨new, hnew, hworkflow, ?_, ?_⟩
        · rw [Handled, hworkflow.workflowType, hstate]
          exact hsteps.handled
        · rw [hsame', hstate]
          exact Nat.add_lt_add_of_le_of_lt hfewer hsteps.fewer
      · refine Or.inr ⟨new, hnew, hworkflow, ?_, ?_⟩
        · rw [Handled, hworkflow.workflowType, hstate, hstays]
          exact hhandled
        · obtain ⟨hqueue, hleft⟩ := htaken y hy
          obtain ⟨inst', hinst', htenant⟩ := hqueued w y hqueue
          obtain rfl := Option.some.inj (hrow.symm.trans hinst')
          rw [hsame', hstate, hstays]
          exact Nat.add_lt_add_right (hmarks.unconsumed_lt hqueue hleft htenant hlisted) _
    · exact Or.inl (hraised hwrite hflight hrowB hover hretried)
  · have hwrites : run System.step A (c.writes w) = A := by
      rw [Call.writes, run_cons, run_cons, run_nil, write_over hflight, write_over hflight]
    rw [hwrites] at hover hretried ⊢
    exact Or.inl (hraised hread hflight hrowA hover hretried)

/-- What calls to a workflow may rely on. -/
structure Orderly (S : System σ) : Prop where
  begun : S.Begun
  queued : S.Queued
  fits : S.Everywhere FitsGate

theorem Orderly.run (h : S.Orderly) (actions : List Action) : (run System.step S actions).Orderly :=
  ⟨h.begun.run actions, h.queued.run h.begun actions, h.fits.run fits_placeInvariant h.begun actions⟩

theorem Fresh.orderly (h : S.Fresh) : S.Orderly :=
  ⟨h.begun, h.queued, h.everywhere fits_placeInvariant []⟩

theorem comesToRest_of_handled (h : S.Orderly) (hrow : row S.store w = some inst)
    (hhandled : inst.Handled) : S.ComesToRest inst.tenantId w := by
  let I : System σ → Prop := fun T => T.Orderly ∧
    ∃ new, row T.store w = some new ∧ new.SameWorkflow inst ∧ new.Handled
  let measure : System σ → Nat := fun T => unconsumed (signalsOf T.store w) +
    (row T.store w).elim 0 fun new => stepsLeft new.workflowState
  have hI : I S := ⟨h, inst, hrow, .refl inst, hhandled⟩
  refine Eventually.of_measure (I := I) measure (fun T c hT hawake hsettles => ?_) hI
  obtain ⟨hT, old, hold, hsame, hhandled⟩ := hT
  rw [← hsame.tenantId] at hsettles ⊢
  have hprogress := call_progress hT.begun hT.queued hT.fits hold hhandled
    (fun hrests => hawake ⟨old, hold, hrests⟩) hsettles
  rcases hprogress with hrests | ⟨new, hnew, hsame', hhandled', hless⟩
  · exact Or.inl hrests
  · refine Or.inr ⟨⟨hT.run _, new, hnew, hsame'.trans hsame, hhandled'⟩, ?_⟩
    dsimp only [measure]
    rw [hnew, hold]
    exact hless

/-! ## In any other state -/

theorem advanceOnce_idle (hidle : ¬ inst.Handled) (hlive : inst.runStatus ∉ terminalRunStatuses)
    (a : Advance) : ∃ outcome, (advanceOnce x inst signals).run a = .ok outcome a ∧
      outcome.mark = none ∧ (outcome.write = .update (inst.pendingAt x.clockIso) ∨
        outcome.write = .commit { instance_ := (inst.pendingAt x.clockIso).touch x.clockIso }) := by
  have hother : ∀ {kind state}, inst.workflowType = kind → inst.workflowState = state →
      state ∉ handledStates kind := by
    rintro kind state rfl rfl
    exact hidle
  rw [advanceOnce]
  cases hkind : inst.workflowType with
  | correction =>
      have hcorrection : (advanceCorrection x inst signals).run a =
          .ok (commit x (inst.pendingAt x.clockIso)) a := by
        have hget : ∀ k : Advance → AdvanceM Outcome, (get >>= k).run a = (k a).run a :=
          fun _ => rfl
        rw [advanceCorrection, hget, if_neg hlive]
        cases hstate : inst.workflowState
        all_goals first
          | exact absurd (by decide) (hother hkind hstate)
          | rfl
      exact ⟨_, hcorrection, rfl, Or.inr rfl⟩
  | scheduledDigest =>
      have hdigest : advanceDigest x inst signals = .ok (commit x (inst.pendingAt x.clockIso)) := by
        rw [advanceDigest, if_neg hlive]
        cases hstate : inst.workflowState
        all_goals first
          | exact absurd (by decide) (hother hkind hstate)
          | rfl
      dsimp only
      rw [hdigest]
      exact ⟨_, rfl, rfl, Or.inr rfl⟩
  | expenseToReceipt =>
      cases hstate : inst.workflowState
      all_goals first
        | exact absurd (by decide) (hother hkind hstate)
        | dsimp only
          rw [if_neg hlive]
          exact ⟨_, rfl, rfl, Or.inl rfl⟩

/-- The store takes what such an advance hands over. -/
theorem write_idle (hrow : row S.store w = some inst)
    (hflight : S.flights (worker, w) = some ⟨inst, .ran signals outcome⟩)
    (hmark : outcome.mark = none) (hwrite : outcome.write = .update (inst.pendingAt x.clockIso) ∨
      outcome.write = .commit { instance_ := (inst.pendingAt x.clockIso).touch x.clockIso }) :
    (S.step (.write worker w utcNow)).flights (worker, w) = some ⟨inst, .over none⟩ ∧
    ∃ new, row (S.step (.write worker w utcNow)).store w = some new ∧ new.SameWorkflow inst ∧
      new.workflowState = inst.workflowState ∧ new.runStatus = .pending := by
  have hid : inst.workflowId = w := id_of_row hrow
  have hrow' : row S.store inst.workflowId = some inst := hid.symm ▸ hrow
  have hpending : (inst.pendingAt x.clockIso).SameWorkflow inst := ⟨rfl, rfl, rfl, rfl, rfl, rfl⟩
  have htouched : ((inst.pendingAt x.clockIso).touch x.clockIso).SameWorkflow inst :=
    ⟨rfl, rfl, rfl, rfl, rfl, rfl⟩
  rw [System.step, onFlight_of hflight]
  dsimp only [System.writeFlight, System.writeOutcome]
  rw [hmark]
  rcases hwrite with hwrite | hwrite
  · obtain ⟨s, hcall⟩ : ∃ s, updateInstance utcNow (inst.pendingAt x.clockIso) S.store = .ok s :=
      update_takes hrow' rfl (by rintro ⟨⟩)
    rw [hwrite]
    dsimp only
    rw [hcall]
    obtain ⟨old, new, hold, _, hnew, hcursor, hkeeps, -⟩ := update_ok hcall
    obtain rfl := Option.some.inj (hrow'.symm.trans hold)
    exact ⟨flights_setFlight _ _ _, new, hid ▸ hnew, (hkeeps hpending).symm.trans hpending,
      hcursor.workflowState.symm, hcursor.runStatus.symm⟩
  · obtain ⟨s, hcall⟩ : ∃ s, commitAdvance utcNow
        { instance_ := (inst.pendingAt x.clockIso).touch x.clockIso } S.store = .ok s :=
      commit_takes hrow' rfl (by rintro ⟨⟩) rfl
    rw [hwrite]
    dsimp only
    rw [hcall]
    obtain ⟨⟨old, new, hold, _, hnew, hcursor, hkeeps⟩, -⟩ := commit_ok hcall
    obtain rfl := Option.some.inj (hrow'.symm.trans hold)
    exact ⟨flights_setFlight _ _ _, new, hid ▸ hnew, (hkeeps htouched).symm.trans htouched,
      hcursor.workflowState.symm, hcursor.runStatus.symm⟩

/-- A call in a state the type does not handle makes the workflow due again, where it is. -/
theorem call_spins (hrow : row S.store w = some inst) (hidle : ¬ inst.Handled)
    (hawake : inst.runStatus ∉ restingRunStatuses) (c : Call) :
    Settles inst.tenantId w S c ∧
      ∃ new, row (S.call inst.tenantId w c).store w = some new ∧ new.SameWorkflow inst ∧
        ¬ new.Handled ∧ new.runStatus = .pending := by
  have hlive : inst.runStatus ∉ terminalRunStatuses := fun h => hawake (terminal_rests h)
  obtain ⟨U, signals, hstore, -, -, hrun⟩ := run_reads (c := c) hrow
  obtain ⟨outcome, hadvance, hmark, hwrite⟩ :=
    @advanceOnce_idle inst _ _ c.x signals hidle hlive ⟨U.executorFor inst, []⟩
  have hran : U.runAdvance (c.worker, w) inst signals c.x = (U.land inst
      ⟨U.executorFor inst, []⟩).setFlight (c.worker, w) (some ⟨inst, .ran signals outcome⟩) := by
    rw [System.runAdvance, hadvance]
  have hrowA : row (U.land inst ⟨U.executorFor inst, []⟩).store w = some inst := by
    refine (congrFun (row_withReceipts _ _) w).trans ?_
    rw [hstore]
    exact hrow
  have hcall : S.call inst.tenantId w c = run System.step (run System.step
      (U.runAdvance (c.worker, w) inst signals c.x) (c.writes w)) (c.looks w) := by
    rw [call_eq, hrun]
  rw [hran] at hcall
  obtain ⟨hflightB, mid, hmid, hsame, hstate, hstatus⟩ :=
    @write_idle _ _ (((U.land inst ⟨U.executorFor inst, []⟩)).setFlight (c.worker, w)
      (some ⟨inst, .ran signals outcome⟩)) inst w _ _ _ c.worker c.utcNow c.x signals outcome
      hrowA (flights_setFlight _ _ _) hmark hwrite
  rw [Call.writes, run_cons, run_cons, run_nil, write_over hflightB] at hcall
  generalize System.step (((U.land inst ⟨U.executorFor inst, []⟩)).setFlight (c.worker, w)
      (some ⟨inst, .ran signals outcome⟩)) (.write c.worker w c.utcNow) = B at *
  have hlook : B.step (.look c.worker w c.cfg c.nowIso c.nextRunAt) =
      B.setFlight (c.worker, w) none := by
    rw [look_returned hflightB hmid hsame, WorkflowWorker.settleRetry, if_pos (by rw [hstatus]; rintro ⟨⟩)]
    rfl
  rw [looks_nothing hlook] at hcall
  rw [Settles, hcall]
  refine ⟨⟨flights_setFlight _ _ _, ?_⟩, mid, hmid, hsame, ?_, hstatus⟩
  · rintro ⟨old, hold, new, hnew, hretry, _⟩
    obtain rfl := Option.some.inj (hmid.symm.trans hnew)
    cases hstatus.symm.trans hretry
  · rw [Handled, hsame.workflowType, hstate]
    exact hidle

theorem not_comesToRest (hrow : row S.store w = some inst) (hidle : ¬ inst.Handled)
    (hawake : inst.runStatus ∉ restingRunStatuses) : ¬ S.ComesToRest inst.tenantId w := by
  let I : System σ → Prop := fun T => ∃ new, row T.store w = some new ∧ new.SameWorkflow inst ∧
    ¬ new.Handled ∧ new.runStatus ∉ restingRunStatuses
  have hI : I S := ⟨inst, hrow, .refl inst, hidle, hawake⟩
  refine not_eventually (I := I) (fun T hT => ?_) (fun T hT => ?_) hI
  · obtain ⟨new, hnew, -, -, hawake⟩ := hT
    rintro ⟨old, hold, hrests⟩
    obtain rfl := Option.some.inj (hnew.symm.trans hold)
    exact hawake hrests
  · obtain ⟨old, hold, hsame, hidle, hawake⟩ := hT
    -- any call will do
    obtain ⟨hsettles, new, hnew, hsame', hidle', hstatus⟩ := call_spins hold hidle hawake Sample.call
    rw [hsame.tenantId] at hsettles hnew
    refine ⟨Sample.call, hsettles, new, hnew, hsame'.trans hsame, hidle', ?_⟩
    rw [hstatus]
    decide

/-! ## The rule -/

/-- Whatever has happened to a workflow, it comes to rest by calls alone exactly if it rests
already or is in a state its type handles. -/
theorem comes_to_rest_iff (hS : S.Fresh) (actions : List Action)
    (hrow : row (run System.step S actions).store w = some inst) :
    (run System.step S actions).ComesToRest inst.tenantId w ↔
      inst.runStatus ∈ restingRunStatuses ∨ inst.Handled := by
  constructor
  · intro hrests
    by_contra hneither
    obtain ⟨hawake, hidle⟩ := not_or.mp hneither
    exact not_comesToRest hrow hidle hawake hrests
  · rintro (hrests | hhandled)
    · exact ⟨0, fun _ _ _ => ⟨[], List.nil_prefix, inst, hrow, hrests⟩⟩
    · exact comesToRest_of_handled (hS.orderly.run actions) hrow hhandled

end System

section Sample

attribute [local instance] Digest.plain Json.CharTable.all

namespace System

/-- An expense without evidence is started and advanced once, and an operator resubmits it. -/
def Sample.resubmitted : List Action :=
  .start (Sample.at 20 0)
      (.expense { tenantId := "org", expenseRow := {}, preImportedExpenseId := some "expense" }) ::
    (Sample.call.actions "org" "wf_20_0" ++
      [.operate (Sample.at 22 0) "org" "wf_20_0" (some .resubmit) []])

theorem Sample.resubmitted_stored :
    (row (run System.step Sample.system Sample.resubmitted).store "wf_20_0").isSome = true := by
  decide +kernel

end System

open ImpactRelay.System in
theorem resubmitted_comes_to_rest_iff : ∃ inst,
    row (run System.step Sample.system Sample.resubmitted).store "wf_20_0" = some inst ∧
    ((run System.step Sample.system Sample.resubmitted).ComesToRest inst.tenantId "wf_20_0" ↔
      inst.runStatus ∈ restingRunStatuses ∨ inst.Handled) :=
  have hrow := (Option.some_get Sample.resubmitted_stored).symm
  ⟨_, hrow, comes_to_rest_iff Sample.system_fresh Sample.resubmitted hrow⟩

open ImpactRelay.System in
/-- It is due again after every call, in NEEDS_INFORMATION, where nothing is done for it. -/
theorem resubmitted_spins : ¬ ∀ (S : System SqlWorkflowStore) (actions : List Action) (w : Id)
    (inst : WorkflowInstance), S.Fresh → row (run System.step S actions).store w = some inst →
    (run System.step S actions).ComesToRest inst.tenantId w := by
  intro h
  have hidle : ∀ inst ∈ row (run System.step Sample.system Sample.resubmitted).store "wf_20_0",
      ¬ inst.Handled ∧ inst.runStatus ∉ restingRunStatuses := by
    decide +kernel
  have hrow := (Option.some_get Sample.resubmitted_stored).symm
  obtain ⟨hunhandled, hawake⟩ := hidle _ hrow
  exact not_comesToRest hrow hunhandled hawake
    (h Sample.system Sample.resubmitted "wf_20_0" _ Sample.system_fresh hrow)

end Sample

end ImpactRelay
