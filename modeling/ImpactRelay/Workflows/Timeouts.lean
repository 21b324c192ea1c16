/-
# `Workflows.Timeouts` — what a sweep has expired is over

A sweep takes the workflow out of its gate: the business state becomes
NEEDS_INFORMATION, and the wait is put aside.  No advance leads out of that state and
none executes anything there; a signal only wakes the workflow.  So as long as nobody
acts on an instance read before the sweep, the workflow stays parked and the command
that was frozen is never executed.
-/
import ImpactRelay.Workflows.LegalMoves

namespace ImpactRelay

open Raise WorkflowStore LawfulWorkflowStore WorkflowInstance WorkflowRuntime

/-! ## A parked workflow -/

section Parked

variable {x : Surroundings} {inst new : WorkflowInstance} {signals : List WorkflowSignal}
  {consumed : List Id} {state : WorkflowState} {frozen : FrozenProposedCommand}
  {deadline : Option String}

theorem needsInformation_not_gate : WorkflowState.needsInformation ∉ humanGateStates := by decide

theorem entersGate_not_parked (h : inst.EntersGate x state frozen deadline) :
    inst.workflowState ≠ .needsInformation := by
  intro hparked
  cases h with
  | review kind from_ =>
      rw [hparked] at from_
      exact absurd from_ (by decide)
  | publication kind from_ => exact nomatch from_.symm.trans hparked
  | notification kind from_ => exact nomatch from_.symm.trans hparked
  | correction kind from_ command => exact nomatch from_.symm.trans hparked
  | digest kind from_ command => exact nomatch from_.symm.trans hparked

/-- No advance leads out of NEEDS_INFORMATION. -/
theorem moved_parked (h : inst.Moved x signals consumed new)
    (hparked : inst.workflowState = .needsInformation) :
    new.workflowState = .needsInformation := by
  have hgate : inst.workflowState ∉ humanGateStates := hparked ▸ needsInformation_not_gate
  cases h with
  | rests state wait status decided => exact state.trans hparked
  | retries kind gate state wait status => exact state.trans hparked
  | spins idle live state wait status => exact state.trans hparked
  | ignores gate taken marked state wait status decided => exact state.trans hparked
  | declines gate state => exact absurd gate hgate
  | executes kind gate waits state status wait => exact absurd gate hgate
  | acknowledges kind gate state status wait => exact nomatch gate.symm.trans hparked
  | steps step =>
      rw [hparked] at step
      cases htype : inst.workflowType <;> rw [htype] at step <;>
        exact absurd step List.not_mem_nil
  | enters gate status waits until_ silent => exact absurd hparked (entersGate_not_parked gate)

variable [Digest] [Json.CharTable]

/-- Nor does one execute anything there, or change anything else. -/
theorem advanceOnce_readOnly (hparked : inst.workflowState = .needsInformation) :
    ReadOnly (advanceOnce x inst signals) := by
  intro a
  rw [advanceOnce]
  split
  · rw [advanceCorrection, after_get_bind]
    split
    · rfl
    · rw [hparked]
      rfl
  · exact ReadOnly.okOrRaise _ a
  · rw [hparked]
    dsimp only
    split <;> rfl

end Parked

/-- The flight acts on the instance it has read: it is an advance, or writes the row by
itself. -/
def Phase.acts : Phase → Bool
  | .changing _ => true
  | phase => phase.advances

namespace System

variable {σ : Type} [WorkflowStore σ]

/-- Whoever acts on a workflow acts on it as it is stored: an advance where it executes
and where it writes, and a worker where it writes a backoff or a dead letter. -/
def ActsOnStored (S : System σ) : Action → Prop
  | .run worker w _ | .write worker w _ =>
      ∀ f ∈ S.flights (worker, w), f.phase.acts → S.Current f
  | _ => True

instance (S : System σ) (action : Action) : Decidable (S.ActsOnStored action) :=
  match action with
  | .run worker w _ | .write worker w _ =>
      inferInstanceAs (Decidable (∀ f ∈ S.flights (worker, w), f.phase.acts → S.Current f))
  | .start .. | .approve .. | .operate .. | .claim .. | .pump .. | .get .. | .take .. | .look ..
  | .drop .. | .sweep .. => isTrue trivial

/-- The workflow is in NEEDS_INFORMATION. -/
def Parked (w : Id) (S : System σ) : Prop :=
  ∃ inst, row S.store w = some inst ∧ inst.workflowState = .needsInformation

variable [Digest] [Json.CharTable] [LawfulWorkflowStore σ] {S : System σ} {action : Action} {w : Id}

omit [Digest] [Json.CharTable] [LawfulWorkflowStore σ] in
theorem current_row {f : Flight} {old : WorkflowInstance} (h : S.Current f)
    (hold : row S.store f.inst.workflowId = some old) :
    f.inst.workflowState = old.workflowState := by
  rw [Current, hold] at h
  exact (Option.some.inj h).symm

theorem Parked.step (h : S.Parked w) (hS : S.Begun) (hstored : S.ActsOnStored action) :
    (S.step action).Parked w := by
  obtain ⟨old, hold, hparked⟩ := h
  obtain ⟨new, hnew, _, hmove⟩ := (row_step hS.sound action).kept w old hold
  refine ⟨new, hnew, ?_⟩
  cases hmove with
  | keeps cursor => exact cursor.workflowState.symm.trans hparked
  | wakes status place => exact place.state.trans hparked
  | leases taken => exact taken ▸ hparked
  | swept sweeps swept => exact absurd (hparked ▸ swept.2.1) needsInformation_not_gate
  | advanced writes flight phase hands read same cursor =>
      subst writes
      rename_i worker utcNow v f signals outcome written
      have hcurrent : f.inst.workflowState = old.workflowState := by
        refine current_row (hstored f flight ?_) (read.workflowId ▸ id_of_row hold ▸ hold)
        rw [phase]
        rfl
      have hrecorded := hS.recorded _ f flight
      rw [Flight.Recorded, phase] at hrecorded
      obtain ⟨x, hmoved, -⟩ := hrecorded
      exact cursor.workflowState.symm.trans
        (moved_parked (hmoved.written written hands).1 (hcurrent.trans hparked))
  | changed writes flight phase read same cursor =>
      subst writes
      rename_i worker utcNow v f change
      have hcurrent : f.inst.workflowState = old.workflowState := by
        refine current_row (hstored f flight ?_) (read.workflowId ▸ id_of_row hold ▸ hold)
        rw [phase]
        rfl
      have hrecorded := hS.recorded _ f flight
      rw [Flight.Recorded, phase] at hrecorded
      exact cursor.workflowState.symm.trans (hrecorded.1.state.trans (hcurrent.trans hparked))

/-! ## What a step executes -/

/-- Where something is executed, a worker runs an advance. -/
def Executes (S : System σ) (action : Action) (e : Executed) : Prop :=
  ∃ worker v x f signals, action = .run worker v x ∧ S.flights (worker, v) = some f ∧
    f.phase.advances = true ∧ e.inst = f.inst ∧
    e.execution ∈ (Raise.after (advanceOnce x f.inst signals) ⟨S.executorFor f.inst, []⟩).executed

omit [LawfulWorkflowStore σ] in
theorem executed_runAdvance {key : String × Id} {inst : WorkflowInstance}
    {signals : List WorkflowSignal} {x : Surroundings} :
    (S.runAdvance key inst signals x).executed = S.executed ++
      (Raise.after (advanceOnce x inst signals) ⟨S.executorFor inst, []⟩).executed.map
        fun e => ⟨inst, e⟩ := by
  rw [System.runAdvance]
  split
  · rename_i outcome a hrun
    rw [Returns.after hrun]
    rfl
  · rename_i exc a hrun
    rw [Raises.after hrun]
    rfl

omit [WorkflowStore σ] [LawfulWorkflowStore σ] [Digest] [Json.CharTable] in
theorem executes_of_same {T : System σ} {P : Executed → Prop} (h : T.executed = S.executed) :
    ∃ new, T.executed = S.executed ++ new ∧ ∀ e ∈ new, P e :=
  ⟨[], h.trans (List.append_nil _).symm, fun _ he => absurd he List.not_mem_nil⟩

omit [LawfulWorkflowStore σ] in
theorem executes_run {worker : String} {v : Id} {x : Surroundings} :
    ∃ new, (S.step (.run worker v x)).executed = S.executed ++ new ∧
      ∀ e ∈ new, S.Executes (.run worker v x) e := by
  rw [System.step, System.onFlight]
  split
  swap
  · exact executes_of_same rfl
  rename_i f hflight
  have hrun : ∀ signals, f.phase.advances = true →
      ∃ new, (S.runAdvance (worker, v) f.inst signals x).executed = S.executed ++ new ∧
        ∀ e ∈ new, S.Executes (.run worker v x) e := by
    intro signals hadvances
    refine ⟨_, executed_runAdvance, fun e he => ?_⟩
    obtain ⟨execution, hexecution, rfl⟩ := List.mem_map.mp he
    exact ⟨worker, v, x, f, signals, rfl, hflight, hadvances, rfl, hexecution⟩
  rw [System.runFlight]
  split
  · rename_i hphase
    split
    · exact executes_of_same rfl
    · exact hrun [] (hphase ▸ rfl)
  · rename_i signals hphase
    exact hrun signals (hphase ▸ rfl)
  · exact executes_of_same rfl

/-- A part of the system that is neither its store, nor a flight, nor a queue. -/
structure Aside {β : Type} (p : System σ → β) : Prop where
  store : ∀ s T, p (T.withStore s) = p T
  flight : ∀ key f T, p (T.setFlight key f) = p T
  queue : ∀ (s : σ) (enqueued : List WorkflowSignal) T,
    p { T with store := s, enqueued := enqueued } = p T

omit [WorkflowStore σ] [LawfulWorkflowStore σ] [Digest] [Json.CharTable] in
theorem aside_executed : Aside (σ := σ) (·.executed) := ⟨fun _ _ => rfl, fun _ _ _ => rfl, fun _ _ _ => rfl⟩

omit [WorkflowStore σ] [LawfulWorkflowStore σ] [Digest] [Json.CharTable] in
theorem aside_ledgers : Aside (σ := σ) (·.ledgers) := ⟨fun _ _ => rfl, fun _ _ _ => rfl, fun _ _ _ => rfl⟩

section Frame

variable {β : Type} {p : System σ → β}

omit [WorkflowStore σ] [LawfulWorkflowStore σ] [Digest] [Json.CharTable] in
theorem Aside.settled (hp : Aside p) {key : String × Id} {inst : WorkflowInstance}
    {next : Option Phase} {result : Except PyExc σ} : p (S.settled key inst next result) = p S := by
  cases result with
  | error exc => exact hp.flight _ _ _
  | ok s => exact (hp.flight _ _ _).trans (hp.store _ _)

omit [LawfulWorkflowStore σ] [Digest] [Json.CharTable] in
theorem Aside.writeFlight (hp : Aside p) {key : String × Id} {f : Flight} {utcNow : String} :
    p (System.writeFlight key f utcNow S) = p S := by
  rw [System.writeFlight]
  split
  · rw [System.writeOutcome]
    split
    · exact (hp.flight _ _ _).trans (hp.store _ _)
    split
    · exact hp.settled
    · exact hp.settled
    · exact hp.flight _ _ _
  · exact hp.settled
  · exact (hp.flight _ _ _).trans (hp.store _ _)
  · rfl

omit [WorkflowStore σ] [LawfulWorkflowStore σ] [Digest] [Json.CharTable] in
theorem Aside.onFlight {worker : String} {v : Id}
    {f : String × Id → Flight → System σ → System σ}
    (h : ∀ key flight, p (f key flight S) = p S) : p (S.onFlight worker v f) = p S := by
  rw [System.onFlight]
  split
  · exact h _ _
  · rfl

omit [LawfulWorkflowStore σ] [Digest] [Json.CharTable] in
theorem Aside.enqueue (hp : Aside p) {x : Surroundings} {signal : WorkflowSignal} :
    p (S.enqueue x signal) = p S := by
  rw [System.enqueue]
  split
  · rfl
  · exact hp.queue _ _ _

omit [LawfulWorkflowStore σ] [Digest] [Json.CharTable] in
theorem Aside.claim (hp : Aside p) {worker : String} {limit : Nat} {now : Datetime} {ttl : Nat} :
    p (S.claim worker limit now ttl) = p S := by
  rw [System.claim]
  split
  · rfl
  rename_i claimed s hcall
  suffices hfold : ∀ (insts : List WorkflowInstance) (T : System σ),
      p (insts.foldl (fun T inst =>
        T.setFlight (worker, inst.workflowId) (some ⟨inst, .claimed⟩)) T) = p T from
    (hfold claimed _).trans (hp.store _ _)
  intro insts
  induction insts with
  | nil => exact fun T => rfl
  | cons inst rest ih => exact fun T => (ih _).trans (hp.flight _ _ _)

omit [LawfulWorkflowStore σ] in
/-- Only the advance a worker runs can change it. -/
theorem Aside.step (hp : Aside p) (hidle : ∀ worker w x, action ≠ .run worker w x) :
    p (S.step action) = p S := by
  cases action with
  | start x request =>
      rw [System.step, System.start]
      split
      · rfl
      · split
        · rfl
        · exact hp.store _ _
  | approve x tenantId w approval =>
      rw [System.step]
      split
      · exact hp.enqueue
      · rfl
  | operate x tenantId w signalType fields =>
      rw [System.step]
      split
      · rfl
      · exact hp.enqueue
  | claim worker limit now ttl => exact hp.claim
  | pump worker tenantId w =>
      rw [System.step]
      split
      · exact hp.flight _ _ _
      · rfl
  | get worker w =>
      refine Aside.onFlight fun key f => ?_
      rw [System.getRow]
      split
      · split <;> exact hp.flight _ _ _
      · rfl
  | take worker w =>
      refine Aside.onFlight fun key f => ?_
      rw [System.takeSignals]
      split
      · split
        · exact hp.flight _ _ _
        · rfl
      · rfl
  | run worker w x => exact absurd rfl (hidle worker w x)
  | write worker w utcNow =>
      rw [System.step]
      exact Aside.onFlight fun key f => hp.writeFlight
  | look worker w cfg nowIso nextRunAt =>
      rw [System.step]
      exact Aside.onFlight fun key f => hp.flight _ _ _
  | drop worker w => exact hp.flight _ _ _
  | sweep now => exact hp.store _ _

end Frame

omit [LawfulWorkflowStore σ] in
/-- Nothing is executed but by the advance a worker runs. -/
theorem step_executes (action : Action) : ∃ new, (S.step action).executed = S.executed ++ new ∧
    ∀ e ∈ new, S.Executes action e := by
  by_cases hrun : ∃ worker w x, action = .run worker w x
  · obtain ⟨worker, w, x, rfl⟩ := hrun
    exact executes_run
  · have hidle : ∀ worker w x, action ≠ .run worker w x :=
      fun worker w x h => hrun ⟨worker, w, x, h⟩
    exact executes_of_same (aside_executed.step hidle)

/-! ## After the timeout -/

omit [LawfulWorkflowStore σ] in
/-- A step has nothing executed for a parked workflow. -/
theorem Parked.executes_other (h : S.Parked w) (hstored : S.ActsOnStored action) {e : Executed}
    (he : S.Executes action e) : e.inst.workflowId ≠ w := by
  obtain ⟨worker, v, x, f, signals, rfl, hflight, hadvances, hinst, hexecution⟩ := he
  intro hid
  obtain ⟨old, hold, hparked⟩ := h
  have hacts : f.phase.acts = true := by
    cases hphase : f.phase <;> rw [hphase] at hadvances <;> first | rfl | exact hadvances
  have hstate : f.inst.workflowState = .needsInformation := by
    rw [current_row (hstored f hflight hacts) (hinst ▸ hid ▸ hold)]
    exact hparked
  rw [advanceOnce_readOnly hstate] at hexecution
  exact absurd hexecution List.not_mem_nil

/-- A parked workflow stays parked and has nothing executed any more. -/
theorem Parked.run {later : List Action} (h : S.Parked w) (hS : S.Begun)
    (hstored : Along System.step ActsOnStored S later) :
    ∃ new, (run System.step S later).executed = S.executed ++ new ∧
      ∀ e ∈ new, e.inst.workflowId ≠ w := by
  induction later generalizing S with
  | nil => exact ⟨[], (List.append_nil _).symm, fun _ he => absurd he List.not_mem_nil⟩
  | cons action rest ih =>
      obtain ⟨hacts, hrest⟩ := hstored
      obtain ⟨first, hfirst, hother⟩ := step_executes (S := S) action
      obtain ⟨more, hmore, hlater⟩ := ih (h.step hS hacts) (hS.step action) hrest
      refine ⟨first ++ more, ?_, fun e he => ?_⟩
      · rw [run_cons, hmore, hfirst, List.append_assoc]
      · rcases List.mem_append.mp he with hnow | hthen
        · exact h.executes_other hacts (hother e hnow)
        · exact hlater e hthen

/-- The sweep has expired the wait of the workflow. -/
def Expires (S : System σ) (now : Datetime) (w : Id) : Prop :=
  row (S.step (.sweep now)).store w ≠ row S.store w

/-- Once a sweep has expired the wait, nothing is executed for the workflow, neither what
was frozen there nor anything else. -/
def NeverBindsAgain (S : System σ) : Prop :=
  ∀ (past : List Action) (now : Datetime) (later : List Action) (w : Id),
    (run System.step S past).Expires now w →
    Along System.step ActsOnStored S (past ++ .sweep now :: later) →
    ∃ new, (run System.step S (past ++ .sweep now :: later)).executed =
        (run System.step S past).executed ++ new ∧
      ∀ e ∈ new, e.inst.workflowId ≠ w

theorem parked_of_expires {now : Datetime} (h : S.Expires now w) :
    (S.step (.sweep now)).Parked w := by
  rcases sweep_rows now S.store w with heq | ⟨old, new, hold, hnew, hswept⟩
  · exact absurd heq h
  · obtain ⟨_, _, nowIso, descriptor, seq, rfl⟩ := hswept
    exact ⟨_, hnew, rfl⟩

theorem neverBindsAgain (hS : S.Fresh) : S.NeverBindsAgain := by
  intro past now later w hexpires hstored
  have hbegun : (run System.step S past).Begun := hS.begun.run past
  obtain ⟨-, -, hlater⟩ := along_append.mp hstored
  obtain ⟨new, hnew, hother⟩ := (parked_of_expires hexpires).run (hbegun.step _) hlater
  refine ⟨new, ?_, hother⟩
  rw [run_append, run_cons, hnew]
  rfl

omit [LawfulWorkflowStore σ] in
/-- On either store, whatever arrives late and in whatever order. -/
theorem swept_never_binds :
    (∀ S : System InMemoryWorkflowStore, S.Fresh → S.NeverBindsAgain) ∧
      ∀ S : System SqlWorkflowStore, S.Fresh → S.NeverBindsAgain :=
  ⟨fun _ hS => neverBindsAgain hS, fun _ hS => neverBindsAgain hS⟩

end System

section Sample

attribute [local instance] Digest.plain Json.CharTable.all

namespace System

/-- A reversal is proposed, and eight days later nobody has answered. -/
def Sample.unanswered : List Action :=
  .start (Sample.at 20 0)
      (.correction { tenantId := "org", expenseId := "expense", reason := "duplicate" }) ::
    Sample.advance 21 0

/-- The answer comes then. -/
def Sample.answered : List Action :=
  .approve (Sample.at 22 691200) "org" "wf_corr_20_0" Sample.approval :: Sample.advance 23 691200

end System

open ImpactRelay.System in
theorem unanswered_never_binds : ∃ new,
    (run System.step Sample.system (Sample.unanswered ++
        .sweep (noonNextDay.addSeconds 691200) :: Sample.answered)).executed =
      (run System.step Sample.system Sample.unanswered).executed ++ new ∧
      ∀ e ∈ new, e.inst.workflowId ≠ "wf_corr_20_0" := by
  refine swept_never_binds.2 Sample.system Sample.system_fresh Sample.unanswered
    (noonNextDay.addSeconds 691200) Sample.answered "wf_corr_20_0" ?_ (by decide +kernel)
  intro hsame
  have hstates : ((row ((run System.step Sample.system Sample.unanswered).step
        (.sweep (noonNextDay.addSeconds 691200))).store "wf_corr_20_0").map (·.workflowState),
      (row (run System.step Sample.system Sample.unanswered).store "wf_corr_20_0").map
        (·.workflowState)) = (some .needsInformation, some .reviewPending) := by
    decide +kernel
  rw [hsame] at hstates
  obtain ⟨hafter, hbefore⟩ := Prod.mk.inj hstates
  exact nomatch hafter.symm.trans hbefore

end Sample

end ImpactRelay
