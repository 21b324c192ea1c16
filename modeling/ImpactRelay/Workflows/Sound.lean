/-
# `Workflows.Sound` — what holds in every state of the system

Three things that any interleaving keeps: a stored workflow stays the workflow it is
and the command frozen in it is its tenant's; a queued signal is one that was
enqueued for that workflow and tenant; what a worker holds it has read or taken from
there.  From them: every command executed that needs a human has one behind it
(`Backed`), and its instance has been in the store.

The proof is one lemma for each store call (`Steps`) and one for each step of a
flight; runs follow by `run_invariant`.
-/
import ImpactRelay.Lib.Run
import ImpactRelay.Workflows.Advance
import ImpactRelay.Workflows.System

namespace ImpactRelay

open Raise WorkflowStore WorkflowInstance LawfulWorkflowStore

/-! ## Store calls -/

namespace WorkflowInstance

variable {inst new : WorkflowInstance}

theorem WellFrozen.congr (h : inst.WellFrozen) (hcontext : new.context = inst.context)
    (htenant : new.tenantId = inst.tenantId) : new.WellFrozen := by
  intro wait hwait
  rw [htenant]
  exact h wait (hcontext ▸ hwait)

theorem Follows.of_swept (h : inst.Swept new) : inst.Follows new := by
  obtain ⟨_, _, nowIso, descriptor, seq, rfl⟩ := h
  exact .of_none ⟨rfl, rfl, rfl, rfl, rfl, rfl⟩ rfl

theorem Follows.of_leaseTo (worker lease nowIso : String) :
    inst.Follows (inst.leaseTo worker lease nowIso) :=
  .of_wait ⟨rfl, rfl, rfl, rfl, rfl, rfl⟩ rfl

theorem Follows.refl (inst : WorkflowInstance) : inst.Follows inst := .of_wait (.refl inst) rfl

end WorkflowInstance

section Stores

variable {σ : Type} [WorkflowStore σ]

/-- Every row goes on to a row of the same workflow, and there is none besides, except one
that is well-formed by itself. -/
structure Steps (s s' : σ) : Prop where
  kept : ∀ w old, row s w = some old → ∃ new, row s' w = some new ∧ old.Follows new
  new : ∀ w new, row s' w = some new → row s w = none → new.WellFrozen

theorem Steps.refl (s : σ) : Steps s s := by
  refine ⟨fun w old h => ⟨old, h, .refl old⟩, fun w new h hnone => ?_⟩
  rw [hnone] at h
  exact nomatch h

theorem Steps.of_rows {s s' : σ} (h : row s' = row s) : Steps s s' := by
  refine ⟨fun w old hold => ⟨old, by rw [h, hold], .refl old⟩, fun w new hnew hnone => ?_⟩
  rw [h, hnone] at hnew
  exact nomatch hnew

theorem Steps.of_onlyRow {s s' : σ} {v : Id} {old new : WorkflowInstance} (honly : OnlyRow v s s')
    (hold : row s v = some old) (hnew : row s' v = some new) (hfollows : old.Follows new) :
    Steps s s' := by
  refine ⟨fun w inst hinst => ?_, fun w inst hinst hnone => ?_⟩
  · by_cases hw : w = v
    · subst hw
      rw [hold] at hinst
      exact ⟨new, hnew, Option.some.inj hinst ▸ hfollows⟩
    · exact ⟨inst, (honly w hw).trans hinst, .refl inst⟩
  · by_cases hw : w = v
    · rw [hw, hold] at hnone
      exact nomatch hnone
    · rw [honly w hw, hnone] at hinst
      exact nomatch hinst

variable [LawfulWorkflowStore σ] {s s' : σ}

theorem steps_create {utcNow : String} {inst : WorkflowInstance} (hinst : inst.WellFrozen)
    (h : create utcNow inst s = .ok s') : Steps s s' := by
  obtain ⟨hnone, ⟨new, hnew, hsame, heq⟩, honly, -⟩ := create_ok h
  refine ⟨fun w old hold => ⟨old, ?_, .refl old⟩, fun w stored hstored hw => ?_⟩
  · refine (honly w ?_).trans hold
    rintro rfl
    rw [hnone] at hold
    exact nomatch hold
  · by_cases hid : w = inst.workflowId
    · subst hid
      rw [hnew] at hstored
      have hcontext : new.context = inst.context := by rw [heq]
      exact Option.some.inj hstored ▸ hinst.congr hcontext hsame.tenantId
    · rw [honly w hid, hw] at hstored
      exact nomatch hstored

theorem steps_append {utcNow : String} {tenantId w : Id} {events : List WorkflowEventWrite}
    (h : appendEvents utcNow tenantId w events s = .ok s') : Steps s s' := by
  obtain ⟨⟨old, new, hold, hnew, hcursor, hsame⟩, honly, -⟩ := append_ok h
  exact .of_onlyRow honly hold hnew (.of_wait hsame.symm (congrArg (·.wait) hcursor.context.symm))

omit [LawfulWorkflowStore σ] in
theorem steps_settle {result : Except PyExc σ} (h : ∀ s', result = .ok s' → Steps s s') :
    Steps s (settle s result) := by
  cases result with
  | error e => exact .refl s
  | ok s' => exact h s' rfl

theorem steps_claim {worker : String} {limit : Nat} {now : Datetime} {ttl : Nat}
    {claimed : List WorkflowInstance} (h : claim worker limit now ttl s = .ok (claimed, s')) :
    Steps s s' := by
  obtain ⟨hclaimed, hrest, -⟩ := claim_ok h
  refine ⟨fun w old hold => ?_, fun w new hnew hnone => ?_⟩
  · by_cases hw : ∃ inst ∈ claimed, inst.workflowId = w
    · obtain ⟨inst, hinst, rfl⟩ := hw
      obtain ⟨hnew, old', lease, nowIso, hold', _, rfl⟩ := hclaimed inst hinst
      rw [hold] at hold'
      obtain rfl := Option.some.inj hold'
      exact ⟨_, hnew, .of_leaseTo worker lease nowIso⟩
    · exact ⟨old, (hrest w fun inst hinst hid => hw ⟨inst, hinst, hid⟩).trans hold, .refl old⟩
  · by_cases hw : ∃ inst ∈ claimed, inst.workflowId = w
    · obtain ⟨inst, hinst, rfl⟩ := hw
      obtain ⟨_, old', lease, nowIso, hold', _⟩ := hclaimed inst hinst
      rw [hnone] at hold'
      exact nomatch hold'
    · rw [hrest w fun inst hinst hid => hw ⟨inst, hinst, hid⟩, hnone] at hnew
      exact nomatch hnew

theorem steps_enqueue {utcNow : String} {signal : WorkflowSignal} {status : WorkflowRunStatus}
    {nextRunAt : Datetime} {clear : Bool}
    (h : enqueueSignalAndWake utcNow signal status nextRunAt clear s = .ok s') : Steps s s' := by
  obtain ⟨⟨old, new, hold, _, hnew, _, hsame, _, hcontext, -⟩, honly, -⟩ := enqueue_ok h
  exact .of_onlyRow honly hold hnew (.of_wait hsame.symm (congrArg (·.wait) hcontext))

theorem steps_sweep (now : Datetime) (s : σ) : Steps s (sweepApprovalTimeouts now s).2 := by
  refine ⟨fun w old hold => ?_, fun w new hnew hnone => ?_⟩
  · rcases sweep_rows now s w with heq | ⟨old', new, hold', hnew, hswept⟩
    · exact ⟨old, heq.trans hold, .refl old⟩
    · rw [hold] at hold'
      obtain rfl := Option.some.inj hold'
      exact ⟨new, hnew, .of_swept hswept⟩
  · rcases sweep_rows now s w with heq | ⟨old', _, hold', _⟩
    · rw [heq, hnone] at hnew
      exact nomatch hnew
    · rw [hnone] at hold'
      exact nomatch hold'

/-- An instance that is written over a row of its own workflow. -/
theorem follows_written {inst old new : WorkflowInstance} (hinst : inst.WellFrozen)
    (hsame : inst.SameWorkflow old) (hcursor : inst.SameCursor new)
    (hnew : inst.SameWorkflow old → inst.SameWorkflow new) : old.Follows new := by
  have hsame' : inst.SameWorkflow new := hnew hsame
  exact ⟨hsame'.symm.trans hsame,
    fun _ => hinst.congr hcursor.context.symm hsame'.tenantId.symm⟩

theorem steps_update {utcNow : String} {inst old : WorkflowInstance}
    (hold : row s inst.workflowId = some old) (hinst : inst.WellFrozen)
    (hsame : inst.SameWorkflow old) (h : updateInstance utcNow inst s = .ok s') : Steps s s' := by
  obtain ⟨old', new, hold', _, hnew, hcursor, hsame', honly, -⟩ := update_ok h
  rw [hold] at hold'
  obtain rfl := Option.some.inj hold'
  exact .of_onlyRow honly hold hnew (follows_written hinst hsame hcursor hsame')

theorem steps_commit {utcNow : String} {bundle : AdvanceCommitBundle} {old : WorkflowInstance}
    (hold : row s bundle.workflowId = some old) (hinst : bundle.instance_.WellFrozen)
    (hsame : bundle.instance_.SameWorkflow old) (h : commitAdvance utcNow bundle s = .ok s') :
    Steps s s' := by
  obtain ⟨⟨old', new, hold', _, hnew, hcursor, hsame'⟩, honly, -⟩ := commit_ok h
  rw [hold] at hold'
  obtain rfl := Option.some.inj hold'
  exact .of_onlyRow honly hold hnew (follows_written hinst hsame hcursor hsame')

end Stores

/-! ## The worker's own writes -/

namespace WorkflowWorker

variable {inst : WorkflowInstance} {cfg : WorkerConfig} {nowIso nextRunAt : String} {change : Change}

theorem dead_follows {reason : String} : inst.Follows (dead nowIso reason inst).inst :=
  .of_wait ⟨rfl, rfl, rfl, rfl, rfl, rfl⟩ rfl

theorem exhausted_follows (h : exhausted cfg nowIso inst = some change) :
    inst.Follows change.inst := by
  rw [exhausted] at h
  split at h
  · exact Option.some.inj h ▸ dead_follows
  · exact nomatch h

theorem settleRetry_follows (h : settleRetry cfg nowIso nextRunAt inst = some change) :
    inst.Follows change.inst := by
  rw [settleRetry] at h
  split at h
  · exact nomatch h
  split at h
  · exact Option.some.inj h ▸ dead_follows
  · exact Option.some.inj h ▸ .of_wait ⟨rfl, rfl, rfl, rfl, rfl, rfl⟩ rfl

theorem handleProcessError_follows {exc : PyExc} :
    inst.Follows (handleProcessError cfg nowIso nextRunAt exc inst).inst := by
  rw [handleProcessError]
  split
  · exact .of_wait ⟨rfl, rfl, rfl, rfl, rfl, rfl⟩ rfl
  · exact .of_wait ⟨rfl, rfl, rfl, rfl, rfl, rfl⟩ rfl

end WorkflowWorker

/-! ## The invariant -/

namespace System

section History

variable {σ : Type}

/-- The signal was enqueued for the workflow and its tenant. -/
def Knows (S : System σ) (inst : WorkflowInstance) (x : WorkflowSignal) : Prop :=
  ∃ y ∈ S.enqueued, y.workflowId = inst.workflowId ∧ y.tenantId = inst.tenantId ∧
    y.approvalReceipt = x.approvalReceipt

/-- The human behind an execution at a gate. -/
structure Backed (S : System σ) (e : Executed) : Prop where
  gate : e.inst.takesSignals = true
  signal : ∃ y ∈ S.enqueued, ∃ approval frozen, y.workflowId = e.inst.workflowId ∧
    y.tenantId = e.inst.tenantId ∧ y.approvalReceipt = some approval ∧
    e.inst.context.wait.bind (·.frozenCommand) = some frozen ∧ frozen.tenantId = e.inst.tenantId ∧
    Approves frozen approval ∧ e.execution = ⟨approvedCommand frozen approval, some approval⟩

/-- What a worker may hold. -/
def PhaseSound (S : System σ) (inst : WorkflowInstance) : Phase → Prop
  | .took signals => inst.takesSignals = true ∧ ∀ x ∈ signals, S.Knows inst x
  | .ran _ outcome => outcome.Follows inst
  | .changing change => inst.Follows change.inst
  | _ => True

variable {S S' : System σ} {inst new : WorkflowInstance} {x : WorkflowSignal}

theorem Knows.mono (h : S.Knows inst x) (henqueued : S.enqueued ⊆ S'.enqueued) :
    S'.Knows inst x := by
  obtain ⟨y, hy, hrest⟩ := h
  exact ⟨y, henqueued hy, hrest⟩

theorem Knows.same (h : S.Knows inst x) (hsame : new.SameWorkflow inst) : S.Knows new x := by
  obtain ⟨y, hy, hid, htenant, hreceipt⟩ := h
  exact ⟨y, hy, hid.trans hsame.workflowId.symm, htenant.trans hsame.tenantId.symm, hreceipt⟩

theorem Knows.consumed {result : String} (h : S.Knows inst x) : S.Knows inst (x.consume result) := h

theorem Backed.mono {e : Executed} (h : S.Backed e) (henqueued : S.enqueued ⊆ S'.enqueued) :
    S'.Backed e := by
  obtain ⟨hgate, y, hy, hrest⟩ := h
  exact ⟨hgate, y, henqueued hy, hrest⟩

theorem PhaseSound.mono {phase : Phase} (h : S.PhaseSound inst phase)
    (henqueued : S.enqueued ⊆ S'.enqueued) : S'.PhaseSound inst phase := by
  cases phase with
  | took signals => exact ⟨h.1, fun x hx => (h.2 x hx).mono henqueued⟩
  | ran signals outcome => exact h
  | changing change => exact h
  | _ => exact trivial

/-- What the gate opens for is backed. -/
theorem backed_of_opens {signals : List WorkflowSignal} {e : Execution} (hinst : inst.WellFrozen)
    (hphase : signals ≠ [] → S.PhaseSound inst (.took signals)) (hlicensed : Licensed inst signals e)
    (hneeds : requiresHumanApproval e.command) : S.Backed ⟨inst, e⟩ := by
  obtain ⟨signal, approval, frozen, hopens, he⟩ := hlicensed hneeds
  obtain ⟨hgate, hknows⟩ := hphase (List.ne_nil_of_mem hopens.taken)
  obtain ⟨y, hy, hid, htenant, hreceipt⟩ := hknows signal hopens.taken
  obtain ⟨wait, hwait, hfrozen⟩ := Option.bind_eq_some_iff.mp hopens.waits
  exact ⟨hgate, y, hy, approval, frozen, hid, htenant, hreceipt.trans hopens.receipt, hopens.waits,
    (hinst wait hwait frozen hfrozen).1, hopens.approves, he⟩

end History

variable {σ : Type} [WorkflowStore σ]

structure FlightSound (S : System σ) (f : Flight) : Prop where
  row : ∃ old, row S.store f.inst.workflowId = some old ∧ f.inst.SameWorkflow old
  wellFrozen : f.inst.WellFrozen
  phase : S.PhaseSound f.inst f.phase

structure Sound (S : System σ) : Prop where
  rows : ∀ w inst, WorkflowStore.row S.store w = some inst → inst.WellFrozen
  signals : ∀ w x, x ∈ signalsOf S.store w →
    ∃ inst, WorkflowStore.row S.store w = some inst ∧ S.Knows inst x
  flights : ∀ key f, S.flights key = some f → S.FlightSound f
  executed : ∀ e ∈ S.executed, requiresHumanApproval e.execution.command → S.Backed e

variable {S S' : System σ} {inst new : WorkflowInstance} {x : WorkflowSignal} {f : Flight}

theorem FlightSound.mono (h : S.FlightSound f) (hsteps : Steps S.store S'.store)
    (henqueued : S.enqueued ⊆ S'.enqueued) : S'.FlightSound f := by
  obtain ⟨⟨old, hold, hsame⟩, hfrozen, hphase⟩ := h
  obtain ⟨new, hnew, hfollows⟩ := hsteps.kept _ old hold
  exact ⟨⟨new, hnew, hsame.trans hfollows.same.symm⟩, hfrozen, hphase.mono henqueued⟩

/-- A step that at most marks signals and does not enqueue. -/
theorem Sound.of_steps (h : S.Sound) (hsteps : Steps S.store S'.store)
    (hsignals : ∀ w, MarkedFrom (signalsOf S.store w) (signalsOf S'.store w))
    (henqueued : S'.enqueued = S.enqueued)
    (hexecuted : ∀ e ∈ S'.executed, e ∈ S.executed ∨
      (requiresHumanApproval e.execution.command → S.Backed e))
    (hflights : ∀ key f, S'.flights key = some f → S.flights key = some f ∨ S'.FlightSound f) :
    S'.Sound := by
  have hsub : S.enqueued ⊆ S'.enqueued := henqueued ▸ List.Subset.refl _
  refine ⟨fun w inst hinst => ?_, fun w x hx => ?_, fun key f hf => ?_, fun e he hneeds => ?_⟩
  · cases hold : WorkflowStore.row S.store w with
    | none => exact hsteps.new w inst hinst hold
    | some old =>
        obtain ⟨new, hnew, hfollows⟩ := hsteps.kept w old hold
        rw [hinst] at hnew
        exact Option.some.inj hnew ▸ hfollows.wellFrozen (h.rows w old hold)
  · obtain ⟨x₀, hx₀, hmarked⟩ : ∃ x₀ ∈ signalsOf S.store w, x = x₀ ∨ ∃ r, x = x₀.consume r :=
      (hsignals w).exists_of_mem hx
    obtain ⟨inst, hinst, hknows⟩ := h.signals w x₀ hx₀
    obtain ⟨new, hnew, hfollows⟩ := hsteps.kept w inst hinst
    have hknows' : S.Knows inst x := by
      rcases hmarked with rfl | ⟨r, rfl⟩
      · exact hknows
      · exact hknows.consumed
    exact ⟨new, hnew, (hknows'.same hfollows.same).mono hsub⟩
  · rcases hflights key f hf with hold | hnew
    · exact (h.flights key f hold).mono hsteps hsub
    · exact hnew
  · rcases hexecuted e he with hold | hnew
    · exact (h.executed e hold hneeds).mono hsub
    · exact (hnew hneeds).mono hsub

theorem Sound.setFlight (h : S.Sound) {key : String × Id} {o : Option Flight}
    (ho : ∀ f, o = some f → S.FlightSound f) : (S.setFlight key o).Sound := by
  refine h.of_steps (.refl _) (fun _ => .refl _) rfl (fun _ he => Or.inl he) fun key' f hf => ?_
  have hupdate : Function.update S.flights key o key' = some f := hf
  rw [Function.update_apply] at hupdate
  split at hupdate
  · exact Or.inr ((ho f hupdate).mono (.refl _) (List.Subset.refl _))
  · exact Or.inl hupdate

theorem Sound.withStore (h : S.Sound) {s : σ} (hsteps : Steps S.store s)
    (hsignals : ∀ w, MarkedFrom (signalsOf S.store w) (signalsOf s w)) : (S.withStore s).Sound :=
  h.of_steps hsteps hsignals rfl (fun _ he => Or.inl he) fun _ _ hf => Or.inl hf

/-- A flight of a row, in a phase that holds nothing. -/
theorem Sound.flightSound_row (h : S.Sound) {w : Id} {phase : Phase}
    (hrow : row S.store w = some inst) (hid : inst.workflowId = w)
    (hphase : S.PhaseSound inst phase) : S.FlightSound ⟨inst, phase⟩ :=
  ⟨⟨inst, hid.symm ▸ hrow, .refl inst⟩, h.rows w inst hrow, hphase⟩

theorem FlightSound.phase_of (h : S.FlightSound f) {phase : Phase}
    (hphase : S.PhaseSound f.inst phase) : S.FlightSound ⟨f.inst, phase⟩ :=
  ⟨h.row, h.wellFrozen, hphase⟩

/-! ## Steps -/

variable [LawfulWorkflowStore σ]

theorem started_wellFrozen {x : Surroundings} {request : StartRequest}
    (h : WorkflowRuntime.started x request = .ok inst) : inst.WellFrozen := by
  have hnone : inst.context.wait = none := by
    cases request with
    | expense r => exact Except.ok.inj h ▸ rfl
    | digest r => exact Except.ok.inj h ▸ rfl
    | correction r =>
        rw [WorkflowRuntime.started, WorkflowRuntime.startCorrection] at h
        split at h
        · exact nomatch h
        · exact Except.ok.inj h ▸ rfl
  intro wait hwait
  rw [hnone] at hwait
  exact nomatch hwait

omit [LawfulWorkflowStore σ] in
theorem marked_of_eq {s s' : σ} (h : signalsOf s' = signalsOf s) (w : Id) :
    MarkedFrom (signalsOf s w) (signalsOf s' w) := by
  rw [h]
  exact .refl _

omit [LawfulWorkflowStore σ] in
theorem settle_signals {s : σ} {result : Except PyExc σ}
    (h : ∀ s', result = .ok s' → signalsOf s' = signalsOf s) (w : Id) :
    MarkedFrom (signalsOf s w) (signalsOf (settle s result) w) := by
  cases result with
  | error e => exact .refl _
  | ok s' => exact marked_of_eq (h s' rfl) w

theorem Sound.start (h : S.Sound) (x : Surroundings) (request : StartRequest) :
    (S.start x request).Sound := by
  rw [System.start]
  split
  · exact h
  rename_i inst hstarted
  split
  · exact h
  rename_i s hcreate
  have hcreated : (S.withStore s).Sound :=
    h.withStore (steps_create (started_wellFrozen hstarted) hcreate)
      (marked_of_eq (create_ok hcreate).2.2.2.1)
  exact hcreated.withStore (steps_settle fun s' hs' => steps_append hs')
    (settle_signals fun s' hs' => (append_ok hs').2.2.1)

theorem Sound.enqueue (h : S.Sound) (surroundings : Surroundings) {signal : WorkflowSignal}
    (hfresh : signal.consumed = false ∧ signal.consumeResult = none) :
    (S.enqueue surroundings signal).Sound := by
  rw [System.enqueue]
  split
  · exact h
  rename_i s hcall
  have hsteps : Steps S.store s := steps_enqueue hcall
  obtain ⟨⟨old, new, hold, htenant, hnew, _, hsame, _⟩, honly, hsignals, _⟩ := enqueue_ok hcall
  have hsub : S.enqueued ⊆ S.enqueued ++ [signal] := List.subset_append_left _ _
  refine ⟨fun w inst hinst => ?_, fun w y hy => ?_, fun key f hf => ?_, fun e he hneeds => ?_⟩
  · cases hrow : row S.store w with
    | none => exact hsteps.new w inst hinst hrow
    | some before =>
        obtain ⟨after, hafter, hfollows⟩ := hsteps.kept w before hrow
        rw [show row s w = some inst from hinst] at hafter
        exact Option.some.inj hafter ▸ hfollows.wellFrozen (h.rows w before hrow)
  · have hmem : y ∈ signalsOf s w := hy
    rw [hsignals hfresh.1 hfresh.2 w] at hmem
    have hkeep : y ∈ signalsOf S.store w → ∃ inst, row s w = some inst ∧
        Knows { S with store := s, enqueued := S.enqueued ++ [signal] } inst y := by
      intro hy
      obtain ⟨inst, hinst, hknows⟩ := h.signals w y hy
      obtain ⟨after, hafter, hfollows⟩ := hsteps.kept w inst hinst
      exact ⟨after, hafter, (hknows.same hfollows.same).mono hsub⟩
    split at hmem
    · rename_i hw
      rcases List.mem_append.mp hmem with hy | hy
      · exact hkeep hy
      · obtain rfl := List.mem_singleton.mp hy
        refine ⟨new, hw ▸ hnew, y, List.mem_append_right _ hy, ?_, ?_, rfl⟩
        · exact (id_of_row hnew).symm
        · exact htenant.symm.trans hsame.tenantId
    · exact hkeep hmem
  · exact (h.flights key f hf).mono hsteps hsub
  · exact (h.executed e he hneeds).mono hsub

theorem Sound.claim (h : S.Sound) (worker : String) (limit : Nat) (now : Datetime) (ttl : Nat) :
    (S.claim worker limit now ttl).Sound := by
  rw [System.claim]
  split
  · exact h
  rename_i claimed s hcall
  have hstored : (S.withStore s).Sound :=
    h.withStore (steps_claim hcall) (marked_of_eq (claim_ok hcall).2.2.1)
  have hrows : ∀ inst ∈ claimed, row s inst.workflowId = some inst :=
    fun inst hinst => ((claim_ok hcall).1 inst hinst).1
  -- the flights one after the other, over the one store
  have hflights : ∀ (insts : List WorkflowInstance) (T : System σ), T.Sound → T.store = s →
      insts ⊆ claimed → (insts.foldl (fun T inst =>
        T.setFlight (worker, inst.workflowId) (some ⟨inst, .claimed⟩)) T).Sound := by
    intro insts
    induction insts with
    | nil => exact fun T hT _ _ => hT
    | cons inst rest ih =>
        intro T hT hstore hsub
        have hrow : row T.store inst.workflowId = some inst :=
          hstore ▸ hrows inst (hsub List.mem_cons_self)
        refine ih _ (hT.setFlight fun f hf => ?_) hstore fun i hi => hsub (List.mem_cons_of_mem _ hi)
        exact Option.some.inj hf ▸ hT.flightSound_row hrow rfl trivial
  exact hflights claimed _ hstored rfl (List.Subset.refl _)

omit [LawfulWorkflowStore σ] in
theorem row_of_get {s : σ} {tenantId w : Id} (h : WorkflowStore.get s tenantId w = some inst) :
    row s w = some inst :=
  (get_eq_some.mp h).1

theorem Sound.pump (h : S.Sound) (worker : String) (tenantId w : Id) :
    (match WorkflowStore.get S.store tenantId w with
      | some inst => S.setFlight (worker, w) (some ⟨inst, .claimed⟩)
      | none => S).Sound := by
  split
  · rename_i inst hget
    refine h.setFlight fun f hf => ?_
    exact Option.some.inj hf ▸ h.flightSound_row (row_of_get hget) (id_of_row (row_of_get hget)) trivial
  · exact h

theorem Sound.getRow (h : S.Sound) {key : String × Id} (hf : S.FlightSound f) :
    (System.getRow key f S).Sound := by
  rw [System.getRow]
  split
  · split
    · rename_i inst hget
      refine h.setFlight fun g hg => ?_
      exact Option.some.inj hg ▸
        h.flightSound_row (row_of_get hget) (id_of_row (row_of_get hget)) trivial
    · exact h.setFlight fun g hg => Option.some.inj hg ▸ hf.phase_of trivial
  · exact h

theorem Sound.takeSignals (h : S.Sound) {key : String × Id} (hf : S.FlightSound f) :
    (System.takeSignals key f S).Sound := by
  rw [System.takeSignals]
  split
  · split
    · rename_i htakes
      refine h.setFlight fun g hg => Option.some.inj hg ▸ hf.phase_of ⟨htakes, fun x hx => ?_⟩
      obtain ⟨inst, hinst, hknows⟩ := h.signals _ x (take_sound hx).1
      obtain ⟨old, hold, hsame⟩ := hf.row
      rw [hinst] at hold
      exact hknows.same (Option.some.inj hold ▸ hsame)
    · exact h
  · exact h

variable [Digest] [Json.CharTable]

theorem Sound.runAdvance (h : S.Sound) {key : String × Id} {signals : List WorkflowSignal}
    (hf : S.FlightSound f) (hphase : signals ≠ [] → S.PhaseSound f.inst (.took signals))
    (x : Surroundings) : (S.runAdvance key f.inst signals x).Sound := by
  have hland : ∀ a : Advance, Advance.Licensed f.inst signals a → (S.land f.inst a).Sound := by
    intro a ha
    refine h.of_steps (.of_rows (row_withReceipts _ _))
      (marked_of_eq (signalsOf_withReceipts _ _)) rfl (fun e he => ?_) fun _ _ hg => Or.inl hg
    rcases List.mem_append.mp he with hold | hnew
    · exact Or.inl hold
    · obtain ⟨execution, hexecution, rfl⟩ := List.mem_map.mp hnew
      exact Or.inr (backed_of_opens hf.wellFrozen hphase (ha execution hexecution))
  have hflight : ∀ (a : Advance) (phase : Phase), S.PhaseSound f.inst phase →
      (S.land f.inst a).FlightSound ⟨f.inst, phase⟩ := by
    intro a phase hphase
    exact (hf.phase_of hphase).mono (.of_rows (row_withReceipts _ _)) (List.Subset.refl _)
  have hstart : Advance.Licensed f.inst signals ⟨S.executorFor f.inst, []⟩ :=
    fun _ he => absurd he List.not_mem_nil
  rw [System.runAdvance]
  split
  · rename_i outcome a hrun
    have ha := advanceOnce_licensed.returns hstart hrun
    refine (hland a ha).setFlight fun g hg => Option.some.inj hg ▸ hflight a _ ?_
    exact advanceOnce_follows _ _ _ hrun
  · rename_i exc a hrun
    have ha := advanceOnce_licensed.raises hstart hrun
    exact (hland a ha).setFlight fun g hg => Option.some.inj hg ▸ hflight a _ trivial

theorem Sound.runFlight (h : S.Sound) {key : String × Id} (hf : S.FlightSound f) (x : Surroundings) :
    (System.runFlight key f x S).Sound := by
  rw [System.runFlight]
  split
  · split
    · exact h
    · exact h.runAdvance hf (fun hne => absurd rfl hne) x
  · rename_i signals hphase
    refine h.runAdvance hf (fun _ => ?_) x
    have hsound := hf.phase
    rw [hphase] at hsound
    exact hsound
  · exact h

omit [Digest] [Json.CharTable] [LawfulWorkflowStore σ] in
theorem Sound.settled (h : S.Sound) {key : String × Id} {next : Option Phase}
    {result : Except PyExc σ} (hf : S.FlightSound f)
    (hnext : ∀ phase ∈ next, S.PhaseSound f.inst phase)
    (hsteps : ∀ s, result = .ok s → Steps S.store s)
    (hsignals : ∀ s, result = .ok s → ∀ w, MarkedFrom (signalsOf S.store w) (signalsOf s w)) :
    (S.settled key f.inst next result).Sound := by
  cases result with
  | error exc => exact h.setFlight fun g hg => Option.some.inj hg ▸ hf.phase_of trivial
  | ok s =>
      have hstored : (S.withStore s).Sound := h.withStore (hsteps s rfl) (hsignals s rfl)
      refine hstored.setFlight fun g hg => ?_
      obtain ⟨phase, hphase, rfl⟩ := Option.map_eq_some_iff.mp hg
      exact (hf.phase_of (hnext phase hphase)).mono (hsteps s rfl) (List.Subset.refl _)

omit [Digest] [Json.CharTable] [LawfulWorkflowStore σ] in
/-- An instance a flight hands over is written over its own row. -/
theorem FlightSound.handsOver (hf : S.FlightSound f) (hfollows : f.inst.Follows new) :
    ∃ old, WorkflowStore.row S.store new.workflowId = some old ∧ new.SameWorkflow old ∧
      new.WellFrozen := by
  obtain ⟨old, hold, hsame⟩ := hf.row
  exact ⟨old, hfollows.same.workflowId ▸ hold, hfollows.same.trans hsame,
    hfollows.wellFrozen hf.wellFrozen⟩

omit [Digest] [Json.CharTable] in
theorem Sound.writeOutcome (h : S.Sound) {key : String × Id} {signals : List WorkflowSignal}
    {outcome : Outcome} (hf : S.FlightSound f) (houtcome : outcome.Follows f.inst)
    (utcNow : String) : (S.writeOutcome key f.inst signals outcome utcNow).Sound := by
  have hover : ∀ phase ∈ some (Phase.over none), S.PhaseSound f.inst phase := by
    intro phase hphase
    obtain rfl := Option.mem_some.mp hphase
    exact trivial
  rw [System.writeOutcome]
  split
  · rename_i signalId hmark
    obtain ⟨hrows, -, hmarked⟩ := mark_ok (σ := σ) f.inst.tenantId signalId
      SignalConsumeResult.rejectedInvalid.value S.store
    have hstored := h.withStore (.of_rows hrows) hmarked
    have hnext : S.PhaseSound f.inst (.ran signals { outcome with mark := none }) := houtcome
    refine hstored.setFlight fun g hg => Option.some.inj hg ▸ ?_
    exact (hf.phase_of hnext).mono (.of_rows hrows) (List.Subset.refl _)
  split
  · rename_i bundle hwrite
    obtain ⟨old, hold, hsame, hfrozen⟩ :=
      hf.handsOver (houtcome bundle.instance_ (by rw [Outcome.written, hwrite]))
    exact h.settled hf hover (fun s hs => steps_commit hold hfrozen hsame hs)
      fun s hs => (commit_ok hs).2.2.1
  · rename_i new hwrite
    obtain ⟨old, hold, hsame, hfrozen⟩ :=
      hf.handsOver (houtcome new (by rw [Outcome.written, hwrite]))
    refine h.settled hf hover (fun s hs => steps_update hold hfrozen hsame hs) fun s hs => ?_
    obtain ⟨_, _, _, _, _, _, _, _, hsignals, _⟩ := update_ok hs
    exact marked_of_eq hsignals
  · exact h.setFlight fun g hg => Option.some.inj hg ▸ hf.phase_of trivial

omit [Digest] [Json.CharTable] in
theorem Sound.writeFlight (h : S.Sound) {key : String × Id} (hf : S.FlightSound f) (utcNow : String) :
    (System.writeFlight key f utcNow S).Sound := by
  have hphase := hf.phase
  rw [System.writeFlight]
  split
  · rename_i signals outcome hran
    rw [hran] at hphase
    exact h.writeOutcome hf hphase utcNow
  · rename_i change hchanging
    rw [hchanging] at hphase
    obtain ⟨old, hold, hsame, hfrozen⟩ := hf.handsOver hphase
    refine h.settled hf (fun phase hnext => ?_) (fun s hs => steps_update hold hfrozen hsame hs)
      fun s hs => ?_
    · obtain ⟨event, _, rfl⟩ := Option.map_eq_some_iff.mp hnext
      exact trivial
    · obtain ⟨_, _, _, _, _, _, _, _, hsignals, _⟩ := update_ok hs
      exact marked_of_eq hsignals
  · rename_i event _
    have hstored : (S.withStore (settle S.store
        (appendEvents utcNow f.inst.tenantId f.inst.workflowId [event] S.store))).Sound :=
      h.withStore (steps_settle fun s hs => steps_append hs)
        (settle_signals fun s hs => (append_ok hs).2.2.1)
    exact hstored.setFlight fun g hg => nomatch hg
  · exact h

omit [Digest] [Json.CharTable] in
theorem Sound.lookAt (h : S.Sound) (hf : S.FlightSound f) {cfg : WorkerConfig}
    {nowIso nextRunAt : String} {g : Flight}
    (hg : S.lookAt cfg nowIso nextRunAt f = some g) : S.FlightSound g := by
  have hget : ∀ {inst}, WorkflowStore.get S.store f.inst.tenantId f.inst.workflowId = some inst →
      ∀ {phase}, S.PhaseSound inst phase → S.FlightSound ⟨inst, phase⟩ :=
    fun hget _ hphase => h.flightSound_row (row_of_get hget) (id_of_row (row_of_get hget)) hphase
  rw [System.lookAt] at hg
  split at hg
  · obtain rfl := Option.some.inj hg
    split
    · rename_i change hexhausted
      exact hf.phase_of (WorkflowWorker.exhausted_follows hexhausted)
    · exact hf
  · obtain ⟨inst, hinst, hg⟩ := Option.bind_eq_some_iff.mp hg
    obtain ⟨change, hchange, rfl⟩ := Option.map_eq_some_iff.mp hg
    exact hget hinst (WorkflowWorker.settleRetry_follows hchange)
  · obtain rfl := Option.some.inj hg
    cases hinst : WorkflowStore.get S.store f.inst.tenantId f.inst.workflowId with
    | some inst => exact hget hinst WorkflowWorker.handleProcessError_follows
    | none => exact hf.phase_of WorkflowWorker.handleProcessError_follows
  · exact Option.some.inj hg ▸ hf

/-! ## Runs -/

omit [Digest] [Json.CharTable] [LawfulWorkflowStore σ] in
theorem Sound.onFlight (h : S.Sound) {worker : String} {w : Id}
    {step : String × Id → Flight → System σ → System σ}
    (hstep : ∀ key f, S.FlightSound f → (step key f S).Sound) :
    (S.onFlight worker w step).Sound := by
  rw [System.onFlight]
  split
  · rename_i f hflight
    exact hstep _ f (h.flights _ f hflight)
  · exact h

theorem Sound.step (h : S.Sound) (action : Action) : (S.step action).Sound := by
  cases action with
  | start x request => exact h.start x request
  | approve x tenantId w approval =>
      rw [System.step]
      split
      · rename_i signal hsignal
        rw [WorkflowRuntime.approvalSignal] at hsignal
        split at hsignal
        · exact nomatch hsignal
        · exact h.enqueue x (Except.ok.inj hsignal ▸ ⟨rfl, rfl⟩)
      · exact h
  | operate x tenantId w signalType fields =>
      rw [System.step]
      split
      · exact h
      · exact h.enqueue x ⟨rfl, rfl⟩
  | claim worker limit now ttl => exact h.claim worker limit now ttl
  | pump worker tenantId w => exact h.pump worker tenantId w
  | get worker w => exact h.onFlight fun key f hf => h.getRow hf
  | take worker w => exact h.onFlight fun key f hf => h.takeSignals hf
  | run worker w x => exact h.onFlight fun key f hf => h.runFlight hf x
  | write worker w utcNow => exact h.onFlight fun key f hf => h.writeFlight hf utcNow
  | look worker w cfg nowIso nextRunAt =>
      exact h.onFlight fun key f hf => h.setFlight fun g hg => h.lookAt hf hg
  | drop worker w => exact h.setFlight fun g hg => nomatch hg
  | sweep now => exact h.withStore (steps_sweep now S.store) (marked_of_eq (sweep_signals now _).1)

theorem Sound.run (h : S.Sound) (actions : List Action) : (run System.step S actions).Sound := by
  have halong : Along System.step (fun _ _ => True) S actions := along_of_forall fun _ _ => trivial
  exact run_invariant (P := Sound) (fun T action hT _ => hT.step action) h halong

end System

end ImpactRelay
