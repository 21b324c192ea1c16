/-
# `Workflows.Terminal` — finished workflows stay finished

A terminal row is no claim's and no sweep's.  Two things can bring it back.  One is a
signal: the in-memory store refuses it, the SQL store takes it and sets PENDING.  The
other is a worker that has the workflow from an earlier claim: neither store compares
what it writes with what is there, an advance of an expense looks at the state before it
looks at the run status, and an error is handled without a look at either.
-/
import ImpactRelay.Workflows.Rows

namespace ImpactRelay

open WorkflowStore LawfulWorkflowStore

/-- What the worker has to write leaves a workflow that is over as it is: nothing, or a
note.  An advance that has read the instance when it was over hands nothing to the store
where no step is for it. -/
def Flight.SparesOver (f : Flight) : Prop :=
  match f.phase with
  | .ran _ _ => f.inst.HandedBack
  | .changing _ => False
  | _ => True

instance (f : Flight) : Decidable f.SparesOver := by
  unfold Flight.SparesOver
  cases f.phase
  all_goals
    dsimp only
    infer_instance

namespace System

variable {σ : Type} [WorkflowStore σ]

/-- The workflow is stored, in this run status. -/
def InStatus (w : Id) (status : WorkflowRunStatus) (S : System σ) : Prop :=
  (row S.store w).map (·.runStatus) = some status

instance (w : Id) (status : WorkflowRunStatus) (S : System σ) : Decidable (S.InStatus w status) :=
  inferInstanceAs (Decidable (_ = _))

/-- What a claim returns. -/
def claimed (S : System σ) : Action → List WorkflowInstance
  | .claim worker limit now leaseTtl => returned S.store (.claim worker limit now leaseTtl)
  | _ => []

/-- A worker writes to a workflow that is over only what leaves it so. -/
def SparesOver (S : System σ) : Action → Prop
  | .write worker w _ => ∀ f ∈ S.flights (worker, w), ∀ inst ∈ row S.store f.inst.workflowId,
      inst.runStatus ∈ terminalRunStatuses → f.SparesOver
  | _ => True

instance (S : System σ) (action : Action) : Decidable (S.SparesOver action) :=
  match action with
  | .write worker w _ => inferInstanceAs (Decidable (∀ f ∈ S.flights (worker, w),
      ∀ inst ∈ row S.store f.inst.workflowId, inst.runStatus ∈ terminalRunStatuses → f.SparesOver))
  | .start .. | .approve .. | .operate .. | .claim .. | .pump .. | .get .. | .take .. | .run ..
  | .look .. | .drop .. | .sweep .. => isTrue trivial

/-- The workflow a signal is for accepts signals, or the tenant does not have it. -/
def ForAccepting (S : System σ) (action : Action) : Prop :=
  ∀ x signal, action.sends = some (x, signal) → ∀ inst,
    WorkflowStore.get S.store signal.tenantId signal.workflowId = some inst →
      inst.runStatus ∈ acceptsSignals

/-- A signal that is for no accepting workflow is refused. -/
def RefusesOver (S : System σ) (action : Action) : Prop :=
  ∀ x signal, action.sends = some (x, signal) → Takes S.store x signal → ∀ inst,
    WorkflowStore.get S.store signal.tenantId signal.workflowId = some inst →
      inst.runStatus ∈ acceptsSignals

theorem not_accepts_of_terminal {status : WorkflowRunStatus} (h : status ∈ terminalRunStatuses) :
    status ∉ acceptsSignals := by
  revert status
  decide

theorem not_due_of_terminal {status : WorkflowRunStatus} (h : status ∈ terminalRunStatuses) :
    status ∉ claimableRunStatuses ∧ status ≠ .running := by
  revert status
  decide

theorem not_claimable {now : Datetime} {inst : WorkflowInstance}
    (h : inst.runStatus ∈ terminalRunStatuses) : ¬ Claimable σ now inst := by
  have hnot := not_due_of_terminal h
  rintro (hclaimable | ⟨hrunning, -⟩)
  · exact hnot.1 hclaimable
  · exact hnot.2 hrunning

section Absorbing

variable [LawfulWorkflowStore σ] {S : System σ} {w : Id} {status : WorkflowRunStatus}
  {action : Action} {actions : List Action}

/-- No claim returns a workflow that is over. -/
theorem not_claimed (hterminal : status ∈ terminalRunStatuses) (h : S.InStatus w status) :
    ∀ inst ∈ S.claimed action, inst.workflowId ≠ w := by
  rintro inst hinst rfl
  obtain ⟨old, hold, hstatus⟩ := Option.map_eq_some_iff.mp h
  cases action with
  | claim worker limit now ttl =>
      have hreturned : inst ∈ returned S.store (.claim worker limit now ttl) := hinst
      obtain ⟨_, _, _, _, -, -, taken, _, _, htaken, hclaimable, -⟩ := returned_leased hreturned
      obtain rfl := Option.some.inj (htaken.symm.trans hold)
      exact not_claimable (hstatus ▸ hterminal) hclaimable
  | _ => exact absurd hinst List.not_mem_nil

variable [Digest] [Json.CharTable]

/-- The workflow stays in its run status all along, and no claim returns it. -/
def Absorbed (w : Id) (status : WorkflowRunStatus) (S : System σ) (actions : List Action) : Prop :=
  (∀ past, past <+: actions → (run System.step S past).InStatus w status) ∧
    Along System.step (fun T action => ∀ inst ∈ T.claimed action, inst.workflowId ≠ w) S actions

theorem inStatus_step (hS : S.Begun) (hterminal : status ∈ terminalRunStatuses)
    (hspares : S.SparesOver action) (hrefuses : S.RefusesOver action) (h : S.InStatus w status) :
    (S.step action).InStatus w status := by
  obtain ⟨old, hold, rfl⟩ := Option.map_eq_some_iff.mp h
  obtain ⟨new, hnew, -, hmove⟩ := (row_step hS.sound action).kept w old hold
  suffices hstatus : new.runStatus = old.runStatus from
    Option.map_eq_some_iff.mpr ⟨new, hnew, hstatus⟩
  have hid : old.workflowId = w := id_of_row hold
  cases hmove with
  | keeps cursor => exact cursor.runStatus.symm
  | wakes waking place sent own takes =>
      rename_i x signal
      obtain ⟨s', hcall⟩ := takes
      obtain ⟨⟨old', _, hold', htenant, -⟩, -⟩ := enqueue_ok hcall
      have hget : WorkflowStore.get S.store signal.tenantId signal.workflowId = some old' :=
        get_eq_some.mpr ⟨hold', htenant⟩
      have haccepts := hrefuses x signal sent ⟨s', hcall⟩ old' hget
      rw [own, hid, hold] at hold'
      obtain rfl := Option.some.inj hold'
      exact absurd haccepts (not_accepts_of_terminal hterminal)
  | leases taken due => exact absurd due (not_claimable hterminal)
  | swept sweeps swept =>
      rw [swept.1] at hterminal
      exact absurd hterminal (by decide)
  | advanced writes flight phase hands read same cursor =>
      subst writes
      rename_i worker utcNow v f signals outcome written
      -- the advance read an instance that was over, and has nothing for the store
      have hover := hspares f flight old (read.workflowId.trans hid ▸ hold) hterminal
      have hrecorded := hS.recorded _ f flight
      rw [Flight.SparesOver, phase] at hover
      rw [Flight.Recorded, phase] at hrecorded
      obtain ⟨x, -, hnothing⟩ := hrecorded
      cases (hnothing hover).symm.trans hands
  | changed writes flight phase read same cursor =>
      subst writes
      rename_i worker utcNow v f change
      have hover := hspares f flight old (read.workflowId.trans hid ▸ hold) hterminal
      rw [Flight.SparesOver, phase] at hover
      exact hover.elim

theorem absorbed (hS : S.Begun) (hterminal : status ∈ terminalRunStatuses)
    (hspares : Along System.step SparesOver S actions)
    (hrefuses : Along System.step RefusesOver S actions) (h : S.InStatus w status) :
    Absorbed w status S actions := by
  have hstep : ∀ (T : System σ) (action : Action), T.Begun ∧ T.InStatus w status →
      T.SparesOver action ∧ T.RefusesOver action →
        (T.step action).Begun ∧ (T.step action).InStatus w status :=
    fun T action hT hok => ⟨hT.1.step action, inStatus_step hT.1 hterminal hok.1 hok.2 hT.2⟩
  have hok := hspares.and hrefuses
  refine ⟨?_, hok.of_invariant hstep (fun T action hT _ => not_claimed hterminal hT.2) ⟨hS, h⟩⟩
  rintro past ⟨rest, rfl⟩
  exact (run_invariant (P := fun T => T.Begun ∧ T.InStatus w status) hstep ⟨hS, h⟩
    (along_append.mp hok).1).2

end Absorbing

/-! ## The two stores -/

theorem memory_refuses (S : System InMemoryWorkflowStore) (action : Action) :
    S.RefusesOver action := by
  rintro x signal - ⟨s', hcall⟩ inst hget
  obtain ⟨old, _, hold, _, haccepts, -⟩ := InMemoryWorkflowStore.enqueue_spec hcall
  obtain ⟨hrow, -⟩ := get_eq_some.mp hget
  rwa [← Option.some.inj (hold.symm.trans hrow)]

/-- The identifier the runtime drew for the signal is new. -/
def FreshSignal (S : System SqlWorkflowStore) (action : Action) : Prop :=
  ∀ x signal, action.sends = some (x, signal) →
    ∀ y ∈ S.store.workflowSignals, y.signalId ≠ signal.signalId

/-- The SQL store takes a signal exactly when every in-memory store with the same
row for the workflow does. -/
def TakenAlike (S : System SqlWorkflowStore) (action : Action) : Prop :=
  ∀ x signal, action.sends = some (x, signal) → ∀ m : InMemoryWorkflowStore,
    m.row signal.workflowId = S.store.row signal.workflowId →
      (Takes m x signal ↔ Takes S.store x signal)

variable {x : Surroundings} {signal : WorkflowSignal}

theorem sql_takes_iff {s : SqlWorkflowStore}
    (hfresh : ∀ y ∈ s.workflowSignals, y.signalId ≠ signal.signalId) :
    Takes s x signal ↔
      ∃ inst, s.row signal.workflowId = some inst ∧ inst.tenantId = signal.tenantId := by
  constructor
  · rintro ⟨s', h⟩
    obtain ⟨old, _, hold, htenant, -⟩ := SqlWorkflowStore.enqueue_spec h
    exact ⟨old, hold, htenant⟩
  · rintro ⟨inst, hrow, htenant⟩
    have hfind : s.find signal.tenantId signal.workflowId = .ok inst :=
      SqlWorkflowStore.find_eq_ok.mpr ⟨hrow, htenant⟩
    have hnew : ¬ (s.workflowSignals.any fun y => y.signalId = signal.signalId) = true := by
      intro hany
      obtain ⟨y, hy, heq⟩ := List.any_eq_true.mp hany
      exact hfresh y hy (of_decide_eq_true heq)
    change ∃ s', s.enqueueSignalAndWake x.utcNow signal .pending x.clock true = .ok s'
    rw [SqlWorkflowStore.enqueueSignalAndWake, hfind]
    exact ⟨_, if_neg hnew⟩

theorem memory_takes_iff {m : InMemoryWorkflowStore} : Takes m x signal ↔
    ∃ inst, m.row signal.workflowId = some inst ∧ inst.tenantId = signal.tenantId ∧
      inst.runStatus ∈ acceptsSignals := by
  constructor
  · rintro ⟨m', h⟩
    obtain ⟨old, _, hold, htenant, haccepts, -⟩ := InMemoryWorkflowStore.enqueue_spec h
    exact ⟨old, hold, htenant, haccepts⟩
  · rintro ⟨inst, hrow, htenant, haccepts⟩
    have hfind : m.find signal.tenantId signal.workflowId = .ok inst :=
      InMemoryWorkflowStore.find_eq_ok.mpr ⟨hrow, htenant⟩
    change ∃ m', m.enqueueSignalAndWake x.utcNow signal .pending x.clock true = .ok m'
    rw [InMemoryWorkflowStore.enqueueSignalAndWake, hfind]
    exact ⟨_, if_neg (not_not_intro haccepts)⟩

theorem takenAlike_iff {S : System SqlWorkflowStore} {action : Action}
    (hfresh : S.FreshSignal action) : S.TakenAlike action ↔ S.ForAccepting action := by
  constructor
  · intro halike x signal hsent inst hget
    obtain ⟨hrow, htenant⟩ := get_eq_some.mp hget
    have hm := (halike x signal hsent { instances := S.store.workflows } rfl).mpr
      ((sql_takes_iff (hfresh x signal hsent)).mpr ⟨inst, hrow, htenant⟩)
    obtain ⟨old, hold, _, haccepts⟩ := memory_takes_iff.mp hm
    rwa [← Option.some.inj (hold.symm.trans hrow)]
  · intro hok x signal hsent m hm
    rw [memory_takes_iff, sql_takes_iff (hfresh x signal hsent), hm]
    constructor
    · rintro ⟨inst, hrow, htenant, _⟩
      exact ⟨inst, hrow, htenant⟩
    · rintro ⟨inst, hrow, htenant⟩
      exact ⟨inst, hrow, htenant, hok x signal hsent inst (get_eq_some.mpr ⟨hrow, htenant⟩)⟩

variable [Digest] [Json.CharTable]

/-- Whatever has gone before: from where a workflow is over it stays in its run status and
no claim returns it, as long as no worker writes to it what it has made of another
reading.  In the in-memory store that is all; in the SQL store it is so, and each signal
is taken as the in-memory store takes it, exactly if every signal is for a workflow that
accepts signals. -/
theorem terminal_absorbing {w : Id} {status : WorkflowRunStatus} {past actions : List Action}
    (hterminal : status ∈ terminalRunStatuses) :
    (∀ S : System InMemoryWorkflowStore, S.Fresh → (run System.step S past).InStatus w status →
      Along System.step SparesOver (run System.step S past) actions →
      Absorbed w status (run System.step S past) actions) ∧
    ∀ S : System SqlWorkflowStore, S.Fresh → (run System.step S past).InStatus w status →
      Along System.step SparesOver (run System.step S past) actions →
      Along System.step FreshSignal (run System.step S past) actions →
      ((Absorbed w status (run System.step S past) actions ∧
          Along System.step TakenAlike (run System.step S past) actions) ↔
        Along System.step ForAccepting (run System.step S past) actions) := by
  constructor
  · intro S hS hstatus hspares
    exact absorbed (hS.begun.run past) hterminal hspares (along_of_forall memory_refuses) hstatus
  · intro S hS hstatus hspares hfresh
    constructor
    · rintro ⟨-, halike⟩
      exact (hfresh.and halike).mono fun T action h => (takenAlike_iff h.1).mp h.2
    · intro hok
      refine ⟨absorbed (hS.begun.run past) hterminal hspares ?_ hstatus,
        (hfresh.and hok).mono fun T action h => (takenAlike_iff h.1).mpr h.2⟩
      exact hok.mono fun T action h x signal hsent _ => h x signal hsent

end System

section Sample

attribute [local instance] Digest.plain Json.CharTable.all

namespace System

/-- An approved expense in the ledger of an in-memory system, and no workflow. -/
def Sample.memorySystem : System InMemoryWorkflowStore where
  store := {}
  ledgers := Sample.system.ledgers

/-- An advance of a reversal by a worker that has claimed it. -/
def Sample.claimedAdvance (worker : String) (call seconds : Nat) : List Action :=
  [.get worker "wf_corr_20_0", .take worker "wf_corr_20_0",
    .run worker "wf_corr_20_0" (Sample.at call seconds),
    .write worker "wf_corr_20_0" "2026-01-02T12:00:00+00:00"]

/-- A reversal is approved.  One worker claims it, takes the approval and is held up; when
its lease has run out, another one brings the workflow to its end. -/
def Sample.finishedReversal : List Action :=
  Sample.approvedReversal 60 ++
    [.claim "v" 1 (noonNextDay.addSeconds 60) 30, .get "v" "wf_corr_20_0",
      .take "v" "wf_corr_20_0", .claim "w" 1 (noonNextDay.addSeconds 120) 30] ++
    Sample.claimedAdvance "w" 24 120 ++
    .claim "w" 1 (noonNextDay.addSeconds 125) 30 :: Sample.claimedAdvance "w" 26 125

/-- An operator's signal comes late, and a worker looks for work. -/
def Sample.lateSignal : List Action :=
  [.operate (Sample.at 28 130) "org" "wf_corr_20_0" (some .resubmit) [],
    .claim "w" 1 (noonNextDay.addSeconds 130) 30]

/-- The worker that was held up goes on. -/
def Sample.lateWorker : List Action := (Sample.claimedAdvance "v" 30 135).drop 2

/-- Another worker advances the workflow once more, and there is a sweep. -/
def Sample.idleWorker : List Action :=
  .pump "u" "org" "wf_corr_20_0" ::
    Sample.claimedAdvance "u" 32 140 ++ [.sweep (noonNextDay.addSeconds 150)]

end System

open ImpactRelay.System in
theorem idle_worker_absorbed :
    (Absorbed "wf_corr_20_0" .completed (run System.step Sample.system Sample.finishedReversal)
        Sample.idleWorker ∧
      Along System.step TakenAlike (run System.step Sample.system Sample.finishedReversal)
        Sample.idleWorker) ↔
      Along System.step ForAccepting (run System.step Sample.system Sample.finishedReversal)
        Sample.idleWorker := by
  have hsilent : ∀ action ∈ Sample.idleWorker, action.sends.isNone = true := by decide
  refine (terminal_absorbing (by decide)).2 Sample.system Sample.system_fresh (by decide +kernel)
    (by decide +kernel) ((along_of_mem hsilent).mono fun T action hnone x signal hsent => ?_)
  rw [hsent] at hnone
  cases hnone

open ImpactRelay.System in
/-- The SQL store sets the finished workflow PENDING for the signal, and the claim returns
it; and in the in-memory store, too, the worker that was held up writes over its end. -/
theorem finished_workflow_reopens :
    ((run System.step Sample.system Sample.finishedReversal).InStatus "wf_corr_20_0" .completed ∧
      Along System.step SparesOver (run System.step Sample.system Sample.finishedReversal)
        Sample.lateSignal ∧
      ¬ Absorbed "wf_corr_20_0" .completed
        (run System.step Sample.system Sample.finishedReversal) Sample.lateSignal) ∧
    (run System.step Sample.memorySystem Sample.finishedReversal).InStatus "wf_corr_20_0" .completed ∧
      ¬ Absorbed "wf_corr_20_0" .completed
        (run System.step Sample.memorySystem Sample.finishedReversal) Sample.lateWorker := by
  refine ⟨⟨by decide +kernel, by decide +kernel, fun h => ?_⟩, by decide +kernel, fun h => ?_⟩
  · have hends := h.1 _ List.prefix_rfl
    revert hends
    decide +kernel
  · have hends := h.1 _ List.prefix_rfl
    revert hends
    decide +kernel

end Sample

end ImpactRelay
