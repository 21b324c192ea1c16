/-
# `Workflows.Expiry` — approvals that come after the command has expired

Each frozen command has its own `expires_at`, mostly some days before the wait's
deadline, and nothing on the way to the ledger looks at it: `processSignal` asks
`authorize`, which asks about the decision, the key, the tenant and the approver.
So an approval of an expired command is executed exactly where it would have been
executed in time.
-/
import ImpactRelay.Workflows.HumanAuthority

namespace ImpactRelay

open Raise WorkflowStore

/-- `expires_at` is in the past. -/
def FrozenProposedCommand.ExpiredAt (now : Datetime) (frozen : FrozenProposedCommand) : Prop :=
  ∃ text d, frozen.expiresAt = some text ∧ Datetime.fromisoformat text = some d ∧ d < now

/-- The commit hands the signal back and parks the workflow where it is. -/
def Outcome.SendsBack (inst : WorkflowInstance) (signal : WorkflowSignal) (o : Outcome) : Prop :=
  ∃ bundle, o.write = .commit bundle ∧ (signal.signalId, .rejectedInvalid) ∈ bundle.consumeSignals ∧
    bundle.instance_.workflowState = inst.workflowState ∧
    bundle.instance_.runStatus = .waitingSignal ∧ bundle.executionReceipts = []

namespace System

variable {σ : Type} [WorkflowStore σ] {S : System σ} {key : String × Id} {x : Surroundings}
  {inst : WorkflowInstance} {signals : List WorkflowSignal} {signal : WorkflowSignal}
  {approval : ApprovalReceipt} {frozen : FrozenProposedCommand}

/-- The action processes an approval: the worker's advance decides on it next. -/
def Processes (S : System σ) (action : Action) (x : Surroundings) (key : String × Id)
    (inst : WorkflowInstance) (signals : List WorkflowSignal) (signal : WorkflowSignal)
    (approval : ApprovalReceipt) (frozen : FrozenProposedCommand) : Prop :=
  action = .run key.1 key.2 x ∧ S.flights key = some ⟨inst, .took signals⟩ ∧
    Decides inst signals signal approval frozen

/-- Nothing has been executed: ledgers, workspaces and the log are as they were, and the
advance hands the signal back. -/
structure NotActed (S T : System σ) (key : String × Id) (inst : WorkflowInstance)
    (signal : WorkflowSignal) : Prop where
  executed : T.executed = S.executed
  ledgers : ∀ tenantId, T.ledgerOf tenantId = S.ledgerOf tenantId
  workspaces : ∀ tenantId, T.workspaceOf tenantId = S.workspaceOf tenantId
  log : T.ledgerLog = S.ledgerLog
  sendsBack : ∃ signals outcome, T.flights key = some ⟨inst, .ran signals outcome⟩ ∧
    outcome.SendsBack inst signal

/-- The executor of an advance that has done nothing leaves everything as it was. -/
theorem ledgerOf_land (tenantId : Id) :
    (S.land inst ⟨S.executorFor inst, []⟩).ledgerOf tenantId = S.ledgerOf tenantId := by
  rw [ledgerOf, land, Dict.get?_set]
  split
  · rename_i htenant
    rw [htenant]
    rfl
  · rfl

theorem workspaceOf_land (tenantId : Id) :
    (S.land inst ⟨S.executorFor inst, []⟩).workspaceOf tenantId = S.workspaceOf tenantId := by
  rw [workspaceOf, land, Dict.get?_set]
  split
  · rename_i htenant
    rw [htenant]
    rfl
  · rfl

variable [Digest] [Json.CharTable]

theorem Processes.step {action : Action}
    (h : S.Processes action x key inst signals signal approval frozen) :
    S.step action = S.runAdvance key inst signals x := by
  obtain ⟨rfl, hflight, _⟩ := h
  have hkey : S.flights (key.1, key.2) = some ⟨inst, .took signals⟩ := hflight
  rw [System.step, System.onFlight, hkey]
  rfl

theorem notActed_of_refused (h : Decides inst signals signal approval frozen)
    (hrefused : ¬ Approves frozen approval) :
    S.NotActed (S.runAdvance key inst signals x) key inst signal := by
  obtain ⟨exc, hrun⟩ := h.run_refused (x := x) hrefused ⟨S.executorFor inst, []⟩
  rw [System.runAdvance, hrun]
  refine ⟨List.append_nil _, ledgerOf_land, workspaceOf_land, rfl, signals, _,
    Function.update_self _ _ _, _, rfl, List.mem_singleton.mpr rfl, rfl, rfl, rfl⟩

/-- What is approved is executed. -/
theorem executed_of_approves (h : Decides inst signals signal approval frozen)
    (happroves : Approves frozen approval) : (S.runAdvance key inst signals x).executed =
      S.executed ++ [⟨inst, approvedCommand frozen approval, some approval⟩] := by
  have hgate : (WorkflowRuntime.advanceOnce x inst signals).run ⟨S.executorFor inst, []⟩ =
      (WorkflowRuntime.executeGate x inst signal approval frozen
        (approvedCommand frozen approval)).run ⟨S.executorFor inst, []⟩ := by
    rw [advanceOnce_gate h.kind h.gate, WorkflowRuntime.advanceHumanGate, h.gateStep,
      WorkflowRuntime.processSignal, authorize_eq_ok.mpr ⟨happroves, rfl⟩]
    dsimp only
    rw [happroves.decision]
  have hexecuted : (after (WorkflowRuntime.executeGate x inst signal approval frozen
      (approvedCommand frozen approval)) ⟨S.executorFor inst, []⟩).executed =
        [⟨approvedCommand frozen approval, some approval⟩] :=
    executeGate_executed ⟨S.executorFor inst, []⟩
  rw [System.runAdvance, hgate]
  split
  · rename_i outcome a hrun
    have ha : a.executed = [⟨approvedCommand frozen approval, some approval⟩] :=
      (Returns.after hrun) ▸ hexecuted
    change S.executed ++ a.executed.map _ = _
    rw [ha]
    rfl
  · rename_i exc a hrun
    have ha : a.executed = [⟨approvedCommand frozen approval, some approval⟩] :=
      (Raises.after hrun) ▸ hexecuted
    change S.executed ++ a.executed.map _ = _
    rw [ha]
    rfl

/-- An approval is processed without effect exactly when it is refused, in time or not. -/
theorem notActed_iff (h : Decides inst signals signal approval frozen) :
    S.NotActed (S.runAdvance key inst signals x) key inst signal ↔ ¬ Approves frozen approval := by
  refine ⟨fun hnot happroves => ?_, notActed_of_refused h⟩
  have hsame := hnot.executed
  rw [executed_of_approves h happroves] at hsame
  exact absurd (List.append_right_eq_self.mp hsame) (List.cons_ne_nil _ _)

/-- If the step processes an approval of a command that has expired, it does not act. -/
def ExpiredNeverActs (S : System σ) (action : Action) : Prop :=
  ∀ x key inst signals signal approval frozen,
    S.Processes action x key inst signals signal approval frozen → frozen.ExpiredAt x.clock →
      S.NotActed (S.step action) key inst signal

/-- If the step processes an approval of a command that has expired, it is one that the
gate refuses for another reason. -/
def ExpiredRefused (S : System σ) (action : Action) : Prop :=
  ∀ x key inst signals signal approval frozen,
    S.Processes action x key inst signals signal approval frozen → frozen.ExpiredAt x.clock →
      ¬ Approves frozen approval

theorem expiredNeverActs_iff {action : Action} :
    S.ExpiredNeverActs action ↔ S.ExpiredRefused action := by
  constructor
  · intro h x key inst signals signal approval frozen hprocesses hexpired
    have hnot := h x key inst signals signal approval frozen hprocesses hexpired
    rw [hprocesses.step] at hnot
    exact (notActed_iff hprocesses.2.2).mp hnot
  · intro h x key inst signals signal approval frozen hprocesses hexpired
    rw [hprocesses.step]
    exact (notActed_iff hprocesses.2.2).mpr
      (h x key inst signals signal approval frozen hprocesses hexpired)

/-- In every run, on either store, expired commands are left alone exactly when each
approval of one is refused anyway. -/
theorem expired_never_acts_iff (actions : List Action) :
    (∀ S : System InMemoryWorkflowStore,
      Along System.step ExpiredNeverActs S actions ↔ Along System.step ExpiredRefused S actions) ∧
    ∀ S : System SqlWorkflowStore,
      Along System.step ExpiredNeverActs S actions ↔ Along System.step ExpiredRefused S actions :=
  ⟨fun _ => ⟨.mono fun _ _ => expiredNeverActs_iff.mp, .mono fun _ _ => expiredNeverActs_iff.mpr⟩,
    fun _ => ⟨.mono fun _ _ => expiredNeverActs_iff.mp, .mono fun _ _ => expiredNeverActs_iff.mpr⟩⟩

end System

section Sample

attribute [local instance] Digest.plain Json.CharTable.all

namespace System

/-- The flight is about to process an approval, and it and the frozen command are so. -/
def Sample.decidesOn (p : FrozenProposedCommand → ApprovalReceipt → Bool) (f : Flight) : Bool :=
  match f.phase with
  | .took signals =>
      decide (f.inst.workflowType ≠ .scheduledDigest) && f.inst.takesSignals &&
        match f.inst.context.wait.bind (·.frozenCommand),
          (WorkflowRuntime.matching (f.inst.context.wait.bind Wait.key) signals).head? with
        | some frozen, some (_, approval) => p frozen approval
        | _, _ => false
  | _ => false

theorem Sample.of_decidesOn {p : FrozenProposedCommand → ApprovalReceipt → Bool} {f : Flight}
    (h : decidesOn p f = true) : ∃ signals signal approval frozen, f.phase = .took signals ∧
      Decides f.inst signals signal approval frozen ∧ p frozen approval = true := by
  rw [decidesOn] at h
  split at h
  · rename_i signals hphase
    obtain ⟨hgate, h⟩ := Bool.and_eq_true_iff.mp h
    obtain ⟨hkind, hgate⟩ := Bool.and_eq_true_iff.mp hgate
    split at h
    · rename_i frozen signal approval hwaits hfirst
      exact ⟨signals, signal, approval, frozen, hphase,
        ⟨of_decide_eq_true hkind, hgate, hwaits, hfirst⟩, h⟩
    · exact nomatch h
  · exact nomatch h

/-- An approval that opens the gate, on a command that has expired. -/
def Sample.approvedLate (now : Datetime) (frozen : FrozenProposedCommand)
    (approval : ApprovalReceipt) : Bool :=
  decide (Approves frozen approval) &&
    match frozen.expiresAt.bind Datetime.fromisoformat with
    | some d => decide (d < now)
    | none => false

theorem Sample.of_approvedLate {now : Datetime} {frozen : FrozenProposedCommand}
    {approval : ApprovalReceipt} (h : approvedLate now frozen approval = true) :
    Approves frozen approval ∧ frozen.ExpiredAt now := by
  obtain ⟨happroves, h⟩ := Bool.and_eq_true_iff.mp h
  split at h
  · rename_i d hd
    obtain ⟨text, htext, hparse⟩ := Option.bind_eq_some_iff.mp hd
    exact ⟨of_decide_eq_true happroves, text, d, htext, hparse, of_decide_eq_true h⟩
  · cases h

/-- A reversal is proposed, its approval comes three days and an hour later, and a worker
takes it up; the deadline of the wait is four days off. -/
def Sample.lateReversal : List Action :=
  Sample.approvedReversal 262800 ++ (Sample.advance 23 262800).take 3

end System

open ImpactRelay.System in
theorem expired_acts : ¬ ∀ (S : System SqlWorkflowStore) (actions : List Action), S.Fresh →
    Along System.step ExpiredNeverActs S actions := by
  intro h
  let late_ : Surroundings := Sample.at 23 262800
  have halong := h Sample.system (Sample.lateReversal ++ [.run "w" "wf_corr_20_0" late_])
    Sample.system_fresh
  obtain ⟨-, hnever, -⟩ := along_append.mp halong
  have hflight : ((run System.step Sample.system Sample.lateReversal).flights
      ("w", "wf_corr_20_0")).map (Sample.decidesOn (Sample.approvedLate late_.clock)) = some true := by
    decide +kernel
  obtain ⟨f, hf, hdecided⟩ := Option.map_eq_some_iff.mp hflight
  obtain ⟨signals, signal, approval, frozen, hphase, hdecides, hlate⟩ :=
    Sample.of_decidesOn hdecided
  obtain ⟨happroves, hexpired⟩ := Sample.of_approvedLate hlate
  have hprocesses : (run System.step Sample.system Sample.lateReversal).Processes
      (.run "w" "wf_corr_20_0" late_) late_ ("w", "wf_corr_20_0") f.inst signals signal approval
      frozen := ⟨rfl, hphase ▸ hf, hdecides⟩
  have hnot := hnever _ _ _ _ _ _ _ hprocesses hexpired
  rw [hprocesses.step] at hnot
  exact (notActed_iff hdecides).mp hnot happroves

end Sample

end ImpactRelay
