/-
# `Workflows.BoundedRetries` — one worker, and how often it tries

`WorkflowWorker.tick` claims a batch and takes the claimed workflows one after the other:
`_process_one` looks at the attempts, advances, and looks again; what escapes the advance
goes to `_handle_process_error`.  A `Ticking` is a system in the middle of such a tick, of
one worker; signals, starts and sweeps come in between.

    attempts used up          dead-lettered, the advance not tried            (`exhausted`)
    advance, retried at gate  counted by the advance; backoff, or dead letter (`settleRetry`)
    advance, raised           counted by the worker; backoff, or dead letter  (`handleProcessError`)
    advance, anything else    not counted

Every failure is counted once and nothing else is (`Ticking.step_tallies`), so a workflow
fails at most as often as there are attempts.
-/
import ImpactRelay.Workflows.Attempts
import ImpactRelay.Workflows.Rest

namespace ImpactRelay

open Raise WorkflowStore LawfulWorkflowStore WorkflowInstance

/-! ## A worker's tick -/

/-- What has gone wrong with a try. -/
inductive Failure where
  /-- an execution at a gate has failed, and another try is scheduled -/
  | retried
  /-- `advance_once` has raised -/
  | escaped (exc : PyExc)

namespace Failure

def retryable : Failure → Bool
  | .retried => true
  | .escaped exc => (classifyError exc).retryable

end Failure

namespace Call

/-- `_process_one` until `advance_once` is over. -/
def tries (w : Id) (c : Call) : List Action :=
  .look c.worker w c.cfg c.nowIso c.nextRunAt :: (c.advances w ++ c.writes w)

end Call

/-- A system and the workflows its worker has still to take in this tick. -/
structure Ticking (σ : Type) where
  system : System σ
  claimed : List Id := []

inductive TickStep where
  | start (x : Surroundings) (request : StartRequest)
  | approve (x : Surroundings) (tenantId workflowId : Id) (approval : ApprovalReceipt)
  | operate (x : Surroundings) (tenantId workflowId : Id) (signalType : Option SignalType)
      (fields : List (String × Json))
  | sweep (now : Datetime)
  /-- a tick begins -/
  | claim (limit : Nat) (now : Datetime) (leaseTtl : Nat)
  /-- the worker's process is gone in the middle of a tick -/
  | crash
  /-- the next workflow of the tick; the worker and its configuration are the tick's -/
  | process (c : Call)

namespace System

variable {σ : Type} [WorkflowStore σ]

/-- What a try has come to, where the worker sees it. -/
def failure (worker : String) (w : Id) (T : System σ) : Option Failure :=
  match T.flights (worker, w) with
  | some ⟨_, .over (some exc)⟩ => some (.escaped exc)
  | some ⟨_, .over none⟩ =>
      if (row T.store w).any fun inst => inst.runStatus = .retryScheduled then some .retried else none
  | _ => none

/-- The attempts counted for a workflow. -/
def attempts (w : Id) (S : System σ) : Nat := (row S.store w).elim 0 (·.attemptCount)

end System

namespace Ticking

variable {σ : Type} [WorkflowStore σ] [Digest] [Json.CharTable]

/-- What the worker has tried, and with what it has come out of it. -/
def tried (R : Ticking σ) (c : Call) (w : Id) : System σ := run System.step R.system (c.tries w)

/-- The worker takes a workflow.  What escapes its error handling ends the tick. -/
def process (R : Ticking σ) (c : Call) : Ticking σ :=
  match R.claimed with
  | [] => R
  | w :: rest =>
      let T := run System.step (R.tried c w) (c.looks w)
      ⟨T, if (T.flights (c.worker, w)).isNone then rest else []⟩

def step (worker : String) (cfg : WorkerConfig) (R : Ticking σ) : TickStep → Ticking σ
  | .start x request => { R with system := R.system.step (.start x request) }
  | .approve x tenantId w approval => { R with system := R.system.step (.approve x tenantId w approval) }
  | .operate x tenantId w signalType fields =>
      { R with system := R.system.step (.operate x tenantId w signalType fields) }
  | .sweep now => { R with system := R.system.step (.sweep now) }
  | .claim limit now leaseTtl =>
      if R.claimed = [] then
        ⟨R.system.step (.claim worker limit now leaseTtl),
          (returned R.system.store (.claim worker limit now leaseTtl)).map (·.workflowId)⟩
      else R
  | .crash => { R with claimed := [] }
  | .process c => R.process { c with worker, cfg }

/-- The failure of the workflow in a step. -/
def failed (worker : String) (cfg : WorkerConfig) (w : Id) (R : Ticking σ) :
    TickStep → Option Failure
  | .process c =>
      if R.claimed.head? = some w then (R.tried { c with worker, cfg } w).failure worker w else none
  | _ => none

/-- The failures of the workflow in a run, one after the other. -/
def failures (worker : String) (cfg : WorkerConfig) (w : Id) :
    Ticking σ → List TickStep → List Failure
  | _, [] => []
  | R, s :: rest =>
      (R.failed worker cfg w s).toList ++ failures worker cfg w (R.step worker cfg s) rest

end Ticking

/-! ## The parts of a try -/

namespace System

variable {σ : Type} [WorkflowStore σ] {S T U : System σ} {worker : String} {w : Id}

/-- Other rows and the worker's other flights are as they were. -/
def SameBut (worker : String) (w : Id) (S T : System σ) : Prop :=
  ∀ v, v ≠ w → row T.store v = row S.store v ∧ T.flights (worker, v) = S.flights (worker, v)

theorem SameBut.refl (S : System σ) : SameBut worker w S S := fun _ _ => ⟨rfl, rfl⟩

theorem SameBut.trans (h : SameBut worker w S T) (h' : SameBut worker w T U) :
    SameBut worker w S U :=
  fun v hv => ⟨(h' v hv).1.trans (h v hv).1, (h' v hv).2.trans (h v hv).2⟩

theorem sameBut_setFlight (o : Option Flight) : SameBut worker w S (S.setFlight (worker, w) o) :=
  fun _ hv => ⟨rfl, Function.update_of_ne (fun h => hv (Prod.mk.inj h).2) _ _⟩

theorem sameBut_written {s : σ} (honly : OnlyRow w S.store s) (o : Option Flight) :
    SameBut worker w S ((S.withStore s).setFlight (worker, w) o) :=
  SameBut.trans (T := S.withStore s) (fun v hv => ⟨honly v hv, rfl⟩) (sameBut_setFlight o)

variable [LawfulWorkflowStore σ] {inst old read : WorkflowInstance} {c : Call}

theorem onlyRow_append (s : σ) (utcNow : String) (tenantId : Id) (events : List WorkflowEventWrite) :
    OnlyRow w s (settle s (appendEvents utcNow tenantId w events s)) := by
  cases hcall : appendEvents utcNow tenantId w events s with
  | error exc => exact fun _ _ => rfl
  | ok s' => exact (append_ok hcall).2.1

theorem storable_some (text : String) : Storable σ (some text) := by
  intro utcNow inst old s hrow htenant hdue
  refine update_takes hrow htenant ?_
  rw [hdue]
  exact nofun

variable [Digest] [Json.CharTable]

/-- The worker's own change is written, its event with it, and its flight is over. -/
theorem change_written (hS : S.Begun) {change : WorkflowWorker.Change}
    (hflight : S.flights (c.worker, w) = some ⟨read, .changing change⟩)
    (hrow : row S.store w = some old) (hread : read.SameWorkflow old)
    (hstorable : Storable σ change.inst.nextRunAt) :
    SameBut c.worker w S (run System.step S (c.writes w)) ∧
    (run System.step S (c.writes w)).flights (c.worker, w) = none ∧
    ∃ new, row (run System.step S (c.writes w)).store w = some new ∧ change.inst.SameCursor new := by
  have hfollows : read.Follows change.inst := (hS.sound.flights _ _ hflight).phase
  have hid : read.workflowId = w := hread.workflowId.trans (id_of_row hrow)
  have hchange : change.inst.workflowId = w := hfollows.same.workflowId.trans hid
  obtain ⟨s, hcall⟩ : ∃ s, updateInstance c.utcNow change.inst S.store = .ok s :=
    hstorable _ _ _ _ (hchange.symm ▸ hrow)
      (hread.tenantId.symm.trans hfollows.same.tenantId.symm) rfl
  obtain ⟨_, new, _, _, hnew, hcursor, _, honly, -⟩ := update_ok hcall
  rw [hchange] at hnew honly
  have hfirst : S.step (.write c.worker w c.utcNow) = (S.withStore s).setFlight (c.worker, w)
      ((change.event.map .noting).map (⟨read, ·⟩)) := by
    rw [System.step, onFlight_of hflight]
    dsimp only [System.writeFlight]
    rw [hcall]
    rfl
  rw [Call.writes, run_cons, run_cons, run_nil, hfirst]
  cases change.event with
  | none =>
      have hnone : ((S.withStore s).setFlight (c.worker, w) none).flights (c.worker, w) = none :=
        flights_setFlight _ _ _
      rw [Option.map_none, Option.map_none, write_none hnone]
      exact ⟨sameBut_written honly none, hnone, new, hnew, hcursor⟩
  | some event =>
      rw [Option.map_some, Option.map_some]
      generalize hA : (S.withStore s).setFlight (c.worker, w) (some ⟨read, .noting event⟩) = A
      have hAstore : A.store = s := hA ▸ rfl
      have hAflight : A.flights (c.worker, w) = some ⟨read, .noting event⟩ :=
        hA ▸ flights_setFlight _ _ _
      have hAsame : SameBut c.worker w S A := hA ▸ sameBut_written honly _
      rw [System.step, onFlight_of hAflight]
      dsimp only [System.writeFlight]
      rw [hid]
      obtain ⟨noted, hnoted, -, hcursor'⟩ := (append_kept w).1 new (hAstore.symm ▸ hnew)
      exact ⟨hAsame.trans (sameBut_written (onlyRow_append _ _ _ _) none), flights_setFlight _ _ _,
        noted, hnoted, hcursor.trans hcursor'⟩

/-- The advance of a workflow in hand has an outcome that counts, or raises. -/
theorem advances_end (hrow : row S.store w = some inst) (hread : inst.SameWorkflow read)
    (hflight : S.flights (c.worker, w) = some ⟨read, .claimed⟩) :
    SameBut c.worker w S (run System.step S (c.advances w)) ∧
    row (run System.step S (c.advances w)).store = row S.store ∧
    ((∃ signals outcome, (run System.step S (c.advances w)).flights (c.worker, w) =
        some ⟨inst, .ran signals outcome⟩ ∧ outcome.Moved c.x inst signals ∧ outcome.Counts inst) ∨
      ∃ exc, (run System.step S (c.advances w)).flights (c.worker, w) =
        some ⟨inst, .over (some exc)⟩) := by
  obtain ⟨U, signals, o, rfl, -, -, hrun⟩ := run_advances (c := c) hrow hread hflight
  have hlands : ∀ a o', SameBut c.worker w S
      (((S.setFlight (c.worker, w) o).land inst a).setFlight (c.worker, w) o') := by
    intro a o' v hv
    refine ⟨congrFun (row_withReceipts _ _) v, ?_⟩
    have hne : (c.worker, v) ≠ (c.worker, w) := fun h => hv (Prod.mk.inj h).2
    exact (Function.update_of_ne hne _ _).trans (Function.update_of_ne hne _ _)
  rw [hrun]
  refine ⟨?_, rows_runAdvance, ?_⟩
  · rw [System.runAdvance]
    split
    · exact hlands _ _
    · exact hlands _ _
  · rw [System.runAdvance]
    split
    · rename_i outcome a hadvance
      exact Or.inl ⟨signals, outcome, flights_setFlight _ _ _, advanceOnce_moved _ _ _ hadvance,
        advanceOnce_counts _ _ _ hadvance⟩
    · rename_i exc a hadvance
      exact Or.inr ⟨exc, flights_setFlight _ _ _⟩

variable {signals : List WorkflowSignal} {outcome : Outcome} {x : Surroundings}

/-- What the writes of an advance come to: its instance is stored, or the store has refused it. -/
def StoredOrRefused (S T : System σ) (worker : String) (w : Id) (inst : WorkflowInstance)
    (outcome : Outcome) : Prop :=
  SameBut worker w S T ∧
  ((T.flights (worker, w) = some ⟨inst, .over none⟩ ∧ ∃ written new, outcome.written = some written ∧
      row T.store w = some new ∧ written.SameCursor new ∧ Storable σ new.nextRunAt) ∨
    ∃ exc, T.flights (worker, w) = some ⟨inst, .over (some exc)⟩ ∧ row T.store w = some inst)

omit [Digest] [Json.CharTable] [LawfulWorkflowStore σ] in
theorem storedOrRefused_settled {written : WorkflowInstance} {result : Except PyExc σ}
    (hwritten : outcome.written = some written) (hrow : row S.store w = some inst)
    (hok : ∀ s, result = .ok s → OnlyRow w S.store s ∧ Storable σ written.nextRunAt ∧
      ∃ new, row s w = some new ∧ written.SameCursor new) :
    S.StoredOrRefused (S.settled (worker, w) inst (some (.over none)) result) worker w inst
      outcome := by
  cases result with
  | error exc => exact ⟨sameBut_setFlight _, Or.inr ⟨exc, flights_setFlight _ _ _, hrow⟩⟩
  | ok s =>
      obtain ⟨honly, hstorable, new, hnew, hcursor⟩ := hok s rfl
      refine ⟨sameBut_written honly _, Or.inl ⟨flights_setFlight _ _ _, written, new, hwritten, hnew,
        hcursor, ?_⟩⟩
      exact hcursor.nextRunAt ▸ hstorable

omit [Digest] [Json.CharTable] in
theorem storedOrRefused_outcome (utcNow : String) (hrow : row S.store w = some inst)
    (hfollows : outcome.Follows inst) (hmoved : outcome.Moved x inst signals)
    (hlive : inst.runStatus ∉ terminalRunStatuses) (hmark : outcome.mark = none) :
    S.StoredOrRefused (S.writeOutcome (worker, w) inst signals outcome utcNow) worker w inst
      outcome := by
  have hid : inst.workflowId = w := id_of_row hrow
  rw [System.writeOutcome, hmark]
  dsimp only
  split
  · rename_i bundle hwrite
    have hwritten : outcome.written = some bundle.instance_ := by rw [Outcome.written, hwrite]
    have hbundle : bundle.workflowId = w := (hfollows _ hwritten).same.workflowId.trans hid
    refine storedOrRefused_settled hwritten hrow fun s hcall => ?_
    obtain ⟨⟨_, new, _, _, hnew, hcursor, _⟩, honly, -⟩ := commit_ok hcall
    exact ⟨hbundle ▸ honly, commit_storable hcall, new, hbundle ▸ hnew, hcursor⟩
  · rename_i written hwrite
    have hwritten : outcome.written = some written := by rw [Outcome.written, hwrite]
    have hkey : written.workflowId = w := (hfollows _ hwritten).same.workflowId.trans hid
    refine storedOrRefused_settled hwritten hrow fun s hcall => ?_
    obtain ⟨_, new, _, _, hnew, hcursor, _, honly, -⟩ := update_ok hcall
    exact ⟨hkey ▸ honly, update_storable hcall, new, hkey ▸ hnew, hcursor⟩
  · rename_i hwrite
    exact absurd (hmoved.nothing (by rw [Outcome.written, hwrite])) hlive

omit [LawfulWorkflowStore σ] in
theorem write_ran {utcNow : String}
    (hflight : S.flights (worker, w) = some ⟨inst, .ran signals outcome⟩) :
    S.step (.write worker w utcNow) = S.writeOutcome (worker, w) inst signals outcome utcNow := by
  rw [System.step, onFlight_of hflight]
  rfl

theorem outcome_written (hS : S.Begun) (hrow : row S.store w = some inst)
    (hflight : S.flights (c.worker, w) = some ⟨inst, .ran signals outcome⟩)
    (hmoved : outcome.Moved x inst signals) (hlive : inst.runStatus ∉ terminalRunStatuses) :
    S.StoredOrRefused (run System.step S (c.writes w)) c.worker w inst outcome := by
  have hfollows : outcome.Follows inst := (hS.sound.flights _ _ hflight).phase
  rw [Call.writes, run_cons, run_cons, run_nil, write_ran hflight]
  cases hmark : outcome.mark with
  | none =>
      have hend : S.StoredOrRefused (S.writeOutcome (c.worker, w) inst signals outcome c.utcNow)
          c.worker w inst outcome :=
        storedOrRefused_outcome c.utcNow hrow hfollows hmoved hlive hmark
      rcases hend.2 with ⟨hover, _⟩ | ⟨exc, hover, _⟩
      · rw [write_over hover]
        exact hend
      · rw [write_over hover]
        exact hend
  | some signalId =>
      -- the signal is marked by a call of its own
      have hrows := (mark_ok (σ := σ) inst.tenantId signalId
        SignalConsumeResult.rejectedInvalid.value S.store).1
      rw [System.writeOutcome, hmark]
      dsimp only
      generalize hA : (S.withStore (markSignalConsumed inst.tenantId signalId
        SignalConsumeResult.rejectedInvalid.value S.store)).setFlight (c.worker, w)
          (some ⟨inst, .ran signals { outcome with mark := none }⟩) = A
      have hsame : SameBut c.worker w S A := hA ▸ sameBut_written (fun v _ => congrFun hrows v) _
      have hrowA : row A.store w = some inst := hA ▸ (congrFun hrows w).trans hrow
      have hflightA : A.flights (c.worker, w) =
          some ⟨inst, .ran signals { outcome with mark := none }⟩ := hA ▸ flights_setFlight _ _ _
      have hsecond : A.StoredOrRefused (A.writeOutcome (c.worker, w) inst signals
          { outcome with mark := none } c.utcNow) c.worker w inst { outcome with mark := none } :=
        storedOrRefused_outcome c.utcNow hrowA hfollows (hmoved.marking none) hlive rfl
      rw [write_ran hflightA]
      exact ⟨hsame.trans hsecond.1, hsecond.2⟩

end System

/-! ## What the worker makes of a try -/

namespace WorkflowInstance

/-- A workflow given up: nobody holds it, and it stays in this state. -/
structure Buried (state : WorkflowState) (inst : WorkflowInstance) : Prop where
  status : inst.runStatus = .deadLetter
  owner : inst.leaseOwner = none
  lease : inst.leaseExpiresAt = none
  state : inst.workflowState = state

/-- What becomes of a workflow that has been tried: a failure is counted, within the bound,
and one that is not worth another try or comes to the bound is the end. -/
def Tallies (cfg : WorkerConfig) (old new : WorkflowInstance) : Option Failure → Prop
  | none => new.attemptCount = old.attemptCount
  | some failure => new.attemptCount = old.attemptCount + 1 ∧ new.attemptCount ≤ cfg.maxAttempts ∧
      (failure.retryable = false ∨ cfg.maxAttempts ≤ new.attemptCount →
        new.Buried old.workflowState)

theorem buried_of_dead {nowIso reason : String} {inst new : WorkflowInstance}
    (h : (WorkflowWorker.dead nowIso reason inst).inst.SameCursor new) :
    new.Buried inst.workflowState :=
  ⟨h.runStatus.symm, h.leaseOwner.symm, h.leaseExpiresAt.symm, h.workflowState.symm⟩

end WorkflowInstance

namespace System

variable {σ : Type} [WorkflowStore σ] [LawfulWorkflowStore σ] [Digest] [Json.CharTable]
  {S T : System σ} {w : Id} {inst read : WorkflowInstance} {c : Call}

/-- The worker is done with the workflow, and its row is like this. -/
def Leaves (S T : System σ) (worker : String) (w : Id) (P : WorkflowInstance → Prop) : Prop :=
  SameBut worker w S T ∧ T.flights (worker, w) = none ∧
    ∃ new, row T.store w = some new ∧ Storable σ new.nextRunAt ∧ P new

omit [LawfulWorkflowStore σ] [Digest] [Json.CharTable] in
theorem Leaves.after {U : System σ} {worker : String} {P Q : WorkflowInstance → Prop}
    (h : T.Leaves U worker w P) (hsame : SameBut worker w S T) (hPQ : ∀ new, P new → Q new) :
    S.Leaves U worker w Q := by
  obtain ⟨hrest, hnone, new, hnew, hstorable, hP⟩ := h
  exact ⟨hsame.trans hrest, hnone, new, hnew, hstorable, hPQ new hP⟩

theorem looks_change (hS : S.Begun) {change : WorkflowWorker.Change}
    (hlook : S.step (.look c.worker w c.cfg c.nowIso c.nextRunAt) =
      S.setFlight (c.worker, w) (some ⟨inst, .changing change⟩))
    (hrow : row S.store w = some inst) (hstorable : Storable σ change.inst.nextRunAt) :
    S.Leaves (run System.step S (c.looks w)) c.worker w change.inst.SameCursor := by
  have hnext := hS.step (.look c.worker w c.cfg c.nowIso c.nextRunAt)
  have hlooks : run System.step S (c.looks w) =
      run System.step (S.step (.look c.worker w c.cfg c.nowIso c.nextRunAt)) (c.writes w) := rfl
  rw [hlook] at hnext hlooks
  rw [hlooks]
  obtain ⟨hsame, hnone, new, hnew, hcursor⟩ :=
    change_written hnext (flights_setFlight _ _ _) hrow (.refl inst) hstorable
  exact ⟨(sameBut_setFlight _).trans hsame, hnone, new, hnew, hcursor.nextRunAt ▸ hstorable, hcursor⟩

/-- What has escaped the advance is counted, and it is the end or there is another try. -/
theorem looks_escaped (hS : S.Begun) {exc : PyExc}
    (hflight : S.flights (c.worker, w) = some ⟨read, .over (some exc)⟩)
    (hrow : row S.store w = some inst) (hread : inst.SameWorkflow read)
    (hstorable : Storable σ inst.nextRunAt) (hless : inst.attemptCount < c.cfg.maxAttempts) :
    S.Leaves (run System.step S (c.looks w)) c.worker w fun new =>
      inst.Tallies c.cfg new (some (.escaped exc)) := by
  have hlook := look_raised hflight hrow hread
  rw [WorkflowWorker.handleProcessError] at hlook
  split at hlook
  · refine (looks_change hS hlook hrow hstorable).after (.refl S) fun new hcursor => ?_
    have hattempts : new.attemptCount = inst.attemptCount + 1 := hcursor.attemptCount.symm
    have hburied := buried_of_dead hcursor
    exact ⟨hattempts, hattempts ▸ hless, fun _ => hburied⟩
  · rename_i hagain
    obtain ⟨hretry, hbelow⟩ := not_or.mp hagain
    refine (looks_change hS hlook hrow (storable_some _)).after (.refl S) fun new hcursor => ?_
    have hattempts : new.attemptCount = inst.attemptCount + 1 := hcursor.attemptCount.symm
    refine ⟨hattempts, hattempts ▸ hless, ?_⟩
    rintro (hend | hbound)
    · exact absurd (Classical.not_not.mp hretry) (Bool.eq_false_iff.mp hend)
    · exact absurd (hattempts ▸ hbound) hbelow

/-- What the advance has scheduled again has been counted, and it is the end or the worker
says when. -/
theorem looks_retried (hS : S.Begun)
    (hflight : S.flights (c.worker, w) = some ⟨read, .over none⟩)
    (hrow : row S.store w = some inst) (hread : inst.SameWorkflow read)
    (hstorable : Storable σ inst.nextRunAt) (hretry : inst.runStatus = .retryScheduled) :
    S.Leaves (run System.step S (c.looks w)) c.worker w fun new =>
      new.attemptCount = inst.attemptCount ∧
        (c.cfg.maxAttempts ≤ inst.attemptCount → new.Buried inst.workflowState) := by
  have hlook := look_returned (c := c) hflight hrow hread
  rw [WorkflowWorker.settleRetry, if_neg (fun hnot => hnot hretry)] at hlook
  split at hlook
  · refine (looks_change hS hlook hrow hstorable).after (.refl S) fun new hcursor => ?_
    exact ⟨hcursor.attemptCount.symm, fun _ => buried_of_dead hcursor⟩
  · rename_i hbelow
    refine (looks_change hS hlook hrow (storable_some _)).after (.refl S) fun new hcursor => ?_
    exact ⟨hcursor.attemptCount.symm, fun hbound => absurd hbound hbelow⟩

theorem looks_settled (hflight : S.flights (c.worker, w) = some ⟨read, .over none⟩)
    (hrow : row S.store w = some inst) (hread : inst.SameWorkflow read)
    (hstorable : Storable σ inst.nextRunAt) (hsettled : inst.runStatus ≠ .retryScheduled) :
    S.Leaves (run System.step S (c.looks w)) c.worker w (· = inst) := by
  have hlook := look_returned (c := c) hflight hrow hread
  rw [WorkflowWorker.settleRetry, if_pos hsettled] at hlook
  rw [looks_nothing hlook]
  exact ⟨sameBut_setFlight _, flights_setFlight _ _ _, inst, hrow, hstorable, rfl⟩

/-! ## A try -/

/-- The worker has claimed the workflow; the row may have been woken since. -/
structure InHand (S : System σ) (w : Id) (read inst : WorkflowInstance) : Prop where
  row : row S.store w = some inst
  same : inst.SameWorkflow read
  attempts : inst.attemptCount = read.attemptCount
  claimed : Storable σ read.nextRunAt
  stored : Storable σ inst.nextRunAt
  status : inst.runStatus = .running ∨ inst.runStatus = .pending

omit [LawfulWorkflowStore σ] [Digest] [Json.CharTable] in
theorem InHand.live (h : S.InHand w read inst) : inst.runStatus ∉ terminalRunStatuses := by
  rcases h.status with hstatus | hstatus <;> rw [hstatus] <;> decide

omit [LawfulWorkflowStore σ] [Digest] [Json.CharTable] in
theorem InHand.due (h : S.InHand w read inst) : inst.runStatus ≠ .retryScheduled := by
  rcases h.status with hstatus | hstatus <;> rw [hstatus] <;> exact nofun

omit [LawfulWorkflowStore σ] [Digest] [Json.CharTable] in
theorem failure_of_escaped {worker : String} {exc : PyExc}
    (h : T.flights (worker, w) = some ⟨inst, .over (some exc)⟩) :
    T.failure worker w = some (.escaped exc) := by
  rw [System.failure, h]

omit [LawfulWorkflowStore σ] [Digest] [Json.CharTable] in
theorem failure_of_none {worker : String} (h : T.flights (worker, w) = none) :
    T.failure worker w = none := by
  rw [System.failure, h]

omit [LawfulWorkflowStore σ] [Digest] [Json.CharTable] in
theorem failure_of_returned {worker : String}
    (h : T.flights (worker, w) = some ⟨read, .over none⟩) (hrow : row T.store w = some inst) :
    T.failure worker w = if inst.runStatus = .retryScheduled then some .retried else none := by
  rw [System.failure, h, hrow]
  dsimp only [Option.any_some]
  simp only [decide_eq_true_eq]

/-- A workflow whose attempts are used up is not advanced; that is no failure. -/
theorem exhausted_ends (hS : S.Begun) (hflight : S.flights (c.worker, w) = some ⟨read, .claimed⟩)
    (hhand : S.InHand w read inst) (hexhausted : c.cfg.maxAttempts ≤ read.attemptCount) :
    (run System.step S (c.tries w)).failure c.worker w = none ∧
    S.Leaves (run System.step (run System.step S (c.tries w)) (c.looks w)) c.worker w fun new =>
      new.attemptCount = inst.attemptCount := by
  have hlook : S.step (.look c.worker w c.cfg c.nowIso c.nextRunAt) = S.setFlight (c.worker, w)
      (some ⟨read, .changing (WorkflowWorker.dead c.nowIso "max_attempts_exceeded" read)⟩) := by
    rw [System.step, onFlight_of hflight]
    dsimp only [System.lookAt]
    rw [WorkflowWorker.exhausted, if_pos hexhausted]
  have hbegun := hS.step (.look c.worker w c.cfg c.nowIso c.nextRunAt)
  rw [hlook] at hbegun
  rw [Call.tries, run_cons, run_append, hlook]
  generalize hA : S.setFlight (c.worker, w) (some ⟨read, .changing
    (WorkflowWorker.dead c.nowIso "max_attempts_exceeded" read)⟩) = A at *
  have hAflight : A.flights (c.worker, w) = some ⟨read, .changing
      (WorkflowWorker.dead c.nowIso "max_attempts_exceeded" read)⟩ := hA ▸ flights_setFlight _ _ _
  have hadvances : run System.step A (c.advances w) = A := by
    have hget : A.step (.get c.worker w) = A := by rw [System.step, onFlight_of hAflight]; rfl
    have htake : A.step (.take c.worker w) = A := by rw [System.step, onFlight_of hAflight]; rfl
    have hrun : A.step (.run c.worker w c.x) = A := by rw [System.step, onFlight_of hAflight]; rfl
    rw [Call.advances, run_cons, run_cons, run_cons, run_nil, hget, htake, hrun]
  rw [hadvances]
  have hArow : row A.store w = some inst := hA ▸ hhand.row
  obtain ⟨hsame, hnone, new, hnew, hcursor⟩ :=
    change_written hbegun hAflight hArow hhand.same.symm hhand.claimed
  generalize run System.step A (c.writes w) = B at *
  have hlookB : B.step (.look c.worker w c.cfg c.nowIso c.nextRunAt) = B := by
    rw [System.step, System.onFlight, hnone]
  have hlooks : run System.step B (c.looks w) = B := by
    rw [Call.looks, run_cons, run_cons, run_cons, run_nil, hlookB, write_none hnone, write_none hnone]
  rw [hlooks]
  refine ⟨failure_of_none hnone, SameBut.trans (hA ▸ sameBut_setFlight _) hsame, hnone, new, hnew,
    hcursor.nextRunAt ▸ hhand.claimed, ?_⟩
  exact hcursor.attemptCount.symm.trans hhand.attempts.symm

/-- How a try ends. -/
theorem try_ends (hS : S.Begun) (hflight : S.flights (c.worker, w) = some ⟨read, .claimed⟩)
    (hhand : S.InHand w read inst) :
    S.Leaves (run System.step (run System.step S (c.tries w)) (c.looks w)) c.worker w fun new =>
      inst.Tallies c.cfg new ((run System.step S (c.tries w)).failure c.worker w) := by
  by_cases hexhausted : c.cfg.maxAttempts ≤ read.attemptCount
  · obtain ⟨hfailure, hleaves⟩ := exhausted_ends hS hflight hhand hexhausted
    rw [hfailure]
    exact hleaves
  have hless : inst.attemptCount < c.cfg.maxAttempts := hhand.attempts ▸ Nat.lt_of_not_le hexhausted
  have hlook : S.step (.look c.worker w c.cfg c.nowIso c.nextRunAt) =
      S.setFlight (c.worker, w) (some ⟨read, .claimed⟩) := by
    rw [System.step, onFlight_of hflight]
    dsimp only [System.lookAt]
    rw [WorkflowWorker.exhausted, if_neg hexhausted]
  have hbegun := hS.step (.look c.worker w c.cfg c.nowIso c.nextRunAt)
  rw [hlook] at hbegun
  rw [Call.tries, run_cons, run_append, hlook]
  generalize hA : S.setFlight (c.worker, w) (some ⟨read, .claimed⟩) = A at *
  have hsameA : SameBut c.worker w S A := hA ▸ sameBut_setFlight _
  have hrowA : row A.store w = some inst := hA ▸ hhand.row
  obtain ⟨hsameB, hrowsB, hadvance⟩ :=
    advances_end hrowA hhand.same (hA ▸ flights_setFlight _ _ _ : A.flights _ = _)
  have hbegunB : (run System.step A (c.advances w)).Begun := hbegun.run _
  generalize run System.step A (c.advances w) = B at *
  have hrowB : row B.store w = some inst := (congrFun hrowsB w).trans hrowA
  have hescaped : ∀ {M : System σ} {exc : PyExc}, M.Begun → SameBut c.worker w S M →
      M.flights (c.worker, w) = some ⟨inst, .over (some exc)⟩ → row M.store w = some inst →
      S.Leaves (run System.step M (c.looks w)) c.worker w fun new =>
        inst.Tallies c.cfg new (M.failure c.worker w) := by
    intro M exc hM hsame hover hrow
    rw [failure_of_escaped hover]
    exact (looks_escaped hM hover hrow (.refl inst) hhand.stored hless).after hsame fun _ h => h
  rcases hadvance with ⟨signals, outcome, hran, hmoved, hcounts⟩ | ⟨exc, hover⟩
  · obtain ⟨hsameM, hend⟩ := outcome_written hbegunB hrowB hran hmoved hhand.live
    have hbegunM : (run System.step B (c.writes w)).Begun := hbegunB.run _
    generalize run System.step B (c.writes w) = M at *
    have hsame : SameBut c.worker w S M := (hsameA.trans hsameB).trans hsameM
    rcases hend with ⟨hover, written, new, hwritten, hnew, hcursor, hstorable⟩ | ⟨exc, hover, hrow⟩
    · obtain ⟨old, hold, hinst⟩ := (hbegunM.sound.flights _ _ hover).row
      rw [id_of_row hrowB] at hold
      obtain rfl := Option.some.inj (hnew.symm.trans hold)
      rw [failure_of_returned hover hnew]
      by_cases hretry : new.runStatus = .retryScheduled
      · have hretried : inst.RetriedTo written := retriedTo_of_moved (hmoved.written _ hwritten).1
          hhand.due (hcursor.runStatus.trans hretry)
        rw [if_pos hretry]
        refine (looks_retried hbegunM hover hnew hinst.symm hstorable hretry).after hsame ?_
        rintro last ⟨hattempts, hburied⟩
        have hcount : new.attemptCount = inst.attemptCount + 1 :=
          hcursor.attemptCount.symm.trans hretried.attempts
        have hstate : new.workflowState = inst.workflowState :=
          hcursor.workflowState.symm.trans hretried.state
        refine ⟨hattempts.trans hcount, ?_, ?_⟩
        · rw [hattempts, hcount]
          exact hless
        · rintro (hnever | hbound)
          · cases hnever
          · exact hstate ▸ hburied (hattempts ▸ hbound)
      · rw [if_neg hretry]
        refine (looks_settled hover hnew hinst.symm hstorable hretry).after hsame ?_
        rintro last rfl
        rcases hcounts _ hwritten with hkept | hretried
        · exact hcursor.attemptCount.symm.trans hkept
        · exact absurd (hcursor.runStatus.symm.trans hretried.status) hretry
    · exact hescaped hbegunM hsame hover hrow
  · have hwrites : run System.step B (c.writes w) = B := by
      rw [Call.writes, run_cons, run_cons, run_nil, write_over hover, write_over hover]
    rw [hwrites]
    exact hescaped hbegunB (hsameA.trans hsameB) hover hrowB

omit [LawfulWorkflowStore σ] in
theorem tries_none (h : S.flights (c.worker, w) = none) : run System.step S (c.tries w) = S := by
  have hlook : S.step (.look c.worker w c.cfg c.nowIso c.nextRunAt) = S := by
    rw [System.step, System.onFlight, h]
  have hget : S.step (.get c.worker w) = S := by rw [System.step, System.onFlight, h]
  have htake : S.step (.take c.worker w) = S := by rw [System.step, System.onFlight, h]
  have hrun : S.step (.run c.worker w c.x) = S := by rw [System.step, System.onFlight, h]
  rw [Call.tries, run_cons, run_append, Call.advances, run_cons, run_cons, run_cons, run_nil, hlook,
    hget, htake, hrun, Call.writes, run_cons, run_cons, run_nil, write_none h, write_none h]

omit [LawfulWorkflowStore σ] in
theorem looks_none (h : S.flights (c.worker, w) = none) : run System.step S (c.looks w) = S := by
  have hlook : S.step (.look c.worker w c.cfg c.nowIso c.nextRunAt) = S := by
    rw [System.step, System.onFlight, h]
  rw [Call.looks, run_cons, run_cons, run_cons, run_nil, hlook, write_none h, write_none h]

end System

/-! ## Between the tries -/

namespace System

variable {σ : Type} [WorkflowStore σ] {S T : System σ}

def Awake (inst : WorkflowInstance) : Prop := inst.runStatus = .running ∨ inst.runStatus = .pending

/-- No row is lost and no attempt counted; new rows have none. -/
structure RowsKept (S T : System σ) : Prop where
  kept : ∀ w old, row S.store w = some old → ∃ new, row T.store w = some new ∧
    new.SameWorkflow old ∧ new.attemptCount = old.attemptCount ∧
    (Storable σ old.nextRunAt → Storable σ new.nextRunAt) ∧ (Awake old → Awake new)
  fresh : ∀ w new, row S.store w = none → row T.store w = some new →
    new.attemptCount = 0 ∧ Storable σ new.nextRunAt

theorem RowsKept.of_rows (h : row T.store = row S.store) : RowsKept S T := by
  refine ⟨fun w old hold => ⟨old, by rw [h, hold], .refl old, rfl, fun h => h, fun h => h⟩, ?_⟩
  intro w new hnone hnew
  rw [h, hnone] at hnew
  exact nomatch hnew

theorem RowsKept.of_onlyRow {v : Id} {old new : WorkflowInstance}
    (honly : OnlyRow v S.store T.store) (hold : row S.store v = some old)
    (hnew : row T.store v = some new) (hsame : new.SameWorkflow old)
    (hattempts : new.attemptCount = old.attemptCount) (hstorable : Storable σ new.nextRunAt)
    (hawake : Awake new) : RowsKept S T := by
  refine ⟨fun w inst hinst => ?_, fun w inst hnone hinst => ?_⟩
  · by_cases hw : w = v
    · subst hw
      obtain rfl := Option.some.inj (hold.symm.trans hinst)
      exact ⟨new, hnew, hsame, hattempts, fun _ => hstorable, fun _ => hawake⟩
    · exact ⟨inst, (honly w hw).trans hinst, .refl inst, rfl, fun h => h, fun h => h⟩
  · by_cases hw : w = v
    · rw [hw, hold] at hnone
      exact nomatch hnone
    · rw [honly w hw, hnone] at hinst
      exact nomatch hinst

theorem started_attempts {x : Surroundings} {request : StartRequest} {inst : WorkflowInstance}
    (h : WorkflowRuntime.started x request = .ok inst) : inst.attemptCount = 0 := by
  cases request with
  | expense r => exact Except.ok.inj h ▸ rfl
  | digest r => exact Except.ok.inj h ▸ rfl
  | correction r =>
      rw [WorkflowRuntime.started, WorkflowRuntime.startCorrection] at h
      split at h
      · cases h
      · exact Except.ok.inj h ▸ rfl

variable [LawfulWorkflowStore σ]

theorem rowsKept_start (x : Surroundings) (request : StartRequest) :
    RowsKept S (S.start x request) ∧ (S.start x request).flights = S.flights := by
  rw [System.start]
  split
  · exact ⟨.of_rows rfl, rfl⟩
  rename_i inst hstarted
  split
  · exact ⟨.of_rows rfl, rfl⟩
  rename_i created hcreate
  obtain ⟨hnone, ⟨first, hfirst, hsame, heq⟩, honly, -⟩ := create_ok hcreate
  refine ⟨⟨fun w old hold => ?_, fun w new hw hnew => ?_⟩, rfl⟩
  · have hne : w ≠ inst.workflowId := by
      rintro rfl
      cases hnone.symm.trans hold
    obtain ⟨new, hnew, hsame', hcursor⟩ := (append_kept w).1 old ((honly w hne).trans hold)
    refine ⟨new, hnew, hsame', hcursor.attemptCount.symm, fun h => hcursor.nextRunAt ▸ h, ?_⟩
    exact Or.imp hcursor.runStatus.symm.trans hcursor.runStatus.symm.trans
  · by_cases hid : w = inst.workflowId
    · subst hid
      obtain ⟨after, hafter, -, hcursor⟩ := (append_kept inst.workflowId).1 first hfirst
      obtain rfl := Option.some.inj (hnew.symm.trans hafter)
      have hfresh : first.attemptCount = inst.attemptCount := heq ▸ rfl
      refine ⟨hcursor.attemptCount.symm.trans (hfresh.trans (started_attempts hstarted)), ?_⟩
      exact hcursor.nextRunAt ▸ create_storable hcreate hfirst
    · cases hnew.symm.trans ((append_kept w).2 ((honly w hid).trans hw))

theorem rowsKept_enqueue (x : Surroundings) (signal : WorkflowSignal) :
    RowsKept S (S.enqueue x signal) ∧ (S.enqueue x signal).flights = S.flights := by
  rw [System.enqueue]
  split
  · exact ⟨.of_rows rfl, rfl⟩
  · rename_i s hcall
    obtain ⟨⟨old, new, hold, _, hnew, hstatus, hsame, -⟩, honly, -⟩ := enqueue_ok hcall
    obtain ⟨hattempts, hstorable⟩ := enqueue_attempts hcall hold hnew
    exact ⟨.of_onlyRow honly hold hnew hsame.symm hattempts hstorable (Or.inr hstatus), rfl⟩

theorem rowsKept_sweep (now : Datetime) :
    RowsKept S (S.withStore (sweepApprovalTimeouts now S.store).2) := by
  refine ⟨fun w old hold => ?_, fun w new hnone hnew => ?_⟩
  · rcases sweep_rows now S.store w with heq | ⟨old', new, hold', hnew, hswept⟩
    · exact ⟨old, heq.trans hold, .refl old, rfl, fun h => h, fun h => h⟩
    · obtain rfl := Option.some.inj (hold'.symm.trans hold)
      obtain ⟨hwaiting, -, nowIso, descriptor, seq, heq⟩ := hswept
      refine ⟨new, hnew, heq ▸ ⟨rfl, rfl, rfl, rfl, rfl, rfl⟩, heq ▸ rfl, fun h => heq ▸ h, ?_⟩
      rintro (hrunning | hpending)
      · exact nomatch hwaiting.symm.trans hrunning
      · exact nomatch hwaiting.symm.trans hpending
  · rcases sweep_rows now S.store w with heq | ⟨old', _, hold', _⟩
    · exact nomatch hnew.symm.trans (heq.trans hnone)
    · exact nomatch hold'.symm.trans hnone

omit [WorkflowStore σ] [LawfulWorkflowStore σ] in
/-- What the worker has of a workflow after a claim. -/
theorem flights_foldl {worker : String} {w : Id} {f : Flight} (insts : List WorkflowInstance)
    (T : System σ) (h : (insts.foldl (fun T inst =>
      T.setFlight (worker, inst.workflowId) (some ⟨inst, .claimed⟩)) T).flights (worker, w) = some f) :
    (∃ inst ∈ insts, inst.workflowId = w ∧ f = ⟨inst, .claimed⟩) ∨
      T.flights (worker, w) = some f ∧ ∀ inst ∈ insts, inst.workflowId ≠ w := by
  induction insts generalizing T with
  | nil => exact Or.inr ⟨h, fun _ hinst => absurd hinst List.not_mem_nil⟩
  | cons inst rest ih =>
      rcases ih _ h with ⟨found, hfound, hid, hf⟩ | ⟨hf, hrest⟩
      · exact Or.inl ⟨found, List.mem_cons_of_mem _ hfound, hid, hf⟩
      by_cases hid : inst.workflowId = w
      · subst hid
        have hset := flights_setFlight (worker, inst.workflowId) (some ⟨inst, .claimed⟩) T
        exact Or.inl ⟨inst, List.mem_cons_self, rfl, Option.some.inj (hf.symm.trans hset)⟩
      · have hne : (worker, w) ≠ (worker, inst.workflowId) := fun h => hid (Prod.mk.inj h).2.symm
        refine Or.inr ⟨(Function.update_of_ne hne _ _).symm.trans hf, fun other hother => ?_⟩
        rcases List.mem_cons.mp hother with rfl | hother
        · exact hid
        · exact hrest other hother

end System

/-! ## A run of ticks -/

namespace Ticking

variable {σ : Type} [WorkflowStore σ] [LawfulWorkflowStore σ] [Digest] [Json.CharTable]
  {worker : String} {cfg : WorkerConfig} {R : Ticking σ} {T : System σ} {w : Id} {c : Call}

/-- What holds between the steps: no workflow has more attempts than there are, and what the
tick has still to take is as it was claimed, or woken since. -/
structure Ok (worker : String) (cfg : WorkerConfig) (R : Ticking σ) : Prop where
  begun : R.system.Begun
  rows : ∀ w inst, row R.system.store w = some inst →
    Storable σ inst.nextRunAt ∧ inst.attemptCount ≤ cfg.maxAttempts
  held : ∀ w ∈ R.claimed, ∀ f, R.system.flights (worker, w) = some f →
    ∃ read inst, f = ⟨read, .claimed⟩ ∧ R.system.InHand w read inst

/-- The attempts of a workflow from one state to the next, with the failure in between. -/
structure Counted (cfg : WorkerConfig) (w : Id) (S T : System σ) (failed : Option Failure) : Prop where
  known : ∀ old, row S.store w = some old →
    ∃ new, row T.store w = some new ∧ old.Tallies cfg new failed
  unknown : row S.store w = none → failed = none ∧ T.attempts w = 0

omit [LawfulWorkflowStore σ] [Digest] [Json.CharTable] in
theorem counted_of_kept {S : System σ} (h : S.RowsKept T) : Counted cfg w S T none := by
  constructor
  · intro old hold
    obtain ⟨new, hnew, -, hattempts, -⟩ := h.kept w old hold
    exact ⟨new, hnew, hattempts⟩
  · intro hnone
    refine ⟨rfl, ?_⟩
    rw [System.attempts]
    cases hnew : row T.store w with
    | none => rfl
    | some new => exact (h.fresh w new hnone hnew).1

omit [LawfulWorkflowStore σ] [Digest] [Json.CharTable] in
theorem rows_of_kept {S : System σ} (h : S.RowsKept T)
    (hrows : ∀ w inst, row S.store w = some inst →
      Storable σ inst.nextRunAt ∧ inst.attemptCount ≤ cfg.maxAttempts) :
    ∀ w inst, row T.store w = some inst →
      Storable σ inst.nextRunAt ∧ inst.attemptCount ≤ cfg.maxAttempts := by
  intro w inst hinst
  cases hold : row S.store w with
  | none =>
      obtain ⟨hzero, hstorable⟩ := h.fresh w inst hold hinst
      exact ⟨hstorable, hzero ▸ Nat.zero_le _⟩
  | some old =>
      obtain ⟨new, hnew, -, hattempts, hstorable, -⟩ := h.kept w old hold
      obtain rfl := Option.some.inj (hnew.symm.trans hinst)
      exact ⟨hstorable (hrows w old hold).1, hattempts ▸ (hrows w old hold).2⟩

omit [LawfulWorkflowStore σ] [Digest] [Json.CharTable] in
theorem inHand_of_kept {S : System σ} {read inst : WorkflowInstance} (h : S.RowsKept T)
    (hhand : S.InHand w read inst) : ∃ new, T.InHand w read new := by
  obtain ⟨new, hnew, hsame, hattempts, hstorable, hawake⟩ := h.kept w inst hhand.row
  exact ⟨new, hnew, hsame.trans hhand.same, hattempts.trans hhand.attempts, hhand.claimed,
    hstorable hhand.stored, hawake hhand.status⟩

omit [LawfulWorkflowStore σ] [Digest] [Json.CharTable] in
/-- A step that is none of the worker's. -/
theorem Ok.beside (hR : R.Ok worker cfg) (hbegun : T.Begun)
    (h : R.system.RowsKept T ∧ T.flights = R.system.flights) :
    ({ R with system := T } : Ticking σ).Ok worker cfg := by
  refine ⟨hbegun, rows_of_kept h.1 hR.rows, fun w hw f hf => ?_⟩
  obtain ⟨read, inst, rfl, hhand⟩ := hR.held w hw f (h.2 ▸ hf)
  obtain ⟨new, hnew⟩ := inHand_of_kept h.1 hhand
  exact ⟨read, new, rfl, hnew⟩

theorem Ok.claim (hR : R.Ok worker cfg) (limit : Nat) (now : Datetime) (leaseTtl : Nat) :
    R.system.RowsKept (R.system.step (.claim worker limit now leaseTtl)) ∧
    Ok worker cfg ⟨R.system.step (.claim worker limit now leaseTtl),
      (returned R.system.store (.claim worker limit now leaseTtl)).map (·.workflowId)⟩ := by
  have hbegun := hR.begun.step (.claim worker limit now leaseTtl)
  rw [System.step, System.claim] at hbegun ⊢
  rw [WorkflowStore.returned]
  cases hcall : WorkflowStore.claim worker limit now leaseTtl R.system.store with
  | error exc =>
      exact ⟨.of_rows rfl, hR.begun, hR.rows, fun w hw => absurd hw List.not_mem_nil⟩
  | ok result =>
      obtain ⟨claimed, s⟩ := result
      rw [hcall] at hbegun
      dsimp only at hbegun ⊢
      obtain ⟨hclaimed, hrest, -⟩ := claim_ok hcall
      have hkept : R.system.RowsKept (claimed.foldl (fun S inst =>
          S.setFlight (worker, inst.workflowId) (some ⟨inst, .claimed⟩)) (R.system.withStore s)) := by
        refine ⟨fun w old hold => ?_, fun w new hnone hnew => ?_⟩
        · rw [System.store_foldl_setFlight]
          by_cases hw : ∃ inst ∈ claimed, inst.workflowId = w
          · obtain ⟨inst, hinst, rfl⟩ := hw
            obtain ⟨hnew, old', lease, nowIso, hold', -, heq⟩ := hclaimed inst hinst
            obtain rfl := Option.some.inj (hold'.symm.trans hold)
            exact ⟨inst, hnew, heq ▸ ⟨rfl, rfl, rfl, rfl, rfl, rfl⟩, heq ▸ rfl, fun h => heq ▸ h,
              fun _ => Or.inl (heq ▸ rfl)⟩
          · refine ⟨old, (hrest w fun inst hinst hid => hw ⟨inst, hinst, hid⟩).trans hold, .refl old,
              rfl, fun h => h, fun h => h⟩
        · rw [System.store_foldl_setFlight] at hnew
          by_cases hw : ∃ inst ∈ claimed, inst.workflowId = w
          · obtain ⟨inst, hinst, rfl⟩ := hw
            obtain ⟨-, old', _, _, hold', -⟩ := hclaimed inst hinst
            cases hold'.symm.trans hnone
          · have hsame := hrest w fun inst hinst hid => hw ⟨inst, hinst, hid⟩
            cases hnew.symm.trans (hsame.trans hnone)
      refine ⟨hkept, hbegun, rows_of_kept hkept hR.rows, fun w hw f hf => ?_⟩
      rcases System.flights_foldl claimed _ hf with ⟨inst, hinst, rfl, rfl⟩ | ⟨-, hnot⟩
      · obtain ⟨hnew, old, lease, nowIso, hold, -, heq⟩ := hclaimed inst hinst
        have hstorable : Storable σ inst.nextRunAt := heq ▸ (hR.rows _ old hold).1
        refine ⟨inst, inst, rfl, ?_, .refl inst, rfl, hstorable, hstorable, Or.inl (heq ▸ rfl)⟩
        rw [System.store_foldl_setFlight]
        exact hnew
      · obtain ⟨inst, hinst, hid⟩ := List.mem_map.mp hw
        exact absurd hid (hnot inst hinst)

/-- A try counts its failure, and the rest of the tick is as it was. -/
theorem Ok.process (hR : R.Ok c.worker c.cfg) {rest : List Id} (hclaimed : R.claimed = w :: rest) :
    (R.process c).Ok c.worker c.cfg ∧
    (∀ v, v ≠ w → row (R.process c).system.store v = row R.system.store v) ∧
    Counted c.cfg w R.system (R.process c).system ((R.tried c w).failure c.worker w) := by
  have hprocess : R.process c = ⟨run System.step (R.tried c w) (c.looks w),
      if ((run System.step (R.tried c w) (c.looks w)).flights (c.worker, w)).isNone then rest
        else []⟩ := by
    rw [Ticking.process, hclaimed]
  have hrest : ∀ v ∈ rest, v ∈ R.claimed := fun v hv => hclaimed ▸ List.mem_cons_of_mem _ hv
  cases hflight : R.system.flights (c.worker, w) with
  | none =>
      have htried : R.tried c w = R.system := System.tries_none hflight
      rw [htried, System.looks_none hflight, if_pos (by rw [hflight]; rfl)] at hprocess
      rw [hprocess, htried, System.failure_of_none hflight]
      exact ⟨⟨hR.begun, hR.rows, fun v hv => hR.held v (hrest v hv)⟩, fun _ _ => rfl,
        counted_of_kept (.of_rows rfl)⟩
  | some f =>
      obtain ⟨read, inst, rfl, hhand⟩ := hR.held w (hclaimed ▸ List.mem_cons_self) f hflight
      obtain ⟨hsame, hnone, new, hnew, hstorable, htallies⟩ :=
        System.try_ends hR.begun hflight hhand
      have hbegun : (run System.step (R.tried c w) (c.looks w)).Begun :=
        (hR.begun.run (c.tries w)).run (c.looks w)
      rw [← Ticking.tried] at hsame hnone hnew htallies
      rw [if_pos (by rw [hnone]; rfl)] at hprocess
      rw [hprocess]
      generalize run System.step (R.tried c w) (c.looks w) = T at *
      have hbound : new.attemptCount ≤ c.cfg.maxAttempts := by
        cases hfailure : (R.tried c w).failure c.worker w with
        | none =>
            rw [hfailure] at htallies
            exact htallies ▸ (hR.rows w inst hhand.row).2
        | some failure =>
            rw [hfailure] at htallies
            exact htallies.2.1
      refine ⟨⟨hbegun, fun v found hfound => ?_, fun v hv g hg => ?_⟩, fun v hv => (hsame v hv).1, ?_⟩
      · by_cases hv : v = w
        · subst hv
          obtain rfl := Option.some.inj (hnew.symm.trans hfound)
          exact ⟨hstorable, hbound⟩
        · exact hR.rows v found ((hsame v hv).1.symm.trans hfound)
      · have hne : v ≠ w := by
          rintro rfl
          exact nomatch hnone.symm.trans hg
        obtain ⟨held, old, rfl, hheld⟩ := hR.held v (hrest v hv) g ((hsame v hne).2.symm.trans hg)
        exact ⟨held, old, rfl, (hsame v hne).1.trans hheld.row, hheld.same, hheld.attempts,
          hheld.claimed, hheld.stored, hheld.status⟩
      · refine ⟨fun old hold => ?_, fun hnone => nomatch hnone.symm.trans hhand.row⟩
        obtain rfl := Option.some.inj (hhand.row.symm.trans hold)
        exact ⟨new, hnew, htallies⟩

/-- Every step counts the failure in it, and nothing else. -/
theorem step_tallies (hR : R.Ok worker cfg) (s : TickStep) (w : Id) :
    (R.step worker cfg s).Ok worker cfg ∧
      Counted cfg w R.system (R.step worker cfg s).system (R.failed worker cfg w s) := by
  cases s with
  | start x request =>
      have h := System.rowsKept_start (S := R.system) x request
      exact ⟨hR.beside (hR.begun.step (.start x request)) h, counted_of_kept h.1⟩
  | approve x tenantId v approval =>
      have h : R.system.RowsKept (R.system.step (.approve x tenantId v approval)) ∧
          (R.system.step (.approve x tenantId v approval)).flights = R.system.flights := by
        rw [System.step]
        split
        · exact System.rowsKept_enqueue x _
        · exact ⟨.of_rows rfl, rfl⟩
      exact ⟨hR.beside (hR.begun.step _) h, counted_of_kept h.1⟩
  | operate x tenantId v signalType fields =>
      have h : R.system.RowsKept (R.system.step (.operate x tenantId v signalType fields)) ∧
          (R.system.step (.operate x tenantId v signalType fields)).flights = R.system.flights := by
        rw [System.step]
        split
        · exact ⟨.of_rows rfl, rfl⟩
        · exact System.rowsKept_enqueue x _
      exact ⟨hR.beside (hR.begun.step _) h, counted_of_kept h.1⟩
  | sweep now =>
      have h := System.rowsKept_sweep (S := R.system) now
      exact ⟨hR.beside (hR.begun.step (.sweep now)) ⟨h, rfl⟩, counted_of_kept h⟩
  | claim limit now leaseTtl =>
      obtain ⟨hkept, hok⟩ := hR.claim limit now leaseTtl
      rw [Ticking.step]
      split
      · exact ⟨hok, counted_of_kept hkept⟩
      · exact ⟨hR, counted_of_kept (.of_rows rfl)⟩
  | crash =>
      exact ⟨⟨hR.begun, hR.rows, fun _ hv => absurd hv List.not_mem_nil⟩,
        counted_of_kept (.of_rows rfl)⟩
  | process c =>
      rw [Ticking.step, Ticking.failed]
      cases hclaimed : R.claimed with
      | nil =>
          rw [Ticking.process, hclaimed]
          exact ⟨hR, counted_of_kept (.of_rows rfl)⟩
      | cons v rest =>
          obtain ⟨hok, hothers, hcounted⟩ := Ok.process (c := { c with worker, cfg }) hR hclaimed
          refine ⟨hok, ?_⟩
          by_cases hv : v = w
          · subst hv
            rw [if_pos (List.head?_cons)]
            exact hcounted
          · have hother : (v :: rest).head? ≠ some w := fun h => hv (Option.some.inj h)
            rw [if_neg hother]
            have hrow := hothers w fun h => hv h.symm
            refine ⟨fun old hold => ⟨old, hrow.trans hold, rfl⟩, fun hnone => ⟨rfl, ?_⟩⟩
            rw [System.attempts, hrow, hnone]
            rfl

omit [LawfulWorkflowStore σ] [Digest] [Json.CharTable] in
/-- With one failure more there is one attempt more. -/
theorem Counted.attempts {S : System σ} {failed : Option Failure} (h : Counted cfg w S T failed) :
    T.attempts w = S.attempts w + failed.toList.length := by
  cases hold : row S.store w with
  | none =>
      obtain ⟨rfl, hzero⟩ := h.unknown hold
      rw [hzero, System.attempts, hold]
      rfl
  | some old =>
      obtain ⟨new, hnew, htallies⟩ := h.known old hold
      rw [System.attempts, System.attempts, hold, hnew]
      cases failed with
      | none => exact htallies
      | some failure => exact htallies.1

theorem attempts_of_run (hR : R.Ok worker cfg) (steps : List TickStep) (w : Id) :
    (run (Ticking.step worker cfg) R steps).Ok worker cfg ∧
      (run (Ticking.step worker cfg) R steps).system.attempts w =
        R.system.attempts w + (R.failures worker cfg w steps).length := by
  induction steps generalizing R with
  | nil => exact ⟨hR, rfl⟩
  | cons s rest ih =>
      obtain ⟨hok, hcounted⟩ := step_tallies hR s w
      obtain ⟨hend, hrest⟩ := ih hok
      refine ⟨hend, ?_⟩
      rw [run_cons, hrest, hcounted.attempts, Ticking.failures, List.length_append, Nat.add_assoc]

omit [LawfulWorkflowStore σ] [Digest] [Json.CharTable] in
theorem Ok.attempts_le (hR : R.Ok worker cfg) (w : Id) :
    R.system.attempts w ≤ cfg.maxAttempts := by
  rw [System.attempts]
  cases hrow : row R.system.store w with
  | none => exact Nat.zero_le _
  | some inst => exact (hR.rows w inst hrow).2

omit [LawfulWorkflowStore σ] in
/-- In a run of one worker: the attempts of the workflow only grow, it fails at most as often
as there are attempts, and a failure that is not worth another try or comes to the bound
leaves it dead-lettered, unleased, and in the state it was in. -/
structure RetriesBounded (worker : String) (cfg : WorkerConfig) (w : Id) (R : Ticking σ)
    (steps : List TickStep) : Prop where
  monotone : ∀ past later, past <+: later → later <+: steps →
    (run (Ticking.step worker cfg) R past).system.attempts w ≤
      (run (Ticking.step worker cfg) R later).system.attempts w
  bounded : (R.failures worker cfg w steps).length ≤ cfg.maxAttempts
  ends : ∀ past s, past ++ [s] <+: steps →
    ∀ failure ∈ (run (Ticking.step worker cfg) R past).failed worker cfg w s,
      ∃ old ∈ row (run (Ticking.step worker cfg) R past).system.store w,
        ∃ new ∈ row (run (Ticking.step worker cfg) R (past ++ [s])).system.store w,
          new.attemptCount = old.attemptCount + 1 ∧
          (failure.retryable = false ∨ cfg.maxAttempts ≤ new.attemptCount →
            new.Buried old.workflowState)

omit [LawfulWorkflowStore σ] [Digest] [Json.CharTable] in
theorem ok_of_fresh {S : System σ} (hS : S.Fresh) : Ok worker cfg ⟨S, []⟩ := by
  refine ⟨hS.begun, fun w inst hinst => ?_, fun w hw => absurd hw List.not_mem_nil⟩
  exact nomatch (hS.rows w).symm.trans hinst

end Ticking

open Ticking in
theorem retries_bounded {σ : Type} [WorkflowStore σ] [LawfulWorkflowStore σ] [Digest]
    [Json.CharTable] {S : System σ} (hS : S.Fresh) (worker : String) (cfg : WorkerConfig)
    (steps : List TickStep) (w : Id) : RetriesBounded worker cfg w ⟨S, []⟩ steps := by
  have hfresh : Ok worker cfg ⟨S, []⟩ := ok_of_fresh hS
  constructor
  · rintro past later ⟨rest, rfl⟩ -
    have hok := (attempts_of_run hfresh past w).1
    rw [run_append, (attempts_of_run hok rest w).2]
    exact Nat.le_add_right _ _
  · obtain ⟨hok, hcount⟩ := attempts_of_run hfresh steps w
    have hnone : System.attempts w S = 0 := by
      rw [System.attempts, hS.rows w]
      rfl
    rw [hnone, Nat.zero_add] at hcount
    exact hcount ▸ hok.attempts_le w
  · intro past s _ failure hfailure
    have hok := (attempts_of_run hfresh past w).1
    have hcounted := (step_tallies hok s w).2
    rw [run_append]
    rw [show (run (Ticking.step worker cfg) ⟨S, []⟩ past).failed worker cfg w s = some failure from
      hfailure] at hcounted
    cases hold : row (run (Ticking.step worker cfg) ⟨S, []⟩ past).system.store w with
    | none => exact nomatch (hcounted.unknown hold).1
    | some old =>
        obtain ⟨new, hnew, hattempts, -, hend⟩ := hcounted.known old hold
        exact ⟨old, rfl, new, hnew, hattempts, hend⟩

section Sample

attribute [local instance] Digest.plain Json.CharTable.all

namespace Ticking

/-- An expense with evidence that cannot be read through is started and tried twice. -/
def Sample.unreadable : List TickStep := [
  .start (System.Sample.at 20 0) (.expense {
    tenantId := "org", expenseRow := { evidence := .notIterable "int" }
    preImportedExpenseId := some "spent" }),
  .claim 10 noonNextDay 60, .process System.Sample.call,
  .claim 10 (noonNextDay.addSeconds 120) 60, .process System.Sample.call]

end Ticking

open Ticking in
theorem unreadable_expense_buried :
    RetriesBounded "w" { maxAttempts := 2 } "wf_20_0" ⟨System.Sample.system, []⟩ Sample.unreadable ∧
    (failures "w" { maxAttempts := 2 } "wf_20_0" ⟨System.Sample.system, []⟩
      Sample.unreadable).length = 2 ∧
    ((row (run (Ticking.step "w" { maxAttempts := 2 }) ⟨System.Sample.system, []⟩
      Sample.unreadable).system.store "wf_20_0").any fun inst =>
        inst.runStatus = .deadLetter ∧ inst.workflowState = .normalized) = true :=
  ⟨retries_bounded System.Sample.system_fresh _ _ _ _, by decide +kernel, by decide +kernel⟩

end Sample

end ImpactRelay
