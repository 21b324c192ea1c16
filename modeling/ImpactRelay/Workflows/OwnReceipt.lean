/-
# `Workflows.OwnReceipt` — which receipt the email of a workflow is about

An expense workflow publishes for one donation, and when it comes to the email it does
not remember what it has published: it takes the last receipt the ledger has for the
expense (`advancePublished`).  Between the two anybody may store a receipt of the
expense, another donor's publication or the correction of either, and then the email
goes out for that one.

`emails_own_receipt`: in every run in which that does not happen, what is frozen for the
send is the preview of a receipt that the workflow itself has published, an original for
the donation and the allocation its spec names.
-/
import ImpactRelay.Workflows.Deadlines
import ImpactRelay.Workflows.Publication

namespace ImpactRelay

open Raise WorkflowStore LawfulWorkflowStore WorkflowInstance WorkflowRuntime

/-! ## What an advance leaves waiting for a send -/

namespace WorkflowInstance

/-- An expense workflow that publishes for a donor and then sends an email. -/
structure Mails (inst : WorkflowInstance) : Prop where
  kind : inst.workflowType = .expenseToReceipt
  publishes : inst.context.publishSpec.filter (· ≠ {}) ≠ none
  sends : inst.context.sendEmail = true

/-- The receipt is an original, for the donation and the allocation of the spec. -/
def Specifies (inst : WorkflowInstance) (r : UseOfFundsReceipt) : Prop :=
  ∃ spec ∈ inst.context.publishSpec, spec.donationId = some r.donationId ∧
    orElse spec.allocationId inst.context.allocationId = some r.allocationId ∧
    inst.context.expenseId = some r.expenditureExpenseId ∧ r.corrected = false

/-- Of the context only the wait has changed. -/
def KeepsContext (inst new : WorkflowInstance) : Prop :=
  new.context = { inst.context with wait := new.context.wait }

end WorkflowInstance

/-- … in what is written, if anything is. -/
def Outcome.KeepsContext (inst : WorkflowInstance) (o : Outcome) : Prop :=
  ∀ new, o.written = some new → inst.KeepsContext new

section Context

variable {x : Surroundings} {inst new : WorkflowInstance} {signals : List WorkflowSignal}

theorem keepsContext_of_eq (h : new.context = inst.context) : inst.KeepsContext new := by
  rw [KeepsContext, h]

theorem WorkflowInstance.KeepsContext.touch (h : inst.KeepsContext new) (now : String) :
    inst.KeepsContext (new.touch now) := by
  have hcontext : (new.touch now).context = new.context := rfl
  rw [KeepsContext, hcontext]
  exact h

theorem commit_keepsContext {events : List WorkflowEventWrite} {receipts : List ExecutionReceipt}
    {consume : List (Id × SignalConsumeResult)} (h : inst.KeepsContext new) :
    (commit x new events receipts consume).KeepsContext inst := by
  intro written hwritten
  have heq : new.touch x.clockIso = written := Option.some.inj hwritten
  exact heq ▸ h.touch x.clockIso

theorem processSignal_keepsContext {signal : WorkflowSignal} {approval : ApprovalReceipt}
    {frozen : FrozenProposedCommand} {o : Outcome}
    (h : processSignal x inst signal approval frozen = .settle o) : o.KeepsContext inst := by
  rw [processSignal] at h
  split at h
  · obtain rfl := GateStep.settle.inj h
    exact commit_keepsContext (keepsContext_of_eq rfl)
  split at h
  · obtain rfl := GateStep.settle.inj h
    exact commit_keepsContext (keepsContext_of_eq rfl)
  · obtain rfl := GateStep.settle.inj h
    exact commit_keepsContext (keepsContext_of_eq rfl)
  · obtain rfl := GateStep.settle.inj h
    exact commit_keepsContext (keepsContext_of_eq rfl)
  · cases h

theorem gateStep_keepsContext {o : Outcome} (h : gateStep x inst signals = .settle o) :
    o.KeepsContext inst := by
  rw [gateStep] at h
  split at h
  · split at h
    · obtain rfl := GateStep.settle.inj h
      exact commit_keepsContext (keepsContext_of_eq rfl)
    · obtain rfl := GateStep.settle.inj h
      exact commit_keepsContext (keepsContext_of_eq rfl)
  split at h
  · obtain rfl := GateStep.settle.inj h
    exact commit_keepsContext (keepsContext_of_eq rfl)
  split at h
  · obtain rfl := GateStep.settle.inj h
    intro written hwritten
    obtain rfl := Option.some.inj hwritten
    exact keepsContext_of_eq rfl
  · exact processSignal_keepsContext h

theorem succeeded_context (payload : Payload) :
    (succeeded x inst payload).context = inst.context := by
  cases payload with
  | publishUseOfFundsReceipt p =>
      rw [succeeded]
      dsimp only
      split <;> rfl
  | _ => rfl

theorem afterFailure_keepsContext {signal : WorkflowSignal} {exc : PyExc} {nextRunAt : Nat → String}
    {error : Option String} : (afterFailure x inst signal exc nextRunAt error).KeepsContext inst := by
  rw [afterFailure]
  split
  · exact commit_keepsContext (keepsContext_of_eq rfl)
  · exact commit_keepsContext (keepsContext_of_eq rfl)

theorem afterSuccess_keepsContext {signal : WorkflowSignal} {command : AgentCommand}
    {receipt : ExecutionReceipt} : (afterSuccess x inst signal command receipt).KeepsContext inst := by
  refine commit_keepsContext ?_
  rw [KeepsContext, clearWait, succeeded_context]

variable [Digest] [Json.CharTable]

theorem advanceHumanGate_keepsContext :
    Gives (Outcome.KeepsContext inst) (advanceHumanGate x inst signals) := by
  rw [advanceHumanGate]
  split
  · rename_i outcome hstep
    exact .pure (gateStep_keepsContext hstep)
  · refine Gives.bind fun _ => Gives.bind fun result => ?_
    split
    · exact .pure afterFailure_keepsContext
    · split
      · exact .pure afterFailure_keepsContext
      · exact .pure afterSuccess_keepsContext

omit [Json.CharTable] in
/-- The preview of the last receipt is frozen. -/
theorem advancePublished_returns {a a' : Advance} {outcome : Outcome}
    (h : Returns (advancePublished x inst) a outcome a') (hwritten : outcome.written = some new)
    (hstate : new.workflowState ≠ inst.workflowState) : ∃ r,
      lastReceipt a.executor.ledger inst.context.expenseId = some r ∧
      new.context = { inst.context with
        wait := new.context.wait, emailPreview := some (composeEmailFromUof x r) } := by
  have hstays : ∀ status, outcome = commit x { inst with runStatus := status } → False := by
    rintro status rfl
    exact hstate (Option.some.inj hwritten ▸ rfl)
  rw [advancePublished, returns_get_bind] at h
  split at h
  · exact (hstays _ (returns_pure.mp h).1.symm).elim
  split at h
  · exact (hstays _ (returns_pure.mp h).1.symm).elim
  rename_i r hlast
  obtain ⟨_, _, h⟩ := returns_okOrRaise_bind.mp h
  have h := returns_modify_bind.mp h
  obtain ⟨send, _, h⟩ := returns_okOrRaise_bind.mp h
  obtain ⟨rfl, _⟩ := returns_pure.mp h
  obtain rfl := Option.some.inj hwritten
  exact ⟨r, hlast, rfl⟩

/-- What an advance leaves waiting for a send was waiting there before, or the last receipt
of the expense has its preview frozen. -/
theorem advanceOnce_notification {a a' : Advance} {outcome : Outcome}
    (hkind : inst.workflowType = .expenseToReceipt)
    (h : Returns (advanceOnce x inst signals) a outcome a') (hwritten : outcome.written = some new)
    (hstate : new.workflowState = .notificationPending) :
    (inst.workflowState = .notificationPending ∧ inst.KeepsContext new) ∨
      inst.workflowState = .published ∧ ∃ r,
        lastReceipt a.executor.ledger inst.context.expenseId = some r ∧
        new.context = { inst.context with
          wait := new.context.wait, emailPreview := some (composeEmailFromUof x r) } := by
  have hgate : new.workflowState ∈ humanGateStates := hstate ▸ by decide
  have hmoved := ((advanceOnce_moved _ _ _ h).written new hwritten).1
  by_cases hstays : new.workflowState = inst.workflowState
  · have hbefore : inst.workflowState = .notificationPending := hstays.symm.trans hstate
    refine Or.inl ⟨hbefore, ?_⟩
    rw [advanceOnce, hkind, hbefore] at h
    exact advanceHumanGate_keepsContext _ _ _ h new hwritten
  · obtain ⟨frozen, deadline, henters, -⟩ := moved_enters hmoved hgate hstays
    rw [hstate] at henters
    have hbefore : inst.workflowState = .published := by
      cases henters with
      | notification kind state => exact state
    refine Or.inr ⟨hbefore, ?_⟩
    rw [advanceOnce, hkind, hbefore] at h
    exact advancePublished_returns h hwritten hstays

end Context

/-! ## The workflow's own publication -/

namespace WorkflowInstance

/-- The two ask for the same publication and the same email. -/
structure SamePlan (inst new : WorkflowInstance) : Prop where
  same : new.SameWorkflow inst
  publishSpec : new.context.publishSpec = inst.context.publishSpec
  sendEmail : new.context.sendEmail = inst.context.sendEmail
  expenseId : new.context.expenseId = inst.context.expenseId
  allocationId : new.context.allocationId = inst.context.allocationId

variable {inst new : WorkflowInstance}

theorem SamePlan.symm (h : inst.SamePlan new) : new.SamePlan inst :=
  ⟨h.same.symm, h.publishSpec.symm, h.sendEmail.symm, h.expenseId.symm, h.allocationId.symm⟩

theorem SamePlan.of_context (hsame : new.SameWorkflow inst) (h : new.context = inst.context) :
    inst.SamePlan new := by
  refine ⟨hsame, ?_, ?_, ?_, ?_⟩ <;> rw [h]

theorem SamePlan.mails (h : inst.SamePlan new) (hmails : inst.Mails) : new.Mails :=
  ⟨h.same.workflowType.trans hmails.kind, h.publishSpec ▸ hmails.publishes,
    h.sendEmail ▸ hmails.sends⟩

theorem SamePlan.specifies (h : inst.SamePlan new) {r : UseOfFundsReceipt}
    (hr : inst.Specifies r) : new.Specifies r := by
  rw [Specifies, h.publishSpec, h.allocationId, h.expenseId]
  exact hr

theorem SamePlan.publishPayload (h : inst.SamePlan new) (spec : PublishSpec) :
    publishPayload new spec = publishPayload inst spec := by
  rw [WorkflowRuntime.publishPayload, WorkflowRuntime.publishPayload, h.expenseId, h.allocationId]

end WorkflowInstance

theorem publishPayload_ok {inst : WorkflowInstance} {spec : PublishSpec} {p : PublishPayload}
    (h : publishPayload inst spec = .ok p) : p.donationId = spec.donationId ∧
      p.expenseId = inst.context.expenseId ∧
      p.allocationId = orElse spec.allocationId inst.context.allocationId := by
  obtain ⟨donorId, _, h⟩ := except_bind_eq_ok.mp h
  obtain ⟨donationId, hdonation, h⟩ := except_bind_eq_ok.mp h
  obtain ⟨method, _, h⟩ := except_bind_eq_ok.mp h
  obtain ⟨amount, _, h⟩ := except_bind_eq_ok.mp h
  obtain rfl := Except.ok.inj h
  exact ⟨(LedgerCommandExecutor.need_eq_ok.mp hdonation).symm, rfl, rfl⟩

namespace System

variable {σ : Type} [WorkflowStore σ]

/-- The receipts of the workflow's expense, in the order its tenant's ledger has them. -/
def receiptsFor (S : System σ) (inst : WorkflowInstance) : List UseOfFundsReceipt :=
  (S.ledgerOf inst.tenantId).receipts.values.filter fun r =>
    some r.expenditureExpenseId = inst.context.expenseId

/-- A worker runs the advance of the workflow that comes to its email. -/
inductive ComesToMail (S : System σ) (inst : WorkflowInstance) : Action → Prop
  | run {worker : String} {w : Id} {x : Surroundings}
      (flight : S.flights (worker, w) = some ⟨inst, .got⟩)
      (state : inst.workflowState = .published) (mails : inst.Mails) :
      ComesToMail S inst (.run worker w x)

variable [Digest] [Json.CharTable]

/-- A worker runs an advance of the workflow at its publication gate, where the
publication is frozen that the spec asks for, and the ledger gets `r` by it. -/
inductive Publishes (S : System σ) (inst : WorkflowInstance) (r : UseOfFundsReceipt) : Action → Prop
  | run {worker : String} {w : Id} {x : Surroundings} {gate : WorkflowInstance}
      {signals : List WorkflowSignal} {frozen : FrozenProposedCommand} {spec : PublishSpec}
      {payload : PublishPayload} (flight : S.flights (worker, w) = some ⟨gate, .took signals⟩)
      (same : gate.SameWorkflow inst) (state : gate.workflowState = .publicationPending)
      (waits : gate.context.wait.bind (·.frozenCommand) = some frozen)
      (asks : inst.context.publishSpec = some spec) (pays : publishPayload inst spec = .ok payload)
      (command : frozen.payload = .publishUseOfFundsReceipt payload)
      (stores : (S.step (.run worker w x)).receiptsFor inst = S.receiptsFor inst ++ [r]) :
      Publishes S inst r (.run worker w x)

/-- Where the workflow waits for the send, the preview that is frozen there is that of a
receipt the workflow itself has published in this run, as its spec says. -/
def MailsOwn (S : System σ) (past : List Action) (inst : WorkflowInstance) : Prop :=
  inst.Mails → inst.workflowState = .notificationPending → ∃ x r,
    inst.context.emailPreview = some (composeEmailFromUof x r) ∧ inst.Specifies r ∧
    ∃ before action, before ++ [action] <+: past ∧ (run System.step S before).Publishes inst r action

/-- The workflow has published, and since then no step has stored a receipt of the expense,
or written over one. -/
def Undisturbed (S : System σ) (past : List Action) (inst : WorkflowInstance) : Prop :=
  ∃ r before action since, past = before ++ [action] ++ since ∧
    (run System.step S before).Publishes inst r action ∧
    Along System.step (fun T a => (T.step a).receiptsFor inst = T.receiptsFor inst)
      (run System.step S (before ++ [action])) since

/-- In every run in which each workflow comes to its email undisturbed, the email waits for
what the workflow has published, in every state that is reached. -/
def EmailsOwnReceipt (S : System σ) : Prop :=
  ∀ actions : List Action,
    (∀ past action inst, past ++ [action] <+: actions →
      (run System.step S past).ComesToMail inst action → S.Undisturbed past inst) →
    ∀ past, past <+: actions → ∀ w inst, row (run System.step S past).store w = some inst →
      S.MailsOwn past inst

variable {S : System σ} {inst new : WorkflowInstance} {action : Action} {r : UseOfFundsReceipt}
  {past : List Action}

omit [WorkflowStore σ] [Digest] [Json.CharTable] in
theorem receiptsFor_congr (h : inst.SamePlan new) : S.receiptsFor new = S.receiptsFor inst := by
  rw [receiptsFor, receiptsFor, h.same.tenantId, h.expenseId]

theorem Publishes.congr (h : S.Publishes inst r action) (hplan : inst.SamePlan new) :
    S.Publishes new r action := by
  cases h with
  | run flight same state waits asks pays command stores =>
      refine .run flight (same.trans hplan.same.symm) state waits (hplan.publishSpec.trans asks)
        ((hplan.publishPayload _).trans pays) command ?_
      rw [receiptsFor_congr hplan, receiptsFor_congr hplan]
      exact stores

/-- What a workflow mails does not depend on anything but its plan and its preview. -/
theorem MailsOwn.congr (h : S.MailsOwn past inst) (hplan : inst.SamePlan new)
    (hstate : new.workflowState = inst.workflowState)
    (hpreview : new.context.emailPreview = inst.context.emailPreview) : S.MailsOwn past new := by
  intro hmails hnotification
  obtain ⟨x, r, hfrozen, hspec, before, action, hbefore, hpublishes⟩ :=
    h (hplan.symm.mails hmails) (hstate.symm.trans hnotification)
  exact ⟨x, r, hpreview.trans hfrozen, hplan.specifies hspec, before, action, hbefore,
    hpublishes.congr hplan⟩

theorem MailsOwn.mono {later : List Action} (h : S.MailsOwn past inst) (hlater : past <+: later) :
    S.MailsOwn later inst := by
  intro hmails hnotification
  obtain ⟨x, r, hfrozen, hspec, before, action, hbefore, hpublishes⟩ := h hmails hnotification
  exact ⟨x, r, hfrozen, hspec, before, action, hbefore.trans hlater, hpublishes⟩

/-! ## A step -/

theorem ledgerOf_runAdvance {key : String × Id} {signals : List WorkflowSignal} {x : Surroundings} :
    (S.runAdvance key inst signals x).ledgerOf inst.tenantId =
      (Raise.after (advanceOnce x inst signals) ⟨S.executorFor inst, []⟩).executor.ledger := by
  have hland : ∀ (a : Advance) (o : Option Flight),
      ((S.land inst a).setFlight key o).ledgerOf inst.tenantId = a.executor.ledger := by
    intro a o
    change ((S.ledgers.set inst.tenantId a.executor.ledger).get? inst.tenantId).getD _ = _
    rw [Dict.get?_set, if_pos rfl]
    rfl
  rw [System.runAdvance]
  split
  · rename_i outcome a hrun
    rw [Returns.after hrun, hland]
  · rename_i exc a hrun
    rw [Raises.after hrun, hland]

/-- What the gate of a publication does to the receipts. -/
theorem publication_stores {gate : WorkflowInstance} {x : Surroundings}
    {signals : List WorkflowSignal} {frozen : FrozenProposedCommand} {p : PublishPayload}
    (hkind : gate.workflowType = .expenseToReceipt) (hstate : gate.workflowState = .publicationPending)
    (hwaits : gate.context.wait.bind (·.frozenCommand) = some frozen)
    (hcommand : frozen.payload = .publishUseOfFundsReceipt p) (a : Advance) :
    (Raise.after (advanceOnce x gate signals) a).executor.ledger.receipts =
        a.executor.ledger.receipts ∨
      ∃ p' r, p'.donationId = p.donationId ∧ p'.expenseId = p.expenseId ∧
        p'.allocationId = p.allocationId ∧ Stored (x.execution 0).host p' a.executor.ledger
          (Raise.after (advanceOnce x gate signals) a).executor.ledger r := by
  have hadvance : advanceOnce x gate signals = advanceHumanGate x gate signals := by
    rw [advanceOnce, hkind, hstate]
  rw [hadvance, advanceHumanGate]
  split
  · exact Or.inl rfl
  · rename_i signal approval frozen' command hstep
    obtain ⟨hopens, rfl⟩ := gateStep_execute hstep
    obtain rfl := Option.some.inj (hopens.waits.symm.trans hwaits)
    have hpayload : (approvedCommand frozen' approval).payload =
        (Payload.publishUseOfFundsReceipt p).overlay approval.approverId :=
      congrArg (Payload.overlay approval.approverId) hcommand
    rcases @executeGate_stores _ _ x gate signal approval frozen' _ _ hpayload a with
      hsame | ⟨r, hstored⟩
    · exact Or.inl hsame
    · refine Or.inr ⟨_, r, ?_, ?_, ?_, hstored⟩
      · rfl
      · rfl
      · rfl

/-- What a workflow has published is what its spec asks for. -/
theorem Publishes.specifies (h : S.Publishes inst r action) (hmails : inst.Mails) :
    inst.Specifies r ∧ ∃ worker w x, action = .run worker w x ∧
      r.receiptId = (x.execution 0).host.newId "uof" 0 := by
  cases h with
  | run flight same state waits asks pays command stores =>
  rename_i worker w x gate signals frozen spec payload
  obtain ⟨hdonation, hexpense, hallocation⟩ := publishPayload_ok pays
  have hafter : (S.step (.run worker w x)).receiptsFor inst =
      (Raise.after (advanceOnce x gate signals)
        ⟨S.executorFor gate, []⟩).executor.ledger.receipts.values.filter
          fun r => some r.expenditureExpenseId = inst.context.expenseId := by
    rw [receiptsFor, ← same.tenantId, System.step, System.onFlight, flight]
    dsimp only [System.runFlight]
    rw [ledgerOf_runAdvance]
  have hbefore : S.receiptsFor inst = (S.executorFor gate).ledger.receipts.values.filter
      fun r => some r.expenditureExpenseId = inst.context.expenseId := by
    rw [receiptsFor, ← same.tenantId]
    rfl
  rw [hafter, hbefore] at stores
  rcases @publication_stores _ _ _ x signals _ _
    (same.workflowType.trans hmails.kind) state waits command ⟨S.executorFor gate, []⟩ with
    hsame | ⟨p', r', hdon, hexp, hall, hstored⟩
  · rw [hsame] at stores
    exact absurd stores.symm (by simp)
  have hown : some r'.expenditureExpenseId = inst.context.expenseId :=
    hstored.expense.symm.trans (hexp.trans hexpense)
  rw [hstored.receipts, Dict.values_set_of_not_mem hstored.fresh, List.filter_append] at stores
  have hr : r' = r := by simpa [hown] using stores
  subst hr
  refine ⟨⟨spec, asks, ?_, ?_, hown.symm, hstored.original⟩, worker, w, x, rfl, hstored.id⟩
  · exact hdonation.symm.trans (hdon.symm.trans hstored.donation)
  · exact hallocation.symm.trans (hall.symm.trans hstored.allocation)

/-! ## Runs -/

omit [WorkflowStore σ] [Digest] [Json.CharTable] in
theorem ran_of_flights {T : System σ} (hflights : T.flights = S.flights) (h : T.Ran new) :
    S.Ran new := by
  obtain ⟨key, f, signals, outcome, hf, hrest⟩ := h
  exact ⟨key, f, signals, outcome, hflights ▸ hf, hrest⟩

omit [WorkflowStore σ] [Digest] [Json.CharTable] in
theorem ran_setFlight {T : System σ} {key : String × Id} {o : Option Flight}
    (hflights : T.flights = S.flights)
    (ho : ∀ f signals outcome, o = some f → f.phase = .ran signals outcome →
      outcome.written = some new → S.Ran new) (h : (T.setFlight key o).Ran new) : S.Ran new := by
  obtain ⟨key', f, signals, outcome, hf, hphase, hwritten⟩ := h
  have hupdate : Function.update T.flights key o key' = some f := hf
  rw [Function.update_apply] at hupdate
  split at hupdate
  · exact ho f signals outcome hupdate hphase hwritten
  · exact ⟨key', f, signals, outcome, hflights ▸ hupdate, hphase, hwritten⟩

omit [WorkflowStore σ] [Digest] [Json.CharTable] in
/-- A flight that is in another phase now has nothing to hand over. -/
theorem ran_setFlight_of {T : System σ} {key : String × Id} {o : Option Flight}
    (hflights : T.flights = S.flights) (ho : ∀ f, o = some f → f.phase.runs = false)
    (h : (T.setFlight key o).Ran new) : S.Ran new := by
  refine ran_setFlight hflights (fun f signals outcome hf hphase _ => ?_) h
  have hruns := ho f hf
  rw [hphase] at hruns
  exact nomatch hruns

omit [WorkflowStore σ] [Digest] [Json.CharTable] in
theorem ran_settled {key : String × Id} {next : Option Phase} {result : Except PyExc σ}
    (hnext : ∀ phase, next = some phase → phase.runs = false)
    (h : (S.settled key inst next result).Ran new) : S.Ran new := by
  cases result with
  | error exc => exact ran_setFlight_of (S := S) rfl (fun f hf => Option.some.inj hf ▸ rfl) h
  | ok s =>
      refine ran_setFlight_of (T := S.withStore s) rfl (fun f hf => ?_) h
      obtain ⟨phase, hphase, rfl⟩ := Option.map_eq_some_iff.mp hf
      exact hnext phase hphase

omit [Digest] [Json.CharTable] in
theorem ran_writeFlight {key : String × Id} {f : Flight} {utcNow : String}
    (hf : S.flights key = some f) (h : (System.writeFlight key f utcNow S).Ran new) : S.Ran new := by
  rw [System.writeFlight] at h
  split at h
  · rename_i signals outcome hphase
    rw [System.writeOutcome] at h
    split at h
    · refine ran_setFlight rfl (fun g taken o hg hran hwritten => ?_) h
      obtain rfl := Option.some.inj hg
      obtain ⟨rfl, rfl⟩ := Phase.ran.inj hran
      exact ⟨key, f, signals, outcome, hf, hphase, hwritten⟩
    split at h
    · exact ran_settled (fun phase hnext => Option.some.inj hnext ▸ rfl) h
    · exact ran_settled (fun phase hnext => Option.some.inj hnext ▸ rfl) h
    · exact ran_setFlight_of (S := S) rfl (fun g hg => Option.some.inj hg ▸ rfl) h
  · refine ran_settled (fun phase hnext => ?_) h
    obtain ⟨event, _, rfl⟩ := Option.map_eq_some_iff.mp hnext
    rfl
  · exact ran_setFlight_of (S := S) (o := none) rfl (fun g hg => by cases hg) h
  · exact h

omit [Digest] [Json.CharTable] in
theorem ran_claim {worker : String} {limit : Nat} {now : Datetime} {ttl : Nat}
    (h : (S.claim worker limit now ttl).Ran new) : S.Ran new := by
  rw [System.claim] at h
  split at h
  · exact h
  rename_i claimed s hcall
  have hfold : ∀ (insts : List WorkflowInstance) (T : System σ),
      (insts.foldl (fun T inst =>
        T.setFlight (worker, inst.workflowId) (some ⟨inst, .claimed⟩)) T).Ran new → T.Ran new := by
    intro insts
    induction insts with
    | nil => exact fun T hT => hT
    | cons inst rest ih =>
        intro T hT
        exact ran_setFlight_of (S := T) rfl (fun f hf => Option.some.inj hf ▸ rfl) (ih _ hT)
  exact ran_of_flights rfl (hfold claimed (S.withStore s) h)

omit [Digest] [Json.CharTable] in
theorem ran_lookAt {key : String × Id} {f : Flight} {cfg : WorkerConfig} {nowIso nextRunAt : String}
    (hf : S.flights key = some f)
    (h : (S.setFlight key (S.lookAt cfg nowIso nextRunAt f)).Ran new) : S.Ran new := by
  refine ran_setFlight (S := S) rfl (fun g signals outcome hg hphase hwritten => ?_) h
  rw [System.lookAt] at hg
  split at hg
  · rename_i hclaimed
    obtain rfl := Option.some.inj hg
    split at hphase
    · cases hphase
    · cases hclaimed.symm.trans hphase
  · obtain ⟨inst, _, hg⟩ := Option.bind_eq_some_iff.mp hg
    obtain ⟨change, _, rfl⟩ := Option.map_eq_some_iff.mp hg
    cases hphase
  · obtain rfl := Option.some.inj hg
    cases hphase
  · obtain rfl := Option.some.inj hg
    exact ⟨key, f, signals, outcome, hf, hphase, hwritten⟩

/-- What a worker has to hand over it had before, or its advance has just run. -/
theorem ran_step (h : (S.step action).Ran new) :
    S.Ran new ∨ ∃ x inst, S.HandsOver action x inst new := by
  have henqueue : ∀ x signal, (S.enqueue x signal).Ran new → S.Ran new := by
    intro x signal h
    rw [System.enqueue] at h
    split at h
    · exact h
    · exact ran_of_flights rfl h
  have honFlight : ∀ (worker : String) (w : Id) (f : String × Id → Flight → System σ → System σ),
      (∀ flight, S.flights (worker, w) = some flight →
        (f (worker, w) flight S).Ran new → S.Ran new) →
      (S.onFlight worker w f).Ran new → S.Ran new := by
    intro worker w f hf h
    rw [System.onFlight] at h
    split at h
    · rename_i flight hflight
      exact hf flight hflight h
    · exact h
  cases action with
  | start x request =>
      rw [System.step, System.start] at h
      split at h
      · exact Or.inl h
      · split at h
        · exact Or.inl h
        · exact Or.inl (ran_of_flights rfl h)
  | approve x tenantId w approval =>
      rw [System.step] at h
      split at h
      · exact Or.inl (henqueue x _ h)
      · exact Or.inl h
  | operate x tenantId w signalType fields =>
      rw [System.step] at h
      split at h
      · exact Or.inl h
      · exact Or.inl (henqueue x _ h)
  | claim worker limit now ttl => exact Or.inl (ran_claim h)
  | pump worker tenantId w =>
      rw [System.step] at h
      split at h
      · exact Or.inl (ran_setFlight_of (S := S) rfl (fun f hf => Option.some.inj hf ▸ rfl) h)
      · exact Or.inl h
  | get worker w =>
      refine Or.inl (honFlight worker w _ (fun f _ h => ?_) h)
      rw [System.getRow] at h
      split at h
      · split at h <;>
          exact ran_setFlight_of (S := S) rfl (fun g hg => Option.some.inj hg ▸ rfl) h
      · exact h
  | take worker w =>
      refine Or.inl (honFlight worker w _ (fun f _ h => ?_) h)
      rw [System.takeSignals] at h
      split at h
      · split at h
        · exact ran_setFlight_of (S := S) rfl (fun g hg => Option.some.inj hg ▸ rfl) h
        · exact h
      · exact h
  | run worker w x =>
      obtain ⟨key, g, signals, outcome, hg, hphase, hwritten⟩ := h
      have hbefore : S.flights key = some g → S.Ran new :=
        fun hg => ⟨key, g, signals, outcome, hg, hphase, hwritten⟩
      cases hflight : S.flights (worker, w) with
      | none =>
          rw [System.step, System.onFlight, hflight] at hg
          exact Or.inl (hbefore hg)
      | some f =>
      by_cases hkey : key = (worker, w)
      · subst hkey
        cases hruns : f.phase.runs with
        | false =>
            exact Or.inr ⟨x, f.inst, (handsOver_of_run hflight hruns hg hphase hwritten).1⟩
        | true =>
            rw [System.step, System.onFlight, hflight] at hg
            dsimp only [System.runFlight] at hg
            split at hg
            · rename_i hgot
              cases (hgot ▸ hruns : Phase.runs .got = true)
            · rename_i taken htook
              cases (htook ▸ hruns : Phase.runs (.took taken) = true)
            · exact Or.inl (hbefore hg)
      · have hadvance : ∀ taken, (S.runAdvance (worker, w) f.inst taken x).flights key =
            S.flights key := by
          intro taken
          rw [System.runAdvance]
          split
          · exact Function.update_of_ne hkey _ _
          · exact Function.update_of_ne hkey _ _
        rw [System.step, System.onFlight, hflight] at hg
        dsimp only [System.runFlight] at hg
        split at hg
        · split at hg
          · exact Or.inl (hbefore hg)
          · exact Or.inl (hbefore ((hadvance []).symm.trans hg))
        · rename_i taken htook
          exact Or.inl (hbefore ((hadvance taken).symm.trans hg))
        · exact Or.inl (hbefore hg)
  | write worker w utcNow =>
      exact Or.inl (honFlight worker w _ (fun f hf h => ran_writeFlight hf h) h)
  | look worker w cfg nowIso nextRunAt =>
      exact Or.inl (honFlight worker w _ (fun f hf h => ran_lookAt hf h) h)
  | drop worker w =>
      exact Or.inl (ran_setFlight_of (S := S) (o := none) rfl (fun f hf => by cases hf) h)
  | sweep now => exact Or.inl (ran_of_flights rfl h)

theorem Publishes.stores (h : S.Publishes inst r action) :
    (S.step action).receiptsFor inst = S.receiptsFor inst ++ [r] := by
  cases h with
  | run flight same state waits asks pays command stores => exact stores

/-- Undisturbed, the last receipt of the expense is the workflow's own. -/
theorem Undisturbed.last (h : S.Undisturbed past inst) : ∃ r before action,
    before ++ [action] <+: past ∧ (run System.step S before).Publishes inst r action ∧
      lastReceipt ((run System.step S past).ledgerOf inst.tenantId) inst.context.expenseId =
        some r := by
  obtain ⟨r, before, action, since, rfl, hpublishes, halong⟩ := h
  refine ⟨r, before, action, List.prefix_append _ _, hpublishes, ?_⟩
  have hsince : ∀ T : System σ,
      Along System.step (fun T a => (T.step a).receiptsFor inst = T.receiptsFor inst) T since →
      (run System.step T since).receiptsFor inst = T.receiptsFor inst := fun T hT =>
    run_invariant (P := fun U => U.receiptsFor inst = T.receiptsFor inst)
      (fun _ _ hU hkeeps => hkeeps.trans hU) rfl hT
  have hlast : (run System.step S (before ++ [action] ++ since)).receiptsFor inst =
      (run System.step S before).receiptsFor inst ++ [r] := by
    rw [run_append, hsince _ halong, run_append, run_cons, run_nil]
    exact hpublishes.stores
  change ((run System.step S (before ++ [action] ++ since)).receiptsFor inst).getLast? = some r
  rw [hlast, List.getLast?_concat]

variable [LawfulWorkflowStore σ]

omit [LawfulWorkflowStore σ] in
/-- What an advance hands over to wait for a send waits with the workflow's own receipt. -/
theorem HandsOver.mailsOwn {x : Surroundings} (hsound : (run System.step S past).Sound)
    (heverywhere : (run System.step S past).Everywhere (S.MailsOwn past))
    (hquiet : (run System.step S past).ComesToMail inst action → S.Undisturbed past inst)
    (h : (run System.step S past).HandsOver action x inst new) : S.MailsOwn past new := by
  intro hmails hstate
  have hheld := h.held
  obtain ⟨worker, w, signals, outcome, a, rfl, hwritten, hreturns, hflight⟩ := h.returns
  have hsame : new.SameWorkflow inst := (advanceOnce_follows _ _ _ hreturns new hwritten).same
  have hkind : inst.workflowType = .expenseToReceipt := hsame.workflowType.symm.trans hmails.kind
  rcases advanceOnce_notification hkind hreturns hwritten hstate with
    ⟨hbefore, hkeeps⟩ | ⟨hbefore, r, hlast, hcontext⟩
  · -- it has been waiting there before
    have hcontext : new.context = { inst.context with wait := new.context.wait } := hkeeps
    have hplan : inst.SamePlan new := by
      refine ⟨hsame, ?_, ?_, ?_, ?_⟩ <;> rw [hcontext]
    refine (heverywhere.held inst hheld).congr hplan (hstate.trans hbefore.symm) ?_ hmails hstate
    rw [hcontext]
  · have hplan : inst.SamePlan new := by
      refine ⟨hsame, ?_, ?_, ?_, ?_⟩ <;> rw [hcontext]
    have hown : inst.Mails := hplan.symm.mails hmails
    have hgot : (run System.step S past).flights (worker, w) = some ⟨inst, .got⟩ := by
      rcases hflight with htook | ⟨hgot, -⟩
      · have htakes : inst.takesSignals = true := (hsound.flights _ _ htook).phase.1
        rw [takesSignals, hkind, hbefore] at htakes
        have hgate : decide (WorkflowState.published ∈ humanGateStates) = true := htakes
        exact absurd hgate (by decide)
      · exact hgot
    obtain ⟨r', before, action, hpast, hpublishes, hlast'⟩ := (hquiet (.run hgot hbefore hown)).last
    obtain rfl := Option.some.inj (hlast'.symm.trans hlast)
    refine ⟨x, r', ?_, hplan.specifies (hpublishes.specifies hown).1, before, action, hpast,
      hpublishes.congr hplan⟩
    rw [hcontext]

theorem Fresh.emailsOwnReceipt (hS : S.Fresh) : S.EmailsOwnReceipt := by
  intro actions hquiet
  suffices hall : ∀ past, past <+: actions →
      (run System.step S past).Everywhere (S.MailsOwn past) ∧
        ∀ new, (run System.step S past).Ran new → S.MailsOwn past new from
    fun past hpast => (hall past hpast).1.rows
  intro past
  induction past using List.reverseRecOn with
  | nil =>
      refine fun _ => ⟨⟨fun w inst hinst => ?_, ?_⟩, ?_⟩
      · exact nomatch (hS.rows w).symm.trans hinst
      · rintro inst ⟨key, f, hf, _⟩
        exact nomatch (hS.flights key).symm.trans hf
      · rintro new ⟨key, f, _, _, hf, _⟩
        exact nomatch (hS.flights key).symm.trans hf
  | append_singleton past action ih =>
      intro hpast
      have hpast_le : past <+: past ++ [action] := List.prefix_append _ _
      obtain ⟨heverywhere, hran⟩ := ih (hpast_le.trans hpast)
      have hbegun : (run System.step S past).Begun := hS.begun.run past
      rw [run_append, run_cons, run_nil]
      constructor
      · refine Everywhere.step_of (fun x request inst hstarted _ hstate => ?_)
          (fun old new hsame hplace hold => ?_) (fun old new hswept _ _ hstate => ?_)
          (fun new hnew => (hran new hnew).mono hpast_le) hbegun
          ⟨fun w inst hinst => (heverywhere.rows w inst hinst).mono hpast_le,
            fun inst hinst => (heverywhere.held inst hinst).mono hpast_le⟩ action
        · exact absurd (hstate ▸ by decide) (started_not_gate hstarted)
        · exact hold.congr (.of_context hsame hplace.context) hplace.state (hplace.context ▸ rfl)
        · obtain ⟨_, _, nowIso, descriptor, seq, rfl⟩ := hswept
          exact nomatch hstate
      · intro new hnew
        rcases ran_step hnew with hbefore | ⟨x, inst, hhands⟩
        · exact (hran new hbefore).mono hpast_le
        · exact (hhands.mailsOwn hbegun.sound heverywhere (hquiet past action inst hpast)).mono
            hpast_le

omit [LawfulWorkflowStore σ] in
/-- On either store, in whatever order things happen. -/
theorem emails_own_receipt :
    (∀ S : System InMemoryWorkflowStore, S.Fresh → S.EmailsOwnReceipt) ∧
      ∀ S : System SqlWorkflowStore, S.Fresh → S.EmailsOwnReceipt :=
  ⟨fun _ hS => hS.emailsOwnReceipt, fun _ hS => hS.emailsOwnReceipt⟩

end System

/-! ## An expense that is paid and told about -/

section Sample

/-- A digest that costs nothing to evaluate. -/
@[reducible] def Sample.constantDigest : Digest := ⟨fun _ => "digest"⟩

attribute [local instance] Sample.constantDigest Json.CharTable.all

namespace System

/-- A gift, and an expense with its invoice that nobody has decided about. -/
def Sample.unspent : System SqlWorkflowStore where
  store := {}
  ledgers := Dict.empty.set "org" (run Ledger.step (.new Ledger.Sample.organization)
    (Ledger.script (Ledger.Sample.gift ++ [
      .importExpense (Ledger.Sample.expense "expense" 5000),
      .attachEvidence { id := "ev", expenseId := "expense", kind := "invoice", summary := "",
                        donorVisible := true }])))

theorem Sample.unspent_fresh : Sample.unspent.Fresh :=
  ⟨fun _ => rfl, fun _ => rfl, fun _ => rfl, rfl, rfl⟩

/-- One advance of a workflow, and its write. -/
def Sample.turn (w : Id) (call : Nat) : List Action :=
  [.pump "w" "org" w, .get "w" w, .take "w" w, .run "w" w (Sample.at call call),
    .write "w" w "2026-01-02T12:00:00+00:00"]

def Sample.approves (call : Nat) (w : Id) (key : String) : Action :=
  .approve (Sample.at call call) "org" w { Sample.approval with commandIdempotencyKey := key }

/-- The workflow of the expense up to its publication, with both approvals. -/
def Sample.toPublication : List Action :=
  .start (Sample.at 30 30) (.expense {
      tenantId := "org", expenseRow := {}, sendEmail := true,
      preImportedExpenseId := some "expense"
      publishSpec := some {
        donorId := some "donor", donationId := some "gift", allocationId := some "fund"
        attributionMethod := some "DIRECT_RESTRICTED", attributedAmount := some (.finite 50 0) } }) ::
    Sample.turn "wf_30_0" 31 ++ [Sample.approves 32 "wf_30_0" "approve:expense:pkt_31_0"] ++
    Sample.turn "wf_30_0" 33 ++ Sample.turn "wf_30_0" 34 ++
    [Sample.approves 35 "wf_30_0" "publish:expense:gift"] ++ (Sample.turn "wf_30_0" 36).take 3

def Sample.publication : Action := .run "w" "wf_30_0" (Sample.at 36 36)

def Sample.written : List Action := [.write "w" "wf_30_0" "2026-01-02T12:00:00+00:00"]

/-- A correction of the expense, from its start to its write. -/
def Sample.reversal : List Action :=
  .start (Sample.at 37 37)
      (.correction { tenantId := "org", expenseId := "expense", reason := "duplicate" }) ::
    Sample.turn "wf_corr_37_0" 38 ++
    [Sample.approves 39 "wf_corr_37_0" "reverse:expense:duplicate"] ++
    Sample.turn "wf_corr_37_0" 40

def Sample.published : Option (System SqlWorkflowStore) :=
  (run System.step Sample.unspent Sample.toPublication).afterPublication ("w", "wf_30_0")
    (Sample.at 36 36)

theorem Sample.run_publication {T : System SqlWorkflowStore} (h : Sample.published = some T)
    (later : List Action) :
    run System.step Sample.unspent (Sample.toPublication ++ [Sample.publication] ++ later) =
      run System.step T later := by
  rw [run_append, run_append, run_cons, run_nil]
  congr 1
  exact step_of_afterPublication h


/-- Reversed before its email, which goes out then for the correction. -/
def Sample.toMail : List Action :=
  Sample.written ++ Sample.reversal ++ Sample.turn "wf_30_0" 41

/-- The receipt id a publication of the action stores under. -/
def Sample.newReceipt : Action → Option Id
  | .run _ _ x => some ((x.execution 0).host.newId "uof" 0)
  | _ => none

end System

open ImpactRelay.System in
/-- An expense that is reversed between its publication and its email: the email waits for
the correction, which nobody's publication has stored. -/
theorem correction_mailed : ¬ ∀ S : System SqlWorkflowStore, S.Fresh → ∀ past w inst,
    row (run System.step S past).store w = some inst → S.MailsOwn past inst := by
  intro h
  have hends : (Sample.published.bind fun T =>
      (row (run System.step T Sample.toMail).store "wf_30_0").map fun i =>
        (decide (i.workflowType = .expenseToReceipt ∧
          i.context.publishSpec.filter (· ≠ {}) ≠ none ∧ i.context.sendEmail = true ∧
          i.workflowState = .notificationPending),
        i.context.emailPreview.map (·.receiptId))) = some (true, some "uofc_40_0") := by
    decide +kernel
  obtain ⟨T, hT, hends⟩ := Option.bind_eq_some_iff.mp hends
  obtain ⟨inst, hrow, hends⟩ := Option.map_eq_some_iff.mp hends
  obtain ⟨hinst, hpreview⟩ := Prod.mk.inj hends
  obtain ⟨hkind, hpublishes, hsends, hstate⟩ := of_decide_eq_true hinst
  have hrun : row (run System.step Sample.unspent (Sample.toPublication ++ [Sample.publication] ++
      Sample.toMail)).store "wf_30_0" = some inst := by
    rw [Sample.run_publication hT]
    exact hrow
  obtain ⟨x, r, hfrozen, -, before, action, hbefore, hpublished⟩ :=
    h _ Sample.unspent_fresh _ _ inst hrun ⟨hkind, hpublishes, hsends⟩ hstate
  obtain ⟨-, worker, w, y, rfl, hid⟩ := hpublished.specifies ⟨hkind, hpublishes, hsends⟩
  -- no publication of this run stores under the id of the preview
  have hnone : ∀ a ∈ Sample.toPublication ++ [Sample.publication] ++ Sample.toMail,
      Sample.newReceipt a ≠ some "uofc_40_0" := by decide
  refine hnone _ (hbefore.subset (List.mem_append_right _ (List.mem_singleton_self _))) ?_
  rw [hfrozen] at hpreview
  rw [Sample.newReceipt, ← hid]
  exact hpreview


namespace System

def Sample.sent : List Action :=
  [.pump "w" "org" "wf_30_0", .get "w" "wf_30_0", .run "w" "wf_30_0" (Sample.at 42 42)] ++
    Sample.written

/-- The run up to the advance that comes to the email, and on to its write. -/
def Sample.undisturbed : List Action :=
  Sample.toPublication ++ [Sample.publication] ++ (Sample.written ++ Sample.sent)

/-- The workflow an action brings to its email, as far as its flight tells. -/
def Sample.comingToMail (S : System SqlWorkflowStore) : Action → Option WorkflowInstance
  | .run worker w _ =>
      match S.flights (worker, w) with
      | some ⟨inst, .got⟩ => if inst.workflowState = .published then some inst else none
      | _ => none
  | _ => none

theorem Sample.comingToMail_eq {S : System SqlWorkflowStore} {inst : WorkflowInstance}
    {action : Action} (h : S.ComesToMail inst action) :
    Sample.comingToMail S action = some inst := by
  cases h with
  | run flight state mails =>
      rw [Sample.comingToMail, flight]
      exact if_pos state

/-- What the step from `S` to `T` publishes for the workflow, by the values that decide it. -/
def Sample.publishedFor (S T : System SqlWorkflowStore) (inst : WorkflowInstance) :
    Option UseOfFundsReceipt := do
  let f ← S.flights ("w", "wf_30_0")
  let _ ← f.phase.taken
  let frozen ← f.inst.context.wait.bind (·.frozenCommand)
  let spec ← inst.context.publishSpec
  let payload ← (publishPayload inst spec).toOption
  if (f.inst.workflowId = inst.workflowId ∧ f.inst.tenantId = inst.tenantId ∧
        f.inst.workflowType = inst.workflowType ∧ f.inst.businessKey = inst.businessKey ∧
        f.inst.simulation = inst.simulation ∧ f.inst.createdAt = inst.createdAt) ∧
      f.inst.workflowState = .publicationPending ∧
      frozen.payload = .publishUseOfFundsReceipt payload then
    match S.receiptsFor inst, T.receiptsFor inst with
    | [], [r] => some r
    | _, _ => none
  else none

theorem Sample.publishes_of_publishedFor {S T : System SqlWorkflowStore} {inst : WorkflowInstance}
    {r : UseOfFundsReceipt} (hT : S.step Sample.publication = T)
    (h : Sample.publishedFor S T inst = some r) : S.Publishes inst r Sample.publication := by
  rw [Sample.publishedFor] at h
  obtain ⟨⟨gate, phase⟩, hflight, h⟩ := Option.bind_eq_some_iff.mp h
  obtain ⟨signals, htaken, h⟩ := Option.bind_eq_some_iff.mp h
  obtain ⟨frozen, hwaits, h⟩ := Option.bind_eq_some_iff.mp h
  obtain ⟨spec, hasks, h⟩ := Option.bind_eq_some_iff.mp h
  obtain ⟨payload, hpays, h⟩ := Option.bind_eq_some_iff.mp h
  split at h
  swap
  · exact nomatch h
  rename_i hgoes
  obtain ⟨⟨hid, htenant, hkind, hkey, hsim, hcreated⟩, hstate, hcommand⟩ := hgoes
  split at h
  swap
  · exact nomatch h
  rename_i r' hbefore hafter
  obtain rfl := Option.some.inj h
  obtain rfl := Phase.taken_eq_some htaken
  refine .run hflight ⟨hid, htenant, hkind, hkey, hsim, hcreated⟩ hstate hwaits hasks
    (except_toOption_eq_some hpays) hcommand ?_
  have hnow : (S.step Sample.publication).receiptsFor inst = [r'] := hT ▸ hafter
  rw [hbefore]
  exact hnow

/-- Between the publication and the advance that comes to the email. -/
def Sample.since : List Action := Sample.written ++ Sample.sent.take 2

/-- What the run does after its publication: one advance comes to the email, of a workflow
whose publication it was, and the email waits. -/
def Sample.goes (S T : System SqlWorkflowStore) : Bool :=
  (Sample.comingToMail (run System.step T Sample.since)
    (.run "w" "wf_30_0" (Sample.at 42 42))).any fun inst =>
      (Sample.publishedFor S T inst).isSome &&
      decide (Along System.step (fun U a => (Sample.comingToMail U a).isNone ∨
        Sample.newReceipt a = some "uof_42_0") T (Sample.written ++ Sample.sent)) &&
      (row (run System.step T (Sample.written ++ Sample.sent)).store "wf_30_0").any
        (·.workflowState = .notificationPending)

theorem Sample.quiet_before : Along System.step (fun U a => (Sample.comingToMail U a).isNone ∨
    Sample.newReceipt a = some "uof_42_0") Sample.unspent
    (Sample.toPublication ++ [Sample.publication]) := by
  decide +kernel

theorem Sample.published_goes : (Sample.published.any fun T =>
    Sample.goes (run System.step Sample.unspent Sample.toPublication) T) = true := by
  decide +kernel

theorem Sample.receiptsFor_since {T : System SqlWorkflowStore} {inst : WorkflowInstance} :
    Along System.step (fun U a => (U.step a).receiptsFor inst = U.receiptsFor inst) T
      Sample.since := by
  have hidle : ∀ a ∈ Sample.since, ∀ worker w x, a ≠ .run worker w x := by
    intro a ha worker w x heq
    simp [Sample.since, Sample.written, Sample.sent, heq] at ha
  refine Along.mono (fun U a ha => ?_) (along_of_mem hidle)
  have hledgers : (U.step a).ledgers = U.ledgers := aside_ledgers.step ha
  rw [receiptsFor, receiptsFor, ledgerOf, ledgerOf, hledgers]

/-- The place of the advance that comes to the email. -/
theorem Sample.mails_at {past : List Action} {action : Action}
    (hpast : past ++ [action] <+: Sample.undisturbed)
    (hid : Sample.newReceipt action = some "uof_42_0") :
    past = Sample.toPublication ++ [Sample.publication] ++ Sample.since ∧
      action = .run "w" "wf_30_0" (Sample.at 42 42) := by
  have hat : Sample.undisturbed[past.length]? = some action := by
    obtain ⟨rest, hrest⟩ := hpast
    rw [← hrest]
    simp
  have hplace : ∀ k < Sample.undisturbed.length,
      Sample.undisturbed[k]?.bind Sample.newReceipt = some "uof_42_0" → k = 25 := by decide
  have hk : past.length = 25 := by
    refine hplace _ (List.getElem?_eq_some_iff.mp hat).1 ?_
    rw [hat]
    exact hid
  have htake : past = Sample.undisturbed.take past.length :=
    List.prefix_iff_eq_take.mp ((List.prefix_append _ _).trans hpast)
  rw [hk] at hat htake
  exact ⟨htake, (Option.some.inj hat).symm⟩

end System

open ImpactRelay.System in
/-- Nobody else publishes for the expense, and the email waits for what was published. -/
theorem own_receipt_mailed : ∃ inst,
    row (run System.step Sample.unspent Sample.undisturbed).store "wf_30_0" = some inst ∧
      inst.workflowState = .notificationPending ∧
      Sample.unspent.MailsOwn Sample.undisturbed inst := by
  obtain ⟨T, hT, hgoes⟩ := (Option.any_eq_true _ _).mp Sample.published_goes
  obtain ⟨coming, hcoming, hgoes⟩ := (Option.any_eq_true _ _).mp hgoes
  simp only [Bool.and_eq_true] at hgoes
  obtain ⟨⟨hpublished, hquiet⟩, hrow⟩ := hgoes
  obtain ⟨r, hr⟩ := Option.isSome_iff_exists.mp hpublished
  obtain ⟨inst, hinst, hstate⟩ := (Option.any_eq_true _ _).mp hrow
  have hrun := Sample.run_publication hT
  have hstep : (run System.step Sample.unspent Sample.toPublication).step Sample.publication = T :=
    step_of_afterPublication hT
  have hall : Along System.step (fun U a => (Sample.comingToMail U a).isNone ∨
      Sample.newReceipt a = some "uof_42_0") Sample.unspent Sample.undisturbed := by
    refine along_append.mpr ⟨Sample.quiet_before, ?_⟩
    have hbefore := hrun []
    rw [List.append_nil, run_nil] at hbefore
    rw [hbefore]
    exact of_decide_eq_true hquiet
  have hend : row (run System.step Sample.unspent Sample.undisturbed).store "wf_30_0" =
      some inst := by
    rw [Sample.undisturbed, hrun]
    exact hinst
  refine ⟨inst, hend, of_decide_eq_true hstate, ?_⟩
  refine emails_own_receipt.2 Sample.unspent Sample.unspent_fresh Sample.undisturbed ?_ _
    List.prefix_rfl _ _ hend
  intro past action mailed hpast hcomes
  have hmailed := Sample.comingToMail_eq hcomes
  rcases Along.at_prefix hall hpast with hnone | hid
  · rw [hmailed] at hnone
    exact nomatch hnone
  obtain ⟨rfl, rfl⟩ := Sample.mails_at hpast hid
  rw [hrun] at hmailed
  obtain rfl := Option.some.inj (hmailed.symm.trans hcoming)
  exact ⟨r, _, _, _, rfl, Sample.publishes_of_publishedFor hstep hr, Sample.receiptsFor_since⟩

end Sample

end ImpactRelay
