/-
# `Host.GateAuthority` — who signs at which gate

A durable workspace under a host: its system takes steps, and bound principals approve.
The workspace keeps, as the history of the run, who has signed for which workflow at
which gate.

Signatures are `Permitted` where their signer's roles grant the permission of the gate, and
`Separated` where no one who signed a workflow's expense signs its publication or its
notification afterwards.  The host asks neither question; it checks every signature as that
of an expense.  `gates_hold_iff`: they are permitted and separated all through a run exactly
when its callers see to it.
-/
import ImpactRelay.Host.Session
import ImpactRelay.Lib.Run
import ImpactRelay.Workflows.OwnReceipt

namespace ImpactRelay

/-! ## Gates -/

/-- What a workflow asks a human for. -/
inductive GateKind where
  | expense | publication | notification | correction
deriving DecidableEq, Repr

namespace GateKind

def permission : GateKind → Permission
  | .expense => .workflowApproveExpense
  | .publication => .workflowApprovePublish
  | .notification => .workflowApproveSend
  | .correction => .workflowApproveCorrection

/-- The gates a second person has to sign. -/
def dual (kind : GateKind) : Prop := kind = .publication ∨ kind = .notification

instance (kind : GateKind) : Decidable kind.dual := inferInstanceAs (Decidable (_ ∨ _))

end GateKind

/-- The gate a workflow is at, by its state. -/
def WorkflowInstance.gateKind (inst : WorkflowInstance) : Option GateKind :=
  match inst.workflowState with
  | .reviewPending =>
      some (if inst.workflowType = .correction then .correction else .expense)
  | .publicationPending => some .publication
  | .notificationPending => some .notification
  | _ => none

/-- The same login, or one goes by the name the other signs with. -/
def Principal.SamePerson (p q : Principal) : Prop :=
  p.subject = q.subject ∨ q.approverId ∈ p.identities

instance (p q : Principal) : Decidable (p.SamePerson q) := inferInstanceAs (Decidable (_ ∨ _))

/-! ## Signatures -/

structure Signature where
  signer : Principal
  workflowId : Id
  kind : GateKind
deriving DecidableEq, Repr

namespace Signature

/-- The roles of the signer grant the permission of the gate. -/
def Permitted (s : Signature) : Prop := s.kind.permission ∈ permissionsForRoles s.signer.roles

/-- One person has signed the expense of a workflow, and its publication or notification
afterwards. -/
structure Both (earlier later : Signature) : Prop where
  same : later.signer.SamePerson earlier.signer
  workflow : earlier.workflowId = later.workflowId
  expense : earlier.kind = .expense
  dual : later.kind.dual

instance (earlier later : Signature) : Decidable (Both earlier later) :=
  decidable_of_iff (later.signer.SamePerson earlier.signer ∧
      earlier.workflowId = later.workflowId ∧ earlier.kind = .expense ∧ later.kind.dual)
    ⟨fun ⟨h₁, h₂, h₃, h₄⟩ => ⟨h₁, h₂, h₃, h₄⟩, fun ⟨h₁, h₂, h₃, h₄⟩ => ⟨h₁, h₂, h₃, h₄⟩⟩

instance (s : Signature) : Decidable s.Permitted := inferInstanceAs (Decidable (_ ∈ _))

end Signature

/-! ## The workspace -/

/-- What happens to a durable workspace: an approval on the host path, or a step of the
system. -/
inductive HostAction where
  | system (action : Action)
  | approve (x : Surroundings) (session : HostSession)
      (workflowId approverId proposerId : Option String)

structure DurableWorkspace (σ : Type) where
  tenantId : Id
  system : System σ
  /-- what bound principals have signed, in order -/
  signatures : List Signature := []

namespace DurableWorkspace

variable {σ : Type}

def sign (s : Option Signature) (W : DurableWorkspace σ) : DurableWorkspace σ :=
  { W with signatures := W.signatures ++ s.toList }

/-- Every signature is permitted. -/
def Permitted (W : DurableWorkspace σ) : Prop := ∀ s ∈ W.signatures, s.Permitted

/-- Nobody has signed both sides of a dual control. -/
def Separated (W : DurableWorkspace σ) : Prop :=
  W.signatures.Pairwise fun earlier later => ¬ Signature.Both earlier later

def GatesHold (W : DurableWorkspace σ) : Prop := W.Permitted ∧ W.Separated

/-! ## One signature -/

/-- Who may sign an expense may sign a correction; publications and notifications are for
others. -/
theorem permitted_iff {s : Signature}
    (hfinance : ∃ role ∈ [Role.financeApprover, .tenantAdmin], role ∈ s.signer.roles) :
    s.Permitted ↔
      (s.kind.dual → ∃ role ∈ [Role.communicationsApprover, .tenantAdmin], role ∈ s.signer.roles) := by
  rw [Signature.Permitted]
  cases hkind : s.kind with
  | expense =>
      refine iff_of_true (approves_expense_iff.mpr hfinance) fun h => ?_
      rcases h with h | h
      · exact nomatch h
      · exact nomatch h
  | correction =>
      refine iff_of_true ?_ fun h => ?_
      · refine (mem_permissionsForRoles fun role => ?_).mpr hfinance
        cases role <;> decide
      · rcases h with h | h
        · exact nomatch h
        · exact nomatch h
  | publication =>
      have hholders : Permission.workflowApprovePublish ∈ permissionsForRoles s.signer.roles ↔
          ∃ role ∈ [Role.communicationsApprover, .tenantAdmin], role ∈ s.signer.roles :=
        mem_permissionsForRoles fun role => by cases role <;> decide
      exact hholders.trans ⟨fun h _ => h, fun h => h (Or.inl rfl)⟩
  | notification =>
      have hholders : Permission.workflowApproveSend ∈ permissionsForRoles s.signer.roles ↔
          ∃ role ∈ [Role.communicationsApprover, .tenantAdmin], role ∈ s.signer.roles :=
        mem_permissionsForRoles fun role => by cases role <;> decide
      exact hholders.trans ⟨fun h _ => h, fun h => h (Or.inr rfl)⟩

variable {W : DurableWorkspace σ}

/-- What one more signature asks of its signer. -/
theorem gatesHold_sign_iff {s : Signature} (h : W.GatesHold)
    (hfinance : ∃ role ∈ [Role.financeApprover, .tenantAdmin], role ∈ s.signer.roles) :
    (W.sign (some s)).GatesHold ↔
      (s.kind.dual →
        (∃ role ∈ [Role.communicationsApprover, .tenantAdmin], role ∈ s.signer.roles) ∧
        ∀ earlier ∈ W.signatures, earlier.workflowId = s.workflowId → earlier.kind = .expense →
          ¬ s.signer.SamePerson earlier.signer) := by
  have hsignatures : (W.sign (some s)).signatures = W.signatures ++ [s] := rfl
  rw [GatesHold, Permitted, Separated, hsignatures, List.pairwise_append]
  constructor
  · rintro ⟨hpermitted, -, -, hseparated⟩ hdual
    refine ⟨(permitted_iff hfinance).mp
      (hpermitted s (List.mem_append_right _ (List.mem_singleton_self s))) hdual, ?_⟩
    intro earlier hmem hworkflow hexpense hsame
    exact hseparated earlier hmem s (List.mem_singleton_self s) ⟨hsame, hworkflow, hexpense, hdual⟩
  · intro hcareful
    refine ⟨fun s' hs' => ?_, h.2, List.pairwise_singleton _ _, ?_⟩
    · rcases List.mem_append.mp hs' with hmem | hmem
      · exact h.1 s' hmem
      · obtain rfl := List.mem_singleton.mp hmem
        exact (permitted_iff hfinance).mpr fun hdual => (hcareful hdual).1
    · intro earlier hmem later hlater hboth
      obtain rfl := List.mem_singleton.mp hlater
      exact (hcareful hboth.dual).2 earlier hmem hboth.workflow hboth.expense hboth.same

/-- Signatures are all that the gates go by. -/
theorem gatesHold_congr {W' : DurableWorkspace σ} (h : W'.signatures = W.signatures) :
    W'.GatesHold ↔ W.GatesHold := by
  rw [GatesHold, GatesHold, Permitted, Permitted, Separated, Separated, h]

/-! ## Runs -/

section Run

variable [WorkflowStore σ] [CaseStore σ]

/-- The gate a workflow is at, as the store has it. -/
def gateOf (w : Id) (W : DurableWorkspace σ) : Option GateKind :=
  (WorkflowStore.row W.system.store w).bind (·.gateKind)

/-- What is signed with an approval for the case. -/
def signature (session : HostSession) (target : OperatorCase) (W : DurableWorkspace σ) :
    Option Signature :=
  session.principal.bind fun signer =>
    (W.gateOf target.workflowId).map fun kind => ⟨signer, target.workflowId, kind⟩

variable [Digest] [Json.CharTable]

def step (W : DurableWorkspace σ) : HostAction → DurableWorkspace σ
  | .system action => { W with system := W.system.step action }
  | .approve x session workflowId approverId proposerId =>
      match session.approve x W.system.store W.tenantId workflowId approverId proposerId with
      | .ok (target, approval) =>
          { W with
            system := W.system.step (.approve x W.tenantId target.workflowId approval)
            signatures := W.signatures ++ (W.signature session target).toList }
      | .error _ => W

/-- Whoever the checks for an expense admit to a publication or a notification approves
communications or is an administrator, and has not signed the expense. -/
def Careful (W : DurableWorkspace σ) : HostAction → Prop
  | .system _ => True
  | .approve _ session workflowId _ proposerId =>
      ∀ p target kind, session.Admits proposerId p →
        durableApprove W.system.store W.tenantId workflowId p.approverId = .ok target →
        W.gateOf target.workflowId = some kind → kind.dual →
          (∃ role ∈ [Role.communicationsApprover, .tenantAdmin], role ∈ p.roles) ∧
          ∀ s ∈ W.signatures, s.workflowId = target.workflowId → s.kind = .expense →
            ¬ p.SamePerson s.signer

theorem gatesHold_step_iff {action : HostAction} (h : W.GatesHold) :
    (W.step action).GatesHold ↔ W.Careful action := by
  cases action with
  | system action => exact iff_of_true ((gatesHold_congr rfl).mpr h) trivial
  | approve x session workflowId approverId proposerId =>
      rw [step]
      split
      · rename_i target approval happroves
        refine (gatesHold_congr (W := W.sign (W.signature session target)) ?_).trans ?_
        · rfl
        cases hbound : session.principal with
        | none =>
            -- nobody is bound: nothing is signed
            have hnone : W.signature session target = none := by
              rw [signature, hbound]
              rfl
            rw [hnone]
            refine iff_of_true ((gatesHold_congr (List.append_nil _)).mpr h) ?_
            intro p _ _ hadmits
            exact nomatch hbound.symm.trans hadmits.bound
        | some p =>
            obtain ⟨hadmits, hfound⟩ := (session.approve_ok_iff hbound).mp ⟨approval, happroves⟩
            cases hgate : W.gateOf target.workflowId with
            | none =>
                have hnone : W.signature session target = none := by
                  rw [signature, hbound, Option.bind_some, hgate]
                  rfl
                rw [hnone]
                refine iff_of_true ((gatesHold_congr (List.append_nil _)).mpr h) ?_
                intro q target' kind hq htarget hkind
                obtain rfl := Option.some.inj (hbound.symm.trans hq.bound)
                obtain rfl := Except.ok.inj (hfound.symm.trans htarget)
                exact nomatch hgate.symm.trans hkind
            | some kind =>
                have hsigned : W.signature session target = some ⟨p, target.workflowId, kind⟩ := by
                  rw [signature, hbound, Option.bind_some, hgate]
                  rfl
                rw [hsigned, gatesHold_sign_iff h hadmits.role]
                constructor
                · intro hcareful q target' kind' hq htarget hkind hdual
                  obtain rfl := Option.some.inj (hbound.symm.trans hq.bound)
                  obtain rfl := Except.ok.inj (hfound.symm.trans htarget)
                  obtain rfl := Option.some.inj (hgate.symm.trans hkind)
                  exact hcareful hdual
                · intro hcareful hdual
                  exact hcareful p target kind hadmits hfound hgate hdual
      · rename_i hrefused
        refine iff_of_true h ?_
        intro p target _ hadmits hfound
        have happroves : ∃ approval, session.approve x W.system.store W.tenantId workflowId
            approverId proposerId = .ok (target, approval) :=
          (session.approve_ok_iff hadmits.bound).mpr ⟨hadmits, hfound⟩
        obtain ⟨approval, hok⟩ := happroves
        exact nomatch hok.symm.trans hrefused

end Run

end DurableWorkspace

/-- All through a run of a workspace the signatures are permitted and separated exactly when
every approval of the run is careful. -/
theorem gates_hold_iff {σ : Type} [WorkflowStore σ] [CaseStore σ] [Digest] [Json.CharTable]
    (tenantId : Id) (S : System σ) (as : List HostAction) :
    (∀ past, past <+: as → (run DurableWorkspace.step ⟨tenantId, S, []⟩ past).GatesHold) ↔
      Along DurableWorkspace.step DurableWorkspace.Careful ⟨tenantId, S, []⟩ as := by
  have hstart : (⟨tenantId, S, []⟩ : DurableWorkspace σ).GatesHold :=
    ⟨fun s hs => (List.not_mem_nil hs).elim, List.Pairwise.nil⟩
  have hstep : ∀ (W : DurableWorkspace σ) (a : HostAction), True → True → W.GatesHold →
      ((W.step a).GatesHold ↔ W.Careful a) :=
    fun W a _ _ h => DurableWorkspace.gatesHold_step_iff h
  exact forall_run_iff (fun _ _ _ _ => trivial) hstep trivial hstart
    (along_of_forall fun _ _ => trivial)

section Sample

attribute [local instance] Sample.constantDigest Json.CharTable.all

namespace DurableWorkspace

/-- Approves expenses and corrections, and nothing else. -/
def Sample.finance : Principal where
  subject := "login|finance"
  tenantId := "org"
  email := "finance@example.org"
  roles := [.financeApprover]

def Sample.session : HostSession where
  tenantId := "org"
  principal := some Sample.finance
  requirePrincipalForApprove := true

def Sample.call (x : Surroundings) : HostAction := .approve x Sample.session none none none

/-- What the call puts into the queue of the workflow. -/
def Sample.signed (x : Surroundings) (key : String) : ApprovalReceipt where
  approvalId := "op_" ++ x.utcNow
  tenantId := "org"
  proposalId := "operator"
  commandIdempotencyKey := key
  decision := .approve
  approverId := "finance@example.org"
  approverRole := "finance_approver"
  approvedAt := x.utcNow
  rationale := "durable CLI approve"

/-- The only workflow, which waits at the gate. -/
structure Sample.Waits (kind : GateKind) (key : String) (inst : WorkflowInstance) : Prop where
  workflowId : inst.workflowId = "wf_30_0"
  tenantId : inst.tenantId = "org"
  waiting : inst.bucket = .waiting
  gate : inst.gateKind = some kind
  key : inst.waitKey = some key

instance (kind : GateKind) (key : String) (inst : WorkflowInstance) :
    Decidable (Sample.Waits kind key inst) :=
  decidable_of_iff (inst.workflowId = "wf_30_0" ∧ inst.tenantId = "org" ∧ inst.bucket = .waiting ∧
      inst.gateKind = some kind ∧ inst.waitKey = some key)
    ⟨fun ⟨h₁, h₂, h₃, h₄, h₅⟩ => ⟨h₁, h₂, h₃, h₄, h₅⟩,
      fun ⟨h₁, h₂, h₃, h₄, h₅⟩ => ⟨h₁, h₂, h₃, h₄, h₅⟩⟩

def Sample.onlyWaits (kind : GateKind) (key : String) (S : System SqlWorkflowStore) : Bool :=
  match S.store.workflows.rows with
  | [inst] => decide (Sample.Waits kind key inst)
  | _ => false

/-- The expense of a gift up to its review, and on to its publication. -/
def Sample.toReview : List Action := System.Sample.toPublication.take 6

def Sample.toPublish (key : String) : List Action :=
  .approve (System.Sample.at 32 32) "org" "wf_30_0" (Sample.signed (System.Sample.at 32 32) key) ::
    (System.Sample.turn "wf_30_0" 33 ++ System.Sample.turn "wf_30_0" 34)

theorem Sample.reviewed : Sample.onlyWaits .expense "approve:expense:pkt_31_0"
    (run System.step System.Sample.unspent Sample.toReview) = true := by
  decide +kernel

theorem Sample.publishes : Sample.onlyWaits .publication "publish:expense:gift"
    (run System.step System.Sample.unspent
      (Sample.toReview ++ Sample.toPublish "approve:expense:pkt_31_0")) = true := by
  decide +kernel

theorem Sample.step_call {W : DurableWorkspace SqlWorkflowStore} {x : Surroundings}
    {kind : GateKind} {key : String} (htenant : W.tenantId = "org") (hkey : key ≠ "")
    (h : Sample.onlyWaits kind key W.system = true) :
    W.step (Sample.call x) =
      ⟨"org", W.system.step (.approve x "org" "wf_30_0" (Sample.signed x key)),
        W.signatures ++ [⟨Sample.finance, "wf_30_0", kind⟩]⟩ := by
  rw [Sample.onlyWaits] at h
  split at h
  swap
  · exact nomatch h
  rename_i inst hrows
  obtain ⟨hid, hof, hwaiting, hgate, hwait⟩ := of_decide_eq_true h
  have hsigner : Sample.session.signer none none = .ok "finance@example.org" := by decide
  have hfound : durableApprove W.system.store inst.tenantId none "finance@example.org" =
      .ok (instanceToCase inst) := durableApprove_only hrows hwaiting hwait hkey (by decide)
  have happroval : Sample.session.approve x W.system.store "org" none none none =
      .ok (instanceToCase inst, Sample.signed x key) := by
    rw [HostSession.approve, hsigner]
    show durableApproval x W.system.store "org" none "finance@example.org" = _
    rw [hof] at hfound
    rw [durableApproval, hfound]
    dsimp only
    rw [dif_pos (by decide)]
    have hget : (instanceToCase inst).commandIdempotencyKey.getD "" = key := by
      show inst.waitKey.getD "" = key
      rw [hwait]
      rfl
    simp only [hget, Sample.signed]
  have hrow : W.gateOf (instanceToCase inst).workflowId = some kind := by
    have hmem : inst ∈ W.system.store.workflows.rows := by
      rw [hrows]
      exact List.mem_singleton_self inst
    have hfind : WorkflowStore.row W.system.store inst.workflowId = some inst :=
      Table.mem_rows.mp hmem
    show (WorkflowStore.row W.system.store inst.workflowId).bind _ = _
    rw [hfind]
    exact hgate
  have hsignature : W.signature Sample.session (instanceToCase inst) =
      some ⟨Sample.finance, "wf_30_0", kind⟩ := by
    rw [signature, hrow, ← hid]
    rfl
  rw [Sample.call, step, htenant, happroval]
  dsimp only
  rw [hsignature]
  show (⟨_, W.system.step (.approve x "org" inst.workflowId _), _⟩ : DurableWorkspace _) = _
  rw [hid]
  rfl

theorem run_system (as : List Action) : ∀ W : DurableWorkspace SqlWorkflowStore,
    run step W (as.map .system) = { W with system := run System.step W.system as } := by
  induction as with
  | nil => exact fun _ => rfl
  | cons a as ih => exact fun W => ih _

/-- The finance approver signs the expense, and what waits next. -/
def Sample.history : List HostAction :=
  Sample.toReview.map .system ++ Sample.call (System.Sample.at 32 32) ::
    ((System.Sample.turn "wf_30_0" 33 ++ System.Sample.turn "wf_30_0" 34).map .system ++
      [Sample.call (System.Sample.at 35 35)])

theorem Sample.history_signatures :
    (run step ⟨"org", System.Sample.unspent, []⟩ Sample.history).signatures =
      [⟨Sample.finance, "wf_30_0", .expense⟩, ⟨Sample.finance, "wf_30_0", .publication⟩] := by
  rw [Sample.history, run_append, run_cons, run_append, run_system, step_call rfl (by decide)
    Sample.reviewed, run_system, run_cons, run_nil]
  have hpublishes := Sample.publishes
  rw [run_append, toPublish, run_cons] at hpublishes
  rw [step_call rfl (by decide) hpublishes]
  rfl

end DurableWorkspace

open DurableWorkspace in
/-- A finance approver signs an expense, and then its publication, which is for others in
both respects. -/
theorem finance_signs_publication :
    (¬ ∀ (S : System SqlWorkflowStore) (as : List HostAction), S.Fresh →
      (run step ⟨"org", S, []⟩ as).Permitted) ∧
    ¬ ∀ (S : System SqlWorkflowStore) (as : List HostAction), S.Fresh →
      (run step ⟨"org", S, []⟩ as).Separated := by
  constructor
  · intro h
    have hpermitted := h _ Sample.history System.Sample.unspent_fresh
    rw [Permitted, Sample.history_signatures] at hpermitted
    exact absurd (hpermitted _ (List.mem_cons_of_mem _ (List.mem_singleton_self _))) (by decide)
  · intro h
    have hseparated := h _ Sample.history System.Sample.unspent_fresh
    rw [Separated, Sample.history_signatures, List.pairwise_pair] at hseparated
    exact hseparated (by decide)

end Sample

end ImpactRelay
