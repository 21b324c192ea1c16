/-
# `Host.Session` — an approval on the host path

`HostSession.approve` (`host/session.py`) over a durable workspace: who signs, the
waiting case the signature is for, and the approval that is put into its queue; the
workers it then pumps are steps of the system like any other.

The two checks of the signer are those for an expense, whatever the case waits for:
`approve_ok_iff` says what they let through.
-/
import ImpactRelay.Auth.Rbac
import ImpactRelay.Workflows.Listings
import ImpactRelay.Workflows.Steps

namespace ImpactRelay

/-! ## The session -/

structure HostSession where
  tenantId : Id
  principal : Option Principal := none
  /-- approve requires a bound principal -/
  requirePrincipalForApprove : Bool := false
  lastProposerId : Option String := none
deriving DecidableEq, Repr

/-- A reply that is not `ok`, or an exception. -/
inductive HostFailure where
  | refused (error : String) (message : Option String := none)
  | raised (exc : PyExc)
deriving DecidableEq, Repr

/-- From the target on in `durable_approve`: the case, and the approval that is signalled. -/
def durableApproval {σ : Type} [CaseStore σ] (x : Surroundings) (store : σ) (tenantId : Id)
    (workflowId : Option Id) (approverId : String) :
    Except HostFailure (OperatorCase × ApprovalReceipt) :=
  match durableApprove store tenantId workflowId approverId with
  | .error error => .error (.refused error)
  | .ok target =>
      if named : approverId ≠ "" then
        .ok (target, {
          approvalId := "op_" ++ x.utcNow
          tenantId
          proposalId := "operator"
          commandIdempotencyKey := target.commandIdempotencyKey.getD ""
          decision := .approve
          approverId
          approverRole := "finance_approver"
          approvedAt := x.utcNow
          rationale := "durable CLI approve"
          named })
      else .error (.raised ⟨.valueError, "approver_id is required"⟩)

namespace HostSession

section

variable [Json.CharTable]

/-- `_gate`: the permission of a bound principal; without one nothing is checked. -/
def gate (permission : Permission) (session : HostSession) : Except HostFailure Unit :=
  match session.principal with
  | none => .ok ()
  | some p =>
      match assertPermission p permission (some session.tenantId) with
      | .ok () => .ok ()
      | .error exc => .error (.refused "forbidden" (some exc.msg))

/-- Whose signature it is. -/
def signer (approverId proposerId : Option String) (session : HostSession) :
    Except HostFailure String :=
  if session.requirePrincipalForApprove && session.principal.isNone then
    .error (.refused "principal_required" (some "bind Principal via with_principal() before approve"))
  else
    match session.principal with
    | none => .ok (truthyOr approverId "finance.approver@hackersdojo.example")
    | some p =>
        match session.gate .workflowApproveExpense with
        | .error failure => .error failure
        | .ok () =>
            match assertSeparationOfDuties p "approve_expense"
              (orElse proposerId session.lastProposerId) with
            | .error exc => .error (.refused "separation_of_duties" (some exc.msg))
            | .ok () => .ok p.approverId

/-- Approve a waiting case. -/
def approve {σ : Type} [CaseStore σ] (x : Surroundings) (store : σ) (workspaceTenant : Id)
    (workflowId approverId proposerId : Option String) (session : HostSession) :
    Except HostFailure (OperatorCase × ApprovalReceipt) :=
  match session.signer approverId proposerId with
  | .error failure => .error failure
  | .ok actor =>
      if Text.startsWith "agent:" actor then .error (.refused "approver_must_be_human")
      else durableApproval x store workspaceTenant workflowId actor

end

end HostSession

/-! ## What the checks let through -/

/-- A bound principal who passes the two checks for an expense, under a name. -/
structure HostSession.Admits (session : HostSession) (proposerId : Option String) (p : Principal) :
    Prop where
  bound : session.principal = some p
  tenant : p.tenantId = session.tenantId
  human : p.isAgent = false
  named : p.approverId ≠ ""
  role : ∃ role ∈ [Role.financeApprover, .tenantAdmin], role ∈ p.roles
  ownless : ∀ proposer, orElse (orElse proposerId session.lastProposerId) none = some proposer →
    proposer ∉ p.identities

theorem Principal.approverId_human {p : Principal} (h : p.isAgent = false) :
    Text.startsWith "agent:" p.approverId = false := by
  rw [Principal.isAgent, Bool.or_eq_false_iff] at h
  rw [approverId, truthyOr]
  split
  · exact h.2
  · exact h.1

theorem approves_expense_iff {roles : List Role} :
    Permission.workflowApproveExpense ∈ permissionsForRoles roles ↔
      ∃ role ∈ [Role.financeApprover, .tenantAdmin], role ∈ roles := by
  refine mem_permissionsForRoles fun role => ?_
  cases role <;> decide

section

variable [Json.CharTable] {session : HostSession} {p : Principal}

theorem HostSession.signer_ok_iff {approverId proposerId : Option String} {actor : String}
    (hbound : session.principal = some p) :
    session.signer approverId proposerId = .ok actor ↔
      p.tenantId = session.tenantId ∧ p.isAgent = false ∧
        (∃ role ∈ [Role.financeApprover, .tenantAdmin], role ∈ p.roles) ∧
        (∀ proposer, orElse (orElse proposerId session.lastProposerId) none = some proposer →
          proposer ∉ p.identities) ∧ p.approverId = actor := by
  have hgate : session.gate .workflowApproveExpense = .ok () ↔
      p.tenantId = session.tenantId ∧ p.isAgent = false ∧
        ∃ role ∈ [Role.financeApprover, .tenantAdmin], role ∈ p.roles := by
    rw [← approves_expense_iff, ← assertPermission_ok_iff, gate, hbound]
    dsimp only
    split
    · rename_i h
      exact iff_of_true rfl h
    · rename_i h
      exact iff_of_false (fun h' => nomatch h') (fun h' => nomatch h.symm.trans h')
  have hsod : assertSeparationOfDuties p "approve_expense"
      (orElse proposerId session.lastProposerId) = .ok () ↔ p.isAgent = false ∧
        ∀ proposer, orElse (orElse proposerId session.lastProposerId) none = some proposer →
          proposer ∉ p.identities := assertSeparationOfDuties_ok_iff
  simp only [signer, hbound, Option.isNone_some, Bool.and_false, Bool.false_eq_true, if_false]
  cases hg : session.gate .workflowApproveExpense with
  | error failure =>
      refine iff_of_false (fun h => nomatch h) ?_
      rintro ⟨htenant, hhuman, hrole, -, -⟩
      exact nomatch hg.symm.trans (hgate.mpr ⟨htenant, hhuman, hrole⟩)
  | ok u =>
      obtain ⟨htenant, hhuman, hrole⟩ := hgate.mp hg
      dsimp only
      cases hs : assertSeparationOfDuties p "approve_expense"
          (orElse proposerId session.lastProposerId) with
      | error exc =>
          refine iff_of_false (fun h => nomatch h) ?_
          rintro ⟨-, -, -, hownless, -⟩
          exact nomatch hs.symm.trans (hsod.mpr ⟨hhuman, hownless⟩)
      | ok u =>
          dsimp only
          constructor
          · intro h
            exact ⟨htenant, hhuman, hrole, (hsod.mp hs).2, Except.ok.inj h⟩
          · rintro ⟨-, -, -, -, rfl⟩
            rfl

/-- A bound principal's approval goes through where the checks for an expense admit it and a
waiting case is found; what the case waits for does not matter. -/
theorem HostSession.approve_ok_iff {σ : Type} [CaseStore σ] {x : Surroundings} {store : σ}
    {workspaceTenant : Id} {workflowId approverId proposerId : Option String}
    {target : OperatorCase} (hbound : session.principal = some p) :
    (∃ approval, session.approve x store workspaceTenant workflowId approverId proposerId =
        .ok (target, approval)) ↔
      session.Admits proposerId p ∧
        durableApprove store workspaceTenant workflowId p.approverId = .ok target := by
  constructor
  · rintro ⟨approval, h⟩
    rw [approve] at h
    split at h
    · exact nomatch h
    · rename_i actor hsigner
      obtain ⟨htenant, hhuman, hrole, hownless, rfl⟩ := (signer_ok_iff hbound).mp hsigner
      rw [Principal.approverId_human hhuman, if_neg Bool.false_ne_true, durableApproval] at h
      split at h
      · exact nomatch h
      · rename_i found hfound
        split at h
        · rename_i named
          obtain rfl := (Prod.mk.inj (Except.ok.inj h)).1
          exact ⟨⟨hbound, htenant, hhuman, named, hrole, hownless⟩, hfound⟩
        · exact nomatch h
  · rintro ⟨⟨-, htenant, hhuman, named, hrole, hownless⟩, hfound⟩
    have hsigner : session.signer approverId proposerId = .ok p.approverId :=
      (signer_ok_iff hbound).mpr ⟨htenant, hhuman, hrole, hownless, rfl⟩
    simp only [approve, hsigner, Principal.approverId_human hhuman, Bool.false_eq_true, if_false,
      durableApproval, hfound, dif_pos named]
    exact ⟨_, rfl⟩

end

end ImpactRelay
