/-
# `Auth.Rbac` — roles, principals, and what they may sign

`auth/roles.py`, `auth/principal.py` and `auth/rbac.py`: the matrix of the roles, the
principal a login is mapped to, and the two checks a host makes before it signs for one,
of the permission and of the separation of duties.

Dual control goes by the identity of the earlier approver, not by roles; it is for the
actions that publish or send, and only if the caller says who approved before.
-/
import ImpactRelay.Agents.Authority

namespace ImpactRelay

/-! ## Roles -/

inductive Role where
  | donor | financeReviewer | financeApprover | programVerifier | communicationsApprover | auditor
  | tenantAdmin
deriving DecidableEq, Repr

def Role.value : Role → String
  | .donor => "donor"
  | .financeReviewer => "finance_reviewer"
  | .financeApprover => "finance_approver"
  | .programVerifier => "program_verifier"
  | .communicationsApprover => "communications_approver"
  | .auditor => "auditor"
  | .tenantAdmin => "tenant_admin"

inductive Permission where
  | workflowList | workflowSeed | workflowApproveExpense | workflowApprovePublish
  | workflowApproveSend | workflowApproveCorrection | expenseRead | receiptRead | auditRead
  | tenantAdmin | objectWrite
deriving DecidableEq, Repr

def Permission.value : Permission → String
  | .workflowList => "workflow.list"
  | .workflowSeed => "workflow.seed"
  | .workflowApproveExpense => "workflow.approve_expense"
  | .workflowApprovePublish => "workflow.approve_publish"
  | .workflowApproveSend => "workflow.approve_send"
  | .workflowApproveCorrection => "workflow.approve_correction"
  | .expenseRead => "expense.read"
  | .receiptRead => "receipt.read"
  | .auditRead => "audit.read"
  | .tenantAdmin => "tenant.admin"
  | .objectWrite => "object.write"

def Permission.all : List Permission :=
  [.workflowList, .workflowSeed, .workflowApproveExpense, .workflowApprovePublish,
    .workflowApproveSend, .workflowApproveCorrection, .expenseRead, .receiptRead, .auditRead,
    .tenantAdmin, .objectWrite]

/-- Platform default matrix. -/
def defaultRolePermissions : Role → List Permission
  | .donor => [.receiptRead]
  | .financeReviewer => [.workflowList, .expenseRead, .receiptRead, .auditRead]
  | .financeApprover =>
      [.workflowList, .workflowApproveExpense, .workflowApproveCorrection, .expenseRead,
        .receiptRead, .auditRead]
  | .programVerifier => [.workflowList, .expenseRead, .auditRead]
  | .communicationsApprover =>
      [.workflowList, .workflowApprovePublish, .workflowApproveSend, .receiptRead]
  | .auditor => [.workflowList, .expenseRead, .receiptRead, .auditRead]
  | .tenantAdmin => Permission.all

def permissionsForRoles (roles : List Role) : List Permission :=
  roles.flatMap defaultRolePermissions

/-- A permission is granted by one of the roles that have it. -/
theorem mem_permissionsForRoles {roles : List Role} {permission : Permission} {holders : List Role}
    (hholders : ∀ role, permission ∈ defaultRolePermissions role ↔ role ∈ holders) :
    permission ∈ permissionsForRoles roles ↔ ∃ role ∈ holders, role ∈ roles := by
  simp only [permissionsForRoles, List.mem_flatMap, hholders]
  exact ⟨fun ⟨role, hmem, hholds⟩ => ⟨role, hholds, hmem⟩,
    fun ⟨role, hholds, hmem⟩ => ⟨role, hmem, hholds⟩⟩

/-! ## Principals -/

/-- Identity bound to one tenant after a login. -/
structure Principal where
  subject : String
  tenantId : Id
  email : String
  roles : List Role
deriving DecidableEq, Repr

namespace Principal

/-- Value stamped on an approval: the email, or else the subject. -/
def approverId (p : Principal) : String := truthyOr (some p.email) p.subject

/-- The names a principal goes by. -/
def identities (p : Principal) : List String := [p.email, p.subject, p.approverId]

def isAgent (p : Principal) : Bool :=
  Text.startsWith "agent:" p.email || Text.startsWith "agent:" p.subject

end Principal

def authorizationError (msg : String) : PyExc :=
  ⟨.other "impact_relay.auth.rbac" "AuthorizationError", msg⟩

/-! ## The checks -/

def hasPermission (p : Principal) (permission : Permission) : Bool :=
  decide (permission ∈ permissionsForRoles p.roles)

/-- Actions that must not be signed by the earlier approver. -/
def dualControlActions : List String := ["approve_publish", "approve_send"]

/-- The principal would sign both sides of a dual-control chain. -/
def violatesDualControl (p : Principal) (action : String) (priorApproverId : Option String) : Bool :=
  match orElse priorApproverId none with
  | none => false
  | some prior => decide (action ∈ dualControlActions) && decide (prior ∈ p.identities)

section Checks

variable [Json.CharTable]

def assertPermission (p : Principal) (permission : Permission) (tenantId : Option Id) :
    Except PyExc Unit :=
  if tenantId.any (p.tenantId ≠ ·) then
    .error (authorizationError ("principal tenant " ++ Json.reprStr p.tenantId ++
      " does not match " ++ Json.reprStr (tenantId.getD "")))
  else if p.isAgent then .error (authorizationError "agents cannot act as human principals")
  else if hasPermission p permission then .ok ()
  else .error (authorizationError ("principal " ++ Json.reprStr p.email ++ " lacks permission " ++
    permission.value ++ " (roles=" ++ Json.pyRepr (.arr (p.roles.map (.str ·.value))) ++ ")"))

/-- Separation of duties. A dual control the tenant has waived is logged and passes. -/
def assertSeparationOfDuties (p : Principal) (action : String) (proposerId : Option String)
    (priorApproverId : Option String := none) (enforceHard : Bool := true)
    (enforceDualControl : Bool := true) : Except PyExc Unit :=
  if p.isAgent then .error (authorizationError "agents cannot satisfy SoD as approvers")
  else if ¬ enforceHard then .ok ()
  else if (orElse proposerId none).any (· ∈ p.identities) then
    .error (authorizationError ("separation of duties: " ++ Json.reprStr p.email ++
      " cannot approve own proposal (proposer_id=" ++ Json.reprStr (proposerId.getD "") ++
      ", action=" ++ action ++ ")"))
  else if violatesDualControl p action priorApproverId && enforceDualControl then
    .error (authorizationError ("dual control: " ++ Json.reprStr p.email ++
      " already approved an earlier step (prior_approver_id=" ++
      Json.reprStr (priorApproverId.getD "") ++ ") and cannot also sign " ++ action ++
      "; a second approver is required"))
  else .ok ()

variable {p : Principal} {permission : Permission} {tenantId : Id}

theorem assertPermission_ok_iff : assertPermission p permission (some tenantId) = .ok () ↔
    p.tenantId = tenantId ∧ p.isAgent = false ∧ permission ∈ permissionsForRoles p.roles := by
  simp only [assertPermission, Option.any_some, decide_eq_true_eq, hasPermission]
  by_cases htenant : p.tenantId = tenantId
  · by_cases hagent : p.isAgent = true
    · simp [htenant, hagent]
    · by_cases hgrant : permission ∈ permissionsForRoles p.roles
      · simp [htenant, hagent, hgrant]
      · simp [htenant, hagent, hgrant]
  · simp [htenant]

/-- With no earlier approver named only the own proposal counts, whatever the action. -/
theorem assertSeparationOfDuties_ok_iff {action : String} {proposerId : Option String} :
    assertSeparationOfDuties p action proposerId = .ok () ↔
      p.isAgent = false ∧ ∀ proposer, orElse proposerId none = some proposer →
        proposer ∉ p.identities := by
  have hfree : violatesDualControl p action none = false := rfl
  simp only [assertSeparationOfDuties, hfree, Bool.false_and]
  by_cases hagent : p.isAgent = true
  · simp [hagent]
  · cases hproposer : orElse proposerId none with
    | none => simp [hagent]
    | some proposer =>
        by_cases hown : proposer ∈ p.identities
        · simp [hagent, hown]
        · simp [hagent, hown]

end Checks

end ImpactRelay
