/-
# `Workflows.Commands` — the frozen command, rebuilt for execution

`build_executable_command` of `workflows/commands.py` and `freeze_command` of
`workflows/expense_to_receipt.py`.  What is executed is what was frozen; the
approval puts the approver into the fields that name one, and nothing else.
-/
import ImpactRelay.Agents.Authority
import ImpactRelay.Lib.Raise
import ImpactRelay.Workflows.Machine

namespace ImpactRelay

def freezeCommand (command : AgentCommand) (proposalId : Id) (agentName : String) :
    FrozenProposedCommand where
  tenantId := command.tenantId
  payload := command.payload
  idempotencyKey := command.idempotencyKey
  expiresAt := command.expiresAt
  requiredAuthority := command.requiredAuthority.value
  proposalId := proposalId
  agentName := agentName

namespace Payload

/-- `payload.setdefault("approved_by", approver_id)`. -/
def setDefault (field : Option String) (approverId : String) : Option String :=
  some (field.getD approverId)

/-- The overlay of the human identity. -/
def overlay (approverId : String) : Payload → Payload
  | .approveExpense p => .approveExpense { p with approvedBy := some approverId }
  | .publishUseOfFundsReceipt p => .publishUseOfFundsReceipt { p with
      actor := some approverId, approvedBy := setDefault p.approvedBy approverId }
  | .sendNotification p => .sendNotification { p with approvedBy := some approverId }
  | .reverseExpense p => .reverseExpense { p with
      actor := some approverId, approvedBy := setDefault p.approvedBy approverId }
  | .supersedeExpense p => .supersedeExpense { p with
      actor := some approverId, approvedBy := setDefault p.approvedBy approverId }
  | p => p

/-- The payload without the fields that name an approver. -/
def withoutApprover : Payload → Payload
  | .approveExpense p => .approveExpense { p with approvedBy := none }
  | .publishUseOfFundsReceipt p => .publishUseOfFundsReceipt { p with
      actor := none, approvedBy := none }
  | .sendNotification p => .sendNotification { p with approvedBy := none }
  | .reverseExpense p => .reverseExpense { p with actor := none, approvedBy := none }
  | .supersedeExpense p => .supersedeExpense { p with actor := none, approvedBy := none }
  | p => p

theorem withoutApprover_overlay (approverId : String) (p : Payload) :
    (p.overlay approverId).withoutApprover = p.withoutApprover := by
  cases p <;> rfl

end Payload

/-- The command an approval has executed. -/
def approvedCommand (frozen : FrozenProposedCommand) (approval : ApprovalReceipt) : AgentCommand where
  tenantId := frozen.tenantId
  payload := frozen.payload.overlay approval.approverId
  requiredAuthority := .l3HumanApproval
  idempotencyKey := frozen.idempotencyKey
  expiresAt := frozen.expiresAt

/-- The exact command, with the human identity of the approval. -/
def buildExecutableCommand (frozen : FrozenProposedCommand) (approval : ApprovalReceipt) :
    Except PyExc AgentCommand :=
  if approval.commandIdempotencyKey ≠ frozen.idempotencyKey then
    .error (authorityError "approval does not match frozen command_idempotency_key")
  else if approval.tenantId ≠ frozen.tenantId then
    .error (authorityError "approval tenant_id mismatch")
  else .ok (approvedCommand frozen approval)

/-- The two checks a gate makes before it executes. -/
def authorize (frozen : FrozenProposedCommand) (approval : ApprovalReceipt) :
    Except PyExc AgentCommand := do
  let command ← buildExecutableCommand frozen approval
  assertExecutionAuthorized command (some approval) (some frozen.agentName)
  return command

/-- What an approval must be to open a gate: a human's APPROVE of this very command. -/
structure Approves (frozen : FrozenProposedCommand) (approval : ApprovalReceipt) : Prop where
  decision : approval.decision = .approve
  key : approval.commandIdempotencyKey = frozen.idempotencyKey
  tenant : approval.tenantId = frozen.tenantId
  notAgent : isAgentId approval.approverId = false
  notProposer : approval.approverId ≠ frozen.agentName

instance (frozen : FrozenProposedCommand) (approval : ApprovalReceipt) :
    Decidable (Approves frozen approval) :=
  decidable_of_iff (approval.decision = .approve ∧
      approval.commandIdempotencyKey = frozen.idempotencyKey ∧
      approval.tenantId = frozen.tenantId ∧ isAgentId approval.approverId = false ∧
      approval.approverId ≠ frozen.agentName)
    ⟨fun ⟨h₁, h₂, h₃, h₄, h₅⟩ => ⟨h₁, h₂, h₃, h₄, h₅⟩, fun ⟨h₁, h₂, h₃, h₄, h₅⟩ => ⟨h₁, h₂, h₃, h₄, h₅⟩⟩

variable {frozen : FrozenProposedCommand} {approval : ApprovalReceipt}

theorem requiresHumanApproval_approvedCommand :
    requiresHumanApproval (approvedCommand frozen approval) :=
  Or.inr rfl

/-- The gate lets a human's APPROVE of the command through and raises on anything else. -/
theorem authorized_iff : assertExecutionAuthorized (approvedCommand frozen approval) (some approval)
    (some frozen.agentName) = .ok () ↔ Approves frozen approval := by
  have hproposer : (¬ ((some frozen.agentName).getD "" ≠ "" ∧
      some approval.approverId = some frozen.agentName)) ↔ approval.approverId ≠ frozen.agentName := by
    constructor
    · intro h heq
      exact h ⟨heq ▸ approval.named, congrArg some heq⟩
    · exact fun h h' => h (Option.some.inj h'.2)
  rw [assertExecutionAuthorized, if_neg (not_not_intro requiresHumanApproval_approvedCommand)]
  constructor
  · intro h
    split at h
    · exact absurd h nofun
    rename_i hdecision
    split at h
    · exact absurd h nofun
    rename_i hkey
    split at h
    · exact absurd h nofun
    rename_i htenant
    split at h
    · exact absurd h nofun
    rename_i hself
    split at h
    · exact absurd h nofun
    rename_i hagent
    push Not at hdecision hkey htenant hagent
    exact ⟨hdecision, hkey, htenant, Bool.eq_false_iff.mpr hagent.2, hproposer.mp hself⟩
  · rintro ⟨hdecision, hkey, htenant, hagent, hself⟩
    change (if approval.decision ≠ .approve then _
      else if approval.commandIdempotencyKey ≠ frozen.idempotencyKey then _
      else if approval.tenantId ≠ frozen.tenantId then _ else _) = _
    rw [if_neg (not_not_intro hdecision), if_neg (not_not_intro hkey),
      if_neg (not_not_intro htenant), if_neg (hproposer.mpr hself), if_neg]
    rintro (hempty | hagent')
    · exact approval.named hempty
    · exact absurd hagent' (Bool.eq_false_iff.mp hagent)

theorem authorize_eq_ok {command : AgentCommand} : authorize frozen approval = .ok command ↔
    Approves frozen approval ∧ command = approvedCommand frozen approval := by
  constructor
  · intro h
    obtain ⟨built, hbuild, h⟩ := Raise.except_bind_eq_ok.mp h
    obtain ⟨⟨⟩, hassert, h⟩ := Raise.except_bind_eq_ok.mp h
    obtain rfl := Except.ok.inj h
    rw [buildExecutableCommand] at hbuild
    split at hbuild
    · exact absurd hbuild nofun
    split at hbuild
    · exact absurd hbuild nofun
    obtain rfl := Except.ok.inj hbuild
    exact ⟨authorized_iff.mp hassert, rfl⟩
  · rintro ⟨happroves, rfl⟩
    have hbuild : buildExecutableCommand frozen approval = .ok (approvedCommand frozen approval) := by
      rw [buildExecutableCommand, if_neg (not_not_intro happroves.key),
        if_neg (not_not_intro happroves.tenant)]
    rw [authorize, hbuild]
    refine Raise.except_bind_eq_ok.mpr ⟨_, rfl, ?_⟩
    exact Raise.except_bind_eq_ok.mpr ⟨(), authorized_iff.mpr happroves, rfl⟩

theorem authorize_refuses (h : ¬ Approves frozen approval) :
    ∃ exc, authorize frozen approval = .error exc := by
  cases hauth : authorize frozen approval with
  | error exc => exact ⟨exc, rfl⟩
  | ok command => exact absurd (authorize_eq_ok.mp hauth).1 h

end ImpactRelay
