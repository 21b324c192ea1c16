/-
# `Agents.Authority` — who may have a command executed

The two gates of `agents/authority.py` that `CommandExecutor.execute` passes a
command through, before anything else is looked at.
-/
import ImpactRelay.Agents.Types
import ImpactRelay.Lib.Text

namespace ImpactRelay

def authorityError (msg : String) : PyExc := ⟨.authorityError, msg⟩

/-- `approver_id.startswith("agent:")`. -/
def isAgentId (approverId : String) : Bool := Text.startsWith "agent:" approverId

def requiresHumanApproval (command : AgentCommand) : Prop :=
  command.commandType ∈ l3CommandTypes ∨ command.requiredAuthority = .l3HumanApproval

instance (command : AgentCommand) : Decidable (requiresHumanApproval command) :=
  inferInstanceAs (Decidable (_ ∨ _))

/-- Gate execution: an L3 command needs a matching APPROVE receipt from a human. -/
def assertExecutionAuthorized (command : AgentCommand) (approval : Option ApprovalReceipt)
    (agentName : Option String) : Except PyExc Unit :=
  if ¬ requiresHumanApproval command then .ok ()
  else
    match approval with
    | none =>
        .error (authorityError s!"command {command.commandType} requires human ApprovalReceipt")
    | some approval =>
        if approval.decision ≠ .approve then
          .error (authorityError s!"approval decision is {approval.decision.value}, not APPROVE")
        else if approval.commandIdempotencyKey ≠ command.idempotencyKey then
          .error (authorityError "approval does not match command idempotency_key")
        else if approval.tenantId ≠ command.tenantId then
          .error (authorityError "approval tenant_id mismatch")
        -- Agents cannot approve their own consequential actions.
        else if agentName.getD "" ≠ "" ∧ some approval.approverId = agentName then
          .error (authorityError "agent cannot approve its own proposal")
        else if approval.approverId = "" ∨ isAgentId approval.approverId then
          .error (authorityError "approver_id must be a human operator identity")
        else .ok ()

/-- The confidence below which a proposal is blocked for human review. -/
def blockBelow : PyFloat := ⟨3 / 4, "0.75"⟩

def assertProposalExecutable [Json.CharTable] (proposal : AgentProposal) (now : String) :
    Except PyExc Unit :=
  if proposal.expiresAt < now then
    .error (authorityError s!"proposal {proposal.proposalId} has expired")
  else if proposal.contradictions ≠ [] then
    .error (authorityError s!"proposal {proposal.proposalId} has contradictions: {Json.pyRepr (.arr (proposal.contradictions.map .str))}")
  else
    match proposal.confidence with
    | none => .ok ()
    | some confidence =>
        if confidence.value < blockBelow.value then
          .error (authorityError s!"proposal {proposal.proposalId} confidence {confidence.text} < {blockBelow.text}; blocked for human review")
        else .ok ()

end ImpactRelay
