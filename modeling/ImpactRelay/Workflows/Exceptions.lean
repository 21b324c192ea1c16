/-
# `Workflows.Exceptions` — what is worth another try

The taxonomy of `workflows/exceptions.py`: an exception is classified by the name
of its class, by the module the class is from, and before both by markers in its
message.
-/
import ImpactRelay.Lib.Text
import ImpactRelay.Workflows.Machine

namespace ImpactRelay

/-- `type(exc).__name__`. -/
def ExcClass.name : ExcClass → String
  | .invariantError => "InvariantError"
  | .stateError => "StateError"
  | .attributionError => "AttributionError"
  | .notFoundError => "NotFoundError"
  | .tenantIsolationError => "TenantIsolationError"
  | .consentError => "ConsentError"
  | .authorityError => "AuthorityError"
  | .privacySentinelError => "PrivacySentinelError"
  | .invalidOperation => "InvalidOperation"
  | .keyError => "KeyError"
  | .valueError => "ValueError"
  | .typeError => "TypeError"
  | .attributeError => "AttributeError"
  | .other _ name => name

/-- `type(exc).__module__`. -/
def ExcClass.module : ExcClass → String
  | .invariantError | .stateError | .attributionError | .notFoundError | .tenantIsolationError
  | .consentError => "impact_relay.domain.types"
  | .authorityError => "impact_relay.agents.authority"
  | .privacySentinelError => "impact_relay.agents.privacy"
  | .invalidOperation => "decimal"
  | .keyError | .valueError | .typeError | .attributeError => "builtins"
  | .other module _ => module

inductive ErrorClass where
  | retryable | terminal | alreadyApplied
deriving DecidableEq, Repr

def terminalTypeNames : List String := [
  "AuthorityError", "InvariantError", "StateError", "AttributionError", "NotFoundError",
  "PrivacySentinelError", "PolicyError", "WorkflowStateError", "WorkflowNotFoundError",
  "WorkflowConflictError"]

def retryableTypeNames : List String := [
  "OperationalError", "TimeoutError", "ConnectionError", "ConnectionResetError",
  "BrokenPipeError", "InterfaceError"]

def alreadyAppliedMarkers : List String := [
  "already approved", "already imported", "already published", "duplicate", "already applied"]

/-- `any(m in msg for m in _ALREADY_APPLIED_MARKERS)` of the lowered message. -/
def marksApplied (msg : String) : Bool :=
  alreadyAppliedMarkers.any fun marker => Text.hasSubstring marker (Text.lower msg)

structure ClassifiedError where
  errorClass : ErrorClass
  reason : String
deriving DecidableEq, Repr

def ClassifiedError.retryable (c : ClassifiedError) : Bool := c.errorClass = .retryable

/-- The markers are looked for first, so a marked message is retried by nobody. -/
def classifyError (exc : PyExc) : ClassifiedError :=
  let name := exc.cls.name
  let module_ := exc.cls.module
  if marksApplied exc.msg then ⟨.alreadyApplied, "already_applied:" ++ name⟩
  else if name ∈ terminalTypeNames then ⟨.terminal, "terminal:" ++ name⟩
  else if name ∈ retryableTypeNames then ⟨.retryable, "retryable:" ++ name⟩
  else if Text.hasSubstring "authority" module_ ∨ Text.hasSubstring "privacy" module_ ∨
      Text.hasSubstring "policy" module_ then ⟨.terminal, "terminal_module:" ++ module_⟩
  else if Text.hasSubstring "domain" module_ ∧ Text.endsWith "Error" name then
    ⟨.terminal, "domain_terminal:" ++ name⟩
  -- unknown: the worker caps the attempts
  else ⟨.retryable, "unknown_retry:" ++ name⟩

end ImpactRelay
