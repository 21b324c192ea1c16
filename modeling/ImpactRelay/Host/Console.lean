/-
# `Host.Console` — the console behind HTTP

`console_server.py` and the checks that `host/console.py`, `host/session.py` and `donor/api.py`
make before they do anything: how a request is routed, whose request it is, and what is let
through for that person.

    what is done for a request, and for whom        (`console_serves_iff`)
    who approves over HTTP                          (`approved_over_http_iff`)
    where a person's roles come from                (`roles_granted`)

The path of a request comes parsed, a query parameter by its first value, and a body as the JSON
object that was read.
-/
import ImpactRelay.Auth.Identity
import ImpactRelay.Host.Session

namespace ImpactRelay

open Raise

namespace Console

/-! ## Requests -/

/-- The headers that carry an identity. -/
structure Headers where
  authorization : Option String := none
  impactEmail : Option String := none
  campaignRole : Option String := none
  impactRoles : Option String := none
  impactSubject : Option String := none
  impactDisplayName : Option String := none

inductive Method where
  | get | post
deriving DecidableEq, Repr

structure Request where
  method : Method
  path : String
  tenantIdParam : Option String := none
  filtersParam : Option String := none
  headers : Headers := {}
  body : Except PyExc (List (String × Json)) := .ok []

/-- Runtime posture of the server. -/
structure ServerConfig where
  tenantId : Id := canonicalPilotTenantId
  allowUnauthenticatedPilot : Bool := false
  trustedProxy : Bool := false
  identityProvider : Option IdentityProvider := none

/-! ## Identity -/

/-- `(value or "").strip()`. -/
def header (value : Option String) : String := Text.strip (value.getD "")

def nonempty (s : String) : Option String := if s = "" then none else some s

/-- `text.replace("Bearer ", "")`. -/
def withoutBearer : List Char → List Char
  | 'B' :: 'e' :: 'a' :: 'r' :: 'e' :: 'r' :: ' ' :: cs => withoutBearer cs
  | c :: cs => c :: withoutBearer cs
  | [] => []

/-- The token of an `Authorization` header. -/
def Headers.token (h : Headers) : String :=
  Text.strip (String.ofList (withoutBearer (h.authorization.getD "").toList))

/-- Whether `except ValueError` takes the exception. -/
def isValueError (exc : PyExc) : Bool :=
  decide (exc.cls = .valueError ∨ exc.cls = (tokenValidationError "").cls)

/-- A provider's principal; none for a token that it does not accept. -/
def accepted (r : Except PyExc Login) : Except PyExc (Option Login) :=
  match r with
  | .ok p => .ok (some p)
  | .error exc => if isValueError exc then .ok none else .error exc

section

variable [Json.CharTable]

/-- The principal of the headers that a gateway sets. -/
def principalOfProxy (h : Headers) (cfg : ServerConfig) : Except PyExc Login :=
  let rolesHdr := header h.impactRoles
  let impactRoles := if rolesHdr = "" then none else some (commaList rolesHdr)
  let subject := truthyOr (nonempty (header h.impactSubject)) ("supabase:" ++ header h.impactEmail)
  match principalFromHostHeaders (header h.impactEmail) (nonempty (header h.campaignRole))
    (some subject) cfg.tenantId (header h.impactDisplayName) impactRoles with
  | .ok p => .ok p
  | .error exc => .error (if isValueError exc then authorizationError exc.msg else exc)

/-- Whether the headers of a gateway are there, and taken. -/
def fromProxy (h : Headers) (cfg : ServerConfig) : Bool :=
  cfg.trustedProxy && header h.impactEmail ≠ "" &&
    (header h.campaignRole ≠ "" || header h.impactRoles ≠ "")

/-- Resolve a principal from request identity, or none. -/
def resolvePrincipal (h : Headers) (cfg : ServerConfig) (allowFixture : Bool) :
    Except PyExc (Option Login) :=
  if fromProxy h cfg then (principalOfProxy h cfg).map some
  else if h.token = "" then .ok none
  else
    match cfg.identityProvider with
    | some provider => accepted (provider.principalForToken h.token)
    | none =>
        if allowFixture then accepted (hackerDojoFixtureOidc.principalForToken h.token)
        else .ok none

end

/-! ## Routes -/

inductive DonorView where
  | dashboard | timeline | receipts | receipt (receiptId : Id)
deriving DecidableEq, Repr

inductive Route where
  | health | tenants | verifyTenant | metrics | queue | caseDetail (workflowId : Id)
  | donor (donorId : Id) (view : DonorView) | seed | approve (workflowId : Id) | cloneTenant
deriving DecidableEq, Repr

/-- The segments of `path.rstrip("/") or "/"`. -/
def segments (path : String) : List String :=
  let stripped := (path.toList.reverse.dropWhile (· = '/')).reverse
  ((if stripped = [] then ['/'] else stripped).splitOn '/').map String.ofList

/-- `[^/]+`. -/
def named (segment : String) (route : Route) : Option Route :=
  if segment = "" then none else some route

def routeGet : List String → Option Route
  | ["", "api", "health"] => some .health
  | ["", "api", "admin", "tenants"] => some .tenants
  | ["", "api", "admin", "tenants", "verify"] => some .verifyTenant
  | ["", "api", "finance", "metrics"] => some .metrics
  | ["", "api", "finance", "queue"] => some .queue
  | ["", "api", "finance", "cases", w] => named w (.caseDetail w)
  | ["", "api", "donors", d, "dashboard"] => named d (.donor d .dashboard)
  | ["", "api", "donors", d, "timeline"] => named d (.donor d .timeline)
  | ["", "api", "donors", d, "receipts"] => named d (.donor d .receipts)
  | ["", "api", "donors", d, "receipts", r] =>
      (named d (.donor d (.receipt r))).bind (named r)
  | _ => none

def routePost : List String → Option Route
  | ["", "api", "pilot", "seed"] => some .seed
  | ["", "api", "finance", "cases", w, "approve"] => named w (.approve w)
  | ["", "api", "admin", "tenants", "clone"] => some .cloneTenant
  | _ => none

def Request.route (req : Request) : Option Route :=
  match req.method with
  | .get => routeGet (segments req.path)
  | .post => routePost (segments req.path)

/-! ## What is let through -/

/-- An answer that is not a result: its status, error and message. -/
structure HttpError where
  status : Nat
  error : String
  message : Option String := none
deriving DecidableEq, Repr

/-- `_dispatch`. -/
def HttpError.ofExc (exc : PyExc) : HttpError :=
  if exc.cls = (authorizationError "").cls then ⟨403, "forbidden", some exc.msg⟩
  else if exc.cls = .notFoundError then ⟨404, "not_found", some exc.msg⟩
  else if exc.cls = .other "builtins" "FileNotFoundError" then
    ⟨404, "no_workspace", some "no durable workspace"⟩
  else if isValueError exc then ⟨400, "bad_request", some exc.msg⟩
  else ⟨500, "internal_error", none⟩

def authenticationRequired (msg : String) : HttpError := ⟨401, "authentication_required", some msg⟩

/-- `_status_for_result`, of a result that is not `ok`. -/
def statusOf (error : String) : Nat :=
  if error = "principal_required" then 401
  else if error ∈ ["forbidden", "separation_of_duties", "approver_must_be_human"] then 403
  else if error ∈ ["not_found", "no_workspace"] then 404
  else 400

def HttpError.ofFailure : HostFailure → HttpError
  | .refused error message => ⟨statusOf error, error, message⟩
  | .raised exc => .ofExc exc

/-- What is done once the checks have passed. -/
inductive ConsoleCall where
  | health
  | listTenants
  | verifyTenant (tenantId : Id)
  | metrics
  | queue (filters : String)
  | caseDetail (workflowId : Id)
  | donor (donorId : Id) (view : DonorView)
  | seed (body : List (String × Json))
  | approve (workflowId : Id) (actor : String)

def staffRoles : List Role :=
  [.financeApprover, .financeReviewer, .auditor, .tenantAdmin, .communicationsApprover,
    .programVerifier]

/-- The text of a field.  What is no text is none of a principal's identities. -/
def textOf? (body : List (String × Json)) (key : String) : Option String :=
  match (Json.obj body).field? key with
  | some (.str s) => some s
  | _ => none

def isTenantName (s : String) : Bool :=
  Text.startsWith "org_" s && (s.toList.drop 4).all (fun c => c.isLower || c.isDigit || c = '_') &&
    decide (4 < s.length)

section

variable [Json.CharTable]

def raising {α : Type} (r : Except PyExc α) : Except HttpError α :=
  match r with
  | .ok a => .ok a
  | .error exc => .error (.ofExc exc)

def failing {α : Type} (r : Except HostFailure α) : Except HttpError α :=
  match r with
  | .ok a => .ok a
  | .error failure => .error (.ofFailure failure)

/-- Principal for a protected route, or none in pilot mode. -/
def requirePrincipal (req : Request) (cfg : ServerConfig) : Except HttpError (Option Login) := do
  let principal ← raising (resolvePrincipal req.headers cfg true)
  if principal.isNone && !cfg.allowUnauthenticatedPilot then
    .error (authenticationRequired ("authentication required: send Authorization: Bearer <email>" ++
      if cfg.trustedProxy then " or X-Impact-Email with a role header" else ""))
  else return principal

def requireTenantAdmin (req : Request) (cfg : ServerConfig) : Except HttpError Login := do
  match ← raising (resolvePrincipal req.headers cfg false) with
  | none => .error (authenticationRequired "admin endpoint requires authentication")
  | some p => do
      raising (assertPermission p.toPrincipal .tenantAdmin (some cfg.tenantId))
      return p

/-- The session of a finance or donor console. -/
def consoleSession (cfg : ServerConfig) (principal : Option Login) : HostSession where
  tenantId := cfg.tenantId
  principal := principal.map (·.toPrincipal)
  requirePrincipalForApprove := !cfg.allowUnauthenticatedPilot

/-- `_gate_list`. -/
def gateList (session : HostSession) : Except HttpError Unit :=
  match session.principal with
  | none => .ok ()
  | some p => raising (assertPermission p .workflowList (some session.tenantId))

def gateSeed (session : HostSession) : Except HttpError Unit :=
  match session.principal with
  | none => .ok ()
  | some p =>
      if [Permission.workflowSeed, .tenantAdmin, .workflowApproveExpense].any
          (hasPermission p ·) then .ok ()
      else .error (.ofFailure (.refused "forbidden"
        (some (Json.reprStr p.email ++ " cannot seed workflows"))))

/-- A donor-only principal must bind the donor it asks for. -/
def donorClaim (donorId : Id) (p : Login) : Except PyExc Unit :=
  if staffRoles.any (· ∈ p.roles) then .ok ()
  else
    let claim := ((Json.obj p.rawClaims).field? "donor_id").getD .null
    if claim = .null then
      .error (authorizationError ("donor principal " ++ Json.reprStr p.email ++
        " has no donor_id claim; the host must bind claims.donor_id at login"))
    else if claim ≠ .str donorId then
      .error (authorizationError ("donor principal cannot access donor_id=" ++
        Json.reprStr donorId))
    else .ok ()

/-- Gate donor-scoped reads, of a workspace of this tenant. -/
def assertDonorAccess (workspaceTenant donorId : Id) (principal : Option Login) :
    Except PyExc Unit :=
  match principal with
  | none => .ok ()
  | some p => do
      assertPermission p.toPrincipal .receiptRead (some workspaceTenant)
      donorClaim donorId p

def verifyTenant (cfg : ServerConfig) (tenantId : Id) : Except HttpError ConsoleCall :=
  if tenantId = "" then .error ⟨400, "tenant_id_required", none⟩
  else if !isTenantName tenantId then .error ⟨400, "bad_request", some "invalid_tenant_id_format"⟩
  else if tenantId ≠ cfg.tenantId then
    .error ⟨403, "forbidden", some "cross-tenant administration is not permitted"⟩
  else .ok (.verifyTenant tenantId)

/-- Without a principal the body names the approver, who is asked whether it starts with
`agent:`. -/
def assertApproverText (body : List (String × Json)) (session : HostSession) : Except PyExc Unit :=
  match session.principal, (Json.obj body).field? "approver_id" with
  | some _, _ | none, none | none, some (.str _) => .ok ()
  | none, some named =>
      if named.truthy then
        .error ⟨.attributeError, s!"'{named.typeName}' object has no attribute 'startswith'"⟩
      else .ok ()

/-- The person whose approval it is, as `HostSession.approve` has it. -/
def approvalActor (body : List (String × Json)) (session : HostSession) : Except HttpError String := do
  let actor ← failing (session.signer (textOf? body "approver_id") (textOf? body "proposer_id"))
  raising (assertApproverText body session)
  if isAgentName actor then .error (.ofFailure (.refused "approver_must_be_human"))
  else return actor

def defaultFilters : String := "waiting,blocked,dead_letter,needs_information,failed"

/-- What a request comes to: the call that is made, or the answer without one. -/
def serve (cfg : ServerConfig) (workspaceTenant : Id) (req : Request) :
    Except HttpError ConsoleCall := do
  match req.route with
  | none => .error ⟨404, "not_found", none⟩
  | some .health => return .health
  | some .tenants =>
      let _ ← requireTenantAdmin req cfg
      return .listTenants
  | some .verifyTenant =>
      let _ ← requireTenantAdmin req cfg
      verifyTenant cfg (req.tenantIdParam.getD "")
  | some .cloneTenant =>
      let _ ← requireTenantAdmin req cfg
      .error ⟨503, "tenant_provisioning_unavailable",
        some "Platform authorization and durable provisioning are not configured"⟩
  | some .metrics =>
      let principal ← requirePrincipal req cfg
      gateList (consoleSession cfg principal)
      return .metrics
  | some .queue =>
      let principal ← requirePrincipal req cfg
      gateList (consoleSession cfg principal)
      return .queue (req.filtersParam.getD defaultFilters)
  | some (.caseDetail workflowId) =>
      let principal ← requirePrincipal req cfg
      gateList (consoleSession cfg principal)
      return .caseDetail workflowId
  | some (.donor donorId view) =>
      let principal ← requirePrincipal req cfg
      raising (assertDonorAccess workspaceTenant donorId principal)
      return .donor donorId view
  | some .seed =>
      let principal ← requirePrincipal req cfg
      let body ← raising req.body
      gateSeed (consoleSession cfg principal)
      return .seed (body.filter fun field => field.1 ∈ ["expense_batch", "fixture_path"])
  | some (.approve workflowId) =>
      let principal ← requirePrincipal req cfg
      let body ← raising req.body
      let actor ← approvalActor body (consoleSession cfg principal)
      return .approve workflowId actor

end

/-! ## Who may ask for it -/

/-- A role other than this one. -/
def hasOther (role : Role) (p : Login) : Prop := ∃ r ∈ p.roles, r ≠ role

/-- A person of the tenant. -/
def isMember (tenantId : Id) (p : Login) : Prop := p.tenantId = tenantId ∧ p.isAgent = false

/-- The calls that a person's request on a route comes to. -/
def Serves (cfg : ServerConfig) (workspaceTenant : Id) (req : Request) (p : Login)
    (call : ConsoleCall) : Route → Prop
  | .health | .cloneTenant => False
  | .tenants => call = .listTenants ∧ isMember cfg.tenantId p ∧ .tenantAdmin ∈ p.roles
  | .verifyTenant => call = .verifyTenant cfg.tenantId ∧
      req.tenantIdParam = some cfg.tenantId ∧ isTenantName cfg.tenantId = true ∧
      isMember cfg.tenantId p ∧ .tenantAdmin ∈ p.roles
  | .metrics => call = .metrics ∧ isMember cfg.tenantId p ∧ hasOther .donor p
  | .queue => call = .queue (req.filtersParam.getD defaultFilters) ∧
      isMember cfg.tenantId p ∧ hasOther .donor p
  | .caseDetail workflowId => call = .caseDetail workflowId ∧
      isMember cfg.tenantId p ∧ hasOther .donor p
  | .donor donorId view => call = .donor donorId view ∧
      isMember workspaceTenant p ∧ hasOther .programVerifier p ∧
      (hasOther .donor p ∨ (Json.obj p.rawClaims).field? "donor_id" = some (.str donorId))
  | .seed => ∃ body, req.body = .ok body ∧
      call = .seed (body.filter fun field => field.1 ∈ ["expense_batch", "fixture_path"]) ∧
      ∃ role ∈ [Role.financeApprover, .tenantAdmin], role ∈ p.roles
  | .approve workflowId => ∃ body, req.body = .ok body ∧
      call = .approve workflowId p.approverId ∧ isMember cfg.tenantId p ∧
      (∃ role ∈ [Role.financeApprover, .tenantAdmin], role ∈ p.roles) ∧
      ∀ proposer, textOf? body "proposer_id" = some proposer → proposer ≠ "" →
        proposer ∉ p.identities

theorem raising_ok_iff {α : Type} {r : Except PyExc α} {a : α} :
    raising r = .ok a ↔ r = .ok a := by
  cases r <;> simp [raising]

theorem failing_ok_iff {α : Type} {r : Except HostFailure α} {a : α} :
    failing r = .ok a ↔ r = .ok a := by
  cases r <;> simp [failing]

theorem mem_permissions_ne {permission : Permission} {role : Role} {roles : List Role}
    (h : ∀ r, permission ∈ defaultRolePermissions r ↔ r ≠ role) :
    permission ∈ permissionsForRoles roles ↔ ∃ r ∈ roles, r ≠ role := by
  simp only [permissionsForRoles, List.mem_flatMap, h]

section

variable [Json.CharTable] {cfg : ServerConfig} {workspaceTenant : Id} {req : Request} {p : Login}

/-- A server that is not in pilot mode goes on for a principal only. -/
theorem requirePrincipal_bind_ok_iff (hpilot : cfg.allowUnauthenticatedPilot = false)
    {f : Option Login → Except HttpError ConsoleCall} {call : ConsoleCall} :
    requirePrincipal req cfg >>= f = .ok call ↔
      ∃ p, resolvePrincipal req.headers cfg true = .ok (some p) ∧ f (some p) = .ok call := by
  simp only [requirePrincipal, except_bind_eq_ok, raising_ok_iff, hpilot]
  constructor
  · rintro ⟨principal, ⟨found, hfound, h⟩, hf⟩
    cases found with
    | none => cases h
    | some p =>
        cases h
        exact ⟨p, hfound, hf⟩
  · rintro ⟨p, hp, hf⟩
    exact ⟨some p, ⟨some p, hp, rfl⟩, hf⟩

/-- An admin route goes on for an administrator of the tenant only. -/
theorem requireTenantAdmin_ok_iff : requireTenantAdmin req cfg = .ok p ↔
    resolvePrincipal req.headers cfg false = .ok (some p) ∧
      isMember cfg.tenantId p ∧ .tenantAdmin ∈ p.roles := by
  have hadmin : Permission.tenantAdmin ∈ permissionsForRoles p.roles ↔ .tenantAdmin ∈ p.roles := by
    have hholders : ∀ role, Permission.tenantAdmin ∈ defaultRolePermissions role ↔
        role ∈ [Role.tenantAdmin] := by
      intro role
      cases role <;> decide
    rw [mem_permissionsForRoles hholders]
    simp
  simp only [requireTenantAdmin, except_bind_eq_ok, raising_ok_iff]
  constructor
  · rintro ⟨found, hfound, h⟩
    cases found with
    | none => cases h
    | some p' =>
        obtain ⟨u, hpermission, h⟩ := except_bind_eq_ok.mp h
        cases h
        have hassert := assertPermission_ok_iff.mp (raising_ok_iff.mp hpermission)
        exact ⟨hfound, ⟨hassert.1, hassert.2.1⟩, hadmin.mp hassert.2.2⟩
  · rintro ⟨hp, ⟨htenant, hhuman⟩, hrole⟩
    refine ⟨some p, hp, except_bind_eq_ok.mpr ⟨(), ?_, rfl⟩⟩
    exact raising_ok_iff.mpr (assertPermission_ok_iff.mpr ⟨htenant, hhuman, hadmin.mpr hrole⟩)

theorem gateList_ok_iff {u : Unit} : gateList (consoleSession cfg (some p)) = .ok u ↔
    isMember cfg.tenantId p ∧ hasOther .donor p := by
  have hlist : Permission.workflowList ∈ permissionsForRoles p.roles ↔ hasOther .donor p := by
    refine mem_permissions_ne fun role => ?_
    cases role <;> decide
  rw [← hlist, isMember, and_assoc]
  exact raising_ok_iff.trans assertPermission_ok_iff

theorem gateSeed_ok_iff {u : Unit} : gateSeed (consoleSession cfg (some p)) = .ok u ↔
    ∃ role ∈ [Role.financeApprover, .tenantAdmin], role ∈ p.roles := by
  have hholders (permission : Permission) (holders : List Role)
      (h : ∀ role, permission ∈ defaultRolePermissions role ↔ role ∈ holders) :
      hasPermission p.toPrincipal permission = true ↔ ∃ role ∈ holders, role ∈ p.roles :=
    decide_eq_true_iff.trans (mem_permissionsForRoles h)
  have hseed := hholders .workflowSeed [.tenantAdmin] fun role => by cases role <;> decide
  have hadmin := hholders .tenantAdmin [.tenantAdmin] fun role => by cases role <;> decide
  have happrove := hholders .workflowApproveExpense [.financeApprover, .tenantAdmin]
    fun role => by cases role <;> decide
  have hany : ([Permission.workflowSeed, .tenantAdmin, .workflowApproveExpense].any
      (hasPermission p.toPrincipal ·)) = true ↔
        ∃ role ∈ [Role.financeApprover, .tenantAdmin], role ∈ p.roles := by
    simp only [List.any_cons, List.any_nil, Bool.or_false, Bool.or_eq_true, hseed, hadmin, happrove]
    simp only [List.mem_cons, List.not_mem_nil, or_false, exists_eq_left, exists_eq_or_imp]
    tauto
  rw [← hany]
  show (if _ then _ else _) = _ ↔ _
  split
  next h => exact iff_of_true rfl h
  next h => exact iff_of_false (fun h => by cases h) h

theorem assertDonorAccess_ok_iff {donorId : Id} {u : Unit} :
    assertDonorAccess workspaceTenant donorId (some p) = .ok u ↔
      isMember workspaceTenant p ∧ hasOther .programVerifier p ∧
        (hasOther .donor p ∨ (Json.obj p.rawClaims).field? "donor_id" = some (.str donorId)) := by
  have hread : Permission.receiptRead ∈ permissionsForRoles p.roles ↔
      hasOther .programVerifier p := by
    refine mem_permissions_ne fun role => ?_
    cases role <;> decide
  have hstaff : staffRoles.any (· ∈ p.roles) = true ↔ hasOther .donor p := by
    have hall (role : Role) : role ∈ staffRoles ↔ role ≠ .donor := by cases role <;> decide
    simp only [List.any_eq_true, hall, decide_eq_true_eq, hasOther]
    exact exists_congr fun role => and_comm
  have hclaim : donorClaim donorId p = .ok () ↔
      (hasOther .donor p ∨ (Json.obj p.rawClaims).field? "donor_id" = some (.str donorId)) := by
    rw [← hstaff, donorClaim]
    cases hany : staffRoles.any (· ∈ p.roles) with
    | true => simp
    | false =>
        cases hfield : (Json.obj p.rawClaims).field? "donor_id" with
        | none => simp
        | some claim =>
            by_cases hnull : claim = .null
            · simp [hnull]
            · by_cases hsame : claim = .str donorId <;> simp [hnull, hsame]
  rw [assertDonorAccess, except_bind_eq_ok]
  constructor
  · rintro ⟨u, hassert, h⟩
    obtain ⟨htenant, hhuman, hpermission⟩ := assertPermission_ok_iff.mp hassert
    exact ⟨⟨htenant, hhuman⟩, hread.mp hpermission, hclaim.mp h⟩
  · rintro ⟨⟨htenant, hhuman⟩, hrole, h⟩
    exact ⟨(), assertPermission_ok_iff.mpr ⟨htenant, hhuman, hread.mpr hrole⟩, hclaim.mpr h⟩

theorem approvalActor_ok_iff {body : List (String × Json)} {actor : String} :
    approvalActor body (consoleSession cfg (some p)) = .ok actor ↔
      actor = p.approverId ∧ isMember cfg.tenantId p ∧
      (∃ role ∈ [Role.financeApprover, .tenantAdmin], role ∈ p.roles) ∧
      ∀ proposer, textOf? body "proposer_id" = some proposer → proposer ≠ "" →
        proposer ∉ p.identities := by
  have hproposer : (∀ proposer, orElse (orElse (textOf? body "proposer_id") none) none =
      some proposer → proposer ∉ p.identities) ↔
        ∀ proposer, textOf? body "proposer_id" = some proposer → proposer ≠ "" →
          proposer ∉ p.identities := by
    cases textOf? body "proposer_id" with
    | none => simp [orElse]
    | some name => by_cases hname : name = "" <;> simp [orElse, hname]
  have hsigner (actor : String) := @HostSession.signer_ok_iff _ (consoleSession cfg (some p))
    p.toPrincipal (textOf? body "approver_id") (textOf? body "proposer_id") actor rfl
  rw [← hproposer, approvalActor, except_bind_eq_ok]
  constructor
  · rintro ⟨actor', hsigned, h⟩
    obtain ⟨htenant, hhuman, hrole, hownless, rfl⟩ := (hsigner actor').mp (failing_ok_iff.mp hsigned)
    obtain ⟨-, -, h⟩ := except_bind_eq_ok.mp h
    split at h
    · cases h
    · cases h
      exact ⟨rfl, ⟨htenant, hhuman⟩, hrole, hownless⟩
  · rintro ⟨rfl, ⟨htenant, hhuman⟩, hrole, hownless⟩
    refine ⟨_, failing_ok_iff.mpr ((hsigner _).mpr ⟨htenant, hhuman, hrole, hownless, rfl⟩), ?_⟩
    refine except_bind_eq_ok.mpr ⟨(), rfl, ?_⟩
    rw [isAgentName, Principal.approverId_human hhuman, if_neg Bool.false_ne_true]
    rfl

omit [Json.CharTable] in
theorem verifyTenant_ok_iff {call : ConsoleCall} : verifyTenant cfg (req.tenantIdParam.getD "") =
    .ok call ↔ call = .verifyTenant cfg.tenantId ∧ req.tenantIdParam = some cfg.tenantId ∧
      isTenantName cfg.tenantId = true := by
  have hempty : isTenantName "" = false := by decide
  rw [verifyTenant]
  cases hparam : req.tenantIdParam with
  | none => simp
  | some tenantId =>
      rw [Option.getD_some, Option.some.injEq]
      by_cases hsame : tenantId = cfg.tenantId
      · rw [hsame]
        by_cases hnone : cfg.tenantId = ""
        · simp [hnone, hempty]
        · cases hname : isTenantName cfg.tenantId <;> simp [hnone, eq_comm]
      · by_cases hnone : tenantId = ""
        · simp [hnone, hnone ▸ hsame]
        · cases hname : isTenantName tenantId <;> simp [hnone, hsame]

/-- Who a request is from, for its route: an admin route takes no fixture identity. -/
def Identified (cfg : ServerConfig) (req : Request) (p : Login) (route : Route) : Prop :=
  resolvePrincipal req.headers cfg (route ∉ [.tenants, .verifyTenant, .cloneTenant]) = .ok (some p)

/-- A call behind a check of the principal. -/
theorem gated_ok_iff (hpilot : cfg.allowUnauthenticatedPilot = false)
    {gate : Option Login → Except HttpError Unit} {P : Login → Prop} {c call : ConsoleCall}
    (hgate : ∀ p u, gate (some p) = .ok u ↔ P p) :
    (do
      let principal ← requirePrincipal req cfg
      gate principal
      return c) = .ok call ↔
        ∃ p, resolvePrincipal req.headers cfg true = .ok (some p) ∧ call = c ∧ P p := by
  rw [requirePrincipal_bind_ok_iff hpilot]
  refine exists_congr fun p => and_congr_right fun _ => ?_
  rw [except_bind_eq_ok]
  constructor
  · rintro ⟨u, hu, h⟩
    cases h
    exact ⟨rfl, (hgate p u).mp hu⟩
  · rintro ⟨rfl, h⟩
    exact ⟨(), (hgate p ()).mpr h, rfl⟩

/-- A call behind a check of the principal and of the body that was sent. -/
theorem gated_body_ok_iff (hpilot : cfg.allowUnauthenticatedPilot = false) {α : Type}
    {gate : List (String × Json) → Option Login → Except HttpError α}
    {c : List (String × Json) → α → ConsoleCall} {call : ConsoleCall} :
    (do
      let principal ← requirePrincipal req cfg
      let body ← raising req.body
      let a ← gate body principal
      return c body a) = .ok call ↔
        ∃ p, resolvePrincipal req.headers cfg true = .ok (some p) ∧
          ∃ body, req.body = .ok body ∧ ∃ a, gate body (some p) = .ok a ∧ call = c body a := by
  rw [requirePrincipal_bind_ok_iff hpilot]
  refine exists_congr fun p => and_congr_right fun _ => ?_
  rw [except_bind_eq_ok]
  refine exists_congr fun body => and_congr raising_ok_iff ?_
  rw [except_bind_eq_ok]
  refine exists_congr fun a => and_congr_right fun _ => ?_
  exact ⟨fun h => (Except.ok.inj h).symm, fun h => congrArg _ h.symm⟩

/-- A call for an administrator of the tenant. -/
theorem admin_ok_iff {r : Except HttpError ConsoleCall} {call : ConsoleCall} :
    (do
      let _ ← requireTenantAdmin req cfg
      r) = .ok call ↔ ∃ p, resolvePrincipal req.headers cfg false = .ok (some p) ∧
        r = .ok call ∧ isMember cfg.tenantId p ∧ .tenantAdmin ∈ p.roles := by
  rw [except_bind_eq_ok]
  refine exists_congr fun p => ?_
  rw [requireTenantAdmin_ok_iff, and_assoc]
  refine and_congr_right fun _ => ?_
  rw [and_comm]

/-- What is done for a request by a server that is not in pilot mode: the health check, and
else a call for a person whom the request resolves to and who is entitled to it. -/
theorem console_serves_iff (hpilot : cfg.allowUnauthenticatedPilot = false) {call : ConsoleCall} :
    serve cfg workspaceTenant req = .ok call ↔
      ∃ route, req.route = some route ∧ (route = .health ∧ call = .health ∨
        ∃ p, Identified cfg req p route ∧ Serves cfg workspaceTenant req p call route) := by
  rw [serve]
  cases hroute : req.route with
  | none => simp
  | some route =>
      simp only [Option.some.injEq, exists_eq_left']
      by_cases hhealth : route = .health
      · rw [hhealth]
        simp only [Serves, and_false, exists_false, or_false, true_and]
        exact ⟨fun h => (Except.ok.inj h).symm, fun h => congrArg Except.ok h.symm⟩
      rw [or_iff_right fun h => hhealth h.1]
      cases route with
      | health => exact absurd rfl hhealth
      | tenants =>
          refine admin_ok_iff.trans (exists_congr fun p => and_congr_right fun _ => ?_)
          exact and_congr_left fun _ => ⟨fun h => (Except.ok.inj h).symm, fun h => congrArg _ h.symm⟩
      | verifyTenant =>
          refine admin_ok_iff.trans (exists_congr fun p => and_congr_right fun _ => ?_)
          rw [verifyTenant_ok_iff, and_assoc, and_assoc]
          rfl
      | cloneTenant =>
          refine admin_ok_iff.trans (exists_congr fun p => and_congr_right fun _ => ?_)
          constructor
          · rintro ⟨h, -⟩
            cases h
          · intro h
            cases h
      | metrics => exact gated_ok_iff hpilot fun p u => gateList_ok_iff
      | queue => exact gated_ok_iff hpilot fun p u => gateList_ok_iff
      | caseDetail w => exact gated_ok_iff hpilot fun p u => gateList_ok_iff
      | donor donorId view =>
          exact gated_ok_iff hpilot fun p u => raising_ok_iff.trans assertDonorAccess_ok_iff
      | seed =>
          refine (gated_body_ok_iff hpilot).trans (exists_congr fun p => and_congr_right fun _ => ?_)
          refine exists_congr fun body => and_congr_right fun _ => ?_
          constructor
          · rintro ⟨u, hgate, h⟩
            exact ⟨h, gateSeed_ok_iff.mp hgate⟩
          · rintro ⟨h, hrole⟩
            exact ⟨(), gateSeed_ok_iff.mpr hrole, h⟩
      | approve w =>
          refine (gated_body_ok_iff hpilot).trans (exists_congr fun p => and_congr_right fun _ => ?_)
          refine exists_congr fun body => and_congr_right fun _ => ?_
          constructor
          · rintro ⟨actor, hactor, h⟩
            obtain ⟨rfl, hentitled⟩ := approvalActor_ok_iff.mp hactor
            exact ⟨h, hentitled⟩
          · rintro ⟨h, hentitled⟩
            exact ⟨_, approvalActor_ok_iff.mpr ⟨rfl, hentitled⟩, h⟩

end

namespace Sample

attribute [local instance] Json.CharTable.all

/-- The pilot's approver, who approves a case over HTTP. -/
def approval : Request where
  method := .post
  path := "/api/finance/cases/wf_1/approve/"
  headers := { authorization := some "Bearer finance@hackersdojo.org" }

def approver : Login where
  subject := "fixture|finance@hackersdojo.org"
  tenantId := "org_hacker_dojo"
  email := "finance@hackersdojo.org"
  roles := [.financeApprover]
  displayName := .str "finance@hackersdojo.org"
  issuer := .str "fixture://oidc"
  rawClaims := [("token", .str "finance@hackersdojo.org")]

theorem approver_served :
    serve {} "org_hacker_dojo" approval = .ok (.approve "wf_1" "finance@hackersdojo.org") := by
  refine (console_serves_iff rfl).mpr ⟨.approve "wf_1", by rfl, .inr ⟨approver, by rfl, ?_⟩⟩
  refine ⟨[], rfl, rfl, ⟨rfl, by decide⟩, ⟨.financeApprover, by decide, by decide⟩, ?_⟩
  intro proposer h
  cases h

end Sample

/-! ## Where roles come from -/

section

variable [Json.CharTable] {cfg : ServerConfig} {h : Headers} {p : Login}

/-- A person whom a trusted gateway has named, with the roles of its headers, or else with those
of the campaign role. -/
def FromGateway (cfg : ServerConfig) (h : Headers) (p : Login) : Prop :=
  cfg.trustedProxy = true ∧ p.tenantId = cfg.tenantId ∧ p.email = header h.impactEmail ∧
    isAgentName p.email = false ∧
    (p.roles.map Role.value = commaList (header h.impactRoles) ∨
      commaList (header h.impactRoles) = [] ∧
        p.roles = rolesForCampaignRole (header h.campaignRole))

/-- A person whose signed token has one membership of the host's tenant, with the roles of its
campaign role. -/
def FromToken (m : JwksOidcProvider) (h : Headers) (p : Login) : Prop :=
  ∃ payload membership, m.decode (JwksOidcProvider.bearer h.token) = .ok payload ∧
    Membership payload m.tenantId membership ∧ p.tenantId = m.tenantId ∧
      p.roles = rolesForCampaignRole (strOr (membership.field? "role") "")

/-- A person of the pilot's directory. -/
def FromDirectory (p : Login) : Prop :=
  p.tenantId = canonicalPilotTenantId ∧
    hackerDojoFixtureRoleMap.get? p.email = some (p.roles.map Role.value)

/-- A person whom the server's provider has named, or where it has none the directory. -/
def FromProvider (h : Headers) (p : Login) (allowFixture : Bool) :
    Option JwksOidcProvider → Prop
  | some m => FromToken m h p
  | none => allowFixture = true ∧ FromDirectory p

omit [Json.CharTable] in
theorem commaList_getD (s : String) :
    (if s = "" then none else some (commaList s)).getD [] = commaList s := by
  have hempty : commaList "" = [] := by decide
  split
  next hs =>
    rw [hs]
    exact hempty.symm
  next => rfl

omit [Json.CharTable] in
theorem nonempty_getD (s : String) : (nonempty s).getD "" = s := by
  rw [nonempty]
  split
  next hs => exact hs.symm
  next => rfl

theorem principalOfProxy_ok (hp : principalOfProxy h cfg = .ok p) :
    p.roles ≠ [] ∧ p.tenantId = cfg.tenantId ∧ p.email = header h.impactEmail ∧
    isAgentName p.email = false ∧
    (p.roles.map Role.value = commaList (header h.impactRoles) ∨
      commaList (header h.impactRoles) = [] ∧
        p.roles = rolesForCampaignRole (header h.campaignRole)) := by
  simp only [principalOfProxy] at hp
  split at hp
  next p' hok =>
    cases hp
    obtain ⟨hagent, htenant, hsome, hemail, hroles⟩ := principalFromHostHeaders_ok hok
    rw [commaList_getD, nonempty_getD] at hroles
    exact ⟨hsome, htenant, hemail, hagent, hroles⟩
  next => cases hp

omit [Json.CharTable] in
theorem accepted_ok_iff {r : Except PyExc Login} : accepted r = .ok (some p) ↔ r = .ok p := by
  cases r with
  | ok p' => simp [accepted]
  | error exc => simp only [accepted]; split <;> simp

/-- A request has the identity, and the roles, that a source which the server takes gives it: the
headers of a trusted gateway before a token, and a signed token where the server validates
them, in place of the pilot's directory. -/
theorem roles_granted {provider : Option JwksOidcProvider} {allowFixture : Bool}
    (hprovider : cfg.identityProvider = provider.map JwksOidcProvider.supabase)
    (hp : resolvePrincipal h cfg allowFixture = .ok (some p)) :
    p.roles ≠ [] ∧ if fromProxy h cfg then FromGateway cfg h p
      else FromProvider h p allowFixture provider := by
  rw [resolvePrincipal] at hp
  split at hp
  next hproxy =>
    cases hok : principalOfProxy h cfg with
    | error exc =>
        rw [hok] at hp
        cases hp
    | ok p' =>
        rw [hok] at hp
        cases hp
        obtain ⟨hsome, hgateway⟩ := principalOfProxy_ok hok
        have htrusted : cfg.trustedProxy = true := by
          rw [fromProxy, Bool.and_eq_true, Bool.and_eq_true] at hproxy
          exact hproxy.1.1
        rw [if_pos hproxy]
        exact ⟨hsome, htrusted, hgateway⟩
  next hproxy =>
    rw [if_neg hproxy]
    split at hp
    · cases hp
    · cases provider with
      | some m =>
          rw [hprovider] at hp
          obtain ⟨payload, membership, hdecode, hmembership, htenant, hsome, hroles⟩ :=
            supabasePrincipalForToken_ok (accepted_ok_iff.mp hp)
          exact ⟨hsome, payload, membership, hdecode, hmembership, htenant, hroles⟩
      | none =>
          rw [hprovider] at hp
          cases allowFixture with
          | false => cases hp
          | true =>
              simp only [Option.map_none, if_true] at hp
              obtain ⟨htenant, hsome, hentry⟩ := hackerDojoFixtureOidc_ok (accepted_ok_iff.mp hp)
              exact ⟨hsome, rfl, htenant, hentry⟩

end

namespace Sample

attribute [local instance] Json.CharTable.all

theorem approver_resolved :
    resolvePrincipal approval.headers {} true = .ok (some approver) := by rfl

theorem approver_granted : approver.roles ≠ [] ∧
    if fromProxy approval.headers {} then FromGateway {} approval.headers approver
    else FromProvider approval.headers approver true none :=
  roles_granted rfl approver_resolved

end Sample

end Console

end ImpactRelay
