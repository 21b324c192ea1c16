/-
# `Auth.Identity` — who a request comes from

The ways in which a host turns a token or its own headers into a principal: the claims of a
validated token (`auth/oidc.py`, `auth/jwt_oidc.py`), a membership signed into it
(`auth/supabase.py`), and the headers of a gateway (`auth/role_map.py`).

    whose roles a principal has      (`principalFromHostHeaders_ok`,
                                      `supabasePrincipalForToken_ok`, `hackerDojoFixtureOidc_ok`)

The validation of a signed token is the library's; a provider is given what it returns.
-/
import ImpactRelay.Auth.Rbac
import ImpactRelay.Lib.Dict
import ImpactRelay.Storage.LedgerRepo

namespace ImpactRelay

open Raise

/-! ## Roles by name -/

def Role.all : List Role :=
  [.donor, .financeReviewer, .financeApprover, .programVerifier, .communicationsApprover, .auditor,
    .tenantAdmin]

section

variable [Json.CharTable]

/-- `Role(name)`. -/
def roleOf (name : String) : Except PyExc Role :=
  match Role.all.find? fun role => role.value = name with
  | some role => .ok role
  | none => .error ⟨.valueError, Json.reprStr name ++ " is not a valid Role"⟩

def rolesOf : List String → Except PyExc (List Role)
  | [] => .ok []
  | name :: names => do
      let role ← roleOf name
      let roles ← rolesOf names
      return role :: roles

end

/-- `[part.strip() for part in text.split(",") if part.strip()]`. -/
def commaList (text : String) : List String :=
  ((text.toList.splitOn ',').map fun part => Text.strip (String.ofList part)).filter (· ≠ "")

/-- A principal with what it was bound with. -/
structure Login extends Principal where
  displayName : Json := .str ""
  issuer : Json := .null
  rawClaims : List (String × Json) := []

def isAgentName (name : String) : Bool := Text.startsWith "agent:" name

/-! ## Claims -/

/-- What a token says, as it says it: only the subject and the roles are made texts. -/
structure OidcClaims where
  sub : String
  email : Json := .null
  name : Json := .null
  iss : Json := .null
  aud : Json := .null
  roles : List String := []
  tenantId : Json := .null
  raw : List (String × Json) := []

def OidcClaims.toDict (claims : OidcClaims) : List (String × Json) := [
  ("sub", .str claims.sub),
  ("email", claims.email),
  ("name", claims.name),
  ("iss", claims.iss),
  ("aud", claims.aud),
  ("roles", .arr (claims.roles.map .str)),
  ("tenant_id", claims.tenantId)]

/-- `claim or default`. -/
def claimOr (claim : Json) (default : String) : Json :=
  if claim.truthy then claim else .str default

/-- `(claim or default).strip()`. -/
def strippedOr (claim : Json) (default : String) : Except PyExc String :=
  match claimOr claim default with
  | .str s => .ok (Text.strip s)
  | j => .error ⟨.attributeError, s!"'{j.typeName}' object has no attribute 'strip'"⟩

/-- `a or b or c` on lists. -/
def firstNonempty {α : Type} : List (List α) → List α
  | [] => []
  | [] :: rest => firstNonempty rest
  | (a :: as) :: _ => a :: as

/-- Email or subject of a person, to its role names. -/
abbrev RoleMap := Dict String (List String)

/-- The role names that claims stand for. -/
def OidcClaims.roleNames (claims : OidcClaims) (email : String) (roleMap : RoleMap)
    (defaultRoles : List String) : List String :=
  firstNonempty [claims.roles, (roleMap.get? email).getD [], (roleMap.get? claims.sub).getD [],
    defaultRoles]

section

variable [Json.CharTable]

/-- The stand-in's claims name the tenant by a text. -/
def principalFromClaims (claims : OidcClaims) (tenantId : Id) (roleMap : RoleMap)
    (defaultRoles : List String) : Except PyExc Login := do
  let email ← strippedOr claims.email claims.sub
  if email = "" || isAgentName email then
    .error ⟨.valueError, "OIDC claims missing usable human email/sub"⟩
  else
    let names := claims.roleNames email roleMap defaultRoles
    if names = [] then
      .error ⟨.valueError, "no roles for subject " ++ Json.reprStr claims.sub ++ " email " ++
        Json.reprStr email ++ " — configure host role_map or claims.roles"⟩
    else do
      let roles ← rolesOf names
      return {
        subject := claims.sub
        tenantId := (claimOr claims.tenantId tenantId).text
        email
        roles
        displayName := claimOr claims.name email
        issuer := claims.iss
        rawClaims := if claims.raw = [] then claims.toDict else claims.raw }

/-! ## Providers -/

/-- An identity provider, by the principal it has for a token. -/
structure IdentityProvider where
  principalForToken : String → Except PyExc Login

/-- Local pilot stand-in, without validation of the token. -/
structure FixtureOidcMapper where
  tenantId : Id
  roleMap : RoleMap
  issuer : String := "fixture://oidc"

namespace FixtureOidcMapper

/-- The email of a token, which is `email:user@domain` or `user@domain`. -/
def emailOf (token : String) : String :=
  let raw := Text.strip token
  let raw := if Text.startsWith "Bearer " raw then
    Text.strip (String.ofList (raw.toList.drop 7)) else raw
  if Text.startsWith "email:" raw then String.ofList (raw.toList.drop 6) else raw

def validateAccessToken (token : String) (m : FixtureOidcMapper) : Except PyExc OidcClaims :=
  let email := emailOf token
  if email = "" || '@' ∉ email.toList then
    .error ⟨.valueError, "fixture token must be email:user@domain or user@domain"⟩
  else .ok {
    sub := "fixture|" ++ email
    email := .str email
    name := .str email
    iss := .str m.issuer
    roles := (m.roleMap.get? email).getD []
    tenantId := .str m.tenantId
    raw := [("token", .str token)] }

def principalForToken (token : String) (m : FixtureOidcMapper) : Except PyExc Login := do
  let claims ← m.validateAccessToken token
  principalFromClaims claims m.tenantId m.roleMap []

end FixtureOidcMapper

def canonicalPilotTenantId : Id := "org_hacker_dojo"

/-- Default pilot directory. -/
def hackerDojoFixtureRoleMap : RoleMap := .ofList [
  ("finance.approver@hackersdojo.example", ["finance_approver"]),
  ("finance.reviewer@hackersdojo.example", ["finance_reviewer"]),
  ("finance@hackersdojo.org", ["finance_approver"]),
  ("comms.approver@hackersdojo.example", ["communications_approver"]),
  ("auditor@hackersdojo.example", ["auditor"]),
  ("admin@hackersdojo.example", ["tenant_admin"])]

def hackerDojoFixtureOidc : FixtureOidcMapper :=
  { tenantId := canonicalPilotTenantId, roleMap := hackerDojoFixtureRoleMap }

def tokenValidationError (msg : String) : PyExc :=
  ⟨.other "impact_relay.auth.jwt_oidc" "TokenValidationError", msg⟩

/-- A provider backed by signed tokens.  `decode` is the payload of a token whose signature,
expiry, issuer and audience are verified, or what the library says of it. -/
structure JwksOidcProvider where
  tenantId : Id
  rolesClaim : String := "roles"
  decode : String → Except String (List (String × Json))

namespace JwksOidcProvider

/-- `payload.get(key)`. -/
def claim (payload : List (String × Json)) (key : String) : Json :=
  ((Json.obj payload).field? key).getD .null

/-- The role names of a claim: a list of them, or a text with commas. -/
def claimedRoles (claim : Option Json) : Except PyExc (List String) :=
  match claim with
  | none => .ok []
  | some claim =>
      if !claim.truthy then .ok []
      else
        match claim with
        | .str s => .ok (commaList s)
        | .arr items => .ok (items.map Json.text)
        | .obj fields => .ok (fields.map Prod.fst)
        | j => .error ⟨.typeError, s!"'{j.typeName}' object is not iterable"⟩

def bearer (token : String) : String :=
  let raw := Text.strip token
  if Text.startsWith "bearer " (Text.lower raw) then
    Text.strip (String.ofList (raw.toList.drop 7)) else raw

def validateAccessToken (token : String) (m : JwksOidcProvider) : Except PyExc OidcClaims :=
  let raw := bearer token
  if raw = "" then .error (tokenValidationError "empty bearer token")
  else
    match m.decode raw with
    | .error detail => .error (tokenValidationError ("token rejected: " ++ detail))
    | .ok payload =>
        let sub := strOr ((Json.obj payload).field? "sub") ""
        if sub = "" then .error (tokenValidationError "token has no sub claim")
        else do
          let roles ← claimedRoles ((Json.obj payload).field? m.rolesClaim)
          return {
            sub
            email := claim payload "email"
            name := claim payload "name"
            iss := claim payload "iss"
            aud := claim payload "aud"
            roles
            tenantId := claimOr (claim payload "tenant_id") m.tenantId
            raw := payload }

end JwksOidcProvider

/-! ## Roles of a campaign -/

def hackerDojoCampaignRoleMap : Dict String (List Role) := .ofList [
  ("director", [.tenantAdmin, .financeApprover]),
  ("campaign_lead", [.financeApprover, .financeReviewer]),
  ("development", [.financeApprover, .financeReviewer]),
  ("data_steward", [.financeReviewer]),
  ("auditor", [.auditor]),
  ("board_viewer", [.auditor])]

omit [Json.CharTable] in
def rolesForCampaignRole (campaignRole : String) : List Role :=
  (hackerDojoCampaignRoleMap.get? (Text.lower (Text.strip campaignRole))).getD []

def clientMemberships (raw : List (String × Json)) : Except PyExc (List Json) :=
  match (Json.obj raw).field? "client_memberships" with
  | none => .ok []
  | some memberships =>
      if !memberships.truthy then .ok []
      else
        match memberships with
        | .arr items => .ok items
        | _ => .error (tokenValidationError "client_memberships claim must be a list")

/-- Select one signed active membership and map its campaign role. -/
def principalFromSupabaseClaims (claims : OidcClaims) (tenantId : Id) : Except PyExc Login := do
  let memberships ← clientMemberships claims.raw
  match memberships.filter fun item => item.field? "client_id" = some (.str tenantId) with
  | [membership] =>
      let campaignRole := strOr (membership.field? "role") ""
      let roles := rolesForCampaignRole campaignRole
      if roles = [] then
        .error (tokenValidationError ("membership role " ++ Json.reprStr campaignRole ++
          " has no Impact Relay roles"))
      else do
        let email ← strippedOr claims.email ""
        if email = "" then .error (tokenValidationError "Supabase token is missing email")
        else return {
          subject := claims.sub
          tenantId
          email
          roles
          displayName := claimOr claims.name email
          issuer := claims.iss
          rawClaims := claims.raw }
  | _ => .error (tokenValidationError ("token has no unique active membership for " ++ tenantId))

namespace JwksOidcProvider

def supabasePrincipalForToken (token : String) (m : JwksOidcProvider) : Except PyExc Login := do
  let claims ← m.validateAccessToken token
  principalFromSupabaseClaims claims m.tenantId

/-- The provider that the server is started with. -/
def supabase (m : JwksOidcProvider) : IdentityProvider := ⟨fun token => m.supabasePrincipalForToken token⟩

end JwksOidcProvider

/-- Explicit role names, or else the roles of the campaign role. -/
def hostRoles (impactRoles : Option (List String)) (campaignRole : Option String) :
    Except PyExc (List Role) :=
  match impactRoles with
  | some (name :: names) => rolesOf (name :: names)
  | _ =>
      let campaignRole := campaignRole.getD ""
      .ok (if campaignRole = "" then [] else rolesForCampaignRole campaignRole)

/-- A principal for an identity that the host has authenticated. -/
def principalFromHostHeaders (email : String) (campaignRole subject : Option String)
    (tenantId : Id) (displayName : String) (impactRoles : Option (List String)) :
    Except PyExc Login :=
  if isAgentName email then .error ⟨.valueError, "agents cannot be host principals"⟩
  else do
    let roles ← hostRoles impactRoles campaignRole
    if roles = [] then
      .error ⟨.valueError, "no Impact Relay roles for email=" ++ Json.reprStr email ++
        " campaign_role=" ++ (Json.ofOption campaignRole).pyRepr⟩
    else
      return {
        subject := truthyOr subject ("host:" ++ email)
        tenantId
        email
        roles
        displayName := .str (if displayName = "" then email else displayName)
        issuer := .str "host://hacker-dojo"
        rawClaims := [("campaign_role", .ofOption campaignRole),
          ("impact_roles", .arr (roles.map fun role => .str role.value))] }

/-! ## Whose roles a principal has -/

theorem roleOf_ok_iff {name : String} {role : Role} :
    roleOf name = .ok role ↔ role.value = name := by
  rw [roleOf]
  constructor
  · intro h
    split at h
    next r hfind =>
      cases h
      simpa using List.find?_some hfind
    next => cases h
  · rintro rfl
    cases role <;> rfl

theorem rolesOf_ok_iff {names : List String} {roles : List Role} :
    rolesOf names = .ok roles ↔ roles.map Role.value = names := by
  induction names generalizing roles with
  | nil =>
      constructor
      · intro h
        cases h
        rfl
      · intro h
        rw [List.map_eq_nil_iff.mp h]
        rfl
  | cons name names ih =>
      rw [rolesOf]
      simp only [except_bind_eq_ok, roleOf_ok_iff, ih]
      constructor
      · rintro ⟨role, hrole, roles', hroles, h⟩
        cases h
        rw [List.map_cons, hrole, hroles]
      · intro h
        obtain ⟨role, roles', rfl, hrole, hroles⟩ := List.map_eq_cons_iff.mp h
        exact ⟨role, hrole, roles', hroles, rfl⟩

/-- What claims are mapped to: a person of the tenant that the claims name, with the first
role names that there are, the claims' own, the host's for the email or the subject, or the
provider's. -/
theorem principalFromClaims_ok {claims : OidcClaims} {tenantId : Id} {roleMap : RoleMap}
    {defaultRoles : List String} {p : Login}
    (h : principalFromClaims claims tenantId roleMap defaultRoles = .ok p) :
    isAgentName p.email = false ∧ p.tenantId = (claimOr claims.tenantId tenantId).text ∧
      p.roles ≠ [] ∧ strippedOr claims.email claims.sub = .ok p.email ∧
        p.roles.map Role.value = claims.roleNames p.email roleMap defaultRoles := by
  obtain ⟨email, hstripped, h⟩ := except_bind_eq_ok.mp h
  dsimp only at h
  split at h
  · cases h
  next hemail =>
    split at h
    · cases h
    next hnames =>
      obtain ⟨roles, hroles, h⟩ := except_bind_eq_ok.mp h
      cases h
      have hvalues := rolesOf_ok_iff.mp hroles
      refine ⟨?_, rfl, ?_, hstripped, hvalues⟩
      · rw [Bool.or_eq_true, not_or, Bool.not_eq_true] at hemail
        exact Bool.eq_false_of_not_eq_true hemail.2
      · rintro rfl
        exact hnames hvalues.symm

omit [Json.CharTable] in
theorem rolesForCampaignRole_empty : rolesForCampaignRole "" = [] := by decide

theorem hostRoles_ok {impactRoles : Option (List String)} {campaignRole : Option String}
    {roles : List Role} (h : hostRoles impactRoles campaignRole = .ok roles) :
    roles.map Role.value = impactRoles.getD [] ∨
      impactRoles.getD [] = [] ∧ roles = rolesForCampaignRole (campaignRole.getD "") := by
  have hcampaign : (if campaignRole.getD "" = "" then [] else
      rolesForCampaignRole (campaignRole.getD "")) = rolesForCampaignRole (campaignRole.getD "") := by
    split
    next hempty => rw [hempty, rolesForCampaignRole_empty]
    next => rfl
  cases impactRoles with
  | none => exact .inr ⟨rfl, ((Except.ok.inj h).symm.trans hcampaign)⟩
  | some names =>
      cases names with
      | nil => exact .inr ⟨rfl, ((Except.ok.inj h).symm.trans hcampaign)⟩
      | cons name names => exact .inl (rolesOf_ok_iff.mp h)

/-- What the headers of a gateway are mapped to: a person of the host's tenant, with the roles
that the headers name, or else those of the campaign role. -/
theorem principalFromHostHeaders_ok {email displayName : String}
    {campaignRole subject : Option String} {tenantId : Id} {impactRoles : Option (List String)}
    {p : Login} (h : principalFromHostHeaders email campaignRole subject tenantId displayName
      impactRoles = .ok p) :
    isAgentName p.email = false ∧ p.tenantId = tenantId ∧ p.roles ≠ [] ∧ p.email = email ∧
      (p.roles.map Role.value = impactRoles.getD [] ∨
        impactRoles.getD [] = [] ∧ p.roles = rolesForCampaignRole (campaignRole.getD "")) := by
  rw [principalFromHostHeaders] at h
  split at h
  · cases h
  next hemail =>
    obtain ⟨roles, hroles, h⟩ := except_bind_eq_ok.mp h
    split at h
    · cases h
    next hsome =>
      cases h
      refine ⟨Bool.eq_false_of_not_eq_true hemail, rfl, hsome, rfl, ?_⟩
      exact hostRoles_ok hroles

/-- The one membership of a token's that is for the tenant. -/
def Membership (payload : List (String × Json)) (tenantId : Id) (membership : Json) : Prop :=
  ∃ memberships, clientMemberships payload = .ok memberships ∧
    memberships.filter (fun item => item.field? "client_id" = some (.str tenantId)) = [membership]

theorem principalFromSupabaseClaims_ok {claims : OidcClaims} {tenantId : Id} {p : Login}
    (h : principalFromSupabaseClaims claims tenantId = .ok p) : ∃ membership,
      Membership claims.raw tenantId membership ∧ p.tenantId = tenantId ∧ p.roles ≠ [] ∧
        p.roles = rolesForCampaignRole (strOr (membership.field? "role") "") := by
  obtain ⟨memberships, hmemberships, h⟩ := except_bind_eq_ok.mp h
  split at h
  next membership hone =>
    dsimp only at h
    generalize hroles : rolesForCampaignRole (strOr (membership.field? "role") "") = roles at h
    split at h
    · cases h
    next hsome =>
      obtain ⟨email, -, h⟩ := except_bind_eq_ok.mp h
      split at h
      · cases h
      · rw [← Except.ok.inj h]
        exact ⟨membership, ⟨memberships, hmemberships, hone⟩, rfl, hsome, hroles.symm⟩
  next => cases h

/-- What a signed token is mapped to: a principal of the host's tenant, with the campaign role of
the membership that is for it. -/
theorem supabasePrincipalForToken_ok {m : JwksOidcProvider} {token : String} {p : Login}
    (h : m.supabasePrincipalForToken token = .ok p) : ∃ payload membership,
      m.decode (JwksOidcProvider.bearer token) = .ok payload ∧
      Membership payload m.tenantId membership ∧ p.tenantId = m.tenantId ∧ p.roles ≠ [] ∧
      p.roles = rolesForCampaignRole (strOr (membership.field? "role") "") := by
  obtain ⟨claims, hclaims, h⟩ := except_bind_eq_ok.mp h
  have hraw : m.decode (JwksOidcProvider.bearer token) = .ok claims.raw := by
    simp only [JwksOidcProvider.validateAccessToken] at hclaims
    split at hclaims
    · cases hclaims
    · split at hclaims
      · cases hclaims
      next payload hdecode =>
        split at hclaims
        · cases hclaims
        · obtain ⟨roles, -, hclaims⟩ := except_bind_eq_ok.mp hclaims
          rw [← Except.ok.inj hclaims]
          exact hdecode
  obtain ⟨membership, hmembership⟩ := principalFromSupabaseClaims_ok h
  exact ⟨claims.raw, membership, hraw, hmembership⟩

omit [Json.CharTable] in
theorem eq_of_firstNonempty {α : Type} {lists : List (List α)} {as : List α}
    (h : firstNonempty lists = as) (has : as ≠ []) : as ∈ lists := by
  induction lists with
  | nil => exact absurd h.symm has
  | cons first rest ih =>
      cases first with
      | nil => exact List.mem_cons_of_mem _ (ih h)
      | cons b bs => exact h ▸ List.mem_cons_self

omit [Json.CharTable] in
theorem mem_directory {name : String} {names : List String}
    (h : (hackerDojoFixtureRoleMap.get? name).getD [] = names) (hnames : names ≠ []) :
    name ∈ hackerDojoFixtureRoleMap.keys ∧ hackerDojoFixtureRoleMap.get? name = some names := by
  cases hget : hackerDojoFixtureRoleMap.get? name with
  | none =>
      rw [hget] at h
      exact absurd h.symm hnames
  | some names' =>
      rw [hget] at h
      cases h
      exact ⟨Dict.mem_def.mp (Dict.mem_iff_get?.mpr ⟨_, hget⟩), rfl⟩

/-- What the pilot's stand-in maps a token to: an entry of its directory. -/
theorem hackerDojoFixtureOidc_ok {token : String} {p : Login}
    (h : hackerDojoFixtureOidc.principalForToken token = .ok p) :
    p.tenantId = canonicalPilotTenantId ∧ p.roles ≠ [] ∧
      hackerDojoFixtureRoleMap.get? p.email = some (p.roles.map Role.value) := by
  obtain ⟨claims, hclaims, h⟩ := except_bind_eq_ok.mp h
  obtain ⟨-, htenant, hroles, hemail, hnames⟩ := principalFromClaims_ok h
  have hsome : p.roles.map Role.value ≠ [] := fun hnil => hroles (List.map_eq_nil_iff.mp hnil)
  refine ⟨?_, hroles, ?_⟩
  · simp only [FixtureOidcMapper.validateAccessToken] at hclaims
    split at hclaims
    · cases hclaims
    · rw [htenant, ← Except.ok.inj hclaims]
      rfl
  · simp only [FixtureOidcMapper.validateAccessToken] at hclaims
    split at hclaims
    · cases hclaims
    next husable =>
      generalize FixtureOidcMapper.emailOf token = name at hclaims husable
      rw [← Except.ok.inj hclaims] at hemail hnames
      have hlisted := eq_of_firstNonempty hnames.symm hsome
      simp only [List.mem_cons, List.not_mem_nil, or_false] at hlisted
      rcases hlisted with hown | hemailed | hsub | hnone
      · obtain ⟨hkey, hget⟩ := mem_directory hown.symm hsome
        have hstripped : ∀ key ∈ hackerDojoFixtureRoleMap.keys, Text.strip key = key := by decide
        have hname : (Json.str name).truthy = true :=
          decide_eq_true fun h => husable (by rw [h]; rfl)
        rw [strippedOr, claimOr, if_pos hname] at hemail
        rw [← Except.ok.inj hemail, hstripped name hkey]
        exact hget
      · exact (mem_directory hemailed.symm hsome).2
      · obtain ⟨hkey, -⟩ := mem_directory hsub.symm hsome
        have hnot : ∀ key ∈ hackerDojoFixtureRoleMap.keys,
            Text.startsWith "fixture|" key = false := by decide
        have hprefix : Text.startsWith "fixture|" ("fixture|" ++ name) = true := by
          simp [Text.startsWith]
        rw [hnot _ hkey] at hprefix
        cases hprefix
      · exact absurd hnone hsome

end

end ImpactRelay
