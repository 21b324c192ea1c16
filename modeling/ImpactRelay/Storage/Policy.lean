/-
# `Storage.Policy` — tenant policies and the document a workspace keeps of one

The dataclasses of `policy.py`, and from `storage/workspace.py` the versioned document that
stores one: the body with sorted keys, without blanks, every character outside ASCII escaped.
It is read back strictly.  The fields must be those of a policy, of the same types, and the
policy that comes out must be written as the very document that was read.

    a policy is read from exactly the document it is written as   (`canonical_policy_round_trip`)

A policy's texts have no lone surrogates and its fields are of the annotated types; a
confidence is an `int` or a `float`, the float by its text.
-/
import ImpactRelay.Lib.JsonRead
import ImpactRelay.Lib.Text
import ImpactRelay.Domain.Types

namespace ImpactRelay

/-- `PolicyError`, a `ValueError`. -/
def policyError (msg : String) : PyExc := ⟨.other "impact_relay.policy" "PolicyError", msg⟩

namespace Policy

/-! ## The dataclasses -/

structure EvidencePolicy where
  sufficientKinds : List String := ["invoice", "receipt", "accounting_ref"]
  requireDonorVisible : Bool := true
deriving DecidableEq

structure AttributionPolicy where
  defaultMethod : String := "DIRECT_RESTRICTED"
  allowedMethods : List String := [
    "DIRECT_RESTRICTED", "PRO_RATA_POOL", "FIFO_ALLOCATION", "COHORT_ALLOCATION",
    "ASSET_SPONSORSHIP", "EXPENSE_BACKED", "MANUAL_APPROVED"]
deriving DecidableEq

structure NotificationPolicy where
  requireSeparateSendApproval : Bool := true
  defaultEmailTopics : List String := ["MONEY_USED", "CORRECTION"]
  fixtureConsentAllowed : Bool := true
deriving DecidableEq

structure AuthorityPolicy where
  l3CommandTypes : List String := [
    "approve_expense", "reject_expense", "publish_use_of_funds_receipt", "send_notification",
    "publish_public_evidence", "change_attribution_policy", "correct_published_amount",
    "reverse_expense", "supersede_expense"]
deriving DecidableEq

section

variable [FloatText]

/-- A number: an `int`, or a `float` by the text that is written for it. -/
inductive Number where
  | int (n : Int)
  | float (text : String)
      (isText : Json.IsFloat text ∧ FloatText.written text = text ∨ text ∈ Json.nonFinite)
deriving DecidableEq

namespace Number

/-- `float(text)` for the text of a float. -/
def ofText (text : String) (h : Json.IsFloat text) : Number :=
  .float (FloatText.written text) (FloatText.written_isFloat text h)

def toJson : Number → Json
  | .int n => .num n
  | .float text _ => .float text

def ofJson? : Json → Option Number
  | .num n => some (.int n)
  | .float text =>
      if h : Json.IsFloat text ∧ FloatText.written text = text ∨ text ∈ Json.nonFinite then
        some (.float text h)
      else none
  | _ => none

/-- Whether `json.dumps(…, allow_nan=False)` writes it. -/
def finite : Number → Bool
  | .int n => decide ((Nat.toDigits 10 n.natAbs).length ≤ Json.maxDigits)
  | .float text _ => decide (text ∉ Json.nonFinite)

@[simp] theorem ofJson?_toJson (n : Number) : ofJson? n.toJson = some n := by
  cases n with
  | int n => rfl
  | float text h => simp [ofJson?, toJson, h]

theorem toJson_sorted (n : Number) : n.toJson.sorted = n.toJson := by
  cases n <;> rfl

theorem readable_of_finite {n : Number} (h : n.finite = true) : n.toJson.Readable := by
  cases n with
  | int n =>
      have hdigits : (Nat.toDigits 10 n.natAbs).length ≤ Json.maxDigits := of_decide_eq_true h
      exact hdigits
  | float text htext => exact htext

end Number

structure ConfidencePolicy where
  blockBelow : Number := .ofText "0.75" (by decide)
  recommendHigh : Number := .ofText "0.95" (by decide)
deriving DecidableEq

/-- Deterministic policy pack for one tenant and version. -/
structure TenantPolicy where
  version : String
  tenantId : Id
  displayName : String := ""
  confidence : ConfidencePolicy := {}
  evidence : EvidencePolicy := {}
  attribution : AttributionPolicy := {}
  notifications : NotificationPolicy := {}
  authority : AuthorityPolicy := {}
  sourcePath : Option String := none
deriving DecidableEq

def strings (texts : List String) : Json := .arr (texts.map .str)

def TenantPolicy.toDict (p : TenantPolicy) : Json :=
  .obj [
    ("version", .str p.version),
    ("tenant_id", .str p.tenantId),
    ("display_name", .str p.displayName),
    ("confidence", .obj [
      ("block_below", p.confidence.blockBelow.toJson),
      ("recommend_high", p.confidence.recommendHigh.toJson)]),
    ("evidence", .obj [
      ("sufficient_kinds", strings p.evidence.sufficientKinds),
      ("require_donor_visible", .bool p.evidence.requireDonorVisible)]),
    ("attribution", .obj [
      ("default_method", .str p.attribution.defaultMethod),
      ("allowed_methods", strings p.attribution.allowedMethods)]),
    ("notifications", .obj [
      ("require_separate_send_approval", .bool p.notifications.requireSeparateSendApproval),
      ("default_email_topics", strings p.notifications.defaultEmailTopics),
      ("fixture_consent_allowed", .bool p.notifications.fixtureConsentAllowed)]),
    ("authority", .obj [
      ("l3_command_types", strings p.authority.l3CommandTypes)]),
    ("source_path", .ofOption p.sourcePath)]

/-- `TenantPolicy(tenant_id="example", version="v1")`. -/
def TenantPolicy.example_ : TenantPolicy where
  tenantId := "example"
  version := "v1"

end

/-! ## The shape of a body -/

def isStr : Json → Bool
  | .str _ => true
  | _ => false

def keysOf (fields : List (String × Json)) : List String := fields.map Prod.fst

/-- `a.keys() == b.keys()`. -/
def sameKeys (a b : List (String × Json)) : Bool :=
  (keysOf a).all (fun k => decide (k ∈ keysOf b)) &&
    (keysOf b).all fun k => decide (k ∈ keysOf a)

def sameType (value : Json) (name : String) : Except PyExc Unit :=
  if value.typeName = name then .ok ()
  else .error (policyError "canonical policy field type mismatch")

mutual

/-- The value has the shape of the example. -/
def validateShape (value : Json) : Json → Except PyExc Unit
  | .obj fields =>
      match value with
      | .obj fields' =>
          if sameKeys fields' fields then validateFields fields' fields
          else .error (policyError "canonical policy fields mismatch")
      | _ => .error (policyError "canonical policy fields mismatch")
  | .arr _ =>
      match value with
      | .arr items =>
          if items.all isStr then .ok ()
          else .error (policyError "canonical policy requires string lists")
      | _ => .error (policyError "canonical policy requires string lists")
  | .null =>
      if value = .null ∨ isStr value = true then .ok ()
      else .error (policyError "invalid source_path provenance")
  | .float _ =>
      if value.typeName = "float" ∨ value.typeName = "int" then .ok ()
      else .error (policyError "canonical policy requires numeric confidence")
  | .str _ => sameType value "str"
  | .bool _ => sameType value "bool"
  | .num _ => sameType value "int"

/-- `for key in example: _validate_shape(value[key], example[key])`. -/
def validateFields (fields' : List (String × Json)) : List (String × Json) → Except PyExc Unit
  | [] => .ok ()
  | (k, e) :: es =>
      match (Json.obj fields').field? k with
      | none => .error (keyError k)
      | some v =>
          match validateShape v e with
          | .error exc => .error exc
          | .ok _ => validateFields fields' es

end

/-! ## The canonical document -/

/-- `[A-Za-z0-9][A-Za-z0-9…]{0,n}`, with some more characters behind the first. -/
def isLiteral (more : List Char) (n : Nat) (s : String) : Bool :=
  match s.toList with
  | [] => false
  | c :: cs =>
      c.isAlphanum && cs.all (fun c => c.isAlphanum || decide (c ∈ more)) &&
        decide (cs.length ≤ n)

def isTenantId (s : String) : Bool := isLiteral ['_', '-'] 127 s

def envelope (body : Json) : Json := .obj [("format", .str "ir-policy-v1"), ("policy", body)]

section

variable [FloatText]

def ConfidencePolicy.finite (c : ConfidencePolicy) : Bool :=
  c.blockBelow.finite && c.recommendHigh.finite

/-- Versioned lossless model JSON, not the permissive YAML parser format. -/
def canonicalPolicyJson (policy : TenantPolicy) : Except PyExc String :=
  match validateShape policy.toDict TenantPolicy.example_.toDict with
  | .error exc => .error exc
  | .ok _ =>
      if !isTenantId policy.tenantId then .error (policyError "invalid literal tenant_id")
      else if Text.isBlank policy.version then .error (policyError "policy version is required")
      else if !policy.confidence.finite then
        .error (policyError "canonical policy must contain finite numbers")
      else .ok (envelope policy.toDict).dumps

end

def readField {α : Type} (body : Json) (key : String) (f : Json → Option α) : Option α :=
  (body.field? key).bind f

def bool? : Json → Option Bool
  | .bool b => some b
  | _ => none

/-- A list of texts, as a tuple. -/
def strings? : Json → Option (List String)
  | .arr items => items.mapM Json.str?
  | _ => none

def optional? : Json → Option (Option String)
  | .null => some none
  | .str s => some (some s)
  | _ => none

section

variable [FloatText]

def confidenceOf (values : Json) : Option ConfidencePolicy := do
  let blockBelow ← readField values "block_below" Number.ofJson?
  let recommendHigh ← readField values "recommend_high" Number.ofJson?
  return { blockBelow, recommendHigh }

end

def evidenceOf (values : Json) : Option EvidencePolicy := do
  let sufficientKinds ← readField values "sufficient_kinds" strings?
  let requireDonorVisible ← readField values "require_donor_visible" bool?
  return { sufficientKinds, requireDonorVisible }

def attributionOf (values : Json) : Option AttributionPolicy := do
  let defaultMethod ← readField values "default_method" Json.str?
  let allowedMethods ← readField values "allowed_methods" strings?
  return { defaultMethod, allowedMethods }

def notificationsOf (values : Json) : Option NotificationPolicy := do
  let requireSeparateSendApproval ← readField values "require_separate_send_approval" bool?
  let defaultEmailTopics ← readField values "default_email_topics" strings?
  let fixtureConsentAllowed ← readField values "fixture_consent_allowed" bool?
  return { requireSeparateSendApproval, defaultEmailTopics, fixtureConsentAllowed }

def authorityOf (values : Json) : Option AuthorityPolicy := do
  let l3CommandTypes ← readField values "l3_command_types" strings?
  return { l3CommandTypes }

section

variable [FloatText]

/-- `TenantPolicy(**fields)` for a body of the right shape. -/
def policyOf (body : Json) : Option TenantPolicy := do
  let version ← readField body "version" Json.str?
  let tenantId ← readField body "tenant_id" Json.str?
  let displayName ← readField body "display_name" Json.str?
  let confidence ← readField body "confidence" confidenceOf
  let evidence ← readField body "evidence" evidenceOf
  let attribution ← readField body "attribution" attributionOf
  let notifications ← readField body "notifications" notificationsOf
  let authority ← readField body "authority" authorityOf
  let sourcePath ← readField body "source_path" optional?
  return { version, tenantId, displayName, confidence, evidence, attribution, notifications,
           authority, sourcePath }

/-- The policy in an envelope. -/
def policyIn (data : Json) : Option TenantPolicy :=
  match data with
  | .obj fields =>
      if !sameKeys fields [("format", .null), ("policy", .null)] then none
      else if data.field? "format" ≠ some (.str "ir-policy-v1") then none
      else
        (data.field? "policy").bind fun body =>
          match validateShape body TenantPolicy.example_.toDict with
          | .error _ => none
          | .ok _ => policyOf body
  | _ => none

/-- Decode strictly; preserve empty tuples and original source provenance.  Whatever is
raised on the way is a `ValueError`, and raised again as this one. -/
def policyFromCanonicalJson (document : String) : Except PyExc TenantPolicy :=
  match (Json.loads document).bind policyIn with
  | none => .error (policyError "invalid canonical policy document")
  | some policy =>
      match canonicalPolicyJson policy with
      | .error _ => .error (policyError "invalid canonical policy document")
      | .ok written =>
          if written ≠ document then .error (policyError "invalid canonical policy document")
          else .ok policy

end

/-! ## A body with sorted keys -/

theorem bool?_sorted (j : Json) : bool? j.sorted = bool? j := by
  cases j <;> rfl

theorem str?_sorted (j : Json) : j.sorted.str? = j.str? := by
  cases j <;> rfl

theorem optional?_sorted (j : Json) : optional? j.sorted = optional? j := by
  cases j <;> rfl

theorem strings?_sorted (j : Json) : strings? j.sorted = strings? j := by
  cases j with
  | arr items =>
      have hitems : ∀ js : List Json,
          (Json.sortedItems js).mapM Json.str? = js.mapM Json.str? := by
        intro js
        induction js with
        | nil => rfl
        | cons j js ih => simp [Json.sortedItems, List.mapM_cons, str?_sorted, ih]
      exact hitems items
  | null | bool | num | float | str | obj => rfl

theorem isStr_sorted (j : Json) : isStr j.sorted = isStr j := by
  cases j <;> rfl

theorem typeName_sorted (j : Json) : j.sorted.typeName = j.typeName := by
  cases j <;> rfl

theorem all_isStr_sorted (js : List Json) : (Json.sortedItems js).all isStr = js.all isStr := by
  induction js with
  | nil => rfl
  | cons j js ih => rw [Json.sortedItems, List.all_cons, List.all_cons, isStr_sorted, ih]

section

variable {body : Json} (h : body.Keyed)
include h

/-- A field that is read alike sorted and unsorted. -/
theorem readField_sorted {α : Type} {f : Json → Option α}
    (hf : ∀ v : Json, v.Keyed → f v.sorted = f v) (key : String) :
    readField body.sorted key f = readField body key f := by
  rw [readField, readField, h.field?_sorted]
  cases hv : body.field? key with
  | none => rfl
  | some v => exact hf v (h.field? hv)

theorem evidenceOf_sorted : evidenceOf body.sorted = evidenceOf body := by
  simp only [evidenceOf, readField_sorted h fun v _ => strings?_sorted v,
    readField_sorted h fun v _ => bool?_sorted v]

theorem attributionOf_sorted : attributionOf body.sorted = attributionOf body := by
  simp only [attributionOf, readField_sorted h fun v _ => strings?_sorted v,
    readField_sorted h fun v _ => str?_sorted v]

theorem notificationsOf_sorted : notificationsOf body.sorted = notificationsOf body := by
  simp only [notificationsOf, readField_sorted h fun v _ => strings?_sorted v,
    readField_sorted h fun v _ => bool?_sorted v]

theorem authorityOf_sorted : authorityOf body.sorted = authorityOf body := by
  simp only [authorityOf, readField_sorted h fun v _ => strings?_sorted v]

variable [FloatText]

omit h in
theorem ofJson?_sorted (j : Json) : Number.ofJson? j.sorted = Number.ofJson? j := by
  cases j <;> rfl

theorem confidenceOf_sorted : confidenceOf body.sorted = confidenceOf body := by
  simp only [confidenceOf, readField_sorted h fun v _ => ofJson?_sorted v]

theorem policyOf_sorted : policyOf body.sorted = policyOf body := by
  simp only [policyOf, readField_sorted h fun v _ => str?_sorted v,
    readField_sorted h fun v hv => confidenceOf_sorted hv,
    readField_sorted h fun v hv => evidenceOf_sorted hv,
    readField_sorted h fun v hv => attributionOf_sorted hv,
    readField_sorted h fun v hv => notificationsOf_sorted hv,
    readField_sorted h fun v hv => authorityOf_sorted hv,
    readField_sorted h fun v _ => optional?_sorted v]

end

theorem keysOf_sorted (fields : List (String × Json)) (k : String) :
    k ∈ keysOf ((Json.sortedFields fields).mergeSort Json.keyLe) ↔ k ∈ keysOf fields := by
  have hperm := ((Json.sortedFields_perm fields).map Prod.fst).mem_iff (a := k)
  rw [Json.map_fst_sorted] at hperm
  exact hperm

theorem sameKeys_sorted (fields es : List (String × Json)) :
    sameKeys ((Json.sortedFields fields).mergeSort Json.keyLe) es = sameKeys fields es := by
  rw [Bool.eq_iff_iff]
  simp only [sameKeys, Bool.and_eq_true, List.all_eq_true, decide_eq_true_eq, keysOf_sorted]

mutual

theorem validateShape_sorted : ∀ (e value : Json), value.Keyed →
    validateShape value.sorted e = validateShape value e
  | .obj es, value, h => by
      cases value with
      | obj fields =>
          have hfields := validateFields_sorted es fields h
          simp only [Json.sorted, Json.fields] at hfields
          simp only [Json.sorted, validateShape, sameKeys_sorted, hfields]
      | null | bool | num | float | str | arr => rfl
  | .arr _, value, h => by
      cases value with
      | arr items => simp only [Json.sorted, validateShape, all_isStr_sorted]
      | null | bool | num | float | str | obj => rfl
  | .null, value, h => by
      have hnull : value.sorted = .null ↔ value = .null := by
        cases value <;> simp [Json.sorted]
      simp only [validateShape, hnull, isStr_sorted]
  | .float _, value, h => by simp only [validateShape, typeName_sorted]
  | .str _, value, h => by simp only [validateShape, sameType, typeName_sorted]
  | .bool _, value, h => by simp only [validateShape, sameType, typeName_sorted]
  | .num _, value, h => by simp only [validateShape, sameType, typeName_sorted]

theorem validateFields_sorted : ∀ (es fields : List (String × Json)), (Json.obj fields).Keyed →
    validateFields (Json.obj fields).sorted.fields es = validateFields fields es
  | [], _, _ => rfl
  | (k, e) :: es, fields, h => by
      have hsorted : (Json.obj (Json.obj fields).sorted.fields) = (Json.obj fields).sorted := rfl
      rw [validateFields, validateFields, hsorted, h.field?_sorted,
        validateFields_sorted es fields h]
      cases hv : (Json.obj fields).field? k with
      | none => rfl
      | some v =>
          show (match validateShape v.sorted e with | .error exc => _ | .ok _ => _) = _
          rw [validateShape_sorted e v (h.field? hv)]

end

/-! ## The round trip -/

theorem all_isStr_map (texts : List String) : (texts.map Json.str).all isStr = true := by
  induction texts with
  | nil => rfl
  | cons t ts ih => rw [List.map_cons, List.all_cons, ih, isStr, Bool.and_self]

theorem strings?_strings (texts : List String) : strings? (strings texts) = some texts := by
  have htexts : (texts.map Json.str).mapM Json.str? = some texts := by
    induction texts with
    | nil => rfl
    | cons t ts ih => simp [List.mapM_cons, Json.str?, ih]
  exact htexts

theorem optional?_ofOption (o : Option String) : optional? (.ofOption o) = some o := by
  cases o <;> rfl

theorem validateShape_strings (texts es : List String) :
    validateShape (strings texts) (strings es) = .ok () := by
  rw [strings, strings, validateShape, all_isStr_map]
  rfl

theorem keyed_strings (texts : List String) : (strings texts).Keyed := by
  have htexts : Json.KeyedItems (texts.map Json.str) := by
    induction texts with
    | nil => trivial
    | cons t ts ih => exact ⟨trivial, ih⟩
  exact htexts

theorem keyed_ofOption (o : Option String) : (Json.ofOption o).Keyed := by
  cases o <;> trivial

section

variable [FloatText]

theorem policyOf_toDict (p : TenantPolicy) : policyOf p.toDict = some p := by
  simp [policyOf, readField, confidenceOf, evidenceOf, attributionOf, notificationsOf, authorityOf,
    TenantPolicy.toDict, Json.field?, Json.str?, bool?, strings?_strings, optional?_ofOption]

theorem validateShape_number (n m : Number) (h : ∃ text, m.toJson = .float text) :
    validateShape n.toJson m.toJson = .ok () := by
  obtain ⟨text, hm⟩ := h
  rw [hm]
  cases n <;> rfl

theorem validateShape_toDict (p : TenantPolicy) :
    validateShape p.toDict TenantPolicy.example_.toDict = .ok () := by
  have hnumber (n : Number) (text : String) (h : Json.IsFloat text) :
      validateShape n.toJson (Number.ofText text h).toJson = .ok () :=
    validateShape_number n _ ⟨_, rfl⟩
  have hsource : validateShape (.ofOption p.sourcePath) (.ofOption none) = .ok () := by
    cases p.sourcePath <;> rfl
  simp [TenantPolicy.toDict, TenantPolicy.example_, validateShape, validateFields, sameKeys,
    keysOf, Json.field?, sameType, Json.typeName, validateShape_strings, hnumber, hsource]

theorem keyed_number (n : Number) : n.toJson.Keyed := by
  cases n <;> trivial

theorem keyed_toDict (p : TenantPolicy) : p.toDict.Keyed := by
  simp [TenantPolicy.toDict, Json.Keyed, Json.KeyedFields, keyed_strings, keyed_number,
    keyed_ofOption]

theorem keyed_envelope (p : TenantPolicy) : (envelope p.toDict).Keyed := by
  simp [envelope, Json.Keyed, Json.KeyedFields, keyed_toDict]

theorem readable_strings (texts : List String) : (strings texts).Readable := by
  have htexts : Json.ReadableItems (texts.map Json.str) := by
    induction texts with
    | nil => trivial
    | cons t ts ih => exact ⟨trivial, ih⟩
  exact htexts

theorem readable_ofOption (o : Option String) : (Json.ofOption o).Readable := by
  cases o <;> trivial

theorem readable_envelope {p : TenantPolicy} (h : p.confidence.finite = true) :
    (envelope p.toDict).Readable := by
  obtain ⟨hblock, hhigh⟩ := (Bool.and_eq_true _ _).mp h
  simp [envelope, TenantPolicy.toDict, Json.Readable, Json.ReadableFields, readable_strings,
    readable_ofOption, Number.readable_of_finite hblock, Number.readable_of_finite hhigh]

/-- Which policies are written. -/
theorem canonicalPolicyJson_ok_iff {p : TenantPolicy} {document : String} :
    canonicalPolicyJson p = .ok document ↔
      (isTenantId p.tenantId = true ∧ Text.isBlank p.version = false ∧
        p.confidence.finite = true) ∧ (envelope p.toDict).dumps = document := by
  rw [canonicalPolicyJson, validateShape_toDict]
  cases hid : isTenantId p.tenantId <;> cases hversion : Text.isBlank p.version <;>
    cases hfinite : p.confidence.finite <;> simp

theorem policyIn_envelope (p : TenantPolicy) : policyIn (envelope p.toDict).sorted = some p := by
  have hkeyed := keyed_envelope p
  have hformat : (envelope p.toDict).sorted.field? "format" = some (.str "ir-policy-v1") := by
    rw [hkeyed.field?_sorted]
    rfl
  have hpolicy : (envelope p.toDict).sorted.field? "policy" = some p.toDict.sorted := by
    rw [hkeyed.field?_sorted]
    rfl
  have hkeys : sameKeys (envelope p.toDict).sorted.fields
      [("format", .null), ("policy", .null)] = true := by
    refine (sameKeys_sorted _ _).trans ?_
    rfl
  have hshape : validateShape p.toDict.sorted TenantPolicy.example_.toDict = .ok () :=
    (validateShape_sorted _ _ (keyed_toDict p)).trans (validateShape_toDict p)
  show (if !sameKeys (envelope p.toDict).sorted.fields _ then none
    else if (envelope p.toDict).sorted.field? "format" ≠ _ then none
    else ((envelope p.toDict).sorted.field? "policy").bind _) = _
  rw [hkeys, hformat, hpolicy]
  simp [hshape, policyOf_sorted (keyed_toDict p), policyOf_toDict]

/-- A policy is read from exactly the document that is written for it. -/
theorem policyFromCanonicalJson_ok_iff {document : String} {p : TenantPolicy} :
    policyFromCanonicalJson document = .ok p ↔ canonicalPolicyJson p = .ok document := by
  constructor
  · intro h
    unfold policyFromCanonicalJson at h
    split at h
    · cases h
    · split at h
      · cases h
      · rename_i policy _ written hwritten
        split at h
        · cases h
        · rename_i hsame
          obtain rfl := Except.ok.inj h
          rw [hwritten, Decidable.not_not.mp hsame]
  · intro h
    obtain ⟨⟨hid, hversion, hfinite⟩, rfl⟩ := canonicalPolicyJson_ok_iff.mp h
    have hloads := Json.loads_dumps (keyed_envelope p) (readable_envelope hfinite)
    simp only [policyFromCanonicalJson, hloads, Option.bind_some, policyIn_envelope, h, ne_eq,
      not_true_eq_false, if_false]

/-- Which documents a policy is read from: the policy is one that may be stored, and the
document is its text, to the character. -/
theorem canonical_policy_round_trip (document : String) (p : TenantPolicy) :
    policyFromCanonicalJson document = .ok p ↔
      (isTenantId p.tenantId = true ∧ Text.isBlank p.version = false ∧
        p.confidence.finite = true) ∧ (envelope p.toDict).dumps = document := by
  rw [policyFromCanonicalJson_ok_iff, canonicalPolicyJson_ok_iff]

end

end Policy

end ImpactRelay
