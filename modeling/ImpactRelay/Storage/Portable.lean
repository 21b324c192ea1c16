/-
# `Storage.Portable` — scaffolds for other programs to read

`storage/portable.py`: a tenant's empty scaffold as one JSON document without numbers, its
confidences as decimal texts.

    what is built, and from which policies and keys     (`buildScaffold_ok_iff`)

Texts have no lone surrogates.
-/
import ImpactRelay.Lib.Raise
import ImpactRelay.Storage.Policy
import ImpactRelay.Domain.LedgerLog

namespace ImpactRelay

namespace Portable

open Raise Policy

/-! ## Canonical JSON -/

mutual

/-- No numbers, and every key in ASCII. -/
def isPortable : Json → Bool
  | .null | .bool _ | .str _ => true
  | .num _ | .float _ => false
  | .arr items => arePortable items
  | .obj fields => fieldsPortable fields

def arePortable : List Json → Bool
  | [] => true
  | j :: js => isPortable j && arePortable js

def fieldsPortable : List (String × Json) → Bool
  | [] => true
  | (k, j) :: es =>
      k.toList.all (fun c => decide (c.toNat < 128)) && isPortable j && fieldsPortable es

end

/-- The compact text with sorted keys. -/
def textOf (value : Json) : String := String.ofList (Json.write Json.escapeRaw value.sorted)

/-- Sorted ASCII keys, scalar Unicode UTF-8, compact JSON; numbers forbidden. -/
def canonicalJson (value : Json) : Except PyExc String :=
  if isPortable value then .ok (textOf value) else .error (policyError "invalid portable JSON")

def policyHash [Digest] (policyDocument : Json) : Except PyExc String :=
  (canonicalJson policyDocument).map Digest.sha256

/-! ## Decimal texts -/

/-- `DECIMAL`: 0, 1, or a fraction of at most six places, the last of them not 0. -/
def isDecimal (text : String) : Bool :=
  match text.toList with
  | ['0'] => true
  | ['1'] => true
  | '0' :: '.' :: places =>
      places.all Char.isDigit && decide (places.length ≤ 6) &&
        decide (places ≠ [] ∧ places.getLast? ≠ some '0')
  | _ => false

def rstrip (c : Char) (cs : List Char) : List Char := (cs.reverse.dropWhile (· = c)).reverse

/-- The exponent of a number. -/
def exponentOf : List Char → Int
  | [] => 0
  | _ :: cs =>
      let n : Int := Nat.ofDigitChars 10 (cs.drop (Json.exponentSign cs).length) 0
      if Json.exponentSign cs = ['-'] then -n else n

/-- `text` for `number = Decimal(text)`: `format(number, "f")` without the zeros and the point
at its end, or `str(number)` where there is no point in it. -/
def plainText (text : String) : String :=
  let t := Json.scanNumber text.toList
  let coefficient := Nat.toDigits 10 (Nat.ofDigitChars 10 (t.whole ++ t.fraction.tail) 0)
  let exponent := exponentOf t.exponent - t.fraction.tail.length
  if exponent < 0 then
    let places := (-exponent).toNat
    let padded := List.replicate (places + 1 - coefficient.length) '0' ++ coefficient
    let (whole, fraction) := padded.splitAt (padded.length - places)
    String.ofList (t.sign ++ rstrip '.' (rstrip '0' (whole ++ '.' :: fraction)))
  else if exponent = 0 then String.ofList (t.sign ++ coefficient)
  else
    let more := if coefficient.tail = [] then [] else '.' :: coefficient.tail
    let adjusted := exponent + coefficient.tail.length
    String.ofList
      (t.sign ++ (coefficient.take 1 ++ more ++ 'E' :: '+' :: (toString adjusted).toList))

/-- `DECIMAL` must match the text of `Decimal(str(value))`. -/
def confidenceText : Json → Except PyExc String
  | .num n => exactText (plainText (toString n))
  | .float text => exactText (plainText text)
  | _ => exactText ""
where
  exactText (text : String) : Except PyExc String :=
    if isDecimal text then .ok text
    else .error (policyError "confidence must be exact decimal in [0,1], at most six places")

/-- `Decimal(text)` of such a text, in millionths. -/
def millionths (text : String) : Nat :=
  match text.toList with
  | '0' :: '.' :: places =>
      Nat.ofDigitChars 10 (places ++ List.replicate (6 - places.length) '0') 0
  | whole => Nat.ofDigitChars 10 whole 0 * 1000000

/-- The text as that of a float. -/
def pointed (text : String) : String := if '.' ∈ text.toList then text else text ++ ".0"

/-! ## The scaffold -/

/-- `body[key] = value` where the key is there. -/
def replaced (key : String) (value : Json) : Json → Json
  | .obj fields => .obj (fields.map fun e => if e.1 = key then (e.1, value) else e)
  | j => j

def isIdempotencyKey (s : String) : Bool := isLiteral ['.', '_', ':', '-'] 255 s

def isPortableVersion (s : String) : Bool := isLiteral ['.', '_', '-'] 63 s

def require (condition : Bool) (msg : String) : Except PyExc Unit :=
  if condition then .ok () else .error (policyError msg)

/-- `body[key]`, read as what it holds. -/
def part {α : Type} (body : Json) (key : String) (f : Json → Option α) : Except PyExc α :=
  match readField body key f with
  | some a => .ok a
  | none => .error (keyError key)

/-- `for key, value in body["confidence"].items(): …`. -/
def confidenceTexts : List (String × Json) → Except PyExc (List (String × Json))
  | [] => .ok []
  | (k, v) :: es => do
      let text ← confidenceText v
      let texts ← confidenceTexts es
      return (k, .str text) :: texts

def policyDocument (body : Json) : Json :=
  .obj [("format", .str "ir-portable-policy-v1"), ("policy", body)]

/-- An empty scaffold with a policy. -/
def scaffold (tenantId idempotencyKey : String) (document : Json) (sha256 : String) : Json :=
  .obj [
    ("format", .str "ir-empty-scaffold-v1"),
    ("tenant_id", .str tenantId),
    ("idempotency_key", .str idempotencyKey),
    ("policy", document),
    ("policy_sha256", .str sha256),
    ("empty_state", .obj [
      ("ledger_commands", .arr []), ("entities", .arr []), ("outbox_events", .arr [])]),
    ("readiness", .obj [("scaffold_verified", .bool false), ("operational", .bool false)])]

section

variable [FloatText] [Digest]

/-- Build an inert empty scaffold, preserving policy provenance as data only. -/
def buildScaffold (policy : TenantPolicy) (idempotencyKey : String) : Except PyExc Json := do
  let canonical ← canonicalPolicyJson policy
  let data := (Json.loads canonical).getD .null
  let body ← part data "policy" some
  require (isIdempotencyKey idempotencyKey) "invalid literal idempotency_key"
  require (isPortableVersion policy.version) "invalid literal portable policy version"
  let confidence ← part body "confidence" some
  let texts ← confidenceTexts confidence.fields
  let body := replaced "confidence" (.obj texts) body
  let blockBelow ← part (.obj texts) "block_below" Json.str?
  let recommendHigh ← part (.obj texts) "recommend_high" Json.str?
  require (millionths blockBelow ≤ millionths recommendHigh) "confidence thresholds are inverted"
  let authority ← part body "authority" authorityOf
  require
    (({} : AuthorityPolicy).l3CommandTypes.all fun t => decide (t ∈ authority.l3CommandTypes))
    "portable scaffold must retain all L3 gates"
  let evidence ← part body "evidence" evidenceOf
  let notifications ← part body "notifications" notificationsOf
  require (evidence.requireDonorVisible && notifications.requireSeparateSendApproval)
    "portable scaffold must retain evidence and send approval gates"
  let document := policyDocument body
  let sha256 ← policyHash document
  let artifact := scaffold policy.tenantId idempotencyKey document sha256
  let _ ← canonicalJson artifact
  return artifact

/-- `float(value)` for a decimal text. -/
def asFloat (text : String) : String := FloatText.written (pointed text)

/-- A confidence of a portable policy as a float. -/
def floatField (e : String × Json) : Option (String × Json) :=
  match e.2 with
  | .str text => if isDecimal text then some (e.1, .float (asFloat text)) else none
  | _ => none

/-- The policy of a scaffold, with its confidences as floats. -/
def legacyBody (artifact : Json) : Option Json := do
  let document ← artifact.field? "policy"
  let body ← document.field? "policy"
  let confidence ← body.field? "confidence"
  if sameKeys confidence.fields [("block_below", .null), ("recommend_high", .null)] then
    let floats ← confidence.fields.mapM floatField
    return replaced "confidence" (.obj floats) body
  else none

def decoded (document : String) : Option TenantPolicy := do
  let artifact ← Json.loads document
  if (canonicalJson artifact).toOption = some document then
    let body ← legacyBody artifact
    let policy ← (policyFromCanonicalJson (envelope body).dumps).toOption
    let idempotencyKey ← readField artifact "idempotency_key" Json.str?
    let expected ← (buildScaffold policy idempotencyKey).toOption
    if (canonicalJson expected).toOption = some document then return policy else none
  else none

/-- Reject unknown fields, duplicate keys, noncanonical bytes and hash drift. -/
def decodeScaffold (document : String) : Except PyExc TenantPolicy :=
  match decoded document with
  | some policy => .ok policy
  | none => .error (policyError "invalid portable scaffold")

/-- Compare caller-supplied readback. -/
def verifyReadback (expectedDocument persistedDocument : String) : Except PyExc Json := do
  let _ ← decodeScaffold expectedDocument
  let _ ← decodeScaffold persistedDocument
  require (expectedDocument = persistedDocument) "persisted scaffold differs from immutable request"
  let artifact := (Json.loads persistedDocument).getD .null
  let tenantId ← part artifact "tenant_id" some
  let idempotencyKey ← part artifact "idempotency_key" some
  let policySha256 ← part artifact "policy_sha256" some
  return .obj [
    ("format", .str "ir-scaffold-verification-v1"),
    ("tenant_id", tenantId),
    ("idempotency_key", idempotencyKey),
    ("policy_sha256", policySha256),
    ("scaffold_sha256", .str (Digest.sha256 persistedDocument)),
    ("readiness", .obj [("scaffold_verified", .bool true), ("operational", .bool false)])]

end

/-! ## Canonical texts -/

theorem arePortable_eq_all (items : List Json) : arePortable items = items.all isPortable := by
  induction items with
  | nil => rfl
  | cons j js ih => rw [arePortable, ih, List.all_cons]

theorem fieldsPortable_eq_all (fields : List (String × Json)) : fieldsPortable fields =
    fields.all fun e => e.1.toList.all (fun c => decide (c.toNat < 128)) && isPortable e.2 := by
  induction fields with
  | nil => rfl
  | cons e es ih => rw [fieldsPortable, ih, List.all_cons]

theorem isPortable_field? {j v : Json} {k : String} (hj : isPortable j = true)
    (h : j.field? k = some v) : isPortable v = true := by
  cases j with
  | obj fields =>
      obtain ⟨e, he, rfl⟩ := Option.map_eq_some_iff.mp h
      rw [isPortable, fieldsPortable_eq_all, List.all_eq_true] at hj
      exact ((Bool.and_eq_true _ _).mp (hj e (List.mem_of_find?_eq_some he))).2
  | null | bool | num | float | str | arr => cases h

theorem canonicalJson_ok_iff {value : Json} {document : String} :
    canonicalJson value = .ok document ↔ isPortable value = true ∧ textOf value = document := by
  unfold canonicalJson
  cases isPortable value <;> simp

theorem textOf_sorted (j : Json) : textOf j.sorted = textOf j := by
  rw [textOf, textOf, Json.sorted_sorted]

mutual

theorem isPortable_sorted : ∀ j : Json, isPortable j.sorted = isPortable j
  | .null | .bool _ | .num _ | .float _ | .str _ => rfl
  | .arr items => arePortable_sorted items
  | .obj fields => by
      have hfields := fieldsPortable_sorted fields
      rw [fieldsPortable_eq_all] at hfields
      rw [Json.sorted, isPortable, isPortable, fieldsPortable_eq_all, ← hfields]
      exact (List.mergeSort_perm _ _).all_eq

theorem arePortable_sorted : ∀ items : List Json,
    arePortable (Json.sortedItems items) = arePortable items
  | [] => rfl
  | j :: js => by
      rw [Json.sortedItems, arePortable, arePortable, isPortable_sorted j, arePortable_sorted js]

theorem fieldsPortable_sorted : ∀ fields : List (String × Json),
    fieldsPortable (Json.sortedFields fields) = fieldsPortable fields
  | [] => rfl
  | (k, j) :: es => by
      rw [Json.sortedFields, fieldsPortable, fieldsPortable, isPortable_sorted j,
        fieldsPortable_sorted es]

end

section

variable [FloatText]

mutual

/-- Without numbers, there is nothing that might be read otherwise. -/
theorem readable_of_portable : ∀ {j : Json}, isPortable j = true → j.Readable
  | .null, _ | .bool _, _ | .str _, _ => trivial
  | .num _, h => by cases h
  | .float _, h => by cases h
  | .arr items, h => readableItems_of_portable items h
  | .obj fields, h => readableFields_of_portable fields h

theorem readableItems_of_portable : ∀ items : List Json, arePortable items = true →
    Json.ReadableItems items
  | [], _ => trivial
  | j :: js, h => by
      obtain ⟨hj, hjs⟩ := (Bool.and_eq_true _ _).mp h
      exact ⟨readable_of_portable hj, readableItems_of_portable js hjs⟩

theorem readableFields_of_portable : ∀ fields : List (String × Json),
    fieldsPortable fields = true → Json.ReadableFields fields
  | [], _ => trivial
  | (k, j) :: es, h => by
      obtain ⟨hj, hes⟩ := (Bool.and_eq_true _ _).mp h
      exact ⟨readable_of_portable (Bool.and_eq_true_iff.mp hj).2,
        readableFields_of_portable es hes⟩

end

theorem loads_textOf {j : Json} (hkeyed : j.Keyed) (hportable : isPortable j = true) :
    Json.loads (textOf j) = some j.sorted :=
  Json.loads_write Json.escapes_escapeRaw hkeyed.sorted (readable_of_portable hportable).sorted

/-- Values with one canonical text are the same up to the order of their keys. -/
theorem sorted_eq_of_canonicalJson {j j' : Json} {document : String} (hkeyed : j.Keyed)
    (hkeyed' : j'.Keyed) (h : canonicalJson j = .ok document)
    (h' : canonicalJson j' = .ok document) : j.sorted = j'.sorted := by
  obtain ⟨hportable, rfl⟩ := canonicalJson_ok_iff.mp h
  obtain ⟨hportable', htext⟩ := canonicalJson_ok_iff.mp h'
  have hloads := loads_textOf hkeyed' hportable'
  rw [htext, loads_textOf hkeyed hportable] at hloads
  exact Option.some.inj hloads

end

/-! ## Replacing a field -/

section

variable {key : String} {value : Json}

theorem map_fst_replaced (fields : List (String × Json)) :
    (fields.map fun e => if e.1 = key then (e.1, value) else e).map Prod.fst =
      fields.map Prod.fst := by
  rw [List.map_map]
  refine List.map_congr_left fun e _ => ?_
  by_cases h : e.1 = key <;> simp [h]

variable (key) in
theorem replaced_sorted (hvalue : value.sorted = value) (j : Json) :
    replaced key value j.sorted = (replaced key value j).sorted := by
  cases j with
  | obj fields =>
      let f : String × Json → String × Json := fun e => if e.1 = key then (e.1, value) else e
      have hfst : ∀ e, (f e).1 = e.1 := by
        intro e
        by_cases h : e.1 = key <;> simp [f, h]
      have hmap : Json.sortedFields (fields.map f) = (Json.sortedFields fields).map f := by
        rw [Json.sortedFields_eq_map, Json.sortedFields_eq_map, List.map_map, List.map_map]
        refine List.map_congr_left fun e _ => ?_
        by_cases h : e.1 = key <;> simp [f, h, hvalue]
      have hsort := List.map_mergeSort (r := Json.keyLe) (s := Json.keyLe) (f := f)
        (l := Json.sortedFields fields) fun a _ b _ => by simp only [Json.keyLe, hfst]
      show Json.obj _ = Json.obj ((Json.sortedFields (fields.map f)).mergeSort Json.keyLe)
      rw [hmap, ← hsort]
  | null | bool | num | float | str | arr => rfl

theorem keyed_replaced {j : Json} (hj : j.Keyed) (hvalue : value.Keyed) :
    (replaced key value j).Keyed := by
  cases j with
  | obj fields =>
      refine ⟨?_, Json.keyedFields_iff.mpr fun e he => ?_⟩
      · rw [map_fst_replaced]
        exact hj.1
      · obtain ⟨e', he', rfl⟩ := List.mem_map.mp he
        have hmem := Json.keyedFields_iff.mp hj.2 e' he'
        by_cases h : e'.1 = key <;> simpa [h] using ‹_›
  | null | bool | num | float | str | arr => exact hj

theorem field?_replaced_self {j v : Json} (h : j.field? key = some v) :
    (replaced key value j).field? key = some value := by
  cases j with
  | obj fields =>
      obtain ⟨e, he, -⟩ := Option.map_eq_some_iff.mp h
      have hfst : (fun e : String × Json => decide (e.1 = key)) ∘
          (fun e => if e.1 = key then (e.1, value) else e) = fun e => decide (e.1 = key) := by
        funext e
        by_cases h : e.1 = key <;> simp [h]
      have hkey : e.1 = key := by simpa using List.find?_some he
      rw [replaced, Json.field?, List.find?_map, hfst, he]
      simp [hkey]
  | null | bool | num | float | str | arr => cases h

theorem readable_replaced [FloatText] {j : Json} (hj : j.Readable) (hvalue : value.Readable) :
    (replaced key value j).Readable := by
  cases j with
  | obj fields =>
      refine Json.readableFields_iff.mpr fun e he => ?_
      obtain ⟨e', he', rfl⟩ := List.mem_map.mp he
      have hmem := Json.readableFields_iff.mp hj e' he'
      by_cases h : e'.1 = key <;> simpa [h] using ‹_›
  | null | bool | num | float | str | arr => exact hj

end

/-! ## What is built -/

section

variable [FloatText]

/-- The confidences of a body. -/
def confidences (blockBelow recommendHigh : Json) : Json :=
  .obj [("block_below", blockBelow), ("recommend_high", recommendHigh)]

/-- The body of a policy with other confidences. -/
def bodyWith (p : TenantPolicy) (blockBelow recommendHigh : Json) : Json :=
  replaced "confidence" (confidences blockBelow recommendHigh) p.toDict

omit [FloatText] in
theorem confidences_sorted {a b : Json} (ha : a.sorted = a) (hb : b.sorted = b) :
    (confidences a b).sorted = confidences a b := by
  refine Json.sorted_obj_eq_self_iff.mpr ⟨?_, ?_⟩
  · simp [Json.keyLe]
  · simp [ha, hb]

theorem keyed_bodyWith {p : TenantPolicy} {a b : Json} (ha : a.Keyed) (hb : b.Keyed) :
    (bodyWith p a b).Keyed := by
  refine keyed_replaced (keyed_toDict p) ⟨?_, ha, hb, trivial⟩
  simp

theorem bodyWith_confidence (p : TenantPolicy) (a b : Json) :
    (bodyWith p a b).field? "confidence" = some (confidences a b) := by
  simp [bodyWith, replaced, TenantPolicy.toDict, Json.field?]

theorem toDict_confidence (p : TenantPolicy) : p.toDict.field? "confidence" =
    some (confidences p.confidence.blockBelow.toJson p.confidence.recommendHigh.toJson) := by
  simp [TenantPolicy.toDict, Json.field?, confidences]

/-- The other parts of a policy are in the body as before. -/
theorem bodyWith_parts (p : TenantPolicy) (a b : Json) :
    readField (bodyWith p a b) "authority" authorityOf = some p.authority ∧
    readField (bodyWith p a b) "evidence" evidenceOf = some p.evidence ∧
    readField (bodyWith p a b) "notifications" notificationsOf = some p.notifications := by
  refine ⟨?_, ?_, ?_⟩
  · simp [bodyWith, replaced, TenantPolicy.toDict, readField, authorityOf, Json.field?,
      strings?_strings]
  · simp [bodyWith, replaced, TenantPolicy.toDict, readField, evidenceOf, Json.field?,
      strings?_strings, bool?]
  · simp [bodyWith, replaced, TenantPolicy.toDict, readField, notificationsOf, Json.field?,
      strings?_strings, bool?]

variable [Digest]

/-- The scaffold of a policy with these texts as its confidences. -/
def scaffoldOf (p : TenantPolicy) (idempotencyKey blockBelow recommendHigh : String) : Json :=
  let document := policyDocument (bodyWith p (.str blockBelow) (.str recommendHigh)).sorted
  scaffold p.tenantId idempotencyKey document (Digest.sha256 (textOf document))

/-- What a policy and a key must be to be built into a scaffold with these confidences. -/
structure Builds (p : TenantPolicy) (idempotencyKey blockBelow recommendHigh : String) : Prop where
  canonical : ∃ document, canonicalPolicyJson p = .ok document
  key : isIdempotencyKey idempotencyKey = true
  version : isPortableVersion p.version = true
  block : confidenceText p.confidence.blockBelow.toJson = .ok blockBelow
  high : confidenceText p.confidence.recommendHigh.toJson = .ok recommendHigh
  ordered : millionths blockBelow ≤ millionths recommendHigh
  gates : ∀ t ∈ ({} : AuthorityPolicy).l3CommandTypes, t ∈ p.authority.l3CommandTypes
  visible : p.evidence.requireDonorVisible = true
  separate : p.notifications.requireSeparateSendApproval = true

omit [FloatText] [Digest] in
theorem require_ok_iff {condition : Bool} {msg : String} {u : Unit} :
    require condition msg = .ok u ↔ condition = true := by
  cases condition <;> simp [require]

omit [Digest] in
theorem part_of_canonical {p : TenantPolicy} {document : String}
    (h : canonicalPolicyJson p = .ok document) :
    part ((Json.loads document).getD .null) "policy" some = .ok p.toDict.sorted := by
  obtain ⟨⟨-, -, hfinite⟩, rfl⟩ := canonicalPolicyJson_ok_iff.mp h
  have hkeyed := keyed_envelope p
  have hfield : (envelope p.toDict).sorted.field? "policy" = some p.toDict.sorted := by
    rw [hkeyed.field?_sorted]
    rfl
  rw [Json.loads_dumps hkeyed (readable_envelope hfinite), Option.getD_some, part, readField,
    hfield]
  rfl

omit [FloatText] [Digest] in
theorem confidenceTexts_ok_iff {a b : Json} {texts : List (String × Json)} :
    confidenceTexts (confidences a b).fields = .ok texts ↔
      ∃ s t, confidenceText a = .ok s ∧ confidenceText b = .ok t ∧
        [("block_below", Json.str s), ("recommend_high", Json.str t)] = texts := by
  simp only [confidences, Json.fields, confidenceTexts]
  cases confidenceText a with
  | error exc => simp [bind, Except.bind]
  | ok s =>
      cases confidenceText b with
      | error exc => simp [bind, Except.bind]
      | ok t => simp [bind, Except.bind, pure, Except.pure]

omit [Digest] in
theorem part_confidence (p : TenantPolicy) : part p.toDict.sorted "confidence" some =
    .ok (confidences p.confidence.blockBelow.toJson p.confidence.recommendHigh.toJson) := by
  have hsorted := confidences_sorted p.confidence.blockBelow.toJson_sorted
    p.confidence.recommendHigh.toJson_sorted
  rw [part, readField, (keyed_toDict p).field?_sorted, toDict_confidence, Option.map_some, hsorted]
  rfl

omit [Digest] in
/-- The body of a scaffold, with its confidences replaced. -/
theorem replaced_toDict (p : TenantPolicy) {a b : Json} (ha : a.sorted = a) (hb : b.sorted = b) :
    replaced "confidence" (confidences a b) p.toDict.sorted = (bodyWith p a b).sorted :=
  replaced_sorted "confidence" (confidences_sorted ha hb) _

omit [Digest] in
theorem parts_bodyWith (p : TenantPolicy) {a b : Json} (ha : a.Keyed) (hb : b.Keyed) :
    part (bodyWith p a b).sorted "authority" authorityOf = .ok p.authority ∧
    part (bodyWith p a b).sorted "evidence" evidenceOf = .ok p.evidence ∧
    part (bodyWith p a b).sorted "notifications" notificationsOf = .ok p.notifications := by
  have hkeyed := keyed_bodyWith (p := p) ha hb
  obtain ⟨hauthority, hevidence, hnotifications⟩ := bodyWith_parts p a b
  refine ⟨?_, ?_, ?_⟩
  · rw [part, readField_sorted hkeyed fun v hv => authorityOf_sorted hv, hauthority]
  · rw [part, readField_sorted hkeyed fun v hv => evidenceOf_sorted hv, hevidence]
  · rw [part, readField_sorted hkeyed fun v hv => notificationsOf_sorted hv, hnotifications]

omit [FloatText] [Digest] in
theorem isPortable_strings (texts : List String) : isPortable (strings texts) = true := by
  rw [strings, isPortable, arePortable_eq_all, List.all_map]
  exact List.all_eq_true.mpr fun _ _ => rfl

omit [FloatText] [Digest] in
theorem isPortable_ofOption (o : Option String) : isPortable (.ofOption o) = true := by
  cases o <;> rfl

omit [Digest] in
theorem isPortable_bodyWith (p : TenantPolicy) (s t : String) :
    isPortable (bodyWith p (.str s) (.str t)) = true := by
  simp [bodyWith, replaced, confidences, TenantPolicy.toDict, isPortable, fieldsPortable,
    isPortable_strings, isPortable_ofOption]

omit [Digest] in
theorem isPortable_document (p : TenantPolicy) (s t : String) :
    isPortable (policyDocument (bodyWith p (.str s) (.str t)).sorted) = true := by
  simp [policyDocument, isPortable, fieldsPortable, isPortable_sorted, isPortable_bodyWith]

variable {p : TenantPolicy} in
theorem policyHash_document (s t : String) :
    policyHash (policyDocument (bodyWith p (.str s) (.str t)).sorted) =
      .ok (Digest.sha256 (textOf (policyDocument (bodyWith p (.str s) (.str t)).sorted))) := by
  rw [policyHash, canonicalJson, isPortable_document]
  rfl

theorem isPortable_scaffoldOf (p : TenantPolicy) (key s t : String) :
    isPortable (scaffoldOf p key s t) = true := by
  simp [scaffoldOf, scaffold, isPortable, fieldsPortable, arePortable, isPortable_document]

theorem canonicalJson_scaffoldOf (p : TenantPolicy) (key s t : String) :
    canonicalJson (scaffoldOf p key s t) = .ok (textOf (scaffoldOf p key s t)) :=
  canonicalJson_ok_iff.mpr ⟨isPortable_scaffoldOf p key s t, rfl⟩

theorem buildScaffold_ok_iff {p : TenantPolicy} {key : String} {artifact : Json} :
    buildScaffold p key = .ok artifact ↔
      ∃ blockBelow recommendHigh, Builds p key blockBelow recommendHigh ∧
        scaffoldOf p key blockBelow recommendHigh = artifact := by
  constructor
  · intro h
    simp only [buildScaffold, except_bind_eq_ok, require_ok_iff] at h
    obtain ⟨document, hdocument, body, hbody, -, hkey, -, hversion, values, hvalues, texts,
      htexts, blockBelow, hblock, recommendHigh, hhigh, -, hordered, authority, hauthority, -,
      hgates, evidence, hevidence, notifications, hnotifications, -, hretained, sha256, hsha, -,
      -, heq⟩ := h
    rw [part_of_canonical hdocument] at hbody
    cases hbody
    rw [part_confidence] at hvalues
    cases hvalues
    obtain ⟨s, t, hs, ht, rfl⟩ := confidenceTexts_ok_iff.mp htexts
    have hs' : s = blockBelow := Except.ok.inj hblock
    have ht' : t = recommendHigh := Except.ok.inj hhigh
    subst hs' ht'
    have hbody := replaced_toDict p (a := .str s) (b := .str t) rfl rfl
    obtain ⟨hparts₁, hparts₂, hparts₃⟩ :=
      parts_bodyWith p (a := .str s) (b := .str t) trivial trivial
    rw [confidences] at hbody
    rw [hbody] at hauthority hevidence hnotifications hsha heq
    cases hparts₁.symm.trans hauthority
    cases hparts₂.symm.trans hevidence
    cases hparts₃.symm.trans hnotifications
    obtain ⟨hvisible, hseparate⟩ := (Bool.and_eq_true _ _).mp hretained
    refine ⟨s, t, ⟨⟨document, hdocument⟩, hkey, hversion, hs, ht, of_decide_eq_true hordered,
      ?_, hvisible, hseparate⟩, ?_⟩
    · intro gate hgate
      exact of_decide_eq_true (List.all_eq_true.mp hgates gate hgate)
    · rw [policyHash_document s t] at hsha
      cases hsha
      exact Except.ok.inj heq
  · rintro ⟨s, t, hb, rfl⟩
    obtain ⟨document, hdocument⟩ := hb.canonical
    have hbody := replaced_toDict p (a := .str s) (b := .str t) rfl rfl
    obtain ⟨hparts₁, hparts₂, hparts₃⟩ :=
      parts_bodyWith p (a := .str s) (b := .str t) trivial trivial
    have hgates : (({} : AuthorityPolicy).l3CommandTypes.all fun gate =>
        decide (gate ∈ p.authority.l3CommandTypes)) = true :=
      List.all_eq_true.mpr fun gate hgate => decide_eq_true (hb.gates gate hgate)
    simp only [buildScaffold, except_bind_eq_ok, require_ok_iff]
    rw [confidences] at hbody
    refine ⟨document, hdocument, _, part_of_canonical hdocument, (), hb.key, (), hb.version, _,
      part_confidence p, _, confidenceTexts_ok_iff.mpr ⟨s, t, hb.block, hb.high, rfl⟩, s, rfl,
      t, rfl, (), decide_eq_true hb.ordered, ?_⟩
    rw [hbody]
    exact ⟨_, hparts₁, (), hgates, _, hparts₂, _, hparts₃, (),
      (Bool.and_eq_true _ _).mpr ⟨hb.visible, hb.separate⟩, _, policyHash_document s t, _,
      canonicalJson_scaffoldOf p key s t, rfl⟩

end

end Portable

end ImpactRelay
