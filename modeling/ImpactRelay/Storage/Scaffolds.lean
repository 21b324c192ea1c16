/-
# `Storage.Scaffolds` — a scaffold read back, and the workspace it initializes

The decoder of `storage/portable.py`, and the documents of an initialized workspace: its state,
which is a scaffold with the tenant's empty ledger, and the receipt of its verification.

    the decoder reads exactly what the builder writes      (`scaffold_round_trip`)
    a workspace is initialized from a built scaffold       (`initialized_workspace_iff`)

A float is converted by `FloatText`.  Of it is assumed that a decimal of at most six places
is written as that number again, and that texts of one number are read as one float
(`DecimalFloats`).
-/
import ImpactRelay.Storage.Portable

namespace ImpactRelay

namespace Portable

open Raise Policy

/-! ## Decimal texts as floats -/

theorem plainText_toString (n : Int) : plainText (toString n) = toString n := by
  have hsign : (if n < 0 then ['-'] else []) = [] ∨ (if n < 0 then ['-'] else []) = ['-'] := by
    by_cases h : n < 0 <;> simp [h]
  rw [← String.toList_inj, Json.toList_toString]
  simp only [plainText, Json.toList_toString, Json.scanNumber_digits _ hsign]
  simp [exponentOf]

theorem pointed_toString (n : Int) : pointed (toString n) = toString n ++ ".0" := by
  have hpoint : '.' ∉ (toString n).toList := by
    rw [Json.toList_toString, List.mem_append]
    rintro (h | h)
    · by_cases hn : n < 0 <;> simp [hn] at h
    · have hdigit := Json.isDigit_toDigits _ _ h
      exact absurd hdigit (by decide)
  rw [pointed, if_neg hpoint]

theorem isDecimal_cases {text : String} (h : isDecimal text = true) :
    text.toList = ['0'] ∨ text.toList = ['1'] ∨
      ∃ places, text.toList = '0' :: '.' :: places ∧ (∀ c ∈ places, c.isDigit = true) ∧
        places ≠ [] ∧ places.getLast? ≠ some '0' := by
  unfold isDecimal at h
  split at h
  next heq => exact .inl heq
  next heq => exact .inr (.inl heq)
  next places heq =>
    simp only [Bool.and_eq_true, List.all_eq_true, decide_eq_true_eq] at h
    exact .inr (.inr ⟨places, heq, h.1.1, h.2⟩)
  next => cases h

theorem digit_cases {c : Char} (h : c.isDigit = true) : ∃ v < 10, c = Nat.digitChar v := by
  have hrange : 48 ≤ c.toNat ∧ c.toNat ≤ 57 := by
    simpa [Char.isDigit, UInt32.le_iff_toNat_le] using h
  have hall : ∀ v < 10, (Nat.digitChar v).toNat = v + 48 := by decide
  refine ⟨c.toNat - 48, by omega, Char.toNat_inj.mp ?_⟩
  rw [hall _ (by omega)]
  omega

/-- Digits counted and written again, with the zeros in front. -/
theorem padded_digits (ds : List Char) (hdigits : ∀ c ∈ ds, c.isDigit = true)
    (hne : ds ≠ []) :
    List.replicate (ds.length - (Nat.toDigits 10 (Nat.ofDigitChars 10 ds 0)).length) '0' ++
      Nat.toDigits 10 (Nat.ofDigitChars 10 ds 0) = ds := by
  induction ds using List.reverseRecOn with
  | nil => exact absurd rfl hne
  | append_singleton ds d ih =>
      obtain ⟨v, hv, rfl⟩ := digit_cases (hdigits d (by simp))
      have hvalue : Nat.ofDigitChars 10 (ds ++ [Nat.digitChar v]) 0 =
          10 * Nat.ofDigitChars 10 ds 0 + v := by
        rw [Nat.ofDigitChars_append, Nat.ofDigitChars_cons_digitChar_of_lt_ten hv,
          Nat.ofDigitChars_nil]
      rw [hvalue]
      by_cases hds : ds = []
      · subst hds
        simp [Nat.toDigits_of_lt_base hv]
      · have hrest := ih (fun c hc => hdigits c (List.mem_append_left _ hc)) hds
        by_cases hzero : Nat.ofDigitChars 10 ds 0 = 0
        · rw [hzero] at hrest ⊢
          have hlength : 1 ≤ ds.length := List.length_pos_iff.mpr hds
          rw [Nat.mul_zero, Nat.zero_add, Nat.toDigits_of_lt_base hv]
          rw [show Nat.toDigits 10 0 = ['0'] from rfl] at hrest
          rw [List.length_append, List.length_singleton, Nat.add_sub_cancel]
          conv_rhs => rw [← hrest]
          simp only [List.length_singleton]
          rw [← List.replicate_succ', Nat.sub_add_cancel hlength]
        · rw [← Nat.toDigits_append_toDigits (by decide) (Nat.pos_of_ne_zero hzero) hv,
            Nat.toDigits_of_lt_base hv]
          simp only [List.length_append, List.length_singleton, Nat.add_sub_add_right]
          rw [← List.append_assoc, hrest]

theorem rstrip_of_last {c : Char} {cs : List Char} (h : cs.getLast? ≠ some c) :
    rstrip c cs = cs := by
  rw [← List.head?_reverse] at h
  have hdrop : cs.reverse.dropWhile (· = c) = cs.reverse := by
    cases hcs : cs.reverse with
    | nil => rfl
    | cons d ds =>
        have hd : d ≠ c := by
          rintro rfl
          exact h (by rw [hcs]; rfl)
        exact List.dropWhile_cons_of_neg (by simpa using hd)
  rw [rstrip, hdrop, List.reverse_reverse]

section Places

variable {places : List Char} (hdigits : ∀ c ∈ places, c.isDigit = true) (hne : places ≠ [])
include hdigits hne

theorem scanNumber_places : Json.scanNumber ('0' :: '.' :: places) =
    ⟨[], ['0'], '.' :: places, []⟩ := by
  have htake : places.takeWhile Char.isDigit = places := List.takeWhile_eq_self_iff.mpr hdigits
  simp [Json.scanNumber, Json.wholeDigits, Json.fractionPart, htake, hne, Json.exponentPart]

theorem isFloat_places {text : String} (h : text.toList = '0' :: '.' :: places) :
    Json.IsFloat text := by
  simp [Json.IsFloat, h, scanNumber_places hdigits hne, Json.NumberText.text]

theorem plainText_places (hlast : places.getLast? ≠ some '0') {text : String}
    (h : text.toList = '0' :: '.' :: places) : plainText text = text := by
  have hdigits' : ∀ c ∈ '0' :: places, c.isDigit = true := by
    intro c hc
    rcases List.mem_cons.mp hc with rfl | hc
    · rfl
    · exact hdigits c hc
  have hpadded := padded_digits ('0' :: places) hdigits' (List.cons_ne_nil _ _)
  have hexponent : (0 : Int) - places.length < 0 := by
    have hlength := List.length_pos_iff.mpr hne
    omega
  have hplaces : (-((0 : Int) - places.length)).toNat = places.length := by omega
  have hgetLast : ('0' :: '.' :: places).getLast? = places.getLast? := by
    rw [List.getLast?_cons_of_ne_nil (List.cons_ne_nil _ _), List.getLast?_cons_of_ne_nil hne]
  have hzeros : rstrip '0' ('0' :: '.' :: places) = '0' :: '.' :: places :=
    rstrip_of_last (hgetLast ▸ hlast)
  have hpoint : rstrip '.' ('0' :: '.' :: places) = '0' :: '.' :: places := by
    refine rstrip_of_last fun hdot => ?_
    rw [hgetLast] at hdot
    exact absurd (hdigits _ (List.mem_of_getLast? hdot)) (by decide)
  rw [← String.toList_inj]
  simp only [plainText, h, scanNumber_places hdigits hne, exponentOf, List.tail_cons,
    List.singleton_append, if_pos hexponent, hplaces]
  rw [List.length_cons] at hpadded
  rw [hpadded]
  simp [hzeros, hpoint]

end Places

theorem isFloat_pointed {text : String} (h : isDecimal text = true) :
    Json.IsFloat (pointed text) := by
  rcases isDecimal_cases h with h | h | ⟨places, h, hdigits, hne, -⟩
  · have htext : pointed text = "0.0" := by
      rw [← String.toList_inj]
      simp [pointed, h]
    rw [htext]
    decide
  · have htext : pointed text = "1.0" := by
      rw [← String.toList_inj]
      simp [pointed, h]
    rw [htext]
    decide
  · have htext : pointed text = text := by simp [pointed, h]
    rw [htext]
    exact isFloat_places hdigits hne h

theorem plainText_pointed {text : String} (h : isDecimal text = true) :
    plainText (pointed text) = text := by
  rcases isDecimal_cases h with h | h | ⟨places, h, hdigits, hne, hlast⟩
  · have htext : text = "0" := by rw [← String.toList_inj, h]; rfl
    rw [htext]
    decide
  · have htext : text = "1" := by rw [← String.toList_inj, h]; rfl
    rw [htext]
    decide
  · have htext : pointed text = text := by simp [pointed, h]
    rw [htext]
    exact plainText_places hdigits hne hlast h

theorem exactText_ok_iff {text s : String} :
    confidenceText.exactText text = .ok s ↔ isDecimal text = true ∧ text = s := by
  rw [confidenceText.exactText]
  cases isDecimal text <;> simp

/-! ## The round trip -/

/-- What is assumed of floats. -/
class DecimalFloats [FloatText] : Prop where
  /-- A decimal of at most six places is written as the number it is. -/
  exact {text : String} : isDecimal text = true →
    Json.IsFloat (asFloat text) ∧ plainText (asFloat text) = text
  /-- Texts of one number are read as one float. -/
  same {text : String} : Json.IsFloat text → isDecimal (plainText text) = true →
    asFloat (plainText text) = FloatText.written text

section

variable [FloatText]

/-- What is written for a number that is read back as a float. -/
def floatOf : Number → String
  | .int n => FloatText.written (toString n ++ ".0")
  | .float text _ => text

/-- The policy with its confidences as floats. -/
def FloatsOf (p₀ p : TenantPolicy) : Prop :=
  p = { p₀ with confidence := p.confidence } ∧
    p.confidence.blockBelow.toJson = .float (floatOf p₀.confidence.blockBelow) ∧
    p.confidence.recommendHigh.toJson = .float (floatOf p₀.confidence.recommendHigh)

theorem toJson_inj {n m : Number} (h : n.toJson = m.toJson) : n = m := by
  have hread := Number.ofJson?_toJson n
  rw [h, Number.ofJson?_toJson] at hread
  exact (Option.some.inj hread).symm

/-- A float that a decimal text is read as. -/
def floatNumber (text : String) (h : isDecimal text = true) : Number :=
  .ofText (pointed text) (isFloat_pointed h)

variable [DecimalFloats]

theorem confidenceText_number {n : Number} {s : String} (hfinite : n.finite = true)
    (h : confidenceText n.toJson = .ok s) : isDecimal s = true ∧ asFloat s = floatOf n := by
  cases n with
  | int n =>
      obtain ⟨hdecimal, rfl⟩ := exactText_ok_iff.mp h
      rw [plainText_toString] at hdecimal ⊢
      exact ⟨hdecimal, congrArg FloatText.written (pointed_toString n)⟩
  | float text htext =>
      obtain ⟨hdecimal, rfl⟩ := exactText_ok_iff.mp h
      have hfloat := htext.resolve_right (of_decide_eq_true hfinite)
      exact ⟨hdecimal, (DecimalFloats.same hfloat.1 hdecimal).trans hfloat.2⟩

theorem finite_floatNumber {s : String} (h : isDecimal s = true) :
    (floatNumber s h).finite = true := by
  have hnone : ∀ text ∈ Json.nonFinite, ¬ Json.IsFloat text := by decide
  refine decide_eq_true fun hmem => ?_
  exact hnone _ hmem (DecimalFloats.exact h).1

theorem confidenceText_floatNumber {s : String} (h : isDecimal s = true) :
    confidenceText (floatNumber s h).toJson = .ok s := by
  refine exactText_ok_iff.mpr ?_
  have hplain := (DecimalFloats.exact h).2
  exact ⟨hplain.symm ▸ h, hplain⟩

variable [Digest]

omit [DecimalFloats] in
theorem keyed_scaffoldOf (p : TenantPolicy) (key s t : String) : (scaffoldOf p key s t).Keyed := by
  have hbody := (keyed_bodyWith (p := p) (a := .str s) (b := .str t) trivial trivial).sorted
  simp [scaffoldOf, scaffold, policyDocument, Json.Keyed, Json.KeyedItems, Json.KeyedFields, hbody]

omit [DecimalFloats] in
theorem legacyBody_scaffoldOf (p : TenantPolicy) (key : String) {s t : String}
    (hs : isDecimal s = true) (ht : isDecimal t = true) :
    legacyBody (scaffoldOf p key s t).sorted =
      some (bodyWith p (.float (asFloat s)) (.float (asFloat t))).sorted := by
  have hkeyed := keyed_scaffoldOf p key s t
  have hbodyKeyed := keyed_bodyWith (p := p) (a := .str s) (b := .str t) trivial trivial
  have hdocument : (scaffoldOf p key s t).sorted.field? "policy" =
      some (policyDocument (bodyWith p (.str s) (.str t)).sorted).sorted := by
    rw [hkeyed.field?_sorted]
    rfl
  have hbody : (policyDocument (bodyWith p (.str s) (.str t)).sorted).sorted.field? "policy" =
      some (bodyWith p (.str s) (.str t)).sorted := by
    have hkeyed : (policyDocument (bodyWith p (.str s) (.str t)).sorted).Keyed := by
      simp [policyDocument, Json.Keyed, Json.KeyedFields, hbodyKeyed.sorted]
    rw [hkeyed.field?_sorted, policyDocument]
    exact congrArg some (Json.sorted_sorted _)
  have hconfidence : (bodyWith p (.str s) (.str t)).sorted.field? "confidence" =
      some (confidences (.str s) (.str t)) := by
    rw [hbodyKeyed.field?_sorted, bodyWith_confidence, Option.map_some, confidences_sorted rfl rfl]
  have hfloats : (confidences (.str s) (.str t)).fields.mapM floatField =
      some (confidences (.float (asFloat s)) (.float (asFloat t))).fields := by
    simp [confidences, Json.fields, floatField, hs, ht]
  have hbodyWith : replaced "confidence" (confidences (.float (asFloat s)) (.float (asFloat t)))
      (bodyWith p (.str s) (.str t)) = bodyWith p (.float (asFloat s)) (.float (asFloat t)) := by
    simp [bodyWith, replaced, TenantPolicy.toDict]
  have hreplaced := replaced_sorted "confidence"
    (confidences_sorted (a := .float (asFloat s)) (b := .float (asFloat t)) rfl rfl)
    (bodyWith p (.str s) (.str t))
  rw [hbodyWith] at hreplaced
  rw [← hreplaced]
  simp only [legacyBody, hdocument, hbody, hconfidence, hfloats, Option.bind_eq_bind,
    Option.bind_some]
  rfl

omit [FloatText] [DecimalFloats] [Digest] in
theorem dumps_envelope_sorted (body : Json) :
    (envelope body.sorted).dumps = (envelope body).dumps := by
  have hsorted : (envelope body.sorted).sorted = (envelope body).sorted := by
    simp only [envelope, Json.sorted, Json.sortedFields, Json.sorted_sorted]
  rw [← String.toList_inj, Json.toList_dumps, Json.toList_dumps, hsorted]

/-- The policy with these decimals as its confidences. -/
def withFloats (p : TenantPolicy) {s t : String} (hs : isDecimal s = true)
    (ht : isDecimal t = true) : TenantPolicy :=
  { p with confidence := ⟨floatNumber s hs, floatNumber t ht⟩ }

omit [DecimalFloats] [Digest] in
theorem toDict_withFloats (p : TenantPolicy) {s t : String} (hs : isDecimal s = true)
    (ht : isDecimal t = true) : (withFloats p hs ht).toDict =
      bodyWith p (.float (asFloat s)) (.float (asFloat t)) := by
  simp [withFloats, bodyWith, replaced, TenantPolicy.toDict, confidences, floatNumber,
    Number.ofText, Number.toJson, asFloat]

omit [Digest] in
theorem Builds.withFloats {p : TenantPolicy} {key s t : String} (h : Builds p key s t)
    (hs : isDecimal s = true) (ht : isDecimal t = true) :
    Builds (withFloats p hs ht) key s t := by
  obtain ⟨document, hdocument⟩ := h.canonical
  obtain ⟨⟨hid, hversion, -⟩, -⟩ := canonicalPolicyJson_ok_iff.mp hdocument
  have hfinite : (⟨floatNumber s hs, floatNumber t ht⟩ : ConfidencePolicy).finite = true :=
    (Bool.and_eq_true _ _).mpr ⟨finite_floatNumber hs, finite_floatNumber ht⟩
  exact {
    canonical := ⟨_, canonicalPolicyJson_ok_iff.mpr ⟨⟨hid, hversion, hfinite⟩, rfl⟩⟩
    key := h.key
    version := h.version
    block := confidenceText_floatNumber hs
    high := confidenceText_floatNumber ht
    ordered := h.ordered
    gates := h.gates
    visible := h.visible
    separate := h.separate }

theorem decoded_of_builds {p : TenantPolicy} {key s t : String} (h : Builds p key s t)
    (hs : isDecimal s = true) (ht : isDecimal t = true) :
    decoded (textOf (scaffoldOf p key s t)) = some (withFloats p hs ht) := by
  have hkeyed := keyed_scaffoldOf p key s t
  have hloads := loads_textOf hkeyed (isPortable_scaffoldOf p key s t)
  have hcanonical : canonicalJson (scaffoldOf p key s t).sorted =
      .ok (textOf (scaffoldOf p key s t)) :=
    canonicalJson_ok_iff.mpr
      ⟨(isPortable_sorted _).trans (isPortable_scaffoldOf p key s t), textOf_sorted _⟩
  have hkey : readField (scaffoldOf p key s t).sorted "idempotency_key" Json.str? = some key := by
    rw [readField_sorted hkeyed fun v _ => str?_sorted v]
    rfl
  have hfloats := h.withFloats hs ht
  obtain ⟨document, hdocument⟩ := hfloats.canonical
  have hpolicy : policyFromCanonicalJson (envelope (bodyWith p (.float (asFloat s))
      (.float (asFloat t))).sorted).dumps = .ok (Portable.withFloats p hs ht) := by
    rw [dumps_envelope_sorted, ← toDict_withFloats p hs ht,
      (canonicalPolicyJson_ok_iff.mp hdocument).2]
    exact policyFromCanonicalJson_ok_iff.mpr hdocument
  have hsame : scaffoldOf (Portable.withFloats p hs ht) key s t = scaffoldOf p key s t := by
    have hbody : bodyWith (Portable.withFloats p hs ht) (.str s) (.str t) =
        bodyWith p (.str s) (.str t) := by
      simp [bodyWith, replaced, TenantPolicy.toDict, Portable.withFloats]
    rw [scaffoldOf, scaffoldOf, hbody]
    rfl
  have hbuild := buildScaffold_ok_iff.mpr ⟨s, t, hfloats, hsame⟩
  simp only [decoded, hloads, hcanonical, legacyBody_scaffoldOf p key hs ht, hpolicy, hkey, hbuild,
    canonicalJson_scaffoldOf, Except.toOption, Option.bind_eq_bind, Option.bind_some, if_true]
  rfl

omit [Digest] [DecimalFloats] in
theorem floatFields_spec {fields floats : List (String × Json)}
    (h : fields.mapM floatField = some floats) : floats.map Prod.fst = fields.map Prod.fst ∧
      ∀ e ∈ floats, ∃ s, isDecimal s = true ∧ e.2 = .float (asFloat s) := by
  induction fields generalizing floats with
  | nil =>
      cases h
      exact ⟨rfl, fun e he => absurd he List.not_mem_nil⟩
  | cons e es ih =>
      rw [List.mapM_cons] at h
      obtain ⟨e', he', h⟩ := Option.bind_eq_some_iff.mp h
      obtain ⟨es', hes', h⟩ := Option.bind_eq_some_iff.mp h
      cases h
      obtain ⟨hkeys, hvalues⟩ := ih hes'
      unfold floatField at he'
      split at he'
      next s _ =>
        split at he'
        next hdecimal =>
          cases he'
          refine ⟨by rw [List.map_cons, List.map_cons, hkeys], fun e he => ?_⟩
          rcases List.mem_cons.mp he with rfl | he
          · exact ⟨s, hdecimal, rfl⟩
          · exact hvalues e he
        next => cases he'
      next => cases he'

omit [Digest] in
/-- What is made of an artifact: floats for confidences, and nothing that is read otherwise. -/
theorem legacyBody_spec {artifact body : Json} (hkeyed : artifact.Keyed)
    (hportable : isPortable artifact = true) (h : legacyBody artifact = some body) :
    body.Keyed ∧ body.Readable ∧ ∃ floats, body.field? "confidence" = some (.obj floats) ∧
      (Json.obj floats).Keyed ∧
      ∀ e ∈ floats, ∃ s, isDecimal s = true ∧ e.2 = .float (asFloat s) := by
  simp only [legacyBody, Option.bind_eq_bind, Option.bind_eq_some_iff] at h
  obtain ⟨document, hdocument, whole, hwhole, confidence, hconfidence, h⟩ := h
  split at h
  next =>
    obtain ⟨floats, hfloats, h⟩ := Option.bind_eq_some_iff.mp h
    cases h
    have hwholeKeyed := (hkeyed.field? hdocument).field? hwhole
    have hwholePortable := isPortable_field? (isPortable_field? hportable hdocument) hwhole
    obtain ⟨hkeys, hvalues⟩ := floatFields_spec hfloats
    have hfloatsKeyed : (Json.obj floats).Keyed := by
      refine ⟨?_, Json.keyedFields_iff.mpr fun e he => ?_⟩
      · have hnodup := hwholeKeyed.field? hconfidence
        rw [hkeys]
        cases confidence with
        | obj fields => exact hnodup.1
        | null | bool | num | float | str | arr => exact List.nodup_nil
      · obtain ⟨s, -, hs⟩ := hvalues e he
        rw [hs]
        trivial
    have hfloatsReadable : (Json.obj floats).Readable := by
      refine Json.readableFields_iff.mpr fun e he => ?_
      obtain ⟨s, hdecimal, hs⟩ := hvalues e he
      rw [hs]
      exact (floatNumber s hdecimal).readable_of_finite (finite_floatNumber hdecimal)
    exact ⟨keyed_replaced hwholeKeyed hfloatsKeyed,
      readable_replaced (readable_of_portable hwholePortable) hfloatsReadable, floats,
      field?_replaced_self hconfidence, hfloatsKeyed, hvalues⟩
  next => cases h

omit [Digest] [DecimalFloats] in
/-- A policy read from a body with floats has floats. -/
theorem floats_of_policy {body : Json} {p : TenantPolicy} {floats : List (String × Json)}
    (hkeyed : body.Keyed) (hread : body.Readable)
    (hconfidence : body.field? "confidence" = some (.obj floats))
    (hfloats : (Json.obj floats).Keyed)
    (hvalues : ∀ e ∈ floats, ∃ s, isDecimal s = true ∧ e.2 = .float (asFloat s))
    (h : policyFromCanonicalJson (envelope body).dumps = .ok p) : FloatsOf p p := by
  obtain ⟨⟨-, -, hfinite⟩, hdumps⟩ :=
    canonicalPolicyJson_ok_iff.mp (policyFromCanonicalJson_ok_iff.mp h)
  have henvelope : (envelope body).Keyed := by
    simp [envelope, Json.Keyed, Json.KeyedFields, hkeyed]
  have henvelope' : (envelope body).Readable := ⟨trivial, hread, trivial⟩
  have hloads := Json.loads_dumps henvelope henvelope'
  rw [← hdumps, Json.loads_dumps (keyed_envelope p) (readable_envelope hfinite)] at hloads
  have hpolicy : p.toDict.sorted = body.sorted := by
    have hfields := congrArg (·.field? "policy") (Option.some.inj hloads)
    simp only [(keyed_envelope p).field?_sorted, henvelope.field?_sorted] at hfields
    exact Option.some.inj hfields
  have hsame : confidences p.confidence.blockBelow.toJson p.confidence.recommendHigh.toJson =
      (Json.obj floats).sorted := by
    have hfields := congrArg (·.field? "confidence") hpolicy
    simp only [(keyed_toDict p).field?_sorted, hkeyed.field?_sorted, toDict_confidence,
      hconfidence, Option.map_some, confidences_sorted p.confidence.blockBelow.toJson_sorted
      p.confidence.recommendHigh.toJson_sorted] at hfields
    exact Option.some.inj hfields
  have hfloat : ∀ (key : String) (n : Number), (confidences p.confidence.blockBelow.toJson
      p.confidence.recommendHigh.toJson).field? key = some n.toJson →
      n.toJson = .float (floatOf n) := by
    intro key n hn
    rw [hsame, hfloats.field?_sorted] at hn
    obtain ⟨v, hv, heq⟩ := Option.map_eq_some_iff.mp hn
    obtain ⟨e, he, rfl⟩ := Option.map_eq_some_iff.mp hv
    obtain ⟨s, -, hs⟩ := hvalues e (List.mem_of_find?_eq_some he)
    rw [hs] at heq
    cases n with
    | int n => cases heq
    | float text _ => rfl
  refine ⟨rfl, hfloat "block_below" _ ?_, hfloat "recommend_high" _ ?_⟩
  · simp [confidences, Json.field?]
  · simp [confidences, Json.field?]

omit [FloatText] [DecimalFloats] [Digest] in
theorem toOption_eq_some_iff {α : Type} {r : Except PyExc α} {a : α} :
    r.toOption = some a ↔ r = .ok a := by
  cases r <;> simp [Except.toOption]

theorem decoded_ok {document : String} {p : TenantPolicy} (h : decoded document = some p) :
    FloatsOf p p ∧ ∃ key artifact, buildScaffold p key = .ok artifact ∧
      canonicalJson artifact = .ok document := by
  simp only [decoded, Option.bind_eq_bind, Option.bind_eq_some_iff, toOption_eq_some_iff] at h
  obtain ⟨artifact, hloads, h⟩ := h
  split at h
  next hcanonical =>
    simp only [Option.bind_eq_some_iff, toOption_eq_some_iff] at h
    obtain ⟨body, hbody, policy, hpolicy, key, -, expected, hexpected, h⟩ := h
    split at h
    next hwritten =>
      cases h
      obtain ⟨hportable, -⟩ := canonicalJson_ok_iff.mp hcanonical
      obtain ⟨hkeyed, hread, floats, hconfidence, hfloats, hvalues⟩ :=
        legacyBody_spec (Json.loads_keyed hloads) hportable hbody
      exact ⟨floats_of_policy hkeyed hread hconfidence hfloats hvalues hpolicy, key, expected,
        hexpected, hwritten⟩
    next => cases h
  next => cases h

omit [Digest] in
/-- The confidences of a scaffold are decimals, and those floats. -/
theorem Builds.decimals {p : TenantPolicy} {key s t : String} (h : Builds p key s t) :
    (isDecimal s = true ∧ asFloat s = floatOf p.confidence.blockBelow) ∧
      isDecimal t = true ∧ asFloat t = floatOf p.confidence.recommendHigh := by
  obtain ⟨_, hcanonical⟩ := h.canonical
  obtain ⟨hfinite, hfinite'⟩ := (Bool.and_eq_true _ _).mp
    (canonicalPolicyJson_ok_iff.mp hcanonical).1.2.2
  exact ⟨confidenceText_number hfinite h.block, confidenceText_number hfinite' h.high⟩

theorem decoded_iff {document : String} {p : TenantPolicy} : decoded document = some p ↔
    ∃ p₀ key artifact, buildScaffold p₀ key = .ok artifact ∧
      canonicalJson artifact = .ok document ∧ FloatsOf p₀ p := by
  constructor
  · intro h
    obtain ⟨hfloats, key, artifact, hbuild, hdocument⟩ := decoded_ok h
    exact ⟨p, key, artifact, hbuild, hdocument, hfloats⟩
  · rintro ⟨p₀, key, artifact, hbuild, hdocument, hp, hblock, hhigh⟩
    obtain ⟨s, t, hb, rfl⟩ := buildScaffold_ok_iff.mp hbuild
    obtain ⟨-, rfl⟩ := canonicalJson_ok_iff.mp hdocument
    obtain ⟨⟨hs, hsFloat⟩, ht, htFloat⟩ := hb.decimals
    have hconfidence : p.confidence = ⟨floatNumber s hs, floatNumber t ht⟩ := by
      have hfirst : p.confidence.blockBelow = floatNumber s hs :=
        toJson_inj (hblock.trans (congrArg Json.float hsFloat.symm))
      have hsecond : p.confidence.recommendHigh = floatNumber t ht :=
        toJson_inj (hhigh.trans (congrArg Json.float htFloat.symm))
      rw [← hfirst, ← hsecond]
    have hsame : p = withFloats p₀ hs ht := by
      rw [hp, hconfidence]
      rfl
    rw [hsame]
    exact decoded_of_builds hb hs ht

omit [DecimalFloats] in
theorem decodeScaffold_ok_iff {document : String} {p : TenantPolicy} :
    decodeScaffold document = .ok p ↔ decoded document = some p := by
  rw [decodeScaffold]
  cases decoded document <;> simp

/-- The decoder reads exactly what the builder writes, and the policy it returns is the one
that was built in, its confidences as floats. -/
theorem scaffold_round_trip (document : String) (p : TenantPolicy) :
    decodeScaffold document = .ok p ↔
      ∃ p₀ key artifact, buildScaffold p₀ key = .ok artifact ∧
        canonicalJson artifact = .ok document ∧ FloatsOf p₀ p := by
  rw [decodeScaffold_ok_iff, decoded_iff]

end

namespace Sample

/-- A decimal of at most six places is written as itself, another float as it is given. -/
def writtenPlain (text : String) : String :=
  if isDecimal (plainText text) then pointed (plainText text) else text

theorem writtenPlain_pointed {text : String} (h : isDecimal text = true) :
    writtenPlain (pointed text) = pointed text := by
  rw [writtenPlain, plainText_pointed h, if_pos h]

@[reducible] def floats : FloatText where
  written := writtenPlain
  written_isFloat text htext := by
    refine .inl ?_
    by_cases h : isDecimal (plainText text) = true
    · have hwritten : writtenPlain text = pointed (plainText text) := if_pos h
      rw [hwritten]
      exact ⟨isFloat_pointed h, writtenPlain_pointed h⟩
    · have hwritten : writtenPlain text = text := if_neg h
      rw [hwritten]
      exact ⟨htext, hwritten⟩

attribute [local instance] floats Digest.plain

theorem asFloat_eq {text : String} (h : isDecimal text = true) : asFloat text = pointed text := by
  rw [asFloat]
  exact writtenPlain_pointed h

theorem decimalFloats : DecimalFloats where
  exact h := by
    rw [asFloat_eq h]
    exact ⟨isFloat_pointed h, plainText_pointed h⟩
  same {text} _ h := by
    have hwritten : writtenPlain text = pointed (plainText text) := if_pos h
    rw [asFloat_eq h]
    exact hwritten.symm

attribute [local instance] decimalFloats

theorem example_builds : Builds TenantPolicy.example_ "key-1" "0.75" "0.95" where
  canonical := ⟨_, canonicalPolicyJson_ok_iff.mpr ⟨⟨by decide, by decide, by decide⟩, rfl⟩⟩
  key := by decide
  version := by decide
  block := by rfl
  high := by rfl
  ordered := by decide
  gates _ h := h
  visible := rfl
  separate := rfl

theorem example_built : buildScaffold TenantPolicy.example_ "key-1" =
    .ok (scaffoldOf TenantPolicy.example_ "key-1" "0.75" "0.95") :=
  buildScaffold_ok_iff.mpr ⟨"0.75", "0.95", example_builds, rfl⟩

theorem floatsOf_example : FloatsOf TenantPolicy.example_ TenantPolicy.example_ :=
  ⟨rfl, rfl, rfl⟩

theorem example_decoded :
    decodeScaffold (textOf (scaffoldOf TenantPolicy.example_ "key-1" "0.75" "0.95")) =
      .ok TenantPolicy.example_ :=
  (scaffold_round_trip _ TenantPolicy.example_).mpr ⟨TenantPolicy.example_, "key-1", _,
    example_built, canonicalJson_scaffoldOf _ _ _ _, floatsOf_example⟩

end Sample

/-! ## Initialized workspaces -/

section

variable [FloatText] [Digest]

def emptyTables : List String :=
  ["tenants", "ledger_command_log", "ledger_entity", "ledger_meta", "outbox_events"]

/-- The entities of a tenant's empty ledger. -/
def emptyEntities (policy : TenantPolicy) : Json :=
  (Ledger.new {
    id := policy.tenantId, name := policy.displayName,
    policyVersion := policy.version }).snapshotLedgerEntities

def initializedState (scaffold entities : Json) : Except PyExc Json := do
  let tenantId ← part scaffold "tenant_id" some
  return .obj [
    ("format", .str "ir-initialized-empty-workspace-v1"),
    ("scaffold", scaffold),
    ("ledger_binding", .obj [
      ("format", .str "ir-empty-ledger-binding-v1"),
      ("tenant_id", tenantId),
      ("entities", entities)]),
    ("operational", .bool false)]

def initializedIn (document : String) : Option Json := do
  let state ← Json.loads document
  let scaffold ← state.field? "scaffold"
  let written ← (canonicalJson scaffold).toOption
  let policy ← (decodeScaffold written).toOption
  let expected ← (initializedState scaffold (emptyEntities policy)).toOption
  if (canonicalJson expected).toOption = some document then return state else none

/-- Validate state bytes, not storage evidence; accept only exactly empty bindings. -/
def decodeInitializedWorkspace (document : String) : Except PyExc Json :=
  match initializedIn document with
  | some state => .ok state
  | none => .error (policyError "invalid initialized workspace")

def initializedReceipt (state : Json) : Except PyExc Json := do
  let scaffold ← part state "scaffold" some
  let tenantId ← part scaffold "tenant_id" some
  let idempotencyKey ← part scaffold "idempotency_key" some
  let policySha256 ← part scaffold "policy_sha256" some
  let scaffoldSha256 ← policyHash scaffold
  let stateSha256 ← policyHash state
  return .obj [
    ("format", .str "ir-initialized-workspace-verification-v1"),
    ("tenant_id", tenantId),
    ("idempotency_key", idempotencyKey),
    ("policy_sha256", policySha256),
    ("scaffold_sha256", .str scaffoldSha256),
    ("state_sha256", .str stateSha256),
    ("storage_scope", .str "sql-scaffold-empty-tables-v1"),
    ("empty_tables", .arr (emptyTables.map .str)),
    ("readiness", .obj [
      ("policy_initialized", .bool true),
      ("artifact_verified", .bool true),
      ("storage_initialized", .bool true),
      ("workspace_reopened", .bool true),
      ("operational", .bool false)])]

/-- Validate receipt structure and bindings only; does not establish its provenance. -/
def validateInitializedReceipt (document : String) (state : Json) : Except PyExc Unit := do
  let written ← canonicalJson state
  let _ ← decodeInitializedWorkspace written
  let receipt ← initializedReceipt state
  let text ← canonicalJson receipt
  require (text = document) "initialized receipt fields, hashes or canonical bytes mismatch"

/-- The state of an empty workspace with this scaffold. -/
def stateOf (p : TenantPolicy) (scaffold : Json) : Json :=
  .obj [
    ("format", .str "ir-initialized-empty-workspace-v1"),
    ("scaffold", scaffold),
    ("ledger_binding", .obj [
      ("format", .str "ir-empty-ledger-binding-v1"),
      ("tenant_id", .str p.tenantId),
      ("entities", emptyEntities p)]),
    ("operational", .bool false)]

omit [Digest] in
theorem keyed_emptyEntities (p : TenantPolicy) : (emptyEntities p).Keyed := by
  simp [emptyEntities, Ledger.snapshotLedgerEntities, Ledger.new, entityMap, Ledger.externalIndex,
    Organization.toJson, Json.Keyed, Json.KeyedFields, Dict.empty, Dict.values, Dict.ofList, Dict.update]

omit [Digest] in
theorem isPortable_emptyEntities (p : TenantPolicy) : isPortable (emptyEntities p) = true := rfl

omit [Digest] in
theorem keyed_stateOf {p : TenantPolicy} {scaffold : Json} (h : scaffold.Keyed) :
    (stateOf p scaffold).Keyed := by
  simp [stateOf, Json.Keyed, Json.KeyedFields, h, keyed_emptyEntities]

omit [Digest] in
theorem isPortable_stateOf (p : TenantPolicy) (scaffold : Json) :
    isPortable (stateOf p scaffold) = isPortable scaffold := by
  simp [stateOf, isPortable, fieldsPortable, isPortable_emptyEntities]

omit [Digest] in
theorem stateOf_sorted (p : TenantPolicy) {scaffold scaffold' : Json}
    (h : scaffold.sorted = scaffold'.sorted) :
    (stateOf p scaffold).sorted = (stateOf p scaffold').sorted := by
  simp only [stateOf, Json.sorted, Json.sortedFields, h]

omit [FloatText] [Digest] in
/-- A text is found in a value that is the same sorted. -/
theorem part_of_sorted {j j' : Json} {k v : String} (hkeyed : j.Keyed) (hkeyed' : j'.Keyed)
    (h : j.sorted = j'.sorted) (hv : j'.field? k = some (.str v)) :
    part j k some = .ok (.str v) := by
  have hfield := hkeyed.field?_sorted k
  rw [h, hkeyed'.field?_sorted, hv] at hfield
  obtain ⟨w, hw, hsorted⟩ := Option.map_eq_some_iff.mp hfield.symm
  have hstr : w = .str v := by
    cases w with
    | str s => exact hsorted
    | null | bool | num | float | arr | obj => cases hsorted
  rw [part, readField, hw, hstr]
  rfl

omit [Digest] in
theorem initializedState_of {p : TenantPolicy} {scaffold : Json}
    (h : part scaffold "tenant_id" some = .ok (.str p.tenantId)) :
    initializedState scaffold (emptyEntities p) = .ok (stateOf p scaffold) := by
  rw [initializedState, h]
  rfl

variable [DecimalFloats]

theorem initializedIn_iff {document : String} {state : Json} :
    initializedIn document = some state ↔ ∃ p key artifact,
      buildScaffold p key = .ok artifact ∧ state = (stateOf p artifact).sorted ∧
        textOf state = document := by
  constructor
  · intro h
    simp only [initializedIn, Option.bind_eq_bind, Option.bind_eq_some_iff,
      toOption_eq_some_iff] at h
    obtain ⟨state, hloads, scaffold, hscaffold, written, hwritten, policy, hpolicy, expected,
      hexpected, h⟩ := h
    split at h
    next hdocument =>
      cases h
      obtain ⟨p, key, artifact, hbuild, hartifact, hp, -⟩ :=
        decoded_iff.mp (decodeScaffold_ok_iff.mp hpolicy)
      obtain ⟨s, t, -, rfl⟩ := buildScaffold_ok_iff.mp hbuild
      have hkeyed := keyed_scaffoldOf p key s t
      have hkeyed' := (Json.loads_keyed hloads).field? hscaffold
      have hsorted := sorted_eq_of_canonicalJson hkeyed' hkeyed hwritten hartifact
      have hentities : emptyEntities policy = emptyEntities p := by
        rw [hp]
        rfl
      have htenant := part_of_sorted (k := "tenant_id") hkeyed' hkeyed hsorted rfl
      rw [hentities, initializedState_of htenant] at hexpected
      cases hexpected
      obtain ⟨hportable, rfl⟩ := canonicalJson_ok_iff.mp hdocument
      rw [loads_textOf (keyed_stateOf hkeyed') hportable] at hloads
      cases hloads
      exact ⟨p, key, _, hbuild, stateOf_sorted p hsorted, textOf_sorted _⟩
    next => cases h
  · rintro ⟨p, key, artifact, hbuild, rfl, rfl⟩
    obtain ⟨s, t, hb, rfl⟩ := buildScaffold_ok_iff.mp hbuild
    have hkeyed := keyed_scaffoldOf p key s t
    have hportable := isPortable_scaffoldOf p key s t
    have hloads := loads_textOf (keyed_stateOf (p := p) hkeyed)
      ((isPortable_stateOf p _).trans hportable)
    have hscaffold : (stateOf p (scaffoldOf p key s t)).sorted.field? "scaffold" =
        some (scaffoldOf p key s t).sorted := by
      rw [(keyed_stateOf hkeyed).field?_sorted]
      rfl
    have hwritten : canonicalJson (scaffoldOf p key s t).sorted =
        .ok (textOf (scaffoldOf p key s t)) :=
      canonicalJson_ok_iff.mpr ⟨(isPortable_sorted _).trans hportable, textOf_sorted _⟩
    obtain ⟨⟨hs, -⟩, ht, -⟩ := hb.decimals
    have hpolicy : decodeScaffold (textOf (scaffoldOf p key s t)) = .ok (withFloats p hs ht) :=
      decodeScaffold_ok_iff.mpr (decoded_of_builds hb hs ht)
    have hexpected : initializedState (scaffoldOf p key s t).sorted
        (emptyEntities (withFloats p hs ht)) = .ok (stateOf p (scaffoldOf p key s t).sorted) :=
      initializedState_of (part_of_sorted hkeyed.sorted hkeyed (Json.sorted_sorted _) rfl)
    have hdocument : canonicalJson (stateOf p (scaffoldOf p key s t).sorted) =
        .ok (textOf (stateOf p (scaffoldOf p key s t)).sorted) := by
      refine canonicalJson_ok_iff.mpr ⟨?_, ?_⟩
      · rw [isPortable_stateOf, isPortable_sorted, hportable]
      · rw [← textOf_sorted, stateOf_sorted p (Json.sorted_sorted _)]
    simp only [textOf_sorted] at hdocument ⊢
    simp only [initializedIn, hloads, hscaffold, hwritten, hpolicy, hexpected, hdocument,
      Except.toOption, Option.bind_eq_bind, Option.bind_some, if_true]
    rfl

/-- The state of an initialized workspace is that of a scaffold that was built, with the
tenant's empty ledger. -/
theorem initialized_workspace_iff (document : String) (state : Json) :
    decodeInitializedWorkspace document = .ok state ↔ ∃ p key artifact,
      buildScaffold p key = .ok artifact ∧ state = (stateOf p artifact).sorted ∧
        textOf state = document := by
  rw [← initializedIn_iff, decodeInitializedWorkspace]
  cases initializedIn document <;> simp

end

namespace Sample

attribute [local instance] floats Digest.plain decimalFloats

theorem example_initialized :
    decodeInitializedWorkspace (textOf (stateOf TenantPolicy.example_
        (scaffoldOf TenantPolicy.example_ "key-1" "0.75" "0.95")).sorted) =
      .ok (stateOf TenantPolicy.example_
        (scaffoldOf TenantPolicy.example_ "key-1" "0.75" "0.95")).sorted :=
  (initialized_workspace_iff _ _).mpr ⟨_, "key-1", _, example_built, rfl, rfl⟩

end Sample

end Portable

end ImpactRelay
