/-
# `Reporting.EveryOrg` — summaries of a processor, and what they are labelled

`every_org_to_reconcile_aggregate` (`every_org.py`) maps a summary, in either of two
shapes, into the input of the reconciliation, and fills in what is missing; a missing
source becomes one under the processor's name.  The reconciliation takes an aggregate
without a source for a pilot, but it does not get to see one.

`observed_iff`: the label is OBSERVED where the source that is there or filled in is no
pilot's and no claim lowers it.  `observed_is_sourced_iff`: so it is proven by the summary
itself exactly where the summary has a source, or nothing is labelled.
-/
import ImpactRelay.Reporting.Reconcile

namespace ImpactRelay

open Raise

/-! ## The mapping -/

/-- `FORBIDDEN_EVERY_ORG_KEYS`. -/
def forbiddenEveryOrgKeys : List String :=
  ["donors", "donor", "gifts", "transactions", "charges", "payments", "emails", "email", "names",
    "line_items", "lineItems", "phone", "phones", "address", "addresses", "receipts"]

def assertEveryOrgSafe (payload : Json) : Except PyExc Unit :=
  match unsafeIn forbiddenEveryOrgKeys "Every.org summary forbids personal/itemized field at "
    "nested structures not allowed in Every.org aggregate at " "$" payload with
  | some msg => .error (reconcileError msg)
  | none => .ok ()

/-- `summary.get("totals") or {}`. -/
def summaryTotals (summary : Fields) : Json := (pyOr (dictGet summary "totals") none).getD (.obj [])

/-- The summary is in the shape of an aggregate already. -/
def inReconcileShape (summary : Fields) : Prop :=
  (summaryTotals summary).truthy = false ∧
    ∀ k ∈ ["raisedPublic", "committedPublic", "donorCountPublic"], (dictGet summary k).isSome

instance (summary : Fields) : Decidable (inReconcileShape summary) :=
  inferInstanceAs (Decidable (_ ∧ _))

/-- A value, or nothing where it is `None`. -/
def notNone (v : Option Json) : Option Json := v.bind fun v => if v = .null then none else some v

section

variable [PyNumbers] [CaseTable] [Json.CharTable]

def summarySlug (summary : Fields) : String :=
  ((pyOr (dictGet summary "nonprofitSlug") (pyOr (dictGet summary "slug") none)).getD
    (.str "unknown")).text

/-- The source where the summary has none. -/
def defaultSource (summary : Fields) : String :=
  if inReconcileShape summary then "every.org/aggregate"
  else "every.org/aggregate:" ++ summarySlug summary

/-- `summary.get("source") or …`. -/
def mappedSource (summary : Fields) : Json :=
  (pyOr (dictGet summary "source") none).getD (.str (defaultSource summary))

/-- Both shapes: which of two names for a value comes first, and the note. -/
def mapped (summary : Fields) (first second : String → String → String) (note : String)
    (raised committed donors : Json) : Fields := [
  ("source", mappedSource summary),
  ("reconciledAt", (pyOr (dictGet summary (first "reconciledAt" "exportedAt"))
    (dictGet summary (second "reconciledAt" "exportedAt"))).getD .null),
  ("status", (pyOr (dictGet summary (first "status" "campaignStatus"))
    (pyOr (dictGet summary (second "status" "campaignStatus")) none)).getD (.str "active")),
  ("raisedPublic", raised),
  ("committedPublic", committed),
  ("donorCountPublic", donors),
  ("note", (pyOr (dictGet summary "note") none).getD (.str note))]

/-- The totals of a summary under any of their names. -/
def mappedTotals (summary : Fields) : Except PyExc Fields :=
  if inReconcileShape summary then do
    let raised ← dictItem summary "raisedPublic"
    let committed ← dictItem summary "committedPublic"
    let donors ← dictItem summary "donorCountPublic"
    return mapped summary (fun a _ => a) (fun _ b => b) "Every.org aggregate summary" raised
      committed donors
  else
    match summaryTotals summary with
    | .obj totals =>
        let raised := (dictGet totals "raised").or
          ((dictGet totals "raisedUsd").or (dictGet totals "amountRaised"))
        let committed := (dictGet totals "committed").or (dictGet totals "pledged")
        let donors := (dictGet totals "donorCount").or
          ((dictGet totals "uniqueDonors").or (dictGet totals "donorsCount"))
        match notNone raised, notNone donors with
        | some raised, some donors => do
            let raised ← PyNumbers.toFloat raised
            let committed ← PyNumbers.toFloat ((pyOr committed none).getD (.num 0))
            let donors ← PyNumbers.toInt donors
            return mapped summary (fun _ b => b) (fun a _ => a)
              ("Aggregate-only Every.org summary for nonprofit slug " ++ summarySlug summary ++ ".")
              (.float raised) (.float committed) (.num donors)
        | _, _ => .error (reconcileError
            "Every.org summary missing totals.raised and totals.donorCount")
    | v => .error ⟨.attributeError, "'" ++ v.typeName ++ "' object has no attribute 'get'"⟩

/-- `summary.get("claimLevel") or summary.get("claimLabel")`, where it is true. -/
def summaryClaim (summary : Fields) : Option Json :=
  pyOr (dictGet summary "claimLevel") (pyOr (dictGet summary "claimLabel") none)

def withClaim (summary aggregate : Fields) : Fields :=
  match summaryClaim summary with
  | some claim => Json.setField aggregate "claimLevel" claim
  | none => aggregate

/-- Map an Every.org-style aggregate summary into the input of a reconciliation. -/
def everyOrgToReconcileAggregate (summary : Fields) : Except PyExc Fields := do
  assertEveryOrgSafe (.obj summary)
  let aggregate := withClaim summary (← mappedTotals summary)
  assertAggregateSafe (.obj aggregate)
  return aggregate

end

/-! ## Values that are true -/

theorem truthy_of_pyOr {a b : Option Json} {v : Json} (hb : ∀ w, b = some w → w.truthy = true)
    (h : pyOr a b = some v) : v.truthy = true := by
  cases a with
  | none => exact hb v h
  | some w =>
      by_cases htrue : w.truthy = true
      · obtain rfl := Option.some.inj ((if_pos htrue).symm.trans h)
        exact htrue
      · exact hb v ((if_neg htrue).symm.trans h)

theorem pyOr_of_truthy {v : Json} {b : Option Json} (h : v.truthy = true) :
    pyOr (some v) b = some v := if_pos h

theorem summaryClaim_truthy {summary : Fields} {claim : Json}
    (h : summaryClaim summary = some claim) : claim.truthy = true :=
  truthy_of_pyOr (fun _ h' => truthy_of_pyOr (fun w h'' => nomatch (h'' : none = some w)) h') h

theorem defaultSource_ne_empty [Json.CharTable] {summary : Fields} :
    defaultSource summary ≠ "" := by
  intro h
  have hchars := congrArg String.toList h
  rw [defaultSource] at hchars
  split at hchars
  · exact nomatch hchars
  · rw [String.toList_append] at hchars
    exact nomatch hchars

theorem mappedSource_truthy [Json.CharTable] {summary : Fields} :
    (mappedSource summary).truthy = true := by
  rw [mappedSource]
  cases h : pyOr (dictGet summary "source") none with
  | some v => exact truthy_of_pyOr (fun w h' => nomatch (h' : none = some w)) h
  | none => exact decide_eq_true defaultSource_ne_empty

/-- A source is filled in as the default only where it is missing. -/
theorem mappedSource_of_sourced [Json.CharTable] {summary : Fields} {source : String} (hne : source ≠ "")
    (h : dictGet summary "source" = some (.str source)) : mappedSource summary = .str source := by
  have htrue : (Json.str source).truthy = true := decide_eq_true hne
  rw [mappedSource, h, pyOr_of_truthy htrue, Option.getD_some]

/-! ## Labels -/

/-- The claims that lower the label, whatever the source. -/
def loweringClaims : List String :=
  ["PILOT", "SYNTHETIC", "NOT_COMPUTABLE", "UNAVAILABLE", "NOT_AVAILABLE"]

theorem not_lowering_of_observed {claim : String}
    (h : claim ∈ ["OBSERVED", "PROCESSOR", "PROCESSOR_AGGREGATE"]) : claim ∉ loweringClaims := by
  simp only [List.mem_cons, List.not_mem_nil, or_false] at h
  rcases h with rfl | rfl | rfl <;> decide

/-- The claims that lower the label, in the order they are asked for. -/
theorem mem_loweringClaims {claim : String} : claim ∈ loweringClaims ↔
    claim ∈ ["PILOT", "SYNTHETIC"] ∨ claim ∈ ["NOT_COMPUTABLE", "UNAVAILABLE", "NOT_AVAILABLE"] :=
  List.mem_append (s := ["PILOT", "SYNTHETIC"])


section

variable [PyNumbers] [CaseTable] [Json.CharTable]

/-- The campaign's total is published as an observation of the processor. -/
def LabelledObserved (state : Fields) : Prop :=
  ∃ campaign, dictGet state "campaign" = some campaign ∧
    campaign.field? "raisedSource" = some (.str "processor_aggregate") ∧
    campaign.field? "raisedClaimLabel" = some (.str "OBSERVED")

/-- The summary itself has a source that is not a pilot's. -/
def Proven (summary : Fields) : Prop :=
  ∃ source, dictGet summary "source" = some (.str source) ∧ source ≠ "" ∧
    isPilotOrSyntheticSource source = false

def Lowered (summary : Fields) : Prop :=
  CaseTable.upper ((summaryClaim summary).getD (.str "")).text ∈ loweringClaims

instance (summary : Fields) : Decidable (Lowered summary) := inferInstanceAs (Decidable (_ ∈ _))

/-- The summary has a source, as a text. -/
def Sourced (summary : Fields) : Prop :=
  ∃ source, dictGet summary "source" = some (.str source) ∧ source ≠ ""

end

/-! ## What is read of a mapped summary -/

theorem resolved_observed_iff [CaseTable] [Json.CharTable] {aggregate : Fields}
    {provenance : String × String} {source claim : Json}
    (hsource : dictGet aggregate "source" = some source) (htrue : source.truthy = true)
    (hclaim : (pyOr (dictGet aggregate "claimLevel")
      (pyOr (dictGet aggregate "claimLabel") none)).getD (.str "") = claim)
    (h : resolveRaisedProvenance aggregate = .ok provenance) :
    provenance = ("processor_aggregate", "OBSERVED") ↔
      isPilotOrSyntheticSource source.text = false ∧
        CaseTable.upper claim.text ∉ loweringClaims := by
  rw [resolveRaisedProvenance, hsource, pyOr_of_truthy htrue, Option.getD_some, hclaim] at h
  by_cases hobserved :
      CaseTable.upper claim.text ∈ ["OBSERVED", "PROCESSOR", "PROCESSOR_AGGREGATE"]
  · rw [if_pos hobserved] at h
    by_cases hpilot : isPilotOrSyntheticSource source.text = true
    · rw [if_pos hpilot] at h
      exact nomatch h
    · rw [if_neg hpilot] at h
      exact iff_of_true (Except.ok.inj h).symm
        ⟨Bool.eq_false_iff.mpr hpilot, not_lowering_of_observed hobserved⟩
  · rw [if_neg hobserved] at h
    rw [mem_loweringClaims]
    by_cases hsynthetic : CaseTable.upper claim.text ∈ ["PILOT", "SYNTHETIC"]
    · rw [if_pos hsynthetic] at h
      obtain rfl := Except.ok.inj h
      exact iff_of_false (by decide) fun hkept => hkept.2 (Or.inl hsynthetic)
    · rw [if_neg hsynthetic] at h
      by_cases hmissing :
          CaseTable.upper claim.text ∈ ["NOT_COMPUTABLE", "UNAVAILABLE", "NOT_AVAILABLE"]
      · rw [if_pos hmissing] at h
        obtain rfl := Except.ok.inj h
        exact iff_of_false (by decide) fun hkept => hkept.2 (Or.inr hmissing)
      · rw [if_neg hmissing] at h
        by_cases hpilot : isPilotOrSyntheticSource source.text = true
        · rw [if_pos hpilot] at h
          obtain rfl := Except.ok.inj h
          exact iff_of_false (by decide) fun hkept => Bool.eq_false_iff.mp hkept.1 hpilot
        · rw [if_neg hpilot] at h
          exact iff_of_true (Except.ok.inj h).symm
            ⟨Bool.eq_false_iff.mpr hpilot, fun hlower => hlower.elim hsynthetic hmissing⟩

theorem mappedTotals_eq [PyNumbers] [Json.CharTable] {summary totals : Fields}
    (h : mappedTotals summary = .ok totals) :
    ∃ first second note raised committed donors,
      totals = mapped summary first second note raised committed donors := by
  rw [mappedTotals] at h
  split at h
  · obtain ⟨raised, -, h⟩ := except_bind_eq_ok.mp h
    obtain ⟨committed, -, h⟩ := except_bind_eq_ok.mp h
    obtain ⟨donors, -, h⟩ := except_bind_eq_ok.mp h
    exact ⟨_, _, _, raised, committed, donors, (Except.ok.inj h).symm⟩
  · split at h
    · simp only at h
      split at h
      · obtain ⟨raised, -, h⟩ := except_bind_eq_ok.mp h
        obtain ⟨committed, -, h⟩ := except_bind_eq_ok.mp h
        obtain ⟨donors, -, h⟩ := except_bind_eq_ok.mp h
        exact ⟨_, _, _, .float raised, .float committed, .num donors, (Except.ok.inj h).symm⟩
      · cases h
    · cases h

section

variable [PyNumbers] [Json.CharTable] {summary aggregate state t : Fields} {asOf : Option String}
  {isoNow today : String}

/-- The source and the claim of the aggregate, as the reconciliation reads them. -/
theorem mapped_read (h : everyOrgToReconcileAggregate summary = .ok aggregate) :
    dictGet aggregate "source" = some (mappedSource summary) ∧
      pyOr (dictGet aggregate "claimLevel") (pyOr (dictGet aggregate "claimLabel") none) =
        summaryClaim summary := by
  obtain ⟨_, -, h⟩ := except_bind_eq_ok.mp h
  obtain ⟨totals, htotals, h⟩ := except_bind_eq_ok.mp h
  obtain ⟨_, -, h⟩ := except_bind_eq_ok.mp h
  obtain rfl := Except.ok.inj h
  obtain ⟨first, second, note, raised, committed, donors, rfl⟩ := mappedTotals_eq htotals
  cases hclaim : summaryClaim summary with
  | none =>
      rw [withClaim, hclaim]
      simp [dictGet, Json.field?, mapped, pyOr]
  | some claim =>
      rw [withClaim, hclaim]
      refine ⟨?_, ?_⟩
      · show (Json.obj (Json.setField _ _ _)).field? _ = _
        rw [Json.field?_setField, if_neg (by decide)]
        simp [Json.field?, mapped]
      · have hlevel : ∀ fields, dictGet (Json.setField fields "claimLevel" claim) "claimLevel" =
            some claim := fun fields => (Json.field?_setField _ _ _ _).trans (if_pos rfl)
        rw [hlevel, pyOr_of_truthy (summaryClaim_truthy hclaim)]

variable [CaseTable]

/-- What a reconciliation labels is what it makes of the aggregate's source and claim. -/
theorem labelledObserved_iff (h : reconciled ⟨aggregate, asOf, isoNow⟩ today state = .ok t) :
    ∃ provenance, resolveRaisedProvenance aggregate = .ok provenance ∧
      (LabelledObserved t ↔ provenance = ("processor_aggregate", "OBSERVED")) := by
  rw [reconciled_eq] at h
  obtain ⟨_, -, h⟩ := except_bind_eq_ok.mp h
  obtain ⟨totals, -, h⟩ := except_bind_eq_ok.mp h
  obtain ⟨w, hof, hcampaign⟩ := Json.edit_field?_of_mem
    (ReconcileCall.edits_nodup _ totals today) List.mem_cons_self h
  obtain ⟨campaign, -, hof⟩ := except_bind_eq_ok.mp hof
  obtain ⟨provenance, hresolve, hof⟩ := except_bind_eq_ok.mp hof
  rw [← Except.ok.inj hof, Option.some_or] at hcampaign
  have hassigned : ∀ {k v},
      (k, v) ∈ ReconcileCall.campaignFields ⟨aggregate, asOf, isoNow⟩ totals provenance →
        (Json.obj (Json.merge campaign (ReconcileCall.campaignFields ⟨aggregate, asOf, isoNow⟩
          totals provenance))).field? k = some v :=
    Json.field?_merge (ReconcileCall.campaignFields_nodup _ totals provenance)
  have hsource := hassigned (k := "raisedSource") (v := .str provenance.1)
    (by simp [ReconcileCall.campaignFields])
  have hlabel := hassigned (k := "raisedClaimLabel") (v := .str provenance.2)
    (by simp [ReconcileCall.campaignFields])
  refine ⟨provenance, hresolve, ?_, ?_⟩
  · rintro ⟨campaign', hthere, hsource', hlabel'⟩
    obtain rfl := Option.some.inj (hthere.symm.trans hcampaign)
    have hfst := Json.str.inj (Option.some.inj (hsource.symm.trans hsource'))
    have hsnd := Json.str.inj (Option.some.inj (hlabel.symm.trans hlabel'))
    exact Prod.ext hfst hsnd
  · rintro rfl
    exact ⟨_, hcampaign, hsource, hlabel⟩

/-- The label is OBSERVED where nothing stands against it. -/
theorem observed_iff (hmapped : everyOrgToReconcileAggregate summary = .ok aggregate)
    (h : reconciled ⟨aggregate, asOf, isoNow⟩ today state = .ok t) :
    LabelledObserved t ↔
      isPilotOrSyntheticSource (mappedSource summary).text = false ∧ ¬ Lowered summary := by
  obtain ⟨hsource, hclaim⟩ := mapped_read hmapped
  obtain ⟨provenance, hresolve, hlabelled⟩ := labelledObserved_iff h
  rw [hlabelled]
  exact resolved_observed_iff hsource mappedSource_truthy (congrArg (·.getD (.str "")) hclaim)
    hresolve

/-- The summary proves the label if it has a source, or there is nothing to prove. -/
theorem observed_is_sourced_iff (summary aggregate state t : Fields) (asOf : Option String)
    (isoNow today : String) (hmapped : everyOrgToReconcileAggregate summary = .ok aggregate)
    (h : reconciled ⟨aggregate, asOf, isoNow⟩ today state = .ok t) :
    (LabelledObserved t → Proven summary) ↔
      Sourced summary ∨ isPilotOrSyntheticSource (mappedSource summary).text = true ∨
        Lowered summary := by
  rw [observed_iff hmapped h]
  constructor
  · intro hproven
    by_cases hpilot : isPilotOrSyntheticSource (mappedSource summary).text = true
    · exact Or.inr (Or.inl hpilot)
    · by_cases hlowered : Lowered summary
      · exact Or.inr (Or.inr hlowered)
      · obtain ⟨source, hthere, hne, -⟩ := hproven ⟨Bool.eq_false_iff.mpr hpilot, hlowered⟩
        exact Or.inl ⟨source, hthere, hne⟩
  · rintro hcondition ⟨hpilot, hlowered⟩
    rcases hcondition with ⟨source, hthere, hne⟩ | hpilot' | hlowered'
    · rw [mappedSource_of_sourced hne hthere] at hpilot
      exact ⟨source, hthere, hne, hpilot⟩
    · exact absurd hpilot' (Bool.eq_false_iff.mp hpilot)
    · exact absurd hlowered' hlowered

end

section Sample

attribute [local instance] PyNumbers.small CaseTable.ascii Json.CharTable.all

/-- Totals, and where they come from if that is known. -/
def EveryOrg.Sample.summary (source : Fields) : Fields :=
  source ++ [("totals", .obj [("raised", .num 100), ("donorCount", .num 2)])]

/-- The mapping and the reconciliation both return. -/
def EveryOrg.Sample.Published (summary aggregate t : Fields) : Prop :=
  everyOrgToReconcileAggregate summary = .ok aggregate ∧
    reconciled ⟨aggregate, none, ""⟩ "2026-08-02" [] = .ok t

open EveryOrg.Sample in
theorem EveryOrg.Sample.published_of_isSome {summary : Fields}
    (h : ((everyOrgToReconcileAggregate summary).bind fun aggregate =>
      reconciled ⟨aggregate, none, ""⟩ "2026-08-02" []).toOption.isSome) :
    ∃ aggregate t, Published summary aggregate t := by
  cases hmapped : everyOrgToReconcileAggregate summary with
  | error exc =>
      rw [hmapped] at h
      exact nomatch h
  | ok aggregate =>
      rw [hmapped] at h
      cases ht : reconciled ⟨aggregate, none, ""⟩ "2026-08-02" [] with
      | error exc =>
          replace h : (reconciled ⟨aggregate, none, ""⟩ "2026-08-02" []).toOption.isSome := h
          rw [ht] at h
          exact nomatch h
      | ok t => exact ⟨aggregate, t, hmapped, ht⟩

open EveryOrg.Sample in
/-- A source of the processor is a proof. -/
theorem sourced_summary_proven :
    ∃ aggregate t, Published (summary [("source", .str "every.org/aggregate:dojo")]) aggregate t ∧
      (LabelledObserved t → Proven (summary [("source", .str "every.org/aggregate:dojo")])) := by
  have hreturns : ∃ aggregate t,
      Published (summary [("source", .str "every.org/aggregate:dojo")]) aggregate t :=
    published_of_isSome (by decide +kernel)
  obtain ⟨aggregate, t, hpublished⟩ := hreturns
  refine ⟨aggregate, t, hpublished, ?_⟩
  exact (observed_is_sourced_iff _ _ _ _ _ _ _ hpublished.1 hpublished.2).mpr
    (Or.inl ⟨_, rfl, by decide⟩)

open EveryOrg.Sample in
/-- A summary without a source is published as an observation. -/
theorem unsourced_summary_observed : ¬ ∀ summary aggregate t, Published summary aggregate t →
    LabelledObserved t → Proven summary := by
  intro hall
  have hreturns : ∃ aggregate t, Published (summary []) aggregate t :=
    published_of_isSome (by decide +kernel)
  obtain ⟨aggregate, t, hpublished⟩ := hreturns
  have hobserved : LabelledObserved t :=
    (observed_iff hpublished.1 hpublished.2).mpr ⟨by decide +kernel, by decide +kernel⟩
  obtain ⟨source, hthere, -⟩ := hall _ _ _ hpublished hobserved
  exact nomatch hthere

end Sample

end ImpactRelay
