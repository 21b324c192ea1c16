/-
# `Agents.Privacy` — the sentinel on public documents

`public_export.receipt_to_public` and the gate of `agents/privacy.py` that its
result has to pass: no banned key at any depth, no residue marker in the text
of the document, and the required privacy flags where the document has any.
-/
import ImpactRelay.Domain.Types
import ImpactRelay.Lib.Text

namespace ImpactRelay

/-- Keys that must never appear in a public export. -/
def publicBannedKeys : List String := [
  "donor_id", "donorId", "donor_ids", "donor_name", "donorName", "display_name", "displayName",
  "email", "emails", "phone", "phones", "address", "addresses", "donation_reference",
  "donationReference", "attendee_names", "attendeeNames", "approved_by", "approvedBy",
  "operator_email", "operatorEmail", "ssn", "tax_id", "taxId"]

/-- Markers of personal residue. -/
def publicBannedSubstrings : List String :=
  ["donor_alice", "Alice Patron", "finance.operator", "@hackersdojo.example"]

mutual

/-- The banned keys of a value with the paths they stand at. -/
def walkKeys (path : String) : Json → List (String × String)
  | .obj fields => walkFields path fields
  | .arr items => walkItems path 0 items
  | _ => []

def walkFields (path : String) : List (String × Json) → List (String × String)
  | [] => []
  | (key, value) :: fields =>
      (if key ∈ publicBannedKeys then [(path ++ "." ++ key, key)] else []) ++
        walkKeys (path ++ "." ++ key) value ++ walkFields path fields

def walkItems (path : String) (i : Nat) : List Json → List (String × String)
  | [] => []
  | value :: items =>
      walkKeys (path ++ "[" ++ toString i ++ "]") value ++ walkItems path (i + 1) items

end

/-- What is wrong with the document's privacy section; a section that is no
mapping has no `get`. -/
def privacyReasons (payload : Json) : Except PyExc (List String) :=
  match payload.field? "privacy" with
  | none => .ok []
  | some privacy =>
      if ¬ privacy.truthy then .ok []
      else
        match privacy with
        | .obj _ => .ok (
            (if (privacy.field? "classification").bind Json.str? ≠ some "public_aggregate_only" then
              ["privacy.classification must be public_aggregate_only"] else []) ++
            (["piiAllowed", "donorNamesAllowed"].filter fun flag =>
              match privacy.field? flag with
              | some (.bool false) => false
              | _ => true).map fun flag => "privacy." ++ flag ++ " must be false")
        | _ => .error ⟨.attributeError, "object has no attribute 'get'"⟩

section Sentinel

variable [Json.CharTable]

/-- The reasons to refuse a public document; none when it is accepted. -/
def scanPublicPayload (payload : Json) : Except PyExc (List String) :=
  match privacyReasons payload with
  | .error e => .error e
  | .ok flags => .ok (
      (walkKeys "$" payload).map (fun hit =>
        "banned key " ++ Json.reprStr hit.2 ++ " at " ++ hit.1) ++
      (publicBannedSubstrings.filter fun marker => Text.hasSubstring marker payload.pyRepr).map
        (fun marker => "banned residue marker " ++ Json.reprStr marker) ++
      flags)

def assertPublicSafe (payload : Json) : Except PyExc Unit :=
  match scanPublicPayload payload with
  | .error e => .error e
  | .ok [] => .ok ()
  | .ok reasons => .error ⟨.privacySentinelError, String.intercalate "; " reasons⟩

end Sentinel

/-- Project a receipt into a public-safe document. -/
def receiptToPublic (r : UseOfFundsReceipt) : Json :=
  .obj [
    ("receiptId", .str ("pub_" ++ Text.take 12 r.receiptHash)),
    ("organizationName", .str r.organizationName),
    ("allocationName", .str r.allocationName),
    ("restrictionType", .str r.restrictionType),
    ("category", .str r.category),
    ("description", .str r.description),
    ("vendor", .str r.vendor),
    ("currency", .str r.currency),
    ("grossAmount", .str (Decimal.toStr r.grossAmount)),
    ("attributedAmount", .str (Decimal.toStr r.attributedAmount)),
    ("purchaseDate", .str r.purchaseDate),
    ("verificationState", .str r.verificationState),
    ("attributionMethod", .str r.attributionMethod),
    ("remainingDesignatedBalance", .str (Decimal.toStr r.remainingDesignatedBalance)),
    ("evidenceSummary", Json.ofOption r.evidenceSummary),
    ("receiptHash", .str r.receiptHash),
    ("createdAt", .str r.createdAt),
    ("corrected", .bool r.corrected),
    ("correctionKind", Json.ofOption r.correctionKind)]

/-- The projection has no banned key and no privacy section: only a residue
marker in one of its texts can stop it. -/
theorem walkKeys_receiptToPublic (r : UseOfFundsReceipt) : walkKeys "$" (receiptToPublic r) = [] := by
  have hofOption : ∀ (path : String) (o : Option String), walkKeys path (Json.ofOption o) = [] := by
    intro path o
    cases o <;> rfl
  simp [receiptToPublic, walkKeys, walkFields, hofOption, publicBannedKeys]

/-- No residue marker stands in the text of the public document. -/
def NoResidue [Json.CharTable] (r : UseOfFundsReceipt) : Prop :=
  ∀ marker ∈ publicBannedSubstrings, Text.hasSubstring marker (receiptToPublic r).pyRepr = false

instance [Json.CharTable] (r : UseOfFundsReceipt) : Decidable (NoResidue r) :=
  inferInstanceAs (Decidable (∀ marker ∈ publicBannedSubstrings, _))

theorem assertPublicSafe_receiptToPublic [Json.CharTable] (r : UseOfFundsReceipt) :
    assertPublicSafe (receiptToPublic r) = .ok () ↔ NoResidue r := by
  have hflags : privacyReasons (receiptToPublic r) = .ok [] := rfl
  rw [assertPublicSafe, scanPublicPayload, hflags, walkKeys_receiptToPublic]
  simp only [List.map_nil, List.nil_append, List.append_nil]
  constructor
  · intro h marker hmem
    cases hres : (publicBannedSubstrings.filter fun marker =>
        Text.hasSubstring marker (receiptToPublic r).pyRepr) with
    | nil => exact Bool.not_eq_true _ |>.mp (List.filter_eq_nil_iff.mp hres marker hmem)
    | cons m ms => rw [hres] at h; exact nomatch h
  · intro h
    have hnil : (publicBannedSubstrings.filter fun marker =>
        Text.hasSubstring marker (receiptToPublic r).pyRepr) = [] :=
      List.filter_eq_nil_iff.mpr fun m hm => by rw [h m hm]; exact Bool.false_ne_true
    rw [hnil]
    rfl

end ImpactRelay
