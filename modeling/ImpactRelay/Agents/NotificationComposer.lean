/-
# `Agents.NotificationComposer` — the email preview of a receipt

The part of `agents/notification_composer.py` the send gate reads: a preview
carries the facts it was composed from, and they must still be the receipt's.
-/
import ImpactRelay.Domain.Types

namespace ImpactRelay

/-- Donor-facing email draft derived only from a canonical receipt. -/
structure EmailPreview where
  previewId : Id
  tenantId : Id
  receiptId : Id
  channel : String := "EMAIL"
  subject : String
  bodyText : String
  templateVersion : String := "uof_email_v1"
  receiptHash : String
  contentHash : String
  facts : Dict String String
  createdAt : String := ""
deriving DecidableEq

/-- The facts a template may reword and never change. -/
def receiptFacts (r : UseOfFundsReceipt) : Dict String String :=
  .ofList [
    ("organization_name", r.organizationName),
    ("allocation_name", r.allocationName),
    ("vendor", r.vendor),
    ("gross_amount", Decimal.toStr r.grossAmount),
    ("attributed_amount", Decimal.toStr r.attributedAmount),
    ("currency", r.currency),
    ("purchase_date", r.purchaseDate),
    ("category", r.category),
    ("description", r.description),
    ("attribution_method", r.attributionMethod),
    ("verification_state", r.verificationState),
    ("remaining_designated_balance", Decimal.toStr r.remainingDesignatedBalance),
    ("receipt_hash", r.receiptHash)]

/-- Fail closed if the preview's facts drift from the receipt. -/
def assertPreviewMatchesReceipt (preview : EmailPreview) (r : UseOfFundsReceipt) :
    Except PyExc Unit :=
  if preview.receiptId ≠ r.receiptId then .error ⟨.valueError, "preview receipt_id mismatch"⟩
  else if preview.receiptHash ≠ r.receiptHash then
    .error ⟨.valueError, "preview receipt_hash mismatch — regenerate preview"⟩
  else if preview.facts.sameItems (receiptFacts r) = false then
    .error ⟨.valueError, "preview facts do not match canonical receipt"⟩
  else .ok ()

end ImpactRelay
