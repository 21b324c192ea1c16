/-
# `Domain.AppendOnly` — receipts, snapshots and the audit trail only grow

Two arguments, one for each kind of store.

  * The audit trail is written by `audit` alone, which appends; so what a call
    starts from is a prefix of what it leaves, wherever it stops.  The proof
    follows each method (`…_logged`).
  * Receipts, snapshots and the index of an expense are written together by
    `storeReceipt`, under a new identifier: publication checks that it is new,
    a correction relies on the draw.  Every other posting leaves the three
    alone, so the proof is a case analysis on `Posting`.

That a snapshot is its receipt's dictionary (`Mirrored`) needs no fresh draw:
`storeReceipt` writes both under one identifier.
-/
import ImpactRelay.Domain.Atomicity

namespace ImpactRelay

open Raise

namespace Ledger

variable {l l' l₀ l₁ l₂ : Ledger} {host : Host}

/-! ## What stays -/

/-- Receipts, snapshots and each expense's receipt list, as far as they were written. -/
structure ReceiptsKept (l l' : Ledger) : Prop where
  receipts : Dict.Kept l.receipts l'.receipts
  snapshots : Dict.Kept l.receiptSnapshots l'.receiptSnapshots
  index : ∀ expenseId, l.receiptIdsOf expenseId <+: l'.receiptIdsOf expenseId

theorem ReceiptsKept.refl (l : Ledger) : ReceiptsKept l l :=
  ⟨.refl _, .refl _, fun _ => List.prefix_rfl⟩

theorem ReceiptsKept.trans (h : ReceiptsKept l₀ l₁) (h' : ReceiptsKept l₁ l₂) :
    ReceiptsKept l₀ l₂ :=
  ⟨h.receipts.trans h'.receipts, h.snapshots.trans h'.snapshots,
    fun expenseId => (h.index expenseId).trans (h'.index expenseId)⟩

/-- The snapshots are the dictionaries of the stored receipts, one for each. -/
def Mirrored (l : Ledger) : Prop :=
  ∀ rid, l.receiptSnapshots.get? rid = (l.receipts.get? rid).map UseOfFundsReceipt.toDict

theorem Mirrored.storeReceipt (h : Mirrored l) (expenseId : Id) (r : UseOfFundsReceipt) :
    Mirrored (storeReceipt expenseId r l) := by
  intro rid
  rw [Ledger.storeReceipt, Dict.get?_set, Dict.get?_set]
  by_cases heq : rid = r.receiptId
  · rw [if_pos heq, if_pos heq, Option.map_some]
  · rw [if_neg heq, if_neg heq]
    exact h rid

theorem Mirrored.not_mem (h : Mirrored l) {rid : Id} (hrid : rid ∉ l.receipts) :
    rid ∉ l.receiptSnapshots := by
  rw [← Dict.get?_eq_none] at hrid ⊢
  rw [h rid, hrid, Option.map_none]

theorem receiptIdsOf_storeReceipt (expenseId e : Id) (r : UseOfFundsReceipt) :
    (storeReceipt expenseId r l).receiptIdsOf e =
      if e = expenseId then l.receiptIdsOf e ++ [r.receiptId] else l.receiptIdsOf e := by
  rw [receiptIdsOf, storeReceipt, indexReceipt, Dict.get?_set]
  by_cases heq : e = expenseId
  · rw [if_pos heq, if_pos heq, heq]
    rfl
  · rw [if_neg heq, if_neg heq]
    rfl

/-- A receipt stored under a new identifier leaves the others as they were. -/
theorem ReceiptsKept.storeReceipt (h : Mirrored l) (expenseId : Id) {r : UseOfFundsReceipt}
    (hnew : r.receiptId ∉ l.receipts) : ReceiptsKept l (storeReceipt expenseId r l) where
  receipts := .set _ hnew
  snapshots := .set _ (h.not_mem hnew)
  index := fun e => by
    rw [receiptIdsOf_storeReceipt]
    split
    · exact List.prefix_append _ _
    · exact List.prefix_rfl

/-! ## Postings -/

/-- The posting stores a receipt under a new identifier, or none. -/
def StoresNew (l : Ledger) : Posting → Prop
  | .published _ receipt => receipt.receiptId ∉ l.receipts
  | .correction _ _ receipt => receipt.receiptId ∉ l.receipts
  | _ => True

theorem Mirrored.posting (h : Mirrored l) (p : Posting) (log : List AuditReceipt) :
    Mirrored { p.write l with auditLog := log } := by
  cases p with
  | published expenseId receipt => exact h.storeReceipt expenseId receipt
  | correction expenseId prior receipt => exact h.storeReceipt expenseId receipt
  | classified expenseId expense eas =>
      rw [Posting.write, moveToApprovalPending]
      split <;> exact h
  | _ => exact h

theorem ReceiptsKept.posting (h : Mirrored l) {p : Posting} (hp : StoresNew l p)
    (log : List AuditReceipt) : ReceiptsKept l { p.write l with auditLog := log } := by
  have hsame : ∀ {m : Ledger}, m.receipts = l.receipts →
      m.receiptSnapshots = l.receiptSnapshots → m.expenseReceipts = l.expenseReceipts →
      ReceiptsKept l m := by
    intro m hr hs hi
    refine ⟨hr ▸ .refl _, hs ▸ .refl _, fun e => ?_⟩
    have hids : m.receiptIdsOf e = l.receiptIdsOf e :=
      congrArg (fun d : Dict Id (List Id) => (d.get? e).getD []) hi
    exact hids.symm ▸ List.prefix_rfl
  have hlog : ∀ m : Ledger, ReceiptsKept m { m with auditLog := log } :=
    fun m => ⟨.refl _, .refl _, fun _ => List.prefix_rfl⟩
  cases p with
  | published expenseId receipt =>
      exact (ReceiptsKept.storeReceipt h expenseId hp).trans (hlog _)
  | correction expenseId prior receipt =>
      exact (ReceiptsKept.storeReceipt h expenseId hp).trans (hlog _)
  | classified expenseId expense eas =>
      rw [Posting.write, moveToApprovalPending]
      split <;> exact hsame rfl rfl rfl
  | _ => exact hsame rfl rfl rfl

/-- With fresh draws every posting is under a new identifier. -/
theorem storesNew_of_guard {p : Posting} (h : p.guard True l) : StoresNew l p := by
  cases p with
  | published expenseId receipt => exact h.1
  | correction expenseId prior receipt => exact h.1 trivial
  | _ => trivial

theorem Posts.kept {ok : Ledger → Posting → Prop} (h : Posts True ok l l') (hl : Mirrored l) :
    ReceiptsKept l l' := by
  have hboth : Mirrored l' ∧ ReceiptsKept l l' := by
    induction h with
    | refl => exact ⟨hl, .refl l⟩
    | tail _ hpost ih =>
        obtain ⟨p, log, hguard, _, rfl⟩ := hpost
        obtain ⟨hm, hk⟩ := ih
        exact ⟨hm.posting p log, hk.trans (.posting hm (storesNew_of_guard hguard) log)⟩
  exact hboth.2

theorem Mirrored.write {fresh : Prop} {fit : Ledger → Id → Prop} (hw : Write fresh fit l l')
    (h : Mirrored l) : Mirrored l' := by
  cases hw with
  | receipt expenseId receipt _ => exact h.storeReceipt expenseId receipt
  | classified expenseId expense eas _ _ _ _ _ =>
      rw [moveToApprovalPending]
      split <;> exact h
  | _ => exact h

/-! ## The audit trail -/

/-- The audit trail starts with `log`. -/
abbrev Logged (log : List AuditReceipt) (l : Ledger) : Prop := log <+: l.auditLog

section Calls

variable [Digest] (log : List AuditReceipt)

theorem audit_logged (eventType entityType entityId actor : String) (payload : Json) :
    Preserves (Logged log) (audit host eventType entityType entityId actor payload) :=
  .modify fun _ h => h.trans (List.prefix_append _ _)

/-- How most methods end: a write that is no audit entry, the audit entry, the result. -/
theorem write_audit_logged {α : Type} {write : Ledger → Ledger} (a : α)
    (eventType entityType entityId actor : String) (payload : Json)
    (hwrite : ∀ l, (write l).auditLog = l.auditLog) :
    Preserves (Logged log) (do
      modify write
      audit host eventType entityType entityId actor payload
      return a) :=
  .bind (.modify fun l (h : log <+: l.auditLog) =>
    show log <+: (write l).auditLog from (hwrite l).symm ▸ h) fun _ => .bind (audit_logged log _ _ _ _ _)
    fun _ => .pure a

theorem classify_logged {α : Type} (a : α) (expenseId : Id) (expense : Expense)
    (eas : List ExpenseAllocation) (eventType entityType entityId actor : String) (payload : Json) :
    Preserves (Logged log) (do
      modify (replaceExpenseAllocations expenseId eas)
      modify (moveToApprovalPending expenseId expense)
      audit host eventType entityType entityId actor payload
      return a) := by
  refine .bind (.modify fun _ h => h) fun _ => write_audit_logged log a _ _ _ _ _ fun l => ?_
  rw [moveToApprovalPending]
  split <;> rfl

theorem importExpense_logged (expense : Expense) :
    Preserves (Logged log) (importExpense host expense) :=
  .bind .get fun _ => .bind (.raiseIf _ _) fun _ => .bind (.raiseIf _ _) fun _ =>
    .bind (.raiseIf _ _) fun _ => .bind (.raiseIf _ _) fun _ =>
    write_audit_logged log _ _ _ _ _ _ fun _ => rfl

theorem allocateExpenseSplits_logged (expenseId : Id) (splits : List (Id × Decimal.Amount)) :
    Preserves (Logged log) (allocateExpenseSplits host expenseId splits) :=
  .bind ((requireExpense_readOnly _).preserves _) fun _ =>
    .bind ((raiseIfFrozen_readOnly _).preserves _) fun _ => .bind .get fun _ =>
    .bind (.okOrRaise _) fun _ => .bind (.raiseIf _ _) fun _ => classify_logged log _ _ _ _ _ _ _ _ _

theorem approveExpense_logged (expenseId : Id) (approvedBy : String) :
    Preserves (Logged log) (approveExpense host expenseId approvedBy) :=
  .bind ((requireExpense_readOnly _).preserves _) fun _ => .bind (.raiseIf _ _) fun _ =>
    .bind (.raiseIf _ _) fun _ => .bind (.raiseIf _ _) fun _ => .bind .get fun _ =>
    .bind (.raiseIf _ _) fun _ => .bind (.raiseIf _ _) fun _ =>
    .bind ((checkFundBalances_readOnly _).preserves _) fun _ => .bind (.raiseIf _ _) fun _ =>
    write_audit_logged log _ _ _ _ _ _ fun _ => rfl

theorem publishCorrectionReceipt_logged (i : Nat) (prior : UseOfFundsReceipt) (expense : Expense)
    (actor kind reason : String) (replacementId : Option Id) : Preserves (Logged log)
      (publishCorrectionReceipt host i prior expense actor kind reason replacementId) :=
  .bind .get fun _ => write_audit_logged log _ _ _ _ _ _ fun _ => rfl

theorem reversalCorrections_logged (expense : Expense) (actor reason : String)
    (snaps : List (Id × Json)) (i : Nat) :
    Preserves (Logged log) (reversalCorrections host expense actor reason i snaps) := by
  induction snaps generalizing i with
  | nil => exact .pure _
  | cons entry snaps ih =>
      exact .bind .get fun _ => .bind ((ReadOnly.orRaise _ _).preserves _) fun _ =>
        .bind ((checkSnapshot_readOnly _ _).preserves _) fun _ =>
        .bind (publishCorrectionReceipt_logged log _ _ _ _ _ _ _) fun _ =>
        .bind (ih (i + 1)) fun _ => .pure _

theorem supersedeCorrections_logged (expense : Expense) (actor reason : String)
    (replacementId : Id) (rids : List Id) (i : Nat) : Preserves (Logged log)
      (supersedeCorrections host expense actor reason replacementId i rids) := by
  induction rids generalizing i with
  | nil => exact .pure _
  | cons rid rids ih =>
      exact .bind .get fun _ => .bind ((ReadOnly.orRaise _ _).preserves _) fun _ =>
        .bind (publishCorrectionReceipt_logged log _ _ _ _ _ _ _) fun _ =>
        .bind (ih (i + 1)) fun _ => .pure _

/-- Every call leaves the audit trail it found as a prefix of its own, however it ends. -/
theorem exec_logged (op : Op) : Preserves (Logged log) (exec host op) := by
  cases op with
  | registerDonor donor =>
      exact .map _ (.bind .get fun _ => .bind (.raiseIf _ _) fun _ =>
        write_audit_logged log _ _ _ _ _ _ fun _ => rfl)
  | importDonation donation =>
      exact .map _ (.bind .get fun _ => .bind (.raiseIf _ _) fun _ => .bind (.raiseIf _ _) fun _ =>
        .bind (.raiseIf _ _) fun _ => .bind (.raiseIf _ _) fun _ =>
        write_audit_logged log _ _ _ _ _ _ fun _ => rfl)
  | registerAllocation allocation =>
      exact .map _ (.bind .get fun _ => .bind (.raiseIf _ _) fun _ =>
        write_audit_logged log _ _ _ _ _ _ fun _ => rfl)
  | assignDonationAllocation donationId allocationId amount daId =>
      exact .map _ (.bind ((requireDonation_readOnly _).preserves _) fun _ => .bind .get fun _ =>
        .bind (.raiseIf _ _) fun _ => .bind (.raiseIf _ _) fun _ => .bind (.okOrRaise _) fun _ =>
        .bind (.raiseIf _ _) fun _ => .bind (.raiseIf _ _) fun _ =>
        write_audit_logged log _ _ _ _ _ _ fun _ => rfl)
  | importExpense expense => exact .map _ (importExpense_logged log expense)
  | attachEvidence evidence =>
      exact .map _ (.bind .get fun _ => .bind (.raiseIf _ _) fun _ =>
        write_audit_logged log _ _ _ _ _ _ fun _ => rfl)
  | allocateExpense expenseId allocationId amount eaId =>
      exact .map _ (.bind ((requireExpense_readOnly _).preserves _) fun _ =>
        .bind ((raiseIfFrozen_readOnly _).preserves _) fun _ => .bind .get fun _ =>
        .bind (.raiseIf _ _) fun _ => .bind (.okOrRaise _) fun _ => .bind (.raiseIf _ _) fun _ =>
        .bind ((allocationRemainingBalance_readOnly _).preserves _) fun _ =>
        classify_logged log _ _ _ _ _ _ _ _ _)
  | allocateExpenseSplits expenseId splits =>
      exact .map _ (allocateExpenseSplits_logged log expenseId splits)
  | approveExpense expenseId approvedBy => exact .map _ (approveExpense_logged log _ _)
  | reconcileExpense expenseId actor =>
      exact .map _ (.bind ((requireExpense_readOnly _).preserves _) fun _ =>
        .bind (.raiseIf _ _) fun _ => write_audit_logged log _ _ _ _ _ _ fun _ => rfl)
  | attributeDonorToExpense donorId donationId expenseId allocationId method amount attrId =>
      exact .map _ (.bind (.raiseIf _ _) fun _ => .bind .get fun _ => .bind (.raiseIf _ _) fun _ =>
        .bind ((requireDonation_readOnly _).preserves _) fun _ =>
        .bind ((requireExpense_readOnly _).preserves _) fun _ => .bind (.raiseIf _ _) fun _ =>
        .bind (.raiseIf _ _) fun _ => .bind (.raiseIf _ _) fun _ => .bind (.raiseIf _ _) fun _ =>
        .bind (.okOrRaise _) fun _ => .bind (.raiseIf _ _) fun _ => .bind (.raiseIf _ _) fun _ =>
        .bind (.raiseIf _ _) fun _ => .bind (.raiseIf _ _) fun _ =>
        write_audit_logged log _ _ _ _ _ _ fun _ => rfl)
  | publishUseOfFundsReceipt expenseId donationId allocationId actor createdAt =>
      exact .map _ (.bind ((requireExpense_readOnly _).preserves _) fun _ =>
        .bind (.raiseIf _ _) fun _ => .bind ((requireDonation_readOnly _).preserves _) fun _ =>
        .bind ((requireAllocation_readOnly _).preserves _) fun _ => .bind .get fun _ =>
        .bind ((ReadOnly.orRaise _ _).preserves _) fun _ => .bind (.raiseIf _ _) fun _ =>
        .bind ((ReadOnly.raiseOn _ _).preserves _) fun _ =>
        .bind ((allocationRemainingBalance_readOnly _).preserves _) fun _ =>
        .bind (.raiseIf _ _) fun _ => .bind (.raiseIf _ _) fun _ =>
        write_audit_logged log _ _ _ _ _ _ fun _ => rfl)
  | getReceipt receiptId => exact .map _ ((getReceipt_readOnly _).preserves _)
  | getReceiptSnapshot receiptId => exact .map _ ((getReceiptSnapshot_readOnly _).preserves _)
  | reverseExpense expenseId actor reason =>
      exact .map _ (.bind ((requireExpense_readOnly _).preserves _) fun _ =>
        .bind (.raiseIf _ _) fun _ => .bind .get fun _ =>
        .bind ((priorSnapshots_readOnly _).preserves _) fun _ => .bind (.modify fun _ h => h)
        fun _ => .bind (audit_logged log _ _ _ _ _) fun _ =>
        .bind (reversalCorrections_logged log _ _ _ _ _) fun _ => .pure _)
  | supersedeExpense expenseId replacement splits actor reason approvedBy =>
      exact .map _ (.bind ((requireExpense_readOnly _).preserves _) fun _ =>
        .bind (.raiseIf _ _) fun _ => .bind .get fun _ => .bind (.modify fun _ h => h) fun _ =>
        .bind (.raiseIf _ _) fun _ => .bind (.raiseIf _ _) fun _ =>
        .bind (importExpense_logged log _) fun _ =>
        .bind (allocateExpenseSplits_logged log _ _) fun _ =>
        .bind (approveExpense_logged log _ _) fun _ => .bind (audit_logged log _ _ _ _ _) fun _ =>
        .bind (supersedeCorrections_logged log _ _ _ _ _ _) fun _ => .pure _)
  | mutateReceipt receiptId => exact .throw _
  | mutateApprovedExpense expenseId => exact (mutateApprovedExpense_readOnly _).preserves _
  | allocationRemainingBalance allocationId =>
      exact .map _ ((allocationRemainingBalance_readOnly _).preserves _)
  | donorRemainingOnAllocation donationId allocationId => exact .pure _

/-! ## Every call on every reachable ledger -/

/-- Only a correction relies on the draws being fresh. -/
theorem step_receiptsKept {c : Call} (hl : Mirrored l) (hdraws : DrawsFresh l c) :
    ReceiptsKept l (step l c) := by
  cases hc : corrects c.op with
  | false =>
      have hpost : step l c = l ∨ Post False (fun _ p => Posting.of c.op p) l (step l c) :=
        step_post hc False.elim
      rcases hpost with heq | ⟨p, posted, hguard, hof, heq⟩
      · exact heq.symm ▸ .refl l
      · rw [heq]
        refine .posting hl ?_ posted
        cases p with
        | published expenseId receipt => exact hguard.1
        | correction expenseId prior receipt =>
            obtain ⟨callHost, op⟩ := c
            cases op <;> simp [Posting.of, corrects] at hof hc
        | _ => trivial
  | true =>
      obtain ⟨callHost, op⟩ := c
      cases op with
      | reverseExpense expenseId actor reason =>
          have hposts : Posts True (fun _ _ => True) l
              (after (reverseExpense callHost expenseId actor reason) l) :=
            reverseExpense_posts (fun _ _ _ => trivial) fun _ => hdraws
          rw [step, exec, after_map]
          exact hposts.kept hl
      | supersedeExpense expenseId replacement splits actor reason approvedBy =>
          have hposts : Posts True (fun _ _ => True) l (after (supersedeExpense callHost expenseId
              replacement splits actor reason approvedBy) l) :=
            supersedeExpense_posts (fun _ _ _ _ => trivial) (fun _ => hdraws.1)
              (fun _ => hdraws.2) fun _ _ _ _ => trivial
          rw [step, exec, after_map]
          exact hposts.kept hl
      | _ => cases hc

theorem mirrored_run (organization : Organization) (calls : List Call) :
    Mirrored (run step (.new organization) calls) :=
  run_preserve_any (fun _ _ hw h => h.write hw) fun _ => rfl

/-- What an append-only ledger is, from one state to the next. -/
structure AppendOnly (l l' : Ledger) : Prop where
  receipts : Dict.Kept l.receipts l'.receipts
  snapshots : Dict.Kept l.receiptSnapshots l'.receiptSnapshots
  index : ∀ expenseId, l.receiptIdsOf expenseId <+: l'.receiptIdsOf expenseId
  audit : l.auditLog <+: l'.auditLog
  mirrored : Mirrored l'

/-- From every reachable ledger, a call whose draws are fresh, returning or
raising, keeps every receipt and every snapshot, extends each expense's receipt
list and the audit trail, and leaves snapshots that are the dictionaries of the
stored receipts. -/
theorem receipts_append_only {organization : Organization} {calls : List Call} {c : Call}
    (hdraws : DrawsFresh (run step (.new organization) calls) c) :
    AppendOnly (run step (.new organization) calls)
      (step (run step (.new organization) calls) c) := by
  have hmirrored := mirrored_run organization calls
  have hkept := step_receiptsKept hmirrored hdraws
  refine ⟨hkept.receipts, hkept.snapshots, hkept.index, ?_, ?_⟩
  · exact exec_logged _ c.op _ List.prefix_rfl
  · have hnext := mirrored_run organization (calls ++ [c])
    rw [run_append] at hnext
    exact hnext

end Calls

section Sample

attribute [local instance] Digest.plain

/-- The gift's share of an approved expense, attributed and published. -/
def Sample.publishedRun : List Call := script (Sample.gift ++ [
  .importExpense (Sample.expense "expense" 5000),
  .allocateExpense "expense" "fund" (.finite 50 0) none,
  .approveExpense "expense" "human:finance",
  .attributeDonorToExpense "donor" "gift" "expense" "fund" .directRestricted none none,
  .publishUseOfFundsReceipt "expense" "gift" "fund" "system" none])

/-- The correction draws one identifier, and it is new. -/
theorem publishedRun_append_only :
    AppendOnly (run step (.new Sample.organization) Sample.publishedRun)
      (step (run step (.new Sample.organization) Sample.publishedRun) Sample.reversalCall) :=
  receipts_append_only (by decide)

end Sample

end Ledger

end ImpactRelay
