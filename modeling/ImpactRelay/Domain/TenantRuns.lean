/-
# `Domain.TenantRuns` — the three services over one tenant

A tenant is written by its ledger, its impact service and its notification service, in any
order.  `Kept` is what every tenant reached keeps (`kept_of_run`).  Three parts of it are the
invariants of one service each, taken over; new here is under which ids receipts are filed.

An identifier is `f"{prefix}_{uuid}"`, and the two services that file receipts draw them
with different prefixes: a receipt of the ledger never has the id of an impact receipt, by
the letter it starts with, whatever digits are drawn.
-/
import ImpactRelay.Domain.DonorExport
import ImpactRelay.Domain.ConsentGate
import ImpactRelay.Domain.ImpactReceipts

namespace ImpactRelay

open Raise

/-! ## Runs of a tenant -/

/-- What a call draws: the digits of its identifiers, and its clock. -/
structure Draw where
  hex : String → Nat → String
  nowIso : String → Nat → String

/-- An identifier is its kind, an underscore and hexadecimal digits. -/
def Draw.host (draw : Draw) : Host where
  newId kind n := kind ++ "_" ++ draw.hex kind n
  nowIso := draw.nowIso

/-- A call of one of the three services of a tenant. -/
inductive TenantAction where
  | ledger (draw : Draw) (op : Op)
  | impact (draw : Draw) (op : ImpactOp)
  | notifications (draw : Draw) (adapters : NotificationChannel → Option DeliveryAdapter)
      (op : TenantWorkspace.NotificationOp)

namespace Tenant

def new (organization : Organization) : Tenant := { ledger := .new organization }

/-- A caller goes on after an exception: the stores are what the call left behind. -/
def step [Digest] (ws : Tenant) : TenantAction → Tenant
  | .ledger draw op => { ws with ledger := ws.ledger.step ⟨draw.host, op⟩ }
  | .impact draw op =>
      { ws with impact := after (ImpactService.exec ws.ledger draw.host op) ws.impact }
  | .notifications draw adapters op =>
      { ws with notifications :=
        TenantWorkspace.step ws.notifications ⟨draw.host, ws.ledger, adapters, op⟩ }

/-- The id a new intent would draw is not in use. -/
def FreshIntent (ws : Tenant) : TenantAction → Prop
  | .notifications draw _ _ => draw.host.newId "nint" 0 ∉ ws.notifications.intents
  | _ => True

instance (ws : Tenant) (a : TenantAction) : Decidable (ws.FreshIntent a) := by
  unfold FreshIntent
  split <;> infer_instance

end Tenant

/-! ## The kind of an identifier -/

/-- The first letter of an identifier, which tells use-of-funds receipts from impact ones. -/
def StartsWith (letter : Char) (id : Id) : Prop := id.toList.head? = some letter

theorem Draw.startsWith {draw : Draw} {kind : String} {letter : Char} {n : Nat}
    (h : StartsWith letter kind) : StartsWith letter (draw.host.newId kind n) := by
  rw [StartsWith, host, String.toList_append, String.toList_append, List.append_assoc,
    List.head?_append, show kind.toList.head? = _ from h]
  rfl

theorem startsWith_unique {a b : Char} {id : Id} (ha : StartsWith a id) (hb : StartsWith b id) :
    a = b :=
  Option.some.inj (ha.symm.trans hb)

namespace Ledger

variable {host : Host} {known : Id → Prop}

/-- The receipts are filed under ids of the kind. -/
def ReceiptIds (known : Id → Prop) (l : Ledger) : Prop := ∀ rid ∈ l.receipts, known rid

theorem ReceiptIds.storeReceipt {l : Ledger} {e : Id} {r : UseOfFundsReceipt}
    (h : ReceiptIds known l) (hr : known r.receiptId) : ReceiptIds known (storeReceipt e r l) := by
  intro rid hrid
  rcases Dict.mem_set.mp hrid with rfl | hrid
  · exact hr
  · exact h rid hrid

section Draws

variable [Digest] (huof : ∀ n, known (host.newId "uof" n)) (huofc : ∀ n, known (host.newId "uofc" n))

include huofc in
theorem receiptIds_publishCorrectionReceipt (i : Nat) (prior : UseOfFundsReceipt)
    (expense : Expense) (actor kind reason : String) (replacementId : Option Id) :
    Preserves (ReceiptIds known)
      (publishCorrectionReceipt host i prior expense actor kind reason replacementId) := by
  intro l hl
  refine after_of_cases (fun r l' h => ?_) fun e l' h => ?_
  · obtain ⟨rfl, log, rfl⟩ := publishCorrectionReceipt_returns h
    exact hl.storeReceipt (e := expense.id) (huofc i)
  · exact absurd h (publishCorrectionReceipt_total _ _ _ _ _ _ _ _ _ _)

include huofc in
theorem receiptIds_supersedeCorrections (expense : Expense) (actor reason : String)
    (replacementId : Id) : ∀ (rids : List Id) (i : Nat), Preserves (ReceiptIds known)
      (supersedeCorrections host expense actor reason replacementId i rids)
  | [], _ => Preserves.pure _
  | _ :: rids, i =>
      Preserves.get.bind fun _ => ((ReadOnly.orRaise _ _).preserves _).bind fun _ =>
        (receiptIds_publishCorrectionReceipt huofc i _ _ _ _ _ _).bind fun _ =>
          (receiptIds_supersedeCorrections expense actor reason replacementId rids (i + 1)).bind
            fun _ => Preserves.pure _

include huofc in
theorem receiptIds_reversalCorrections (expense : Expense) (actor reason : String) :
    ∀ (snaps : List (Id × Json)) (i : Nat), Preserves (ReceiptIds known)
      (reversalCorrections host expense actor reason i snaps)
  | [], _ => Preserves.pure _
  | _ :: snaps, i =>
      Preserves.get.bind fun _ => ((ReadOnly.orRaise _ _).preserves _).bind fun _ =>
        ((checkSnapshot_readOnly _ _).preserves _).bind fun _ =>
          (receiptIds_publishCorrectionReceipt huofc i _ _ _ _ _ _).bind fun _ =>
            (receiptIds_reversalCorrections expense actor reason snaps (i + 1)).bind
              fun _ => Preserves.pure _

omit [Digest] in
/-- A method that leaves the receipts alone. -/
theorem receiptIds_of_untouched {α : Type} {x : LedgerM α} (hx : Atomic x)
    (h : ∀ l a l', Returns x l a l' → l'.receipts = l.receipts) : Preserves (ReceiptIds known) x :=
  hx.preserves fun l a l' hl hret => by
    rw [ReceiptIds, h l a l' hret]
    exact hl

include huofc in
theorem receiptIds_supersedeAfterFlip (organizationId : Id) (priorReceiptIds : List Id)
    (superseded : Expense) (expenseId : Id) (replacement : Expense)
    (splits : List (Id × Decimal.Amount)) (actor reason approvedBy : String) :
    Preserves (ReceiptIds known) (supersedeAfterFlip host organizationId priorReceiptIds superseded
      expenseId replacement splits actor reason approvedBy) := by
  refine (Preserves.raiseIf _ _).bind fun _ => (Preserves.raiseIf _ _).bind fun _ => ?_
  refine Preserves.bind (receiptIds_of_untouched (importExpense_atomic _) ?_) fun _ =>
    Preserves.bind (receiptIds_of_untouched (allocateExpenseSplits_atomic _ _) ?_) fun _ =>
      Preserves.bind (receiptIds_of_untouched (approveExpense_atomic _ _) ?_) fun _ =>
        Preserves.bind ?_ fun _ =>
          (receiptIds_supersedeCorrections huofc _ _ _ _ _ _).bind fun _ => Preserves.pure _
  · intro l r l' h
    obtain ⟨_, _, _, _, _, log, rfl⟩ := importExpense_returns h
    rfl
  · intro l eas l' h
    obtain ⟨_, _, _, _, _, _, _, _, log, rfl⟩ := allocateExpenseSplits_returns h
    simp only [moveToApprovalPending, replaceExpenseAllocations]
    split <;> rfl
  · intro l r l' h
    obtain ⟨_, _, _, _, _, _, _, _, _, log, rfl⟩ := approveExpense_returns h
    rfl
  · exact Preserves.modify fun _ h => h

include huof huofc in
/-- The receipts a call files are under ids that it draws. -/
theorem receiptIds_step {l : Ledger} {op : Op} (hl : ReceiptIds known l) :
    ReceiptIds known (l.step ⟨host, op⟩) := by
  have hpost : corrects op = false → l.step ⟨host, op⟩ = l ∨
      Post False (fun _ p => Posting.of op p) l (l.step ⟨host, op⟩) :=
    fun hc => step_post hc False.elim
  cases op with
  | publishUseOfFundsReceipt expenseId donationId allocationId actor createdAt =>
      rw [step, exec, after_map]
      refine after_of_cases (fun r l' h => ?_) fun e l' h => ?_
      · obtain ⟨hid, _, _, _, _, _, _, _, log, rfl⟩ := publishUseOfFundsReceipt_returns h
        exact hl.storeReceipt (e := expenseId) (hid ▸ huof 0)
      · exact (publishUseOfFundsReceipt_atomic _ _ _ _ _ _ _ _ h).symm ▸ hl
  | reverseExpense expenseId actor reason =>
      rw [step, exec, after_map]
      rcases reverseExpense_run host l expenseId actor reason with
        ⟨_, h⟩ | ⟨expense, snaps, log, _, _, _, _, hrun⟩
      · exact h.after.symm ▸ hl
      · rw [after_congr hrun, after_map]
        exact receiptIds_reversalCorrections huofc _ _ _ _ _ _ hl
  | supersedeExpense expenseId replacement splits actor reason approvedBy =>
      rw [step, exec, after_map]
      rcases supersedeExpense_run host l expenseId replacement splits actor reason approvedBy
        with ⟨_, h⟩ | ⟨old, _, _, hrun⟩
      · exact h.after.symm ▸ hl
      · rw [after_congr hrun]
        exact receiptIds_supersedeAfterFlip huofc _ _ _ _ _ _ _ _ _ _ hl
  | _ =>
      rcases hpost rfl with heq | ⟨p, log, _, hof, heq⟩
      · exact heq.symm ▸ hl
      · rw [heq]
        -- no other call posts a receipt
        cases p with
        | published expenseId receipt => simp [Posting.of] at hof
        | correction expenseId prior receipt => simp [Posting.of] at hof
        | classified expenseId expense eas =>
            rw [Posting.write, moveToApprovalPending]
            split <;> exact hl
        | _ => exact hl

end Draws

/-- Each receipt is filed under its own id. -/
def Filed (l : Ledger) : Prop := ∀ rid r, l.receipts.get? rid = some r → r.receiptId = rid

theorem Filed.write {fresh : Prop} {fit : Ledger → Id → Prop} {l l' : Ledger}
    (h : Write fresh fit l l') (hl : Filed l) : Filed l' := by
  cases h with
  | receipt expenseId receipt hnew =>
      intro rid r hget
      rcases receipt_cases hget with ⟨rfl, rfl⟩ | ⟨_, hget⟩
      · rfl
      · exact hl rid r hget
  | classified expenseId expense eas =>
      rw [moveToApprovalPending]
      split <;> exact hl
  | _ => exact hl

end Ledger

namespace ImpactService

variable {host : Host} {known : Id → Prop}

def ReceiptIds (known : Id → Prop) (s : ImpactStores) : Prop :=
  ∀ ir ∈ s.impactReceipts.rows, known ir.receiptId

section Draws

variable [Digest] (himp : ∀ n, known (host.newId "imp" n))

include himp in
theorem receiptIds_publishOne (l : Ledger) (p : Publication) (actor created : String) (n : Nat)
    (attr : DonorExpenseAttribution) :
    Preserves (ReceiptIds known) (publishOne l host p actor created n attr) := by
  refine ((ReadOnly.orRaise _ _).preserves _).bind fun alloc => Preserves.get.bind fun _ =>
    ((ReadOnly.raiseOn _ _).preserves _).bind fun _ =>
      (Preserves.modify fun s hs => ?_).bind fun _ => Preserves.pure _
  intro ir hir
  rcases Dict.mem_values_set hir with rfl | hir
  · exact himp n
  · exact hs ir hir

include himp in
theorem receiptIds_publishEach (l : Ledger) (p : Publication) (actor created : String) :
    ∀ (attrs : List DonorExpenseAttribution) (seen : List (Id × Id)),
      Preserves (ReceiptIds known) (publishEach l host p actor created seen attrs)
  | [], _ => Preserves.pure _
  | attr :: attrs, seen => by
      rw [publishEach]
      split
      · exact receiptIds_publishEach l p actor created attrs seen
      split
      · exact receiptIds_publishEach l p actor created attrs seen
      split
      · exact receiptIds_publishEach l p actor created attrs seen
      exact (receiptIds_publishOne himp l p actor created seen.length attr).bind fun _ =>
        (receiptIds_publishEach l p actor created attrs (attr.recipient :: seen)).bind fun _ =>
          Preserves.pure _

include himp in
/-- The receipts a publication files are under ids that it draws; no other call files one. -/
theorem receiptIds_exec (l : Ledger) (op : ImpactOp) :
    Preserves (ReceiptIds known) (exec l host op) := by
  intro s hs
  have hwrites : FreshCall host l s op →
      after (exec l host op) s = s ∨ Writes host l s op (after (exec l host op) s) := exec_writes
  cases op with
  | publishImpactReceipts eventId actor createdAt =>
      rw [exec, after_map]
      exact (Preserves.get.bind fun _ => (Preserves.okOrRaise _).bind fun p =>
        receiptIds_publishEach himp l p actor _ _ _) s hs
  | _ =>
      rcases hwrites trivial with hsame | hwrites
      · exact hsame.symm ▸ hs
      · -- another store is written
        generalize after _ s = s' at hwrites
        cases hwrites
        exact hs

end Draws

end ImpactService

/-! ## What reachable tenants keep -/

namespace Tenant

/-- The ledger's books are its own, receipts are filed under their ids, those of the ledger
and those of the impact stores under ids of two kinds, and the notification stores are
coherent. -/
structure Kept (ws : Tenant) : Prop where
  books : ws.ledger.OwnBooks
  positive : ws.ledger.Positive
  filed : ws.ledger.Filed
  receipts : ws.ledger.ReceiptIds (StartsWith 'u')
  impactReceipts : ImpactService.ReceiptIds (StartsWith 'i') ws.impact
  notifications : ws.notifications.Coherent

theorem Kept.new (organization : Organization) : Kept (.new organization) where
  books := .new organization
  positive := .new organization
  filed := fun _ _ h => nomatch h
  receipts := fun _ h => absurd h (Dict.not_mem_empty _)
  impactReceipts := fun _ h => absurd h List.not_mem_nil
  notifications := .empty _

section Runs

variable [Digest] {ws : Tenant} {a : TenantAction}

theorem Kept.step (h : ws.Kept) (hfresh : ws.FreshIntent a) : (ws.step a).Kept := by
  cases a with
  | ledger draw op =>
      refine ⟨Ledger.ownBooks_step h.books, ?_, ?_, ?_, h.impactReceipts, h.notifications⟩
      · exact (Ledger.step_writes False.elim (Ledger.approvalsMeet_true _ _)).preserve
          (fun _ _ => Ledger.Positive.write) h.positive
      · exact (Ledger.step_writes False.elim (Ledger.approvalsMeet_true _ _)).preserve
          (fun _ _ => Ledger.Filed.write) h.filed
      · exact Ledger.receiptIds_step (fun _ => Draw.startsWith rfl) (fun _ => Draw.startsWith rfl)
          h.receipts
  | impact draw op =>
      refine ⟨h.books, h.positive, h.filed, h.receipts, ?_, h.notifications⟩
      exact ImpactService.receiptIds_exec (fun _ => Draw.startsWith rfl) _ op _ h.impactReceipts
  | notifications draw adapters op =>
      exact ⟨h.books, h.positive, h.filed, h.receipts, h.impactReceipts, h.notifications.step hfresh⟩

theorem kept_of_run {organization : Organization} {as : List TenantAction}
    (hfresh : Along step FreshIntent (new organization) as) :
    (run step (new organization) as).Kept :=
  run_invariant (fun _ _ h hok => h.step hok) (.new organization) hfresh

end Runs

end Tenant

end ImpactRelay
