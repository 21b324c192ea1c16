/-
# `Domain.Corrections` — one original, and one correction once it is corrected

A reversal or a supersession flips its expense first and then corrects the
expense's receipts one by one, so between the flip and the end of the loop some
originals of a corrected expense have no correction yet.  `LineBut pending` is
the lineage with those allowed for: `pending` are the receipts the loop has not
come to.  The flip opens the list with all receipts of the expense, each pass
closes its head (`LineBut.correct`), and a call that returns ends with nothing
pending, which is the lineage itself.

Everything else a call posts is `Quiet`: it writes no receipt and moves no
expense into or out of the corrected states.  A publication adds an original on
a free triple of an expense that is not corrected.
-/
import ImpactRelay.Domain.AppendOnly

namespace ImpactRelay

open Raise

namespace Ledger

variable {l l' : Ledger}

/-! ## The lineage -/

/-- The correction receipts of a receipt. -/
def correctionsOf (l : Ledger) (receiptId : Id) : List UseOfFundsReceipt :=
  l.receipts.values.filter fun c =>
    c.corrected && decide (c.correctsReceiptId = some receiptId)

def SameTriple (r r' : UseOfFundsReceipt) : Prop :=
  r.donationId = r'.donationId ∧ r.expenditureExpenseId = r'.expenditureExpenseId ∧
    r.allocationId = r'.allocationId

/-- Expenses are stored under their own identifiers. -/
def Keyed (l : Ledger) : Prop := ∀ e x, l.expenses.get? e = some x → x.id = e

/-- The stores are keyed and indexed by their own records, originals have their
triple to themselves, corrections name originals of their triple, and an
original has one correction when its expense is corrected, unless it is pending. -/
structure LineBut (pending : List Id) (l : Ledger) : Prop where
  expenses : Keyed l
  keyed : ∀ rid r, l.receipts.get? rid = some r → r.receiptId = rid
  index : ∀ rid r, l.receipts.get? rid = some r → rid ∈ l.receiptIdsOf r.expenditureExpenseId
  indexed : ∀ e, ∀ rid ∈ l.receiptIdsOf e,
    ∃ r, l.receipts.get? rid = some r ∧ r.expenditureExpenseId = e
  nodup : ∀ e, (l.receiptIdsOf e).Nodup
  originals : ∀ rid rid' r r', l.receipts.get? rid = some r → l.receipts.get? rid' = some r' →
    r.corrected = false → r'.corrected = false → SameTriple r r' → rid = rid'
  lineage : ∀ rid c, l.receipts.get? rid = some c → c.corrected = true →
    ∃ oid o, l.receipts.get? oid = some o ∧ o.corrected = false ∧
      c.correctsReceiptId = some oid ∧ SameTriple c o
  counts : ∀ rid o, l.receipts.get? rid = some o → o.corrected = false →
    (l.correctionsOf rid).length =
      if l.expenseIn correctedExpenseStates o.expenditureExpenseId = true ∧ rid ∉ pending then 1
      else 0

theorem LineBut.new (organization : Organization) : LineBut [] (.new organization) where
  expenses := fun _ _ h => nomatch h
  keyed := fun _ _ h => nomatch h
  index := fun _ _ h => nomatch h
  indexed := fun _ _ h => absurd h List.not_mem_nil
  nodup := fun _ => List.nodup_nil
  originals := fun _ _ _ _ h => nomatch h
  lineage := fun _ _ h => nomatch h
  counts := fun _ _ h => nomatch h

/-- A correction is counted by the receipt it names. -/
theorem mem_correctionsOf {rid cid : Id} {c : UseOfFundsReceipt}
    (hc : l.receipts.get? cid = some c) (hcorr : c.corrected = true)
    (hnames : c.correctsReceiptId = some rid) : c ∈ l.correctionsOf rid := by
  refine List.mem_filter.mpr ⟨Dict.mem_values.mpr ⟨cid, hc⟩, ?_⟩
  rw [hcorr, hnames, Bool.true_and]
  exact decide_eq_true rfl

/-- Nothing corrects a receipt that is not there. -/
theorem LineBut.correctionsOf_eq_nil {pending : List Id} {rid : Id} (h : LineBut pending l)
    (hrid : rid ∉ l.receipts) : l.correctionsOf rid = [] := by
  refine List.filter_eq_nil_iff.mpr fun c hc hp => hrid ?_
  simp only [Bool.and_eq_true, decide_eq_true_eq] at hp
  obtain ⟨cid, hget⟩ := Dict.mem_values.mp hc
  obtain ⟨oid, o, ho, _, hnames, _⟩ := h.lineage cid c hget hp.1
  rw [hp.2] at hnames
  exact Option.some.inj hnames ▸ Dict.mem_of_get? ho

/-- While an expense is not corrected, all its receipts are originals. -/
theorem LineBut.original {pending : List Id} {rid : Id} {r : UseOfFundsReceipt}
    (h : LineBut pending l) (hr : l.receipts.get? rid = some r)
    (hexp : l.expenseIn correctedExpenseStates r.expenditureExpenseId = false) :
    r.corrected = false := by
  cases hcorr : r.corrected with
  | false => rfl
  | true =>
      obtain ⟨oid, o, ho, horig, hnames, _, hsame, _⟩ := h.lineage rid r hr hcorr
      have hcount := h.counts oid o ho horig
      rw [← hsame, hexp, if_neg fun hp => Bool.false_ne_true hp.1] at hcount
      have hmem := mem_correctionsOf hr hcorr hnames
      rw [List.eq_nil_of_length_eq_zero hcount] at hmem
      exact absurd hmem List.not_mem_nil

/-! ## Storing a receipt -/

section Store

variable {pending : List Id} {e : Id} {r : UseOfFundsReceipt}

theorem get?_receipts_storeReceipt (expenseId rid : Id) :
    (storeReceipt expenseId r l).receipts.get? rid =
      if rid = r.receiptId then some r else l.receipts.get? rid :=
  Dict.get?_set _ _ _ _

/-- A new receipt is the one that was there or an old one. -/
theorem receipt_cases {rid : Id} {x : UseOfFundsReceipt}
    (h : (storeReceipt e r l).receipts.get? rid = some x) :
    (rid = r.receiptId ∧ x = r) ∨ (rid ≠ r.receiptId ∧ l.receipts.get? rid = some x) := by
  rw [get?_receipts_storeReceipt] at h
  split at h
  · next heq => exact Or.inl ⟨heq, (Option.some.inj h).symm⟩
  · next hne => exact Or.inr ⟨hne, h⟩

theorem get?_storeReceipt_old (hnew : r.receiptId ∉ l.receipts) {rid : Id}
    {x : UseOfFundsReceipt} (h : l.receipts.get? rid = some x) :
    (storeReceipt e r l).receipts.get? rid = some x :=
  Dict.Kept.set r hnew rid x h

theorem correctionsOf_storeReceipt (hnew : r.receiptId ∉ l.receipts) (rid : Id) :
    (storeReceipt e r l).correctionsOf rid = l.correctionsOf rid ++
      if r.corrected = true ∧ r.correctsReceiptId = some rid then [r] else [] := by
  rw [correctionsOf, storeReceipt, Dict.values_set_of_not_mem hnew, List.filter_append,
    correctionsOf]
  refine congrArg _ ?_
  by_cases hp : r.corrected = true ∧ r.correctsReceiptId = some rid
  · simp [hp]
  · rw [if_neg hp, List.filter_eq_nil_iff]
    intro c hc hc'
    rw [List.mem_singleton.mp hc] at hc'
    simp only [Bool.and_eq_true, decide_eq_true_eq] at hc'
    exact hp hc'

/-- The index keeps up with the store. -/
theorem LineBut.index_storeReceipt (h : LineBut pending l) (hexp : r.expenditureExpenseId = e)
    {rid : Id} {x : UseOfFundsReceipt} (hx : (storeReceipt e r l).receipts.get? rid = some x) :
    rid ∈ (storeReceipt e r l).receiptIdsOf x.expenditureExpenseId := by
  rw [receiptIdsOf_storeReceipt]
  rcases receipt_cases hx with ⟨rfl, rfl⟩ | ⟨_, hx⟩
  · rw [if_pos hexp]
    exact List.mem_append_right _ (List.mem_singleton.mpr rfl)
  · split
    · exact List.mem_append_left _ (h.index rid x hx)
    · exact h.index rid x hx

theorem LineBut.indexed_storeReceipt (h : LineBut pending l) (hnew : r.receiptId ∉ l.receipts)
    (hexp : r.expenditureExpenseId = e) {e' rid : Id}
    (hrid : rid ∈ (storeReceipt e r l).receiptIdsOf e') :
    ∃ x, (storeReceipt e r l).receipts.get? rid = some x ∧ x.expenditureExpenseId = e' := by
  have hold : rid ∈ l.receiptIdsOf e' →
      ∃ x, (storeReceipt e r l).receipts.get? rid = some x ∧ x.expenditureExpenseId = e' := by
    intro hmem
    obtain ⟨x, hx, hexp'⟩ := h.indexed e' rid hmem
    exact ⟨x, get?_storeReceipt_old hnew hx, hexp'⟩
  rw [receiptIdsOf_storeReceipt] at hrid
  split at hrid
  · next heq =>
      rcases List.mem_append.mp hrid with hmem | hmem
      · exact hold hmem
      · refine ⟨r, ?_, hexp.trans heq.symm⟩
        rw [get?_receipts_storeReceipt, if_pos (List.mem_singleton.mp hmem)]
  · exact hold hrid

theorem LineBut.nodup_storeReceipt (h : LineBut pending l) (hnew : r.receiptId ∉ l.receipts)
    (e' : Id) : ((storeReceipt e r l).receiptIdsOf e').Nodup := by
  rw [receiptIdsOf_storeReceipt]
  split
  · refine List.nodup_append.mpr ⟨h.nodup e', List.nodup_singleton _, fun a ha b hb heq => hnew ?_⟩
    obtain ⟨x, hx, _⟩ := h.indexed e' a ha
    rw [← List.mem_singleton.mp hb, ← heq]
    exact Dict.mem_of_get? hx
  · exact h.nodup e'

/-- A publication adds an original on a free triple. -/
theorem LineBut.publish (h : LineBut pending l) (hnew : r.receiptId ∉ l.receipts)
    (hcorr : r.corrected = false) (hexp : r.expenditureExpenseId = e)
    (hstate : l.expenseIn correctedExpenseStates e = false)
    (hlive : l.findLiveReceipt r.donationId e r.allocationId = none) :
    LineBut pending (storeReceipt e r l) where
  expenses := h.expenses
  keyed := fun rid x hx => by
    rcases receipt_cases hx with ⟨rfl, rfl⟩ | ⟨_, hx⟩
    · rfl
    · exact h.keyed rid x hx
  index := fun rid x hx => h.index_storeReceipt hexp hx
  indexed := fun e' rid hrid => h.indexed_storeReceipt hnew hexp hrid
  nodup := fun e' => h.nodup_storeReceipt hnew e'
  originals := fun rid rid' x x' hx hx' hx₀ hx₀' hsame => by
    -- no original is on the triple of the new one
    have hfree : ∀ rid x, l.receipts.get? rid = some x → x.corrected = false →
        ¬ SameTriple x r := by
      rintro rid x hx hx₀ ⟨hd, hee, ha⟩
      have hnone := List.find?_eq_none.mp hlive x (Dict.mem_values.mpr ⟨rid, hx⟩)
      simp [hx₀, hd, hee, hexp, ha] at hnone
    rcases receipt_cases hx with ⟨rfl, rfl⟩ | ⟨_, hold⟩ <;>
      rcases receipt_cases hx' with ⟨rfl, rfl⟩ | ⟨_, hold'⟩
    · rfl
    · exact absurd ⟨hsame.1.symm, hsame.2.1.symm, hsame.2.2.symm⟩ (hfree rid' x' hold' hx₀')
    · exact absurd hsame (hfree rid x hold hx₀)
    · exact h.originals rid rid' x x' hold hold' hx₀ hx₀' hsame
  lineage := fun rid c hc hcc => by
    rcases receipt_cases hc with ⟨rfl, rfl⟩ | ⟨_, hc⟩
    · exact absurd (hcorr.symm.trans hcc) Bool.false_ne_true
    · obtain ⟨oid, o, ho, hrest⟩ := h.lineage rid c hc hcc
      exact ⟨oid, o, get?_storeReceipt_old hnew ho, hrest⟩
  counts := fun rid o ho horig => by
    rw [correctionsOf_storeReceipt hnew, if_neg fun hp => Bool.false_ne_true
      (hcorr.symm.trans hp.1), List.append_nil]
    rcases receipt_cases ho with ⟨rfl, rfl⟩ | ⟨_, ho⟩
    · have hno : (storeReceipt e o l).expenseIn correctedExpenseStates o.expenditureExpenseId =
          false := hexp ▸ hstate
      rw [h.correctionsOf_eq_nil hnew, hno, if_neg fun hp => Bool.false_ne_true hp.1]
      rfl
    · exact h.counts rid o ho horig

/-! ## The correction loops -/

/-- What a correction loop may rely on: the expense is corrected, and what is
still to do are originals of it, each once. -/
structure Open (e : Id) (pending : List Id) (l : Ledger) : Prop where
  nodup : pending.Nodup
  corrected : l.expenseIn correctedExpenseStates e = true
  originals : ∀ rid ∈ pending, ∃ o, l.receipts.get? rid = some o ∧ o.corrected = false ∧
    o.expenditureExpenseId = e

/-- One pass of a loop: the head of the pending receipts gets its correction. -/
theorem LineBut.correct {rid : Id} {rest : List Id} {prior : UseOfFundsReceipt}
    (h : LineBut (rid :: rest) l) (hopen : Open e (rid :: rest) l)
    (hprior : l.receipts.get? rid = some prior) (hnew : r.receiptId ∉ l.receipts)
    (hcorr : r.corrected = true) (hnames : r.correctsReceiptId = some prior.receiptId)
    (hexp : r.expenditureExpenseId = e) (hdon : r.donationId = prior.donationId)
    (hall : r.allocationId = prior.allocationId) :
    LineBut rest (storeReceipt e r l) ∧ Open e rest (storeReceipt e r l) := by
  obtain ⟨o', ho', horig', hexp'⟩ := hopen.originals rid List.mem_cons_self
  obtain rfl : prior = o' := Option.some.inj (hprior.symm.trans ho')
  have hkey : prior.receiptId = rid := h.keyed rid prior hprior
  obtain ⟨hnotin, hnodup⟩ := List.nodup_cons.mp hopen.nodup
  refine ⟨⟨h.expenses, ?_, fun _ _ hx => h.index_storeReceipt hexp hx,
    fun _ _ hrid => h.indexed_storeReceipt hnew hexp hrid, fun e' => h.nodup_storeReceipt hnew e',
    ?_, ?_, ?_⟩, hnodup, hopen.corrected, ?_⟩
  · intro rid' x hx
    rcases receipt_cases hx with ⟨rfl, rfl⟩ | ⟨_, hx⟩
    · rfl
    · exact h.keyed rid' x hx
  · intro rid₁ rid₂ x x' hx hx' hx₀ hx₀' hsame
    rcases receipt_cases hx with ⟨rfl, rfl⟩ | ⟨_, hx⟩
    · exact absurd (hx₀.symm.trans hcorr) Bool.false_ne_true
    rcases receipt_cases hx' with ⟨rfl, rfl⟩ | ⟨_, hx'⟩
    · exact absurd (hx₀'.symm.trans hcorr) Bool.false_ne_true
    exact h.originals rid₁ rid₂ x x' hx hx' hx₀ hx₀' hsame
  · intro cid c hc hcc
    rcases receipt_cases hc with ⟨rfl, rfl⟩ | ⟨_, hc⟩
    · exact ⟨rid, prior, get?_storeReceipt_old hnew hprior, horig', hkey ▸ hnames, hdon,
        hexp.trans hexp'.symm, hall⟩
    · obtain ⟨oid, o, ho, hrest⟩ := h.lineage cid c hc hcc
      exact ⟨oid, o, get?_storeReceipt_old hnew ho, hrest⟩
  · intro oid o ho horig
    rcases receipt_cases ho with ⟨rfl, rfl⟩ | ⟨_, ho⟩
    · exact absurd (horig.symm.trans hcorr) Bool.false_ne_true
    have hcount := h.counts oid o ho horig
    rw [correctionsOf_storeReceipt hnew, List.length_append, hcount, hnames, hkey]
    by_cases heq : oid = rid
    · -- the receipt that was at the head
      subst heq
      obtain rfl : prior = o := Option.some.inj (hprior.symm.trans ho)
      have hin : (storeReceipt e r l).expenseIn correctedExpenseStates
          prior.expenditureExpenseId = true := hexp' ▸ hopen.corrected
      rw [if_neg fun hp => hp.2 List.mem_cons_self, if_pos ⟨hcorr, rfl⟩, if_pos ⟨hin, hnotin⟩]
      rfl
    · rw [if_neg fun hp : r.corrected = true ∧ some rid = some oid =>
        heq (Option.some.inj hp.2).symm, List.length_nil, Nat.add_zero]
      refine if_congr (and_congr_right fun _ => not_congr ?_) rfl rfl
      exact ⟨fun hm => (List.mem_cons.mp hm).resolve_left heq, List.mem_cons_of_mem _⟩
  · intro oid hoid
    obtain ⟨o, ho, hrest⟩ := hopen.originals oid (List.mem_cons_of_mem _ hoid)
    exact ⟨o, get?_storeReceipt_old hnew ho, hrest⟩

end Store

/-! ## Quiet postings and the flip -/

/-- A posting that writes no receipt and corrects no expense. -/
def Quiet : Posting → Prop
  | .corrected _ _ _ _ => False
  | .published _ _ => False
  | .correction _ _ _ => False
  | _ => True

variable {pending : List Id} {e : Id}

/-- The receipts are the same, and no expense has become corrected or stopped being so. -/
structure SameReceipts (l l' : Ledger) : Prop where
  receipts : l'.receipts = l.receipts
  index : l'.expenseReceipts = l.expenseReceipts
  states : ∀ e, l'.expenseIn correctedExpenseStates e = l.expenseIn correctedExpenseStates e

theorem LineBut.congr (h : LineBut pending l) (hsame : SameReceipts l l') (hkeyed : Keyed l') :
    LineBut pending l' := by
  have hids : ∀ e, l'.receiptIdsOf e = l.receiptIdsOf e := fun e => by
    rw [receiptIdsOf, receiptIdsOf, hsame.index]
  have hcorr : ∀ rid, l'.correctionsOf rid = l.correctionsOf rid := fun rid => by
    rw [correctionsOf, correctionsOf, hsame.receipts]
  refine ⟨hkeyed, ?_, ?_, ?_, ?_, ?_, ?_, ?_⟩
  · exact hsame.receipts ▸ h.keyed
  · intro rid r
    rw [hsame.receipts, hids]
    exact h.index rid r
  · intro e rid
    rw [hsame.receipts, hids]
    exact h.indexed e rid
  · intro e
    rw [hids]
    exact h.nodup e
  · exact hsame.receipts ▸ h.originals
  · exact hsame.receipts ▸ h.lineage
  · intro rid o
    rw [hsame.receipts, hcorr, hsame.states]
    exact h.counts rid o

theorem Open.congr (h : Open e pending l) (hsame : SameReceipts l l') : Open e pending l' := by
  refine ⟨h.nodup, ?_, ?_⟩
  · rw [hsame.states]
    exact h.corrected
  · rw [hsame.receipts]
    exact h.originals

theorem sameReceipts_logged (l : Ledger) (log : List AuditReceipt) :
    SameReceipts l { l with auditLog := log } :=
  ⟨rfl, rfl, fun _ => rfl⟩

theorem LineBut.logged (h : LineBut pending l) (log : List AuditReceipt) :
    LineBut pending { l with auditLog := log } :=
  h.congr (sameReceipts_logged l log) h.expenses

theorem Open.logged (h : Open e pending l) (log : List AuditReceipt) :
    Open e pending { l with auditLog := log } :=
  h.congr (sameReceipts_logged l log)

/-- Writing an expense under its own identifier. -/
theorem Keyed.putExpense (h : Keyed l) {expense : Expense} (hid : expense.id = e) :
    Keyed (l.putExpense e expense) := by
  intro e' x hx
  rw [Dict.get?_set] at hx
  split at hx
  · next heq => exact (Option.some.inj hx) ▸ hid.trans heq.symm
  · exact h e' x hx

theorem sameReceipts_putExpense {expense : Expense}
    (hstate : l.expenseIn correctedExpenseStates e =
      decide (expense.state ∈ correctedExpenseStates)) :
    SameReceipts l (l.putExpense e expense) := by
  refine ⟨rfl, rfl, fun e' => ?_⟩
  rw [expenseIn_putExpense]
  split
  · next heq => rw [heq, hstate]
  · rfl

/-- A quiet posting touches neither the receipts nor what is corrected. -/
theorem quiet_write {p : Posting} {fresh : Prop} (hk : Keyed l) (hp : Quiet p)
    (hguard : p.guard fresh l) : SameReceipts l (p.write l) ∧ Keyed (p.write l) := by
  cases p with
  | imported expense =>
      obtain ⟨hnew, _, hstate, _⟩ := hguard
      refine ⟨sameReceipts_putExpense ?_, hk.putExpense rfl⟩
      rw [expenseIn_false_of_not_mem hnew, eq_comm, decide_eq_false_iff_not]
      rcases hstate with hs | hs <;> simp [hs]
  | classified expenseId expense eas =>
      obtain ⟨hexp, hc, _⟩ := hguard
      rw [Posting.write, moveToApprovalPending]
      split
      · have hsame : SameReceipts (replaceExpenseAllocations expenseId eas l)
            ((replaceExpenseAllocations expenseId eas l).putExpense expenseId
              (withExpenseState expense .approvalPending)) := by
          refine sameReceipts_putExpense ?_
          rw [expenseIn_of_get? (l := replaceExpenseAllocations expenseId eas l) hexp,
            decide_eq_false hc]
          rfl
        exact ⟨⟨hsame.receipts, hsame.index, hsame.states⟩,
          Keyed.putExpense (l := replaceExpenseAllocations expenseId eas l) hk
            (hk expenseId expense hexp)⟩
      · exact ⟨⟨rfl, rfl, fun _ => rfl⟩, hk⟩
  | approved expenseId expense approvedBy =>
      obtain ⟨hexp, hc, _⟩ := hguard
      refine ⟨sameReceipts_putExpense ?_, hk.putExpense (hk expenseId expense hexp)⟩
      rw [expenseIn_of_get? hexp, decide_eq_false hc]
      rfl
  | reconciled expenseId expense at_ =>
      obtain ⟨hexp, hs⟩ := hguard
      refine ⟨sameReceipts_putExpense ?_, hk.putExpense (hk expenseId expense hexp)⟩
      rw [expenseIn_of_get? hexp, hs]
      rfl
  | corrected _ _ _ _ => exact hp.elim
  | published _ _ => exact hp.elim
  | correction _ _ _ => exact hp.elim
  | _ => exact ⟨⟨rfl, rfl, fun _ => rfl⟩, hk⟩

/-- Quiet postings leave the lineage, and an open loop, as they were. -/
theorem LineBut.quiet (h : LineBut pending l) {fresh : Prop}
    (hpost : Post fresh (fun _ p => Quiet p) l l') : LineBut pending l' ∧ SameReceipts l l' := by
  obtain ⟨p, log, hguard, hp, rfl⟩ := hpost
  obtain ⟨hsame, hkeyed⟩ := quiet_write h.expenses hp hguard
  have hlogged : SameReceipts l { p.write l with auditLog := log } :=
    ⟨hsame.receipts, hsame.index, hsame.states⟩
  exact ⟨h.congr hlogged hkeyed, hlogged⟩

theorem not_corrected_of_verified {e : Id} (h : l.expenseIn verifiedExpenseStates e = true) :
    l.expenseIn correctedExpenseStates e = false := by
  unfold expenseIn at h ⊢
  cases hget : l.expenses.get? e with
  | none => rfl
  | some expense =>
      rw [hget] at h
      rcases mem_verifiedExpenseStates.mp (of_decide_eq_true h) with hs | hs <;> simp [hs]

/-- The flip opens the loop: every receipt of the expense is pending. -/
theorem LineBut.flip (h : LineBut [] l) {expense : Expense} {state : ExpenseState}
    (reason : String) (hexp : l.expenses.get? e = some expense)
    (hv : expense.state ∈ verifiedExpenseStates) (hstate : state ∈ correctedExpenseStates) :
    LineBut (l.receiptIdsOf e) (l.putExpense e (correctedExpense expense state reason)) ∧
      Open e (l.receiptIdsOf e) (l.putExpense e (correctedExpense expense state reason)) := by
  have hnot : l.expenseIn correctedExpenseStates e = false := by
    refine not_corrected_of_verified ?_
    rw [expenseIn_of_get? hexp, decide_eq_true hv]
  have hin : ∀ e', (l.putExpense e (correctedExpense expense state reason)).expenseIn
      correctedExpenseStates e' = if e' = e then true else l.expenseIn correctedExpenseStates e' := by
    intro e'
    rw [expenseIn_putExpense]
    refine if_congr Iff.rfl ?_ rfl
    exact decide_eq_true hstate
  refine ⟨⟨fun e' x hx => ?_, h.keyed, h.index, h.indexed, h.nodup, h.originals, h.lineage,
    fun rid o ho horig => ?_⟩, h.nodup e, ?_, fun rid hrid => ?_⟩
  · rw [Dict.get?_set] at hx
    split at hx
    · next heq =>
        obtain rfl := Option.some.inj hx
        exact (h.expenses e expense hexp).trans heq.symm
    · exact h.expenses e' x hx
  · have hcount := h.counts rid o ho horig
    have hold : (l.putExpense e (correctedExpense expense state reason)).correctionsOf rid =
        l.correctionsOf rid := rfl
    rw [hold, hcount, hin]
    by_cases heq : o.expenditureExpenseId = e
    · have hmem : rid ∈ l.receiptIdsOf e := heq ▸ h.index rid o ho
      rw [heq, hnot, if_neg fun hp => Bool.false_ne_true hp.1, if_neg fun hp => hp.2 hmem]
    · have hmem : rid ∉ l.receiptIdsOf e := by
        intro hm
        obtain ⟨x, hx, hxe⟩ := h.indexed e rid hm
        obtain rfl := Option.some.inj (ho.symm.trans hx)
        exact heq hxe
      rw [if_neg heq]
      refine if_congr (and_congr_right fun _ => ?_) rfl rfl
      exact iff_of_true List.not_mem_nil hmem
  · rw [hin, if_pos rfl]
  · obtain ⟨o, ho, hoe⟩ := h.indexed e rid hrid
    exact ⟨o, ho, h.original ho (hoe ▸ hnot), hoe⟩

/-! ## Calls that return -/

section Calls

variable [Digest] {host : Host}

theorem LineBut.publishCorrection {i n : Nat} {rid : Id} {rest : List Id}
    {prior r : UseOfFundsReceipt} {expense : Expense} {actor kind reason : String}
    {replacementId : Option Id} (h : LineBut (rid :: rest) l)
    (hopen : Open expense.id (rid :: rest) l) (hprior : l.receipts.get? rid = some prior)
    (hfresh : FreshFrom host i (n + 1) l.receipts)
    (hpub : Returns (publishCorrectionReceipt host i prior expense actor kind reason replacementId)
      l r l') :
    LineBut rest l' ∧ Open expense.id rest l' ∧ FreshFrom host (i + 1) n l'.receipts := by
  have hnext := hfresh.publish hpub
  obtain ⟨rfl, log, rfl⟩ := publishCorrectionReceipt_returns hpub
  have hnew := hfresh.1 i (Nat.le_refl i) (by omega)
  obtain ⟨hl, ho⟩ := h.correct
    (r := correctionReceipt host l i prior expense actor kind reason replacementId)
    hopen hprior hnew rfl rfl rfl rfl rfl
  exact ⟨hl.logged log, ho.logged log, hnext⟩

theorem reversalCorrections_line {expense : Expense} {actor reason : String}
    {snaps : List (Id × Json)} {i : Nat} {rs : List UseOfFundsReceipt}
    (h : LineBut (snaps.map Prod.fst) l) (hopen : Open expense.id (snaps.map Prod.fst) l)
    (hfresh : FreshFrom host i snaps.length l.receipts)
    (hret : Returns (reversalCorrections host expense actor reason i snaps) l rs l') :
    LineBut [] l' := by
  induction snaps generalizing i l rs with
  | nil =>
      obtain ⟨_, rfl⟩ := returns_pure.mp hret
      exact h
  | cons entry snaps ih =>
      obtain ⟨rid, snap⟩ := entry
      rw [reversalCorrections, returns_get_bind, returns_orRaise_bind] at hret
      obtain ⟨prior, hprior, hret⟩ := hret
      obtain ⟨_, l₀, hcheck, hret⟩ := returns_bind.mp hret
      rw [(checkSnapshot_readOnly _ _).returns hcheck] at hret
      obtain ⟨c, l₁, hpub, hret⟩ := returns_bind.mp hret
      obtain ⟨cs, l₂, hrest, hret⟩ := returns_bind.mp hret
      obtain ⟨_, rfl⟩ := returns_pure.mp hret
      obtain ⟨hl, ho, hf⟩ := h.publishCorrection hopen hprior hfresh hpub
      exact ih hl ho hf hrest

theorem supersedeCorrections_line {expense : Expense} {actor reason : String}
    {replacementId : Id} {rids : List Id} {i : Nat} {rs : List UseOfFundsReceipt}
    (h : LineBut rids l) (hopen : Open expense.id rids l)
    (hfresh : FreshFrom host i rids.length l.receipts)
    (hret : Returns (supersedeCorrections host expense actor reason replacementId i rids) l rs
      l') : LineBut [] l' := by
  induction rids generalizing i l rs with
  | nil =>
      obtain ⟨_, rfl⟩ := returns_pure.mp hret
      exact h
  | cons rid rids ih =>
      rw [supersedeCorrections, returns_get_bind, returns_orRaise_bind] at hret
      obtain ⟨prior, hprior, hret⟩ := hret
      obtain ⟨c, l₁, hpub, hret⟩ := returns_bind.mp hret
      obtain ⟨cs, l₂, hrest, hret⟩ := returns_bind.mp hret
      obtain ⟨_, rfl⟩ := returns_pure.mp hret
      obtain ⟨hl, ho, hf⟩ := h.publishCorrection hopen hprior hfresh hpub
      exact ih hl ho hf hrest

theorem reverseExpense_line {expenseId : Id} {actor reason : String}
    {r : Expense × List UseOfFundsReceipt} (h : LineBut [] l)
    (hfresh : FreshDraws host "uofc" (l.receiptIdsOf expenseId).length l.receipts)
    (hret : Returns (reverseExpense host expenseId actor reason) l r l') : LineBut [] l' := by
  rcases reverseExpense_run host l expenseId actor reason with
    ⟨_, e, hraises⟩ | ⟨expense, snaps, log, hexp, hv, hids, _, hrun⟩
  · exact absurd hraises hret.not_raises
  · obtain ⟨hl, ho⟩ := h.flip reason hexp hv
      (show ExpenseState.reversed ∈ correctedExpenseStates by simp)
    have hret' : Returns ((fun corrections => (correctedExpense expense .reversed reason,
        corrections)) <$> reversalCorrections host (correctedExpense expense .reversed reason)
        actor reason 0 snaps) { l.putExpense expenseId (correctedExpense expense .reversed reason)
          with auditLog := log } r l' := hrun.symm.trans hret
    obtain ⟨rs, hloop, _⟩ := returns_map.mp hret'
    have hid : (correctedExpense expense .reversed reason).id = expenseId :=
      h.expenses expenseId expense hexp
    rw [← hids] at hl ho hfresh
    rw [List.length_map] at hfresh
    exact reversalCorrections_line (hl.logged log) (hid.symm ▸ ho.logged log) hfresh.freshFrom hloop

theorem supersedeExpense_line {expenseId : Id} {replacement : Expense}
    {splits : List (Id × Decimal.Amount)} {actor reason approvedBy : String}
    {r : Expense × Expense × List UseOfFundsReceipt} (h : LineBut [] l)
    (hfresh : FreshDraws host "uofc" (l.receiptIdsOf expenseId).length l.receipts)
    (hret : Returns (supersedeExpense host expenseId replacement splits actor reason approvedBy) l r
      l') : LineBut [] l' := by
  rcases supersedeExpense_run host l expenseId replacement splits actor reason approvedBy with
    ⟨_, e, hraises⟩ | ⟨old, hold, hv, hrun⟩
  · exact absurd hraises hret.not_raises
  · obtain ⟨hl, ho⟩ := h.flip reason hold hv
      (show ExpenseState.superseded ∈ correctedExpenseStates by simp)
    have hid : (correctedExpense old .superseded reason).id = expenseId :=
      h.expenses expenseId old hold
    have hret' := hrun.symm.trans hret
    rw [supersedeAfterFlip] at hret'
    obtain ⟨_, hret'⟩ := returns_raiseIf_bind.mp hret'
    obtain ⟨_, hret'⟩ := returns_raiseIf_bind.mp hret'
    obtain ⟨_, l₁, himp, hret'⟩ := returns_bind.mp hret'
    obtain ⟨eas, l₂, hsplit, hret'⟩ := returns_bind.mp hret'
    obtain ⟨approved, l₃, happrove, hret'⟩ := returns_bind.mp hret'
    rw [returns_audit_bind] at hret'
    obtain ⟨cs, l₄, hloop, hret'⟩ := returns_bind.mp hret'
    obtain ⟨_, rfl⟩ := returns_pure.mp hret'
    -- up to the loop the new expense is all that is touched
    have hpost₁ : Post False (fun _ p => Quiet p) _ l₁ := importExpense_post trivial himp
    obtain ⟨hl₁, hs₁⟩ := hl.quiet hpost₁
    have hpost₂ : Post False (fun _ p => Quiet p) l₁ l₂ :=
      allocateExpenseSplits_post (fun _ => trivial) False.elim hsplit
    obtain ⟨hl₂, hs₂⟩ := hl₁.quiet hpost₂
    have hpost₃ : Post False (fun _ p => Quiet p) l₂ l₃ :=
      approveExpense_post (fun _ => trivial) happrove
    obtain ⟨hl₃, hs₃⟩ := hl₂.quiet hpost₃
    have ho₃ := ((ho.congr hs₁).congr hs₂).congr hs₃
    have hreceipts : l₃.receipts = l.receipts :=
      (hs₃.receipts.trans hs₂.receipts).trans hs₁.receipts
    refine supersedeCorrections_line (hl₃.logged _) (hid.symm ▸ ho₃.logged _) ?_ hloop
    exact hreceipts ▸ hfresh.freshFrom

/-! ## Whole runs -/

/-- The call returns. -/
def ReturnsNormally (l : Ledger) (c : Call) : Prop := raised (exec c.host c.op) l = false

instance (l : Ledger) (c : Call) : Decidable (ReturnsNormally l c) :=
  inferInstanceAs (Decidable (_ = false))

theorem ReturnsNormally.returns {c : Call} (h : ReturnsNormally l c) :
    Returns (exec c.host c.op) l () (step l c) := by
  obtain ⟨_, l', hret⟩ := accepts_of_raised_eq_false h
  rw [step, hret.after]
  exact hret

theorem lineBut_step {c : Call} (h : LineBut [] l) (hfresh : FreshIds l c)
    (hreturns : ReturnsNormally l c) : LineBut [] (step l c) := by
  cases hc : corrects c.op with
  | false =>
      have hpost : step l c = l ∨ Post False (fun _ p => Posting.of c.op p) l (step l c) :=
        step_post hc False.elim
      rcases hpost with heq | ⟨p, log, hguard, hof, heq⟩
      · exact heq.symm ▸ h
      · rw [heq]
        cases p with
        | published expenseId receipt =>
            obtain ⟨hnew, hcorr, hexp, hstate, hlive, _⟩ := hguard
            exact (h.publish hnew hcorr hexp (not_corrected_of_verified hstate) hlive).logged log
        | correction expenseId prior receipt =>
            obtain ⟨callHost, op⟩ := c
            cases op <;> simp [Posting.of, corrects] at hof hc
        | corrected expenseId expense state reason =>
            obtain ⟨callHost, op⟩ := c
            cases op <;> simp [Posting.of, corrects] at hof hc
        | _ => exact (h.quiet ⟨_, log, hguard, trivial, rfl⟩).1
  | true =>
      obtain ⟨callHost, op⟩ := c
      have hret := hreturns.returns
      cases op with
      | reverseExpense expenseId actor reason =>
          obtain ⟨r, hret, _⟩ := returns_map.mp hret
          exact reverseExpense_line h hfresh hret
      | supersedeExpense expenseId replacement splits actor reason approvedBy =>
          obtain ⟨r, hret, _⟩ := returns_map.mp hret
          exact supersedeExpense_line h hfresh.2.2 hret
      | _ => cases hc

/-- One original for a triple; one correction of it when its expense is reversed
or superseded, and none otherwise; and nothing is a correction of anything else. -/
structure ReceiptLineage (l : Ledger) : Prop where
  originals : ∀ o ∈ l.receipts.values, ∀ o' ∈ l.receipts.values, o.corrected = false →
    o'.corrected = false → SameTriple o o' → o = o'
  corrected_once : ∀ o ∈ l.receipts.values, o.corrected = false →
    (l.correctionsOf o.receiptId).length =
      if l.expenseIn correctedExpenseStates o.expenditureExpenseId = true then 1 else 0
  corrections : ∀ c ∈ l.receipts.values, c.corrected = true → ∃ o ∈ l.receipts.values,
    o.corrected = false ∧ c.correctsReceiptId = some o.receiptId ∧ SameTriple c o

omit [Digest] in
/-- With nothing pending the invariant is the lineage. -/
theorem LineBut.receiptLineage (h : LineBut [] l) : ReceiptLineage l where
  originals := fun o ho o' ho' horig horig' hsame => by
    obtain ⟨rid, hget⟩ := Dict.mem_values.mp ho
    obtain ⟨rid', hget'⟩ := Dict.mem_values.mp ho'
    obtain rfl := h.originals rid rid' o o' hget hget' horig horig' hsame
    exact Option.some.inj (hget.symm.trans hget')
  corrected_once := fun o ho horig => by
    obtain ⟨rid, hget⟩ := Dict.mem_values.mp ho
    rw [h.keyed rid o hget, h.counts rid o hget horig]
    exact if_congr (and_iff_left List.not_mem_nil) rfl rfl
  corrections := fun c hc hcorr => by
    obtain ⟨cid, hget⟩ := Dict.mem_values.mp hc
    obtain ⟨oid, o, ho, horig, hnames, hsame⟩ := h.lineage cid c hget hcorr
    exact ⟨o, Dict.mem_values.mpr ⟨oid, ho⟩, horig, (h.keyed oid o ho).symm ▸ hnames, hsame⟩

/-- Every ledger reached by calls that all return, with fresh record
identifiers, has its receipts' lineage. -/
theorem receipt_lineage {organization : Organization} {calls : List Call}
    (hfresh : Along step FreshIds (.new organization) calls)
    (hreturns : Along step ReturnsNormally (.new organization) calls) :
    ReceiptLineage (run step (.new organization) calls) := by
  have h : LineBut [] (run step (.new organization) calls) :=
    run_invariant (fun _ _ h hc => lineBut_step h hc.1 hc.2) (.new organization) (hfresh.and hreturns)
  exact h.receiptLineage

end Calls

section Sample

attribute [local instance] Digest.plain

/-- A supersession of the published expense by one of the same amount. -/
def Sample.supersessionCall : Call where
  host := .numbered 9
  op := .supersedeExpense "expense" (Sample.expense "replacement" 5000)
    [("fund", .finite 50 0)] "human:finance" "wrong vendor" "human:finance"

theorem supersededRun_lineage :
    ReceiptLineage (run step (.new Sample.organization)
      (Sample.publishedRun ++ [Sample.supersessionCall])) :=
  receipt_lineage (by decide) (by decide)

end Sample

end Ledger

end ImpactRelay
