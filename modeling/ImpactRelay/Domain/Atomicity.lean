/-
# `Domain.Atomicity` — which calls leave nothing behind when they raise

Every method of the ledger checks before it writes, but for the two
corrections.  A reversal writes first and then walks the receipts of the
expense; in a ledger that the methods have built this walk cannot raise, since
every indexed receipt is stored beside its own snapshot (`Lineage`).  A
supersession flips the old record and then looks at the replacement for the
first time; when the replacement is refused, the flip stays.  So the exact
condition for a call to be atomic is that it is no supersession of a verified
expense whose replacement is refused (`raise_keeps_entities_iff`), and
`ReplacementAccepted` says when that is, in terms of the ledger before the call.
-/
import ImpactRelay.Domain.Acceptance

namespace ImpactRelay

open Raise

namespace Ledger

variable {l l' : Ledger} {host : Host}

/-- Every store but the audit trail. -/
def entities (l : Ledger) : Ledger := { l with auditLog := [] }

/-! ## Receipt lineage -/

/-- Every receipt in the index of an expense is stored with its snapshot. -/
def Lineage (l : Ledger) : Prop :=
  ∀ expenseId, ∀ rid ∈ l.receiptIdsOf expenseId,
    ∃ r, l.receipts.get? rid = some r ∧ l.receiptSnapshots.get? rid = some r.toDict

theorem mem_receiptIdsOf_storeReceipt {expenseId e rid : Id} {r : UseOfFundsReceipt}
    (h : rid ∈ (storeReceipt expenseId r l).receiptIdsOf e) :
    rid = r.receiptId ∨ rid ∈ l.receiptIdsOf e := by
  rw [receiptIdsOf, storeReceipt, indexReceipt, Dict.get?_set] at h
  split at h
  · next heq =>
      rw [Option.getD_some, List.mem_append, List.mem_singleton] at h
      exact h.symm.imp_right fun hmem => heq ▸ hmem
  · exact Or.inr h

theorem Lineage.storeReceipt {expenseId : Id} {r : UseOfFundsReceipt} (h : Lineage l) :
    Lineage (storeReceipt expenseId r l) := by
  intro e rid hrid
  by_cases heq : rid = r.receiptId
  · exact ⟨r, by rw [heq]; exact Dict.get?_set_self _ _ _,
      by rw [heq]; exact Dict.get?_set_self _ _ _⟩
  · rcases mem_receiptIdsOf_storeReceipt hrid with hid | hrid
    · exact absurd hid heq
    · obtain ⟨r', hr, hsnap⟩ := h e rid hrid
      exact ⟨r', (Dict.get?_set_ne heq).trans hr, (Dict.get?_set_ne heq).trans hsnap⟩

theorem Lineage.write {fresh : Prop} {fit : Ledger → Id → Prop} (hw : Write fresh fit l l')
    (h : Lineage l) : Lineage l' := by
  cases hw with
  | receipt expenseId receipt _ => exact h.storeReceipt
  | classified expenseId expense eas _ _ _ _ _ =>
      unfold moveToApprovalPending
      split <;> exact h
  | _ => exact h

/-- A corrected expense stays corrected. -/
theorem corrected_write {fresh : Prop} {fit : Ledger → Id → Prop} {e : Id}
    (hw : Write fresh fit l l') (h : l.expenseIn correctedExpenseStates e = true) :
    l'.expenseIn correctedExpenseStates e = true := by
  have hput : ∀ (expenseId : Id) (expense updated : Expense),
      l.expenses.get? expenseId = some expense →
      (expense.state ∈ correctedExpenseStates → updated.state ∈ correctedExpenseStates) →
      (l.putExpense expenseId updated).expenseIn correctedExpenseStates e = true := by
    intro expenseId expense updated hexp hstate
    rw [expenseIn_putExpense]
    split
    · next heq =>
        rw [heq, expenseIn_of_get? hexp] at h
        exact decide_eq_true (hstate (of_decide_eq_true h))
    · exact h
  cases hw with
  | imported expense hnew _ _ =>
      rw [expenseIn_putExpense]
      split
      · next heq => exact absurd (heq ▸ h) (by rw [expenseIn_false_of_not_mem hnew]; simp)
      · exact h
  | classified expenseId expense eas hexp hc _ _ _ =>
      unfold moveToApprovalPending
      split
      · exact hput expenseId expense _ hexp fun hcorr => absurd hcorr hc
      · exact h
  | approved expenseId expense approvedBy hexp hc _ _ _ _ _ _ =>
      exact hput expenseId expense _ hexp fun hcorr => absurd hcorr hc
  | reconciled expenseId expense at_ hexp hs =>
      exact hput expenseId expense _ hexp fun hcorr => by simp [hs] at hcorr
  | corrected expenseId expense state reason hexp _ hstate =>
      exact hput expenseId expense _ hexp fun _ => hstate
  | _ => exact h

/-! ## The correction loops -/

/-- The snapshot is of this receipt, with its hash. -/
def SnapshotMatches (snap : Json) (prior : UseOfFundsReceipt) : Prop :=
  (snap.field? "receipt_id").bind Json.str? = some prior.receiptId ∧
    ((snap.field? "provenance").bind (Json.field? · "receipt_hash")).bind Json.str? =
      some prior.receiptHash

instance (snap : Json) (prior : UseOfFundsReceipt) : Decidable (SnapshotMatches snap prior) :=
  inferInstanceAs (Decidable (_ ∧ _))

theorem snapshotMatches_toDict (r : UseOfFundsReceipt) : SnapshotMatches r.toDict r := by
  simp [SnapshotMatches, Json.str?, UseOfFundsReceipt.toDict_receipt_id,
    UseOfFundsReceipt.toDict_provenance, UseOfFundsReceipt.provenance_receipt_hash]

theorem checkSnapshot_accepts_iff {snap : Json} {prior : UseOfFundsReceipt} :
    Accepts (checkSnapshot snap prior) l ↔ SnapshotMatches snap prior := by
  simp only [Accepts, checkSnapshot, SnapshotMatches, returns_orRaise_bind, returns_raiseIf_bind,
    returns_raiseIf, not_not, Option.bind_eq_some_iff]
  constructor
  · rintro ⟨_, _, snapId, hid, hids, provenance, hprov, hash, hhash, heq, _⟩
    exact ⟨⟨snapId, hid, hids⟩, hash, ⟨provenance, hprov, hhash⟩, heq⟩
  · rintro ⟨⟨snapId, hid, hids⟩, hash, ⟨provenance, hprov, hhash⟩, heq⟩
    exact ⟨(), l, snapId, hid, hids, provenance, hprov, hash, hhash, heq, rfl⟩

/-- None of the next `n` corrections is drawn under one of these identifiers. -/
def DrawsAvoid (host : Host) (i n : Nat) (rids : List Id) : Prop :=
  ∀ rid ∈ rids, ∀ j < n, host.newId "uofc" (i + j) ≠ rid

instance (host : Host) (i n : Nat) (rids : List Id) : Decidable (DrawsAvoid host i n rids) :=
  inferInstanceAs (Decidable (∀ rid ∈ rids, _))

theorem DrawsAvoid.tail {i n : Nat} {rid : Id} {rids : List Id}
    (h : DrawsAvoid host i (n + 1) (rid :: rids)) : DrawsAvoid host (i + 1) n rids := by
  intro r hr j hj
  have hne := h r (List.mem_cons_of_mem _ hr) (j + 1) (by omega)
  rwa [show i + (j + 1) = i + 1 + j by omega] at hne

section Corrections

variable [Digest]

theorem publishCorrectionReceipt_accepts (host : Host) (i : Nat) (prior : UseOfFundsReceipt)
    (expense : Expense)
    (actor kind reason : String) (replacementId : Option Id) (l : Ledger) :
    ∃ r l', Returns (publishCorrectionReceipt host i prior expense actor kind reason replacementId)
      l r l' := by
  rcases returns_or_raises (publishCorrectionReceipt host i prior expense actor kind reason
    replacementId) l with h | ⟨e, l', h⟩
  · exact h
  · exact absurd h (publishCorrectionReceipt_total _ _ _ _ _ _ _ _ _ _)

theorem get?_receipts_publishCorrectionReceipt {i n : Nat} {prior r : UseOfFundsReceipt}
    {expense : Expense} {actor kind reason : String} {replacementId : Option Id} {rid : Id}
    {rids : List Id} (havoid : DrawsAvoid host i (n + 1) rids) (hrid : rid ∈ rids)
    (h : Returns (publishCorrectionReceipt host i prior expense actor kind reason replacementId)
      l r l') : l'.receipts.get? rid = l.receipts.get? rid := by
  obtain ⟨rfl, log, rfl⟩ := publishCorrectionReceipt_returns h
  exact Dict.get?_set_ne fun heq => havoid rid hrid 0 (by omega) heq.symm

/-- The loop of a reversal goes through when every prior receipt is stored and
matches its snapshot. -/
theorem reversalCorrections_accepts_iff (expense : Expense) (actor reason : String)
    {snaps : List (Id × Json)} {i : Nat}
    (havoid : DrawsAvoid host i snaps.length (snaps.map Prod.fst)) :
    Accepts (reversalCorrections host expense actor reason i snaps) l ↔
      ∀ p ∈ snaps, OnSome (l.receipts.get? p.1) (SnapshotMatches p.2) := by
  induction snaps generalizing i l with
  | nil => exact iff_of_true (accepts_pure _) fun p hp => absurd hp List.not_mem_nil
  | cons entry snaps ih =>
      obtain ⟨rid, snap⟩ := entry
      have hrest : ∀ {prior r : UseOfFundsReceipt} {l₁ : Ledger},
          Returns (publishCorrectionReceipt host i prior expense actor "REVERSAL" reason none) l r
            l₁ →
          (Accepts (reversalCorrections host expense actor reason (i + 1) snaps) l₁ ↔
            ∀ p ∈ snaps, OnSome (l.receipts.get? p.1) (SnapshotMatches p.2)) := by
        intro prior r l₁ hpub
        rw [ih havoid.tail]
        refine forall₂_congr fun p hp => ?_
        rw [get?_receipts_publishCorrectionReceipt havoid
          (List.mem_map_of_mem (List.mem_cons_of_mem _ hp)) hpub]
      rw [List.forall_mem_cons, onSome_iff]
      constructor
      · rintro ⟨cs, l', h⟩
        rw [reversalCorrections, returns_get_bind, returns_orRaise_bind] at h
        obtain ⟨prior, hprior, h⟩ := h
        obtain ⟨_, l₀, hcheck, h⟩ := returns_bind.mp h
        rw [(checkSnapshot_readOnly _ _).returns hcheck] at h
        obtain ⟨c, l₁, hpub, h⟩ := returns_bind.mp h
        obtain ⟨cs', l₂, hloop, _⟩ := returns_bind.mp h
        exact ⟨⟨prior, hprior, checkSnapshot_accepts_iff.mp ⟨_, _, hcheck⟩⟩,
          (hrest hpub).mp ⟨cs', l₂, hloop⟩⟩
      · rintro ⟨⟨prior, hprior, hmatch⟩, hall⟩
        obtain ⟨u, l₀, hcheck⟩ := checkSnapshot_accepts_iff (l := l).mpr hmatch
        rw [(checkSnapshot_readOnly _ _).returns hcheck] at hcheck
        obtain ⟨c, l₁, hpub⟩ := publishCorrectionReceipt_accepts host i prior expense actor
          "REVERSAL" reason none l
        obtain ⟨cs, l₂, hloop⟩ := (hrest hpub).mpr hall
        refine ⟨c :: cs, l₂, ?_⟩
        rw [reversalCorrections, returns_get_bind, returns_orRaise_bind]
        refine ⟨prior, hprior, returns_bind.mpr ⟨u, l, hcheck, returns_bind.mpr ⟨c, l₁, hpub, ?_⟩⟩⟩
        exact returns_bind.mpr ⟨cs, l₂, hloop, returns_pure.mpr ⟨rfl, rfl⟩⟩

/-- The loop of a supersession goes through when every prior receipt is stored. -/
theorem supersedeCorrections_accepts_iff (expense : Expense) (actor reason : String)
    (replacementId : Id) {rids : List Id} {i : Nat}
    (havoid : DrawsAvoid host i rids.length rids) :
    Accepts (supersedeCorrections host expense actor reason replacementId i rids) l ↔
      ∀ rid ∈ rids, rid ∈ l.receipts := by
  induction rids generalizing i l with
  | nil => exact iff_of_true (accepts_pure _) fun p hp => absurd hp List.not_mem_nil
  | cons rid rids ih =>
      have hrest : ∀ {prior r : UseOfFundsReceipt} {l₁ : Ledger},
          Returns (publishCorrectionReceipt host i prior expense actor "SUPERSEDE" reason
            (some replacementId)) l r l₁ →
          (Accepts (supersedeCorrections host expense actor reason replacementId (i + 1) rids) l₁ ↔
            ∀ rid ∈ rids, rid ∈ l.receipts) := by
        intro prior r l₁ hpub
        rw [ih havoid.tail]
        refine forall₂_congr fun p hp => ?_
        rw [Dict.mem_iff_get?, get?_receipts_publishCorrectionReceipt havoid
          (List.mem_cons_of_mem _ hp) hpub, ← Dict.mem_iff_get?]
      rw [List.forall_mem_cons, Dict.mem_iff_get?]
      constructor
      · rintro ⟨cs, l', h⟩
        rw [supersedeCorrections, returns_get_bind, returns_orRaise_bind] at h
        obtain ⟨prior, hprior, h⟩ := h
        obtain ⟨c, l₁, hpub, h⟩ := returns_bind.mp h
        obtain ⟨cs', l₂, hloop, _⟩ := returns_bind.mp h
        exact ⟨⟨prior, hprior⟩, (hrest hpub).mp ⟨cs', l₂, hloop⟩⟩
      · rintro ⟨⟨prior, hprior⟩, hall⟩
        obtain ⟨c, l₁, hpub⟩ := publishCorrectionReceipt_accepts host i prior expense actor
          "SUPERSEDE" reason (some replacementId) l
        obtain ⟨cs, l₂, hloop⟩ := (hrest hpub).mpr hall
        refine ⟨c :: cs, l₂, ?_⟩
        rw [supersedeCorrections, returns_get_bind, returns_orRaise_bind]
        refine ⟨prior, hprior, returns_bind.mpr ⟨c, l₁, hpub, ?_⟩⟩
        exact returns_bind.mpr ⟨cs, l₂, hloop, returns_pure.mpr ⟨rfl, rfl⟩⟩

end Corrections

/-! ## Reversals -/

/-- Every receipt of the expense is stored and matches its snapshot. -/
def PriorsIntact (l : Ledger) (expenseId : Id) : Prop :=
  ∀ rid ∈ l.receiptIdsOf expenseId, OnSome (l.receiptSnapshots.get? rid) fun snap =>
    OnSome (l.receipts.get? rid) (SnapshotMatches snap)

instance (l : Ledger) (expenseId : Id) : Decidable (PriorsIntact l expenseId) :=
  inferInstanceAs (Decidable (∀ rid ∈ l.receiptIdsOf expenseId, _))

theorem Lineage.priorsIntact (h : Lineage l) (expenseId : Id) : PriorsIntact l expenseId := by
  intro rid hrid
  obtain ⟨r, hr, hsnap⟩ := h expenseId rid hrid
  rw [hsnap, hr]
  exact snapshotMatches_toDict r

theorem Lineage.drawsAvoid {n : Nat} (h : Lineage l) (expenseId : Id)
    (hfresh : FreshDraws host "uofc" n l.receipts) :
    DrawsAvoid host 0 n (l.receiptIdsOf expenseId) := by
  intro rid hrid j hj heq
  obtain ⟨r, hr, _⟩ := h expenseId rid hrid
  rw [Nat.zero_add] at heq
  exact hfresh.1 j hj (heq ▸ Dict.mem_of_get? hr)

/-- A verified expense, once its record is flipped, stays corrected: the ledger has changed. -/
theorem entities_ne_of_corrected {e : Id} (hv : l.expenseIn verifiedExpenseStates e = true)
    (hc : l'.expenseIn correctedExpenseStates e = true) : l'.entities ≠ l.entities := by
  intro h
  have hexp : l'.entities.expenses = l.entities.expenses := congrArg Ledger.expenses h
  rw [expenseIn, show l'.expenses = l.expenses from hexp] at hc
  rw [expenseIn] at hv
  cases hget : l.expenses.get? e with
  | none => rw [hget] at hv; exact Bool.false_ne_true hv
  | some expense =>
      rw [hget] at hv hc
      have hstate := mem_verifiedExpenseStates.mp (of_decide_eq_true hv)
      rcases mem_correctedExpenseStates.mp (of_decide_eq_true hc) with hs | hs <;>
        simp [hs] at hstate

theorem expenseIn_putExpense_corrected {expenseId : Id} {expense : Expense} {state : ExpenseState}
    {reason : String} (hstate : state ∈ correctedExpenseStates) :
    (l.putExpense expenseId (correctedExpense expense state reason)).expenseIn
      correctedExpenseStates expenseId = true := by
  rw [expenseIn_putExpense, if_pos rfl]
  exact decide_eq_true hstate

section Reversal

variable [Digest] {expenseId : Id} {actor reason : String}

theorem reverseExpense_accepts_iff (actor reason : String)
    (havoid : DrawsAvoid host 0 (l.receiptIdsOf expenseId).length (l.receiptIdsOf expenseId)) :
    Accepts (reverseExpense host expenseId actor reason) l ↔
      Reversible l expenseId ∧ PriorsIntact l expenseId := by
  rcases reverseExpense_run host l expenseId actor reason with
    ⟨hnot, href⟩ | ⟨expense, snaps, log, hexp, hstate, hids, hsnaps, hrun⟩
  · exact iff_of_false href.not_accepts fun h => hnot h.1
  have hrev : Reversible l expenseId := by
    refine ⟨(expenseIn_of_get? hexp).trans (decide_eq_true hstate), fun rid hrid => ?_⟩
    obtain ⟨p, hp, rfl⟩ := List.mem_map.mp (hids ▸ hrid)
    exact Dict.mem_of_get? (hsnaps p hp)
  have hloop : Accepts (reverseExpense host expenseId actor reason) l ↔
      Accepts (reversalCorrections host (correctedExpense expense .reversed reason) actor reason 0
        snaps) { l.putExpense expenseId (correctedExpense expense .reversed reason) with
          auditLog := log } := by
    constructor
    · rintro ⟨r, l', h⟩
      obtain ⟨cs, hcs, _⟩ := returns_map.mp (hrun.symm.trans h)
      exact ⟨cs, l', hcs⟩
    · rintro ⟨cs, l', h⟩
      exact ⟨_, l', hrun.trans (returns_map.mpr ⟨cs, h, rfl⟩)⟩
  rw [hloop, reversalCorrections_accepts_iff _ _ _ (by rwa [← List.length_map (f := Prod.fst), hids]),
    and_iff_right hrev]
  constructor
  · intro h rid hrid
    obtain ⟨p, hp, rfl⟩ := List.mem_map.mp (hids ▸ hrid)
    rw [hsnaps p hp]
    exact h p hp
  · intro h p hp
    have hrid := h p.1 (hids ▸ List.mem_map_of_mem hp)
    rwa [hsnaps p hp] at hrid

/-- A reversal that passes its first checks flips the record, whatever comes after. -/
theorem reverseExpense_changes (host : Host) (actor reason : String) (hrev : Reversible l expenseId) :
    (after (reverseExpense host expenseId actor reason) l).entities ≠ l.entities := by
  rcases reverseExpense_run host l expenseId actor reason with
    ⟨hnot, _⟩ | ⟨expense, snaps, log, hexp, hstate, hids, hsnaps, hrun⟩
  · exact absurd hrev hnot
  refine entities_ne_of_corrected (e := expenseId) hrev.1 ?_
  rw [after_congr hrun, after_map]
  have hw : Writes False (fun _ _ => True)
      ({ l.putExpense expenseId (correctedExpense expense .reversed reason) with
        auditLog := log } : Ledger)
      (after (reversalCorrections host (correctedExpense expense .reversed reason) actor reason 0
        snaps) { l.putExpense expenseId (correctedExpense expense .reversed reason) with
          auditLog := log }) :=
    reversalCorrections_writes False.elim
  exact hw.preserve (fun _ _ hwrite h => corrected_write hwrite h)
    (expenseIn_putExpense_corrected (by simp))

theorem reverseExpense_refuses (hrev : ¬ Reversible l expenseId) :
    Refuses (reverseExpense host expenseId actor reason) l := by
  rcases reverseExpense_run host l expenseId actor reason with
    ⟨_, href⟩ | ⟨expense, snaps, log, hexp, hstate, hids, hsnaps, _⟩
  · exact href
  refine absurd ⟨(expenseIn_of_get? hexp).trans (decide_eq_true hstate), fun rid hrid => ?_⟩ hrev
  obtain ⟨p, hp, rfl⟩ := List.mem_map.mp (hids ▸ hrid)
  exact Dict.mem_of_get? (hsnaps p hp)

end Reversal

/-! ## When a replacement is accepted -/

/-- Everything a supersession checks about the replacement, on the ledger before
the call: only the balances are taken with the old expense out of the way. -/
def ReplacementAccepted (l : Ledger) (expenseId : Id) (replacement : Expense)
    (splits : List (Id × Decimal.Amount)) (approvedBy : String) : Prop :=
  replacement.id ≠ expenseId ∧ replacement.organizationId = l.organization.id ∧
    0 < replacement.amount ∧ replacement.id ∉ l.expenses ∧ approvedBy ≠ "" ∧
    match parseSplits l splits with
    | .ok parsed => splitTotal parsed = replacement.amount ∧
        ∀ p ∈ parsed, (l.withoutExpense expenseId).HasBalance p.1 ∧
          p.2 ≤ (l.withoutExpense expenseId).poolRemaining p.1
    | .error _ => False

instance (l : Ledger) (expenseId : Id) (replacement : Expense)
    (splits : List (Id × Decimal.Amount)) (approvedBy : String) :
    Decidable (ReplacementAccepted l expenseId replacement splits approvedBy) := by
  haveI : Decidable (match parseSplits l splits with
      | .ok parsed => splitTotal parsed = replacement.amount ∧
          ∀ p ∈ parsed, (l.withoutExpense expenseId).HasBalance p.1 ∧
            p.2 ≤ (l.withoutExpense expenseId).poolRemaining p.1
      | .error _ => False) := by
    apply Except.casesOn (motive := fun r => Decidable (match r with
      | .ok parsed => splitTotal parsed = replacement.amount ∧
          ∀ p ∈ parsed, (l.withoutExpense expenseId).HasBalance p.1 ∧
            p.2 ≤ (l.withoutExpense expenseId).poolRemaining p.1
      | .error _ => False)) (parseSplits l splits)
    all_goals
      intros
      dsimp only
      infer_instance
  dsimp only [ReplacementAccepted]
  infer_instance

/-- The call supersedes a verified expense by a replacement that is refused. -/
def RefusedSupersession (l : Ledger) (op : Op) : Prop :=
  match op with
  | .supersedeExpense expenseId replacement splits _ _ approvedBy =>
      l.expenseIn verifiedExpenseStates expenseId = true ∧
        ¬ ReplacementAccepted l expenseId replacement splits approvedBy
  | _ => False

instance (l : Ledger) (op : Op) : Decidable (RefusedSupersession l op) := by
  apply Op.casesOn (motive := fun op => Decidable (RefusedSupersession l op)) op
  all_goals
    intros
    dsimp only [RefusedSupersession]
    infer_instance

/-- The identifiers the host draws in a correction are not in use. -/
def DrawsFresh (l : Ledger) (c : Call) : Prop :=
  match c.op with
  | .reverseExpense expenseId _ _ =>
      FreshDraws c.host "uofc" (l.receiptIdsOf expenseId).length l.receipts
  | .supersedeExpense expenseId _ splits _ _ _ =>
      FreshDraws c.host "ea" splits.length l.expenseAllocations ∧
        FreshDraws c.host "uofc" (l.receiptIdsOf expenseId).length l.receipts
  | _ => True

instance (l : Ledger) (c : Call) : Decidable (DrawsFresh l c) := by
  apply Op.casesOn (motive := fun op => Decidable (DrawsFresh l ⟨c.host, op⟩)) c.op
  all_goals
    intros
    dsimp only [DrawsFresh]
    infer_instance

theorem chargeTotal_eq_splitTotal (l : Ledger) (expenseId : Id) :
    chargeTotal (l.expenseAllocationsFor expenseId) = splitTotal (l.splitsOf expenseId) := by
  rw [chargeTotal, splitTotal, splitsOf, List.map_map]
  rfl

/-- Every receipt of the expense is stored. -/
def PriorsStored (l : Ledger) (expenseId : Id) : Prop :=
  ∀ rid ∈ l.receiptIdsOf expenseId, rid ∈ l.receipts

instance (l : Ledger) (expenseId : Id) : Decidable (PriorsStored l expenseId) :=
  inferInstanceAs (Decidable (∀ rid ∈ l.receiptIdsOf expenseId, _))

theorem Lineage.priorsStored (h : Lineage l) (expenseId : Id) : PriorsStored l expenseId := by
  intro rid hrid
  obtain ⟨r, hr, _⟩ := h expenseId rid hrid
  exact Dict.mem_of_get? hr

section Supersession

variable [Digest] {expenseId : Id} {replacement old : Expense}
  {splits : List (Id × Decimal.Amount)} {actor reason approvedBy : String}

/-- What a supersession that returns has checked. -/
theorem supersedeAfterFlip_accepted {superseded : Expense}
    {r : Expense × Expense × List UseOfFundsReceipt}
    (hold : l.expenses.get? expenseId = some old)
    (hea : FreshDraws host "ea" splits.length l.expenseAllocations)
    (havoid : DrawsAvoid host 0 (l.receiptIdsOf expenseId).length (l.receiptIdsOf expenseId))
    (h : Returns (supersedeAfterFlip host l.organization.id (l.receiptIdsOf expenseId) superseded
      expenseId replacement splits actor reason approvedBy)
      (l.putExpense expenseId (correctedExpense old .superseded reason)) r l') :
    ReplacementAccepted l expenseId replacement splits approvedBy ∧ PriorsStored l expenseId := by
  rw [supersedeAfterFlip, returns_raiseIf_bind, returns_raiseIf_bind] at h
  obtain ⟨hid, horg, h⟩ := h
  obtain ⟨r₁, l₂, himp, h⟩ := returns_bind.mp h
  obtain ⟨eas, l₃, hall, h⟩ := returns_bind.mp h
  obtain ⟨approved, l₄, happ, h⟩ := returns_bind.mp h
  obtain ⟨cs, l₅, hloop, _⟩ := returns_bind.mp (returns_audit_bind.mp h)
  have huntil : Returns (supersedeUntilApproval host expenseId replacement splits reason) l eas
      l₃ := by
    refine returns_requireExpense_bind.mpr ⟨old, hold, ?_⟩
    exact returns_modify_bind.mpr (returns_bind.mpr ⟨r₁, l₂, himp, hall⟩)
  obtain ⟨parsed, hparsed, hsplits, hfunds⟩ := supersedeUntilApproval_returns hea huntil
  obtain ⟨_, hpos, hnew, _, rfl, log, rfl⟩ := importExpense_returns himp
  obtain ⟨expense, parsed', hexp, _, _, hparsed', htotal, _, log', hl₃⟩ :=
    allocateExpenseSplits_returns hall
  obtain ⟨_, _, _, _, _, _, hbal, hby, _, log'', hl₄⟩ := approveExpense_returns happ
  have hexp' : some (replacementExpense replacement expenseId reason) = some expense :=
    (Dict.get?_set_self _ _ _).symm.trans hexp
  have hsame : parsed' = parsed := by
    have hcongr : parseSplits l splits = .ok parsed' := by
      refine (parseSplits_congr ?_ splits).trans hparsed'
      rfl
    exact Except.ok.inj (hcongr.symm.trans hparsed)
  refine ⟨⟨hid, not_not.mp horg, hpos,
    fun hmem => hnew (Dict.mem_set.mpr (Or.inr hmem)), hby, ?_⟩, ?_⟩
  · rw [hparsed]
    refine ⟨?_, fun p hp => ?_⟩
    · rw [← hsame, htotal, ← Option.some.inj hexp']
      rfl
    · rw [← hsplits] at hp
      obtain ⟨ea, hmem, rfl⟩ := List.mem_map.mp hp
      obtain ⟨hhas, hle⟩ := hbal ea hmem
      exact ⟨(hfunds.hasBalance _).mp hhas, hfunds.poolRemaining ea.allocationId ▸ hle⟩
  · have hreceipts : l₄.receipts = l.receipts := by
      rw [hl₄, hl₃]
      simp only [moveToApprovalPending, replaceExpenseAllocations]
      split <;> rfl
    have hstored := (supersedeCorrections_accepts_iff _ _ _ _ havoid).mp ⟨cs, l₅, hloop⟩
    intro rid hrid
    exact hreceipts ▸ hstored rid hrid

/-- A supersession whose replacement is accepted goes through. -/
theorem supersedeAfterFlip_accepts (superseded : Expense) (actor reason : String)
    (hold : l.expenses.get? expenseId = some old)
    (hea : FreshDraws host "ea" splits.length l.expenseAllocations)
    (havoid : DrawsAvoid host 0 (l.receiptIdsOf expenseId).length (l.receiptIdsOf expenseId))
    (hacc : ReplacementAccepted l expenseId replacement splits approvedBy)
    (hstored : PriorsStored l expenseId) :
    Accepts (supersedeAfterFlip host l.organization.id (l.receiptIdsOf expenseId) superseded
      expenseId replacement splits actor reason approvedBy)
      (l.putExpense expenseId (correctedExpense old .superseded reason)) := by
  obtain ⟨hid, horg, hpos, hnew, hby, hmatch⟩ := hacc
  cases hparsed : parseSplits l splits with
  | error err => rw [hparsed] at hmatch; exact hmatch.elim
  | ok parsed =>
  rw [hparsed] at hmatch
  obtain ⟨htotal, hfits⟩ := hmatch
  have hnew' : (replacementExpense replacement expenseId reason).id ∉
      (l.putExpense expenseId (correctedExpense old .superseded reason)).expenses := by
    intro hmem
    rcases Dict.mem_set.mp hmem with heq | hmem
    · exact hid heq
    · exact hnew hmem
  obtain ⟨r, l₂, himp⟩ : Accepts
      (importExpense host (replacementExpense replacement expenseId reason))
      (l.putExpense expenseId (correctedExpense old .superseded reason)) :=
    importExpense_accepts_iff.mpr ⟨horg, hpos, hnew', by simp [replacementExpense]⟩
  obtain ⟨_, _, _, _, rfl, log, hl₂⟩ := importExpense_returns himp
  have hrepl : l₂.expenses.get? replacement.id =
      some (replacementExpense replacement expenseId reason) := by
    rw [hl₂]
    exact Dict.get?_set_self _ _ _
  have hparsed₂ : parseSplits l₂ splits = .ok parsed := by
    refine (parseSplits_congr ?_ splits).trans hparsed
    rw [hl₂]
  obtain ⟨eas, l₃, hall⟩ : Accepts (allocateExpenseSplits host replacement.id splits) l₂ :=
    allocateExpenseSplits_accepts hrepl (by simp [replacementExpense])
      (by simp [replacementExpense]) hparsed₂ htotal
  have huntil : Returns (supersedeUntilApproval host expenseId replacement splits reason) l eas
      l₃ := by
    refine returns_requireExpense_bind.mpr ⟨old, hold, ?_⟩
    exact returns_modify_bind.mpr (returns_bind.mpr ⟨_, l₂, himp, hall⟩)
  obtain ⟨parsed', hparsed', hsplits, hfunds⟩ := supersedeUntilApproval_returns hea huntil
  obtain rfl := Except.ok.inj (hparsed.symm.trans hparsed')
  obtain ⟨expense, _, hexp, _, _, _, _, _, log', hl₃⟩ := allocateExpenseSplits_returns hall
  obtain rfl := Option.some.inj (hrepl.symm.trans hexp)
  have hpending : l₃.expenses.get? replacement.id =
      some (withExpenseState (replacementExpense replacement expenseId reason)
        .approvalPending) := by
    rw [hl₃, moveToApprovalPending, if_pos (by simp [replacementExpense])]
    exact Dict.get?_set_self _ _ _
  have hcharge : chargeTotal (l₃.expenseAllocationsFor replacement.id) = replacement.amount := by
    rw [chargeTotal_eq_splitTotal, hsplits, htotal]
  have hreceipts : l₃.receipts = l.receipts := by
    rw [hl₃, hl₂]
    simp only [moveToApprovalPending, replaceExpenseAllocations]
    split <;> rfl
  obtain ⟨approved, l₄, happ⟩ : Accepts (approveExpense host replacement.id approvedBy) l₃ := by
    refine approveExpense_accepts_iff.mpr (onSome_iff.mpr ⟨_, hpending, by simp [withExpenseState],
      fun hnil => ?_, hcharge, fun ea hmem => ?_, hby⟩)
    · rw [hnil] at hcharge
      exact absurd hpos (by rw [← hcharge]; exact lt_irrefl 0)
    · have hp : (ea.allocationId, ea.amount) ∈ parsed :=
        hsplits ▸ List.mem_map.mpr ⟨ea, hmem, rfl⟩
      obtain ⟨hhas, hle⟩ := hfits _ hp
      exact ⟨(hfunds.hasBalance _).mpr hhas, hfunds.poolRemaining ea.allocationId ▸ hle⟩
  obtain ⟨_, _, _, _, _, _, _, _, _, log'', hl₄⟩ := approveExpense_returns happ
  have hstored₄ : ∀ rid ∈ l.receiptIdsOf expenseId, rid ∈ l₄.receipts := by
    intro rid hrid
    rw [hl₄]
    exact hreceipts.symm ▸ hstored rid hrid
  rw [supersedeAfterFlip]
  refine (returns_raiseIf (u := ()).mpr ⟨hid, rfl⟩).bind_accepts ?_
  refine (returns_raiseIf (u := ()).mpr ⟨not_not.mpr horg, rfl⟩).bind_accepts ?_
  refine himp.bind_accepts (hall.bind_accepts (happ.bind_accepts ?_))
  refine (returns_audit (u := ()).mpr rfl).bind_accepts ?_
  have hloop : ∀ l₅ : Ledger, l₅.receipts = l₄.receipts →
      Accepts (supersedeCorrections host superseded actor reason replacement.id 0
        (l.receiptIdsOf expenseId) >>= fun cs => pure (superseded, approved, cs)) l₅ := by
    intro l₅ hrec
    obtain ⟨cs, l₆, hcs⟩ := (supersedeCorrections_accepts_iff superseded actor reason
      replacement.id havoid).mpr fun rid hrid => hrec ▸ hstored₄ rid hrid
    exact hcs.bind_accepts (accepts_pure _)
  exact hloop _ rfl

/-- Once the flip is made a raise leaves the old expense SUPERSEDED. -/
theorem supersedeAfterFlip_corrected (host : Host) (l : Ledger) (organizationId : Id)
    (priorReceiptIds : List Id) (superseded : Expense) (expenseId : Id) (replacement old : Expense)
    (splits : List (Id × Decimal.Amount)) (actor reason approvedBy : String) :
    (after (supersedeAfterFlip host organizationId priorReceiptIds superseded expenseId replacement
        splits actor reason approvedBy)
      (l.putExpense expenseId (correctedExpense old .superseded reason))).expenseIn
      correctedExpenseStates expenseId = true := by
  have hw : Writes False (fun _ _ => True)
      (l.putExpense expenseId (correctedExpense old .superseded reason))
      (after (supersedeAfterFlip host organizationId priorReceiptIds superseded expenseId
        replacement splits actor reason approvedBy)
        (l.putExpense expenseId (correctedExpense old .superseded reason))) :=
    supersedeAfterFlip_writes False.elim False.elim fun _ _ _ _ _ _ => trivial
  exact hw.preserve (fun _ _ hwrite h => corrected_write hwrite h)
    (expenseIn_putExpense_corrected (by simp))

theorem supersedeExpense_refuses (h : l.expenseIn verifiedExpenseStates expenseId = false) :
    Refuses (supersedeExpense host expenseId replacement splits actor reason approvedBy) l := by
  rcases supersedeExpense_run host l expenseId replacement splits actor reason approvedBy with
    ⟨_, href⟩ | ⟨old, hold, hstate, _⟩
  · exact href
  · exact absurd ((expenseIn_of_get? hold).symm.trans h) (by rw [decide_eq_true hstate]; simp)

theorem supersedeExpense_accepts_iff (replacement : Expense) (actor reason approvedBy : String)
    (hea : FreshDraws host "ea" splits.length l.expenseAllocations)
    (havoid : DrawsAvoid host 0 (l.receiptIdsOf expenseId).length (l.receiptIdsOf expenseId)) :
    Accepts (supersedeExpense host expenseId replacement splits actor reason approvedBy) l ↔
      l.expenseIn verifiedExpenseStates expenseId = true ∧
        ReplacementAccepted l expenseId replacement splits approvedBy ∧
        PriorsStored l expenseId := by
  rcases supersedeExpense_run host l expenseId replacement splits actor reason approvedBy with
    ⟨hnot, href⟩ | ⟨old, hold, hstate, hrun⟩
  · exact iff_of_false href.not_accepts fun h => Bool.false_ne_true (hnot.symm.trans h.1)
  rw [and_iff_right ((expenseIn_of_get? hold).trans (decide_eq_true hstate))]
  constructor
  · rintro ⟨r, l', h⟩
    exact supersedeAfterFlip_accepted hold hea havoid (hrun.symm.trans h)
  · rintro ⟨hacc, hstored⟩
    obtain ⟨r, l', h⟩ := supersedeAfterFlip_accepts
      (correctedExpense old .superseded reason) actor reason hold hea havoid hacc hstored
    exact ⟨r, l', hrun.trans h⟩

/-- A supersession of a verified expense flips the record, whatever comes after. -/
theorem supersedeExpense_changes (host : Host) (replacement : Expense)
    (splits : List (Id × Decimal.Amount)) (actor reason approvedBy : String)
    (hv : l.expenseIn verifiedExpenseStates expenseId = true) :
    (after (supersedeExpense host expenseId replacement splits actor reason approvedBy)
      l).entities ≠ l.entities := by
  rcases supersedeExpense_run host l expenseId replacement splits actor reason approvedBy with
    ⟨hnot, _⟩ | ⟨old, hold, hstate, hrun⟩
  · exact absurd (hnot.symm.trans hv) Bool.false_ne_true
  · refine entities_ne_of_corrected (e := expenseId) hv ?_
    rw [after_congr hrun]
    exact supersedeAfterFlip_corrected _ _ _ _ _ _ _ _ _ _ _ _

end Supersession

/-! ## The exact condition -/

theorem keeps_of_atomic {α : Type} {x : LedgerM α} (hx : Atomic x) (e : PyExc) (l' : Ledger)
    (h : Raises x l e l') : l'.entities = l.entities := by
  rw [hx l e l' h]

section Exact

variable [Digest]

theorem reverseExpense_raises {expenseId : Id} {actor reason : String} {e : PyExc}
    (hlin : Lineage l)
    (huofc : FreshDraws host "uofc" (l.receiptIdsOf expenseId).length l.receipts)
    (h : Raises (reverseExpense host expenseId actor reason) l e l') : l' = l := by
  by_cases hrev : Reversible l expenseId
  · obtain ⟨r, l'', hret⟩ := (reverseExpense_accepts_iff actor reason
      (hlin.drawsAvoid expenseId huofc)).mpr ⟨hrev, hlin.priorsIntact expenseId⟩
    exact absurd h hret.not_raises
  · exact h.after.symm.trans (reverseExpense_refuses hrev).after

theorem supersedeExpense_keeps_iff {expenseId : Id} {replacement : Expense}
    {splits : List (Id × Decimal.Amount)} {actor reason approvedBy : String} (hlin : Lineage l)
    (hea : FreshDraws host "ea" splits.length l.expenseAllocations)
    (huofc : FreshDraws host "uofc" (l.receiptIdsOf expenseId).length l.receipts) :
    (∀ e l', Raises (supersedeExpense host expenseId replacement splits actor reason approvedBy) l
        e l' → l'.entities = l.entities) ↔
      ¬ (l.expenseIn verifiedExpenseStates expenseId = true ∧
        ¬ ReplacementAccepted l expenseId replacement splits approvedBy) := by
  have haccepts := supersedeExpense_accepts_iff replacement actor reason approvedBy hea
    (hlin.drawsAvoid expenseId huofc)
  constructor
  · rintro hkeeps ⟨hv, hnot⟩
    rcases returns_or_raises (supersedeExpense host expenseId replacement splits actor reason
      approvedBy) l with ⟨r, l', h⟩ | ⟨e, l', h⟩
    · exact hnot (haccepts.mp ⟨r, l', h⟩).2.1
    · have hchanges := supersedeExpense_changes host replacement splits actor reason approvedBy hv
      rw [h.after] at hchanges
      exact hchanges (hkeeps e l' h)
  · intro hcond e l' h
    by_cases hv : l.expenseIn verifiedExpenseStates expenseId = true
    · have hacc := not_not.mp fun hnot => hcond ⟨hv, hnot⟩
      obtain ⟨r, l'', hret⟩ := haccepts.mpr ⟨hv, hacc, hlin.priorsStored expenseId⟩
      exact absurd h hret.not_raises
    · rw [← h.after, (supersedeExpense_refuses (Bool.not_eq_true _ |>.mp hv)).after]

omit [Digest] in
/-- With a replacement that cannot be imported there is nothing to refuse but the flip. -/
theorem supersedeByUnfit_keeps_iff {α : Type} (l : Ledger) (expenseId organizationId : Id)
    (replacement : UnfitReplacement) (reason : String) :
    (∀ e l', Raises (supersedeByUnfit expenseId organizationId replacement reason : LedgerM α) l
        e l' → l'.entities = l.entities) ↔
      l.expenseIn verifiedExpenseStates expenseId = false := by
  have hrun := supersedeByUnfit_run (α := α) l expenseId organizationId replacement reason
  rcases hrun with ⟨hnot, href⟩ | ⟨old, e, hold, hstate, hraises⟩
  · refine iff_of_true (fun e l' h => ?_) hnot
    rw [← h.after, href.after]
  · have hv : l.expenseIn verifiedExpenseStates expenseId = true :=
      (expenseIn_of_get? hold).trans (decide_eq_true hstate)
    refine iff_of_false (fun hkeeps => ?_) fun hnot => Bool.false_ne_true (hnot.symm.trans hv)
    exact entities_ne_of_corrected hv (expenseIn_putExpense_corrected (by simp))
      (hkeeps e _ hraises)

/-- Every method but the two corrections checks before it writes. -/
theorem exec_atomic (host : Host) (op : Op)
    (hreverse : ∀ expenseId actor reason, op ≠ .reverseExpense expenseId actor reason)
    (hsupersede : ∀ expenseId replacement splits actor reason approvedBy,
      op ≠ .supersedeExpense expenseId replacement splits actor reason approvedBy) :
    Atomic (exec host op) := by
  cases op with
  | registerDonor donor => exact (registerDonor_atomic _).map _
  | importDonation donation => exact (importDonation_atomic _).map _
  | registerAllocation allocation => exact (registerAllocation_atomic _).map _
  | assignDonationAllocation donationId allocationId amount daId =>
      exact (assignDonationAllocation_atomic _ _ _ _).map _
  | importExpense expense => exact (importExpense_atomic _).map _
  | attachEvidence evidence => exact (attachEvidence_atomic _).map _
  | allocateExpense expenseId allocationId amount eaId =>
      exact (allocateExpense_atomic _ _ _ _).map _
  | allocateExpenseSplits expenseId splits => exact (allocateExpenseSplits_atomic _ _).map _
  | approveExpense expenseId approvedBy => exact (approveExpense_atomic _ _).map _
  | reconcileExpense expenseId actor => exact (reconcileExpense_atomic _ _).map _
  | attributeDonorToExpense donorId donationId expenseId allocationId method amount attrId =>
      exact (attributeDonorToExpense_atomic _ _ _ _ _ _ _).map _
  | publishUseOfFundsReceipt expenseId donationId allocationId actor createdAt =>
      exact (publishUseOfFundsReceipt_atomic _ _ _ _ _).map _
  | getReceipt receiptId => exact (getReceipt_readOnly _).atomic.map _
  | getReceiptSnapshot receiptId => exact (getReceiptSnapshot_readOnly _).atomic.map _
  | reverseExpense expenseId actor reason => exact absurd rfl (hreverse expenseId actor reason)
  | supersedeExpense expenseId replacement splits actor reason approvedBy =>
      exact absurd rfl (hsupersede expenseId replacement splits actor reason approvedBy)
  | mutateReceipt receiptId => exact (ReadOnly.throw _).atomic
  | mutateApprovedExpense expenseId => exact (mutateApprovedExpense_readOnly _).atomic
  | allocationRemainingBalance allocationId =>
      exact (allocationRemainingBalance_readOnly _).atomic.map _
  | donorRemainingOnAllocation donationId allocationId => exact (Total.pure _).atomic

/-- Every reachable ledger has its receipts' lineage. -/
theorem lineage_run (organization : Organization) (calls : List Call) :
    Lineage (run step (.new organization) calls) :=
  run_preserve_any (fun _ _ hw h => h.write hw) fun _ _ h => absurd h List.not_mem_nil

/-- In every reachable ledger, a call that raises leaves every entity store as
it was exactly when it is not a supersession of a verified expense whose
replacement is refused; a replacement of which no import can be made always is. -/
theorem raise_keeps_entities_iff {organization : Organization} {calls : List Call} {c : Call}
    (hdraws : DrawsFresh (run step (.new organization) calls) c) :
    ((∀ e l', Raises (exec c.host c.op) (run step (.new organization) calls) e l' →
        l'.entities = (run step (.new organization) calls).entities) ↔
      ¬ RefusedSupersession (run step (.new organization) calls) c.op) ∧
    ∀ expenseId organizationId replacement reason,
      (∀ e l', Raises (supersedeByUnfit expenseId organizationId replacement reason : LedgerM Unit)
          (run step (.new organization) calls) e l' →
        l'.entities = (run step (.new organization) calls).entities) ↔
      (run step (.new organization) calls).expenseIn verifiedExpenseStates expenseId = false := by
  refine ⟨?_, supersedeByUnfit_keeps_iff _⟩
  have hlin := lineage_run organization calls
  revert hdraws hlin
  generalize run step (.new organization) calls = l
  intro hdraws hlin
  obtain ⟨host, op⟩ := c
  cases op with
  | supersedeExpense expenseId replacement splits actor reason approvedBy =>
      simp only [exec, raises_map]
      exact supersedeExpense_keeps_iff hlin hdraws.1 hdraws.2
  | reverseExpense expenseId actor reason =>
      refine iff_of_true (fun e l' h => ?_) not_false
      rw [reverseExpense_raises hlin hdraws (raises_map.mp h)]
  | _ =>
      refine iff_of_true (keeps_of_atomic (exec_atomic host _ ?_ ?_)) not_false <;> simp

end Exact

section Sample

attribute [local instance] Digest.plain

/-- 50.00 of the gift spent and approved. -/
def Sample.approvedRun : List Call := script (Sample.gift ++ [
  .importExpense (Sample.expense "expense" 5000),
  .allocateExpense "expense" "fund" (.finite 50 0) none,
  .approveExpense "expense" "human:finance"])

/-- A supersession whose single split names a fund nobody registered. -/
def Sample.refusedCall : Call where
  host := .numbered 7
  op := .supersedeExpense "expense" (Sample.expense "replacement" 5000)
    [("unknown", .finite 50 0)] "human:finance" "wrong vendor" "human:finance"

/-- A reversal of the approved expense. -/
def Sample.reversalCall : Call where
  host := .numbered 8
  op := .reverseExpense "expense" "human:finance" "duplicate"

theorem approvedRun_reversal_keeps_iff :
    ((∀ e l', Raises (exec Sample.reversalCall.host Sample.reversalCall.op)
          (run step (.new Sample.organization) Sample.approvedRun) e l' →
        l'.entities = (run step (.new Sample.organization) Sample.approvedRun).entities) ↔
      ¬ RefusedSupersession (run step (.new Sample.organization) Sample.approvedRun)
        Sample.reversalCall.op) ∧
    ∀ expenseId organizationId replacement reason,
      (∀ e l', Raises (supersedeByUnfit expenseId organizationId replacement reason : LedgerM Unit)
          (run step (.new Sample.organization) Sample.approvedRun) e l' →
        l'.entities = (run step (.new Sample.organization) Sample.approvedRun).entities) ↔
      (run step (.new Sample.organization) Sample.approvedRun).expenseIn verifiedExpenseStates
        expenseId = false :=
  raise_keeps_entities_iff (by decide)

theorem refusedCall_flips : ¬ ∀ (organization : Organization) (calls : List Call) (c : Call) e l',
    Raises (exec c.host c.op) (run step (.new organization) calls) e l' →
      l'.entities = (run step (.new organization) calls).entities := by
  intro h
  obtain ⟨e, l', hraises⟩ : ∃ e l', Raises (exec Sample.refusedCall.host Sample.refusedCall.op)
      (run step (.new Sample.organization) Sample.approvedRun) e l' := raised_iff.mp (by decide)
  have hkept := h Sample.organization Sample.approvedRun Sample.refusedCall e l' hraises
  have hafter : (after (exec Sample.refusedCall.host Sample.refusedCall.op)
      (run step (.new Sample.organization) Sample.approvedRun)).expenseIn verifiedExpenseStates
      "expense" = false := by decide
  have hbefore : (run step (.new Sample.organization) Sample.approvedRun).expenseIn
      verifiedExpenseStates "expense" = true := by decide
  have hexp : l'.entities.expenses =
      (run step (.new Sample.organization) Sample.approvedRun).entities.expenses :=
    congrArg Ledger.expenses hkept
  rw [hraises.after, expenseIn, show l'.expenses = _ from hexp] at hafter
  exact Bool.false_ne_true (hafter.symm.trans hbefore)

end Sample

end Ledger

end ImpactRelay
