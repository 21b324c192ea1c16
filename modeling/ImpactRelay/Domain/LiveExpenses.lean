/-
# `Domain.LiveExpenses` — who carries an external source id

An expense that is neither reversed nor superseded carries the id of the
accounting record it was imported for.  Only two of the methods let an expense in,
`import_expense` and, half way, `supersede_expense`; no method gives an expense
that is there another record, or brings one back to life.  So the carriers of an id
are those from before, less the one that is corrected, and the one that enters
(`Enters`), and whether a ledger has two is decided when one enters
(`Enters.oneLive_iff`).
-/
import ImpactRelay.Domain.Atomicity
import ImpactRelay.Domain.LifeCycle

namespace ImpactRelay

open Raise Relation

namespace Ledger

/-- The expense is alive and was imported for that record. -/
def Carries (l : Ledger) (ext : String) (e : Id) : Prop :=
  OnSome (l.expenses.get? e) fun x =>
    x.externalSourceId = some ext ∧ x.state ∉ correctedExpenseStates

instance (l : Ledger) (ext : String) (e : Id) : Decidable (Carries l ext e) :=
  inferInstanceAs (Decidable (OnSome _ _))

/-- One record, one live expense. -/
def OneLive (l : Ledger) : Prop :=
  ∀ ext, ext ≠ "" → ∀ a b, Carries l ext a → Carries l ext b → a = b

/-- Nobody carries an id who did not before. -/
def Shrinks (l l' : Ledger) : Prop := ∀ ext e, Carries l' ext e → Carries l ext e

/-- The carriers are as they were. -/
def SameCarriers (l l' : Ledger) : Prop := ∀ ext e, Carries l' ext e ↔ Carries l ext e

/-- A new expense has come in, alive, and taken the place of another, if of any. -/
structure Enters (gone : Option Id) (x : Expense) (l l' : Ledger) : Prop where
  new : x.id ∉ l.expenses
  carries : ∀ ext e, Carries l' ext e ↔
    (e = x.id ∧ x.externalSourceId = some ext) ∨ (Carries l ext e ∧ some e ≠ gone)

variable {l l' l'' : Ledger} {host : Host} {e : Id} {ext : String} {x : Expense} {gone : Option Id}

theorem Shrinks.refl (l : Ledger) : Shrinks l l := fun _ _ h => h

theorem Shrinks.trans (h : Shrinks l l') (h' : Shrinks l' l'') : Shrinks l l'' :=
  fun ext e hcarries => h ext e (h' ext e hcarries)

theorem SameCarriers.refl (l : Ledger) : SameCarriers l l := fun _ _ => Iff.rfl

theorem SameCarriers.trans (h : SameCarriers l l') (h' : SameCarriers l' l'') :
    SameCarriers l l'' :=
  fun ext e => (h' ext e).trans (h ext e)

theorem SameCarriers.shrinks (h : SameCarriers l l') : Shrinks l l' :=
  fun ext e hcarries => (h ext e).mp hcarries

theorem SameCarriers.of_expenses (h : l'.expenses = l.expenses) : SameCarriers l l' := by
  intro ext e
  rw [Carries, h]
  exact Iff.rfl

theorem Enters.same (h : Enters gone x l l') (h' : SameCarriers l' l'') : Enters gone x l l'' where
  new := h.new
  carries ext e := (h' ext e).trans (h.carries ext e)

theorem OneLive.new (organization : Organization) : OneLive (.new organization) :=
  fun _ _ _ _ h => absurd h id

theorem OneLive.shrinks (h : OneLive l) (hl : Shrinks l l') : OneLive l' :=
  fun ext hext a b ha hb => h ext hext a b (hl ext a ha) (hl ext b hb)

theorem Carries.mem (h : Carries l ext e) : e ∈ l.expenses := by
  obtain ⟨y, hy, -⟩ := onSome_iff.mp h
  exact Dict.mem_of_get? hy

/-- The new expense is the only one for its record exactly if there was none but the one
whose place it takes. -/
theorem Enters.oneLive_iff (h : Enters gone x l l') (hl : OneLive l) :
    OneLive l' ↔ ∀ ext, x.externalSourceId = some ext → ext ≠ "" → ∀ e, Carries l ext e →
      some e = gone := by
  constructor
  · intro hone ext hrecord hext e hcarries
    by_contra hother
    have hold : Carries l' ext e := (h.carries ext e).mpr (Or.inr ⟨hcarries, hother⟩)
    have hnew : Carries l' ext x.id := (h.carries ext x.id).mpr (Or.inl ⟨rfl, hrecord⟩)
    have heq : e = x.id := hone ext hext e x.id hold hnew
    exact h.new (heq ▸ hcarries.mem)
  · intro hfree ext hext a b ha hb
    rcases (h.carries ext a).mp ha with ⟨rfl, hrecord⟩ | ⟨ha, hagone⟩
    · rcases (h.carries ext b).mp hb with ⟨rfl, -⟩ | ⟨hb, hbgone⟩
      · rfl
      · exact absurd (hfree ext hrecord hext b hb) hbgone
    · rcases (h.carries ext b).mp hb with ⟨rfl, hrecord⟩ | ⟨hb, -⟩
      · exact absurd (hfree ext hrecord hext a ha) hagone
      · exact hl ext hext a b ha hb

/-! ## One posting -/

/-- Writing an expense over itself, alive as before and for the same record. -/
theorem sameCarriers_put {y : Expense} (hx : l.expenses.get? e = some x)
    (hrecord : y.externalSourceId = x.externalSourceId)
    (hstate : y.state ∉ correctedExpenseStates ↔ x.state ∉ correctedExpenseStates) :
    SameCarriers l (l.putExpense e y) := by
  intro ext v
  simp only [Carries, Dict.get?_set]
  split
  · rename_i hv
    rw [hv, hx]
    simp only [OnSome, hrecord, hstate]
  · exact Iff.rfl

/-- A correction takes the expense from the carriers. -/
theorem carries_corrected {state : ExpenseState} {reason : String}
    (hstate : state ∈ correctedExpenseStates) (v : Id) :
    Carries (l.putExpense e (correctedExpense x state reason)) ext v ↔ Carries l ext v ∧ v ≠ e := by
  simp only [Carries, Dict.get?_set]
  split
  · rename_i hv
    refine iff_of_false ?_ fun h => h.2 hv
    exact fun h => h.2 hstate
  · rename_i hv
    exact ⟨fun h => ⟨h, hv⟩, fun h => h.1⟩

/-- A posting that lets nothing in. -/
def Posting.isImport : Posting → Bool
  | .imported _ => true
  | _ => false

def Posting.isCorrected : Posting → Bool
  | .corrected _ _ _ _ => true
  | _ => false

theorem Posting.same {p : Posting} {fresh : Prop} (hguard : p.guard fresh l)
    (himport : p.isImport = false) (hcorrected : p.isCorrected = false) :
    SameCarriers l (p.write l) := by
  cases p with
  | imported expense => exact nomatch himport
  | corrected expenseId expense state reason => exact nomatch hcorrected
  | classified expenseId expense eas =>
      obtain ⟨hexp, hopen, -⟩ := hguard
      rw [write, moveToApprovalPending]
      split
      · refine sameCarriers_put hexp rfl (iff_of_true ?_ hopen)
        show ExpenseState.approvalPending ∉ correctedExpenseStates
        decide
      · exact .of_expenses rfl
  | approved expenseId expense approvedBy =>
      obtain ⟨hexp, hopen, -⟩ := hguard
      refine sameCarriers_put hexp rfl (iff_of_true ?_ hopen)
      show ExpenseState.approved ∉ correctedExpenseStates
      decide
  | reconciled expenseId expense at_ =>
      obtain ⟨hexp, hstate⟩ := hguard
      refine sameCarriers_put hexp rfl (iff_of_true ?_ ?_)
      · show ExpenseState.reconciled ∉ correctedExpenseStates
        decide
      · rw [hstate]
        decide
  | _ => exact .of_expenses rfl

theorem Posting.shrinks {p : Posting} {fresh : Prop} (hguard : p.guard fresh l)
    (himport : p.isImport = false) : Shrinks l (p.write l) := by
  cases hp : p.isCorrected with
  | false => exact (Posting.same hguard himport hp).shrinks
  | true =>
      cases p with
      | corrected expenseId expense state reason =>
          exact fun ext v h => ((carries_corrected hguard.2.2 v).mp h).1
      | _ => exact nomatch hp

theorem Posts.shrinks {fresh : Prop} {ok : Ledger → Posting → Prop}
    (hok : ∀ l p, ok l p → p.isImport = false) (h : Posts fresh ok l l') : Shrinks l l' := by
  refine h.preserve (P := fun m => Shrinks l m) ?_ (.refl l)
  rintro m m' ⟨p, log, hguard, hp, rfl⟩ hm
  exact hm.trans (Posting.shrinks hguard (hok m p hp))

/-- A posting that changes nobody's carriers. -/
def Posting.Still (_ : Ledger) (p : Posting) : Prop := p.isImport = false ∧ p.isCorrected = false

theorem Posts.same (h : Posts False Posting.Still l l') : SameCarriers l l' := by
  refine h.preserve (P := fun m => SameCarriers l m) ?_ (.refl l)
  rintro m m' ⟨p, log, hguard, hp, rfl⟩ hm
  exact hm.trans (Posting.same hguard hp.1 hp.2)

/-! ## One call -/

end Ledger

/-- The two methods that let an expense in. -/
def Op.lets : Op → Bool
  | .importExpense _ => true
  | .supersedeExpense _ _ _ _ _ _ => true
  | _ => false

namespace Ledger

variable [Digest] {l l' : Ledger} {host : Host} {x : Expense}

theorem step_shrinks {c : Call} (h : c.op.lets = false) : Shrinks l (step l c) := by
  have hposts : Posts False (fun _ p => Posting.of c.op p) l (step l c) := step_posts_of False.elim
  refine hposts.shrinks fun m p hp => ?_
  obtain ⟨callHost, op⟩ := c
  cases op with
  | importExpense expense => exact nomatch h
  | supersedeExpense expenseId replacement splits actor reason approvedBy => exact nomatch h
  | reverseExpense expenseId actor reason =>
      rcases hp with ⟨_, rfl⟩ | ⟨_, _, _, rfl⟩
      · rfl
      · rfl
  | assignDonationAllocation donationId allocationId amount daId =>
      obtain ⟨_, rfl, -⟩ := hp
      rfl
  | allocateExpense expenseId allocationId amount eaId =>
      obtain ⟨_, _, rfl, -⟩ := hp
      rfl
  | allocateExpenseSplits expenseId splits =>
      obtain ⟨_, _, rfl⟩ := hp
      rfl
  | approveExpense expenseId approvedBy =>
      obtain ⟨_, rfl⟩ := hp
      rfl
  | reconcileExpense expenseId actor =>
      obtain ⟨_, _, rfl⟩ := hp
      rfl
  | attributeDonorToExpense donorId donationId expenseId allocationId method amount attrId =>
      obtain ⟨_, rfl⟩ := hp
      rfl
  | publishUseOfFundsReceipt expenseId donationId allocationId actor createdAt =>
      obtain ⟨_, rfl, -⟩ := hp
      rfl
  | registerDonor donor =>
      obtain rfl := hp
      rfl
  | importDonation donation =>
      obtain rfl := hp
      rfl
  | registerAllocation allocation =>
      obtain rfl := hp
      rfl
  | attachEvidence evidence =>
      obtain rfl := hp
      rfl
  | _ => exact absurd hp id

theorem importExpense_enters {r : Expense} (h : Returns (importExpense host x) l r l') :
    Enters none x l l' := by
  obtain ⟨-, -, hnew, hstate, -, log, rfl⟩ := importExpense_returns h
  refine ⟨hnew, fun ext e => ?_⟩
  simp only [Carries, Dict.get?_set]
  split
  · rename_i he
    subst he
    have halive : x.state ∉ correctedExpenseStates := by
      rcases hstate with hs | hs
      · rw [hs]
        decide
      · rw [hs]
        decide
    have hnone : l.expenses.get? x.id = none := Dict.get?_eq_none.mpr hnew
    rw [hnone]
    simp [OnSome, halive]
  · rename_i he
    simp [he]

/-- What follows the import of a replacement. -/
theorem same_after_import {superseded : Expense} {expenseId replacementId : Id}
    {splits : List (Id × Decimal.Amount)} {priorReceiptIds : List Id}
    {actor reason approvedBy : String} (l₀ : Ledger) :
    Preserves (SameCarriers l₀) (do
      let _ ← allocateExpenseSplits host replacementId splits
      let approved ← approveExpense host replacementId approvedBy
      audit host "ExpenseSuperseded" "Expense" expenseId actor (.obj [
        ("replacement_id", .str replacementId),
        ("reason", .str reason)])
      let corrections ←
        supersedeCorrections host superseded actor reason replacementId 0 priorReceiptIds
      return (superseded, approved, corrections)) := by
  refine Preserves.bind ?_ fun _ => Preserves.bind ?_ fun approved => Preserves.bind ?_ fun _ =>
    Preserves.bind ?_ fun _ => .pure _
  · refine (allocateExpenseSplits_atomic _ _).preserves fun m eas m' hm h => hm.trans ?_
    exact Posts.same (.single (allocateExpenseSplits_post (fun _ => ⟨rfl, rfl⟩) False.elim h))
  · refine (approveExpense_atomic _ _).preserves fun m r m' hm h => hm.trans ?_
    exact Posts.same (.single (approveExpense_post (fun _ => ⟨rfl, rfl⟩) h))
  · exact .modify fun m hm => hm.trans (.of_expenses rfl)
  · intro m hm
    exact hm.trans (Posts.same (supersedeCorrections_posts (fun _ _ _ => ⟨rfl, rfl⟩) False.elim))

/-- The replacement of a supersession comes in: the old record can be superseded and the
new one imported. -/
def ReplacementEnters (l : Ledger) (expenseId : Id) (replacement : Expense) (reason : String) :
    Prop :=
  l.expenseIn verifiedExpenseStates expenseId = true ∧ replacement.id ≠ expenseId ∧
    l.ImportAccepted (replacementExpense replacement expenseId reason)

instance (l : Ledger) (expenseId : Id) (replacement : Expense) (reason : String) :
    Decidable (ReplacementEnters l expenseId replacement reason) :=
  inferInstanceAs (Decidable (_ ∧ _))

omit [Digest] in
/-- With a replacement that cannot be imported, a supersession takes the old record out. -/
theorem supersedeByUnfit_shrinks {α : Type} (l : Ledger) (expenseId organizationId : Id)
    (replacement : UnfitReplacement) (reason : String) :
    Shrinks l
      (after (supersedeByUnfit expenseId organizationId replacement reason : LedgerM α) l) := by
  have hrun := supersedeByUnfit_run (α := α) l expenseId organizationId replacement reason
  rcases hrun with ⟨_, hrefuses⟩ | ⟨old, e, _, _, hraises⟩
  · rw [hrefuses.after]
    exact .refl l
  · rw [hraises.after]
    exact fun ext e h => ((carries_corrected (by decide) e).mp h).1

/-- A supersession lets its replacement in, or at most takes the old record out. -/
theorem supersedeExpense_enters (host : Host) (l : Ledger) (expenseId : Id) (replacement : Expense)
    (splits : List (Id × Decimal.Amount)) (actor reason approvedBy : String) :
    let l' := after (supersedeExpense host expenseId replacement splits actor reason approvedBy) l
    if ReplacementEnters l expenseId replacement reason then
      Enters (some expenseId) (replacementExpense replacement expenseId reason) l l'
    else Shrinks l l' := by
  intro l'
  rcases supersedeExpense_run host l expenseId replacement splits actor reason approvedBy with
    ⟨hunverified, hrefuses⟩ | ⟨old, hold, hverified, hrun⟩
  · rw [if_neg fun h => Bool.false_ne_true (hunverified.symm.trans h.1)]
    have hsame : l' = l := hrefuses.after
    rw [hsame]
    exact .refl l
  have hin : l.expenseIn verifiedExpenseStates expenseId = true := by
    rw [expenseIn, hold]
    exact decide_eq_true hverified
  have hl' : l' = _ := after_congr hrun
  obtain ⟨flipped, hflipped⟩ : ∃ flipped, flipped =
    l.putExpense expenseId (correctedExpense old .superseded reason) := ⟨_, rfl⟩
  rw [← hflipped] at hl'
  have hgone (ext : String) (e : Id) : Carries flipped ext e ↔ Carries l ext e ∧ e ≠ expenseId :=
    hflipped ▸ carries_corrected (by decide) e
  have hshrinks : Shrinks l flipped := fun ext e h => ((hgone ext e).mp h).1
  rw [hl', supersedeAfterFlip, after_raiseIf_bind]
  by_cases hid : replacement.id = expenseId
  · rw [if_pos hid, if_neg fun h => h.2.1 hid]
    exact hshrinks
  rw [if_neg hid, after_raiseIf_bind]
  by_cases horg : replacement.organizationId ≠ l.organization.id
  · rw [if_pos horg, if_neg fun h => horg h.2.2.1]
    exact hshrinks
  rw [if_neg horg]
  have hkeys (e : Id) : e ∉ flipped.expenses ↔ e ≠ expenseId ∧ e ∉ l.expenses := by
    rw [hflipped]
    exact (not_congr Dict.mem_set).trans not_or
  have haccepted : flipped.ImportAccepted (replacementExpense replacement expenseId reason) ↔
      l.ImportAccepted (replacementExpense replacement expenseId reason) := by
    have hsame : flipped.organization = l.organization := by rw [hflipped]
    rw [ImportAccepted, hsame, hkeys]
    exact and_congr_right fun _ => and_congr_right fun _ => and_congr_left fun _ =>
      ⟨fun h => h.2, fun h => ⟨hid, h⟩⟩
  rcases returns_or_raises (importExpense host (replacementExpense replacement expenseId reason))
    flipped with ⟨r, l₁, himport⟩ | ⟨exc, l₁, himport⟩
  · rw [himport.after_bind, if_pos ⟨hin, hid, haccepted.mp (importExpense_accepts_iff.mp
      ⟨r, l₁, himport⟩)⟩]
    have henters := importExpense_enters himport
    have hgone₁ : Enters (some expenseId) (replacementExpense replacement expenseId reason) l l₁ := by
      refine ⟨((hkeys _).mp henters.new).2, fun ext e => (henters.carries ext e).trans ?_⟩
      refine or_congr_right ?_
      rw [hgone]
      simp
    exact hgone₁.same (same_after_import l₁ l₁ (.refl l₁))
  · have hrefused : ¬ ReplacementEnters l expenseId replacement reason := by
      rintro ⟨-, -, h⟩
      have haccepts : Accepts (importExpense host
          (replacementExpense replacement expenseId reason)) flipped :=
        importExpense_accepts_iff.mpr (haccepted.mpr h)
      obtain ⟨r, l₂, hret⟩ := haccepts
      exact absurd himport hret.not_raises
    rw [himport.after_bind, if_neg hrefused, importExpense_atomic _ _ _ _ himport]
    exact hshrinks

end Ledger

end ImpactRelay
