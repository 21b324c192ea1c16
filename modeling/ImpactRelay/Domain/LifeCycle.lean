/-
# `Domain.LifeCycle` — the life of an expense

Each method writes the expense map through one posting, and a posting moves the
expense it is about along one edge of `ExpenseState.next` (`Posting.movesTo`).  A
correction makes several postings, but of an expense the ledger has it moves at
most one, and once: the replacement of a supersession is new, or it is refused.  So
a call moves each expense by at most one edge (`evolves_step`).

Who approved an expense is the other half.  Only an approval makes an expense
APPROVED, it names who approved, and nobody writes that field of a verified
expense again.
-/
import ImpactRelay.Domain.Writes
import Mathlib

namespace ImpactRelay

open Raise Relation

/-- The states an expense may go on to. -/
def ExpenseState.next : ExpenseState → List ExpenseState
  | .draft => [.approvalPending]
  | .imported | .classificationPending => [.approvalPending, .approved]
  | .approvalPending => [.approved]
  | .approved => [.reconciled, .reversed, .superseded]
  | .reconciled => [.reversed, .superseded]
  | .reversed | .superseded | .rejected => []

def ExpenseState.Moves (s s' : ExpenseState) : Prop := s' = s ∨ s' ∈ s.next

namespace Expense

/-- What an import says of an expense for good. -/
structure SameRecord (x x' : Expense) : Prop where
  id : x'.id = x.id
  organizationId : x'.organizationId = x.organizationId
  vendor : x'.vendor = x.vendor
  amount : x'.amount = x.amount
  currency : x'.currency = x.currency
  purchaseDate : x'.purchaseDate = x.purchaseDate
  category : x'.category = x.category
  description : x'.description = x.description

theorem SameRecord.refl (x : Expense) : x.SameRecord x := ⟨rfl, rfl, rfl, rfl, rfl, rfl, rfl, rfl⟩

theorem SameRecord.trans {x y z : Expense} (h : x.SameRecord y) (h' : y.SameRecord z) :
    x.SameRecord z :=
  ⟨h'.1.trans h.1, h'.2.trans h.2, h'.3.trans h.3, h'.4.trans h.4, h'.5.trans h.5, h'.6.trans h.6,
    h'.7.trans h.7, h'.8.trans h.8⟩

/-- What a call may make of an expense. -/
structure MovesTo (x x' : Expense) : Prop where
  same : x.SameRecord x'
  state : x.state.Moves x'.state
  approver : x.state ∈ verifiedExpenseStates → x'.approvedBy = x.approvedBy

theorem MovesTo.refl (x : Expense) : x.MovesTo x := ⟨.refl x, Or.inl rfl, fun _ => rfl⟩

end Expense

/-- The approval a call asks for: of which expense, and by whom. -/
def Op.approval : Op → Option (Id × String)
  | .approveExpense expenseId approvedBy => some (expenseId, approvedBy)
  | .supersedeExpense _ replacement _ _ _ approvedBy => some (replacement.id, approvedBy)
  | _ => none

namespace Ledger

variable {l l' : Ledger} {host : Host} {e : Id} {x : Expense}

/-! ## One posting -/

namespace Posting

/-- The expense a posting writes. -/
def onExpense : Posting → Option Id
  | imported expense => some expense.id
  | classified expenseId _ _ => some expenseId
  | approved expenseId _ _ => some expenseId
  | reconciled expenseId _ _ => some expenseId
  | corrected expenseId _ _ _ => some expenseId
  | _ => none

theorem get?_write_ne {p : Posting} (h : p.onExpense ≠ some e) :
    (p.write l).expenses.get? e = l.expenses.get? e := by
  have hne : ∀ {expenseId : Id}, some expenseId ≠ some e → e ≠ expenseId := by
    intro expenseId hsome heq
    exact hsome (congrArg some heq.symm)
  cases p with
  | imported expense => exact Dict.get?_set_ne (hne h)
  | classified expenseId expense eas =>
      rw [write, moveToApprovalPending]
      split
      · exact Dict.get?_set_ne (hne h)
      · rfl
  | approved expenseId expense approvedBy => exact Dict.get?_set_ne (hne h)
  | reconciled expenseId expense at_ => exact Dict.get?_set_ne (hne h)
  | corrected expenseId expense state reason => exact Dict.get?_set_ne (hne h)
  | _ => rfl

/-- A posting moves the expense it is about along an edge. -/
theorem movesTo {p : Posting} {fresh : Prop} (hguard : p.guard fresh l)
    (hx : l.expenses.get? e = some x) :
    ∃ x', (p.write l).expenses.get? e = some x' ∧ x.MovesTo x' := by
  by_cases hon : p.onExpense = some e
  swap
  · exact ⟨x, (get?_write_ne hon).trans hx, .refl x⟩
  cases p with
  | imported expense =>
      obtain rfl := Option.some.inj hon
      exact absurd (Dict.mem_of_get? hx) hguard.1
  | classified expenseId expense eas =>
      obtain rfl := Option.some.inj hon
      obtain ⟨hexp, -, hopen, -⟩ := hguard
      rw [hx] at hexp
      obtain rfl := Option.some.inj hexp
      rw [write, moveToApprovalPending]
      split
      · rename_i hstate
        refine ⟨_, Dict.get?_set_self _ _ _, ⟨rfl, rfl, rfl, rfl, rfl, rfl, rfl, rfl⟩, Or.inr ?_,
          fun hv => absurd hv hopen⟩
        change ExpenseState.approvalPending ∈ x.state.next
        simp only [List.mem_cons, List.not_mem_nil, or_false] at hstate
        rcases hstate with hs | hs | hs <;> rw [hs] <;> decide
      · exact ⟨x, hx, .refl x⟩
  | approved expenseId expense approvedBy =>
      obtain rfl := Option.some.inj hon
      obtain ⟨hexp, -, hopen, hstate, -⟩ := hguard
      rw [hx] at hexp
      obtain rfl := Option.some.inj hexp
      refine ⟨_, Dict.get?_set_self _ _ _, ⟨rfl, rfl, rfl, rfl, rfl, rfl, rfl, rfl⟩, Or.inr ?_,
        fun hv => absurd hv hopen⟩
      change ExpenseState.approved ∈ x.state.next
      simp only [List.mem_cons, List.not_mem_nil, or_false] at hstate
      rcases hstate with hs | hs | hs <;> rw [hs] <;> decide
  | reconciled expenseId expense at_ =>
      obtain rfl := Option.some.inj hon
      obtain ⟨hexp, hstate⟩ := hguard
      rw [hx] at hexp
      obtain rfl := Option.some.inj hexp
      refine ⟨_, Dict.get?_set_self _ _ _, ⟨rfl, rfl, rfl, rfl, rfl, rfl, rfl, rfl⟩, Or.inr ?_,
        fun _ => rfl⟩
      change ExpenseState.reconciled ∈ x.state.next
      rw [hstate]
      decide
  | corrected expenseId expense state reason =>
      obtain rfl := Option.some.inj hon
      obtain ⟨hexp, hverified, hcorrected⟩ := hguard
      rw [hx] at hexp
      obtain rfl := Option.some.inj hexp
      refine ⟨_, Dict.get?_set_self _ _ _, ⟨rfl, rfl, rfl, rfl, rfl, rfl, rfl, rfl⟩, Or.inr ?_,
        fun _ => rfl⟩
      change state ∈ x.state.next
      rw [mem_verifiedExpenseStates] at hverified
      rw [mem_correctedExpenseStates] at hcorrected
      rcases hverified with hs | hs <;> rcases hcorrected with rfl | rfl <;> rw [hs] <;> decide
  | _ => cases hon

end Posting

/-- A chain that only corrects the expense moves it once. -/
theorem Posts.movesTo {fresh : Prop} {ok : Ledger → Posting → Prop}
    (hok : ∀ l p, ok l p → p.onExpense = some e →
      ∃ expense state reason, p = .corrected e expense state reason)
    (h : Posts fresh ok l l') (hx : l.expenses.get? e = some x) :
    ∃ x', l'.expenses.get? e = some x' ∧ x.MovesTo x' := by
  have hmoved : ∃ x', l'.expenses.get? e = some x' ∧ x.MovesTo x' ∧
      (x' = x ∨ x'.state ∉ verifiedExpenseStates) := by
    refine h.preserve (P := fun m => ∃ x', m.expenses.get? e = some x' ∧ x.MovesTo x' ∧
      (x' = x ∨ x'.state ∉ verifiedExpenseStates)) ?_ ⟨x, hx, .refl x, Or.inl rfl⟩
    rintro m m' ⟨p, log, hguard, hp, rfl⟩ ⟨y, hy, hmoves, hlast⟩
    by_cases hon : p.onExpense = some e
    · obtain ⟨expense, state, reason, rfl⟩ := hok m p hp hon
      obtain ⟨hexp, hverified, hcorrected⟩ := hguard
      rw [hy] at hexp
      obtain rfl := Option.some.inj hexp
      have hsame : y = x := hlast.resolve_right fun hnot => hnot hverified
      subst hsame
      have hguard : (Posting.corrected e y state reason).guard fresh m := ⟨hy, hverified, hcorrected⟩
      obtain ⟨y', hy', hmoves'⟩ := Posting.movesTo hguard hy
      refine ⟨y', hy', hmoves', Or.inr ?_⟩
      have hy'' : (m.putExpense e (correctedExpense y state reason)).expenses.get? e =
          some (correctedExpense y state reason) := Dict.get?_set_self _ _ _
      obtain rfl := Option.some.inj (hy'.symm.trans hy'')
      change state ∉ verifiedExpenseStates
      rw [mem_correctedExpenseStates] at hcorrected
      rcases hcorrected with rfl | rfl <;> decide
    · exact ⟨y, (Posting.get?_write_ne hon).trans hy, hmoves, hlast⟩
  obtain ⟨x', hx', hmoves, -⟩ := hmoved
  exact ⟨x', hx', hmoves⟩

/-! ## One call -/

/-- Every expense is still there, and has moved along one edge at most. -/
def Evolves (l l' : Ledger) : Prop :=
  ∀ e x, l.expenses.get? e = some x → ∃ x', l'.expenses.get? e = some x' ∧ x.MovesTo x'

variable [Digest]

/-- A supersession whose replacement the ledger has already stops after its flip. -/
theorem supersedeAfterFlip_known {organizationId : Id} {priorReceiptIds : List Id}
    {superseded replacement : Expense} {expenseId : Id} {splits : List (Id × Decimal.Amount)}
    {actor reason approvedBy : String} (hknown : replacement.id ∈ l.expenses) :
    after (supersedeAfterFlip host organizationId priorReceiptIds superseded expenseId replacement
      splits actor reason approvedBy) l = l := by
  rw [supersedeAfterFlip, after_raiseIf_bind]
  split
  · rfl
  rw [after_raiseIf_bind]
  split
  · rfl
  rcases returns_or_raises (importExpense host (replacementExpense replacement expenseId reason)) l
    with ⟨r, l₁, himport⟩ | ⟨exc, l₁, himport⟩
  · obtain ⟨_, _, hnew, _⟩ := importExpense_returns himport
    exact absurd hknown hnew
  · rw [himport.after_bind, importExpense_atomic _ _ _ _ himport]

/-- The postings of a call are its own. -/
theorem step_posts_of {fresh : Prop} {c : Call} (hfresh : fresh → FreshIds l c) :
    Posts fresh (fun _ p => Posting.of c.op p) l (step l c) := by
  cases hc : corrects c.op with
  | false =>
      rcases step_post hc hfresh with heq | hpost
      · rw [heq]
      · exact .single hpost
  | true =>
      obtain ⟨callHost, op⟩ := c
      cases op with
      | reverseExpense expenseId actor reason =>
          rw [step, exec, after_map]
          exact reverseExpense_posts (fun _ _ hof => hof) hfresh
      | supersedeExpense expenseId replacement splits actor reason approvedBy =>
          rw [step, exec, after_map]
          exact supersedeExpense_posts (fun _ _ hof _ => hof) (fun hf => (hfresh hf).2.1)
            (fun hf => (hfresh hf).2.2) fun _ _ _ expense =>
              Or.inr (Or.inr (Or.inr (Or.inl ⟨expense, rfl⟩)))
      | _ => cases hc

theorem evolves_step (l : Ledger) (c : Call) : Evolves l (step l c) := by
  intro e x hx
  have hposts : Posts False (fun _ p => Posting.of c.op p) l (step l c) := step_posts_of False.elim
  cases hc : corrects c.op with
  | false =>
      have hpost : step l c = l ∨ Post False (fun _ p => Posting.of c.op p) l (step l c) :=
        step_post hc False.elim
      rcases hpost with heq | ⟨p, log, hguard, -, heq⟩
      · rw [heq]
        exact ⟨x, hx, .refl x⟩
      · rw [heq]
        exact Posting.movesTo hguard hx
  | true =>
      obtain ⟨callHost, op⟩ := c
      cases op with
      | reverseExpense expenseId actor reason =>
          refine hposts.movesTo (fun _ p hof hon => ?_) hx
          rcases hof with ⟨expense, rfl⟩ | ⟨_, _, _, rfl⟩
          · obtain rfl := Option.some.inj hon
            exact ⟨expense, .reversed, reason, rfl⟩
          · cases hon
      | supersedeExpense expenseId replacement splits actor reason approvedBy =>
          by_cases hknown : replacement.id ∈ l.expenses
          · rw [step, exec, after_map]
            rcases supersedeExpense_run callHost l expenseId replacement splits actor reason
              approvedBy with ⟨_, hrefuses⟩ | ⟨old, hold, hverified, hrun⟩
            · rw [hrefuses.after]
              exact ⟨x, hx, .refl x⟩
            · rw [after_congr hrun, supersedeAfterFlip_known (Dict.mem_set.mpr (Or.inr hknown))]
              have hguard : (Posting.corrected expenseId old .superseded reason).guard False l :=
                ⟨hold, hverified, by decide⟩
              exact Posting.movesTo hguard hx
          · have hne : replacement.id ≠ e := by
              rintro rfl
              exact hknown (Dict.mem_of_get? hx)
            refine hposts.movesTo (fun _ p hof hon => ?_) hx
            rcases hof with ⟨expense, rfl⟩ | rfl | ⟨_, _, rfl⟩ | ⟨_, rfl⟩ | rfl | ⟨_, _, _, rfl⟩
            · obtain rfl := Option.some.inj hon
              exact ⟨expense, .superseded, reason, rfl⟩
            · exact absurd (Option.some.inj hon) hne
            · exact absurd (Option.some.inj hon) hne
            · exact absurd (Option.some.inj hon) hne
            · cases hon
            · cases hon
      | _ => cases hc

/-! ## Who approved it -/

/-- An expense that the call verifies, the call approves, and says who did. -/
theorem approved_step {c : Call} (hbefore : l.expenseIn verifiedExpenseStates e = false)
    (hx : (step l c).expenses.get? e = some x) (hverified : x.state ∈ verifiedExpenseStates) :
    ∃ approvedBy, c.op.approval = some (e, approvedBy) ∧ approvedBy ≠ "" ∧
      x.state = .approved ∧ x.approvedBy = some approvedBy := by
  have hposts : Posts False (fun _ p => Posting.of c.op p) l (step l c) := step_posts_of False.elim
  have hinv := hposts.preserve (P := fun m => ∀ x, m.expenses.get? e = some x →
    x.state ∈ verifiedExpenseStates → ∃ approvedBy, c.op.approval = some (e, approvedBy) ∧
      approvedBy ≠ "" ∧ x.state = .approved ∧ x.approvedBy = some approvedBy) ?_ ?_
  · exact hinv x hx hverified
  · rintro m m' ⟨p, log, hguard, hof, rfl⟩ hm y hy hstate
    by_cases hon : p.onExpense = some e
    swap
    · exact hm y ((Posting.get?_write_ne hon).symm.trans hy) hstate
    cases p with
    | imported expense =>
        obtain rfl := Option.some.inj hon
        have hy' : (m.putExpense expense.id expense).expenses.get? expense.id = some y := hy
        rw [Dict.get?_set_self] at hy'
        obtain rfl := Option.some.inj hy'
        rw [mem_verifiedExpenseStates] at hstate
        rcases hguard.2.2.1 with hs | hs <;> rw [hs] at hstate <;> exact absurd hstate (by decide)
    | classified expenseId expense eas =>
        obtain rfl := Option.some.inj hon
        obtain ⟨hexp, -, hopen, -⟩ := hguard
        have hy' : (moveToApprovalPending expenseId expense
          (replaceExpenseAllocations expenseId eas m)).expenses.get? expenseId = some y := hy
        rw [moveToApprovalPending] at hy'
        split at hy'
        · rw [Dict.get?_set_self] at hy'
          obtain rfl := Option.some.inj hy'
          have hpending : ExpenseState.approvalPending ∉ verifiedExpenseStates := by decide
          exact absurd hstate hpending
        · exact hm y hy' hstate
    | approved expenseId expense approvedBy =>
        obtain rfl := Option.some.inj hon
        have hy' : (m.putExpense expenseId { withExpenseState expense .approved with
          approvedBy := some approvedBy }).expenses.get? expenseId = some y := hy
        rw [Dict.get?_set_self] at hy'
        obtain rfl := Option.some.inj hy'
        refine ⟨approvedBy, ?_, hguard.2.2.2.2.2.2, rfl, rfl⟩
        obtain ⟨callHost, op⟩ := c
        cases op <;> simp_all [Posting.of, Op.approval]
    | reconciled expenseId expense at_ =>
        obtain rfl := Option.some.inj hon
        obtain ⟨hexp, hs⟩ := hguard
        obtain ⟨approvedBy, happroval, -⟩ :=
          hm expense hexp (mem_verifiedExpenseStates.mpr (Or.inl hs))
        obtain ⟨callHost, op⟩ := c
        cases op <;> simp_all [Posting.of, Op.approval]
    | corrected expenseId expense state reason =>
        obtain rfl := Option.some.inj hon
        have hy' : (m.putExpense expenseId (correctedExpense expense state reason)).expenses.get?
          expenseId = some y := hy
        rw [Dict.get?_set_self] at hy'
        obtain rfl := Option.some.inj hy'
        have hcorrected : state ∈ correctedExpenseStates := hguard.2.2
        change state ∈ verifiedExpenseStates at hstate
        rw [mem_correctedExpenseStates] at hcorrected
        rcases hcorrected with rfl | rfl <;> exact absurd hstate (by decide)
    | _ => cases hon
  · intro y hy hstate
    rw [expenseIn, hy] at hbefore
    exact absurd (decide_eq_true hstate) (Bool.eq_false_iff.mp hbefore)

/-- The call of the run at which the expense was approved, and by whom. -/
def ApprovedIn (organization : Organization) (calls : List Call) (e : Id) (x : Expense) : Prop :=
  ∃ before c later approvedBy, calls = before ++ c :: later ∧
    c.op.approval = some (e, approvedBy) ∧ approvedBy ≠ "" ∧
    (run step (.new organization) before).expenseIn verifiedExpenseStates e = false ∧
    (∃ y, (run step (.new organization) (before ++ [c])).expenses.get? e = some y ∧
      y.state = .approved ∧ y.approvedBy = some approvedBy) ∧
    x.approvedBy = some approvedBy

theorem approvedIn_run (organization : Organization) (calls : List Call) (e : Id) (x : Expense)
    (hx : (run step (.new organization) calls).expenses.get? e = some x)
    (hverified : x.state ∈ verifiedExpenseStates) : ApprovedIn organization calls e x := by
  induction calls using List.reverseRecOn generalizing x with
  | nil => cases hx
  | append_singleton calls c ih =>
      have hlast : run step (.new organization) (calls ++ [c]) =
          step (run step (.new organization) calls) c := run_append _ _ _ _
      cases hbefore : (run step (.new organization) calls).expenseIn verifiedExpenseStates e with
      | false =>
          have hx' := hx
          rw [hlast] at hx'
          obtain ⟨approvedBy, happroval, hnamed, hstate, hby⟩ := approved_step hbefore hx' hverified
          exact ⟨calls, c, [], approvedBy, rfl, happroval, hnamed, hbefore, ⟨x, hx, hstate, hby⟩, hby⟩
      | true =>
          -- it was approved before, and the field has stayed
          rw [expenseIn] at hbefore
          split at hbefore
          · cases hbefore
          rename_i y hy
          have hy' : y.state ∈ verifiedExpenseStates := of_decide_eq_true hbefore
          obtain ⟨x', hx', hmoves⟩ := evolves_step (run step (.new organization) calls) c e y hy
          rw [hlast, hx'] at hx
          obtain rfl := Option.some.inj hx
          obtain ⟨before, c', later, approvedBy, rfl, happroval, hnamed, hnot, hthere, hby⟩ :=
            ih y hy hy'
          exact ⟨before, c', later ++ [c], approvedBy, by simp, happroval, hnamed, hnot, hthere,
            (hmoves.approver hy').trans hby⟩

/-! ## Runs -/

/-- Where an expense of the first ledger is in the second. -/
def Persists (l l' : Ledger) : Prop :=
  ∀ e x, l.expenses.get? e = some x → ∃ x', l'.expenses.get? e = some x' ∧ x.SameRecord x' ∧
    ReflTransGen ExpenseState.Moves x.state x'.state ∧
    (x.state ∈ correctedExpenseStates → x'.state = x.state)

omit [Digest] in
theorem moves_of_corrected {s s' : ExpenseState} (h : ReflTransGen ExpenseState.Moves s s')
    (hs : s ∈ correctedExpenseStates) : s' = s := by
  induction h with
  | refl => rfl
  | tail _ hmove ih =>
      subst ih
      rcases hmove with rfl | hnext
      · rfl
      · rw [mem_correctedExpenseStates] at hs
        rcases hs with rfl | rfl <;> exact absurd hnext List.not_mem_nil

theorem persists_run (l : Ledger) (calls : List Call) : Persists l (run step l calls) := by
  intro e x hx
  have hrun : ∃ x', (run step l calls).expenses.get? e = some x' ∧ x.SameRecord x' ∧
      ReflTransGen ExpenseState.Moves x.state x'.state := by
    induction calls using List.reverseRecOn with
    | nil => exact ⟨x, hx, .refl x, .refl⟩
    | append_singleton calls c ih =>
        obtain ⟨y, hy, hsame, hmoves⟩ := ih
        obtain ⟨x', hx', hstep⟩ := evolves_step (run step l calls) c e y hy
        rw [run_append, run_cons, run_nil]
        exact ⟨x', hx', hsame.trans hstep.same, hmoves.tail hstep.state⟩
  obtain ⟨x', hx', hsame, hmoves⟩ := hrun
  exact ⟨x', hx', hsame, hmoves, moves_of_corrected hmoves⟩

/-- Every call of every run moves every expense along one edge at most; from any point of
the run to its end each expense is the same record, a corrected one in the same state; and
who approved a verified one is who approved it in the run. -/
theorem expense_life_cycle (organization : Organization) (calls : List Call) :
    Along step (fun l c => Evolves l (step l c)) (.new organization) calls ∧
      (∀ before later, calls = before ++ later →
        Persists (run step (.new organization) before) (run step (.new organization) calls)) ∧
      ∀ e x, (run step (.new organization) calls).expenses.get? e = some x →
        x.state ∈ verifiedExpenseStates → ApprovedIn organization calls e x := by
  refine ⟨along_of_forall evolves_step, ?_, approvedIn_run organization calls⟩
  rintro before later rfl
  rw [run_append]
  exact persists_run _ later

end Ledger

end ImpactRelay
