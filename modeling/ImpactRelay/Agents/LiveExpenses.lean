/-
# `Agents.LiveExpenses` — several executors over one ledger

An executor builds its index of external source ids when it is made and adds to it
what it imports itself; nothing tells it what another executor imports, what a
failed import or supersession has left in the ledger, or what the replacement of a
supersession carries.  `entering` is the expense a command lets into the ledger, and
`KeepsApart` says that its record has no live expense yet.
-/
import ImpactRelay.Agents.Aggregates
import ImpactRelay.Agents.Fates
import ImpactRelay.Domain.LiveExpenses

namespace ImpactRelay

open Raise

namespace LedgerCommandExecutor

/-! ## The expense a command lets in -/

/-- `None` when the reading fails. -/
def given {α β : Type} (r : Except PyExc α) (f : α → Option β) : Option β :=
  match r with
  | .ok a => f a
  | .error _ => none

/-- The new expense of an import whose record the executor does not know. -/
def imported (host : Host) (s : LedgerCommandExecutor) (expense : Option NormalizedRow) :
    Option (Option Id × Expense) :=
  given (need "expense" expense) fun row =>
    given (need "external_source_id" row.externalSourceId) fun ext =>
      if ext ∈ s.externalIndex then none
      else
        given (expenseOfRow host s.ledger ext row) fun x =>
          if s.ledger.ImportAccepted x then some (none, x) else none

/-- The replacement of a supersession, and the expense whose place it takes. -/
def replaced (host : Host) (s : LedgerCommandExecutor) (p : SupersedePayload) :
    Option (Option Id × Expense) :=
  given (supersedeArgs p) fun a =>
    if s.ledger.expenseIn [.superseded] a.1 then none
    else
      given (replacementArgs host s.ledger p) fun r =>
        match r.1 with
        | .unfit _ => none
        | .fit replacement =>
            if s.ledger.ReplacementEnters a.1 replacement a.2.2 then
              some (some a.1, Ledger.replacementExpense replacement a.1 a.2.2)
            else none

/-- The expense that the handler of a payload lets into the ledger. -/
def entering (host : Host) (s : LedgerCommandExecutor) : Payload → Option (Option Id × Expense)
  | .importNormalizedExpense expense => imported host s expense
  | .supersedeExpense p => replaced host s p
  | _ => none

/-- What a handler does to the carriers. -/
def LetsIn (o : Option (Option Id × Expense)) (l l' : Ledger) : Prop :=
  match o with
  | some (gone, x) => l.Enters gone x l'
  | none => l.Shrinks l'

section Handlers

variable [Digest] {host : Host} {s : LedgerCommandExecutor}

omit [Digest] in
theorem letsIn_given {α β : Type} {r : Except PyExc α} {f : α → Option (Option Id × Expense)}
    {g : α → ExecutorM β}
    (h : ∀ a, r = .ok a → LetsIn (f a) s.ledger (after (g a) s).ledger) :
    LetsIn (given r f) s.ledger (after (okOrRaise r >>= g) s).ledger := by
  cases hr : r with
  | ok a => exact h a hr
  | error e => exact .refl s.ledger

theorem attachEvidenceField_expenses {expenseId : Id} {field : EvidenceField}
    (m : Dict Id Expense) : Preserves (fun t : LedgerCommandExecutor => t.ledger.expenses = m)
      (attachEvidenceField host expenseId field) := by
  cases field with
  | notIterable typeName => exact .throw _
  | items items =>
      rw [attachEvidenceField]
      generalize (0 : Nat) = i
      induction items generalizing i with
      | nil => exact .pure _
      | cons item items ih =>
          cases item with
          | other typeName => exact .throw _
          | mapping id kind summary donorVisible =>
              rw [attachAll]
              cases evidenceId host i id with
              | unhashable typeName repr => exact .throw _
              | text key =>
                  refine Preserves.bind ?_ fun _ => ih (i + 1)
                  intro t ht
                  rw [after_onLedger]
                  refine (Ledger.attachEvidence_atomic _).preserves
                    (P := fun l => l.expenses = m) (fun l r l' hl h => ?_) t.ledger ht
                  obtain ⟨-, log, rfl⟩ := Ledger.attachEvidence_returns h
                  exact hl

theorem importNormalized_letsIn (expense : Option NormalizedRow) :
    LetsIn (imported host s expense) s.ledger (after (importNormalized host expense) s).ledger := by
  refine letsIn_given fun row _ => letsIn_given fun ext _ => ?_
  rw [after_get_bind]
  cases hidx : s.externalIndex.get? ext with
  | some eid =>
      rw [if_pos (Dict.mem_of_get? hidx)]
      exact .refl s.ledger
  | none =>
      rw [if_neg (Dict.get?_eq_none.mp hidx)]
      refine letsIn_given fun x _ => ?_
      rcases returns_or_raises (Ledger.importExpense host x) s.ledger with
        ⟨r, l', h⟩ | ⟨exc, l', h⟩
      · have himport : Returns (onLedger (Ledger.importExpense host x)) s r
            { s with ledger := l' } := returns_within.mpr ⟨l', h, rfl⟩
        rw [if_pos (Ledger.importExpense_accepts_iff.mp ⟨r, l', h⟩), himport.after_bind]
        refine (Ledger.importExpense_enters h).same (.of_expenses ?_)
        have hrest : Preserves (fun t : LedgerCommandExecutor => t.ledger.expenses = l'.expenses)
            (do attachEvidenceField host x.id row.evidence
                modify fun s => { s with externalIndex := s.externalIndex.set ext x.id }
                return [x.id]) :=
          (attachEvidenceField_expenses l'.expenses).bind fun _ =>
            Preserves.bind (.modify fun _ ht => ht) fun _ => .pure _
        exact hrest { s with ledger := l' } rfl
      · have hrefused : ¬ s.ledger.ImportAccepted x := by
          intro haccepted
          have haccepts : Accepts (Ledger.importExpense host x) s.ledger :=
            Ledger.importExpense_accepts_iff.mpr haccepted
          obtain ⟨r, l'', hret⟩ := haccepts
          exact absurd h hret.not_raises
        have himport : Raises (onLedger (Ledger.importExpense host x)) s exc
            { s with ledger := l' } := raises_within.mpr ⟨l', h, rfl⟩
        rw [if_neg hrefused, himport.after_bind, Ledger.importExpense_atomic _ _ _ _ h]
        exact .refl s.ledger

theorem supersedeExpense_letsIn (p : SupersedePayload) :
    LetsIn (replaced host s p) s.ledger (after (supersedeExpense host p) s).ledger := by
  refine letsIn_given fun a _ => ?_
  rw [after_get_bind]
  by_cases hdone : s.ledger.expenseIn [.superseded] a.1 = true
  · rw [if_pos hdone]
    dsimp only
    rw [if_pos hdone]
    exact .refl s.ledger
  rw [if_neg hdone]
  dsimp only
  rw [if_neg hdone]
  refine letsIn_given fun r _ => ?_
  obtain ⟨expenseId, actor, reason⟩ := a
  obtain ⟨replacement, splits⟩ := r
  dsimp only
  cases replacement with
  | unfit replacement =>
      dsimp only
      rw [after_onLedger]
      exact Ledger.supersedeByUnfit_shrinks s.ledger expenseId _ replacement reason
  | fit replacement =>
  dsimp only
  have hledger : (after (do
      let result ← onLedger (Ledger.supersedeExpense host expenseId replacement splits actor reason
        (truthyOr p.approvedBy actor))
      okOrRaise (assertIndexable p.externalSourceId)
      modify fun s => { s with externalIndex := indexExternal result.2.1 s.externalIndex }
      return expenseId :: result.2.1.id :: result.2.2.map (·.receiptId)) s).ledger =
        after (Ledger.supersedeExpense host expenseId replacement splits actor reason
          (truthyOr p.approvedBy actor)) s.ledger := by
    rw [← after_onLedger]
    rcases returns_or_raises (onLedger (Ledger.supersedeExpense host expenseId replacement splits
      actor reason (truthyOr p.approvedBy actor))) s with ⟨r, s₁, h⟩ | ⟨exc, s₁, h⟩
    · rw [h.after_bind, h.after]
      cases assertIndexable p.externalSourceId <;> rfl
    · rw [h.after_bind, h.after]
  rw [hledger]
  have henters := Ledger.supersedeExpense_enters host s.ledger expenseId replacement splits actor
    reason (truthyOr p.approvedBy actor)
  dsimp only at henters
  split
  · rename_i hin
    rw [if_pos hin] at henters
    exact henters
  · rename_i hin
    rw [if_neg hin] at henters
    exact henters

/-- A ledger method that lets nothing in. -/
theorem onLedger_shrinks {α : Type} {x : LedgerM α} (op : Op) (l : Ledger)
    (hexec : Ledger.exec host op = (fun _ => ()) <$> x) (hlets : op.lets = false) :
    Preserves (fun t : LedgerCommandExecutor => l.Shrinks t.ledger) (onLedger x) := by
  intro t ht
  have hstep : Ledger.Shrinks t.ledger (Ledger.step t.ledger ⟨host, op⟩) := Ledger.step_shrinks hlets
  rw [Ledger.step, hexec, after_map] at hstep
  rw [after_onLedger]
  exact ht.trans hstep

/-- The handlers let in what `entering` says. -/
theorem handle_letsIn [Json.CharTable] (payload : Payload) :
    LetsIn (entering host s payload) s.ledger (after (handle host payload) s).ledger := by
  have hshrinks (P : Preserves (fun t : LedgerCommandExecutor => s.ledger.Shrinks t.ledger)
      (handle host payload)) : s.ledger.Shrinks (after (handle host payload) s).ledger :=
    P s (.refl s.ledger)
  cases payload with
  | importNormalizedExpense expense => exact importNormalized_letsIn expense
  | supersedeExpense p => exact supersedeExpense_letsIn p
  | allocateExpense p =>
      exact hshrinks (Preserves.bind .get fun _ => Preserves.bind (.okOrRaise _) fun a =>
        Preserves.bind (onLedger_shrinks (.allocateExpense a.1 a.2.1 a.2.2 none) _ rfl rfl)
          fun _ => .pure _)
  | approveExpense p =>
      exact hshrinks (Preserves.bind (.okOrRaise _) fun a =>
        Preserves.bind (onLedger_shrinks (.approveExpense a.1 a.2) _ rfl rfl) fun _ => .pure _)
  | rejectExpense p =>
      exact hshrinks (Preserves.bind (.okOrRaise _) fun _ => Preserves.bind .get fun _ =>
        Preserves.bind (.raiseIf _ _) fun _ => .pure _)
  | publishUseOfFundsReceipt p =>
      exact hshrinks (Preserves.bind (.okOrRaise _) fun a =>
        Preserves.bind (onLedger_shrinks (.attributeDonorToExpense a.donorId a.donationId
          a.expenseId a.allocationId a.method (some a.amount) none) _ rfl rfl) fun _ =>
        Preserves.bind (onLedger_shrinks (.publishUseOfFundsReceipt a.expenseId a.donationId
          a.allocationId a.actor p.createdAt) _ rfl rfl) fun _ =>
        Preserves.bind (.okOrRaise _) fun _ => .pure _)
  | sendNotification p =>
      exact hshrinks (Preserves.bind .get fun _ => Preserves.bind (.okOrRaise _) fun _ =>
        .within fun _ _ ht => ht)
  | reverseExpense p =>
      refine hshrinks (Preserves.bind (.okOrRaise _) fun a => Preserves.bind .get fun t => ?_)
      split
      · exact .pure _
      · exact Preserves.bind (onLedger_shrinks (.reverseExpense a.1 a.2.1 a.2.2) _ rfl rfl)
          fun _ => .pure _
  | unsupported commandType => exact hshrinks (.throw _)

end Handlers

/-! ## The executors of a ledger -/

/-- A ledger and the executors made over it so far. -/
structure Shared where
  ledger : Ledger
  executors : List LedgerCommandExecutor := []

namespace Shared

/-- What happens to a ledger whose expenses come in by commands. -/
inductive Event where
  /-- `LedgerCommandExecutor(ledger, …)` with the other fields of this one -/
  | create (executor : LedgerCommandExecutor)
  /-- `execute` of the `i`-th executor; the receipt store is as the others have left it. -/
  | command (i : Nat) (store : Option ReceiptStore) (o : Outside) (command : AgentCommand)
      (approval : Option ApprovalReceipt) (agentName : Option String)
      (proposal : Option AgentProposal)
  /-- a method of the ledger, called directly -/
  | call (c : Ledger.Call)

/-- The direct calls let no expense in. -/
def Event.ThroughCommands : Event → Prop
  | .call c => c.op.lets = false
  | _ => True

/-- An executor with the ledger and the receipt store as they are now. -/
def present (s : Shared) (store : Option ReceiptStore) (executor : LedgerCommandExecutor) :
    LedgerCommandExecutor :=
  { executor with ledger := s.ledger, receiptStore := store }

section Runs

variable [Digest] [Json.CharTable]

def step (s : Shared) : Event → Shared
  | .create executor =>
      { s with executors := s.executors ++
          [{ executor with ledger := s.ledger, externalIndex := s.ledger.externalIndex }] }
  | .command i store o command approval agentName proposal =>
      match s.executors[i]? with
      | none => s
      | some executor =>
          let executor' := after (execute o command approval agentName proposal)
            (s.present store executor)
          { ledger := executor'.ledger, executors := s.executors.set i executor' }
  | .call c => { s with ledger := Ledger.step s.ledger c }

/-- The record of an expense that a command lets in has no live expense but the one whose
place it takes. -/
def KeepsApart (s : Shared) : Event → Prop
  | .command i store o command approval agentName proposal =>
      ∀ executor, s.executors[i]? = some executor →
        Handles o (s.present store executor) command approval agentName proposal →
        ∀ gone x, entering o.host (s.present store executor) command.payload = some (gone, x) →
          ∀ ext, x.externalSourceId = some ext → ext ≠ "" →
            ∀ e, s.ledger.Carries ext e → some e = gone
  | _ => True

theorem oneLive_step_iff {s : Shared} {event : Event} (hone : s.ledger.OneLive)
    (hthrough : event.ThroughCommands) :
    (s.step event).ledger.OneLive ↔ s.KeepsApart event := by
  cases event with
  | create executor => exact iff_of_true hone trivial
  | call c => exact iff_of_true (hone.shrinks (Ledger.step_shrinks hthrough)) trivial
  | command i store o command approval agentName proposal =>
      rw [step, KeepsApart]
      cases hi : s.executors[i]? with
      | none => exact iff_of_true hone fun _ h => nomatch h
      | some executor =>
          dsimp only
          rw [after_execute_ledger]
          by_cases hhandles : Handles o (s.present store executor) command approval agentName proposal
          swap
          · rw [if_neg hhandles]
            refine iff_of_true hone fun e he h => ?_
            obtain rfl := Option.some.inj he
            exact absurd h hhandles
          rw [if_pos hhandles]
          have hletsIn : LetsIn (entering o.host (s.present store executor) command.payload)
              s.ledger _ := handle_letsIn command.payload
          cases hentering : entering o.host (s.present store executor) command.payload with
          | none =>
              rw [hentering] at hletsIn
              refine iff_of_true (hone.shrinks hletsIn) fun e he _ gone x hx => ?_
              obtain rfl := Option.some.inj he
              exact absurd (hentering.symm.trans hx) nofun
          | some entry =>
              obtain ⟨gone, x⟩ := entry
              rw [hentering] at hletsIn
              have hiff := Ledger.Enters.oneLive_iff hletsIn hone
              refine hiff.trans ⟨fun h e he _ gone' x' hx' => ?_, fun h => ?_⟩
              · obtain rfl := Option.some.inj he
                obtain ⟨rfl, rfl⟩ := Prod.mk.inj (Option.some.inj (hentering.symm.trans hx'))
                exact h
              · exact h executor rfl hhandles gone x hentering

/-- In every run in which expenses come in by the commands of any number of executors,
each accounting record has at most one live expense all along exactly if no command
lets in an expense for a record that has one already. -/
theorem oneLive_run_iff (organization : Organization) (events : List Event)
    (hthrough : ∀ event ∈ events, event.ThroughCommands) :
    (∀ past, past <+: events → (run step ⟨.new organization, []⟩ past).ledger.OneLive) ↔
      Along step KeepsApart ⟨.new organization, []⟩ events :=
  forall_run_iff (I := fun _ => True) (P := fun s : Shared => s.ledger.OneLive)
    (fun _ _ _ _ => trivial) (fun _ _ _ hevent hone => oneLive_step_iff hone hevent) trivial
    (Ledger.OneLive.new organization) (along_of_mem hthrough)

end Runs

section Sample

attribute [local instance] Digest.plain Json.CharTable.all

/-- The `i`-th executor imports the accounting record under this expense id. -/
def importRecord (i : Nat) (expenseId : Id) : Event :=
  .command i none { host := .numbered i }
    { tenantId := "org", idempotencyKey := expenseId,
      payload := .importNormalizedExpense (some {
        externalSourceId := some "acct-1", expenseId := some expenseId, vendor := some "Vendor",
        amount := some (.finite 50 0), purchaseDate := some "2026-01-02", evidence := .items [] }) }
    none none none

/-- Two executors are made over an empty ledger, and each imports the record. -/
def importedTwice : List Event :=
  [.create (.new (.new Ledger.Sample.organization) false none),
    .create (.new (.new Ledger.Sample.organization) false none),
    importRecord 0 "first", importRecord 1 "second"]

theorem importedTwice_through : ∀ event ∈ importedTwice, event.ThroughCommands := by
  simp [importedTwice, importRecord, Event.ThroughCommands]

theorem importedTwice_oneLive_iff :
    (∀ past, past <+: importedTwice →
        (run step ⟨.new Ledger.Sample.organization, []⟩ past).ledger.OneLive) ↔
      Along step KeepsApart ⟨.new Ledger.Sample.organization, []⟩ importedTwice :=
  oneLive_run_iff Ledger.Sample.organization importedTwice importedTwice_through

/-- The second executor does not know what the first one has imported. -/
theorem imported_twice_live : ¬ ∀ (organization : Organization) (events : List Event),
    (∀ event ∈ events, event.ThroughCommands) →
      (run step ⟨.new organization, []⟩ events).ledger.OneLive := by
  intro h
  have hone := h Ledger.Sample.organization importedTwice importedTwice_through
  have hfirst : Ledger.Carries (run step ⟨.new Ledger.Sample.organization, []⟩ importedTwice).ledger
      "acct-1" "first" := by decide +kernel
  have hsecond : Ledger.Carries (run step ⟨.new Ledger.Sample.organization, []⟩ importedTwice).ledger
      "acct-1" "second" := by decide +kernel
  exact absurd (hone "acct-1" (by decide) "first" "second" hfirst hsecond) (by decide)

end Sample

end Shared

end LedgerCommandExecutor

end ImpactRelay
