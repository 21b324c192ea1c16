/-
# `Agents.Aggregates` — the frame of the operations on one donation or expense

Three ledger methods and two commands of the executor write designations, evidence and
charges.  The command that classifies draws the identifier of the charge; the one that
imports takes those of the evidence from the imported row, so what `Domain.Aggregates`
says of a call the ledger is asked directly holds of an import, item by item.
-/
import ImpactRelay.Agents.Replay
import ImpactRelay.Domain.Aggregates

namespace ImpactRelay

open Raise

namespace LedgerCommandExecutor

/-! ## The evidence of an import -/

section Import

/-- The records the loop attaches: those before the first item that is no mapping, or whose
id is no key. -/
def attachedRecords (host : Host) (expenseId : Id) : Nat → List EvidenceItem → List EvidenceRecord
  | _, [] => []
  | _, .other _ :: _ => []
  | i, .mapping id kind summary donorVisible :: items =>
      match evidenceId host i id with
      | .unhashable _ _ => []
      | .text key =>
          evidenceRecord expenseId key kind summary donorVisible ::
            attachedRecords host expenseId (i + 1) items

def attachedField (host : Host) (expenseId : Id) : EvidenceField → List EvidenceRecord
  | .items items => attachedRecords host expenseId 0 items
  | .notIterable _ => []

/-- Nothing when the reading fails. -/
def recordsGiven {α β : Type} (r : Except PyExc α) (f : α → List β) : List β :=
  match r with
  | .ok a => f a
  | .error _ => []

/-- The evidence an import attaches: none when it is refused, or known already. -/
def importedEvidence (host : Host) (s : LedgerCommandExecutor) (expense : Option NormalizedRow) :
    List EvidenceRecord :=
  recordsGiven (need "expense" expense) fun row =>
    recordsGiven (need "external_source_id" row.externalSourceId) fun ext =>
      if ext ∈ s.externalIndex then []
      else
        recordsGiven (expenseOfRow host s.ledger ext row) fun e =>
          if s.ledger.ImportAccepted e then attachedField host e.id row.evidence else []

/-- What an import is about. -/
def importAggregate (host : Host) (expense : Option NormalizedRow) : Option Aggregate :=
  expense.map fun row => .expense (truthyOr row.expenseId (host.newId "exp" 0))

variable {s s' : LedgerCommandExecutor} {host : Host}

theorem attachedRecords_expenseId {expenseId : Id} {items : List EvidenceItem} {i : Nat}
    {r : EvidenceRecord} (h : r ∈ attachedRecords host expenseId i items) :
    r.expenseId = expenseId := by
  induction items generalizing i with
  | nil => exact absurd h List.not_mem_nil
  | cons item items ih =>
      cases item with
      | other typeName => exact absurd h List.not_mem_nil
      | mapping id kind summary donorVisible =>
          rw [attachedRecords] at h
          cases hkey : evidenceId host i id with
          | unhashable typeName repr =>
              rw [hkey] at h
              exact absurd h List.not_mem_nil
          | text key =>
              rw [hkey] at h
              rcases List.mem_cons.mp h with rfl | h
              · rfl
              · exact ih h

theorem expenseOfRow_id {l : Ledger} {ext : String} {row : NormalizedRow} {e : Expense}
    (h : expenseOfRow host l ext row = .ok e) :
    e.id = truthyOr row.expenseId (host.newId "exp" 0) := by
  rw [expenseOfRow, expenseOf] at h
  simp only [except_bind_eq_ok] at h
  obtain ⟨_, ⟨_, _, _, _, _, _, hrecord⟩, _, _, h⟩ := h
  cases hrecord
  cases h
  rfl

theorem mem_recordsGiven {α β : Type} {r : Except PyExc α} {f : α → List β} {b : β} :
    b ∈ recordsGiven r f ↔ ∃ a, r = .ok a ∧ b ∈ f a := by
  cases r with
  | ok a => simp [recordsGiven]
  | error e => simp [recordsGiven]

/-- Everything an import attaches is of the expense it imports. -/
theorem importedEvidence_aggregate {expense : Option NormalizedRow} {r : EvidenceRecord}
    (h : r ∈ importedEvidence host s expense) : r.aggregate = importAggregate host expense := by
  obtain ⟨row, hrow, h⟩ := mem_recordsGiven.mp h
  obtain ⟨ext, -, h⟩ := mem_recordsGiven.mp h
  obtain ⟨-, h⟩ := List.mem_ite_nil_left.mp h
  obtain ⟨e, he, h⟩ := mem_recordsGiven.mp h
  obtain ⟨-, h⟩ := List.mem_ite_nil_right.mp h
  cases expense with
  | none => exact nomatch hrow
  | some row' =>
      obtain rfl : row' = row := Except.ok.inj hrow
      cases hfield : row'.evidence with
      | notIterable typeName =>
          rw [hfield] at h
          exact absurd h List.not_mem_nil
      | items items =>
          rw [hfield] at h
          rw [EvidenceRecord.aggregate, attachedRecords_expenseId h, expenseOfRow_id he]
          rfl

variable [Digest]

/-- The evidence is this; the designations and the charges are what they were. -/
def EvidenceSet (l l' : Ledger) (records : List EvidenceRecord) : Prop :=
  l'.evidence = l.evidence.setAll (·.id) records ∧
    l'.donationAllocations = l.donationAllocations ∧ l'.expenseAllocations = l.expenseAllocations

theorem after_attachAll {expenseId : Id} {items : List EvidenceItem} {i : Nat}
    (hexp : expenseId ∈ s.ledger.expenses) :
    EvidenceSet s.ledger (after (attachAll host expenseId i items) s).ledger
      (attachedRecords host expenseId i items) := by
  induction items generalizing i s with
  | nil => exact ⟨rfl, rfl, rfl⟩
  | cons item items ih =>
      cases item with
      | other typeName => exact ⟨rfl, rfl, rfl⟩
      | mapping id kind summary donorVisible =>
          rw [attachAll, attachedRecords]
          cases evidenceId host i id with
          | unhashable typeName repr => exact ⟨rfl, rfl, rfl⟩
          | text key =>
              obtain ⟨r, l', hret⟩ : Accepts (Ledger.attachEvidence host
                  (evidenceRecord expenseId key kind summary donorVisible)) s.ledger :=
                Ledger.attachEvidence_accepts_iff.mpr hexp
              have hstep : Returns (onLedger (Ledger.attachEvidence host
                  (evidenceRecord expenseId key kind summary donorVisible))) s r
                  { s with ledger := l' } := returns_within.mpr ⟨l', hret, rfl⟩
              obtain ⟨_, log, rfl⟩ := Ledger.attachEvidence_returns hret
              dsimp only
              rw [hstep.after_bind]
              exact ih hexp

theorem after_attachEvidenceField {expenseId : Id} {field : EvidenceField}
    (hexp : expenseId ∈ s.ledger.expenses) :
    EvidenceSet s.ledger (after (attachEvidenceField host expenseId field) s).ledger
      (attachedField host expenseId field) := by
  cases field with
  | items items => exact after_attachAll hexp
  | notIterable typeName => exact ⟨rfl, rfl, rfl⟩

omit [Digest] in
theorem evidenceSet_given {α β : Type} {r : Except PyExc α} {f : α → List EvidenceRecord}
    {g : α → ExecutorM β}
    (h : ∀ a, r = .ok a → EvidenceSet s.ledger (after (g a) s).ledger (f a)) :
    EvidenceSet s.ledger (after (okOrRaise r >>= g) s).ledger (recordsGiven r f) := by
  cases hr : r with
  | ok a => exact h a hr
  | error e => exact ⟨rfl, rfl, rfl⟩

/-- An import attaches its evidence, as far as it comes, and touches no designation and no
charge. -/
theorem after_importNormalized (expense : Option NormalizedRow) :
    EvidenceSet s.ledger (after (importNormalized host expense) s).ledger
      (importedEvidence host s expense) := by
  refine evidenceSet_given fun row _ => evidenceSet_given fun ext _ => ?_
  rw [after_get_bind]
  cases hidx : s.externalIndex.get? ext with
  | some eid =>
      rw [if_pos (Dict.mem_of_get? hidx)]
      exact ⟨rfl, rfl, rfl⟩
  | none =>
      rw [if_neg (Dict.get?_eq_none.mp hidx)]
      refine evidenceSet_given fun e _ => ?_
      rcases returns_or_raises (Ledger.importExpense host e) s.ledger with
        ⟨r, l', h⟩ | ⟨exc, l', h⟩
      · rw [if_pos (Ledger.importExpense_accepts_iff.mp ⟨r, l', h⟩)]
        have himport : Returns (onLedger (Ledger.importExpense host e)) s r
            { s with ledger := l' } := returns_within.mpr ⟨l', h, rfl⟩
        obtain ⟨-, -, -, -, -, log, rfl⟩ := Ledger.importExpense_returns h
        obtain ⟨imported, himported⟩ : ∃ imported : LedgerCommandExecutor, imported = { s with
            ledger := { s.ledger with
              expenses := s.ledger.expenses.set e.id e, auditLog := log } } := ⟨_, rfl⟩
        have hexp : e.id ∈ imported.ledger.expenses := by
          rw [himported]
          exact Dict.mem_set.mpr (Or.inl rfl)
        have hattach : EvidenceSet imported.ledger
            (after (attachEvidenceField host e.id row.evidence) imported).ledger
            (attachedField host e.id row.evidence) := after_attachEvidenceField hexp
        rw [himported] at hattach
        rw [himport.after_bind]
        -- what follows the evidence is the index of imported sources
        rcases returns_or_raises (attachEvidenceField host e.id row.evidence)
          { s with ledger := { s.ledger with
            expenses := s.ledger.expenses.set e.id e, auditLog := log } } with
          ⟨u, s₁, hu⟩ | ⟨exc, s₁, hu⟩
        · rw [hu.after] at hattach
          rw [hu.after_bind]
          exact hattach
        · rw [hu.after] at hattach
          rw [hu.after_bind]
          exact hattach
      · have hrefused : ¬ s.ledger.ImportAccepted e := by
          intro haccepted
          have haccepts : Accepts (Ledger.importExpense host e) s.ledger :=
            Ledger.importExpense_accepts_iff.mpr haccepted
          obtain ⟨r, l'', hret⟩ := haccepts
          exact absurd h hret.not_raises
        have himport : Raises (onLedger (Ledger.importExpense host e)) s exc
            { s with ledger := l' } := raises_within.mpr ⟨l', h, rfl⟩
        rw [if_neg hrefused, himport.after_bind, Ledger.importExpense_atomic _ _ _ _ h]
        exact ⟨rfl, rfl, rfl⟩

end Import

/-! ## What an execution does to the ledger -/

section Execution

variable [Digest] [Json.CharTable] {s : LedgerCommandExecutor} {o : Outside}
  {command : AgentCommand} {approval : Option ApprovalReceipt} {agentName : Option String}
  {proposal : Option AgentProposal}

/-- The handler is run: past the gates, under a new key, and for its own tenant. -/
def Handles (o : Outside) (s : LedgerCommandExecutor) (command : AgentCommand)
    (approval : Option ApprovalReceipt) (agentName : Option String)
    (proposal : Option AgentProposal) : Prop :=
  ReachesHandler o s command approval agentName proposal ∧
    command.tenantId = s.ledger.organization.id

instance (o : Outside) (s : LedgerCommandExecutor) (command : AgentCommand)
    (approval : Option ApprovalReceipt) (agentName : Option String)
    (proposal : Option AgentProposal) :
    Decidable (Handles o s command approval agentName proposal) :=
  inferInstanceAs (Decidable (_ ∧ _))

/-- The log is behind the ledger: what the dispatch leaves of the ledger, the logged
dispatch leaves. -/
theorem after_loggedDispatch_ledger (host : Host) (command : AgentCommand) :
    (after (loggedDispatch host command) s).ledger = (after (dispatch host command) s).ledger := by
  rcases returns_or_raises (dispatch host command) s with ⟨refs, s₁, h⟩ | ⟨e, s₁, h⟩
  · rw [(returns_loggedDispatch.mpr ⟨s₁, h, rfl⟩).after, h.after]
    obtain ⟨log, hlog⟩ := logResult_eq command refs s₁
    rw [hlog]
  · rw [h.after, loggedDispatch, h.after_bind]

theorem after_execute_of_reaches
    (hreach : ReachesHandler o s command approval agentName proposal) :
    (after (execute o command approval agentName proposal) s).ledger =
      (after (dispatch o.host command) s).ledger := by
  have hat := (dispatchAndStore_at (s := s) o command approval).1
  rcases returns_or_raises (attempt (dispatchAndStore o command approval)) s with
    ⟨result, s₁, h⟩ | ⟨e, s₁, h⟩
  · obtain ⟨receipt, -, -, hret⟩ := execute_of_attempt hreach h
    rw [← after_attempt, h.after] at hat
    rw [hret.after, ← after_loggedDispatch_ledger, ← hat]
    rfl
  · exact absurd h not_raises_attempt

/-- An execution does to the ledger what its handler does, or nothing. -/
theorem after_execute_ledger :
    (after (execute o command approval agentName proposal) s).ledger =
      if Handles o s command approval agentName proposal then
        (after (handle o.host command.payload) s).ledger
      else s.ledger := by
  by_cases hreach : ReachesHandler o s command approval agentName proposal
  · rw [after_execute_of_reaches hreach, dispatch, after_get_bind, after_raiseIf_bind]
    by_cases htenant : command.tenantId = s.ledger.organization.id
    · rw [if_neg (not_not.mpr htenant), if_pos ⟨hreach, htenant⟩]
    · rw [if_pos htenant, if_neg fun h => htenant h.2]
  · rw [if_neg fun h => hreach h.1]
    rcases execute_at (s := s) o command approval agentName proposal with hat | ⟨h, -⟩
    · exact hat.1
    · exact absurd h hreach

end Execution

/-! ## The operations on one donation or one expense -/

/-- A method of the ledger, or a command given to its executor. -/
inductive Operation where
  | assignDonationAllocation (host : Host) (donationId allocationId : Id)
      (amount : Decimal.Amount) (donationAllocationId : Option Id)
  | attachEvidence (host : Host) (evidence : EvidenceRecord)
  | allocateExpense (host : Host) (expenseId allocationId : Id) (amount : Decimal.Amount)
      (expenseAllocationId : Option Id)
  | importCommand (o : Outside) (command : AgentCommand) (approval : Option ApprovalReceipt)
      (agentName : Option String) (proposal : Option AgentProposal)
      (expense : Option NormalizedRow)
  | allocateCommand (o : Outside) (command : AgentCommand) (approval : Option ApprovalReceipt)
      (agentName : Option String) (proposal : Option AgentProposal) (p : AllocatePayload)

namespace Operation

/-- The donation or expense the operation is about. -/
def own : Operation → Option Aggregate
  | .assignDonationAllocation _ donationId _ _ _ => some (.donation donationId)
  | .attachEvidence _ evidence => evidence.aggregate
  | .allocateExpense _ expenseId _ _ _ => some (.expense expenseId)
  | .importCommand o _ _ _ _ expense => importAggregate o.host expense
  | .allocateCommand _ _ _ _ _ p => p.expenseId.map .expense

variable [Digest] [Json.CharTable]

/-- The executor after the operation. -/
def run (s : LedgerCommandExecutor) : Operation → LedgerCommandExecutor
  | .assignDonationAllocation host donationId allocationId amount daId =>
      after (onLedger (Ledger.assignDonationAllocation host donationId allocationId amount daId)) s
  | .attachEvidence host evidence => after (onLedger (Ledger.attachEvidence host evidence)) s
  | .allocateExpense host expenseId allocationId amount eaId =>
      after (onLedger (Ledger.allocateExpense host expenseId allocationId amount eaId)) s
  | .importCommand o command approval agentName proposal expense =>
      after (execute o { command with payload := .importNormalizedExpense expense } approval
        agentName proposal) s
  | .allocateCommand o command approval agentName proposal p =>
      after (execute o { command with payload := .allocateExpense p } approval agentName
        proposal) s

/-- What is written is written under an identifier that is new, or was used in the same
donation or expense. -/
def IdsFree (s : LedgerCommandExecutor) : Operation → Prop
  | .assignDonationAllocation host donationId allocationId amount daId =>
      s.ledger.DesignationIdFree host donationId allocationId amount daId
  | .attachEvidence _ evidence => s.ledger.EvidenceIdFree evidence
  | .allocateExpense host expenseId allocationId amount eaId =>
      s.ledger.ChargeIdFree host expenseId allocationId amount eaId
  | .importCommand o command approval agentName proposal expense =>
      Handles o s { command with payload := .importNormalizedExpense expense } approval agentName
          proposal →
        ∀ r ∈ importedEvidence o.host s expense,
          s.ledger.evidence.FreeFor EvidenceRecord.aggregate (importAggregate o.host expense) r.id
  | .allocateCommand o command approval agentName proposal p =>
      Handles o s { command with payload := .allocateExpense p } approval agentName proposal →
        ∀ a, allocateArgs s.ledger p = .ok a → s.ledger.ChargeIdFree o.host a.1 a.2.1 a.2.2 none

end Operation

section Frame

variable [Digest] {s : LedgerCommandExecutor} {host : Host}

omit [Digest] in
theorem after_onLedger {α : Type} (x : LedgerM α) :
    (after (onLedger x) s).ledger = after x s.ledger := by
  rcases returns_or_raises x s.ledger with ⟨a, l', h⟩ | ⟨e, l', h⟩
  · have hret : Returns (onLedger x) s a { s with ledger := l' } := returns_within.mpr ⟨l', h, rfl⟩
    rw [hret.after, h.after]
  · have hraise : Raises (onLedger x) s e { s with ledger := l' } :=
      raises_within.mpr ⟨l', h, rfl⟩
    rw [hraise.after, h.after]

theorem importNormalized_keepsOthers (expense : Option NormalizedRow) :
    s.ledger.KeepsOthers (importAggregate host expense)
        (after (importNormalized host expense) s).ledger ↔
      ∀ r ∈ importedEvidence host s expense,
        s.ledger.evidence.FreeFor EvidenceRecord.aggregate (importAggregate host expense) r.id := by
  have hset : EvidenceSet s.ledger (after (importNormalized host expense) s).ledger
      (importedEvidence host s expense) := after_importNormalized expense
  obtain ⟨hevidence, hdesignations, hcharges⟩ := hset
  have hown : ∀ r ∈ importedEvidence host s expense, r.aggregate = importAggregate host expense :=
    fun r hr => importedEvidence_aggregate hr
  have hall : Dict.OthersKept EvidenceRecord.aggregate (importAggregate host expense)
      s.ledger.evidence (s.ledger.evidence.setAll (·.id) (importedEvidence host s expense)) ↔
    ∀ r ∈ importedEvidence host s expense, s.ledger.evidence.FreeFor EvidenceRecord.aggregate
      (importAggregate host expense) r.id := Dict.othersKept_setAll hown
  constructor
  · intro h
    exact hall.mp (hevidence ▸ h.evidence)
  · intro h
    refine ⟨?_, ?_, ?_⟩
    · rw [hdesignations]
      exact .refl
    · rw [hevidence]
      exact hall.mpr h
    · rw [hcharges]
      exact .refl

theorem allocate_keepsOthers (p : AllocatePayload) :
    s.ledger.KeepsOthers (p.expenseId.map .expense) (after (allocate host p) s).ledger ↔
      ∀ a, allocateArgs s.ledger p = .ok a → s.ledger.ChargeIdFree host a.1 a.2.1 a.2.2 none := by
  cases hargs : allocateArgs s.ledger p with
  | error e =>
      rw [allocate, after_get_bind, hargs]
      exact iff_of_true .refl fun _ h => nomatch h
  | ok a =>
      have hafter : (after (allocate host p) s).ledger =
          after (Ledger.allocateExpense host a.1 a.2.1 a.2.2 none) s.ledger := by
        rw [allocate, after_get_bind, hargs, ← after_onLedger]
        exact congrArg ledger after_bind_pure
      rw [allocateArgs_ok hargs, hafter]
      refine (Ledger.allocateExpense_keepsOthers a.1 a.2.1 a.2.2 none).trans ?_
      constructor
      · intro h a' ha'
        exact Except.ok.inj ha' ▸ h
      · intro h
        exact h a rfl

/-- An operation leaves the records of every other donation and expense as they were exactly
when what it writes is written under an identifier that is new, or was its own. -/
theorem keepsOthers_iff [Json.CharTable] (s : LedgerCommandExecutor) (op : Operation) :
    s.ledger.KeepsOthers op.own (op.run s).ledger ↔ op.IdsFree s := by
  cases op with
  | assignDonationAllocation host donationId allocationId amount daId =>
      rw [Operation.run, after_onLedger]
      exact Ledger.assignDonationAllocation_keepsOthers donationId allocationId amount daId
  | attachEvidence host evidence =>
      rw [Operation.run, after_onLedger]
      exact Ledger.attachEvidence_keepsOthers evidence
  | allocateExpense host expenseId allocationId amount eaId =>
      rw [Operation.run, after_onLedger]
      exact Ledger.allocateExpense_keepsOthers expenseId allocationId amount eaId
  | importCommand o command approval agentName proposal expense =>
      rw [Operation.run, after_execute_ledger, Operation.IdsFree]
      split
      · rename_i hhandles
        refine (importNormalized_keepsOthers expense).trans ?_
        exact ⟨fun h _ => h, fun h => h hhandles⟩
      · rename_i hhandles
        exact iff_of_true .refl fun h => absurd h hhandles
  | allocateCommand o command approval agentName proposal p =>
      rw [Operation.run, after_execute_ledger, Operation.IdsFree]
      split
      · rename_i hhandles
        refine (allocate_keepsOthers p).trans ?_
        exact ⟨fun h _ => h, fun h => h hhandles⟩
      · rename_i hhandles
        exact iff_of_true .refl fun h => absurd h hhandles

end Frame

section Sample

attribute [local instance] Digest.plain Json.CharTable.all

/-- An invoice, under the number its vendor gave it. -/
def Sample.invoice (expenseId : Id) : EvidenceItem :=
  .mapping (some "invoice-1") none (some expenseId) true

/-- The import of an expense with the invoice behind it. -/
def Sample.importWithInvoice (call : Nat) (expenseId : Id) : Operation :=
  .importCommand { host := .numbered call }
    { tenantId := "org", payload := .unsupported "", idempotencyKey := expenseId } none none none
    (some { externalSourceId := some expenseId, expenseId := some expenseId,
            vendor := some "Vendor", amount := some (.finite 50 0),
            purchaseDate := some "2026-01-02", evidence := .items [Sample.invoice expenseId] })

/-- The first of two expenses with an invoice of the same number loses it to the second. -/
theorem invoice_changes_hands : ¬ ∀ (organization : Organization) (calls : List Ledger.Call)
    (ops : List Operation) (op : Operation),
    let s := run Operation.run
      (.new (run Ledger.step (.new organization) calls) false none) ops
    s.ledger.KeepsOthers op.own (op.run s).ledger := by
  intro h
  have hkept := (h Ledger.Sample.organization [] [Sample.importWithInvoice 1 "first"]
    (Sample.importWithInvoice 2 "second")).evidence (some (.expense "first")) (by decide)
  exact absurd hkept (by decide)

end Sample

end LedgerCommandExecutor

end ImpactRelay
