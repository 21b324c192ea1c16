/-
# `Workflows.Listings` — listings that limit first and filter afterwards

The operator's cases (`workflows/ops.py`), the expenses in a state
(`storage/ledger_repo.py`) and the workflow an approval on the command line is for
(`workflows/durable.py`) are each read out of a limited query, and what is asked for is
picked from the rows that come back.  So rows that nobody has asked for take the places of
those that are.

`listings_filter_first_iff`: such a listing has as many entries as if it had filtered
before it limited exactly when the query reaches far enough, and a waiting workflow is
found by its id exactly when few enough workflows have been created before it.
-/
import ImpactRelay.Lib.Scan
import ImpactRelay.Storage.LedgerRepo
import ImpactRelay.Workflows.StoreSql

namespace ImpactRelay

open Scan

/-! ## The queries -/

/-- An instance the query asks for; no list asks for all. -/
def WorkflowInstance.listed (tenantId : Id) (workflowState runStatus : List String)
    (inst : WorkflowInstance) : Bool :=
  decide (inst.tenantId = tenantId) &&
    (workflowState.isEmpty || workflowState.contains inst.workflowState.value) &&
    (runStatus.isEmpty || runStatus.contains inst.runStatus.value)

/-- `SELECT * FROM workflows WHERE … ORDER BY created_at LIMIT ?`. -/
def SqlWorkflowStore.list (tenantId : Id) (workflowState runStatus : List String) (limit : Nat)
    (s : SqlWorkflowStore) : List WorkflowInstance :=
  ((s.workflows.rows.filter (·.listed tenantId workflowState runStatus)).mergeSort
    fun a b => decide (a.createdAt ≤ b.createdAt)).take limit

/-- The instances in the order in which they have been created. -/
def InMemoryWorkflowStore.list (tenantId : Id) (workflowState runStatus : List String) (limit : Nat)
    (s : InMemoryWorkflowStore) : List WorkflowInstance :=
  scanMatches (·.listed tenantId workflowState runStatus) limit [] s.instances.rows

/-- A store that lists the instances of a tenant. -/
class CaseStore (σ : Type) where
  list : Id → Nat → σ → List WorkflowInstance
  /-- all of them, in the order of the listing -/
  all : Id → σ → List WorkflowInstance
  list_eq : ∀ tenantId limit s, 0 < limit → list tenantId limit s = (all tenantId s).take limit
  distinct : ∀ tenantId s, ((all tenantId s).map (·.workflowId)).Nodup

instance : CaseStore SqlWorkflowStore where
  list tenantId limit s := s.list tenantId [] [] limit
  all tenantId s := (s.workflows.rows.filter (·.listed tenantId [] [])).mergeSort
    fun a b => decide (a.createdAt ≤ b.createdAt)
  list_eq _ _ _ _ := rfl
  distinct _ s := ((List.mergeSort_perm _ _).map _).nodup_iff.mpr
    (s.workflows.nodup_rows.sublist (List.filter_sublist.map _))

instance : CaseStore InMemoryWorkflowStore where
  list tenantId limit s := s.list tenantId [] [] limit
  all tenantId s := s.instances.rows.filter (·.listed tenantId [] [])
  list_eq _ _ _ h := (scanMatches_eq h).trans (by simp)
  distinct _ s := s.instances.nodup_rows.sublist (List.filter_sublist.map _)

/-! ## The operator's cases -/

inductive CaseBucket where
  | deadLetter | failed | blocked | needsInformation | waiting | active | other
deriving DecidableEq, Repr

def CaseBucket.value : CaseBucket → String
  | .deadLetter => "dead_letter"
  | .failed => "failed"
  | .blocked => "blocked"
  | .needsInformation => "needs_information"
  | .waiting => "waiting"
  | .active => "active"
  | .other => "other"

/-- Operational urgency, most urgent first. -/
def CaseBucket.order : CaseBucket → Nat
  | .deadLetter => 0
  | .failed => 1
  | .blocked => 2
  | .needsInformation => 3
  | .waiting => 4
  | .active => 5
  | .other => 6

structure OperatorCase where
  workflowId : Id
  tenantId : Id
  businessKey : String
  workflowState : String
  runStatus : String
  attemptCount : Nat
  lastError : Option String
  waitDeadline : Option String
  commandIdempotencyKey : Option String
  bucket : CaseBucket
deriving DecidableEq, Repr

namespace WorkflowInstance

/-- `_bucket`. -/
def bucket (inst : WorkflowInstance) : CaseBucket :=
  if inst.runStatus = .deadLetter then .deadLetter
  else if inst.runStatus = .failedTerminal then .failed
  else if inst.workflowState = .blocked then .blocked
  else if inst.workflowState = .needsInformation then .needsInformation
  else if inst.runStatus = .waitingSignal then .waiting
  else if inst.runStatus ∈ [WorkflowRunStatus.pending, .running, .retryScheduled] then .active
  else .other

/-- `_wait_key`: of the wait, of its frozen command, or of the descriptor. -/
def waitKey (inst : WorkflowInstance) : Option String :=
  orElse (inst.context.wait.bind (·.commandIdempotencyKey))
    (orElse (inst.context.wait.bind fun w => w.frozenCommand.map (·.idempotencyKey))
      (inst.waitDescriptor.bind fun d =>
        orElse d.commandIdempotencyKey d.priorCommandIdempotencyKey))

end WorkflowInstance

def instanceToCase (inst : WorkflowInstance) : OperatorCase where
  workflowId := inst.workflowId
  tenantId := inst.tenantId
  businessKey := inst.businessKey
  workflowState := inst.workflowState.value
  runStatus := inst.runStatus.value
  attemptCount := inst.attemptCount
  lastError := inst.lastError
  waitDeadline := inst.waitDeadline
  commandIdempotencyKey := inst.waitKey
  bucket := inst.bucket

/-- `CASE_FILTERS`. -/
def caseFilters : List String :=
  ["all", "waiting", "blocked", "dead_letter", "failed", "needs_information", "active"]

/-- The buckets a list of filters asks for; the default where there is none, or none that
is a filter. -/
def wantedBuckets (filters : List String) : List String :=
  let raw := (if filters.isEmpty then
      ["waiting", "blocked", "dead_letter", "needs_information", "failed"] else filters).map
    fun f => Text.lower (Text.strip f)
  if "all" ∈ raw then caseFilters.filter (· ≠ "all") ++ ["other"]
  else
    let want := raw.filter (· ∈ caseFilters)
    if want.isEmpty then ["waiting", "blocked", "dead_letter"] else want

def OperatorCase.wanted (filters : List String) (c : OperatorCase) : Bool :=
  decide (c.bucket.value ∈ wantedBuckets filters)

section Cases

variable {σ : Type} [CaseStore σ]

/-- Operator-visible cases, the most urgent first. -/
def listOperatorCases (store : σ) (tenantId : Id) (filters : List String) (limit : Nat) :
    List OperatorCase :=
  (scanUntil (·.wanted filters) limit []
    ((CaseStore.list tenantId (max limit 500) store).map instanceToCase)).mergeSort fun a b =>
      decide (a.bucket.order < b.bucket.order ∨
        a.bucket.order = b.bucket.order ∧ a.workflowId ≤ b.workflowId)

/-- The case an approval is for: of the workflow that is named, or the first that waits.
What follows signals the approval for its key. -/
def durableApprove (store : σ) (tenantId : Id) (workflowId : Option Id) (approverId : String) :
    Except String OperatorCase := do
  let cases := listOperatorCases store tenantId ["waiting"] 200
  let target ← match cases, orElse workflowId none with
    | [], _ => .error "nothing_waiting"
    | _ :: _, some w =>
        match cases.find? (·.workflowId = w) with
        | none => .error "workflow_not_waiting"
        | some c => .ok c
    | c :: _, none => .ok c
  if (orElse target.commandIdempotencyKey none).isNone then .error "no_wait_key"
  else if Text.startsWith "agent:" approverId then .error "approver_must_be_human"
  else .ok target

end Cases

/-! ## The expenses in a state -/

/-- The bodies of the tenant's expenses, `ORDER BY entity_id`. -/
def LedgerEntityRepository.expenseBodies (tenantId : Id) (s : LedgerEntityRepository) : List Json :=
  ((s.ledgerEntity.rows.filter fun row => row.tenantId = tenantId ∧ row.entityType = "expenses").mergeSort
    fun a b => decide (a.entityId ≤ b.entityId)).map (·.bodyJson)

/-- A body in the state; without a state every body. -/
def inState (state : Option String) (body : Json) : Bool :=
  match orElse state none with
  | none => true
  | some state => decide ((body.field? "state").bind Json.str? = some state)

def LedgerEntityRepository.listExpenses (tenantId : Id) (state : Option String) (limit : Nat)
    (s : LedgerEntityRepository) : List Json :=
  scanMatches (inState state) limit [] ((s.expenseBodies tenantId).take (max limit 1))

/-! ## When they list what they were asked for -/

section Reached

variable {σ : Type} [CaseStore σ] {store : σ} {tenantId : Id} {filters : List String} {limit : Nat}

/-- The cases of all workflows of the tenant, in the order of the query. -/
def tenantCases (store : σ) (tenantId : Id) : List OperatorCase :=
  (CaseStore.all tenantId store).map instanceToCase

theorem queried_cases : (CaseStore.list tenantId (max limit 500) store).map instanceToCase =
    (tenantCases store tenantId).take (max limit 500) := by
  rw [CaseStore.list_eq _ _ _ (by omega), tenantCases, List.map_take]

theorem length_listOperatorCases_iff :
    (listOperatorCases store tenantId filters limit).length =
        min limit ((tenantCases store tenantId).countP (·.wanted filters)) ↔
      Reached (·.wanted filters) limit (max limit 500) (tenantCases store tenantId) := by
  rw [listOperatorCases, List.length_mergeSort, queried_cases]
  exact length_scanUntil_iff (by omega)

/-- The approval has not found its workflow. -/
def NotFound (result : Except String OperatorCase) : Prop :=
  result = .error "nothing_waiting" ∨ result = .error "workflow_not_waiting"

theorem wanted_waiting {c : OperatorCase} : c.wanted ["waiting"] = decide (c.bucket = .waiting) := by
  have hwanted : wantedBuckets ["waiting"] = ["waiting"] := by decide
  rw [OperatorCase.wanted, hwanted]
  cases c.bucket <;> rfl

/-- An approval finds the workflow it names where the listing has its case. -/
theorem durableApprove_finds_iff {w : Id} {approverId : String} (hw : w ≠ "") :
    ¬ NotFound (durableApprove store tenantId (some w) approverId) ↔
      ∃ c ∈ listOperatorCases store tenantId ["waiting"] 200, c.workflowId = w := by
  -- what comes after the lookup fails under other names
  have hlater : ∀ target : OperatorCase, ¬ NotFound
      (if (orElse target.commandIdempotencyKey none).isNone then .error "no_wait_key"
        else if Text.startsWith "agent:" approverId then .error "approver_must_be_human"
        else .ok target : Except String OperatorCase) := by
    intro target hnot
    rcases hnot with h | h
    · split at h
      · exact absurd (Except.error.inj h) (by decide)
      split at h
      · exact absurd (Except.error.inj h) (by decide)
      · exact nomatch h
    · split at h
      · exact absurd (Except.error.inj h) (by decide)
      split at h
      · exact absurd (Except.error.inj h) (by decide)
      · exact nomatch h
  have hnamed : orElse (some w) none = some w := if_neg hw
  rw [durableApprove, hnamed]
  cases hcases : listOperatorCases store tenantId ["waiting"] 200 with
  | nil => exact iff_of_false (fun h => h (Or.inl rfl)) (fun ⟨_, hmem, _⟩ => nomatch hmem)
  | cons c cases =>
      cases hfind : (c :: cases).find? (·.workflowId = w) with
      | none =>
          dsimp only
          rw [hfind]
          refine iff_of_false (fun h => h (Or.inr rfl)) ?_
          rintro ⟨c', hmem, hid⟩
          exact absurd (decide_eq_true hid) (List.find?_eq_none.mp hfind c' hmem)
      | some target =>
          dsimp only
          rw [hfind]
          exact iff_of_true (hlater target)
            ⟨target, List.mem_of_find?_eq_some hfind, by simpa using List.find?_some hfind⟩

/-- … and that is where few enough workflows, and few enough waiting ones, precede it. -/
theorem mem_waiting_iff {inst : WorkflowInstance} {before after : List WorkflowInstance}
    (hall : CaseStore.all tenantId store = before ++ inst :: after)
    (hwaiting : inst.bucket = .waiting) :
    (∃ c ∈ listOperatorCases store tenantId ["waiting"] 200, c.workflowId = inst.workflowId) ↔
      before.length < 500 ∧ before.countP (·.bucket = .waiting) < 200 := by
  have hcases : tenantCases store tenantId =
      before.map instanceToCase ++ instanceToCase inst :: after.map instanceToCase := by
    rw [tenantCases, hall, List.map_append, List.map_cons]
  have hids : ((tenantCases store tenantId).map (·.workflowId)).Nodup := by
    rw [tenantCases, List.map_map]
    exact CaseStore.distinct tenantId store
  have hfirst : instanceToCase inst ∉ before.map instanceToCase := by
    intro hmem
    rw [hcases, List.map_append, List.map_cons] at hids
    exact (List.nodup_append.mp hids).2.2 _ (List.mem_map_of_mem hmem) _ List.mem_cons_self rfl
  have hwanted : (instanceToCase inst).wanted ["waiting"] = true := by
    rw [wanted_waiting]
    exact decide_eq_true hwaiting
  have hcount : (before.map instanceToCase).countP (·.wanted ["waiting"]) =
      before.countP (·.bucket = .waiting) := by
    rw [List.countP_map]
    exact List.countP_congr fun i _ => by rw [Function.comp_apply, wanted_waiting]; rfl
  have hscan : instanceToCase inst ∈ scanUntil (·.wanted ["waiting"]) 200 []
      ((tenantCases store tenantId).take (max 200 500)) ↔
      before.length < 500 ∧ before.countP (·.bucket = .waiting) < 200 := by
    have hlength : before.length = (before.map instanceToCase).length := by
      rw [List.length_map]
    rw [hcases, ← hcount, hlength]
    exact mem_scanUntil_iff (by decide) hfirst hwanted
  have hlisted : ∀ c, c ∈ listOperatorCases store tenantId ["waiting"] 200 ↔
      c ∈ scanUntil (·.wanted ["waiting"]) 200 []
        ((tenantCases store tenantId).take (max 200 500)) := by
    intro c
    rw [listOperatorCases, List.mem_mergeSort, queried_cases]
  rw [← hscan]
  constructor
  · rintro ⟨c, hmem, hid⟩
    rw [hlisted] at hmem
    have hc : c ∈ tenantCases store tenantId :=
      List.mem_of_mem_take ((mem_of_mem_scanUntil hmem).resolve_left List.not_mem_nil)
    have hinst : instanceToCase inst ∈ tenantCases store tenantId := by
      rw [hcases]
      exact List.mem_append_right _ List.mem_cons_self
    -- ids are distinct, so it is the same case
    obtain rfl := List.inj_on_of_nodup_map hids hc hinst hid
    exact hmem
  · exact fun hmem => ⟨instanceToCase inst, (hlisted _).mpr hmem, rfl⟩

theorem length_listExpenses_iff {state : Option String} (s : LedgerEntityRepository) :
    (s.listExpenses tenantId state limit).length =
        min limit ((s.expenseBodies tenantId).countP (inState state)) ↔
      Reached (inState state) limit (max limit 1) (s.expenseBodies tenantId) :=
  length_scanMatches_iff fun h => by rw [h]; rfl

end Reached

/-- A case that is alone is the one an approval finds. -/
theorem durableApprove_only {s : SqlWorkflowStore} {inst : WorkflowInstance} {key approverId : String}
    (hrows : s.workflows.rows = [inst]) (hwaiting : inst.bucket = .waiting)
    (hkey : inst.waitKey = some key) (hnamed : key ≠ "")
    (hhuman : Text.startsWith "agent:" approverId = false) :
    durableApprove s inst.tenantId none approverId = .ok (instanceToCase inst) := by
  have hall : tenantCases s inst.tenantId = [instanceToCase inst] := by
    have hlisted : [inst].filter (·.listed inst.tenantId [] []) = [inst] := by
      simp [WorkflowInstance.listed]
    show ((s.workflows.rows.filter (·.listed inst.tenantId [] [])).mergeSort _).map _ = _
    rw [hrows, hlisted, List.mergeSort_singleton, List.map_singleton]
  have hcases : listOperatorCases s inst.tenantId ["waiting"] 200 = [instanceToCase inst] := by
    have hwanted : (instanceToCase inst).wanted ["waiting"] = true := by
      rw [wanted_waiting]
      exact decide_eq_true hwaiting
    have hscan : scanUntil (·.wanted ["waiting"]) 200 [] [instanceToCase inst] =
        [instanceToCase inst] := by
      rw [scanUntil_eq (by decide), List.filter_cons_of_pos hwanted]
      rfl
    rw [listOperatorCases, queried_cases, hall]
    show (scanUntil _ 200 [] [instanceToCase inst]).mergeSort _ = _
    rw [hscan, List.mergeSort_singleton]
  have hwait : (orElse (instanceToCase inst).commandIdempotencyKey none).isNone = false := by
    show (orElse inst.waitKey none).isNone = false
    rw [hkey, orElse, if_neg hnamed]
    rfl
  rw [durableApprove, hcases]
  show (if (orElse (instanceToCase inst).commandIdempotencyKey none).isNone then _
    else if Text.startsWith "agent:" approverId then _ else _ : Except String OperatorCase) = _
  rw [hwait, hhuman, if_neg Bool.false_ne_true, if_neg Bool.false_ne_true]

/-- A listing of cases, or of the expenses in a state, has as many entries as were asked
for, or as there are, exactly when the query reaches that many; and a waiting workflow is
found by its id exactly when fewer than 500 workflows, and fewer than 200 waiting ones,
precede it. -/
def FiltersFirstIff (σ : Type) [CaseStore σ] : Prop :=
  (∀ (store : σ) (tenantId : Id) (filters : List String) (limit : Nat),
    (listOperatorCases store tenantId filters limit).length =
        min limit ((tenantCases store tenantId).countP (·.wanted filters)) ↔
      Reached (·.wanted filters) limit (max limit 500) (tenantCases store tenantId)) ∧
  ∀ (store : σ) (tenantId : Id) (before after : List WorkflowInstance) (inst : WorkflowInstance)
    (approverId : String), CaseStore.all tenantId store = before ++ inst :: after →
    inst.bucket = .waiting → inst.workflowId ≠ "" →
      (¬ NotFound (durableApprove store tenantId (some inst.workflowId) approverId) ↔
        before.length < 500 ∧ before.countP (·.bucket = .waiting) < 200)

theorem filtersFirstIff (σ : Type) [CaseStore σ] : FiltersFirstIff σ := by
  refine ⟨fun store tenantId filters limit => length_listOperatorCases_iff, ?_⟩
  intro store tenantId before after inst approverId hall hwaiting hid
  rw [durableApprove_finds_iff hid, mem_waiting_iff hall hwaiting]

theorem listings_filter_first_iff (s : LedgerEntityRepository) (tenantId : Id) (state : String)
    (limit : Nat) :
    FiltersFirstIff SqlWorkflowStore ∧ FiltersFirstIff InMemoryWorkflowStore ∧
      ((s.listExpenses tenantId (some state) limit).length =
          min limit ((s.expenseBodies tenantId).countP (inState (some state))) ↔
        Reached (inState (some state)) limit (max limit 1) (s.expenseBodies tenantId)) :=
  ⟨filtersFirstIff _, filtersFirstIff _, length_listExpenses_iff s⟩

section Sample

/-- The workflow of this number, in this run status. -/
def Sample.workflow (i : Nat) (runStatus : WorkflowRunStatus) : WorkflowInstance where
  workflowId := String.ofList ('w' :: List.replicate i '1')
  tenantId := "org"
  workflowType := .expenseToReceipt
  businessKey := String.ofList (List.replicate i '1')
  workflowState := .delivered
  runStatus := runStatus
  createdAt := "2026-01-01T00:00:00+00:00"
  updatedAt := "2026-01-01T00:00:00+00:00"

theorem Sample.workflow_injective {i j : Nat} {a b : WorkflowRunStatus}
    (h : (Sample.workflow i a).workflowId = (Sample.workflow j b).workflowId) : i = j := by
  have hlists := congrArg (fun s : String => s.toList.length) h
  simpa [Sample.workflow] using hlists

/-- Finished workflows, and one that waits. -/
def Sample.finished (n : Nat) : List WorkflowInstance :=
  (List.range n).map fun i => Sample.workflow i .completed

def Sample.waiting (n : Nat) : WorkflowInstance :=
  { Sample.workflow n .waitingSignal with workflowState := .reviewPending }

theorem Sample.waiting_id (n : Nat) : (Sample.waiting n).workflowId ≠ "" := by
  intro hempty
  have hlength := congrArg (fun s : String => s.toList.length) hempty
  simp [Sample.waiting, Sample.workflow] at hlength

def Sample.many (n : Nat) : SqlWorkflowStore where
  workflows := Table.empty.putAll (Sample.finished n ++ [Sample.waiting n])

theorem Sample.many_all (n : Nat) :
    CaseStore.all "org" (Sample.many n) = Sample.finished n ++ [Sample.waiting n] := by
  have hids : ((Sample.finished n ++ [Sample.waiting n]).map (·.workflowId)).Nodup := by
    rw [List.map_append, List.nodup_append]
    refine ⟨?_, List.nodup_singleton _, ?_⟩
    · rw [Sample.finished, List.map_map]
      exact List.Nodup.map_on (fun i _ j _ h => Sample.workflow_injective h) List.nodup_range
    · intro a ha b hb hab
      rw [List.mem_singleton.mp hb] at hab
      obtain ⟨inst, hinst, rfl⟩ := List.mem_map.mp ha
      obtain ⟨i, hi, rfl⟩ := List.mem_map.mp hinst
      have hsame : i = n := Sample.workflow_injective (b := .waitingSignal) hab
      exact absurd (List.mem_range.mp hi) (by omega)
  have hrows : (Sample.many n).workflows.rows = Sample.finished n ++ [Sample.waiting n] :=
    Table.rows_putAll hids fun _ _ => rfl
  have hof : ∀ inst ∈ Sample.finished n ++ [Sample.waiting n],
      inst.listed "org" [] [] = true ∧ inst.createdAt = "2026-01-01T00:00:00+00:00" := by
    intro inst hinst
    rcases List.mem_append.mp hinst with h | h
    · obtain ⟨i, _, rfl⟩ := List.mem_map.mp h
      exact ⟨rfl, rfl⟩
    · obtain rfl := List.mem_singleton.mp h
      exact ⟨rfl, rfl⟩
  show ((Sample.many n).workflows.rows.filter (·.listed "org" [] [])).mergeSort _ = _
  rw [hrows, List.filter_eq_self.mpr fun inst hinst => (hof inst hinst).1]
  refine List.mergeSort_of_pairwise (List.pairwise_of_forall_mem_list fun a ha b hb => ?_)
  rw [(hof a ha).2, (hof b hb).2]
  exact decide_eq_true (String.le_refl _)

/-- Behind 500 finished workflows the one that waits is not found by its id. -/
theorem waiting_not_found : ¬ ∀ (s : SqlWorkflowStore) (tenantId : Id) (inst : WorkflowInstance)
    (approverId : String), inst ∈ CaseStore.all tenantId s → inst.bucket = .waiting →
      inst.workflowId ≠ "" → ¬ NotFound (durableApprove s tenantId (some inst.workflowId) approverId) := by
  intro h
  have hall := Sample.many_all 500
  have hid : (Sample.waiting 500).workflowId ≠ "" := Sample.waiting_id 500
  have hfound := h (Sample.many 500) "org" (Sample.waiting 500) "human:finance"
    (hall ▸ List.mem_append_right _ List.mem_cons_self) rfl hid
  have hbefore := ((mem_waiting_iff hall rfl).mp ((durableApprove_finds_iff hid).mp hfound)).1
  rw [Sample.finished, List.length_map, List.length_range] at hbefore
  exact absurd hbefore (by decide)

end Sample

end ImpactRelay
