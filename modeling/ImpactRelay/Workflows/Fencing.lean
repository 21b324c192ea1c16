/-
# `Workflows.Fencing` — writes that come late

No write path looks at the lease: a worker that has lost a workflow to another
one overwrites the row all the same.  What does hold is that a write stays with
its own workflow, that stored events stay, and that of two commits numbered on
from one reading of the row the SQL store takes one.
-/
import ImpactRelay.Workflows.Lease

namespace ImpactRelay

open WorkflowStore LawfulWorkflowStore

/-- The instance a commit or an update writes. -/
def StoreCall.written : StoreCall → Option WorkflowInstance
  | .commit _ _ bundle => some bundle.instance_
  | .update _ _ inst => some inst
  | _ => none

/-- The events a commit writes with it. -/
def StoreCall.writtenEvents : StoreCall → List WorkflowEventWrite
  | .commit _ _ bundle => bundle.events
  | _ => []

section Writes

variable {σ : Type} [WorkflowStore σ]

/-- The row is the caller's, the other rows are as they were, and signals are at most
marked. -/
structure Overwrites (inst : WorkflowInstance) (s s' : σ) : Prop where
  row : ∃ new, row s' inst.workflowId = some new ∧ inst.SameCursor new
  onlyRow : OnlyRow inst.workflowId s s'
  signals : ∀ w, MarkedFrom (signalsOf s w) (signalsOf s' w)

variable [LawfulWorkflowStore σ] {s : σ} {c : StoreCall} {inst : WorkflowInstance}

/-- A commit or an update that is taken overwrites the row; there is no third way. -/
theorem overwrites_or_refused (h : c.written = some inst) :
    Overwrites inst s (after s c) ∨ after s c = s := by
  cases c with
  | commit worker utcNow bundle =>
      obtain rfl := Option.some.inj h
      rw [after]
      cases hcall : commitAdvance utcNow bundle s with
      | error e => exact Or.inr rfl
      | ok s' =>
          obtain ⟨⟨_, new, _, _, hnew, hcursor, _⟩, honly, hsignals, -⟩ := commit_ok hcall
          exact Or.inl ⟨⟨new, hnew, hcursor⟩, honly, hsignals⟩
  | update worker utcNow new =>
      obtain rfl := Option.some.inj h
      rw [after]
      cases hcall : updateInstance utcNow new s with
      | error e => exact Or.inr rfl
      | ok s' =>
          obtain ⟨_, stored, _, _, hstored, hcursor, _, honly, hsignals, _⟩ := update_ok hcall
          refine Or.inl ⟨⟨stored, hstored, hcursor⟩, honly, fun w => ?_⟩
          rw [settle, hsignals]
          exact .refl _
  | signal _ _ _ => cases h
  | claim _ _ _ _ => cases h
  | append _ _ _ _ _ => cases h
  | sweep _ => cases h

end Writes

/-! ## The in-memory store -/

namespace InMemoryWorkflowStore

variable {s : InMemoryWorkflowStore} {c : StoreCall} {inst : WorkflowInstance}

theorem eventsOf_set {d : Dict Id (List WorkflowEvent)} {w w' : Id} {es : List WorkflowEvent}
    (h : (d.get? w).getD [] <+: es) : (d.get? w').getD [] <+: ((d.set w es).get? w').getD [] := by
  rw [Dict.get?_set]
  split
  · rename_i heq
    rw [heq]
    exact h
  · exact List.prefix_rfl

theorem sweepFrom_events {now : Datetime} {insts : List WorkflowInstance} (w : Id) :
    s.eventsOf w <+: (sweepFrom now insts s).2.eventsOf w := by
  induction insts generalizing s with
  | nil => exact List.prefix_rfl
  | cons inst rest ih =>
      rw [sweepFrom]
      split
      · exact List.prefix_rfl
      · exact ih
      · have htimed : s.eventsOf w <+: (timeOut now.truncate.isoformat inst s).eventsOf w :=
          eventsOf_set (List.prefix_append _ _)
        exact htimed.trans ih

/-- No call removes or changes a stored event. -/
theorem events_after (s : InMemoryWorkflowStore) (c : StoreCall) (w : Id) :
    s.eventsOf w <+: (after s c).eventsOf w := by
  have hsettle : ∀ result : Except PyExc InMemoryWorkflowStore,
      (∀ s', result = .ok s' → s.eventsOf w <+: s'.eventsOf w) →
        s.eventsOf w <+: (settle s result).eventsOf w := by
    intro result hresult
    cases result with
    | error e => exact List.prefix_rfl
    | ok s' => exact hresult s' rfl
  cases c with
  | signal utcNow x now =>
      refine hsettle _ fun s' h => ?_
      obtain ⟨old, _, h⟩ := Raise.except_bind_eq_ok.mp h
      split at h
      · exact absurd h nofun
      · obtain rfl := Except.ok.inj h
        exact List.prefix_rfl
  | claim worker limit now ttl =>
      rw [after]
      cases hcall : WorkflowStore.claim worker limit now ttl s with
      | error e => exact List.prefix_rfl
      | ok result =>
          obtain ⟨heq, -⟩ := claim_spec hcall
          rw [Except.map, settle, heq]
          exact List.prefix_rfl
  | commit worker utcNow bundle =>
      refine hsettle _ fun s' h => ?_
      obtain ⟨old, _, h⟩ := Raise.except_bind_eq_ok.mp h
      obtain rfl := Except.ok.inj h
      exact eventsOf_set (List.prefix_append _ _)
  | update worker utcNow inst =>
      refine hsettle _ fun s' h => ?_
      obtain ⟨old, _, _, rfl⟩ := update_spec h
      exact List.prefix_rfl
  | append worker utcNow tenantId v events =>
      refine hsettle _ fun s' h => ?_
      obtain ⟨old, _, h⟩ := Raise.except_bind_eq_ok.mp h
      obtain rfl := Except.ok.inj h
      exact eventsOf_set (List.prefix_append _ _)
  | sweep now => exact sweepFrom_events w

theorem events_run (s : InMemoryWorkflowStore) (calls : List StoreCall) (w : Id) :
    s.eventsOf w <+: (run after s calls).eventsOf w := by
  have halong : Along after (fun _ _ => True) s calls := along_of_forall fun _ _ => trivial
  exact run_invariant (P := fun t => s.eventsOf w <+: eventsOf t w)
    (fun t c h _ => h.trans (events_after t c w)) List.prefix_rfl halong

/-- Every write to a workflow of the tenant is taken. -/
theorem overwrites (h : c.written = some inst)
    (hget : (WorkflowStore.get s inst.tenantId inst.workflowId).isSome) :
    Overwrites inst s (after s c) := by
  obtain ⟨old, hold⟩ := Option.isSome_iff_exists.mp hget
  have hfind : s.find inst.tenantId inst.workflowId = .ok old :=
    find_eq_ok.mpr (get_eq_some.mp hold)
  cases c with
  | commit worker utcNow bundle =>
      obtain rfl := Option.some.inj h
      have htaken : ∃ s', commitAdvance utcNow bundle s = .ok s' := by
        rw [commitAdvance, AdvanceCommitBundle.tenantId, AdvanceCommitBundle.workflowId, hfind]
        exact ⟨_, rfl⟩
      obtain ⟨s', hs'⟩ := htaken
      obtain ⟨⟨_, new, _, _, hnew, hcursor, _⟩, honly, hsignals, -⟩ :=
        LawfulWorkflowStore.commit_ok (σ := InMemoryWorkflowStore) hs'
      rw [after, show WorkflowStore.commitAdvance utcNow bundle s = .ok s' from hs']
      exact ⟨⟨new, hnew, hcursor⟩, honly, hsignals⟩
  | update worker utcNow new =>
      obtain rfl := Option.some.inj h
      have htaken : updateInstance new s = .ok { s with instances := s.instances.put new } := by
        rw [updateInstance, hfind]
        rfl
      rw [after, show WorkflowStore.updateInstance utcNow new s = _ from htaken]
      refine ⟨⟨new, Table.find?_put_self s.instances new, .refl _⟩, onlyRow_of_put rfl,
        fun w => .refl _⟩
  | signal _ _ _ => cases h
  | claim _ _ _ _ => cases h
  | append _ _ _ _ _ => cases h
  | sweep _ => cases h

end InMemoryWorkflowStore

/-! ## The SQL store -/

namespace SqlWorkflowStore

variable {s s' : SqlWorkflowStore} {c : StoreCall} {inst : WorkflowInstance}

theorem timeOutAll_events {nowIso : String} {insts : List WorkflowInstance}
    (h : timeOutAll nowIso insts s = .ok s') : s.workflowEvents <+: s'.workflowEvents := by
  induction insts generalizing s with
  | nil =>
      obtain rfl := Except.ok.inj h
      exact List.prefix_rfl
  | cons inst rest ih =>
      obtain ⟨s₁, htime, h⟩ := Raise.except_bind_eq_ok.mp h
      refine List.IsPrefix.trans ?_ (ih h)
      rw [insertEvents_spec htime]
      exact List.prefix_append _ _

/-- No call removes or changes a stored event. -/
theorem events_after (s : SqlWorkflowStore) (c : StoreCall) :
    s.workflowEvents <+: (after s c).workflowEvents := by
  have hsettle : ∀ result : Except PyExc SqlWorkflowStore,
      (∀ s', result = .ok s' → s.workflowEvents <+: s'.workflowEvents) →
        s.workflowEvents <+: (settle s result).workflowEvents := by
    intro result hresult
    cases result with
    | error e => exact List.prefix_rfl
    | ok s' => exact hresult s' rfl
  cases c with
  | signal utcNow x now =>
      refine hsettle _ fun s' h => ?_
      obtain ⟨old, _, h⟩ := Raise.except_bind_eq_ok.mp h
      split at h
      · exact absurd h nofun
      · obtain rfl := Except.ok.inj h
        exact List.prefix_rfl
  | claim worker limit now ttl => exact List.prefix_rfl
  | commit worker utcNow bundle =>
      refine hsettle _ fun s' h => ?_
      obtain ⟨_, _, _, _, _, _, _, _, hevents, -⟩ := commit_spec h
      rw [hevents]
      exact List.prefix_append _ _
  | update worker utcNow inst =>
      refine hsettle _ fun s' h => ?_
      obtain ⟨_, _, _, rfl⟩ := update_spec h
      exact List.prefix_rfl
  | append worker utcNow tenantId v events =>
      refine hsettle _ fun s' h => ?_
      obtain ⟨old, _, h⟩ := Raise.except_bind_eq_ok.mp h
      obtain ⟨s₁, hins, h⟩ := Raise.except_bind_eq_ok.mp h
      obtain rfl := Except.ok.inj h
      rw [insertEvents_spec hins]
      exact List.prefix_append _ _
  | sweep now =>
      change s.workflowEvents <+: (sweepApprovalTimeouts now s).2.workflowEvents
      rw [sweepApprovalTimeouts]
      split
      · rename_i s' h
        exact timeOutAll_events h
      · exact List.prefix_rfl

theorem events_run (s : SqlWorkflowStore) (calls : List StoreCall) :
    s.workflowEvents <+: (run after s calls).workflowEvents := by
  have halong : Along after (fun _ _ => True) s calls := along_of_forall fun _ _ => trivial
  exact run_invariant (P := fun t => s.workflowEvents <+: t.workflowEvents)
    (fun t c h _ => h.trans (events_after t c)) List.prefix_rfl halong

/-- A number that is taken stops the whole commit. -/
theorem commit_refused {bundle : AdvanceCommitBundle} {utcNow : String} {e : WorkflowEvent}
    (he : e ∈ s.workflowEvents) (hw : e.workflowId = bundle.workflowId)
    (hseq : e.seq = bundle.instance_.eventSeq + 1) (hevents : bundle.events ≠ []) :
    ∀ s', commitAdvance utcNow bundle s ≠ .ok s' := by
  intro s' h
  obtain ⟨s₁, hupdate, h⟩ := Raise.except_bind_eq_ok.mp h
  obtain ⟨old, _, _, hs₁⟩ := updateRow_spec hupdate
  obtain ⟨s₂, hins, -⟩ := Raise.except_bind_eq_ok.mp h
  cases hes : bundle.events with
  | nil => exact hevents hes
  | cons write writes =>
      rw [hes, numberEvents, insertEvents, if_pos] at hins
      · cases hins
      · refine List.any_eq_true.mpr ⟨e, ?_, ?_⟩
        · rw [hs₁]
          exact he
        · rw [eventClash, Bool.or_eq_true, Bool.and_eq_true]
          exact Or.inr ⟨decide_eq_true hw.symm, decide_eq_true hseq.symm⟩

/-- A write without events is taken when its row is there. -/
theorem overwrites (h : c.written = some inst) (hevents : c.writtenEvents = [])
    (hget : (WorkflowStore.get s inst.tenantId inst.workflowId).isSome)
    (hnext : inst.nextRunAt ≠ none) : Overwrites inst s (after s c) := by
  obtain ⟨old, hold⟩ := Option.isSome_iff_exists.mp hget
  have hfind : s.find inst.tenantId inst.workflowId = .ok old :=
    find_eq_ok.mpr (get_eq_some.mp hold)
  have hrow : ∀ utcNow change, ∃ s', updateRow utcNow inst change s = .ok s' := by
    intro utcNow change
    rw [updateRow, hfind]
    exact ⟨_, if_neg hnext⟩
  cases c with
  | commit worker utcNow bundle =>
      obtain rfl := Option.some.inj h
      obtain ⟨s₁, hs₁⟩ := hrow utcNow id
      have htaken : ∃ s', commitAdvance utcNow bundle s = .ok s' := by
        rw [commitAdvance, hs₁, show bundle.events = [] from hevents]
        exact ⟨_, rfl⟩
      obtain ⟨s', hs'⟩ := htaken
      obtain ⟨⟨_, new, _, _, hnew, hcursor, _⟩, honly, hsignals, -⟩ :=
        LawfulWorkflowStore.commit_ok (σ := SqlWorkflowStore) hs'
      rw [after, show WorkflowStore.commitAdvance utcNow bundle s = .ok s' from hs']
      exact ⟨⟨new, hnew, hcursor⟩, honly, hsignals⟩
  | update worker utcNow new =>
      obtain rfl := Option.some.inj h
      obtain ⟨s', hs'⟩ := hrow utcNow (withSimulation new.simulation)
      obtain ⟨_, stored, _, _, hstored, hcursor, _, honly, hsignals, _⟩ :=
        LawfulWorkflowStore.update_ok (σ := SqlWorkflowStore) hs'
      rw [after, show WorkflowStore.updateInstance utcNow new s = .ok s' from hs']
      refine ⟨⟨stored, hstored, hcursor⟩, honly, fun w => ?_⟩
      rw [settle, hsignals]
      exact .refl _
  | signal _ _ _ => cases h
  | claim _ _ _ _ => cases h
  | append _ _ _ _ _ => cases h
  | sweep _ => cases h

/-- The numbers a commit assigns go on from the caller's instance. -/
theorem exists_numbered {tenantId w : Id} {now : String} {n seq : Nat}
    {writes : List WorkflowEventWrite} (hlo : seq ≤ n) (hhi : n < seq + writes.length) :
    ∃ e ∈ numberEvents tenantId w now seq writes, e.workflowId = w ∧ e.seq = n + 1 := by
  induction writes generalizing seq with
  | nil => exact absurd (Nat.lt_of_lt_of_le hhi hlo) (Nat.lt_irrefl n)
  | cons write writes ih =>
      rcases Nat.eq_or_lt_of_le hlo with rfl | hlt
      · exact ⟨_, List.mem_cons_self, rfl, rfl⟩
      · have hhi' : n < seq + 1 + writes.length := by
          rw [List.length_cons] at hhi
          omega
        obtain ⟨e, he, hrest⟩ := ih hlt hhi'
        exact ⟨e, List.mem_cons_of_mem _ he, hrest⟩

end SqlWorkflowStore

/-- Two commits whose events would get a number in common: the reading the late one
numbers on from is one the early one has gone past. -/
def Outrun (early late_ : AdvanceCommitBundle) : Prop :=
  late_.workflowId = early.workflowId ∧ late_.events ≠ [] ∧
    early.instance_.eventSeq ≤ late_.instance_.eventSeq ∧
    late_.instance_.eventSeq < early.instance_.eventSeq + early.events.length

/-- Whatever the workers have done before, and whoever holds the workflow: the in-memory
store takes every commit and every update of a workflow of the tenant; the SQL store
takes those without events too, if they say when to run next, and any other one it takes
or refuses as a whole.  What is taken overwrites that row, marks signals at most and
leaves the stored events; and the SQL store never takes a commit that another one has
outrun. -/
theorem late_writes (calls : List StoreCall) :
    (∀ s : InMemoryWorkflowStore, (∀ w, s.eventsOf w <+: (run after s calls).eventsOf w) ∧
      ∀ c inst, c.written = some inst →
        (WorkflowStore.get (run after s calls) inst.tenantId inst.workflowId).isSome →
          Overwrites inst (run after s calls) (after (run after s calls) c)) ∧
    ∀ s : SqlWorkflowStore, s.workflowEvents <+: (run after s calls).workflowEvents ∧
      (∀ c inst, c.written = some inst →
        Overwrites inst (run after s calls) (after (run after s calls) c) ∨
          after (run after s calls) c = run after s calls) ∧
      (∀ c inst, c.written = some inst → c.writtenEvents = [] →
        (WorkflowStore.get (run after s calls) inst.tenantId inst.workflowId).isSome →
          inst.nextRunAt ≠ none → Overwrites inst (run after s calls) (after (run after s calls) c)) ∧
      ∀ s₀ early late_ worker utcNow utcNow', Outrun early late_ →
        SqlWorkflowStore.commitAdvance utcNow early s₀ = .ok s →
          after (run after s calls) (.commit worker utcNow' late_) = run after s calls := by
  constructor
  · intro s
    exact ⟨InMemoryWorkflowStore.events_run s calls,
      fun c inst hc hget => InMemoryWorkflowStore.overwrites hc hget⟩
  · intro s
    refine ⟨s.events_run calls, fun c inst hc => overwrites_or_refused hc,
      fun c inst hc hevents hget hnext => SqlWorkflowStore.overwrites hc hevents hget hnext, ?_⟩
    intro s₀ early late_ worker utcNow utcNow' ⟨hid, hlate, hlo, hhi⟩ hearly
    obtain ⟨_, _, _, _, _, _, _, _, hevents, -⟩ := SqlWorkflowStore.commit_spec hearly
    obtain ⟨e, he, hw, hseq⟩ := SqlWorkflowStore.exists_numbered hlo hhi
    have hstored : e ∈ s.workflowEvents := hevents ▸ List.mem_append_right _ he
    have hrefused : ∀ s', SqlWorkflowStore.commitAdvance utcNow' late_ (run after s calls) ≠ .ok s' :=
      SqlWorkflowStore.commit_refused ((s.events_run calls).subset hstored) (hw.trans hid.symm) hseq
        hlate
    rw [after]
    cases hcall : WorkflowStore.commitAdvance utcNow' late_ (run after s calls) with
    | error err => rfl
    | ok s' => exact absurd hcall (hrefused s')

/-! ## A worker that has lost its workflow -/

/-- A write to a workflow that another worker holds leaves the store as it is. -/
def LeasedRun.Fenced {σ : Type} [WorkflowStore σ] (r : LeasedRun σ) (c : StoreCall) : Prop :=
  ∀ worker w held, c.writer = some (worker, w) → r.holder w = some held → held.1 ≠ worker →
    after r.store c = r.store

section Sample

/-- A worker claims for a minute, another one does two minutes later, and the first one
commits what it has claimed. -/
def lateCommit : List StoreCall :=
  [.claim "w1" 1 noonNextDay 60, .claim "w2" 1 (noonNextDay.addSeconds 120) 60,
    .commit "w1" "2026-01-02T12:02:00+00:00" { instance_ := normalizedRow }]

/-- The second worker's lease is gone from the row. -/
theorem late_commit_taken : ¬ Along LeasedRun.step LeasedRun.Fenced pendingRun lateCommit := by
  rintro ⟨-, -, hfenced, -⟩
  have hholder : (run LeasedRun.step pendingRun (lateCommit.take 2)).holder "wf1" =
      some ("w2", "2026-01-02T12:03:00+00:00") := by decide +kernel
  have hsame := hfenced "w1" "wf1" _ rfl hholder (by decide)
  have hbefore : ((run LeasedRun.step pendingRun (lateCommit.take 2)).store.row "wf1").map
      WorkflowInstance.leaseOwner = some (some "w2") := by decide +kernel
  have hafter : ((run LeasedRun.step pendingRun lateCommit).store.row "wf1").map
      WorkflowInstance.leaseOwner = some none := by decide +kernel
  have hrows : (run LeasedRun.step pendingRun lateCommit).store.row "wf1" =
      (run LeasedRun.step pendingRun (lateCommit.take 2)).store.row "wf1" :=
    congrArg (fun s => SqlWorkflowStore.row s "wf1") hsame
  rw [hrows, hbefore] at hafter
  exact absurd hafter (by decide)

/-- One advance, read twice and committed twice. -/
def normalizedBundle : AdvanceCommitBundle :=
  { instance_ := normalizedRow, events := [⟨.stateChanged, .obj []⟩] }

def normalizedStore : SqlWorkflowStore :=
  after pendingRun.store (.commit "w1" "2026-01-02T12:00:30+00:00" normalizedBundle)

theorem late_commit_overwrites :
    Overwrites normalizedRow (run after pendingRun.store (lateCommit.take 2))
        (run after pendingRun.store lateCommit) ∧
      after normalizedStore (.commit "w2" "2026-01-02T12:02:00+00:00" normalizedBundle) =
        normalizedStore := by
  constructor
  · exact ((late_writes (lateCommit.take 2)).2 pendingRun.store).2.2.1
      (.commit "w1" "2026-01-02T12:02:00+00:00" { instance_ := normalizedRow }) normalizedRow rfl rfl
      (by decide +kernel) (by decide)
  · exact ((late_writes []).2 normalizedStore).2.2.2 pendingRun.store normalizedBundle
      normalizedBundle "w2" "2026-01-02T12:00:30+00:00" _
      ⟨rfl, List.cons_ne_nil _ _, Nat.le_refl _, Nat.lt_succ_self _⟩ rfl

end Sample

end ImpactRelay
