/-
# `Workflows.Lease` — a claimed workflow belongs to one worker

A claim hands a workflow out under a lease.  Until the worker has committed or
given it up, nobody else gets it before the lease has run out — as long as
nothing but the holder writes to the row.  The stores check no writer, so this
is up to the workers; and the SQL store lets a signal clear the lease of a
running workflow, which the in-memory store refuses.
-/
import ImpactRelay.Lib.Run
import ImpactRelay.Workflows.StoreSql

namespace ImpactRelay

open WorkflowStore LawfulWorkflowStore

/-- The store, and for a workflow that is held the worker and its lease. -/
structure LeasedRun (σ : Type) where
  store : σ
  holder : Id → Option (String × String) := fun _ => none

namespace LeasedRun

variable {σ : Type} [WorkflowStore σ]

/-- The worker that commits or gives up a workflow by this call, which the store takes. -/
def givenUp (s : σ) : StoreCall → Option (String × Id)
  | .commit worker utcNow bundle =>
      if (commitAdvance utcNow bundle s).isOk then some (worker, bundle.workflowId) else none
  | .update worker utcNow inst =>
      if (updateInstance utcNow inst s).isOk ∧
          ¬ (inst.runStatus = .running ∧ inst.leaseOwner = some worker) then
        some (worker, inst.workflowId)
      else none
  | _ => none

def step (r : LeasedRun σ) (c : StoreCall) : LeasedRun σ where
  store := after r.store c
  holder w :=
    match (returned r.store c).find? fun inst => inst.workflowId = w with
    | some inst => some (inst.leaseOwner.getD "", inst.leaseExpiresAt.getD "")
    | none => (r.holder w).filter fun held => givenUp r.store c ≠ some (held.1, w)

/-- A held workflow is running under the lease it was handed out with. -/
def Held (r : LeasedRun σ) : Prop := ∀ w worker lease, r.holder w = some (worker, lease) →
  ∃ inst, row r.store w = some inst ∧ inst.runStatus = .running ∧ inst.leaseOwner = some worker ∧
    inst.leaseExpiresAt = some lease

/-- Nobody but the holder moves a held workflow; an update of its own that goes on
running keeps the lease. -/
def WritesOwn (r : LeasedRun σ) : StoreCall → Prop
  | .commit worker _ bundle => ∀ held ∈ r.holder bundle.workflowId, held.1 = worker
  | .update worker _ inst => ∀ held ∈ r.holder inst.workflowId, held.1 = worker ∧
      (inst.runStatus = .running → inst.leaseOwner = some worker →
        inst.leaseExpiresAt = some held.2)
  | _ => True

/-- A signal for a workflow that is not running, or for none. -/
def SparesRunning (r : LeasedRun σ) : StoreCall → Prop
  | .signal _ x _ => ∀ inst, WorkflowStore.get r.store x.tenantId x.workflowId = some inst →
      inst.runStatus ≠ .running
  | _ => True

/-- The store is as it was. -/
def Refused (r : LeasedRun σ) (c : StoreCall) : Prop := after r.store c = r.store

/-- What a claim hands out waited for a worker, or ran under a lease that has run out,
whoever holds it. -/
def Exclusive (r : LeasedRun σ) (c : StoreCall) : Prop :=
  ∀ inst ∈ returned r.store c,
    (∃ old, row r.store inst.workflowId = some old ∧ old.runStatus ≠ .waitingSignal ∧
      old.runStatus ∉ terminalRunStatuses) ∧
    ∀ worker lease, r.holder inst.workflowId = some (worker, lease) →
      ∃ other limit now ttl, c = .claim other limit now ttl ∧ leaseExpired σ now lease = true

section Exclusion

variable [LawfulWorkflowStore σ] {r : LeasedRun σ} {c : StoreCall}

omit [LawfulWorkflowStore σ] in
/-- What is claimable is neither waiting for a signal nor finished, and under a lease
it is claimable only when that has run out. -/
theorem claimable_cases {now : Datetime} {inst : WorkflowInstance} (h : Claimable σ now inst) :
    (inst.runStatus ≠ .waitingSignal ∧ inst.runStatus ∉ terminalRunStatuses) ∧
      ∀ lease, inst.runStatus = .running → inst.leaseExpiresAt = some lease →
        leaseExpired σ now lease = true := by
  have hstatus : ∀ status : WorkflowRunStatus,
      status ∈ claimableRunStatuses ∨ status = .running →
        status ≠ .waitingSignal ∧ status ∉ terminalRunStatuses := by
    intro status
    cases status <;> decide
  refine ⟨hstatus _ (h.imp_right And.left), fun lease hrunning hlease => ?_⟩
  rcases h with hclaimable | ⟨-, lease', hlease', hexpired⟩
  · exact absurd (hrunning ▸ hclaimable) (by decide)
  · rwa [← Option.some.inj (hlease'.symm.trans hlease)]

theorem exclusive_of_held (h : Held r) : Exclusive r c := by
  intro inst hinst
  obtain ⟨worker, limit, now, ttl, rfl, -, old, _, _, hold, hclaimable, -⟩ := returned_leased hinst
  obtain ⟨hstatus, hexpired⟩ := claimable_cases hclaimable
  refine ⟨⟨old, hold, hstatus⟩, fun holder lease hheld => ?_⟩
  obtain ⟨inst', hrow, hrunning, -, hlease⟩ := h _ holder lease hheld
  obtain rfl := Option.some.inj (hrow.symm.trans hold)
  exact ⟨worker, limit, now, ttl, rfl, hexpired lease hrunning hlease⟩

/-- A row that stays leased through a call nobody gives it up by. -/
theorem leased_after {w : Id} {worker lease : String} (hown : WritesOwn r c)
    (hsignal : SparesRunning r c ∨ Refused r c)
    (hreturned : ∀ inst ∈ returned r.store c, inst.workflowId ≠ w)
    (hkept : givenUp r.store c ≠ some (worker, w)) (hheld : r.holder w = some (worker, lease))
    (h : ∃ inst, row r.store w = some inst ∧ inst.runStatus = .running ∧
      inst.leaseOwner = some worker ∧ inst.leaseExpiresAt = some lease) :
    ∃ inst, row (after r.store c) w = some inst ∧ inst.runStatus = .running ∧
      inst.leaseOwner = some worker ∧ inst.leaseExpiresAt = some lease := by
  rcases hsignal with hsignal | hrefused
  swap
  · rw [show after r.store c = r.store from hrefused]
    exact h
  obtain ⟨inst, hrow, hrunning, howner, hlease⟩ := h
  have hother : ∀ {by_ : String} {v : Id}, c.writer = some (by_, v) → w ≠ v →
      ∃ inst, row (after r.store c) w = some inst ∧ inst.runStatus = .running ∧
        inst.leaseOwner = some worker ∧ inst.leaseExpiresAt = some lease :=
    fun hwriter hne => ⟨inst, (onlyRow_of_writer hwriter w hne).trans hrow, hrunning, howner, hlease⟩
  cases c with
  | signal utcNow x now =>
      rw [after]
      cases hcall : enqueueSignalAndWake utcNow x .pending now true r.store with
      | error e => exact ⟨inst, hrow, hrunning, howner, hlease⟩
      | ok s' =>
          obtain ⟨⟨old, _, hold, htenant, -⟩, honly, -⟩ := enqueue_ok hcall
          refine ⟨inst, (honly w ?_).trans hrow, hrunning, howner, hlease⟩
          rintro rfl
          obtain rfl := Option.some.inj (hold.symm.trans hrow)
          exact hsignal old (get_eq_some.mpr ⟨hold, htenant⟩) hrunning
  | claim other limit now ttl =>
      exact ⟨inst, (row_after_claim hreturned).trans hrow, hrunning, howner, hlease⟩
  | commit by_ utcNow bundle =>
      by_cases hw : w = bundle.workflowId
      swap
      · exact hother rfl hw
      subst hw
      obtain rfl : worker = by_ := hown _ hheld
      rw [after]
      cases hcall : commitAdvance utcNow bundle r.store with
      | error e => exact ⟨inst, hrow, hrunning, howner, hlease⟩
      | ok s' =>
          rw [givenUp, hcall] at hkept
          exact absurd (if_pos rfl) hkept
  | update by_ utcNow new =>
      by_cases hw : w = new.workflowId
      swap
      · exact hother rfl hw
      subst hw
      obtain ⟨rfl, hnext⟩ : worker = by_ ∧ _ := hown _ hheld
      rw [after]
      cases hcall : updateInstance utcNow new r.store with
      | error e => exact ⟨inst, hrow, hrunning, howner, hlease⟩
      | ok s' =>
          rw [givenUp, hcall] at hkept
          have hgoes : new.runStatus = .running ∧ new.leaseOwner = some worker := by
            by_contra hnot
            exact hkept (if_pos ⟨rfl, hnot⟩)
          obtain ⟨_, stored, _, _, hstored, hcursor, -⟩ := update_ok hcall
          exact ⟨stored, hstored, hcursor.runStatus ▸ hgoes.1, hcursor.leaseOwner ▸ hgoes.2,
            hcursor.leaseExpiresAt ▸ hnext hgoes.1 hgoes.2⟩
  | append by_ utcNow tenantId v events =>
      by_cases hw : w = v
      swap
      · exact hother rfl hw
      subst hw
      rw [after]
      cases hcall : appendEvents utcNow tenantId w events r.store with
      | error e => exact ⟨inst, hrow, hrunning, howner, hlease⟩
      | ok s' =>
          obtain ⟨⟨old, new, hold, hnew, hcursor, -⟩, -⟩ := append_ok hcall
          obtain rfl := Option.some.inj (hold.symm.trans hrow)
          exact ⟨new, hnew, hcursor.runStatus ▸ hrunning, hcursor.leaseOwner ▸ howner,
            hcursor.leaseExpiresAt ▸ hlease⟩
  | sweep now =>
      rcases sweep_rows now r.store w with heq | ⟨old, _, hold, -, hswept⟩
      · exact ⟨inst, heq.trans hrow, hrunning, howner, hlease⟩
      · obtain rfl := Option.some.inj (hold.symm.trans hrow)
        exact absurd (hswept.1.symm.trans hrunning) (by decide)

theorem step_held (hown : WritesOwn r c) (hsignal : SparesRunning r c ∨ Refused r c)
    (h : Held r) : Held (step r c) := by
  intro w worker lease hheld
  dsimp only [step] at hheld
  split at hheld
  · rename_i inst hfind
    have hinst : inst ∈ returned r.store c := List.mem_of_find?_eq_some hfind
    obtain rfl : inst.workflowId = w := by simpa using List.find?_some hfind
    obtain ⟨_, _, _, _, -, hrow, old, _, _, -, -, hinst'⟩ := returned_leased hinst
    refine ⟨inst, hrow, ?_⟩
    rw [hinst'] at hheld ⊢
    obtain ⟨rfl, rfl⟩ := Prod.mk.inj (Option.some.inj hheld)
    exact ⟨rfl, rfl, rfl⟩
  · rename_i hfind
    obtain ⟨hheld, hkept⟩ := Option.filter_eq_some_iff.mp hheld
    refine leased_after hown hsignal ?_ (of_decide_eq_true hkept) hheld (h w worker lease hheld)
    exact fun inst hinst heq => List.find?_eq_none.mp hfind inst hinst (decide_eq_true heq)

/-- Along a run in which only holders write and no running workflow gets a signal,
claims are exclusive. -/
theorem run_exclusive {calls : List StoreCall} (h : Held r)
    (hok : Along step (fun r c => WritesOwn r c ∧ (SparesRunning r c ∨ Refused r c)) r calls) :
    Along step Exclusive r calls := by
  induction calls generalizing r with
  | nil => trivial
  | cons c rest ih =>
      obtain ⟨⟨hown, hsignal⟩, hrest⟩ := hok
      exact ⟨exclusive_of_held h, ih (step_held hown hsignal h) hrest⟩

end Exclusion

/-- The in-memory store takes no signal for a running workflow. -/
theorem memory_sparesRunning (r : LeasedRun InMemoryWorkflowStore) (c : StoreCall) :
    SparesRunning r c ∨ Refused r c := by
  cases c with
  | signal utcNow x now =>
      cases hcall : enqueueSignalAndWake utcNow x .pending now true r.store with
      | error e =>
          refine Or.inr ?_
          rw [Refused, after, hcall]
          rfl
      | ok s' =>
          refine Or.inl fun inst hget hrunning => ?_
          obtain ⟨old, _, hold, _, haccepts, -⟩ := InMemoryWorkflowStore.enqueue_spec hcall
          obtain ⟨hrow, -⟩ := get_eq_some.mp hget
          obtain rfl := Option.some.inj (hold.symm.trans hrow)
          exact absurd (hrunning ▸ haccepts) (by decide)
  | _ => exact Or.inl trivial

/-- Claims are exclusive in both stores, as long as nobody else writes to what a
worker holds and, in the SQL store, no signal is sent to a running workflow. -/
theorem claim_exclusive (calls : List StoreCall) :
    (∀ r : LeasedRun InMemoryWorkflowStore, Held r → Along step WritesOwn r calls →
      Along step Exclusive r calls) ∧
    ∀ r : LeasedRun SqlWorkflowStore, Held r →
      Along step (fun r c => WritesOwn r c ∧ SparesRunning r c) r calls →
      Along step Exclusive r calls := by
  constructor
  · intro r hr hown
    exact run_exclusive hr (hown.mono fun r c h => ⟨h, memory_sparesRunning r c⟩)
  · intro r hr hown
    exact run_exclusive hr (hown.mono fun _ _ h => ⟨h.1, Or.inl h.2⟩)

end LeasedRun

section Sample

open LeasedRun

/-- A workflow that waits for a worker, in a SQL store of its own. -/
def pendingRow : WorkflowInstance :=
  { workflowId := "wf1", tenantId := "t1", workflowType := .expenseToReceipt,
    businessKey := "row-1", workflowState := .received, runStatus := .pending,
    nextRunAt := some "2026-01-02T00:00:00+00:00",
    createdAt := "2026-01-01T00:00:00+00:00", updatedAt := "2026-01-01T00:00:00+00:00" }

def pendingRun : LeasedRun SqlWorkflowStore :=
  { store := { workflows := Table.empty.put pendingRow } }

theorem pendingRun_held : Held pendingRun := fun _ _ _ h => nomatch h

/-- An operator's signal for it. -/
def resubmission : WorkflowSignal :=
  { signalId := "sig1", workflowId := "wf1", tenantId := "t1", signalType := .resubmit,
    payload := .fields [], createdAt := "2026-01-02T00:00:00+00:00" }

/-- One worker claims for a minute, an operator signals, another worker claims. -/
def signalledCalls : List StoreCall :=
  [.claim "w1" 1 noonNextDay 60, .signal "2026-01-02T12:00:00+00:00" resubmission noonNextDay,
    .claim "w2" 1 noonNextDay 60]

/-- The SQL store hands the workflow to the second worker in the same second. -/
theorem signalled_claimed_twice :
    Held pendingRun ∧ Along step WritesOwn pendingRun signalledCalls ∧
      ¬ Along step Exclusive pendingRun signalledCalls := by
  refine ⟨pendingRun_held, ⟨trivial, trivial, trivial, trivial⟩, ?_⟩
  rintro ⟨-, -, hexclusive, -⟩
  have hholder : (run step pendingRun (signalledCalls.take 2)).holder "wf1" =
      some ("w1", "2026-01-02T12:01:00+00:00") := by decide +kernel
  have hreturned : (returned (run step pendingRun (signalledCalls.take 2)).store
      (.claim "w2" 1 noonNextDay 60)).map WorkflowInstance.workflowId = ["wf1"] := by decide +kernel
  obtain ⟨inst, hinst, hid⟩ := List.mem_map.mp (hreturned ▸ List.mem_singleton.mpr rfl)
  obtain ⟨_, _, now, _, hcall, hexpired⟩ := (hexclusive inst hinst).2 _ _ (hid ▸ hholder)
  obtain ⟨-, -, rfl, -⟩ := StoreCall.claim.inj hcall
  exact absurd hexpired (by decide +kernel)

/-- What the first worker commits after its claim. -/
def normalizedRow : WorkflowInstance :=
  { pendingRow with workflowState := .normalized, updatedAt := "2026-01-02T12:00:00+00:00" }

/-- The first worker commits before the second one claims. -/
def committedCalls : List StoreCall :=
  [.claim "w1" 1 noonNextDay 60,
    .commit "w1" "2026-01-02T12:00:00+00:00" { instance_ := normalizedRow },
    .claim "w2" 1 noonNextDay 60]

theorem committed_exclusive : Along step Exclusive pendingRun committedCalls := by
  have hholder : (step pendingRun (.claim "w1" 1 noonNextDay 60)).holder "wf1" =
      some ("w1", "2026-01-02T12:01:00+00:00") := by decide +kernel
  refine (claim_exclusive committedCalls).2 pendingRun pendingRun_held
    ⟨⟨trivial, trivial⟩, ⟨fun held hheld => ?_, trivial⟩, ⟨trivial, trivial⟩, trivial⟩
  obtain rfl := Option.some.inj (hholder.symm.trans hheld)
  rfl

end Sample

end ImpactRelay
