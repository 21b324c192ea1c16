/-
# `Workflows.History` — the numbers of the events

Each store keeps the events of a workflow with their numbers, and the number of
the last one as `event_seq` of the row.  Four calls write numbers: an append and
a sweep go on from what is stored, a commit from what its caller has read, and a
create or an update sets the counter outright.  The in-memory store takes the
larger of the caller's number and the last one stored; the SQL store takes the
caller's, so a reading that another writer has outrun is refused with its
events, or sets the counter back.

`step_iff` says of one call when the history stays gapless and complete;
`gapless_history` says it of a run.
-/
import ImpactRelay.Lib.Numbered
import ImpactRelay.Workflows.Fencing

namespace ImpactRelay

open WorkflowStore

/-- A call on the store, creating a workflow among them. -/
inductive HistoryCall where
  | create (utcNow : String) (inst : WorkflowInstance)
  | call (c : StoreCall)

/-- What a store says about its histories. -/
class EventHistory (σ : Type) [WorkflowStore σ] where
  /-- The events stored for a workflow, in the order they came in. -/
  eventsOf : σ → Id → List WorkflowEvent
  /-- Neither the id nor the business key is taken. -/
  free : WorkflowInstance → σ → Prop
  /-- The row can be overwritten by this instance. -/
  writable : WorkflowInstance → σ → Prop
  /-- A commit with this counter goes on from a history of that length. -/
  follows : Nat → Nat → Prop

namespace EventHistory

variable {σ : Type} [WorkflowStore σ] [EventHistory σ]

def perform (s : σ) : HistoryCall → σ
  | .create utcNow inst => settle s (create utcNow inst s)
  | .call c => after s c

/-- `event_seq` of the row. -/
def counter (s : σ) (w : Id) : Nat := ((row s w).map WorkflowInstance.eventSeq).getD 0

def numbering (s : σ) (w : Id) : Numbered := ⟨counter s w, (eventsOf s w).map WorkflowEvent.seq⟩

/-- The events of each workflow have the numbers `1..event_seq`, in order. -/
def Gapless (s : σ) : Prop := ∀ w, (numbering s w).Gapless

def WorkflowEvent.write (e : WorkflowEvent) : WorkflowEventWrite := ⟨e.eventType, e.payload⟩

/-- The new events of the workflow are those of the writes. -/
def Adds (w : Id) (writes : List WorkflowEventWrite) (s s' : σ) : Prop :=
  ∃ es, eventsOf s' w = eventsOf s w ++ es ∧ es.map WorkflowEvent.write = writes

/-- A commit or an append that is taken when it has no events to number is taken with
them, and all of them are stored. -/
def Recorded (s : σ) : HistoryCall → Prop
  | .call (.commit _ utcNow bundle) =>
      (∃ s', commitAdvance utcNow { bundle with events := [] } s = .ok s') →
        ∃ s', commitAdvance utcNow bundle s = .ok s' ∧ Adds bundle.workflowId bundle.events s s'
  | .call (.append _ utcNow tenantId w writes) =>
      (∃ s', appendEvents utcNow tenantId w [] s = .ok s') →
        ∃ s', appendEvents utcNow tenantId w writes s = .ok s' ∧ Adds w writes s s'
  | _ => True

/-- Every call of the run records its events and leaves the histories gapless. -/
def GaplessRun (s : σ) (calls : List HistoryCall) : Prop :=
  Along perform (fun t c => Recorded t c ∧ Gapless (perform t c)) s calls

/-- The number that a call brings along fits the history it goes to. -/
def FitsHistory (s : σ) : HistoryCall → Prop
  | .create _ inst => free inst s → inst.eventSeq = 0
  | .call (.commit _ _ bundle) => writable bundle.instance_ s →
      follows σ bundle.instance_.eventSeq (eventsOf s bundle.workflowId).length
  | .call (.update _ _ inst) =>
      writable inst s → inst.eventSeq = (eventsOf s inst.workflowId).length
  | _ => True

/-- Every event is named after its workflow and its number. -/
def Named (s : σ) : Prop :=
  ∀ w, ∀ e ∈ eventsOf s w, e.workflowId = w ∧ e.eventId = s!"evt_{w}_{e.seq}"

/-- The events of a workflow go on from `base`, and its counter follows. -/
structure GoesOn (w : Id) (base : Nat) (writes : List WorkflowEventWrite) (s s' : σ) : Prop where
  ends : counter s' w = base + writes.length
  added : ∃ tenantId now, eventsOf s' w = eventsOf s w ++ numberEvents tenantId w now base writes
  others : ∀ v, v ≠ w → counter s' v = counter s v ∧ eventsOf s' v = eventsOf s v

/-- No history is touched. -/
def Quiet (s s' : σ) : Prop :=
  ∀ w, counter s' w = counter s w ∧ eventsOf s' w = eventsOf s w

end EventHistory

open EventHistory

/-- What the stores promise about their histories. -/
class LawfulEventHistory (σ : Type) [WorkflowStore σ] [EventHistory σ] : Prop where
  create_takes : ∀ (utcNow : String) {inst : WorkflowInstance} {s : σ},
    free inst s → ∃ s', create utcNow inst s = .ok s'
  create_free : ∀ {utcNow : String} {inst : WorkflowInstance} {s s' : σ},
    create utcNow inst s = .ok s' → free inst s ∧ counter s inst.workflowId = 0 ∧
      GoesOn inst.workflowId inst.eventSeq [] s s'
  signal_quiet : ∀ {utcNow : String} {signal : WorkflowSignal} {now : Datetime} {s s' : σ},
    enqueueSignalAndWake utcNow signal .pending now true s = .ok s' → Quiet s s'
  claim_quiet : ∀ {worker : String} {limit : Nat} {now : Datetime} {ttl : Nat} {s s' : σ}
    {claimed : List WorkflowInstance}, claim worker limit now ttl s = .ok (claimed, s') → Quiet s s'
  update_takes : ∀ (utcNow : String) {inst : WorkflowInstance} {s : σ},
    writable inst s → ∃ s', updateInstance utcNow inst s = .ok s'
  update_writable : ∀ {utcNow : String} {inst : WorkflowInstance} {s s' : σ},
    updateInstance utcNow inst s = .ok s' →
      writable inst s ∧ GoesOn inst.workflowId inst.eventSeq [] s s'
  append_goesOn : ∀ {utcNow : String} {tenantId w : Id} {writes : List WorkflowEventWrite} {s s' : σ},
    appendEvents utcNow tenantId w writes s = .ok s' → GoesOn w (counter s w) writes s s'
  append_takes : ∀ {utcNow : String} {tenantId w : Id} (writes : List WorkflowEventWrite) {s s' : σ},
    Gapless s → Named s → appendEvents utcNow tenantId w [] s = .ok s' →
      ∃ s', appendEvents utcNow tenantId w writes s = .ok s'
  commit_writable : ∀ {utcNow : String} {bundle : AdvanceCommitBundle} {s s' : σ},
    commitAdvance utcNow bundle s = .ok s' → Gapless s → writable bundle.instance_ s ∧
      ∃ base, GoesOn bundle.workflowId base bundle.events s s' ∧
        (base = counter s bundle.workflowId ↔
          follows σ bundle.instance_.eventSeq (counter s bundle.workflowId))
  commit_empty : ∀ {utcNow : String} {bundle : AdvanceCommitBundle} {s : σ},
    writable bundle.instance_ s →
      ∃ s', commitAdvance utcNow { bundle with events := [] } s = .ok s'
  commit_takes : ∀ (utcNow : String) {bundle : AdvanceCommitBundle} {s : σ},
    Gapless s → Named s → writable bundle.instance_ s →
      follows σ bundle.instance_.eventSeq (counter s bundle.workflowId) →
      ∃ s', commitAdvance utcNow bundle s = .ok s'
  sweep_keeps : ∀ (now : Datetime) {s : σ}, Gapless s → Named s →
    Gapless (sweepApprovalTimeouts now s).2 ∧ Named (sweepApprovalTimeouts now s).2

/-! ## The numbers of consecutive writes -/

theorem numberEvents_seq (tenantId w : Id) (now : String) (base : Nat)
    (writes : List WorkflowEventWrite) :
    (numberEvents tenantId w now base writes).map WorkflowEvent.seq =
      List.range' (base + 1) writes.length := by
  induction writes generalizing base with
  | nil => rfl
  | cons write writes ih =>
      rw [numberEvents, List.map_cons, ih (base + 1), List.length_cons, List.range'_succ]
      rfl

theorem numberEvents_write (tenantId w : Id) (now : String) (base : Nat)
    (writes : List WorkflowEventWrite) :
    (numberEvents tenantId w now base writes).map WorkflowEvent.write = writes := by
  induction writes generalizing base with
  | nil => rfl
  | cons write writes ih =>
      rw [numberEvents, List.map_cons, ih (base + 1)]
      rfl

theorem numberEvents_named {tenantId w : Id} {now : String} {base : Nat}
    {writes : List WorkflowEventWrite} :
    ∀ e ∈ numberEvents tenantId w now base writes,
      e.workflowId = w ∧ e.eventId = s!"evt_{w}_{e.seq}" := by
  induction writes generalizing base with
  | nil => exact fun _ h => absurd h List.not_mem_nil
  | cons write writes ih => exact List.forall_mem_cons.mpr ⟨⟨rfl, rfl⟩, ih⟩

namespace EventHistory

variable {σ : Type} [WorkflowStore σ] [EventHistory σ] {s s' : σ} {w : Id} {base : Nat}
  {writes : List WorkflowEventWrite}

theorem Gapless.length (h : Gapless s) (w : Id) : (eventsOf s w).length = counter s w := by
  have hlength := (h w).length
  rwa [numbering, List.length_map] at hlength

theorem GoesOn.numbering (h : GoesOn w base writes s s') :
    numbering s' w = (numbering s w).goOn base writes.length := by
  obtain ⟨tenantId, now, hevents⟩ := h.added
  simp only [EventHistory.numbering, Numbered.goOn, h.ends, hevents, List.map_append,
    numberEvents_seq]

/-- The histories stay gapless exactly if the new events go on from the counter. -/
theorem GoesOn.gapless_iff (h : GoesOn w base writes s s') (hs : Gapless s) :
    Gapless s' ↔ base = counter s w := by
  have hhere : (EventHistory.numbering s' w).Gapless ↔ base = counter s w := by
    rw [h.numbering]
    exact (hs w).goOn_iff base writes.length
  constructor
  · intro hs'
    exact hhere.mp (hs' w)
  · intro hbase v
    by_cases hv : v = w
    · rw [hv]
      exact hhere.mpr hbase
    · obtain ⟨hcounter, hevents⟩ := h.others v hv
      rw [EventHistory.numbering, hcounter, hevents]
      exact hs v

theorem GoesOn.named (h : GoesOn w base writes s s') (hs : Named s) : Named s' := by
  intro v
  by_cases hv : v = w
  · obtain ⟨tenantId, now, hevents⟩ := h.added
    rw [hv, hevents]
    intro e he
    rcases List.mem_append.mp he with hold | hnew
    · exact hs w e hold
    · exact numberEvents_named e hnew
  · rw [(h.others v hv).2]
    exact hs v

theorem GoesOn.adds (h : GoesOn w base writes s s') : Adds w writes s s' := by
  obtain ⟨tenantId, now, hevents⟩ := h.added
  exact ⟨_, hevents, numberEvents_write tenantId w now base writes⟩

theorem Quiet.gapless (h : Quiet s s') (hs : Gapless s) : Gapless s' := by
  intro w
  rw [numbering, (h w).1, (h w).2]
  exact hs w

theorem Quiet.named (h : Quiet s s') (hs : Named s) : Named s' := by
  intro w
  rw [(h w).2]
  exact hs w

theorem Quiet.refl (s : σ) : Quiet s s := fun _ => ⟨rfl, rfl⟩

omit [WorkflowStore σ] [EventHistory σ] in
/-- A call is refused and leaves the store, or does what it does. -/
theorem settle_cases {P : σ → Prop} {result : Except PyExc σ} (hrefused : P s)
    (htaken : ∀ s', result = .ok s' → P s') : P (settle s result) := by
  cases result with
  | error e => exact hrefused
  | ok s' => exact htaken s' rfl

end EventHistory

/-! ## One call -/

section Step

variable {σ : Type} [WorkflowStore σ] [EventHistory σ] [LawfulEventHistory σ] {s : σ}

open LawfulEventHistory

theorem quiet_claim (worker : String) (limit : Nat) (now : Datetime) (ttl : Nat) :
    Quiet s (after s (.claim worker limit now ttl)) := by
  rw [after]
  cases hcall : claim worker limit now ttl s with
  | error e => exact .refl s
  | ok result =>
      obtain ⟨claimed, s'⟩ := result
      exact claim_quiet hcall

/-- Every call names its events. -/
theorem named_perform (hs : Gapless s) (hn : Named s) (c : HistoryCall) : Named (perform s c) := by
  cases c with
  | create utcNow inst =>
      exact settle_cases hn fun s' h => (create_free h).2.2.named hn
  | call c =>
      cases c with
      | signal utcNow x now => exact settle_cases hn fun s' h => (signal_quiet h).named hn
      | claim worker limit now ttl =>
          exact (quiet_claim worker limit now ttl).named hn
      | commit worker utcNow bundle =>
          refine settle_cases hn fun s' h => ?_
          obtain ⟨-, base, hgoes, -⟩ := commit_writable h hs
          exact hgoes.named hn
      | update worker utcNow inst =>
          exact settle_cases hn fun s' h => (update_writable h).2.named hn
      | append worker utcNow tenantId w writes =>
          exact settle_cases hn fun s' h => (append_goesOn h).named hn
      | sweep now => exact (sweep_keeps now hs hn).2

theorem commit_iff (hs : Gapless s) (hn : Named s) (worker utcNow : String)
    (bundle : AdvanceCommitBundle) :
    Recorded s (.call (.commit worker utcNow bundle)) ∧
        Gapless (after s (.commit worker utcNow bundle)) ↔
      FitsHistory s (.call (.commit worker utcNow bundle)) := by
  have hlength := hs.length bundle.workflowId
  constructor
  · rintro ⟨hrecorded, hgapless⟩ hwritable
    obtain ⟨s', htaken, -⟩ := hrecorded (commit_empty hwritable)
    obtain ⟨-, base, hgoes, hbase⟩ := commit_writable htaken hs
    rw [after, htaken] at hgapless
    rw [hlength]
    exact hbase.mp ((hgoes.gapless_iff hs).mp hgapless)
  · intro hfits
    constructor
    · rintro ⟨s₀, hempty⟩
      have hwritable : writable bundle.instance_ s := (commit_writable hempty hs).1
      have hfollows := hfits hwritable
      rw [hlength] at hfollows
      obtain ⟨s', htaken⟩ := commit_takes utcNow hs hn hwritable hfollows
      obtain ⟨-, base, hgoes, -⟩ := commit_writable htaken hs
      exact ⟨s', htaken, hgoes.adds⟩
    · refine settle_cases hs fun s' h => ?_
      obtain ⟨hwritable, base, hgoes, hbase⟩ := commit_writable h hs
      have hfollows := hfits hwritable
      rw [hlength] at hfollows
      exact (hgoes.gapless_iff hs).mpr (hbase.mpr hfollows)

theorem create_iff (hs : Gapless s) (utcNow : String) (inst : WorkflowInstance) :
    Gapless (settle s (create utcNow inst s)) ↔ FitsHistory s (.create utcNow inst) := by
  constructor
  · intro hgapless hfree
    obtain ⟨s', htaken⟩ := create_takes utcNow hfree
    obtain ⟨-, hzero, hgoes⟩ := create_free htaken
    rw [htaken] at hgapless
    exact ((hgoes.gapless_iff hs).mp hgapless).trans hzero
  · intro hfits
    refine settle_cases hs fun s' h => ?_
    obtain ⟨hfree, hzero, hgoes⟩ := create_free h
    exact (hgoes.gapless_iff hs).mpr ((hfits hfree).trans hzero.symm)

theorem update_iff (hs : Gapless s) (worker utcNow : String) (inst : WorkflowInstance) :
    Gapless (after s (.update worker utcNow inst)) ↔
      FitsHistory s (.call (.update worker utcNow inst)) := by
  have hlength := hs.length inst.workflowId
  constructor
  · intro hgapless hwritable
    obtain ⟨s', htaken⟩ := update_takes utcNow hwritable
    rw [after, htaken] at hgapless
    rw [hlength]
    exact ((update_writable htaken).2.gapless_iff hs).mp hgapless
  · intro hfits
    refine settle_cases hs fun s' h => ?_
    obtain ⟨hwritable, hgoes⟩ := update_writable h
    exact (hgoes.gapless_iff hs).mpr ((hfits hwritable).trans hlength)

/-- An append takes its number from the row. -/
theorem append_keeps (hs : Gapless s) (hn : Named s) (worker utcNow : String) (tenantId w : Id)
    (writes : List WorkflowEventWrite) :
    Recorded s (.call (.append worker utcNow tenantId w writes)) ∧
      Gapless (after s (.append worker utcNow tenantId w writes)) := by
  constructor
  · rintro ⟨s₀, hempty⟩
    obtain ⟨s', htaken⟩ := append_takes writes hs hn hempty
    exact ⟨s', htaken, (append_goesOn htaken).adds⟩
  · refine settle_cases hs fun s' h => ?_
    exact ((append_goesOn h).gapless_iff hs).mpr rfl

/-- A call from a gapless store records its events and leaves the store gapless exactly
if the number it brings along fits. -/
theorem step_iff (hs : Gapless s) (hn : Named s) (c : HistoryCall) :
    Recorded s c ∧ Gapless (perform s c) ↔ FitsHistory s c := by
  cases c with
  | create utcNow inst => exact (and_iff_right trivial).trans (create_iff hs utcNow inst)
  | call c =>
      cases c with
      | signal utcNow x now =>
          exact ⟨fun _ => trivial,
            fun _ => ⟨trivial, settle_cases hs fun s' h => (signal_quiet h).gapless hs⟩⟩
      | claim worker limit now ttl =>
          exact ⟨fun _ => trivial,
            fun _ => ⟨trivial, (quiet_claim worker limit now ttl).gapless hs⟩⟩
      | commit worker utcNow bundle => exact commit_iff hs hn worker utcNow bundle
      | update worker utcNow inst => exact (and_iff_right trivial).trans (update_iff hs worker utcNow inst)
      | append worker utcNow tenantId w writes =>
          exact ⟨fun _ => trivial, fun _ => append_keeps hs hn worker utcNow tenantId w writes⟩
      | sweep now => exact ⟨fun _ => trivial, fun _ => ⟨trivial, (sweep_keeps now hs hn).1⟩⟩

/-- A run from a gapless store is gapless exactly if every number that its calls bring
along fits the history at that moment. -/
theorem gaplessRun_iff (hs : Gapless s) (hn : Named s) (calls : List HistoryCall) :
    GaplessRun s calls ↔ Along perform FitsHistory s calls := by
  refine along_iff (I := fun t => Gapless t ∧ Named t) ?_ ?_ ⟨hs, hn⟩
  · intro t c ht
    exact step_iff ht.1 ht.2 c
  · intro t c ht hc
    exact ⟨hc.2, named_perform ht.1 ht.2 c⟩

end Step

end ImpactRelay
