/-
# `Workflows.GaplessHistory` — the two stores number their events

The in-memory store takes every commit whose caller has not counted ahead of the
history.  The SQL store takes a commit as it should only from a caller that has
read the last event: a commit of a caller behind is refused for its numbers, or
sets `event_seq` back when it has no events.
-/
import ImpactRelay.Workflows.History

namespace ImpactRelay

open WorkflowStore EventHistory

section Rows

variable {σ : Type} [WorkflowStore σ] [EventHistory σ] {s s' : σ} {w tenantId : Id} {base : Nat}
  {now : String} {writes : List WorkflowEventWrite} {new : WorkflowInstance}

omit [EventHistory σ] in
theorem counter_of_row (h : row s w = some new) : counter s w = new.eventSeq := by
  rw [counter, h]
  rfl

/-- A call that writes one row and the events of that workflow. -/
theorem goesOn_of_row (new : WorkflowInstance) (hrow : row s' w = some new)
    (hseq : new.eventSeq = base + writes.length)
    (honly : OnlyRow w s s')
    (hhere : eventsOf s' w = eventsOf s w ++ numberEvents tenantId w now base writes)
    (hothers : ∀ v, v ≠ w → eventsOf s' v = eventsOf s v) : GoesOn w base writes s s' where
  ends := (counter_of_row hrow).trans hseq
  added := ⟨tenantId, now, hhere⟩
  others v hv := ⟨by rw [counter, counter, honly v hv], hothers v hv⟩

/-- Taking a lease leaves the counter of every row. -/
theorem quiet_of_claim [LawfulWorkflowStore σ] {worker : String} {limit : Nat} {at_ : Datetime}
    {ttl : Nat} {claimed : List WorkflowInstance} (h : claim worker limit at_ ttl s = .ok (claimed, s'))
    (hevents : ∀ v, eventsOf s' v = eventsOf s v) : Quiet s s' := by
  obtain ⟨hclaimed, hothers, -⟩ := LawfulWorkflowStore.claim_ok h
  intro v
  refine ⟨?_, hevents v⟩
  by_cases hv : ∃ inst ∈ claimed, inst.workflowId = v
  · obtain ⟨inst, hinst, rfl⟩ := hv
    obtain ⟨hnew, old, lease, nowIso, hold, -, heq⟩ := hclaimed inst hinst
    rw [counter_of_row hnew, counter_of_row hold, heq]
    rfl
  · push Not at hv
    rw [counter, counter, hothers v hv]

/-- Writing one row without its counter. -/
theorem quiet_of_write {old : WorkflowInstance} (hold : row s w = some old)
    (hnew : row s' w = some new) (hseq : new.eventSeq = old.eventSeq) (honly : OnlyRow w s s')
    (hevents : ∀ v, eventsOf s' v = eventsOf s v) : Quiet s s' := by
  intro v
  refine ⟨?_, hevents v⟩
  by_cases hv : v = w
  · rw [hv, counter_of_row hold, counter_of_row hnew, hseq]
  · rw [counter, counter, honly v hv]

end Rows

/-! ## The in-memory store -/

namespace InMemoryWorkflowStore

instance : EventHistory InMemoryWorkflowStore where
  eventsOf := eventsOf
  free inst s := s.row inst.workflowId = none ∧
    (inst.tenantId, inst.workflowType, inst.businessKey) ∉ s.byBusiness
  writable inst s := (WorkflowStore.get s inst.tenantId inst.workflowId).isSome
  follows n length := n ≤ length

variable {s s' : InMemoryWorkflowStore} {w tenantId : Id} {base : Nat} {now utcNow : String}
  {writes : List WorkflowEventWrite} {inst new : WorkflowInstance}

theorem eventsOf_of_set {es : List WorkflowEvent} (h : s'.events = s.events.set w es) (v : Id) :
    s'.eventsOf v = if v = w then es else s.eventsOf v := by
  rw [eventsOf, h, Dict.get?_set]
  split
  · rfl
  · rfl

theorem goesOn_of_set (hput : s'.instances = s.instances.put new) (hid : new.workflowId = w)
    (hseq : new.eventSeq = base + writes.length)
    (hset : s'.events = s.events.set w (s.eventsOf w ++ numberEvents tenantId w now base writes)) :
    GoesOn w base writes s s' := by
  refine goesOn_of_row new ?_ hseq ?_ ((eventsOf_of_set hset w).trans (if_pos rfl)) ?_
  · exact (row_of_put hput w).trans (if_pos hid.symm)
  · intro v hv
    exact onlyRow_of_put hput v (hid ▸ hv)
  · intro v hv
    exact (eventsOf_of_set hset v).trans (if_neg hv)

/-- The number a commit or a sweep reads off the last event is the counter of the row. -/
theorem last_seq (hs : Gapless s) (w : Id) :
    (s.eventsOf w = [] ∧ counter s w = 0) ∨
      ∃ last, (s.eventsOf w).getLast? = some last ∧ last.seq = counter s w := by
  have hlength : (s.eventsOf w).length = counter s w := hs.length w
  by_cases hnil : s.eventsOf w = []
  · rw [hnil] at hlength
    exact Or.inl ⟨hnil, hlength.symm⟩
  · obtain ⟨last, hlast⟩ := List.getLast?_isSome.mpr hnil |> Option.isSome_iff_exists.mp
    have hnumbers := (hs w).getLast? fun h => hnil (List.map_eq_nil_iff.mp h)
    have hmap : ((s.eventsOf w).map WorkflowEvent.seq).getLast? = some last.seq := by
      rw [List.getLast?_map, hlast]
      rfl
    exact Or.inr ⟨last, hlast, Option.some.inj (hmap.symm.trans hnumbers)⟩

theorem create_spec (h : create inst s = .ok s') : s.row inst.workflowId = none ∧
    (inst.tenantId, inst.workflowType, inst.businessKey) ∉ s.byBusiness ∧
    s'.instances = s.instances.put inst ∧
    s'.events = s.events.set inst.workflowId (s.eventsOf inst.workflowId) := by
  rw [create] at h
  split at h
  · cases h
  rename_i hnone
  split at h
  · cases h
  rename_i hkey
  obtain rfl := Except.ok.inj h
  exact ⟨Option.not_isSome_iff_eq_none.mp hnone, hkey, rfl, rfl⟩

theorem append_goesOn (h : appendEvents utcNow tenantId w writes s = .ok s') :
    GoesOn w (counter s w) writes s s' := by
  obtain ⟨inst, hfind, h⟩ := Raise.except_bind_eq_ok.mp h
  obtain ⟨hrow, -⟩ := find_eq_ok.mp hfind
  have hid : inst.workflowId = w := Table.key_of_find? hrow
  have hcounter : counter s w = inst.eventSeq := counter_of_row hrow
  obtain rfl := Except.ok.inj h
  rw [hcounter]
  exact goesOn_of_set rfl hid rfl rfl

theorem commit_number (hs : Gapless s) (w : Id) (n : Nat) :
    (match (s.eventsOf w).getLast? with
      | some last => max n last.seq
      | none => n) = max n (counter s w) := by
  rcases last_seq hs w with ⟨hnil, hzero⟩ | ⟨last, hlast, hseq⟩
  · simp [hnil, hzero]
  · simp [hlast, hseq]

theorem sweep_number (hs : Gapless s) (hrow : s.row inst.workflowId = some inst) :
    (match (s.eventsOf inst.workflowId).getLast? with
      | some last => last.seq + 1
      | none => inst.eventSeq + 1) = counter s inst.workflowId + 1 := by
  have hcounter : counter s inst.workflowId = inst.eventSeq := counter_of_row hrow
  rcases last_seq hs inst.workflowId with ⟨hnil, -⟩ | ⟨last, hlast, hseq⟩
  · simp [hnil, hcounter]
  · simp [hlast, hseq]

theorem commit_goesOn {bundle : AdvanceCommitBundle} (hs : Gapless s)
    (h : commitAdvance utcNow bundle s = .ok s') :
    GoesOn bundle.workflowId (max bundle.instance_.eventSeq (counter s bundle.workflowId))
      bundle.events s s' := by
  obtain ⟨inst, hfind, h⟩ := Raise.except_bind_eq_ok.mp h
  obtain rfl := Except.ok.inj h
  rw [← commit_number hs]
  exact goesOn_of_set rfl rfl rfl rfl

theorem timeOut_goesOn (now : String) (hs : Gapless s) (hrow : s.row inst.workflowId = some inst) :
    ∃ write, GoesOn inst.workflowId (counter s inst.workflowId) [write] s (timeOut now inst s) := by
  have hevents : ∃ write, (timeOut now inst s).events = s.events.set inst.workflowId
      (s.eventsOf inst.workflowId ++ [WorkflowEventWrite.event write inst.tenantId inst.workflowId
        (match (s.eventsOf inst.workflowId).getLast? with
          | some last => last.seq + 1
          | none => inst.eventSeq + 1) now]) := ⟨_, rfl⟩
  obtain ⟨write, hset⟩ := hevents
  rw [sweep_number hs hrow] at hset
  exact ⟨write, goesOn_of_set rfl rfl (sweep_number hs hrow) hset⟩

/-- The loop comes to each workflow once, and finds it as it was. -/
theorem sweepFrom_keeps {at_ : Datetime} {insts : List WorkflowInstance}
    (hnodup : (insts.map WorkflowInstance.workflowId).Nodup)
    (hstored : ∀ inst ∈ insts, s.row inst.workflowId = some inst) (hs : Gapless s) (hn : Named s) :
    Gapless (sweepFrom at_ insts s).2 ∧ Named (sweepFrom at_ insts s).2 := by
  induction insts generalizing s with
  | nil => exact ⟨hs, hn⟩
  | cons inst rest ih =>
      obtain ⟨hnew, hnodup⟩ := List.nodup_cons.mp hnodup
      obtain ⟨hinst, hrest⟩ := List.forall_mem_cons.mp hstored
      rw [sweepFrom]
      split
      · exact ⟨hs, hn⟩
      · exact ih hnodup hrest hs hn
      · obtain ⟨write, hgoes⟩ := timeOut_goesOn at_.truncate.isoformat hs hinst
        refine ih hnodup (fun x hx => ?_) ((hgoes.gapless_iff hs).mpr rfl) (hgoes.named hn)
        have hne : x.workflowId ≠ inst.workflowId := fun heq =>
          hnew (List.mem_map.mpr ⟨x, hx, heq⟩)
        have hkept : (timeOut at_.truncate.isoformat inst s).row x.workflowId =
            s.row x.workflowId := Table.find?_put_ne hne
        exact hkept.trans (hrest x hx)

theorem commit_taken (utcNow : String) (bundle : AdvanceCommitBundle)
    (h : writable bundle.instance_ s) : ∃ s', commitAdvance utcNow bundle s = .ok s' := by
  obtain ⟨old, hold⟩ := Option.isSome_iff_exists.mp h
  have hfind : s.find bundle.tenantId bundle.workflowId = .ok old :=
    find_eq_ok.mpr (get_eq_some.mp hold)
  rw [commitAdvance, hfind]
  exact ⟨_, rfl⟩

instance : LawfulEventHistory InMemoryWorkflowStore where
  create_takes utcNow {inst s} h := by
    change ∃ s', create inst s = .ok s'
    rw [create, h.1]
    exact ⟨_, if_neg h.2⟩
  create_free {utcNow inst s s'} h := by
    obtain ⟨hnone, hkey, hput, hset⟩ := create_spec h
    refine ⟨⟨hnone, hkey⟩, ?_, ?_⟩
    · show ((s.row inst.workflowId).map WorkflowInstance.eventSeq).getD 0 = 0
      rw [hnone]
      rfl
    · have hnone : s.eventsOf inst.workflowId = s.eventsOf inst.workflowId ++
          numberEvents inst.tenantId inst.workflowId utcNow inst.eventSeq [] := (List.append_nil _).symm
      exact goesOn_of_set hput rfl rfl (hset.trans (congrArg _ hnone))
  signal_quiet {utcNow signal now s s'} h := by
    obtain ⟨inst, hfind, h⟩ := Raise.except_bind_eq_ok.mp h
    obtain ⟨hrow, -⟩ := find_eq_ok.mp hfind
    split at h
    · exact absurd h nofun
    have hput : ∃ new, s'.instances = s.instances.put new ∧ new.eventSeq = inst.eventSeq ∧
        new.workflowId = inst.workflowId ∧ s'.events = s.events := by
      obtain rfl := Except.ok.inj h
      exact ⟨_, rfl, rfl, rfl, rfl⟩
    obtain ⟨new, hput, hseq, hid, hevents⟩ := hput
    have hid' : new.workflowId = signal.workflowId := hid.trans (Table.key_of_find? hrow)
    refine quiet_of_write hrow ((row_of_put hput _).trans (if_pos hid'.symm)) hseq (fun v hv => ?_)
      fun v => ?_
    · exact onlyRow_of_put hput v (hid' ▸ hv)
    · exact congrArg (fun d : Dict Id (List WorkflowEvent) => (d.get? v).getD []) hevents
  claim_quiet h := by
    refine quiet_of_claim h fun v => ?_
    obtain ⟨rfl, -⟩ := claim_spec h
    rfl
  update_takes utcNow {inst s} h := by
    obtain ⟨old, hold⟩ := Option.isSome_iff_exists.mp h
    have hfind : s.find inst.tenantId inst.workflowId = .ok old :=
      find_eq_ok.mpr (get_eq_some.mp hold)
    change ∃ s', updateInstance inst s = .ok s'
    rw [updateInstance, hfind]
    exact ⟨_, rfl⟩
  update_writable {utcNow inst s s'} h := by
    obtain ⟨old, hrow, htenant, rfl⟩ := update_spec h
    refine ⟨Option.isSome_iff_exists.mpr ⟨old, get_eq_some.mpr ⟨hrow, htenant⟩⟩, ?_⟩
    have hnone : s.eventsOf inst.workflowId = s.eventsOf inst.workflowId ++
        numberEvents inst.tenantId inst.workflowId utcNow inst.eventSeq [] :=
      (List.append_nil _).symm
    exact goesOn_of_row inst ((row_of_put rfl _).trans (if_pos rfl)) rfl (onlyRow_of_put rfl) hnone
      fun _ _ => rfl
  append_goesOn h := append_goesOn h
  append_takes {utcNow tenantId w} writes {s s'} hs hn h := by
    obtain ⟨inst, hfind, -⟩ := Raise.except_bind_eq_ok.mp h
    change ∃ s', appendEvents utcNow tenantId w writes s = .ok s'
    rw [appendEvents, hfind]
    exact ⟨_, rfl⟩
  commit_writable {utcNow bundle s s'} h hs := by
    obtain ⟨old, _, hrow, htenant, -⟩ := commit_spec h
    refine ⟨Option.isSome_iff_exists.mpr ⟨old, get_eq_some.mpr ⟨hrow, htenant⟩⟩, _,
      commit_goesOn hs h, ?_⟩
    show max _ _ = _ ↔ bundle.instance_.eventSeq ≤ counter s bundle.workflowId
    omega
  commit_empty {utcNow bundle s} h := commit_taken utcNow { bundle with events := [] } h
  commit_takes utcNow {bundle s} hs hn h _ := commit_taken utcNow bundle h
  sweep_keeps now {s} hs hn :=
    sweepFrom_keeps s.instances.nodup_rows (fun _ h => Table.mem_rows.mp h) hs hn

end InMemoryWorkflowStore

/-! ## The SQL store -/

namespace SqlWorkflowStore

/-- The rows of the event table for a workflow. -/
def eventsOf (s : SqlWorkflowStore) (w : Id) : List WorkflowEvent :=
  s.workflowEvents.filter fun e => e.workflowId = w

instance : EventHistory SqlWorkflowStore where
  eventsOf := eventsOf
  free inst s := s.row inst.workflowId = none ∧ ∀ other ∈ s.workflows.rows,
    ¬ (other.tenantId = inst.tenantId ∧ other.workflowType = inst.workflowType ∧
      other.businessKey = inst.businessKey)
  writable inst s :=
    (WorkflowStore.get s inst.tenantId inst.workflowId).isSome ∧ inst.nextRunAt ≠ none
  follows n length := n = length

variable {s s' : SqlWorkflowStore} {w tenantId : Id} {base : Nat} {now utcNow : String}
  {writes : List WorkflowEventWrite} {inst new : WorkflowInstance}

/-- New events are filed under their own workflow. -/
theorem eventsOf_append {es : List WorkflowEvent} (h : s'.workflowEvents = s.workflowEvents ++ es)
    (hes : ∀ e ∈ es, e.workflowId = w) (v : Id) :
    s'.eventsOf v = if v = w then s.eventsOf w ++ es else s.eventsOf v := by
  rw [eventsOf, h, List.filter_append]
  split
  · rename_i hv
    rw [hv, ← eventsOf, List.filter_eq_self.mpr fun e he => decide_eq_true (hes e he)]
  · rename_i hv
    rw [← eventsOf, List.filter_eq_nil_iff.mpr, List.append_nil]
    intro e he
    rw [decide_eq_true_eq, hes e he]
    exact Ne.symm hv

theorem goesOn_of_insert (hput : s'.workflows = s.workflows.put new) (hid : new.workflowId = w)
    (hseq : new.eventSeq = base + writes.length)
    (hinsert : s'.workflowEvents =
      s.workflowEvents ++ numberEvents tenantId w now base writes) : GoesOn w base writes s s' := by
  have hevents := eventsOf_append hinsert fun e he => (numberEvents_named e he).1
  refine goesOn_of_row new ?_ hseq ?_ ((hevents w).trans (if_pos rfl)) ?_
  · exact (row_of_put hput w).trans (if_pos hid.symm)
  · intro v hv
    exact onlyRow_of_put hput v (hid ▸ hv)
  · intro v hv
    exact (hevents v).trans (if_neg hv)

theorem eventName_inj {v : Id} {m n : Nat} (h : s!"evt_{w}_{m}" = s!"evt_{v}_{n}") :
    w = v ∧ m = n := by
  have hlist := congrArg String.toList h
  change ("evt_" ++ w ++ "_" ++ Nat.repr m).toList = ("evt_" ++ v ++ "_" ++ Nat.repr n).toList
    at hlist
  have hmark : "_".toList = ['_'] := rfl
  simp only [String.toList_append, hmark, List.append_assoc, List.singleton_append] at hlist
  obtain ⟨hname, hnumber⟩ := numbered_name_inj (List.append_cancel_left hlist)
  exact ⟨String.ext hname, hnumber⟩

/-- A stored event that clashes with a new one has its workflow and its number. -/
theorem clash_number (hn : Named s) {e old : WorkflowEvent} (he : old ∈ s.workflowEvents)
    (hname : e.eventId = s!"evt_{w}_{e.seq}") (hw : e.workflowId = w)
    (hclash : eventClash e old = true) : old ∈ s.eventsOf w ∧ old.seq = e.seq := by
  have hnamed : old.eventId = s!"evt_{old.workflowId}_{old.seq}" :=
    (hn old.workflowId old (List.mem_filter.mpr ⟨he, decide_eq_true rfl⟩)).2
  rcases (Bool.or_eq_true _ _).mp hclash with hsame | hsame
  · have hids := of_decide_eq_true hsame
    rw [hname, hnamed] at hids
    obtain ⟨hid, hseq⟩ := eventName_inj hids
    exact ⟨List.mem_filter.mpr ⟨he, decide_eq_true hid.symm⟩, hseq.symm⟩
  · obtain ⟨hsame, hseq⟩ := (Bool.and_eq_true _ _).mp hsame
    have hmem : old.workflowId = w := (of_decide_eq_true hsame).symm.trans hw
    exact ⟨List.mem_filter.mpr ⟨he, decide_eq_true hmem⟩, (of_decide_eq_true hseq).symm⟩

/-- Events that go on from the last number are taken. -/
theorem insertEvents_takes (tenantId : Id) (now : String) (writes : List WorkflowEventWrite)
    {n : Nat} (hn : Named s)
    (hs : (s.eventsOf w).map WorkflowEvent.seq = List.range' 1 n) :
    ∃ s', insertEvents (numberEvents tenantId w now n writes) s = .ok s' := by
  induction writes generalizing s n with
  | nil => exact ⟨s, rfl⟩
  | cons write writes ih =>
      have hfree : ¬ s.workflowEvents.any (eventClash (write.event tenantId w (n + 1) now)) := by
        intro hany
        obtain ⟨e', he', hclash⟩ := List.any_eq_true.mp hany
        obtain ⟨hmem, hseq⟩ := clash_number hn he' rfl rfl hclash
        have hnumber : e'.seq ∈ List.range' 1 n := hs ▸ List.mem_map_of_mem hmem
        rw [hseq, List.mem_range'_1] at hnumber
        exact absurd hnumber.2 (by show ¬ n + 1 < 1 + n; omega)
      rw [numberEvents, insertEvents, if_neg hfree]
      let t : SqlWorkflowStore :=
        { s with workflowEvents := s.workflowEvents ++ [write.event tenantId w (n + 1) now] }
      have hadd : t.workflowEvents = s.workflowEvents ++ numberEvents tenantId w now n [write] := rfl
      have hevents := eventsOf_append hadd fun e he => (numberEvents_named e he).1
      show ∃ s', insertEvents (numberEvents tenantId w now (n + 1) writes) t = .ok s'
      refine ih ?_ ?_
      · intro v e he
        change e ∈ eventsOf _ v at he
        rw [hevents] at he
        split at he
        · rename_i hv
          rcases List.mem_append.mp he with hold | hnew
          · exact hv ▸ hn w e hold
          · exact hv ▸ numberEvents_named e hnew
        · exact hn v e he
      · rw [hevents, if_pos rfl, List.map_append, hs, numberEvents_seq, List.length_singleton]
        simp [List.range'_concat, Nat.add_comm]

theorem create_iff : (∃ s', create utcNow inst s = .ok s') ↔ free inst s := by
  rw [create]
  constructor
  · rintro ⟨s', h⟩
    split at h
    · cases h
    rename_i hnew
    push Not at hnew
    refine ⟨Option.not_isSome_iff_eq_none.mp hnew.1, fun other hother hkey => hnew.2 ?_⟩
    exact List.any_eq_true.mpr ⟨other, hother, decide_eq_true hkey⟩
  · rintro ⟨hnone, hkey⟩
    refine ⟨_, if_neg ?_⟩
    rintro (hsome | hany)
    · rw [hnone] at hsome
      cases hsome
    · obtain ⟨other, hother, hsame⟩ := List.any_eq_true.mp hany
      exact hkey other hother (of_decide_eq_true hsame)

theorem append_goesOn (h : appendEvents utcNow tenantId w writes s = .ok s') :
    GoesOn w (counter s w) writes s s' := by
  obtain ⟨inst, hfind, h⟩ := Raise.except_bind_eq_ok.mp h
  obtain ⟨hrow, -⟩ := find_eq_ok.mp hfind
  have hid : inst.workflowId = w := Table.key_of_find? hrow
  have hcounter : counter s w = inst.eventSeq := counter_of_row hrow
  obtain ⟨s₁, hins, h⟩ := Raise.except_bind_eq_ok.mp h
  obtain rfl := insertEvents_spec hins
  obtain rfl := Except.ok.inj h
  rw [hcounter]
  exact goesOn_of_insert rfl hid rfl rfl

theorem updateRow_writable {change : WorkflowInstance → WorkflowInstance}
    (h : updateRow utcNow inst change s = .ok s') : writable inst s := by
  obtain ⟨old, hfind, h⟩ := Raise.except_bind_eq_ok.mp h
  split at h
  · exact absurd h nofun
  · rename_i hdue
    exact ⟨Option.isSome_iff_exists.mpr ⟨old, get_eq_some.mpr (find_eq_ok.mp hfind)⟩, hdue⟩

theorem writable_updateRow (utcNow : String) (change : WorkflowInstance → WorkflowInstance)
    (h : writable inst s) : ∃ old, updateRow utcNow inst change s =
      .ok { s with workflows := s.workflows.put (change (updated utcNow inst old)) } := by
  obtain ⟨old, hold⟩ := Option.isSome_iff_exists.mp h.1
  obtain ⟨hrow, htenant⟩ := get_eq_some.mp hold
  exact ⟨old, updateRow_takes hrow htenant h.2⟩

theorem commit_goesOn {bundle : AdvanceCommitBundle} (h : commitAdvance utcNow bundle s = .ok s') :
    writable bundle.instance_ s ∧
      GoesOn bundle.workflowId bundle.instance_.eventSeq bundle.events s s' := by
  obtain ⟨s₁, hupdate, h⟩ := Raise.except_bind_eq_ok.mp h
  have hwritable := updateRow_writable hupdate
  obtain ⟨old, hrow, htenant, hs₁⟩ := updateRow_spec hupdate
  obtain ⟨s₂, hins, h⟩ := Raise.except_bind_eq_ok.mp h
  have hid : old.workflowId = bundle.workflowId := Table.key_of_find? (t := s.workflows) hrow
  have hs₂ := insertEvents_spec hins
  have hput₂ : s₂.workflows = s.workflows.put (updated utcNow bundle.instance_ old) := by
    rw [hs₂, hs₁]
    rfl
  have hrow₂ : s₂.row bundle.workflowId = some (updated utcNow bundle.instance_ old) :=
    (row_of_put hput₂ _).trans (if_pos hid.symm)
  have hadded : s₂.workflowEvents = s.workflowEvents ++ numberEvents bundle.tenantId
      bundle.workflowId utcNow bundle.instance_.eventSeq bundle.events := by
    rw [hs₂, hs₁]
  have hevents := eventsOf_append hadded fun e he => (numberEvents_named e he).1
  rw [setSeq_spec hrow₂] at h
  obtain rfl := Except.ok.inj h
  refine ⟨hwritable, goesOn_of_row _ ((Table.find?_put _ _ _).trans (if_pos hid.symm)) rfl ?_
    ((hevents _).trans (if_pos rfl)) fun v hv => (hevents v).trans (if_neg hv)⟩
  intro v hv
  refine Eq.trans ?_ (onlyRow_of_put hput₂ v (hid ▸ hv))
  refine Table.find?_put_ne ?_
  exact fun heq => hv (heq.trans hid)

theorem commit_taken (utcNow : String) (bundle : AdvanceCommitBundle)
    (h : writable bundle.instance_ s) (hnew : ∀ t : SqlWorkflowStore,
      t.workflowEvents = s.workflowEvents → ∃ t', insertEvents (numberEvents bundle.tenantId
        bundle.workflowId utcNow bundle.instance_.eventSeq bundle.events) t = .ok t') :
    ∃ s', commitAdvance utcNow bundle s = .ok s' := by
  obtain ⟨old, hupdate⟩ := writable_updateRow utcNow id h
  obtain ⟨t', hins⟩ := hnew
    { s with workflows := s.workflows.put (id (updated utcNow bundle.instance_ old)) } rfl
  exact ⟨_, Raise.except_bind_eq_ok.mpr ⟨_, hupdate, Raise.except_bind_eq_ok.mpr ⟨t', hins, rfl⟩⟩⟩

/-- The sweep writes the numbers that follow the counters it has read. -/
theorem timeOutAll_keeps {insts : List WorkflowInstance}
    (hnodup : (insts.map WorkflowInstance.workflowId).Nodup)
    (hstored : ∀ inst ∈ insts, s.row inst.workflowId = some inst) (hs : Gapless s) (hn : Named s)
    (h : timeOutAll now insts s = .ok s') : Gapless s' ∧ Named s' := by
  induction insts generalizing s with
  | nil =>
      obtain rfl := Except.ok.inj h
      exact ⟨hs, hn⟩
  | cons inst rest ih =>
      obtain ⟨hnew, hnodup⟩ := List.nodup_cons.mp hnodup
      obtain ⟨hinst, hrest⟩ := List.forall_mem_cons.mp hstored
      obtain ⟨s₁, htime, h⟩ := Raise.except_bind_eq_ok.mp h
      have hput : ∃ new write, s₁.workflows = s.workflows.put new ∧
          new.workflowId = inst.workflowId ∧ new.eventSeq = inst.eventSeq + 1 ∧
          s₁.workflowEvents = s.workflowEvents ++
            numberEvents inst.tenantId inst.workflowId now inst.eventSeq [write] := by
        obtain rfl := insertEvents_spec htime
        exact ⟨_, _, rfl, rfl, rfl, rfl⟩
      obtain ⟨new, write, hput, hid, hseq, hadd⟩ := hput
      have hgoes : GoesOn inst.workflowId inst.eventSeq [write] s s₁ :=
        goesOn_of_insert hput hid hseq hadd
      have hcounter : counter s inst.workflowId = inst.eventSeq := counter_of_row hinst
      refine ih hnodup (fun x hx => ?_) ((hgoes.gapless_iff hs).mpr hcounter.symm)
        (hgoes.named hn) h
      have hne : x.workflowId ≠ new.workflowId := fun heq =>
        hnew (List.mem_map.mpr ⟨x, hx, heq.trans hid⟩)
      exact (onlyRow_of_put hput _ hne).trans (hrest x hx)

instance : LawfulEventHistory SqlWorkflowStore where
  create_takes utcNow {inst s} h := create_iff.mpr h
  create_free {utcNow inst s s'} h := by
    have hfree : free inst s := create_iff.mp ⟨s', h⟩
    obtain ⟨hnone, rfl⟩ := create_spec h
    refine ⟨hfree, ?_, ?_⟩
    · show ((s.row inst.workflowId).map WorkflowInstance.eventSeq).getD 0 = 0
      rw [hnone]
      rfl
    · have hnone : s.workflowEvents = s.workflowEvents ++
          numberEvents inst.tenantId inst.workflowId utcNow inst.eventSeq [] := (List.append_nil _).symm
      exact goesOn_of_insert rfl rfl rfl hnone
  signal_quiet {utcNow signal now s s'} h := by
    obtain ⟨inst, hfind, h⟩ := Raise.except_bind_eq_ok.mp h
    obtain ⟨hrow, -⟩ := find_eq_ok.mp hfind
    split at h
    · exact absurd h nofun
    have hput : ∃ new, s'.workflows = s.workflows.put new ∧ new.eventSeq = inst.eventSeq ∧
        new.workflowId = inst.workflowId ∧ s'.workflowEvents = s.workflowEvents := by
      obtain rfl := Except.ok.inj h
      exact ⟨_, rfl, rfl, rfl, rfl⟩
    obtain ⟨new, hput, hseq, hid, hevents⟩ := hput
    have hid' : new.workflowId = signal.workflowId := hid.trans (Table.key_of_find? hrow)
    refine quiet_of_write hrow ((row_of_put hput _).trans (if_pos hid'.symm)) hseq (fun v hv => ?_)
      fun v => ?_
    · exact onlyRow_of_put hput v (hid' ▸ hv)
    · exact congrArg (List.filter fun e => decide (e.workflowId = v)) hevents
  claim_quiet h := by
    refine quiet_of_claim h fun v => ?_
    obtain ⟨rfl, -⟩ := claim_spec h
    rfl
  update_takes utcNow {inst s} h := by
    obtain ⟨old, hupdate⟩ := writable_updateRow utcNow (withSimulation inst.simulation) h
    exact ⟨_, hupdate⟩
  update_writable {utcNow inst s s'} h := by
    have hwritable : writable inst s := updateRow_writable h
    obtain ⟨old, hrow, htenant, rfl⟩ := update_spec h
    have hid : old.workflowId = inst.workflowId := Table.key_of_find? hrow
    have hnone : s.workflowEvents = s.workflowEvents ++
        numberEvents inst.tenantId inst.workflowId utcNow inst.eventSeq [] :=
      (List.append_nil _).symm
    exact ⟨hwritable, goesOn_of_insert rfl hid rfl hnone⟩
  append_goesOn h := append_goesOn h
  append_takes {utcNow tenantId w} writes {s s'} hs hn h := by
    obtain ⟨inst, hfind, -⟩ := Raise.except_bind_eq_ok.mp h
    have hcounter : counter s w = inst.eventSeq := counter_of_row (find_eq_ok.mp hfind).1
    have hnumbers : (s.eventsOf w).map WorkflowEvent.seq = List.range' 1 inst.eventSeq :=
      hcounter ▸ hs w
    obtain ⟨t', hins⟩ := insertEvents_takes tenantId utcNow writes hn hnumbers
    exact ⟨_, Raise.except_bind_eq_ok.mpr ⟨inst, hfind,
      Raise.except_bind_eq_ok.mpr ⟨t', hins, rfl⟩⟩⟩
  commit_writable h hs := by
    obtain ⟨hwritable, hgoes⟩ := commit_goesOn h
    exact ⟨hwritable, _, hgoes, Iff.rfl⟩
  commit_empty {utcNow bundle s} h :=
    commit_taken utcNow { bundle with events := [] } h fun t _ => ⟨t, rfl⟩
  commit_takes utcNow {bundle s} hs hn h hfollows := by
    refine commit_taken utcNow bundle h fun t ht => ?_
    have hfollows : bundle.instance_.eventSeq = counter s bundle.workflowId := hfollows
    have hsame (v : Id) : t.eventsOf v = s.eventsOf v := by
      rw [eventsOf, ht, eventsOf]
    refine insertEvents_takes _ _ _ (fun v e he => hn v e ?_) ?_
    · have hstored : e ∈ s.eventsOf v := hsame v ▸ (show e ∈ t.eventsOf v from he)
      exact hstored
    · rw [hsame, hfollows]
      exact hs bundle.workflowId
  sweep_keeps now {s} hs hn := by
    change Gapless (sweepApprovalTimeouts now s).2 ∧ Named (sweepApprovalTimeouts now s).2
    rw [sweepApprovalTimeouts]
    split
    · rename_i s' h
      refine timeOutAll_keeps (s.workflows.nodup_rows.sublist (List.filter_sublist.map _)) ?_ hs hn h
      intro inst hinst
      exact Table.mem_rows.mp (List.mem_of_mem_filter hinst)
    · exact ⟨hs, hn⟩

end SqlWorkflowStore

/-! ## Runs of calls -/

theorem InMemoryWorkflowStore.gapless_empty : Gapless ({} : InMemoryWorkflowStore) := by
  intro w
  show (numbering ({} : InMemoryWorkflowStore) w).numbers = List.range' 1 0
  rfl

theorem SqlWorkflowStore.gapless_empty : Gapless ({} : SqlWorkflowStore) := by
  intro w
  show (numbering ({} : SqlWorkflowStore) w).numbers = List.range' 1 0
  rfl

/-- On both stores, whatever calls come in whatever order: the events of each workflow
have the numbers `1..event_seq` all along, and no commit or append is refused or loses
events for its numbers, exactly if a workflow is created and updated with the counter
of its history and a commit comes with a counter that goes on from it: on the in-memory
store any that is not ahead, on the SQL store only the current one. -/
theorem gapless_history (calls : List HistoryCall) :
    (GaplessRun ({} : InMemoryWorkflowStore) calls ↔
        Along perform FitsHistory ({} : InMemoryWorkflowStore) calls) ∧
      (GaplessRun ({} : SqlWorkflowStore) calls ↔
        Along perform FitsHistory ({} : SqlWorkflowStore) calls) :=
  ⟨gaplessRun_iff InMemoryWorkflowStore.gapless_empty (fun _ _ h => absurd h List.not_mem_nil) calls,
    gaplessRun_iff SqlWorkflowStore.gapless_empty (fun _ _ h => absurd h List.not_mem_nil) calls⟩

section Sample

/-- A worker reads the new workflow, another call records an event, and the worker
commits the advance of what it has read. -/
def outrunCommit : List HistoryCall :=
  [.create "2026-01-02T12:00:00+00:00" pendingRow,
    .call (.append "w2" "2026-01-02T12:00:10+00:00" "t1" "wf1" [⟨.stateChanged, .obj []⟩]),
    .call (.commit "w1" "2026-01-02T12:00:30+00:00" normalizedBundle)]

/-- The SQL store refuses the commit for the number of its event. -/
theorem outrun_commit_refused :
    (row (run perform ({} : SqlWorkflowStore) (outrunCommit.take 1)) "wf1").map
        (fun inst => inst.eventSeq) = some normalizedBundle.instance_.eventSeq ∧
      ¬ GaplessRun ({} : SqlWorkflowStore) outrunCommit := by
  refine ⟨by decide +kernel, fun h => ?_⟩
  rw [gaplessRun_iff SqlWorkflowStore.gapless_empty fun _ _ h => absurd h List.not_mem_nil] at h
  obtain ⟨-, -, hfits, -⟩ := h
  have hget : (WorkflowStore.get (run perform ({} : SqlWorkflowStore) (outrunCommit.take 2)) "t1"
      "wf1").isSome := by decide +kernel
  have hnumber : 0 = (eventsOf (run perform ({} : SqlWorkflowStore) (outrunCommit.take 2))
      "wf1").length := hfits ⟨hget, by decide⟩
  exact absurd hnumber (by decide +kernel)

end Sample

end ImpactRelay
