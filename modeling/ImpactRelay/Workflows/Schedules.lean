/-
# `Workflows.Schedules` — what is due in either store

The in-memory store reads timestamps and compares instants, the SQL store compares the
texts with the text of the current second in UTC.  `start_scheduled_digest` stores what
its caller spells, so the two need not say the same.  `InStep` is what an instance must
meet for both to pass the same judgment on it, at its claim and at the sweep; whole
seconds spelled in UTC meet it (`inStep_of_canonical`).
-/
import ImpactRelay.Lib.IsoOrder
import ImpactRelay.Workflows.Start
import ImpactRelay.Workflows.StoreSql

namespace ImpactRelay

open Raise WorkflowInstance

/-- The text `_iso(now)` that the SQL store compares with. -/
def isoNow (now : Datetime) : String := now.utc.truncate.isoformat

/-- A text that `_parse_iso` reads. -/
def ReadsAs (text : String) (d : Datetime) : Prop := Datetime.fromisoformat text = some d

instance (text : String) (d : Datetime) : Decidable (ReadsAs text d) :=
  inferInstanceAs (Decidable (_ = _))

/-- Timestamps as the entry points admit them: a time to run, and whatever other times
there are, in any spelling that is read. -/
structure WorkflowInstance.Timed (inst : WorkflowInstance) : Prop where
  nextRunAt : ∃ text d, inst.nextRunAt = some text ∧ ReadsAs text d
  leaseExpiresAt : ∀ text, inst.leaseExpiresAt = some text → ∃ d, ReadsAs text d
  waitDeadline : ∀ text, inst.waitDeadline = some text → ∃ d, ReadsAs text d
  timeoutAppliedAt : ∀ text, inst.timeoutAppliedAt = some text → ∃ d, ReadsAs text d

/-- The instant has come by now. -/
def HasCome (now : Datetime) (text : String) : Prop := ∃ d, ReadsAs text d ∧ d ≤ now

/-- The instant is over by now. -/
def IsOver (now : Datetime) (text : String) : Prop := ∃ d, ReadsAs text d ∧ d < now

/-- The timestamps that decide on the instance stand to the text of now as their instants
stand to now: the time to run when it can be claimed, the time to run and the lease when
it is running, and the deadline of a wait at a gate that no sweep has ended. -/
structure WorkflowInstance.InStep (now : Datetime) (inst : WorkflowInstance) : Prop where
  claimable : inst.runStatus ∈ claimableRunStatuses → ∀ text, inst.nextRunAt = some text →
    (text ≤ isoNow now ↔ HasCome now text)
  running : inst.runStatus = .running → ∀ text lease, inst.nextRunAt = some text →
    inst.leaseExpiresAt = some lease →
      (text ≤ isoNow now ∧ lease < isoNow now ↔ HasCome now text ∧ IsOver now lease)
  waiting : inst.runStatus = .waitingSignal → inst.workflowState ∈ humanGateStates →
    inst.timeoutAppliedAt = none → ∀ deadline, inst.waitDeadline = some deadline →
      (deadline < isoNow now ↔ IsOver now deadline)

/-! ## One instance -/

section Instance

variable {now : Datetime} {inst : WorkflowInstance}

theorem hasCome_iff {text : String} {d : Datetime} (h : ReadsAs text d) :
    HasCome now text ↔ d ≤ now := by
  refine ⟨?_, fun hle => ⟨d, h, hle⟩⟩
  rintro ⟨d', h', hle⟩
  exact Option.some.inj (h.symm.trans h') ▸ hle

theorem isOver_iff {text : String} {d : Datetime} (h : ReadsAs text d) :
    IsOver now text ↔ d < now := by
  refine ⟨?_, fun hlt => ⟨d, h, hlt⟩⟩
  rintro ⟨d', h', hlt⟩
  exact Option.some.inj (h.symm.trans h') ▸ hlt

theorem parseIso_of_reads {text : String} {d : Datetime} (h : ReadsAs text d) :
    parseIso (some text) = .ok (some d) := by
  rw [parseIso, show Datetime.fromisoformat text = some d from h]

theorem not_lt_iff {d e : Datetime} : ¬ d < e ↔ e ≤ d := Int.not_lt

/-- What the in-memory store makes of a timed instance. -/
theorem memory_due (h : inst.Timed) : ∃ b, InMemoryWorkflowStore.due now inst = .ok b ∧
    (b = true ↔ ∃ text, inst.nextRunAt = some text ∧ HasCome now text ∧
      (inst.runStatus ∈ claimableRunStatuses ∨ inst.runStatus = .running ∧
        ∃ lease, inst.leaseExpiresAt = some lease ∧ IsOver now lease)) := by
  obtain ⟨text, d, hnext, hreads⟩ := h.nextRunAt
  have hcome : HasCome now text ↔ d ≤ now := hasCome_iff hreads
  rw [InMemoryWorkflowStore.due, hnext, parseIso_of_reads hreads]
  show ∃ b, (if now < d then Except.ok false else _) = _ ∧ _
  by_cases hlater : now < d
  · rw [if_pos hlater]
    refine ⟨false, rfl, iff_of_false Bool.false_ne_true ?_⟩
    rintro ⟨t, ht, hc, -⟩
    obtain rfl := Option.some.inj ht
    exact not_lt_iff.mpr (hcome.mp hc) hlater
  rw [if_neg hlater]
  have hc := hcome.mpr (not_lt_iff.mp hlater)
  by_cases hclaimable : inst.runStatus ∈ claimableRunStatuses
  · rw [if_pos hclaimable]
    exact ⟨true, rfl, iff_of_true rfl ⟨text, rfl, hc, .inl hclaimable⟩⟩
  rw [if_neg hclaimable]
  by_cases hrunning : inst.runStatus = .running
  · rw [if_pos hrunning]
    cases hlease : inst.leaseExpiresAt with
    | none =>
        refine ⟨false, rfl, iff_of_false Bool.false_ne_true ?_⟩
        rintro ⟨_, -, -, hstatus | ⟨-, _, hlease', -⟩⟩
        · exact hclaimable hstatus
        · cases hlease'
    | some lease =>
        obtain ⟨e, he⟩ := h.leaseExpiresAt lease hlease
        rw [parseIso_of_reads he]
        refine ⟨decide (e < now), rfl, ?_⟩
        rw [decide_eq_true_iff, ← isOver_iff he]
        constructor
        · intro hover
          exact ⟨text, rfl, hc, .inr ⟨hrunning, lease, rfl, hover⟩⟩
        · rintro ⟨_, -, -, hstatus | ⟨-, _, hlease', hover⟩⟩
          · exact absurd hstatus hclaimable
          · exact Option.some.inj hlease' ▸ hover
  · rw [if_neg hrunning]
    refine ⟨false, rfl, iff_of_false Bool.false_ne_true ?_⟩
    rintro ⟨_, -, -, hstatus | ⟨hstatus, -⟩⟩
    · exact hclaimable hstatus
    · exact hrunning hstatus

theorem sql_due : SqlWorkflowStore.due (isoNow now) inst = true ↔
    ∃ text, inst.nextRunAt = some text ∧ text ≤ isoNow now ∧
      (inst.runStatus ∈ claimableRunStatuses ∨ inst.runStatus = .running ∧
        ∃ lease, inst.leaseExpiresAt = some lease ∧ lease < isoNow now) := by
  simp only [SqlWorkflowStore.due, Bool.and_eq_true, Bool.or_eq_true, decide_eq_true_eq,
    Option.any_eq_true]
  constructor
  · rintro ⟨⟨text, hnext, hle⟩, hstatus⟩
    exact ⟨text, hnext, hle, hstatus⟩
  · rintro ⟨text, hnext, hle, hstatus⟩
    exact ⟨⟨text, hnext, hle⟩, hstatus⟩

/-- A text that is read is not the empty one. -/
theorem orElse_of_reads {o : Option String}
    (h : ∀ text, o = some text → ∃ d, ReadsAs text d) : orElse o none = o := by
  cases o with
  | none => rfl
  | some text =>
      refine if_neg fun hempty => ?_
      obtain ⟨d, hd⟩ := h text rfl
      rw [hempty] at hd
      exact nomatch hd

theorem memory_overdue (h : inst.Timed) : ∃ b, InMemoryWorkflowStore.overdue now inst = .ok b ∧
    (b = true ↔ inst.runStatus = .waitingSignal ∧ inst.workflowState ∈ humanGateStates ∧
      inst.timeoutAppliedAt = none ∧
        ∃ deadline, inst.waitDeadline = some deadline ∧ IsOver now deadline) := by
  rw [InMemoryWorkflowStore.overdue, orElse_of_reads h.waitDeadline,
    orElse_of_reads h.timeoutAppliedAt]
  split
  · rename_i hskip
    refine ⟨false, rfl, iff_of_false Bool.false_ne_true ?_⟩
    rintro ⟨hstatus, hgate, hswept, deadline, hdeadline, -⟩
    rcases hskip with hskip | hskip | hskip | hskip
    · exact hskip hstatus
    · exact hskip hgate
    · cases hdeadline.symm.trans hskip
    · exact hskip hswept
  · rename_i hgoes
    simp only [not_or, not_not, ne_eq] at hgoes
    obtain ⟨hstatus, hgate, hdeadline, hswept⟩ := hgoes
    obtain ⟨deadline, hdeadline⟩ := Option.ne_none_iff_exists'.mp hdeadline
    obtain ⟨d, hd⟩ := h.waitDeadline deadline hdeadline
    rw [hdeadline, parseIso_of_reads hd]
    refine ⟨decide (d < now), rfl, ?_⟩
    rw [decide_eq_true_iff, ← isOver_iff hd]
    constructor
    · intro hover
      exact ⟨hstatus, hgate, hswept, deadline, rfl, hover⟩
    · rintro ⟨-, -, -, _, hdeadline', hover⟩
      exact Option.some.inj hdeadline' ▸ hover

theorem sql_overdue : SqlWorkflowStore.overdue (isoNow now) inst = true ↔
    inst.runStatus = .waitingSignal ∧ inst.workflowState ∈ humanGateStates ∧
      inst.timeoutAppliedAt = none ∧
        ∃ deadline, inst.waitDeadline = some deadline ∧ deadline < isoNow now := by
  simp only [SqlWorkflowStore.overdue, Bool.and_eq_true, decide_eq_true_eq, Option.any_eq_true]
  constructor
  · rintro ⟨⟨⟨hstatus, hdeadline⟩, hswept⟩, hgate⟩
    exact ⟨hstatus, hgate, hswept, hdeadline⟩
  · rintro ⟨hstatus, hgate, hswept, hdeadline⟩
    exact ⟨⟨⟨hstatus, hdeadline⟩, hswept⟩, hgate⟩

/-- The claim, judged by the texts and by the instants. -/
theorem claims_iff : ((∃ text, inst.nextRunAt = some text ∧ HasCome now text ∧
      (inst.runStatus ∈ claimableRunStatuses ∨ inst.runStatus = .running ∧
        ∃ lease, inst.leaseExpiresAt = some lease ∧ IsOver now lease)) ↔
    ∃ text, inst.nextRunAt = some text ∧ text ≤ isoNow now ∧
      (inst.runStatus ∈ claimableRunStatuses ∨ inst.runStatus = .running ∧
        ∃ lease, inst.leaseExpiresAt = some lease ∧ lease < isoNow now)) ↔
    (inst.runStatus ∈ claimableRunStatuses → ∀ text, inst.nextRunAt = some text →
      (text ≤ isoNow now ↔ HasCome now text)) ∧
    (inst.runStatus = .running → ∀ text lease, inst.nextRunAt = some text →
      inst.leaseExpiresAt = some lease →
        (text ≤ isoNow now ∧ lease < isoNow now ↔ HasCome now text ∧ IsOver now lease)) := by
  have hnot : ∀ {status : WorkflowRunStatus}, status = .running → status ∉ claimableRunStatuses := by
    rintro _ rfl
    decide
  constructor
  · intro h
    refine ⟨fun hstatus text hnext => ⟨fun hle => ?_, fun hcome => ?_⟩,
      fun hstatus text lease hnext hlease => ⟨fun ⟨hle, hlt⟩ => ?_, fun ⟨hcome, hover⟩ => ?_⟩⟩
    · obtain ⟨_, hnext', hcome, -⟩ := h.mpr ⟨text, hnext, hle, .inl hstatus⟩
      exact Option.some.inj (hnext'.symm.trans hnext) ▸ hcome
    · obtain ⟨_, hnext', hle, -⟩ := h.mp ⟨text, hnext, hcome, .inl hstatus⟩
      exact Option.some.inj (hnext'.symm.trans hnext) ▸ hle
    · obtain ⟨_, hnext', hcome, hclaimable | ⟨-, _, hlease', hover⟩⟩ :=
        h.mpr ⟨text, hnext, hle, .inr ⟨hstatus, lease, hlease, hlt⟩⟩
      · exact absurd hclaimable (hnot hstatus)
      · exact ⟨Option.some.inj (hnext'.symm.trans hnext) ▸ hcome,
          Option.some.inj (hlease'.symm.trans hlease) ▸ hover⟩
    · obtain ⟨_, hnext', hle, hclaimable | ⟨-, _, hlease', hlt⟩⟩ :=
        h.mp ⟨text, hnext, hcome, .inr ⟨hstatus, lease, hlease, hover⟩⟩
      · exact absurd hclaimable (hnot hstatus)
      · exact ⟨Option.some.inj (hnext'.symm.trans hnext) ▸ hle,
          Option.some.inj (hlease'.symm.trans hlease) ▸ hlt⟩
  · rintro ⟨hclaimable, hrunning⟩
    constructor
    · rintro ⟨text, hnext, hcome, hstatus | ⟨hstatus, lease, hlease, hover⟩⟩
      · exact ⟨text, hnext, (hclaimable hstatus text hnext).mpr hcome, .inl hstatus⟩
      · obtain ⟨hle, hlt⟩ := (hrunning hstatus text lease hnext hlease).mpr ⟨hcome, hover⟩
        exact ⟨text, hnext, hle, .inr ⟨hstatus, lease, hlease, hlt⟩⟩
    · rintro ⟨text, hnext, hle, hstatus | ⟨hstatus, lease, hlease, hlt⟩⟩
      · exact ⟨text, hnext, (hclaimable hstatus text hnext).mp hle, .inl hstatus⟩
      · obtain ⟨hcome, hover⟩ := (hrunning hstatus text lease hnext hlease).mp ⟨hle, hlt⟩
        exact ⟨text, hnext, hcome, .inr ⟨hstatus, lease, hlease, hover⟩⟩

/-- The sweep, judged by the texts and by the instants. -/
theorem sweeps_iff : (inst.runStatus = .waitingSignal ∧ inst.workflowState ∈ humanGateStates ∧
      inst.timeoutAppliedAt = none ∧
        (∃ deadline, inst.waitDeadline = some deadline ∧ IsOver now deadline) ↔
    inst.runStatus = .waitingSignal ∧ inst.workflowState ∈ humanGateStates ∧
      inst.timeoutAppliedAt = none ∧
        ∃ deadline, inst.waitDeadline = some deadline ∧ deadline < isoNow now) ↔
    (inst.runStatus = .waitingSignal → inst.workflowState ∈ humanGateStates →
      inst.timeoutAppliedAt = none → ∀ deadline, inst.waitDeadline = some deadline →
        (deadline < isoNow now ↔ IsOver now deadline)) := by
  constructor
  · intro h hstatus hgate hswept deadline hdeadline
    constructor
    · intro hlt
      obtain ⟨-, -, -, _, hdeadline', hover⟩ := h.mpr ⟨hstatus, hgate, hswept, deadline, hdeadline, hlt⟩
      exact Option.some.inj (hdeadline'.symm.trans hdeadline) ▸ hover
    · intro hover
      obtain ⟨-, -, -, _, hdeadline', hlt⟩ := h.mp ⟨hstatus, hgate, hswept, deadline, hdeadline, hover⟩
      exact Option.some.inj (hdeadline'.symm.trans hdeadline) ▸ hlt
  · intro h
    constructor
    · rintro ⟨hstatus, hgate, hswept, deadline, hdeadline, hover⟩
      exact ⟨hstatus, hgate, hswept, deadline, hdeadline,
        (h hstatus hgate hswept deadline hdeadline).mpr hover⟩
    · rintro ⟨hstatus, hgate, hswept, deadline, hdeadline, hlt⟩
      exact ⟨hstatus, hgate, hswept, deadline, hdeadline,
        (h hstatus hgate hswept deadline hdeadline).mp hlt⟩

/-- Both stores pass the same judgment on an instance exactly when it is in step. -/
theorem inStep_iff (h : inst.Timed) :
    (InMemoryWorkflowStore.due now inst = .ok (SqlWorkflowStore.due (isoNow now) inst) ∧
      InMemoryWorkflowStore.overdue now inst =
        .ok (SqlWorkflowStore.overdue (isoNow now) inst)) ↔ inst.InStep now := by
  obtain ⟨due, hdue, hdue_iff⟩ : ∃ b, InMemoryWorkflowStore.due now inst = .ok b ∧ _ := memory_due h
  obtain ⟨overdue, hoverdue, hoverdue_iff⟩ : ∃ b, InMemoryWorkflowStore.overdue now inst = .ok b ∧ _ :=
    memory_overdue h
  have hclaim : due = SqlWorkflowStore.due (isoNow now) inst ↔ _ :=
    (Bool.eq_iff_iff.trans (iff_congr hdue_iff sql_due)).trans claims_iff
  have hsweep : overdue = SqlWorkflowStore.overdue (isoNow now) inst ↔ _ :=
    (Bool.eq_iff_iff.trans (iff_congr hoverdue_iff sql_overdue)).trans sweeps_iff
  rw [hdue, hoverdue, Except.ok.injEq, Except.ok.injEq, hclaim, hsweep]
  exact ⟨fun ⟨⟨hclaimable, hrunning⟩, hwaiting⟩ => ⟨hclaimable, hrunning, hwaiting⟩,
    fun hstep => ⟨⟨hstep.claimable, hstep.running⟩, hstep.waiting⟩⟩

end Instance

/-! ## Whole seconds in UTC -/

section Canonical

variable {now : Datetime}

/-- Now, when it is a whole second. -/
theorem canonical_now (hnow : now.utc.InRange) (hwhole : now.truncate = now) :
    now.utc.truncate.Canonical ∧ now.utc.truncate.micros = now.micros := by
  have hmicros : now.micros - now.micros % 1000000 = now.micros := congrArg Datetime.micros hwhole
  have hpos := hnow.pos
  have hlast := hnow.last
  simp only [Datetime.utc, Int.add_zero] at hpos hlast
  have hsame : now.utc.truncate.micros = now.micros := hmicros
  exact ⟨⟨rfl, by omega, by omega, by omega⟩, hsame⟩

theorem canonical_le (hnow : now.utc.InRange) (hwhole : now.truncate = now) {d : Datetime}
    (hd : d.Canonical) : d.isoformat ≤ isoNow now ↔ HasCome now d.isoformat := by
  obtain ⟨hcanonical, hmicros⟩ := canonical_now hnow hwhole
  rw [hasCome_iff (Datetime.fromisoformat_isoformat hd.inRange), isoNow,
    hd.isoformat_le_iff hcanonical]
  show d.micros ≤ now.utc.truncate.micros ↔ d.micros ≤ now.micros
  rw [hmicros]

theorem canonical_lt (hnow : now.utc.InRange) (hwhole : now.truncate = now) {d : Datetime}
    (hd : d.Canonical) : d.isoformat < isoNow now ↔ IsOver now d.isoformat := by
  obtain ⟨hcanonical, hmicros⟩ := canonical_now hnow hwhole
  rw [isOver_iff (Datetime.fromisoformat_isoformat hd.inRange), isoNow,
    hd.isoformat_lt_iff hcanonical]
  show d.micros < now.utc.truncate.micros ↔ d.micros < now.micros
  rw [hmicros]

/-- Timestamps that are spelled as the store spells now are in step with it. -/
theorem inStep_of_canonical (hnow : now.utc.InRange) (hwhole : now.truncate = now)
    {inst : WorkflowInstance}
    (h : ∀ text, inst.nextRunAt = some text ∨ inst.leaseExpiresAt = some text ∨
      inst.waitDeadline = some text → ∃ d : Datetime, d.Canonical ∧ text = d.isoformat) :
    inst.InStep now := by
  refine ⟨fun _ text hnext => ?_, fun _ text lease hnext hlease => ?_,
    fun _ _ _ deadline hdeadline => ?_⟩
  · obtain ⟨d, hd, rfl⟩ := h text (.inl hnext)
    exact canonical_le hnow hwhole hd
  · obtain ⟨d, hd, rfl⟩ := h text (.inl hnext)
    obtain ⟨e, he, rfl⟩ := h lease (.inr (.inl hlease))
    rw [canonical_le hnow hwhole hd, canonical_lt hnow hwhole he]
  · obtain ⟨d, hd, rfl⟩ := h deadline (.inr (.inr hdeadline))
    exact canonical_lt hnow hwhole hd

end Canonical

/-! ## All instances -/

section Stores

variable {now : Datetime} {insts : List WorkflowInstance}

/-- The instances that a claim of the in-memory store chooses from. -/
theorem candidates_ok
    (h : ∀ inst ∈ insts, ∃ b, InMemoryWorkflowStore.due now inst = .ok b) :
    ∃ found, InMemoryWorkflowStore.candidates now insts = .ok found ∧
      ∀ inst, inst ∈ found ↔ inst ∈ insts ∧ InMemoryWorkflowStore.due now inst = .ok true := by
  induction insts with
  | nil => exact ⟨[], rfl, fun _ => iff_of_false List.not_mem_nil fun h => List.not_mem_nil h.1⟩
  | cons inst rest ih =>
      obtain ⟨⟨b, hb⟩, hrest⟩ := List.forall_mem_cons.mp h
      obtain ⟨found, hfound, hmem⟩ := ih hrest
      refine ⟨if b then inst :: found else found, ?_, fun x => ?_⟩
      · rw [InMemoryWorkflowStore.candidates, hb, hfound]
        rfl
      · cases b with
        | true =>
            rw [if_pos rfl, List.mem_cons, List.mem_cons, hmem]
            constructor
            · rintro (rfl | ⟨hx, hdue⟩)
              · exact ⟨.inl rfl, hb⟩
              · exact ⟨.inr hx, hdue⟩
            · rintro ⟨rfl | hx, hdue⟩
              · exact .inl rfl
              · exact .inr ⟨hx, hdue⟩
        | false =>
            rw [if_neg Bool.false_ne_true, List.mem_cons, hmem]
            constructor
            · rintro ⟨hx, hdue⟩
              exact ⟨.inr hx, hdue⟩
            · rintro ⟨rfl | hx, hdue⟩
              · exact nomatch hb.symm.trans hdue
              · exact ⟨hx, hdue⟩

/-- The workflows that a sweep of the in-memory store expires. -/
theorem sweepFrom_ok
    (h : ∀ inst ∈ insts, ∃ b, InMemoryWorkflowStore.overdue now inst = .ok b)
    (s : InMemoryWorkflowStore) :
    ∃ ids, (InMemoryWorkflowStore.sweepFrom now insts s).1 = .ok ids ∧
      ∀ w, w ∈ ids ↔ ∃ inst ∈ insts,
        InMemoryWorkflowStore.overdue now inst = .ok true ∧ inst.workflowId = w := by
  induction insts generalizing s with
  | nil =>
      refine ⟨[], rfl, fun _ => iff_of_false List.not_mem_nil ?_⟩
      rintro ⟨_, h, _⟩
      exact List.not_mem_nil h
  | cons inst rest ih =>
      obtain ⟨⟨b, hb⟩, hrest⟩ := List.forall_mem_cons.mp h
      rw [InMemoryWorkflowStore.sweepFrom, hb]
      cases b with
      | true =>
          obtain ⟨ids, hids, hmem⟩ := ih hrest
            (InMemoryWorkflowStore.timeOut now.truncate.isoformat inst s)
          refine ⟨inst.workflowId :: ids, ?_, fun w => ?_⟩
          · show Except.map _ _ = _
            rw [hids]
            rfl
          · rw [List.mem_cons, hmem]
            constructor
            · rintro (rfl | ⟨x, hx, hover, hid⟩)
              · exact ⟨inst, List.mem_cons_self, hb, rfl⟩
              · exact ⟨x, List.mem_cons_of_mem _ hx, hover, hid⟩
            · rintro ⟨x, hx, hover, hid⟩
              rcases List.mem_cons.mp hx with rfl | hx
              · exact .inl hid.symm
              · exact .inr ⟨x, hx, hover, hid⟩
      | false =>
          obtain ⟨ids, hids, hmem⟩ := ih hrest s
          refine ⟨ids, hids, fun w => (hmem w).trans ?_⟩
          constructor
          · rintro ⟨x, hx, hover, hid⟩
            exact ⟨x, List.mem_cons_of_mem _ hx, hover, hid⟩
          · rintro ⟨x, hx, hover, hid⟩
            rcases List.mem_cons.mp hx with rfl | hx
            · cases hb.symm.trans hover
            · exact ⟨x, hx, hover, hid⟩

/-- The two stores see the same instances due, and expire the same waits. -/
structure ScheduleAlike (now : Datetime) (m : InMemoryWorkflowStore) (q : SqlWorkflowStore) :
    Prop where
  claims : ∃ found, InMemoryWorkflowStore.candidates now m.instances.rows = .ok found ∧
    ∀ inst, inst ∈ found ↔ inst ∈ q.workflows.rows.filter (SqlWorkflowStore.due (isoNow now))
  sweeps : ∃ ids, (m.sweepApprovalTimeouts now).1 = .ok ids ∧ ∀ w, w ∈ ids ↔
    w ∈ (q.workflows.rows.filter (SqlWorkflowStore.overdue (isoNow now))).map
      WorkflowInstance.workflowId

/-- Stores of the same instances schedule alike exactly when every instance is in step. -/
theorem stores_schedule_alike {m : InMemoryWorkflowStore} {q : SqlWorkflowStore}
    (hrows : ∀ inst, inst ∈ m.instances.rows ↔ inst ∈ q.workflows.rows)
    (htimed : ∀ inst ∈ m.instances.rows, inst.Timed) (now : Datetime) :
    ScheduleAlike now m q ↔ ∀ inst ∈ m.instances.rows, inst.InStep now := by
  have hdue : ∀ inst ∈ m.instances.rows, ∃ b, InMemoryWorkflowStore.due now inst = .ok b :=
    fun inst hinst => (memory_due (htimed inst hinst)).imp fun _ h => h.1
  have hoverdue : ∀ inst ∈ m.instances.rows, ∃ b, InMemoryWorkflowStore.overdue now inst = .ok b :=
    fun inst hinst => (memory_overdue (htimed inst hinst)).imp fun _ h => h.1
  obtain ⟨found, hfound, hmemFound⟩ := candidates_ok hdue
  obtain ⟨ids, hids, hmemIds⟩ := sweepFrom_ok hoverdue m
  constructor
  · rintro ⟨⟨found', hfound', hclaims⟩, ids', hids', hsweeps⟩ inst hinst
    obtain rfl := Except.ok.inj (hfound.symm.trans hfound')
    obtain rfl := Except.ok.inj (hids.symm.trans hids')
    refine (inStep_iff (htimed inst hinst)).mp ⟨?_, ?_⟩
    · obtain ⟨b, hb⟩ := hdue inst hinst
      have h := hclaims inst
      rw [hmemFound, List.mem_filter, ← hrows, hb, Except.ok.injEq, and_iff_right hinst,
        and_iff_right hinst] at h
      rw [hb, Bool.eq_iff_iff.mpr h]
    · obtain ⟨b, hb⟩ := hoverdue inst hinst
      rw [hb, Except.ok.injEq, Bool.eq_iff_iff]
      have h := hsweeps inst.workflowId
      rw [hmemIds, List.mem_map] at h
      constructor
      · rintro rfl
        obtain ⟨other, hother, hid⟩ := h.mp ⟨inst, hinst, hb, rfl⟩
        obtain ⟨hother, hover⟩ := List.mem_filter.mp hother
        have hsame : other = inst :=
          Table.eq_of_key ((hrows other).mpr hother) hinst hid
        exact hsame ▸ hover
      · intro hover
        obtain ⟨other, hother, hover', hid⟩ := h.mpr
          ⟨inst, List.mem_filter.mpr ⟨(hrows inst).mp hinst, hover⟩, rfl⟩
        have hsame : other = inst := Table.eq_of_key hother hinst hid
        rw [hsame, hb] at hover'
        exact Except.ok.inj hover'
  · intro hstep
    have hboth := fun inst hinst => (inStep_iff (htimed inst hinst)).mpr (hstep inst hinst)
    refine ⟨⟨found, hfound, fun inst => ?_⟩, ids, hids, fun w => ?_⟩
    · rw [hmemFound, List.mem_filter, ← hrows]
      refine and_congr_right fun hinst => ?_
      rw [(hboth inst hinst).1, Except.ok.injEq]
    · rw [hmemIds, List.mem_map]
      constructor
      · rintro ⟨inst, hinst, hover, hid⟩
        refine ⟨inst, List.mem_filter.mpr ⟨(hrows inst).mp hinst, ?_⟩, hid⟩
        rw [(hboth inst hinst).2] at hover
        exact Except.ok.inj hover
      · rintro ⟨inst, hinst, hid⟩
        obtain ⟨hinst, hover⟩ := List.mem_filter.mp hinst
        have hinst := (hrows inst).mpr hinst
        exact ⟨inst, hinst, (hboth inst hinst).2.trans (congrArg Except.ok hover), hid⟩

end Stores

section Sample

/-- The first of January 2026, 00:00 UTC. -/
def newYear : Datetime := ⟨63902822400 * 1000000, 0⟩

/-- A digest scheduled for that time, spelled as the caller spells it. -/
def Sample.digest (nextRunAt : String) : WorkflowInstance :=
  WorkflowRuntime.startScheduledDigest
    { clock := newYear, utc := newYear, host := .numbered 0, execution := fun i => { host := .numbered i } }
    { tenantId := "org", nextRunAt := some nextRunAt }

def Sample.inMemory (nextRunAt : String) : InMemoryWorkflowStore :=
  { instances := Table.empty.put (Sample.digest nextRunAt) }

def Sample.inSql (nextRunAt : String) : SqlWorkflowStore :=
  { workflows := Table.empty.put (Sample.digest nextRunAt) }

theorem Sample.rows (nextRunAt : String) :
    (Sample.inMemory nextRunAt).instances.rows = [Sample.digest nextRunAt] ∧
      (Sample.inSql nextRunAt).workflows.rows = [Sample.digest nextRunAt] := ⟨rfl, rfl⟩

theorem Sample.timed {nextRunAt : String} {d : Datetime} (h : ReadsAs nextRunAt d) :
    (Sample.digest nextRunAt).Timed :=
  ⟨⟨nextRunAt, d, rfl, h⟩, nofun, nofun, nofun⟩

/-- The stores agree on a digest that is scheduled in UTC. -/
theorem newYear_in_utc_alike :
    ScheduleAlike newYear (Sample.inMemory "2026-01-01T00:00:00+00:00")
      (Sample.inSql "2026-01-01T00:00:00+00:00") := by
  refine (stores_schedule_alike (fun _ => Iff.rfl) (fun inst hinst => ?_) newYear).mpr
    fun inst hinst => ?_
  · obtain rfl := List.mem_singleton.mp hinst
    exact Sample.timed (d := newYear) (by decide +kernel)
  · obtain rfl := List.mem_singleton.mp hinst
    refine inStep_of_canonical ⟨by decide, by decide, by decide, by decide⟩ rfl ?_
    rintro text (h | h | h)
    · exact ⟨newYear, ⟨rfl, by decide, by decide, by decide⟩, (Option.some.inj h).symm⟩
    · exact nomatch h
    · exact nomatch h

/-- Scheduled for `00:00:00Z`, it is due in memory and not in the table. -/
theorem newYear_with_z_not_alike : ¬ ∀ (m : InMemoryWorkflowStore) (q : SqlWorkflowStore)
    (now : Datetime), (∀ inst, inst ∈ m.instances.rows ↔ inst ∈ q.workflows.rows) →
      (∀ inst ∈ m.instances.rows, inst.Timed) → ScheduleAlike now m q := by
  intro h
  have htimed := Sample.timed (show ReadsAs "2026-01-01T00:00:00Z" newYear by decide +kernel)
  have hrows : ∀ inst ∈ (Sample.inMemory "2026-01-01T00:00:00Z").instances.rows, inst.Timed :=
    fun inst hinst => List.mem_singleton.mp hinst ▸ htimed
  obtain ⟨found, hfound, hclaims⟩ := (h _ (Sample.inSql "2026-01-01T00:00:00Z") newYear
    (fun _ => Iff.rfl) hrows).claims
  obtain ⟨found', hfound', hmem⟩ := candidates_ok fun inst hinst =>
    (memory_due (hrows inst hinst)).imp fun _ h => h.1
  obtain rfl := Except.ok.inj (hfound.symm.trans hfound')
  have hdue : InMemoryWorkflowStore.due newYear (Sample.digest "2026-01-01T00:00:00Z") =
      .ok true := by decide +kernel
  obtain ⟨-, hsql⟩ := List.mem_filter.mp ((hclaims _).mp
    ((hmem _).mpr ⟨List.mem_singleton.mpr rfl, hdue⟩))
  revert hsql
  decide +kernel

end Sample

end ImpactRelay
