/-
# `Workflows.EvidenceGate` — whose policy the evidence gate follows

`step_evidence` asks `assess` with the tenant's policy, and then has the agent evaluate
the same items: the agent asks again, with the policy it knows by default, and a warning
of it replaces the first answer.  So a tenant that is satisfied by less than the default
(another kind of document, or one the donor may not see) is not asked.

`gate_follows_policy_iff`: the gate moves as the policy's assessment says, and reports it,
unless no flag is set and the policy is satisfied where the default is not.
-/
import ImpactRelay.Workflows.Steps

namespace ImpactRelay

variable {items : List EvidenceMapping} {flags : EvidenceFlags} {policy : TenantPolicy}
  {kinds : List String} {requireDonorVisible : Bool} {current : WorkflowState}

/-! ## The assessment -/

/-- One of the flags decides, whatever the items are. -/
def EvidenceFlags.Decide (flags : EvidenceFlags) : Prop :=
  flags.contradictory = true ∨ flags.expired = true ∨ flags.redactionRequired = true

/-- An item that may be scanned is of one of the kinds; of the default kinds where none is
listed. -/
def ShowsOneOf (items : List EvidenceMapping) (kinds : List String) (requireDonorVisible : Bool) :
    Prop :=
  ∃ item ∈ items, (requireDonorVisible = true → item.donorVisible = true) ∧
    ∃ kind ∈ (if kinds.isEmpty then defaultSufficientKinds else kinds), item.kind = some kind

theorem showsOneOf_iff : ShowsOneOf items kinds requireDonorVisible ↔
    ((if kinds.isEmpty then defaultSufficientKinds else kinds).any fun kind =>
      (if requireDonorVisible then items.filter (·.donorVisible) else items).any
        fun item => item.kind = some kind) = true := by
  cases requireDonorVisible with
  | true =>
      simp only [ShowsOneOf, List.any_eq_true, if_pos, List.mem_filter, decide_eq_true_eq]
      exact ⟨fun ⟨item, hitem, hvisible, kind, hkind, heq⟩ =>
          ⟨kind, hkind, item, ⟨hitem, hvisible trivial⟩, heq⟩,
        fun ⟨kind, hkind, item, ⟨hitem, hvisible⟩, heq⟩ =>
          ⟨item, hitem, fun _ => hvisible, kind, hkind, heq⟩⟩
  | false =>
      simp only [ShowsOneOf, List.any_eq_true, Bool.false_eq_true, if_false, decide_eq_true_eq,
        false_imp_iff, true_and]
      exact ⟨fun ⟨item, hitem, kind, hkind, heq⟩ => ⟨kind, hkind, item, hitem, heq⟩,
        fun ⟨kind, hkind, item, hitem, heq⟩ => ⟨item, hitem, kind, hkind, heq⟩⟩

instance : Decidable (ShowsOneOf items kinds requireDonorVisible) :=
  decidable_of_iff _ showsOneOf_iff.symm

theorem not_decide_iff : ¬ flags.Decide ↔ flags.contradictory = false ∧ flags.expired = false ∧
    flags.redactionRequired = false := by
  simp [EvidenceFlags.Decide]

/-- What a flag says is said under every policy. -/
theorem assess_of_decide (h : flags.Decide) : ∃ flagged, flagged ≠ .sufficient ∧
    (flagged = .contradictory ↔ flags.contradictory = true) ∧
    ∀ kinds visible, assess items flags kinds visible = flagged := by
  by_cases hcontradictory : flags.contradictory = true
  · refine ⟨.contradictory, nofun, by simp [hcontradictory], fun kinds visible => ?_⟩
    rw [assess, if_pos hcontradictory]
  by_cases hexpired : flags.expired = true
  · refine ⟨.expired, nofun, by simp [hcontradictory], fun kinds visible => ?_⟩
    rw [assess, if_neg hcontradictory, if_pos hexpired]
  have hredaction : flags.redactionRequired = true :=
    (h.resolve_left hcontradictory).resolve_left hexpired
  refine ⟨.redactionRequired, nofun, by simp [hcontradictory], fun kinds visible => ?_⟩
  rw [assess, if_neg hcontradictory, if_neg hexpired, if_pos hredaction]

/-- Without a flag it is a question of what the items show. -/
theorem assess_of_not_decide (h : ¬ flags.Decide) : assess items flags kinds requireDonorVisible =
    if items.isEmpty then .missing
    else if ShowsOneOf items kinds requireDonorVisible then .sufficient else .partly := by
  obtain ⟨hcontradictory, hexpired, hredaction⟩ := not_decide_iff.mp h
  simp only [assess, hcontradictory, hexpired, hredaction, Bool.false_eq_true, if_false,
    showsOneOf_iff]
  generalize (if kinds.isEmpty then defaultSufficientKinds else kinds) = listed
  generalize (if requireDonorVisible then items.filter (·.donorVisible) else items) = scan
  -- nothing to scan shows nothing
  cases scan with
  | nil => simp
  | cons item rest => rfl

/-! ## The gate -/

/-- The gate moves as the policy's own assessment says, and reports it. -/
def FollowsPolicy (items : List EvidenceMapping) (flags : EvidenceFlags) (policy : TenantPolicy)
    (current : WorkflowState) : Prop :=
  ∃ step assessed, assessed = assess items flags policy.sufficientKinds policy.requireDonorVisible ∧
    stepEvidence items flags policy current = .ok (step, assessed) ∧
    (step.nextState = .classificationPending ↔ assessed = .sufficient) ∧
    (step.nextState = .blocked ↔ assessed = .contradictory ∨ assessed = .expired) ∧
    (step.nextState = .needsInformation ↔
      assessed ≠ .sufficient ∧ assessed ≠ .contradictory ∧ assessed ≠ .expired)

/-- The states from which the gate is asked. -/
def evidenceStates : List WorkflowState := [.normalized, .evidencePending]

/-- The second answer counts unless it is that nothing is missing. -/
theorem sufficiencyOf_eq : sufficiencyOf items flags policy =
    (if assess items flags [] true = .sufficient then
        assess items flags policy.sufficientKinds policy.requireDonorVisible
      else assess items flags [] true,
      decide (assess items flags [] true ≠ .contradictory)) := by
  have hflags : assess items flags policy.sufficientKinds policy.requireDonorVisible =
      .contradictory → { flags with contradictory := true } = flags := by
    intro hfirst
    have hset : flags.contradictory = true := by
      by_cases hdecide : flags.Decide
      · obtain ⟨flagged, -, hflagged, hassess⟩ := @assess_of_decide items flags hdecide
        exact hflagged.mp ((hassess _ _).symm.trans hfirst)
      · rw [assess_of_not_decide hdecide] at hfirst
        split at hfirst
        · exact nomatch hfirst
        split at hfirst
        · exact nomatch hfirst
        · exact nomatch hfirst
    cases flags
    exact congrArg (EvidenceFlags.mk · _ _) hset.symm
  rw [sufficiencyOf]
  split
  · rename_i hfirst
    rw [hflags hfirst]
  · rfl

/-- From its states the gate always moves, as the answer says that counts. -/
theorem stepEvidence_ok (hcurrent : current ∈ evidenceStates)
    {assessed : EvidenceSufficiency} {sound : Bool}
    (h : sufficiencyOf items flags policy = (assessed, sound))
    (hsound : sound = true ↔ assessed ≠ .contradictory) :
    ∃ step, stepEvidence items flags policy current = .ok (step, assessed) ∧
      (step.nextState = .classificationPending ↔ assessed = .sufficient) ∧
      (step.nextState = .blocked ↔ assessed = .contradictory ∨ assessed = .expired) ∧
      (step.nextState = .needsInformation ↔
        assessed ≠ .sufficient ∧ assessed ≠ .contradictory ∧ assessed ≠ .expired) := by
  obtain rfl : sound = decide (assessed ≠ .contradictory) := by
    rw [Bool.eq_iff_iff, hsound, decide_eq_true_eq]
  rw [stepEvidence, h]
  rcases (by simpa [evidenceStates] using hcurrent :
    current = .normalized ∨ current = .evidencePending) with rfl | rfl
  · cases assessed <;> exact ⟨_, rfl, by decide, by decide, by decide⟩
  · cases assessed <;> exact ⟨_, rfl, by decide, by decide, by decide⟩

theorem assess_ne_contradictory (h : ¬ flags.Decide) :
    assess items flags kinds requireDonorVisible ≠ .contradictory := by
  rw [assess_of_not_decide h]
  split
  · exact nofun
  split
  · exact nofun
  · exact nofun

/-- The gate follows the tenant's policy unless that is satisfied by what the default is not
satisfied by, and no flag decides. -/
theorem gate_follows_policy_iff (hcurrent : current ∈ evidenceStates) :
    FollowsPolicy items flags policy current ↔
      (flags.Decide ∨ (ShowsOneOf items policy.sufficientKinds policy.requireDonorVisible →
        ShowsOneOf items defaultSufficientKinds true)) := by
  have hread := @sufficiencyOf_eq items flags policy
  by_cases hdecide : flags.Decide
  · obtain ⟨flagged, hnot, -, hassess⟩ := @assess_of_decide items flags hdecide
    rw [hassess, if_neg hnot] at hread
    obtain ⟨step, hstep, hmoves⟩ := stepEvidence_ok hcurrent hread (by simp)
    exact iff_of_true ⟨step, flagged, (hassess _ _).symm, hstep, hmoves⟩ (Or.inl hdecide)
  rw [or_iff_right hdecide]
  have hsound : decide (assess items flags [] true ≠ .contradictory) = true :=
    decide_eq_true (assess_ne_contradictory hdecide)
  rw [hsound] at hread
  -- the answer that counts is no contradiction either
  have hcounts : (if assess items flags [] true = .sufficient then
      assess items flags policy.sufficientKinds policy.requireDonorVisible
      else assess items flags [] true) ≠ .contradictory := by
    split
    · exact assess_ne_contradictory hdecide
    · exact assess_ne_contradictory hdecide
  obtain ⟨step, hstep, hmoves⟩ :=
    stepEvidence_ok hcurrent hread (iff_of_true rfl hcounts)
  have hfollows : FollowsPolicy items flags policy current ↔
      (if assess items flags [] true = .sufficient then
        assess items flags policy.sufficientKinds policy.requireDonorVisible
        else assess items flags [] true) =
      assess items flags policy.sufficientKinds policy.requireDonorVisible := by
    constructor
    · rintro ⟨_, assessed, hassessed, hother, -⟩
      have heq := (Prod.mk.inj (Except.ok.inj (hstep.symm.trans hother))).2
      exact heq.trans hassessed
    · intro heq
      exact ⟨step, _, heq, hstep, hmoves⟩
  rw [hfollows, assess_of_not_decide hdecide, assess_of_not_decide hdecide]
  have hempty : items.isEmpty = true →
      ¬ ShowsOneOf items policy.sufficientKinds policy.requireDonorVisible := by
    rintro hitems ⟨item, hitem, -⟩
    rw [List.isEmpty_iff.mp hitems] at hitem
    exact nomatch hitem
  have hdefault : ShowsOneOf items [] true ↔ ShowsOneOf items defaultSufficientKinds true := Iff.rfl
  rw [← hdefault]
  by_cases hitems : items.isEmpty = true
  · simp [hitems, hempty hitems]
  · by_cases hfirst : ShowsOneOf items policy.sufficientKinds policy.requireDonorVisible
    · by_cases hsecond : ShowsOneOf items [] true
      · simp [hitems, hfirst, hsecond]
      · simp [hitems, hfirst, hsecond]
    · by_cases hsecond : ShowsOneOf items [] true
      · simp [hitems, hfirst, hsecond]
      · simp [hitems, hfirst, hsecond]

/-- A document of the default kind that the donor may see, under a policy of its own. -/
theorem receipt_follows_policy :
    FollowsPolicy [⟨some "ev", some "receipt", none, true⟩] {}
      { sufficientKinds := ["receipt", "packing_slip"], requireDonorVisible := false }
      .normalized :=
  (gate_follows_policy_iff (by decide)).mpr (Or.inr fun _ => by decide)

/-- A packing slip is enough for the tenant, and the gate asks for more. -/
theorem packing_slip_not_followed :
    ¬ ∀ items flags policy, FollowsPolicy items flags policy .normalized := by
  intro h
  obtain ⟨step, assessed, rfl, hstep, hmoves⟩ :=
    h [⟨some "ev", some "packing_slip", none, true⟩] {} { sufficientKinds := ["packing_slip"] }
  exact nomatch (Prod.mk.inj (Except.ok.inj hstep)).2

end ImpactRelay
