/-
# `Lib.Owned` — the records of several owners in one dictionary

Records that belong to different owners share one dictionary, under keys that nobody
checks.  A record written for one owner takes the place of whatever its key had before:
the other owners keep their records exactly when the key was new, or had a record of
the same owner (`othersKept_set`).  For several records in a row each key is asked once,
in the dictionary before the first (`othersKept_setAll`).
-/
import ImpactRelay.Lib.Dict

namespace Dict

variable {κ ν ω : Type} [DecidableEq κ] [DecidableEq ω]

/-- The records of one owner, in order. -/
def ownedBy (owner : ν → ω) (o : ω) (d : Dict κ ν) : List ν :=
  d.values.filter fun v => decide (owner v = o)

/-- Every owner but `own` has the records it had. -/
def OthersKept (owner : ν → ω) (own : ω) (d d' : Dict κ ν) : Prop :=
  ∀ o, o ≠ own → d'.ownedBy owner o = d.ownedBy owner o

/-- The key has no record, or one of `own`. -/
def FreeFor (owner : ν → ω) (own : ω) (d : Dict κ ν) (k : κ) : Prop :=
  ∀ old ∈ d.get? k, owner old = own

instance (owner : ν → ω) (own : ω) (d : Dict κ ν) (k : κ) : Decidable (FreeFor owner own d k) :=
  inferInstanceAs (Decidable (∀ old ∈ d.get? k, owner old = own))

section Kept

omit [DecidableEq κ]

variable {owner : ν → ω} {own : ω} {d d' : Dict κ ν}

theorem OthersKept.refl : OthersKept owner own d d := fun _ _ => rfl

/-- Dropping records of `own` costs the others nothing. -/
theorem othersKept_filter {p : ν → Bool} (hp : ∀ v, owner v ≠ own → p v = true) :
    OthersKept owner own d (d.filter p) := by
  intro o ho
  rw [ownedBy, ownedBy, values_filter, List.filter_filter]
  refine List.filter_congr fun v _ => ?_
  cases hv : decide (owner v = o) with
  | false => rfl
  | true =>
      have hother : owner v ≠ own := fun h => ho ((of_decide_eq_true hv).symm.trans h)
      rw [Bool.true_and, hp v hother]

/-- What is dropped of `own`'s frees no key for it that was somebody else's. -/
theorem freeFor_filter [DecidableEq κ] {p : ν → Bool} {k : κ}
    (hp : ∀ v, owner v ≠ own → p v = true) :
    FreeFor owner own (d.filter p) k ↔ FreeFor owner own d k := by
  rw [FreeFor, FreeFor, get?_filter]
  constructor
  · intro h old hold
    by_contra hother
    have hkept : (d.get? k).filter p = some old :=
      Option.filter_eq_some_iff.mpr ⟨hold, hp old hother⟩
    exact hother (h old hkept)
  · intro h old hold
    exact h old (Option.filter_eq_some_iff.mp hold).1

end Kept

/-! ## One record -/

section One

/-- A value of another kind, over a value of another kind. -/
theorem filter_setEntries {k : κ} {v : ν} {p : ν → Bool} (hv : p v = false) :
    ∀ {es : List (κ × ν)}, (∀ old, (k, old) ∈ es → p old = false) →
      ((setEntries k v es).map Prod.snd).filter p = (es.map Prod.snd).filter p
  | [], _ => by simp [setEntries, hv]
  | e :: es, hold => by
      rw [setEntries]
      split
      · rename_i he
        have hpe : p e.2 = false := hold e.2 (he ▸ List.mem_cons_self)
        simp [hv, hpe]
      · have hrest : ∀ old, (k, old) ∈ es → p old = false :=
          fun old hmem => hold old (List.mem_cons_of_mem e hmem)
        have ih := filter_setEntries (v := v) hv hrest
        simp only [List.map_cons, List.filter_cons, ih]

/-- A value of another kind, over a value of this one. -/
theorem length_filter_setEntries {k : κ} {v old : ν} {p : ν → Bool} (hv : p v = false)
    (hold : p old = true) : ∀ {es : List (κ × ν)}, (es.map Prod.fst).Nodup → (k, old) ∈ es →
      (((setEntries k v es).map Prod.snd).filter p).length + 1 =
        ((es.map Prod.snd).filter p).length
  | [], _, h => absurd h List.not_mem_nil
  | e :: es, hn, h => by
      rw [List.map_cons, List.nodup_cons] at hn
      rw [setEntries]
      split
      · rename_i he
        have heq : e = (k, old) := by
          rcases List.mem_cons.mp h with heq | h
          · exact heq.symm
          · exact absurd (he ▸ List.mem_map_of_mem (f := Prod.fst) h) hn.1
        simp [heq, hv, hold]
      · rename_i he
        have hmem : (k, old) ∈ es := by
          rcases List.mem_cons.mp h with heq | h
          · exact absurd (heq ▸ rfl) he
          · exact h
        have ih := length_filter_setEntries (k := k) (v := v) hv hold hn.2 hmem
        simp only [List.map_cons, List.filter_cons]
        split
        · rw [List.length_cons, List.length_cons, ih]
        · exact ih

variable {owner : ν → ω} {own : ω} {d : Dict κ ν} {k : κ} {v : ν}

theorem ownedBy_set {o : ω} (hv : owner v ≠ o) (hold : ∀ old ∈ d.get? k, owner old ≠ o) :
    (d.set k v).ownedBy owner o = d.ownedBy owner o := by
  refine filter_setEntries (p := fun w => decide (owner w = o)) (decide_eq_false hv) ?_
  intro old hmem
  exact decide_eq_false (hold old (get?_eq_some.mpr hmem))

/-- Overwriting somebody else's record takes one from them. -/
theorem length_ownedBy_set {old : ν} (hold : d.get? k = some old) (hv : owner v ≠ owner old) :
    ((d.set k v).ownedBy owner (owner old)).length + 1 =
      (d.ownedBy owner (owner old)).length :=
  length_filter_setEntries (p := fun w => decide (owner w = owner old)) (decide_eq_false hv)
    (decide_eq_true rfl) d.nodup (get?_eq_some.mp hold)

/-- A record of `own` is written where nobody else's was, or somebody else loses one. -/
theorem othersKept_set (hv : owner v = own) :
    OthersKept owner own d (d.set k v) ↔ FreeFor owner own d k := by
  constructor
  · intro h old hold
    by_contra hother
    have hlen := length_ownedBy_set hold fun hsame => hother (hsame.symm.trans hv)
    have hkept := congrArg List.length (h (owner old) hother)
    omega
  · intro h o ho
    refine ownedBy_set (fun hsame => ho (hsame.symm.trans hv)) ?_
    intro old hold hsame
    exact ho (hsame.symm.trans (h old hold))

end One

/-! ## Several records -/

section Many

variable {owner : ν → ω} {own : ω} {key : ν → κ}

omit [DecidableEq ω] in
/-- What `own` has written under a key does not change who may write under the next. -/
theorem freeFor_set {d : Dict κ ν} {k k' : κ} {v : ν} (hv : owner v = own)
    (hk : FreeFor owner own d k) : FreeFor owner own (d.set k v) k' ↔ FreeFor owner own d k' := by
  rw [FreeFor, FreeFor, get?_set]
  split
  · rename_i heq
    constructor
    · intro _ old hold
      exact hk old (heq ▸ hold)
    · intro _ old hold
      exact Option.mem_some.mp hold ▸ hv
  · exact Iff.rfl

theorem length_ownedBy_set_le {d : Dict κ ν} {k : κ} {v : ν} {o : ω} (hv : owner v ≠ o) :
    ((d.set k v).ownedBy owner o).length ≤ (d.ownedBy owner o).length := by
  by_cases hfree : ∀ old ∈ d.get? k, owner old ≠ o
  · rw [ownedBy_set hv hfree]
  · simp only [not_forall, not_not] at hfree
    obtain ⟨old, hold, rfl⟩ := hfree
    have hlen := length_ownedBy_set hold hv
    omega

/-- What others lose they do not get back. -/
theorem length_ownedBy_setAll_le (key : ν → κ) {o : ω} :
    ∀ {vs : List ν} {d : Dict κ ν}, (∀ v ∈ vs, owner v ≠ o) →
      ((d.setAll key vs).ownedBy owner o).length ≤ (d.ownedBy owner o).length
  | [], _, _ => le_refl _
  | v :: vs, d, h => by
      rw [setAll_cons]
      exact (length_ownedBy_setAll_le key fun w hw => h w (List.mem_cons_of_mem v hw)).trans
        (length_ownedBy_set_le (h v List.mem_cons_self))

theorem othersKept_setAll :
    ∀ {vs : List ν} {d : Dict κ ν}, (∀ v ∈ vs, owner v = own) →
      (OthersKept owner own d (d.setAll key vs) ↔ ∀ v ∈ vs, FreeFor owner own d (key v))
  | [], d, _ => iff_of_true OthersKept.refl fun _ h => absurd h List.not_mem_nil
  | v :: vs, d, hown => by
      have hv := hown v List.mem_cons_self
      have htail : ∀ w ∈ vs, owner w = own := fun w hw => hown w (List.mem_cons_of_mem v hw)
      have ih := othersKept_setAll (d := d.set (key v) v) htail
      rw [setAll_cons, List.forall_mem_cons]
      constructor
      · intro h
        have hfree : FreeFor owner own d (key v) := by
          intro old hold
          by_contra hother
          have hlen := length_ownedBy_set hold fun hsame => hother (hsame.symm.trans hv)
          have hrest := length_ownedBy_setAll_le key (d := d.set (key v) v) (o := owner old)
            fun w hw hsame => hother (hsame.symm.trans (htail w hw))
          rw [h (owner old) hother] at hrest
          omega
        have hkept := (othersKept_set hv).mpr hfree
        refine ⟨hfree, fun w hw => (freeFor_set hv hfree).mp (ih.mp ?_ w hw)⟩
        intro o ho
        rw [h o ho, hkept o ho]
      · rintro ⟨hfree, hrest⟩ o ho
        rw [← (othersKept_set hv).mpr hfree o ho]
        exact ih.mpr (fun w hw => (freeFor_set hv hfree).mpr (hrest w hw)) o ho

end Many

end Dict
