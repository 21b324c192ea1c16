/-
# `Lib.Edits` — editing an object key by key

A document is brought up to date by edits, each of which reads the value under its own
key and writes another one, leaves it, or fails.

An edit absorbs an earlier one under the same key if it makes the same of the value
whether or not the earlier edit has been there.  `edit_absorbs`: a list of edits that
absorb those of another list makes the same of a document, with the same order of its
keys, whether or not the other list has been applied to it.
-/
import ImpactRelay.Lib.Json
import Mathlib

namespace Json

/-! ## Assigning -/

section Assign

variable {fields : List (String × Json)} {k k' : String} {v v' : Json}

theorem setField_setField : setField (setField fields k v) k v' = setField fields k v' := by
  induction fields with
  | nil => exact if_pos rfl
  | cons e es ih =>
      by_cases he : e.1 = k
      · simp [setField, Dict.setEntries, he]
      · simp only [setField, Dict.setEntries, he, if_false] at ih ⊢
        rw [ih]

/-- Two keys may be assigned in either order when one of them is there. -/
theorem setField_comm (hk : k ∈ fields.map Prod.fst) (hne : k ≠ k') :
    setField (setField fields k v) k' v' = setField (setField fields k' v') k v := by
  induction fields with
  | nil => exact absurd hk List.not_mem_nil
  | cons e es ih =>
      by_cases he : e.1 = k
      · have hother : ¬ k = k' := hne
        simp [setField, Dict.setEntries, he, hother]
      · have hrest : k ∈ es.map Prod.fst :=
          (List.mem_cons.mp hk).resolve_left fun h => he h.symm
        have hcomm := ih hrest
        by_cases he' : e.1 = k'
        · have hother : ¬ k' = k := fun h => hne h.symm
          simp [setField, Dict.setEntries, he', hother]
        · simp only [setField, Dict.setEntries, he, he', if_false] at hcomm ⊢
          rw [hcomm]

theorem mem_keys_setField : k ∈ (setField fields k' v).map Prod.fst ↔
    k = k' ∨ k ∈ fields.map Prod.fst := by
  rw [setField, Dict.map_fst_setEntries]
  split
  · rename_i hmem
    exact ⟨Or.inr, fun h => h.elim (fun heq => heq ▸ hmem) id⟩
  · rw [List.mem_append, List.mem_singleton, or_comm]

end Assign

/-! ## Edits -/

variable {ε : Type}

/-- The key, and what becomes of the value under it. -/
structure Edit (ε : Type) where
  key : String
  of : Option Json → Except ε (Option Json)

def editKey (e : Edit ε) (fields : List (String × Json)) : Except ε (List (String × Json)) :=
  match e.of ((obj fields).field? e.key) with
  | .error exc => .error exc
  | .ok none => .ok fields
  | .ok (some v) => .ok (setField fields e.key v)

def edit : List (Edit ε) → List (String × Json) → Except ε (List (String × Json))
  | [], fields => .ok fields
  | e :: es, fields => (editKey e fields).bind (edit es)

/-- Assigns a value, whatever was there. -/
def Edit.assign (ε : Type) (e : String × Json) : Edit ε := ⟨e.1, fun _ => .ok (some e.2)⟩

theorem edit_assign {es fields : List (String × Json)} :
    edit (es.map (Edit.assign ε)) fields = .ok (merge fields es) := by
  induction es generalizing fields with
  | nil => rfl
  | cons e es ih => exact ih

section Frame

variable {e : Edit ε} {es : List (Edit ε)} {fields fields' : List (String × Json)} {k : String}

theorem editKey_field? (hne : k ≠ e.key) (h : editKey e fields = .ok fields') :
    (obj fields').field? k = (obj fields).field? k := by
  rw [editKey] at h
  split at h
  · exact nomatch h
  · rw [Except.ok.inj h]
  · rw [← Except.ok.inj h, field?_setField, if_neg hne]

theorem edit_field? (hk : k ∉ es.map Edit.key) (h : edit es fields = .ok fields') :
    (obj fields').field? k = (obj fields).field? k := by
  induction es generalizing fields with
  | nil => rw [Except.ok.inj h]
  | cons e es ih =>
      rw [List.map_cons, List.mem_cons, not_or] at hk
      rw [edit] at h
      cases hfirst : editKey e fields with
      | error exc =>
          rw [hfirst] at h
          exact nomatch h
      | ok between =>
          rw [hfirst] at h
          exact (ih hk.2 h).trans (editKey_field? hk.1 hfirst)

theorem editKey_field?_self (h : editKey e fields = .ok fields') :
    ∃ w, e.of ((obj fields).field? e.key) = .ok w ∧
      (obj fields').field? e.key = w.or ((obj fields).field? e.key) := by
  rw [editKey] at h
  cases hof : e.of ((obj fields).field? e.key) with
  | error exc =>
      rw [hof] at h
      exact nomatch h
  | ok w =>
      rw [hof] at h
      refine ⟨w, rfl, ?_⟩
      cases w with
      | none => rw [← Except.ok.inj h, Option.none_or]
      | some v => rw [← Except.ok.inj h, field?_setField, if_pos rfl, Option.some_or]

/-- Under its own key an edit makes of the value what it makes of the value at first. -/
theorem edit_field?_of_mem (hnodup : (es.map Edit.key).Nodup) (he : e ∈ es)
    (h : edit es fields = .ok fields') :
    ∃ w, e.of ((obj fields).field? e.key) = .ok w ∧
      (obj fields').field? e.key = w.or ((obj fields).field? e.key) := by
  induction es generalizing fields with
  | nil => exact absurd he List.not_mem_nil
  | cons e' es ih =>
      rw [List.map_cons, List.nodup_cons] at hnodup
      rw [edit] at h
      cases hfirst : editKey e' fields with
      | error exc =>
          rw [hfirst] at h
          exact nomatch h
      | ok between =>
          rw [hfirst] at h
          have hrest : edit es between = .ok fields' := h
          rcases List.mem_cons.mp he with rfl | he
          · obtain ⟨w, hof, hfield⟩ := editKey_field?_self hfirst
            exact ⟨w, hof, (edit_field? hnodup.1 hrest).trans hfield⟩
          · have hne : e.key ≠ e'.key := fun heq =>
              hnodup.1 (heq ▸ List.mem_map_of_mem he)
            have hsame := editKey_field? hne hfirst
            obtain ⟨w, hof, hfield⟩ := ih hnodup.2 he hrest
            exact ⟨w, hsame ▸ hof, hsame ▸ hfield⟩

theorem editKey_setField {v : Json} (hk : k ∈ fields.map Prod.fst) (hne : k ≠ e.key) :
    editKey e (setField fields k v) = (editKey e fields).map (setField · k v) := by
  rw [editKey, editKey, field?_setField, if_neg hne.symm]
  split
  · rfl
  · rfl
  · exact congrArg Except.ok (setField_comm hk hne)

/-- A key that is there may be assigned before or after the edits of the others. -/
theorem edit_setField {v : Json} (hk : k ∈ fields.map Prod.fst) (hother : k ∉ es.map Edit.key) :
    edit es (setField fields k v) = (edit es fields).map (setField · k v) := by
  induction es generalizing fields with
  | nil => rfl
  | cons e es ih =>
      rw [List.map_cons, List.mem_cons, not_or] at hother
      rw [edit, edit, editKey_setField hk hother.1]
      cases hfirst : editKey e fields with
      | error exc => rfl
      | ok between =>
          have hthere : k ∈ between.map Prod.fst := by
            rw [editKey] at hfirst
            split at hfirst
            · exact nomatch hfirst
            · exact Except.ok.inj hfirst ▸ hk
            · rw [← Except.ok.inj hfirst]
              exact mem_keys_setField.mpr (Or.inr hk)
          exact ih hthere hother.2

end Frame

/-! ## Absorption -/

/-- The later edit makes the same of the value, and is made in the same cases. -/
structure Edit.Absorbs (earlier later : Edit ε) : Prop where
  key : earlier.key = later.key
  same : ∀ {v w}, earlier.of v = .ok w → later.of (w.or v) = later.of v
  both : ∀ {v w w'}, earlier.of v = .ok w → later.of v = .ok w' → (w = none ↔ w' = none)

theorem edit_absorbs {es es' : List (Edit ε)} {fields fields' : List (String × Json)}
    (habsorbs : List.Forall₂ Edit.Absorbs es es') (hnodup : (es.map Edit.key).Nodup)
    (h : edit es fields = .ok fields') : edit es' fields' = edit es' fields := by
  induction habsorbs generalizing fields fields' with
  | nil => rw [Except.ok.inj h]
  | @cons e e' es es' hfirst _ ih =>
      rw [List.map_cons, List.nodup_cons] at hnodup
      rw [edit] at h
      cases hedit : editKey e fields with
      | error exc =>
          rw [hedit] at h
          exact nomatch h
      | ok between =>
          rw [hedit] at h
          have hrest : edit es between = .ok fields' := h
          have hfirst' := hedit
          rw [editKey] at hedit
          cases hof : e.of ((obj fields).field? e.key) with
          | error exc =>
              rw [hof] at hedit
              exact nomatch hedit
          | ok w =>
              rw [hof] at hedit
              have hbetween : (obj fields').field? e.key = w.or ((obj fields).field? e.key) := by
                obtain ⟨w', hof', hfield⟩ := editKey_field?_self hfirst'
                rw [edit_field? hnodup.1 hrest, hfield, Except.ok.inj (hof'.symm.trans hof)]
              have hsame : e'.of ((obj fields').field? e'.key) =
                  e'.of ((obj fields).field? e'.key) := by
                rw [← hfirst.key, hbetween, hfirst.same hof]
              rw [edit, edit, editKey, editKey, hsame]
              cases hof' : e'.of ((obj fields).field? e'.key) with
              | error exc => rfl
              | ok w' =>
                  have hboth := hfirst.both hof (hfirst.key ▸ hof')
                  cases w' with
                  | none =>
                      rw [hboth.mpr rfl] at hedit
                      rw [← Except.ok.inj hedit] at hrest
                      exact ih hnodup.2 hrest
                  | some v' =>
                      obtain ⟨v, rfl⟩ := Option.ne_none_iff_exists'.mp fun h' => nomatch hboth.mp h'
                      have hv : setField fields e.key v = between := Except.ok.inj hedit
                      have hthere : e.key ∈ between.map Prod.fst := by
                        rw [← hv]
                        exact mem_keys_setField.mpr (Or.inl rfl)
                      refine ih hnodup.2 ?_
                      have hlater : setField fields e'.key v' = setField between e.key v' := by
                        rw [← hv, setField_setField, hfirst.key]
                      rw [hlater, edit_setField hthere hnodup.1, hrest, ← hfirst.key]
                      rfl

/-- What an edit that does not fail writes, it writes whatever was there. -/
def Edit.Writes (e : Edit ε) : Prop := ∀ {v}, e.of v ≠ .ok none

theorem Edit.Absorbs.of_writes {earlier later : Edit ε} (hkey : earlier.key = later.key)
    (hsame : ∀ {v w}, earlier.of v = .ok w → later.of (w.or v) = later.of v)
    (hearlier : earlier.Writes) (hlater : later.Writes) : Edit.Absorbs earlier later where
  key := hkey
  same := hsame
  both h h' := iff_of_false (fun hnone => hearlier (hnone ▸ h)) fun hnone => hlater (hnone ▸ h')

theorem Edit.assign_absorbs (k : String) (v v' : Json) :
    Edit.Absorbs (Edit.assign ε (k, v)) (Edit.assign ε (k, v')) :=
  .of_writes rfl (fun _ => rfl) (fun h => nomatch h) fun h => nomatch h

theorem forall₂_assign_absorbs {es es' : List (String × Json)}
    (h : es.map Prod.fst = es'.map Prod.fst) :
    List.Forall₂ Edit.Absorbs (es.map (Edit.assign ε)) (es'.map (Edit.assign ε)) := by
  induction es generalizing es' with
  | nil =>
      rw [List.map_eq_nil_iff.mp h.symm]
      exact .nil
  | cons e es ih =>
      cases es' with
      | nil => exact nomatch h
      | cons e' es' =>
          obtain ⟨hhead, htail⟩ := List.cons.inj h
          obtain ⟨k, v⟩ := e
          obtain ⟨k', v'⟩ := e'
          obtain rfl : k = k' := hhead
          exact .cons (Edit.assign_absorbs k v v') (ih htail)

theorem field?_merge {fields es : List (String × Json)} {k : String} {v : Json}
    (hnodup : (es.map Prod.fst).Nodup) (h : (k, v) ∈ es) :
    (obj (merge fields es)).field? k = some v := by
  have hkeyed : ((es.map (Edit.assign Unit)).map Edit.key).Nodup := by
    rw [List.map_map]
    exact hnodup
  obtain ⟨w, hof, hfield⟩ :=
    edit_field?_of_mem hkeyed (List.mem_map_of_mem h) (edit_assign)
  rw [← Except.ok.inj hof, Option.some_or] at hfield
  exact hfield

/-- Assigning to the same keys again leaves nothing of the values before. -/
theorem merge_merge {fields es es' : List (String × Json)}
    (hkeys : es.map Prod.fst = es'.map Prod.fst) (hnodup : (es.map Prod.fst).Nodup) :
    merge (merge fields es) es' = merge fields es' := by
  have hkeyed : ((es.map (Edit.assign Unit)).map Edit.key).Nodup := by
    rw [List.map_map]
    exact hnodup
  have hsame : edit (es'.map (Edit.assign Unit)) (merge fields es) =
      edit (es'.map (Edit.assign Unit)) fields :=
    edit_absorbs (forall₂_assign_absorbs hkeys) hkeyed edit_assign
  rw [edit_assign, edit_assign] at hsame
  exact Except.ok.inj hsame

end Json
