/-
# `Lib.SortedJson` — values whose objects have sorted keys

What is read back from the text that `json.dumps(value, sort_keys=True)` writes: the
same value, with the keys of every object in order.  Two values are the same to
whoever compares dictionaries, which does not look at the order of the keys, when
they come out alike once sorted.
-/
import ImpactRelay.Lib.Json

namespace Json

/-- The order of two fields. -/
def keyLe (a b : String × Json) : Bool := decide (a.1 ≤ b.1)

mutual

/-- `json.loads(json.dumps(value, sort_keys=True))`. -/
def sorted : Json → Json
  | null => null
  | bool b => bool b
  | num n => num n
  | float text => float text
  | str s => str s
  | arr items => arr (sortedItems items)
  | obj fields => obj ((sortedFields fields).mergeSort keyLe)

def sortedItems : List Json → List Json
  | [] => []
  | j :: js => sorted j :: sortedItems js

def sortedFields : List (String × Json) → List (String × Json)
  | [] => []
  | (k, j) :: es => (k, sorted j) :: sortedFields es

end

theorem sortedFields_eq_map (fields : List (String × Json)) :
    sortedFields fields = fields.map fun e => (e.1, e.2.sorted) := by
  induction fields with
  | nil => rfl
  | cons e es ih =>
      rw [sortedFields, ih]
      rfl

theorem sortedFields_perm (fields : List (String × Json)) :
    ((sortedFields fields).mergeSort keyLe).Perm (fields.map fun e => (e.1, e.2.sorted)) := by
  rw [← sortedFields_eq_map]
  exact List.mergeSort_perm _ _

theorem pairwise_keyLe (fields : List (String × Json)) :
    (fields.mergeSort keyLe).Pairwise (fun a b => keyLe a b = true) := by
  refine List.pairwise_mergeSort (fun a b c hab hbc => ?_) (fun a b => ?_) fields
  · exact decide_eq_true (String.le_trans (of_decide_eq_true hab) (of_decide_eq_true hbc))
  · rcases String.le_total a.1 b.1 with h | h
    · exact Bool.or_eq_true _ _ ▸ Or.inl (decide_eq_true h)
    · exact Bool.or_eq_true _ _ ▸ Or.inr (decide_eq_true h)

mutual

/-- Sorting once is enough. -/
theorem sorted_sorted : ∀ j : Json, j.sorted.sorted = j.sorted
  | null => rfl
  | bool _ => rfl
  | num _ => rfl
  | float _ => rfl
  | str _ => rfl
  | arr items => by
      rw [sorted, sorted, sortedItems_sortedItems]
  | obj fields => by
      have hfix : sortedFields ((sortedFields fields).mergeSort keyLe) =
          (sortedFields fields).mergeSort keyLe := by
        rw [sortedFields_eq_map]
        refine (List.map_congr_left fun e he => ?_).trans (List.map_id _)
        have hmem := (List.mergeSort_perm _ _).mem_iff.mp he
        exact Prod.ext rfl (sorted_of_mem_sortedFields fields e hmem)
      rw [sorted, sorted, hfix, List.mergeSort_of_pairwise (pairwise_keyLe _)]

theorem sortedItems_sortedItems : ∀ js : List Json, sortedItems (sortedItems js) = sortedItems js
  | [] => rfl
  | j :: js => by
      rw [sortedItems, sortedItems, sorted_sorted j, sortedItems_sortedItems js]

theorem sorted_of_mem_sortedFields : ∀ (fields : List (String × Json)) (e : String × Json),
    e ∈ sortedFields fields → e.2.sorted = e.2
  | [], _, h => absurd h List.not_mem_nil
  | (k, j) :: es, e, h => by
      rcases List.mem_cons.mp h with rfl | h
      · exact sorted_sorted j
      · exact sorted_of_mem_sortedFields es e h

end

/-- An object is sorted when its keys are in order and its values are sorted. -/
theorem sorted_obj_eq_self_iff {fields : List (String × Json)} :
    (obj fields).sorted = obj fields ↔
      fields.Pairwise (fun a b => keyLe a b = true) ∧ ∀ e ∈ fields, e.2.sorted = e.2 := by
  rw [sorted, Json.obj.injEq]
  constructor
  · intro h
    refine ⟨h ▸ pairwise_keyLe _, fun e he => ?_⟩
    have hmem : e ∈ (sortedFields fields).mergeSort keyLe := h.symm ▸ he
    exact sorted_of_mem_sortedFields fields e ((List.mergeSort_perm _ _).mem_iff.mp hmem)
  · rintro ⟨hpairwise, hvalues⟩
    have hself : sortedFields fields = fields := by
      rw [sortedFields_eq_map]
      refine (List.map_congr_left fun e he => ?_).trans (List.map_id _)
      exact Prod.ext rfl (hvalues e he)
    rw [hself, List.mergeSort_of_pairwise hpairwise]

theorem map_fst_sorted (fields : List (String × Json)) :
    (fields.map fun e => (e.1, e.2.sorted)).map Prod.fst = fields.map Prod.fst := by
  rw [List.map_map]
  rfl

theorem eq_of_mem_of_fst {es : List (String × Json)} (hnodup : (es.map Prod.fst).Nodup)
    {a b : String × Json} (ha : a ∈ es) (hb : b ∈ es) (hkey : a.1 = b.1) : a = b :=
  List.inj_on_of_nodup_map hnodup ha hb hkey

/-- Sorting does not see the order in which the fields came. -/
theorem sorted_obj_of_perm {fields fields' : List (String × Json)} (hperm : fields'.Perm fields)
    (hnodup : (fields.map Prod.fst).Nodup) : (obj fields').sorted = (obj fields).sorted := by
  have hmap : (sortedFields fields').Perm (sortedFields fields) := by
    rw [sortedFields_eq_map, sortedFields_eq_map]
    exact hperm.map _
  have hsorted : ((sortedFields fields').mergeSort keyLe).Perm
      ((sortedFields fields).mergeSort keyLe) :=
    (List.mergeSort_perm _ _).trans (hmap.trans (List.mergeSort_perm _ _).symm)
  have hnodup' : (((sortedFields fields).mergeSort keyLe).map Prod.fst).Nodup := by
    refine ((sortedFields_perm fields).map Prod.fst).nodup_iff.mpr ?_
    rw [map_fst_sorted]
    exact hnodup
  rw [sorted, sorted, hsorted.eq_of_pairwise (fun a b ha hb hab hba => ?_) (pairwise_keyLe _)
    (pairwise_keyLe _)]
  have hkey : a.1 = b.1 := String.le_antisymm (of_decide_eq_true hab) (of_decide_eq_true hba)
  exact eq_of_mem_of_fst hnodup' (hsorted.mem_iff.mp ha) hb hkey

/-- Objects with one sequence of keys are the same sorted when their values are. -/
theorem sorted_obj_eq_iff {fields fields' : List (String × Json)}
    (hkeys : fields.map Prod.fst = fields'.map Prod.fst)
    (hnodup : (fields.map Prod.fst).Nodup) :
    (obj fields).sorted = (obj fields').sorted ↔
      (fields.map fun e => (e.1, e.2.sorted)) = fields'.map fun e => (e.1, e.2.sorted) := by
  rw [sorted, sorted, Json.obj.injEq]
  constructor
  · intro h
    have hperm : (fields.map fun e => (e.1, e.2.sorted)).Perm
        (fields'.map fun e => (e.1, e.2.sorted)) :=
      (sortedFields_perm fields).symm.trans (h ▸ sortedFields_perm fields')
    have hnodup₁ := (map_fst_sorted fields).symm ▸ hnodup
    have hnodup₂ := (map_fst_sorted fields').symm ▸ hkeys ▸ hnodup
    have heq : (⟨_, hnodup₁⟩ : Dict String Json) = ⟨_, hnodup₂⟩ := by
      refine Dict.ext_of_keys ?_ fun k _ => Dict.get?_of_perm hperm k
      show (fields.map fun e => (e.1, e.2.sorted)).map Prod.fst =
        (fields'.map fun e => (e.1, e.2.sorted)).map Prod.fst
      rw [map_fst_sorted, map_fst_sorted, hkeys]
    exact congrArg Dict.entries heq
  · intro h
    rw [sortedFields_eq_map, sortedFields_eq_map, h]

/-- Fields with distinct keys, read one after another. -/
theorem merge_nil {fields : List (String × Json)} (hnodup : (fields.map Prod.fst).Nodup) :
    merge [] fields = fields := by
  have hupdate : ∀ (es : List (String × Json)) (d : Dict String Json),
      (d.update es).entries = merge d.entries es := by
    intro es
    induction es with
    | nil => exact fun _ => rfl
    | cons e es ih => exact fun d => ih (d.set e.1 e.2)
  exact (hupdate fields .empty).symm.trans (Dict.entries_ofList hnodup)

/-- A field of the sorted object is the sorted field. -/
theorem field?_sorted {fields : List (String × Json)} (hnodup : (fields.map Prod.fst).Nodup)
    (k : String) : (obj fields).sorted.field? k =
      (obj (fields.map fun e => (e.1, e.2.sorted))).field? k := by
  have hkeys : (fields.map fun e => (e.1, e.2.sorted)).map Prod.fst = fields.map Prod.fst := by
    rw [List.map_map]
    rfl
  have hperm := sortedFields_perm fields
  have hnodup' : (((sortedFields fields).mergeSort keyLe).map Prod.fst).Nodup :=
    (hperm.map Prod.fst).nodup_iff.mpr (hkeys ▸ hnodup)
  exact Dict.get?_of_perm (d := ⟨_, hnodup'⟩) (e := ⟨_, hkeys ▸ hnodup⟩) hperm k

/-- An object of scalars reads the same sorted. -/
theorem field?_sorted_flat {fields : List (String × Json)} (hnodup : (fields.map Prod.fst).Nodup)
    (hflat : ∀ e ∈ fields, e.2.sorted = e.2) (k : String) :
    (obj fields).sorted.field? k = (obj fields).field? k := by
  have hmap : (fields.map fun e => (e.1, e.2.sorted)) = fields.map id :=
    List.map_congr_left fun e he => Prod.ext rfl (hflat e he)
  rw [field?_sorted hnodup, hmap, List.map_id]

/-- Two values whose fields come out alike once sorted. -/
def FieldsAlike (j j' : Json) : Prop := ∀ k, (j.field? k).map sorted = (j'.field? k).map sorted

theorem fieldsAlike_sorted_flat {fields : List (String × Json)}
    (hnodup : (fields.map Prod.fst).Nodup) (hflat : ∀ e ∈ fields, e.2.sorted = e.2) :
    FieldsAlike (obj fields).sorted (obj fields) :=
  fun k => congrArg (Option.map sorted) (field?_sorted_flat hnodup hflat k)

@[simp] theorem sorted_str (s : String) : (str s).sorted = str s := rfl

@[simp] theorem sorted_bool (b : Bool) : (bool b).sorted = bool b := rfl

@[simp] theorem sorted_ofOption (o : Option String) : (ofOption o).sorted = ofOption o := by
  cases o <;> rfl

/-! ## Objects without repeated keys -/

mutual

/-- No object in the value has a key twice. -/
def Keyed : Json → Prop
  | arr items => KeyedItems items
  | obj fields => (fields.map Prod.fst).Nodup ∧ KeyedFields fields
  | _ => True

def KeyedItems : List Json → Prop
  | [] => True
  | j :: js => Keyed j ∧ KeyedItems js

def KeyedFields : List (String × Json) → Prop
  | [] => True
  | (_, j) :: es => Keyed j ∧ KeyedFields es

end

theorem keyedFields_iff {fields : List (String × Json)} :
    KeyedFields fields ↔ ∀ e ∈ fields, e.2.Keyed := by
  induction fields with
  | nil => exact iff_of_true trivial nofun
  | cons e es ih => rw [KeyedFields, ih, List.forall_mem_cons]

theorem Keyed.field? {j v : Json} {k : String} (h : j.Keyed) (hv : j.field? k = some v) :
    v.Keyed := by
  cases j with
  | obj fields =>
      obtain ⟨e, he, rfl⟩ := Option.map_eq_some_iff.mp hv
      exact keyedFields_iff.mp h.2 e (List.mem_of_find?_eq_some he)
  | null | bool | num | float | str | arr => exact nomatch hv

/-- A field of a value with sorted keys. -/
theorem Keyed.field?_sorted {j : Json} (h : j.Keyed) (k : String) :
    j.sorted.field? k = (j.field? k).map sorted := by
  cases j with
  | obj fields =>
      rw [Json.field?_sorted h.1, Json.field?, Json.field?, List.find?_map, Option.map_map,
        Option.map_map]
      rfl
  | null | bool | num | float | str | arr => rfl

theorem Keyed.fieldsAlike {j j' : Json} (h : j.Keyed) (h' : j'.Keyed)
    (hsame : j.sorted = j'.sorted) : FieldsAlike j j' := by
  intro k
  rw [← h.field?_sorted, ← h'.field?_sorted, hsame]

theorem keyed_merge {fields : List (String × Json)} (h : ∀ e ∈ fields, e.2.Keyed) :
    (obj (merge [] fields)).Keyed := by
  have hupdate : ∀ (es : List (String × Json)) (d : Dict String Json),
      (∀ e ∈ es, e.2.Keyed) → (∀ v ∈ d.values, v.Keyed) →
      (obj (merge d.entries es)).Keyed := by
    intro es
    induction es with
    | nil =>
        intro d _ hd
        exact ⟨d.nodup, keyedFields_iff.mpr fun e he => hd e.2 (List.mem_map_of_mem he)⟩
    | cons e es ih =>
        intro d hes hd
        obtain ⟨he, hes⟩ := List.forall_mem_cons.mp hes
        refine ih (d.set e.1 e.2) hes fun v hv => ?_
        rcases Dict.mem_values_set hv with rfl | hv
        · exact he
        · exact hd v hv
  exact hupdate fields .empty h nofun

/-! ## Values that come out alike once sorted -/

theorem length_sortedItems (items : List Json) : (sortedItems items).length = items.length := by
  induction items with
  | nil => rfl
  | cons j js ih => rw [sortedItems, List.length_cons, List.length_cons, ih]

/-- Such values are the same, or two lists, or two objects. -/
theorem sorted_eq_cases {j j' : Json} (h : j.sorted = j'.sorted) :
    j = j' ∨
      (∃ items items', j = arr items ∧ j' = arr items' ∧ items.length = items'.length) ∨
      ∃ fields fields', j = obj fields ∧ j' = obj fields' ∧ fields.length = fields'.length := by
  cases j with
  | null | bool | num | float | str =>
      cases j' with
      | null | bool | num | float | str => exact .inl h
      | arr | obj => exact nomatch h
  | arr items =>
      cases j' with
      | arr items' =>
          refine .inr (.inl ⟨items, items', rfl, rfl, ?_⟩)
          rw [← length_sortedItems items, ← length_sortedItems items', Json.arr.inj h]
      | null | bool | num | float | str | obj => exact nomatch h
  | obj fields =>
      cases j' with
      | obj fields' =>
          refine .inr (.inr ⟨fields, fields', rfl, rfl, ?_⟩)
          have hlength := congrArg List.length (Json.obj.inj h)
          rw [(sortedFields_perm fields).length_eq, (sortedFields_perm fields').length_eq,
            List.length_map, List.length_map] at hlength
          exact hlength
      | null | bool | num | float | str | arr => exact nomatch h

theorem truthy_congr {j j' : Json} (h : j.sorted = j'.sorted) : j.truthy = j'.truthy := by
  rcases sorted_eq_cases h with rfl | ⟨items, items', rfl, rfl, hlength⟩ |
    ⟨fields, fields', rfl, rfl, hlength⟩
  · rfl
  · rw [truthy, truthy, Bool.eq_iff_iff]
    simp only [Bool.not_eq_true', List.isEmpty_eq_false_iff, ← List.length_pos_iff, hlength]
  · rw [truthy, truthy, Bool.eq_iff_iff]
    simp only [Bool.not_eq_true', List.isEmpty_eq_false_iff, ← List.length_pos_iff, hlength]

/-- The same for a field that may be missing. -/
theorem map_sorted_cases {o o' : Option Json} (h : o.map sorted = o'.map sorted) :
    o = o' ∨ (∃ items items', o = some (arr items) ∧ o' = some (arr items')) ∨
      ∃ fields fields', o = some (obj fields) ∧ o' = some (obj fields') := by
  cases o with
  | none =>
      cases o' with
      | none => exact .inl rfl
      | some _ => exact nomatch h
  | some j =>
      cases o' with
      | none => exact nomatch h
      | some j' =>
          rcases sorted_eq_cases (Option.some.inj h) with rfl | ⟨items, items', rfl, rfl, -⟩ |
            ⟨fields, fields', rfl, rfl, -⟩
          · exact .inl rfl
          · exact .inr (.inl ⟨items, items', rfl, rfl⟩)
          · exact .inr (.inr ⟨fields, fields', rfl, rfl⟩)

end Json
