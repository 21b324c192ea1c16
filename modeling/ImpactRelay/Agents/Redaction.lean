/-
# `Agents.Redaction` — the public copy of a payload, and what it leaves in

`redacted_public_copy` recurses through objects and through the objects that are items of
an array, and copies every other item as it is; `_walk_keys` goes through arrays in arrays
as well.  `withoutBanned` is what both are about: the payload without the banned entries,
at any depth.

`redaction_complete_iff`: the copy is clean, and is the payload without its banned
entries, exactly when the payload is an object and no array that is an item of an array
has a banned key in it.
-/
import ImpactRelay.Agents.Privacy

namespace ImpactRelay

/-! ## The copy -/

/-- `type(payload).__name__`. -/
def jsonTypeName : Json → String
  | .null => "NoneType"
  | .bool _ => "bool"
  | .num _ => "int"
  | .float _ => "float"
  | .str _ => "str"
  | .arr _ => "list"
  | .obj _ => "dict"

mutual

/-- The entries of the copy of an object. -/
def redactedFields : List (String × Json) → List (String × Json)
  | [] => []
  | (key, value) :: fields =>
      if key ∈ publicBannedKeys then redactedFields fields
      else (key, redactedValue value) :: redactedFields fields

def redactedValue : Json → Json
  | .obj fields => .obj (redactedFields fields)
  | .arr items => .arr (redactedItems items)
  | value => value

/-- Only an item that is an object is looked into. -/
def redactedItems : List Json → List Json
  | [] => []
  | .obj fields :: items => .obj (redactedFields fields) :: redactedItems items
  | value :: items => value :: redactedItems items

end

/-- The payload has to have `items`. -/
def redactedPublicCopy (payload : Json) : Except PyExc Json :=
  match payload with
  | .obj fields => .ok (.obj (redactedFields fields))
  | _ => .error ⟨.attributeError,
      "'" ++ jsonTypeName payload ++ "' object has no attribute 'items'"⟩

/-! ## What it is for -/

mutual

/-- The value with exactly the banned entries removed, at any depth. -/
def withoutBanned : Json → Json
  | .obj fields => .obj (fieldsWithoutBanned fields)
  | .arr items => .arr (itemsWithoutBanned items)
  | value => value

def fieldsWithoutBanned : List (String × Json) → List (String × Json)
  | [] => []
  | (key, value) :: fields =>
      if key ∈ publicBannedKeys then fieldsWithoutBanned fields
      else (key, withoutBanned value) :: fieldsWithoutBanned fields

def itemsWithoutBanned : List Json → List Json
  | [] => []
  | value :: items => withoutBanned value :: itemsWithoutBanned items

end

mutual

/-- Nothing banned is left. -/
theorem walkKeys_withoutBanned : ∀ (path : String) (value : Json),
    walkKeys path (withoutBanned value) = []
  | path, .obj fields => by
      rw [withoutBanned, walkKeys]
      exact walkFields_withoutBanned path fields
  | path, .arr items => by
      rw [withoutBanned, walkKeys]
      exact walkItems_withoutBanned path 0 items
  | _, .null => rfl
  | _, .bool _ => rfl
  | _, .num _ => rfl
  | _, .float _ => rfl
  | _, .str _ => rfl

theorem walkFields_withoutBanned : ∀ (path : String) (fields : List (String × Json)),
    walkFields path (fieldsWithoutBanned fields) = []
  | _, [] => rfl
  | path, (key, value) :: fields => by
      rw [fieldsWithoutBanned]
      split
      · exact walkFields_withoutBanned path fields
      · rename_i hkey
        rw [walkFields, if_neg hkey, walkKeys_withoutBanned _ value,
          walkFields_withoutBanned path fields]
        rfl

theorem walkItems_withoutBanned : ∀ (path : String) (i : Nat) (items : List Json),
    walkItems path i (itemsWithoutBanned items) = []
  | _, _, [] => rfl
  | path, i, value :: items => by
      rw [itemsWithoutBanned, walkItems, walkKeys_withoutBanned _ value,
        walkItems_withoutBanned path (i + 1) items]
      rfl

end

mutual

/-- Where nothing is banned nothing is removed. -/
theorem withoutBanned_of_walkKeys : ∀ (path : String) (value : Json),
    walkKeys path value = [] → withoutBanned value = value
  | path, .obj fields, h => by
      rw [walkKeys] at h
      rw [withoutBanned, fieldsWithoutBanned_of_walkFields path fields h]
  | path, .arr items, h => by
      rw [walkKeys] at h
      rw [withoutBanned, itemsWithoutBanned_of_walkItems path 0 items h]
  | _, .null, _ => rfl
  | _, .bool _, _ => rfl
  | _, .num _, _ => rfl
  | _, .float _, _ => rfl
  | _, .str _, _ => rfl

theorem fieldsWithoutBanned_of_walkFields : ∀ (path : String) (fields : List (String × Json)),
    walkFields path fields = [] → fieldsWithoutBanned fields = fields
  | _, [], _ => rfl
  | path, (key, value) :: fields, h => by
      rw [walkFields] at h
      obtain ⟨hentry, hrest⟩ := List.append_eq_nil_iff.mp h
      obtain ⟨hkey, hvalue⟩ := List.append_eq_nil_iff.mp hentry
      have hallowed : key ∉ publicBannedKeys := by
        intro hbanned
        rw [if_pos hbanned] at hkey
        exact nomatch hkey
      rw [fieldsWithoutBanned, if_neg hallowed, withoutBanned_of_walkKeys _ value hvalue,
        fieldsWithoutBanned_of_walkFields path fields hrest]

theorem itemsWithoutBanned_of_walkItems : ∀ (path : String) (i : Nat) (items : List Json),
    walkItems path i items = [] → itemsWithoutBanned items = items
  | _, _, [], _ => rfl
  | path, i, value :: items, h => by
      rw [walkItems] at h
      obtain ⟨hvalue, hrest⟩ := List.append_eq_nil_iff.mp h
      rw [itemsWithoutBanned, withoutBanned_of_walkKeys _ value hvalue,
        itemsWithoutBanned_of_walkItems path (i + 1) items hrest]

end

/-- The scanner finds something exactly where there is something to remove, under whatever
name it starts. -/
theorem walkKeys_eq_nil_iff {path : String} {value : Json} :
    walkKeys path value = [] ↔ withoutBanned value = value := by
  refine ⟨withoutBanned_of_walkKeys path value, fun h => ?_⟩
  rw [← h]
  exact walkKeys_withoutBanned path value

/-! ## Where the copy stops -/

/-- A value that stands in another at any depth, outside its banned entries. -/
inductive Kept : Json → Json → Prop
  | self {value : Json} : Kept value value
  | entry {fields : List (String × Json)} {key : String} {value inner : Json} :
      (key, value) ∈ fields → key ∉ publicBannedKeys → Kept value inner → Kept (.obj fields) inner
  | item {items : List Json} {value inner : Json} :
      value ∈ items → Kept value inner → Kept (.arr items) inner

/-- An array that is an item of an array has no banned key in it. -/
def NestedClean (payload : Json) : Prop :=
  ∀ outer inner, Kept payload (.arr outer) → .arr inner ∈ outer → walkKeys "$" (.arr inner) = []

theorem walkKeys_path {path path' : String} {value : Json} (h : walkKeys path value = []) :
    walkKeys path' value = [] :=
  walkKeys_eq_nil_iff.mpr (walkKeys_eq_nil_iff.mp h)

theorem walkFields_mem {path : String} : ∀ {fields : List (String × Json)},
    walkFields path fields = [] → ∀ key value, (key, value) ∈ fields → walkKeys "$" value = []
  | [], _, _, _, hmem => nomatch hmem
  | (k, v) :: fields, h, key, value, hmem => by
      rw [walkFields] at h
      obtain ⟨hentry, hrest⟩ := List.append_eq_nil_iff.mp h
      rcases List.mem_cons.mp hmem with heq | hmem
      · obtain ⟨rfl, rfl⟩ := Prod.mk.inj heq
        exact walkKeys_path (List.append_eq_nil_iff.mp hentry).2
      · exact walkFields_mem hrest key value hmem

theorem walkItems_mem {path : String} : ∀ {i : Nat} {items : List Json},
    walkItems path i items = [] → ∀ value ∈ items, walkKeys "$" value = []
  | _, [], _, _, hmem => nomatch hmem
  | i, v :: items, h, value, hmem => by
      rw [walkItems] at h
      obtain ⟨hvalue, hrest⟩ := List.append_eq_nil_iff.mp h
      rcases List.mem_cons.mp hmem with rfl | hmem
      · exact walkKeys_path hvalue
      · exact walkItems_mem hrest value hmem

/-- What stands in a clean value is clean. -/
theorem Kept.walkKeys {value inner : Json} (h : Kept value inner)
    (hclean : walkKeys "$" value = []) : ImpactRelay.walkKeys "$" inner = [] := by
  induction h with
  | self => exact hclean
  | entry hmem _ _ ih =>
      rw [ImpactRelay.walkKeys] at hclean
      exact ih (walkFields_mem hclean _ _ hmem)
  | item hmem _ ih =>
      rw [ImpactRelay.walkKeys] at hclean
      exact ih (walkItems_mem hclean _ hmem)

theorem nestedClean_of_walkKeys {value : Json} (h : walkKeys "$" value = []) :
    NestedClean value := by
  intro outer inner hkept hmem
  have houter := hkept.walkKeys h
  rw [walkKeys] at houter
  exact walkItems_mem houter _ hmem

/-! ## What has no entries and no items -/

theorem nestedClean_obj {fields : List (String × Json)} : NestedClean (.obj fields) ↔
    ∀ key value, (key, value) ∈ fields → key ∉ publicBannedKeys → NestedClean value := by
  constructor
  · intro h key value hmem hkey outer inner hkept
    exact h outer inner (.entry hmem hkey hkept)
  · intro h outer inner hkept
    cases hkept with
    | entry hmem hkey hkept => exact h _ _ hmem hkey outer inner hkept

theorem nestedClean_arr {items : List Json} : NestedClean (.arr items) ↔
    ∀ value ∈ items, (∀ inner, value = .arr inner → walkKeys "$" value = []) ∧
      NestedClean value := by
  constructor
  · intro h value hmem
    refine ⟨fun inner hinner => ?_, fun outer inner hkept => h outer inner (.item hmem hkept)⟩
    rw [hinner]
    exact h items inner .self (hinner ▸ hmem)
  · intro h outer inner hkept hmem
    cases hkept with
    | self => exact (h _ hmem).1 inner rfl
    | item hvalue hkept => exact (h _ hvalue).2 outer inner hkept hmem

theorem nestedClean_obj_cons {key : String} {value : Json} {fields : List (String × Json)} :
    NestedClean (.obj ((key, value) :: fields)) ↔
      (key ∉ publicBannedKeys → NestedClean value) ∧ NestedClean (.obj fields) := by
  rw [nestedClean_obj, nestedClean_obj]
  constructor
  · intro h
    exact ⟨h key value List.mem_cons_self, fun k v hmem => h k v (List.mem_cons_of_mem _ hmem)⟩
  · rintro ⟨hvalue, hrest⟩ k v hmem
    rcases List.mem_cons.mp hmem with heq | hmem
    · obtain ⟨rfl, rfl⟩ := Prod.mk.inj heq
      exact hvalue
    · exact hrest k v hmem

theorem nestedClean_arr_cons {value : Json} {items : List Json} :
    NestedClean (.arr (value :: items)) ↔
      ((∀ inner, value = .arr inner → walkKeys "$" value = []) ∧ NestedClean value) ∧
        NestedClean (.arr items) := by
  rw [nestedClean_arr, nestedClean_arr]
  exact List.forall_mem_cons

/-- A value that is neither an object nor an array. -/
theorem nestedClean_scalar {value : Json} (hobj : ∀ fields, value ≠ .obj fields)
    (harr : ∀ items, value ≠ .arr items) : NestedClean value := by
  intro outer inner hkept
  cases hkept with
  | self => exact absurd rfl (harr outer)
  | entry => exact absurd rfl (hobj _)
  | item => exact absurd rfl (harr _)

/-! ## The copy against its purpose -/

/-- What becomes of an item. -/
def redactedItem : Json → Json
  | .obj fields => .obj (redactedFields fields)
  | value => value

theorem redactedItems_cons (value : Json) (items : List Json) :
    redactedItems (value :: items) = redactedItem value :: redactedItems items := by
  cases value <;> rfl

mutual

theorem redactedFields_eq_iff : ∀ fields : List (String × Json),
    redactedFields fields = fieldsWithoutBanned fields ↔ NestedClean (.obj fields)
  | [] => iff_of_true rfl (nestedClean_obj.mpr fun key value hmem => nomatch hmem)
  | (key, value) :: fields => by
      rw [redactedFields, fieldsWithoutBanned, nestedClean_obj_cons, ← redactedFields_eq_iff fields]
      by_cases hbanned : key ∈ publicBannedKeys
      · rw [if_pos hbanned, if_pos hbanned]
        exact ⟨fun h => ⟨fun hkey => absurd hbanned hkey, h⟩, fun h => h.2⟩
      · rw [if_neg hbanned, if_neg hbanned, List.cons.injEq, Prod.mk.injEq,
          redactedValue_eq_iff value]
        exact ⟨fun h => ⟨fun _ => h.1.2, h.2⟩, fun h => ⟨⟨rfl, h.1 hbanned⟩, h.2⟩⟩

theorem redactedValue_eq_iff : ∀ value : Json,
    redactedValue value = withoutBanned value ↔ NestedClean value
  | .obj fields => by
      rw [redactedValue, withoutBanned, Json.obj.injEq]
      exact redactedFields_eq_iff fields
  | .arr items => by
      rw [redactedValue, withoutBanned, Json.arr.injEq]
      exact redactedItems_eq_iff items
  | .null => iff_of_true rfl (nestedClean_scalar nofun nofun)
  | .bool _ => iff_of_true rfl (nestedClean_scalar nofun nofun)
  | .num _ => iff_of_true rfl (nestedClean_scalar nofun nofun)
  | .float _ => iff_of_true rfl (nestedClean_scalar nofun nofun)
  | .str _ => iff_of_true rfl (nestedClean_scalar nofun nofun)

theorem redactedItem_eq_iff : ∀ value : Json, redactedItem value = withoutBanned value ↔
    (∀ inner, value = .arr inner → walkKeys "$" value = []) ∧ NestedClean value
  | .obj fields => by
      rw [redactedItem, withoutBanned, Json.obj.injEq, redactedFields_eq_iff fields]
      exact (and_iff_right nofun).symm
  | .arr inner => by
      -- it is copied as it is
      show Json.arr inner = withoutBanned (.arr inner) ↔ _
      rw [eq_comm, ← @walkKeys_eq_nil_iff "$" (.arr inner)]
      exact ⟨fun h => ⟨fun _ _ => h, nestedClean_of_walkKeys h⟩, fun h => h.1 inner rfl⟩
  | .null => iff_of_true rfl ⟨nofun, nestedClean_scalar nofun nofun⟩
  | .bool _ => iff_of_true rfl ⟨nofun, nestedClean_scalar nofun nofun⟩
  | .num _ => iff_of_true rfl ⟨nofun, nestedClean_scalar nofun nofun⟩
  | .float _ => iff_of_true rfl ⟨nofun, nestedClean_scalar nofun nofun⟩
  | .str _ => iff_of_true rfl ⟨nofun, nestedClean_scalar nofun nofun⟩

theorem redactedItems_eq_iff : ∀ items : List Json,
    redactedItems items = itemsWithoutBanned items ↔ NestedClean (.arr items)
  | [] => iff_of_true rfl (nestedClean_arr.mpr fun value hmem => nomatch hmem)
  | value :: items => by
      rw [redactedItems_cons, itemsWithoutBanned, List.cons.injEq, redactedItem_eq_iff value,
        redactedItems_eq_iff items, nestedClean_arr_cons]

end

/-- The copy is clean, and is the payload with exactly the banned entries removed. -/
def RedactedCompletely (payload : Json) : Prop :=
  ∃ copy, redactedPublicCopy payload = .ok copy ∧ walkKeys "$" copy = [] ∧
    copy = withoutBanned payload

/-- Redaction is complete and minimal for the objects in which no array that is an item of
an array has a banned key. -/
theorem redaction_complete_iff (payload : Json) :
    RedactedCompletely payload ↔ (∃ fields, payload = .obj fields) ∧ NestedClean payload := by
  cases payload with
  | obj fields =>
      have hcopy : RedactedCompletely (.obj fields) ↔
          redactedFields fields = fieldsWithoutBanned fields := by
        constructor
        · rintro ⟨copy, hcopy, -, rfl⟩
          exact Json.obj.inj (Except.ok.inj hcopy)
        · intro heq
          have hpurpose : Json.obj (redactedFields fields) = withoutBanned (.obj fields) := by
            rw [withoutBanned, heq]
          refine ⟨_, rfl, ?_, hpurpose⟩
          rw [hpurpose]
          exact walkKeys_withoutBanned "$" _
      rw [hcopy, redactedFields_eq_iff]
      exact (and_iff_right ⟨fields, rfl⟩).symm
  | _ => exact iff_of_false (fun ⟨_, h, _⟩ => nomatch h) (fun ⟨⟨_, h⟩, _⟩ => nomatch h)

/-- An email address in an array of arrays. -/
theorem nested_email_kept : ¬ ∀ fields, RedactedCompletely (.obj fields) := by
  intro h
  obtain ⟨copy, hcopy, hclean, -⟩ :=
    h [("rows", .arr [.arr [.obj [("email", .str "a@b")]]])]
  obtain rfl := Except.ok.inj hcopy
  exact nomatch hclean

end ImpactRelay
