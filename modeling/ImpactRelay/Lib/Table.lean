/-
# `Lib.Table` — rows under a key of their own

A table files each row under a key that is part of the row, as a primary key or
an index built from a field is.  Every row found under a key has that key, so
what is known of a row by its key needs no invariant carried along.
-/
import ImpactRelay.Lib.Dict

structure Table {κ ν : Type} [DecidableEq κ] (key : ν → κ) where
  dict : Dict κ ν
  keyed : ∀ k v, dict.get? k = some v → key v = k

namespace Table

variable {κ ν : Type} [DecidableEq κ] {key : ν → κ}

def empty : Table key := ⟨.empty, fun _ _ h => nomatch h⟩

def find? (t : Table key) (k : κ) : Option ν := t.dict.get? k

/-- The rows, in the order their keys came in. -/
def rows (t : Table key) : List ν := t.dict.values

/-- The row in place of the one with its key, or as a new one. -/
def put (t : Table key) (row : ν) : Table key where
  dict := t.dict.set (key row) row
  keyed k v h := by
    rw [Dict.get?_set] at h
    split at h
    · rename_i heq
      rw [← Option.some.inj h, heq]
    · exact t.keyed k v h

theorem key_of_find? {t : Table key} {k : κ} {row : ν} (h : t.find? k = some row) : key row = k :=
  t.keyed k row h

@[simp] theorem find?_empty (k : κ) : (empty : Table key).find? k = none := rfl

@[simp] theorem find?_put (t : Table key) (row : ν) (k : κ) :
    (t.put row).find? k = if k = key row then some row else t.find? k :=
  Dict.get?_set t.dict (key row) k row

theorem find?_put_self (t : Table key) (row : ν) : (t.put row).find? (key row) = some row := by
  rw [find?_put, if_pos rfl]

theorem find?_put_ne {t : Table key} {row : ν} {k : κ} (h : k ≠ key row) :
    (t.put row).find? k = t.find? k := by
  rw [find?_put, if_neg h]

theorem mem_rows {t : Table key} {row : ν} : row ∈ t.rows ↔ t.find? (key row) = some row := by
  constructor
  · intro h
    obtain ⟨k, hk⟩ := Dict.mem_values.mp h
    rwa [show key row = k from t.keyed k row hk]
  · exact fun h => Dict.mem_values.mpr ⟨_, h⟩

/-- A row is known by its key. -/
theorem eq_of_key {t : Table key} {a b : ν} (ha : a ∈ t.rows) (hb : b ∈ t.rows)
    (h : key a = key b) : a = b :=
  Option.some.inj ((mem_rows.mp ha).symm.trans (h ▸ mem_rows.mp hb))

/-- The rows one after the other. -/
def putAll (t : Table key) (rows : List ν) : Table key := rows.foldl put t

theorem find?_putAll_of_not_mem {rows : List ν} {t : Table key} {k : κ}
    (h : ∀ row ∈ rows, key row ≠ k) : (t.putAll rows).find? k = t.find? k := by
  induction rows generalizing t with
  | nil => rfl
  | cons row rows ih =>
      obtain ⟨hrow, hrows⟩ := List.forall_mem_cons.mp h
      exact (ih hrows).trans (find?_put_ne (Ne.symm hrow))

theorem find?_putAll_of_mem {rows : List ν} {t : Table key} {row : ν}
    (hnodup : (rows.map key).Nodup) (h : row ∈ rows) : (t.putAll rows).find? (key row) = some row := by
  induction rows generalizing t with
  | nil => exact absurd h List.not_mem_nil
  | cons r rows ih =>
      obtain ⟨hr, hnodup⟩ := List.nodup_cons.mp hnodup
      rcases List.mem_cons.mp h with rfl | hmem
      · have hne : ∀ x ∈ rows, key x ≠ key row := fun x hx heq =>
          hr (List.mem_map.mpr ⟨x, hx, heq⟩)
        exact (find?_putAll_of_not_mem hne).trans (find?_put_self t row)
      · exact ih hnodup hmem

/-- The last row under a key is the one that is found. -/
theorem find?_putAll_last {before after : List ν} {t : Table key} {row : ν}
    (hlast : ∀ r ∈ after, key r ≠ key row) :
    (t.putAll (before ++ row :: after)).find? (key row) = some row := by
  rw [putAll, List.foldl_append, List.foldl_cons]
  exact (find?_putAll_of_not_mem hlast).trans (find?_put_self _ row)

/-- A key that some row has, some row is the last one to have. -/
theorem exists_last {rows : List ν} {k : κ} (h : ∃ row ∈ rows, key row = k) :
    ∃ before last after,
      rows = before ++ last :: after ∧ key last = k ∧ ∀ r ∈ after, key r ≠ k := by
  induction rows with
  | nil =>
      obtain ⟨row, hmem, -⟩ := h
      exact absurd hmem List.not_mem_nil
  | cons r rows ih =>
      by_cases hlater : ∃ row ∈ rows, key row = k
      · obtain ⟨before, last, after, heq, hlast, hafter⟩ := ih hlater
        exact ⟨r :: before, last, after, congrArg (r :: ·) heq, hlast, hafter⟩
      · have hnone : ∀ row ∈ rows, key row ≠ k := fun row hrow hkey => hlater ⟨row, hrow, hkey⟩
        obtain ⟨row, hmem, hkey⟩ := h
        obtain rfl : row = r := (List.mem_cons.mp hmem).resolve_right fun hrow =>
          hnone row hrow hkey
        exact ⟨[], row, rows, rfl, hkey, hnone⟩

theorem mem_rows_putAll {rows : List ν} {t : Table key} {row : ν}
    (h : row ∈ (t.putAll rows).rows) : row ∈ rows ∨ row ∈ t.rows := by
  induction rows generalizing t with
  | nil => exact Or.inr h
  | cons r rows ih =>
      rcases ih h with hmem | hmem
      · exact Or.inl (List.mem_cons_of_mem _ hmem)
      · rcases Dict.mem_values_set hmem with rfl | hmem
        · exact Or.inl List.mem_cons_self
        · exact Or.inr hmem

/-- `DELETE FROM t WHERE p`. -/
def deleteWhere (t : Table key) (p : ν → Bool) : Table key where
  dict := t.dict.filter fun row => !p row
  keyed k v h := by
    rw [Dict.get?_filter] at h
    exact t.keyed k v (Option.filter_eq_some_iff.mp h).1

theorem rows_deleteWhere (t : Table key) (p : ν → Bool) :
    (t.deleteWhere p).rows = t.rows.filter fun row => !p row :=
  Dict.values_filter _ _

theorem find?_deleteWhere_eq_none {t : Table key} {p : ν → Bool} (row : ν)
    (h : ∀ row', key row' = key row → p row' = true) : (t.deleteWhere p).find? (key row) = none := by
  cases hget : (t.deleteWhere p).find? (key row) with
  | none => rfl
  | some row' =>
      have hkey : key row' = key row := key_of_find? hget
      have hfind : (t.dict.get? (key row)).filter (fun row => !p row) = some row' :=
        (Dict.get?_filter _ t.dict _).symm.trans hget
      obtain ⟨-, hkept⟩ := Option.filter_eq_some_iff.mp hfind
      rw [h row' hkey] at hkept
      exact absurd hkept nofun

/-- Rows under new keys go to the end. -/
theorem rows_putAll {rows : List ν} {t : Table key} (hnodup : (rows.map key).Nodup)
    (hnew : ∀ row ∈ rows, t.find? (key row) = none) : (t.putAll rows).rows = t.rows ++ rows := by
  induction rows generalizing t with
  | nil => exact (List.append_nil _).symm
  | cons row rows ih =>
      obtain ⟨hrow, hnodup⟩ := List.nodup_cons.mp hnodup
      obtain ⟨hfresh, hrest⟩ := List.forall_mem_cons.mp hnew
      have hput : (t.put row).rows = t.rows ++ [row] :=
        Dict.values_set_of_not_mem (Dict.get?_eq_none.mp hfresh)
      show ((t.put row).putAll rows).rows = t.rows ++ row :: rows
      rw [ih hnodup fun r hr => ?_, hput, List.append_assoc]
      · rfl
      · rw [find?_put_ne fun heq => hrow (List.mem_map.mpr ⟨r, hr, heq⟩)]
        exact hrest r hr

theorem map_key_rows (t : Table key) : t.rows.map key = t.dict.keys := by
  rw [rows, Dict.values, Dict.keys, List.map_map]
  exact List.map_congr_left fun e he => t.keyed e.1 e.2 (Dict.get?_eq_some.mpr he)

theorem nodup_rows (t : Table key) : (t.rows.map key).Nodup := by
  rw [map_key_rows]
  exact t.dict.nodup

end Table
