/-
# `Lib.Firsts` — the first of each key

A loop that remembers the keys it has met and passes over an element with one of
them works on `firsts`: the elements that are the first of their key.  No key comes
twice among them (`nodup_firstsFrom`) and none is left out (`exists_mem_firstsFrom`).
-/
import Mathlib

section Firsts

variable {α κ : Type} [DecidableEq κ] {key : α → κ} {seen : List κ} {as : List α} {a : α}

/-- The elements that are the first of a key not seen before. -/
def firstsFrom (key : α → κ) : List κ → List α → List α
  | _, [] => []
  | seen, a :: as =>
      if key a ∈ seen then firstsFrom key seen as
      else a :: firstsFrom key (key a :: seen) as

def firsts (key : α → κ) (as : List α) : List α := firstsFrom key [] as

theorem firstsFrom_sublist : (firstsFrom key seen as).Sublist as := by
  induction as generalizing seen with
  | nil => exact List.Sublist.refl []
  | cons a as ih =>
      rw [firstsFrom]
      split
      · exact ih.cons a
      · exact ih.cons_cons a

theorem mem_of_mem_firstsFrom (h : a ∈ firstsFrom key seen as) : a ∈ as ∧ key a ∉ seen := by
  induction as generalizing seen with
  | nil => exact absurd h List.not_mem_nil
  | cons b as ih =>
      rw [firstsFrom] at h
      split at h
      · obtain ⟨hmem, hnew⟩ := ih h
        exact ⟨List.mem_cons_of_mem b hmem, hnew⟩
      · rename_i hb
        rcases List.mem_cons.mp h with rfl | h
        · exact ⟨List.mem_cons_self, hb⟩
        · obtain ⟨hmem, hnew⟩ := ih h
          exact ⟨List.mem_cons_of_mem b hmem, fun hs => hnew (List.mem_cons_of_mem _ hs)⟩

theorem nodup_firstsFrom : ((firstsFrom key seen as).map key).Nodup := by
  induction as generalizing seen with
  | nil => exact List.nodup_nil
  | cons a as ih =>
      rw [firstsFrom]
      split
      · exact ih
      · refine List.nodup_cons.mpr ⟨fun h => ?_, ih⟩
        obtain ⟨b, hb, hkey⟩ := List.mem_map.mp h
        exact (mem_of_mem_firstsFrom hb).2 (hkey ▸ List.mem_cons_self)

theorem exists_mem_firstsFrom (h : a ∈ as) (hnew : key a ∉ seen) :
    ∃ b ∈ firstsFrom key seen as, key b = key a := by
  induction as generalizing seen with
  | nil => exact absurd h List.not_mem_nil
  | cons b as ih =>
      rw [firstsFrom]
      split
      · rename_i hb
        rcases List.mem_cons.mp h with rfl | h
        · exact absurd hb hnew
        · exact ih h hnew
      · by_cases hkey : key b = key a
        · exact ⟨b, List.mem_cons_self, hkey⟩
        · have hmem : a ∈ as := (List.mem_cons.mp h).resolve_left fun heq => hkey (heq ▸ rfl)
          have hnew' : key a ∉ key b :: seen := fun hs =>
            hnew ((List.mem_cons.mp hs).resolve_left fun heq => hkey heq.symm)
          obtain ⟨c, hc, heq⟩ := ih hmem hnew'
          exact ⟨c, List.mem_cons_of_mem b hc, heq⟩

end Firsts
