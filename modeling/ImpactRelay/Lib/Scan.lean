/-
# `Lib.Scan` — reading matches out of a window of rows

A listing that limits the rows it asks for and then leaves out what does not match sees a
window of the rows only.  Two loops that collect matches up to a limit, with what they
collect (`scanUntil_eq`, `scanMatches_eq`), and when the window was wide enough
(`length_scanUntil_iff`, `length_scanMatches_iff`): as many matches as were asked for, or
all there are, stand within it.
-/
import Mathlib

namespace Scan

variable {α : Type} {p : α → Bool} {limit window : Nat} {rows : List α}

/-- Appends each match, and stops at the first row after which there are enough. -/
def scanUntil (p : α → Bool) (limit : Nat) : List α → List α → List α
  | found, [] => found
  | found, a :: rows =>
      let found := if p a then found ++ [a] else found
      if limit ≤ found.length then found else scanUntil p limit found rows

/-- Appends each match, and stops at the first match with which there are enough. -/
def scanMatches (p : α → Bool) (limit : Nat) : List α → List α → List α
  | found, [] => found
  | found, a :: rows =>
      if p a then
        if limit ≤ (found ++ [a]).length then found ++ [a]
        else scanMatches p limit (found ++ [a]) rows
      else scanMatches p limit found rows

/-- What each element gives, by all that stands before it. -/
def eachAfter {β : Type} (f : List α → α → List β) (before : List α) : List α → List β
  | [] => []
  | a :: as => f before a ++ eachAfter f (before ++ [a]) as

theorem eachAfter_eq {β : Type} {f : List α → α → List β} {before as : List α} :
    eachAfter f before as = as.zipIdx.flatMap fun e => f (before ++ as.take e.2) e.1 := by
  induction as generalizing before with
  | nil => rfl
  | cons a as ih =>
      rw [eachAfter, ih, List.zipIdx_cons', List.flatMap_cons, List.flatMap_map]
      simp

theorem take_of_more {n k : Nat} (h : k < n) (a : α) (as : List α) :
    (a :: as).take (n - k) = a :: as.take (n - (k + 1)) := by
  obtain ⟨d, hd⟩ : ∃ d, n - k = d + 1 := ⟨n - k - 1, by omega⟩
  rw [hd, List.take_succ_cons]
  congr 2
  omega

theorem scanUntil_eq : ∀ {found rows : List α}, found.length < limit →
    scanUntil p limit found rows = found ++ (rows.filter p).take (limit - found.length)
  | found, [], _ => by simp [scanUntil]
  | found, a :: rows, h => by
      rw [scanUntil]
      by_cases ha : p a = true
      · rw [if_pos ha, List.filter_cons_of_pos ha, take_of_more h]
        split
        · rename_i henough
          have hlast : limit - (found.length + 1) = 0 := by
            rw [List.length_append, List.length_singleton] at henough
            omega
          rw [hlast, List.take_zero]
        · rename_i hmore
          rw [scanUntil_eq (by omega), List.length_append, List.length_singleton,
            List.append_assoc]
          rfl
      · rw [if_neg ha, List.filter_cons_of_neg ha]
        rw [if_neg (by omega), scanUntil_eq h]

theorem scanMatches_eq : ∀ {found rows : List α}, found.length < limit →
    scanMatches p limit found rows = found ++ (rows.filter p).take (limit - found.length)
  | found, [], _ => by simp [scanMatches]
  | found, a :: rows, h => by
      rw [scanMatches]
      by_cases ha : p a = true
      · rw [if_pos ha, List.filter_cons_of_pos ha, take_of_more h]
        split
        · rename_i henough
          have hlast : limit - (found.length + 1) = 0 := by
            rw [List.length_append, List.length_singleton] at henough
            omega
          rw [hlast, List.take_zero]
        · rename_i hmore
          rw [scanMatches_eq (by omega), List.length_append, List.length_singleton,
            List.append_assoc]
          rfl
      · rw [if_neg ha, List.filter_cons_of_neg ha, scanMatches_eq h]

/-- Nothing is found that is not a row. -/
theorem mem_of_mem_scanUntil {a : α} : ∀ {found rows : List α},
    a ∈ scanUntil p limit found rows → a ∈ found ∨ a ∈ rows
  | _, [], h => Or.inl h
  | found, b :: rows, h => by
      have hmore : ∀ found', (a ∈ found' → a ∈ found ∨ a ∈ b :: rows) →
          a ∈ (if limit ≤ found'.length then found' else scanUntil p limit found' rows) →
          a ∈ found ∨ a ∈ b :: rows := by
        intro found' hfound hmem
        split at hmem
        · exact hfound hmem
        · rcases mem_of_mem_scanUntil hmem with hmem | hmem
          · exact hfound hmem
          · exact Or.inr (List.mem_cons_of_mem b hmem)
      rw [scanUntil] at h
      by_cases hb : p b = true
      · rw [if_pos hb] at h
        refine hmore _ (fun hmem => ?_) h
        rcases List.mem_append.mp hmem with hmem | hmem
        · exact Or.inl hmem
        · exact Or.inr (List.mem_singleton.mp hmem ▸ List.mem_cons_self)
      · rw [if_neg hb] at h
        exact hmore _ Or.inl h

/-- With a limit of nothing one row is looked at. -/
theorem scanUntil_zero : scanUntil p 0 [] rows = (rows.take 1).filter p := by
  cases rows with
  | nil => rfl
  | cons a rows =>
      rw [scanUntil]
      by_cases ha : p a = true
      · simp [ha]
      · simp [ha]

/-- As many matches as were asked for, or all there are, stand in the window; and where
nothing was asked for the first row is none. -/
def Reached (p : α → Bool) (limit window : Nat) (rows : List α) : Prop :=
  (limit = 0 → (rows.take 1).countP p = 0) ∧
    min limit (rows.countP p) ≤ (rows.take window).countP p

instance : Decidable (Reached p limit window rows) := inferInstanceAs (Decidable (_ ∧ _))

theorem countP_take_le (p : α → Bool) (n : Nat) (rows : List α) :
    (rows.take n).countP p ≤ rows.countP p :=
  (List.take_sublist n rows).countP_le

theorem min_countP_take_iff (hlimit : 0 < limit) :
    min limit ((rows.take window).countP p) = min limit (rows.countP p) ↔
      Reached p limit window rows := by
  have hle := countP_take_le p window rows
  rw [Reached]
  constructor
  · intro h
    exact ⟨fun h0 => absurd h0 (by omega), by omega⟩
  · rintro ⟨-, h⟩
    omega

/-- The loop over the window finds what a loop over all rows would exactly when the window
reaches far enough. -/
theorem length_scanUntil_iff (hwindow : 0 < window) :
    (scanUntil p limit [] (rows.take window)).length = min limit (rows.countP p) ↔
      Reached p limit window rows := by
  rcases Nat.eq_zero_or_pos limit with rfl | hlimit
  · have htake : (rows.take window).take 1 = rows.take 1 := by
      rw [List.take_take]
      congr 1
      omega
    rw [scanUntil_zero, htake, ← List.countP_eq_length_filter, Nat.zero_min, Reached]
    simp
  · rw [scanUntil_eq (by simpa using hlimit), List.nil_append, List.length_take,
      ← List.countP_eq_length_filter, List.length_nil, Nat.sub_zero]
    exact min_countP_take_iff hlimit

/-- … and so does the other loop, over a window of one row where nothing was asked for. -/
theorem length_scanMatches_iff (hwindow : limit = 0 → window = 1) :
    (scanMatches p limit [] (rows.take window)).length = min limit (rows.countP p) ↔
      Reached p limit window rows := by
  rcases Nat.eq_zero_or_pos limit with rfl | hlimit
  · rw [hwindow rfl, Nat.zero_min, Reached]
    cases rows with
    | nil => simp [scanMatches]
    | cons a rows =>
        rw [List.take_succ_cons, List.take_zero, scanMatches]
        by_cases ha : p a = true
        · simp [ha]
        · simp [ha, scanMatches]
  · rw [scanMatches_eq (by simpa using hlimit), List.nil_append, List.length_take,
      ← List.countP_eq_length_filter, List.length_nil, Nat.sub_zero]
    exact min_countP_take_iff hlimit

theorem mem_take_append_cons {before after : List α} {a : α} {n : Nat} (ha : a ∉ before) :
    a ∈ (before ++ a :: after).take n ↔ before.length < n := by
  by_cases hn : before.length < n
  · refine iff_of_true ?_ hn
    obtain ⟨d, hd⟩ : ∃ d, n - before.length = d + 1 := ⟨n - before.length - 1, by omega⟩
    rw [List.take_append, hd, List.take_succ_cons]
    exact List.mem_append_right _ List.mem_cons_self
  · refine iff_of_false (fun hmem => ha ?_) hn
    rw [List.take_append, Nat.sub_eq_zero_of_le (Nat.le_of_not_lt hn), List.take_zero,
      List.append_nil] at hmem
    exact List.mem_of_mem_take hmem

/-- A match is found when it stands in the window and few enough matches stand before it. -/
theorem mem_scanUntil_iff (hlimit : 0 < limit) {before after : List α} {a : α}
    (hfirst : a ∉ before) (ha : p a = true) :
    a ∈ scanUntil p limit [] ((before ++ a :: after).take window) ↔
      before.length < window ∧ before.countP p < limit := by
  rw [scanUntil_eq (by simpa using hlimit), List.nil_append, List.length_nil, Nat.sub_zero]
  by_cases hwindow : before.length < window
  · obtain ⟨d, hd⟩ : ∃ d, window - before.length = d + 1 := ⟨window - before.length - 1, by omega⟩
    have hbefore : before.take window = before := List.take_of_length_le (by omega)
    have hnot : a ∉ before.filter p := fun h => hfirst (List.mem_of_mem_filter h)
    rw [List.take_append, hbefore, hd, List.take_succ_cons, List.filter_append,
      List.filter_cons_of_pos ha, mem_take_append_cons hnot, ← List.countP_eq_length_filter]
    exact (and_iff_right hwindow).symm
  · refine iff_of_false (fun hmem => ?_) (fun h => hwindow h.1)
    exact hwindow ((mem_take_append_cons hfirst).mp
      (List.mem_of_mem_filter (List.mem_of_mem_take hmem)))

end Scan
