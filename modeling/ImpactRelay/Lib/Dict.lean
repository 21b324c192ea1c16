/-
# `Lib.Dict` — insertion-ordered dictionaries

A finite map that remembers the order in which its keys were first set, as the
dictionaries of the scripting languages do: overwriting a key keeps its place,
a new key goes to the end, and a comprehension over the items keeps the order
of those that survive.  The keys are distinct by construction (`nodup`), so an
association list with a shadowed entry cannot be built.

Three groups of facts are used by the developments above this file:

  * lookup after `set` and `filter` (`get?_set`, `get?_filter`);
  * sums over the values (`sum`), which is how balances are stated — what a
    fresh key adds, what a filter removes, when two predicates give one sum;
  * many keys at once: `setAll` under fresh keys appends its values
    (`values_setAll_of_fresh`).
-/
import Mathlib

/-- An insertion-ordered dictionary: entries with distinct keys. -/
structure Dict (κ ν : Type) where
  entries : List (κ × ν)
  nodup : (entries.map Prod.fst).Nodup
deriving DecidableEq

namespace Dict

variable {κ ν : Type}

@[ext] theorem ext {d e : Dict κ ν} (h : d.entries = e.entries) : d = e := by
  cases d; cases e; cases h; rfl

def empty : Dict κ ν := ⟨[], List.nodup_nil⟩

instance : Inhabited (Dict κ ν) := ⟨empty⟩

def keys (d : Dict κ ν) : List κ := d.entries.map Prod.fst

def values (d : Dict κ ν) : List ν := d.entries.map Prod.snd

/-- The comprehension `{k: v for k, v in d.items() if p(v)}`. -/
def filter (p : ν → Bool) (d : Dict κ ν) : Dict κ ν where
  entries := d.entries.filter (fun e => p e.2)
  nodup := d.nodup.sublist (List.filter_sublist.map Prod.fst)

theorem values_filter (p : ν → Bool) (d : Dict κ ν) :
    (d.filter p).values = d.values.filter p := by
  simp only [values, filter, List.filter_map]
  rfl

instance : Membership κ (Dict κ ν) := ⟨fun d k => k ∈ d.keys⟩

theorem mem_def {k : κ} {d : Dict κ ν} : k ∈ d ↔ k ∈ d.keys := Iff.rfl

@[simp] theorem not_mem_empty (k : κ) : k ∉ (empty : Dict κ ν) := List.not_mem_nil

section Lookup

variable [DecidableEq κ]

def get? (d : Dict κ ν) (k : κ) : Option ν :=
  (d.entries.find? (fun e => e.1 = k)).map Prod.snd

instance (k : κ) (d : Dict κ ν) : Decidable (k ∈ d) :=
  inferInstanceAs (Decidable (k ∈ d.keys))

/-- With distinct keys the first entry under a key is its only one. -/
theorem find?_eq_some_of_nodup {k : κ} {v : ν} :
    ∀ {es : List (κ × ν)}, (es.map Prod.fst).Nodup → (k, v) ∈ es →
      es.find? (fun e => e.1 = k) = some (k, v)
  | [], _, h => absurd h List.not_mem_nil
  | e :: es, hn, h => by
      rw [List.map_cons, List.nodup_cons] at hn
      rcases List.mem_cons.mp h with rfl | h
      · simp
      · have hne : e.1 ≠ k := fun he =>
          hn.1 (he ▸ List.mem_map_of_mem (f := Prod.fst) h)
        simp only [List.find?_cons, hne, decide_false]
        exact find?_eq_some_of_nodup hn.2 h

theorem get?_eq_some {d : Dict κ ν} {k : κ} {v : ν} :
    d.get? k = some v ↔ (k, v) ∈ d.entries := by
  constructor
  · intro h
    obtain ⟨e, he, rfl⟩ := Option.map_eq_some_iff.mp h
    have hk : e.1 = k := by simpa using List.find?_some he
    exact hk ▸ List.mem_of_find?_eq_some he
  · intro h
    simp [get?, find?_eq_some_of_nodup d.nodup h]

theorem mem_iff_get? {d : Dict κ ν} {k : κ} : k ∈ d ↔ ∃ v, d.get? k = some v := by
  simp only [get?_eq_some, mem_def, keys, List.mem_map]
  constructor
  · rintro ⟨⟨_, v⟩, h, rfl⟩
    exact ⟨v, h⟩
  · rintro ⟨v, h⟩
    exact ⟨(k, v), h, rfl⟩

theorem get?_eq_none {d : Dict κ ν} {k : κ} : d.get? k = none ↔ k ∉ d := by
  rw [mem_iff_get?, ← Option.not_isSome_iff_eq_none, Option.isSome_iff_exists]

theorem mem_of_get? {d : Dict κ ν} {k : κ} {v : ν} (h : d.get? k = some v) : k ∈ d :=
  mem_iff_get?.mpr ⟨v, h⟩

/-- The order of the entries is no matter to a lookup. -/
theorem get?_of_perm {d e : Dict κ ν} (h : d.entries.Perm e.entries) (k : κ) :
    d.get? k = e.get? k := by
  refine Option.ext fun v => ?_
  rw [get?_eq_some, get?_eq_some]
  exact h.mem_iff

theorem mem_values {d : Dict κ ν} {v : ν} : v ∈ d.values ↔ ∃ k, d.get? k = some v := by
  simp only [get?_eq_some, values, List.mem_map]
  constructor
  · rintro ⟨⟨k, _⟩, h, rfl⟩
    exact ⟨k, h⟩
  · rintro ⟨k, h⟩
    exact ⟨(k, v), h, rfl⟩

@[simp] theorem get?_empty (k : κ) : (empty : Dict κ ν).get? k = none := rfl

theorem get?_filter (p : ν → Bool) (d : Dict κ ν) (k : κ) :
    (d.filter p).get? k = (d.get? k).filter p := by
  ext v
  rw [get?_eq_some, Option.filter_eq_some_iff, get?_eq_some]
  simp [filter]

theorem mem_of_mem_filter {p : ν → Bool} {d : Dict κ ν} {k : κ} (h : k ∈ d.filter p) : k ∈ d := by
  obtain ⟨v, hv⟩ := mem_iff_get?.mp h
  rw [get?_filter, Option.filter_eq_some_iff] at hv
  exact mem_of_get? hv.1

/-! ## Popping keys -/

/-- `for k in ks: d.pop(k, None)`. -/
def popAll (d : Dict κ ν) (ks : List κ) : Dict κ ν where
  entries := d.entries.filter (fun e => e.1 ∉ ks)
  nodup := d.nodup.sublist (List.filter_sublist.map Prod.fst)

theorem get?_popAll_eq_some {d : Dict κ ν} {ks : List κ} {k : κ} {v : ν} :
    (d.popAll ks).get? k = some v ↔ k ∉ ks ∧ d.get? k = some v := by
  rw [get?_eq_some, get?_eq_some, popAll, List.mem_filter]
  simp only [decide_eq_true_eq]
  exact And.comm

theorem get?_popAll_of_not_mem {d : Dict κ ν} {ks : List κ} {k : κ} (hk : k ∉ ks) :
    (d.popAll ks).get? k = d.get? k := by
  refine Option.ext fun v => ?_
  rw [get?_popAll_eq_some]
  exact and_iff_right hk

/-! ## Setting a key -/

/-- Overwrite in place, or append. -/
def setEntries (k : κ) (v : ν) : List (κ × ν) → List (κ × ν)
  | [] => [(k, v)]
  | e :: es => if e.1 = k then (k, v) :: es else e :: setEntries k v es

theorem setEntries_of_not_mem {k : κ} {v : ν} :
    ∀ {es : List (κ × ν)}, k ∉ es.map Prod.fst → setEntries k v es = es ++ [(k, v)]
  | [], _ => rfl
  | e :: es, h => by
      rw [List.map_cons, List.mem_cons, not_or] at h
      simp [setEntries, Ne.symm h.1, setEntries_of_not_mem h.2]

theorem map_fst_setEntries (k : κ) (v : ν) :
    ∀ es : List (κ × ν), (setEntries k v es).map Prod.fst =
      if k ∈ es.map Prod.fst then es.map Prod.fst else es.map Prod.fst ++ [k]
  | [] => by simp [setEntries]
  | e :: es => by
      by_cases he : e.1 = k
      · simp [setEntries, he]
      · have hk : k ≠ e.1 := fun h => he h.symm
        simp only [setEntries, if_neg he, List.map_cons, map_fst_setEntries k v es,
          List.mem_cons, hk, false_or]
        split <;> rfl

def set (d : Dict κ ν) (k : κ) (v : ν) : Dict κ ν where
  entries := setEntries k v d.entries
  nodup := by
    rw [map_fst_setEntries]
    split
    · exact d.nodup
    · next h =>
        refine List.nodup_append.mpr ⟨d.nodup, List.nodup_singleton k, ?_⟩
        intro a ha b hb hab
        exact h (List.mem_singleton.mp hb ▸ hab ▸ ha)

theorem entries_set_of_not_mem {d : Dict κ ν} {k : κ} {v : ν} (h : k ∉ d) :
    (d.set k v).entries = d.entries ++ [(k, v)] :=
  setEntries_of_not_mem h

theorem keys_set (d : Dict κ ν) (k : κ) (v : ν) :
    (d.set k v).keys = if k ∈ d then d.keys else d.keys ++ [k] :=
  map_fst_setEntries k v d.entries

theorem keys_prefix_set (d : Dict κ ν) (k : κ) (v : ν) : d.keys <+: (d.set k v).keys := by
  rw [keys_set]
  split
  · exact List.prefix_rfl
  · exact List.prefix_append _ _

@[simp] theorem mem_set {d : Dict κ ν} {k k' : κ} {v : ν} : k' ∈ d.set k v ↔ k' = k ∨ k' ∈ d := by
  rw [mem_def, keys_set]
  split
  · next h =>
      constructor
      · exact Or.inr
      · rintro (rfl | h')
        · exact h
        · exact h'
  · rw [List.mem_append, List.mem_singleton, or_comm]
    exact Iff.rfl

theorem find?_setEntries (k k' : κ) (v : ν) :
    ∀ es : List (κ × ν), ((setEntries k v es).find? (fun e => e.1 = k')).map Prod.snd =
      if k' = k then some v else (es.find? (fun e => e.1 = k')).map Prod.snd
  | [] => by
      by_cases h : k' = k
      · simp [setEntries, h]
      · simp [setEntries, h, Ne.symm h]
  | e :: es => by
      by_cases he : e.1 = k <;> by_cases h : k' = k
      · simp [setEntries, he, h]
      · simp [setEntries, he, h, Ne.symm h]
      · simp [setEntries, he, h, find?_setEntries k k v es]
      · by_cases hek : e.1 = k'
        · simp only [setEntries, if_neg h, List.find?_cons, hek, decide_true]
        · have := find?_setEntries k k' v es
          simp only [setEntries, if_neg he, List.find?_cons, hek, decide_false]
          exact this

theorem get?_set (d : Dict κ ν) (k k' : κ) (v : ν) :
    (d.set k v).get? k' = if k' = k then some v else d.get? k' :=
  find?_setEntries k k' v d.entries

@[simp] theorem get?_set_self (d : Dict κ ν) (k : κ) (v : ν) : (d.set k v).get? k = some v := by
  rw [get?_set, if_pos rfl]

theorem get?_set_ne {d : Dict κ ν} {k k' : κ} {v : ν} (h : k' ≠ k) :
    (d.set k v).get? k' = d.get? k' := by
  rw [get?_set, if_neg h]

theorem values_set_of_not_mem {d : Dict κ ν} {k : κ} {v : ν} (h : k ∉ d) :
    (d.set k v).values = d.values ++ [v] := by
  simp [values, entries_set_of_not_mem h]

/-- A value set among values of another kind is the only one of its kind. -/
theorem filter_values_set {d : Dict κ ν} {k : κ} {v : ν} {p : ν → Bool}
    (h : ∀ w ∈ d.values, p w = false) (hv : p v = true) : (d.set k v).values.filter p = [v] := by
  have hentries : ∀ es : List (κ × ν), (∀ w ∈ es.map Prod.snd, p w = false) →
      ((setEntries k v es).map Prod.snd).filter p = [v] := by
    intro es
    induction es with
    | nil => exact fun _ => List.filter_cons_of_pos hv
    | cons e es ih =>
        intro hes
        have hrest : ∀ w ∈ es.map Prod.snd, p w = false :=
          fun w hw => hes w (List.mem_cons_of_mem _ hw)
        rw [setEntries]
        split
        · rw [List.map_cons, List.filter_cons_of_pos hv]
          exact congrArg _ (List.filter_eq_nil_iff.mpr fun w hw => by simp [hrest w hw])
        · have he : ¬ p e.2 = true := by simp [hes e.2 List.mem_cons_self]
          rw [List.map_cons, List.filter_cons_of_neg he]
          exact ih hrest
  exact hentries d.entries h

theorem setEntries_self {k : κ} {v : ν} :
    ∀ {es : List (κ × ν)}, (es.map Prod.fst).Nodup → (k, v) ∈ es → setEntries k v es = es
  | [], _, h => absurd h List.not_mem_nil
  | e :: es, hn, h => by
      rw [List.map_cons, List.nodup_cons] at hn
      rcases List.mem_cons.mp h with rfl | h
      · simp [setEntries]
      · have hne : e.1 ≠ k := fun he => hn.1 (he ▸ List.mem_map_of_mem (f := Prod.fst) h)
        simp [setEntries, hne, setEntries_self hn.2 h]

theorem mem_values_set {d : Dict κ ν} {k : κ} {v w : ν} (h : w ∈ (d.set k v).values) :
    w = v ∨ w ∈ d.values := by
  obtain ⟨k', hk'⟩ := mem_values.mp h
  rw [get?_set] at hk'
  split at hk'
  · exact Or.inl (Option.some.inj hk').symm
  · exact Or.inr (mem_values.mpr ⟨k', hk'⟩)

/-- The entries of `d` are all in `d'`, with the same values. -/
def Kept (d d' : Dict κ ν) : Prop := ∀ k v, d.get? k = some v → d'.get? k = some v

theorem Kept.refl (d : Dict κ ν) : Kept d d := fun _ _ h => h

theorem Kept.trans {d₀ d₁ d₂ : Dict κ ν} (h : Kept d₀ d₁) (h' : Kept d₁ d₂) : Kept d₀ d₂ :=
  fun k v hk => h' k v (h k v hk)

/-- A new key disturbs nothing. -/
theorem Kept.set {d : Dict κ ν} {k : κ} (v : ν) (hk : k ∉ d) : Kept d (d.set k v) := by
  intro k' v' hk'
  by_cases heq : k' = k
  · rw [heq] at hk'
    exact absurd (mem_of_get? hk') hk
  · rw [get?_set_ne heq]
    exact hk'

/-- Equality of dictionaries, which ignores the order of the items. -/
def sameItems [DecidableEq ν] (d e : Dict κ ν) : Bool :=
  d.entries.all (fun x => e.get? x.1 = some x.2) && e.entries.all (fun x => d.get? x.1 = some x.2)

theorem sameItems_self [DecidableEq ν] (d : Dict κ ν) : d.sameItems d = true := by
  have hall : d.entries.all (fun x => d.get? x.1 = some x.2) = true :=
    List.all_eq_true.mpr fun x hx => decide_eq_true (get?_eq_some.mpr hx)
  rw [sameItems, hall]
  rfl

/-! ## Overwriting with the entries of another dictionary -/

/-- `for k, v in entries: d[k] = v`. -/
def update (d : Dict κ ν) (entries : List (κ × ν)) : Dict κ ν :=
  entries.foldl (fun d e => d.set e.1 e.2) d

/-- `dict(entries)`. -/
def ofList (entries : List (κ × ν)) : Dict κ ν := empty.update entries

@[simp] theorem update_cons (d : Dict κ ν) (e : κ × ν) (es : List (κ × ν)) :
    d.update (e :: es) = (d.set e.1 e.2).update es := rfl

/-- One order of the keys and one value under each of them. -/
theorem ext_of_keys {d e : Dict κ ν} (hkeys : d.keys = e.keys)
    (hget : ∀ k ∈ d, d.get? k = e.get? k) : d = e := by
  obtain ⟨des, hd⟩ := d
  obtain ⟨ees, he⟩ := e
  refine ext ?_
  show des = ees
  have hlen : des.length = ees.length := by
    simpa [keys] using congrArg List.length hkeys
  refine List.ext_getElem hlen fun i hi hi' => ?_
  have hfst : des[i].1 = ees[i].1 := by
    have h : (des.map Prod.fst)[i]? = (ees.map Prod.fst)[i]? := congrArg (fun ks : List κ => ks[i]?) hkeys
    simpa [List.getElem?_eq_getElem hi, List.getElem?_eq_getElem hi'] using h
  have hleft : (⟨des, hd⟩ : Dict κ ν).get? des[i].1 = some des[i].2 :=
    get?_eq_some.mpr (List.getElem_mem hi)
  have hright : (⟨ees, he⟩ : Dict κ ν).get? ees[i].1 = some ees[i].2 :=
    get?_eq_some.mpr (List.getElem_mem hi')
  have hsnd : some des[i].2 = some ees[i].2 := by
    rw [← hleft, ← hright, hget _ (mem_of_get? hleft), hfst]
  exact Prod.ext hfst (Option.some.inj hsnd)

theorem keys_update {es : List (κ × ν)} {d : Dict κ ν} (hes : (es.map Prod.fst).Nodup) :
    (d.update es).keys = d.keys ++ (es.map Prod.fst).filter (· ∉ d.keys) := by
  induction es generalizing d with
  | nil => exact (List.append_nil _).symm
  | cons e es ih =>
      rw [List.map_cons, List.nodup_cons] at hes
      rw [update_cons, ih hes.2, keys_set, List.map_cons, List.filter_cons]
      by_cases hmem : e.1 ∈ d
      · rw [if_pos hmem, if_neg (by simpa using mem_def.mp hmem)]
      · rw [if_neg hmem, if_pos (by simpa using mt mem_def.mpr hmem), List.append_assoc]
        refine congrArg (d.keys ++ e.1 :: ·) (List.filter_congr fun k hk => ?_)
        have hne : k ≠ e.1 := fun h => hes.1 (h ▸ hk)
        simp [hne]

theorem get?_update_of_not_mem {es : List (κ × ν)} {d : Dict κ ν} {k : κ}
    (hk : k ∉ es.map Prod.fst) : (d.update es).get? k = d.get? k := by
  induction es generalizing d with
  | nil => rfl
  | cons e es ih =>
      rw [List.map_cons, List.mem_cons, not_or] at hk
      rw [update_cons, ih hk.2, get?_set_ne hk.1]

theorem get?_update_of_mem {es : List (κ × ν)} {d : Dict κ ν} {k : κ} {v : ν}
    (hes : (es.map Prod.fst).Nodup) (hmem : (k, v) ∈ es) : (d.update es).get? k = some v := by
  induction es generalizing d with
  | nil => exact absurd hmem List.not_mem_nil
  | cons e es ih =>
      rw [List.map_cons, List.nodup_cons] at hes
      rw [update_cons]
      rcases List.mem_cons.mp hmem with rfl | hmem
      · rw [get?_update_of_not_mem hes.1, get?_set_self]
      · exact ih hes.2 hmem

/-- What is found afterwards was written, or was there and not overwritten. -/
theorem get?_update_cases {es : List (κ × ν)} {d : Dict κ ν} {k : κ} {v : ν}
    (h : (d.update es).get? k = some v) :
    (k, v) ∈ es ∨ k ∉ es.map Prod.fst ∧ d.get? k = some v := by
  induction es generalizing d with
  | nil => exact Or.inr ⟨List.not_mem_nil, h⟩
  | cons e es ih =>
      rw [update_cons] at h
      rcases ih h with hmem | ⟨hk, hget⟩
      · exact Or.inl (List.mem_cons_of_mem _ hmem)
      · by_cases hke : k = e.1
        · rw [hke, get?_set_self] at hget
          cases hget
          exact Or.inl (hke ▸ List.mem_cons_self)
        · rw [get?_set_ne hke] at hget
          exact Or.inr ⟨by simp [hke, hk], hget⟩

/-- A key under which one value is written, however often. -/
theorem get?_update_of_forall {es : List (κ × ν)} {d : Dict κ ν} {k : κ} {v : ν}
    (hmem : k ∈ es.map Prod.fst) (hval : ∀ w, (k, w) ∈ es → w = v) :
    (d.update es).get? k = some v := by
  induction es generalizing d with
  | nil => exact absurd hmem List.not_mem_nil
  | cons e es ih =>
      rw [update_cons]
      by_cases hlater : k ∈ es.map Prod.fst
      · exact ih hlater fun w hw => hval w (List.mem_cons_of_mem _ hw)
      · obtain rfl : k = e.1 := (List.mem_cons.mp hmem).resolve_right hlater
        rw [get?_update_of_not_mem hlater, get?_set_self, hval e.2 List.mem_cons_self]

/-- Overwriting an earlier state of a dictionary that has only grown since, with
all the entries it has now, gives what it is now. -/
theorem update_of_prefix {d e : Dict κ ν} (h : d.keys <+: e.keys) : d.update e.entries = e := by
  obtain ⟨rest, hrest⟩ := h
  have hkeys : (d.update e.entries).keys = e.keys := by
    have hnodup : (d.keys ++ rest).Nodup := hrest ▸ e.nodup
    rw [keys_update e.nodup, show e.entries.map Prod.fst = d.keys ++ rest from hrest.symm,
      List.filter_append, List.filter_eq_nil_iff.mpr (by simp), List.nil_append,
      List.filter_eq_self.mpr ?_, hrest]
    intro k hk
    simpa using fun hd => (List.nodup_append.mp hnodup).2.2 k hd k hk rfl
  refine ext_of_keys hkeys fun k hk => ?_
  obtain ⟨v, hv⟩ := mem_iff_get?.mp (mem_def.mpr (hkeys ▸ mem_def.mp hk))
  rw [hv, get?_update_of_mem e.nodup (get?_eq_some.mp hv)]

/-- Entries with distinct keys make a dictionary of just these. -/
theorem entries_ofList {es : List (κ × ν)} (hes : (es.map Prod.fst).Nodup) :
    (ofList es).entries = es := by
  have h : (empty : Dict κ ν).update (⟨es, hes⟩ : Dict κ ν).entries = ⟨es, hes⟩ :=
    update_of_prefix List.nil_prefix
  exact congrArg entries h

end Lookup

/-! ## Sums over the values -/

/-- `sum(f(v) for v in d.values() if p(v))`. -/
def sum (d : Dict κ ν) (p : ν → Bool) (f : ν → Int) : Int :=
  ((d.values.filter p).map f).sum

@[simp] theorem sum_empty (p : ν → Bool) (f : ν → Int) : (empty : Dict κ ν).sum p f = 0 := rfl

theorem sum_congr {d : Dict κ ν} {p q : ν → Bool} {f : ν → Int}
    (h : ∀ v ∈ d.values, p v = q v) : d.sum p f = d.sum q f := by
  rw [sum, sum, List.filter_congr h]

theorem sum_nonneg {d : Dict κ ν} {p : ν → Bool} {f : ν → Int}
    (h : ∀ v ∈ d.values, 0 ≤ f v) : 0 ≤ d.sum p f := by
  refine List.sum_nonneg fun x hx => ?_
  obtain ⟨v, hv, rfl⟩ := List.mem_map.mp hx
  exact h v (List.mem_of_mem_filter hv)

theorem list_sum_filter_le {p q : ν → Bool} {f : ν → Int} :
    ∀ {vs : List ν}, (∀ v ∈ vs, 0 ≤ f v) → (∀ v ∈ vs, p v = true → q v = true) →
      ((vs.filter p).map f).sum ≤ ((vs.filter q).map f).sum
  | [], _, _ => le_refl _
  | v :: vs, hf, hpq => by
      have ih := list_sum_filter_le (fun w hw => hf w (List.mem_cons_of_mem _ hw))
        (fun w hw => hpq w (List.mem_cons_of_mem _ hw))
      have hv := hf v List.mem_cons_self
      cases hp : p v with
      | true =>
          have hq := hpq v List.mem_cons_self hp
          simpa [List.filter_cons, hp, hq] using ih
      | false =>
          cases hq : q v with
          | true =>
              simp only [List.filter_cons, hp, hq, Bool.false_eq_true, if_false, if_true,
                List.map_cons, List.sum_cons]
              omega
          | false => simpa [List.filter_cons, hp, hq] using ih

/-- A stronger predicate sums less, over values that are not negative. -/
theorem sum_le_sum {d : Dict κ ν} {p q : ν → Bool} {f : ν → Int}
    (hf : ∀ v ∈ d.values, 0 ≤ f v) (hpq : ∀ v ∈ d.values, p v = true → q v = true) :
    d.sum p f ≤ d.sum q f :=
  list_sum_filter_le hf hpq

theorem list_sum_filter_or {p q : ν → Bool} {f : ν → Int} :
    ∀ {vs : List ν}, (∀ v ∈ vs, ¬ (p v = true ∧ q v = true)) →
      ((vs.filter (fun v => p v || q v)).map f).sum =
        ((vs.filter p).map f).sum + ((vs.filter q).map f).sum
  | [], _ => rfl
  | v :: vs, h => by
      have ih := list_sum_filter_or (p := p) (q := q) (f := f)
        (fun w hw => h w (List.mem_cons_of_mem _ hw))
      have hv := h v List.mem_cons_self
      cases hp : p v <;> cases hq : q v
      · simpa [List.filter_cons, hp, hq] using ih
      · simp only [List.filter_cons, hp, hq, Bool.false_or, if_true, List.map_cons,
          List.sum_cons, Bool.false_eq_true, if_false, ih]
        omega
      · simp only [List.filter_cons, hp, hq, Bool.true_or, if_true, List.map_cons,
          List.sum_cons, Bool.false_eq_true, if_false, ih]
        omega
      · exact absurd ⟨hp, hq⟩ hv

/-- Two predicates that exclude each other split a sum. -/
theorem sum_or {d : Dict κ ν} {p q : ν → Bool} {f : ν → Int}
    (h : ∀ v ∈ d.values, ¬ (p v = true ∧ q v = true)) :
    d.sum (fun v => p v || q v) f = d.sum p f + d.sum q f :=
  list_sum_filter_or h

theorem sum_eq_zero {d : Dict κ ν} {p : ν → Bool} {f : ν → Int}
    (h : ∀ v ∈ d.values, p v = false) : d.sum p f = 0 := by
  have : d.values.filter p = [] := List.filter_eq_nil_iff.mpr (fun v hv => by simp [h v hv])
  simp [sum, this]

theorem sum_filter (d : Dict κ ν) (p q : ν → Bool) (f : ν → Int) :
    (d.filter p).sum q f = d.sum (fun v => p v && q v) f := by
  simp only [sum, values_filter, List.filter_filter]
  simp only [Bool.and_comm]

theorem sum_set_of_not_mem [DecidableEq κ] {d : Dict κ ν} {k : κ} {v : ν} (h : k ∉ d)
    (p : ν → Bool) (f : ν → Int) :
    (d.set k v).sum p f = d.sum p f + if p v then f v else 0 := by
  simp only [sum, values_set_of_not_mem h, List.filter_append, List.map_append, List.sum_append]
  cases hp : p v <;> simp [hp]

theorem list_sum_setEntries_le [DecidableEq κ] {k : κ} {v : ν} {p : ν → Bool} {f : ν → Int} :
    ∀ {es : List (κ × ν)}, (∀ e ∈ es, 0 ≤ f e.2) →
      ((((setEntries k v es).map Prod.snd).filter p).map f).sum ≤
        (((es.map Prod.snd).filter p).map f).sum + if p v then f v else 0
  | [], _ => by
      rw [setEntries]
      cases hp : p v <;> simp [hp]
  | e :: es, hf => by
      have ih := list_sum_setEntries_le (k := k) (v := v) (p := p)
        fun e he => hf e (List.mem_cons_of_mem _ he)
      have he := hf e List.mem_cons_self
      rw [setEntries]
      split
      · cases hp : p v <;> cases hpe : p e.2 <;> simp [hp, hpe] <;> omega
      · cases hpe : p e.2
        · simpa [List.filter_cons, hpe] using ih
        · simp only [List.map_cons, List.filter_cons, hpe, if_true, List.sum_cons]
          omega

/-- What is overwritten only makes a sum smaller, over values that are not negative. -/
theorem sum_set_le [DecidableEq κ] {d : Dict κ ν} {f : ν → Int} (hf : ∀ v ∈ d.values, 0 ≤ f v)
    (k : κ) (v : ν) (p : ν → Bool) :
    (d.set k v).sum p f ≤ d.sum p f + if p v then f v else 0 :=
  list_sum_setEntries_le fun _ he => hf _ (List.mem_map_of_mem he)

/-! ## Setting many keys -/

section Many

variable [DecidableEq κ]

/-- `for v in vs: d[key(v)] = v`. -/
def setAll (d : Dict κ ν) (key : ν → κ) (vs : List ν) : Dict κ ν :=
  vs.foldl (fun acc v => acc.set (key v) v) d

/-- The keys of `vs` are new to `d` and pairwise distinct. -/
def FreshKeys (d : Dict κ ν) (key : ν → κ) (vs : List ν) : Prop :=
  (∀ v ∈ vs, key v ∉ d) ∧ (vs.map key).Nodup

@[simp] theorem setAll_nil (d : Dict κ ν) (key : ν → κ) : d.setAll key [] = d := rfl

@[simp] theorem setAll_cons (d : Dict κ ν) (key : ν → κ) (v : ν) (vs : List ν) :
    d.setAll key (v :: vs) = (d.set (key v) v).setAll key vs := rfl

theorem keys_prefix_setAll {key : ν → κ} {vs : List ν} {d : Dict κ ν} :
    d.keys <+: (d.setAll key vs).keys := by
  induction vs generalizing d with
  | nil => exact List.prefix_rfl
  | cons v vs ih => exact (keys_prefix_set d (key v) v).trans ih

theorem mem_values_setAll {key : ν → κ} {w : ν} {vs : List ν} {d : Dict κ ν}
    (h : w ∈ (d.setAll key vs).values) : w ∈ vs ∨ w ∈ d.values := by
  induction vs generalizing d with
  | nil => exact Or.inr h
  | cons v vs ih =>
      rcases ih h with h | h
      · exact Or.inl (List.mem_cons_of_mem _ h)
      · rcases mem_values_set h with rfl | h
        · exact Or.inl List.mem_cons_self
        · exact Or.inr h

theorem FreshKeys.filter {d : Dict κ ν} {key : ν → κ} {vs : List ν} (h : FreshKeys d key vs)
    (p : ν → Bool) : FreshKeys (d.filter p) key vs :=
  ⟨fun v hv hm => h.1 v hv (mem_of_mem_filter hm), h.2⟩

theorem FreshKeys.tail {d : Dict κ ν} {key : ν → κ} {v : ν} {vs : List ν}
    (h : FreshKeys d key (v :: vs)) : FreshKeys (d.set (key v) v) key vs := by
  obtain ⟨hnew, hnodup⟩ := h
  rw [List.map_cons, List.nodup_cons] at hnodup
  refine ⟨fun w hw hmem => ?_, hnodup.2⟩
  rcases mem_set.mp hmem with heq | hmem
  · exact hnodup.1 (heq ▸ List.mem_map_of_mem hw)
  · exact hnew w (List.mem_cons_of_mem _ hw) hmem

/-- Fresh keys go to the end, in order. -/
theorem values_setAll_of_fresh {key : ν → κ} :
    ∀ {vs : List ν} {d : Dict κ ν}, FreshKeys d key vs →
      (d.setAll key vs).values = d.values ++ vs
  | [], d, _ => (List.append_nil d.values).symm
  | v :: vs, d, h => by
      rw [setAll_cons, values_setAll_of_fresh h.tail,
        values_set_of_not_mem (h.1 v List.mem_cons_self), List.append_assoc]
      rfl

end Many

end Dict
