/-
# `Lib.PyValue` — values of a program, and what `json.dumps` makes of them

A payload is whatever a caller puts in it: besides what JSON can express, dictionaries
with keys that are no texts, and objects that JSON knows nothing of, which are written
by the `default` function of the call.  `encode` is `json.dumps`, read back by
`json.loads`: nothing when it raises, and otherwise the value with its fields in the
order in which they were written.  The rest of the file says of two ways to write,
one by the caller's own function and one by `str` with sorted keys, when each of them
raises and when they write the same.
-/
import ImpactRelay.Lib.SortedJson
import Mathlib

/-- A key of a dictionary.  A number (an int, a bool or a finite float) goes by its
value among keys, and JSON has its own text for it; a foreign key is one that JSON
refuses. -/
inductive PyKey where
  | text (s : String)
  | number (value : Rat) (s : String)
  | null
  | foreign
deriving DecidableEq

/-- A value.  A foreign object comes with what the caller's own function makes of it,
nothing when that raises, and with its `str`. -/
inductive PyVal where
  | null
  | bool (b : Bool)
  | int (n : Int)
  | float (s : String)
  | text (s : String)
  | list (items : List PyVal)
  | dict (entries : List (PyKey × PyVal))
  | foreign (converted : Option PyVal) (str : String)

namespace PyKey

/-- The key as JSON writes it. -/
def written : PyKey → Option String
  | text s => some s
  | number _ s => some s
  | null => some "null"
  | foreign => none

/-- The text that is written for the key, where one is. -/
def name (k : PyKey) : String := k.written.getD ""

def isText : PyKey → Bool
  | text _ => true
  | _ => false

def isNumber : PyKey → Bool
  | number _ _ => true
  | _ => false

/-- Two keys that no dictionary has both. -/
def clash : PyKey → PyKey → Bool
  | text s, text t => s = t
  | number a s, number b t => a = b || s = t
  | null, null => true
  | _, _ => false

/-- Two keys that sort by value as they do by text. -/
def agree : PyKey → PyKey → Bool
  | number a s, number b t => decide (a ≤ b → s ≤ t)
  | _, _ => true

/-- Texts before numbers before the rest: only keys of one kind are ever compared. -/
def rank : PyKey → Nat
  | text _ => 0
  | number _ _ => 1
  | null => 2
  | foreign => 3

/-- The order of keys. -/
def le : PyKey → PyKey → Bool
  | text s, text t => s ≤ t
  | number a _, number b _ => a ≤ b
  | a, b => a.rank ≤ b.rank

/-- Whether `sorted` compares the keys without raising. -/
def comparable (ks : List PyKey) : Bool :=
  ks.length ≤ 1 || ks.all isText || ks.all isNumber

/-! ## Sorting -/

theorem clash_symm {a b : PyKey} (h : a.clash b = false) : b.clash a = false := by
  cases a with
  | text s =>
      cases b with
      | text t => exact decide_eq_false fun heq => of_decide_eq_false h heq.symm
      | number | null | foreign => rfl
  | number x s =>
      cases b with
      | number y t =>
          obtain ⟨hvalue, htext⟩ := (Bool.or_eq_false_iff).mp h
          exact Bool.or_eq_false_iff.mpr
            ⟨decide_eq_false fun heq => of_decide_eq_false hvalue heq.symm,
              decide_eq_false fun heq => of_decide_eq_false htext heq.symm⟩
      | text | null | foreign => rfl
  | null =>
      cases b with
      | null => exact nomatch h
      | text | number | foreign => rfl
  | foreign =>
      cases b with
      | text | number | null | foreign => rfl

theorem le_trans (a b c : PyKey) (hab : a.le b = true) (hbc : b.le c = true) :
    a.le c = true := by
  cases a <;> cases b <;> cases c <;> simp_all [le, rank]
  · exact String.le_trans hab hbc
  · exact Rat.le_trans hab hbc

theorem le_total (a b : PyKey) : (a.le b || b.le a) = true := by
  cases a <;> cases b <;> simp [le, rank]
  · exact String.le_total _ _
  · exact Rat.le_total

theorem pairwise_le {α : Type} (fields : List (PyKey × α)) :
    (fields.mergeSort fun a b => a.1.le b.1).Pairwise fun a b => a.1.le b.1 = true :=
  List.pairwise_mergeSort (fun a b c => le_trans a.1 b.1 c.1) (fun a b => le_total a.1 b.1) fields

/-- What the comparable keys of a dictionary look like. -/
theorem comparable_cases {ks : List PyKey} (h : comparable ks = true) :
    ks = [] ∨ (∃ k, ks = [k]) ∨ (∀ k ∈ ks, ∃ s, k = text s) ∨ ∀ k ∈ ks, ∃ a s, k = number a s := by
  rw [comparable, Bool.or_eq_true, Bool.or_eq_true, decide_eq_true_eq] at h
  rcases h with (hlength | htext) | hnumber
  · match ks, hlength with
    | [], _ => exact .inl rfl
    | [k], _ => exact .inr (.inl ⟨k, rfl⟩)
  · refine .inr (.inr (.inl fun k hk => ?_))
    cases k with
    | text s => exact ⟨s, rfl⟩
    | number | null | foreign => exact nomatch List.all_eq_true.mp htext _ hk
  · refine .inr (.inr (.inr fun k hk => ?_))
    cases k with
    | number a s => exact ⟨a, s, rfl⟩
    | text | null | foreign => exact nomatch List.all_eq_true.mp hnumber _ hk

/-- Comparable keys of a dictionary are written as distinct texts. -/
theorem names_nodup {ks : List PyKey} (h : comparable ks = true)
    (hdistinct : ks.Pairwise fun a b => a.clash b = false) : (ks.map name).Nodup := by
  rw [List.Nodup, List.pairwise_map]
  rcases comparable_cases h with rfl | ⟨k, rfl⟩ | htext | hnumber
  · exact .nil
  · exact List.pairwise_singleton _ _
  · refine hdistinct.imp_of_mem fun ha hb hclash heq => ?_
    obtain ⟨s, rfl⟩ := htext _ ha
    obtain ⟨t, rfl⟩ := htext _ hb
    exact of_decide_eq_false hclash heq
  · refine hdistinct.imp_of_mem fun ha hb hclash heq => ?_
    obtain ⟨a, s, rfl⟩ := hnumber _ ha
    obtain ⟨b, t, rfl⟩ := hnumber _ hb
    rw [clash, Bool.or_eq_false_iff] at hclash
    exact of_decide_eq_false hclash.2 heq

/-- Two ways to write the keys of a dictionary in order: by value and by text. -/
theorem agree_iff {ks : List PyKey} (h : comparable ks = true)
    (hdistinct : ks.Pairwise fun a b => a.clash b = false)
    (hsorted : ks.Pairwise fun a b => a.le b = true) :
    (∀ a ∈ ks, ∀ b ∈ ks, a.agree b = true) ↔ ks.Pairwise fun a b => a.name ≤ b.name := by
  rcases comparable_cases h with rfl | ⟨k, rfl⟩ | htext | hnumber
  · exact iff_of_true (fun _ h => nomatch h) .nil
  · refine iff_of_true (fun a ha b hb => ?_) (List.pairwise_singleton _ _)
    rw [List.mem_singleton.mp ha, List.mem_singleton.mp hb]
    cases k with
    | number a s => exact decide_eq_true fun _ => String.le_refl s
    | text | null | foreign => rfl
  · refine iff_of_true (fun a ha b hb => ?_) (hsorted.imp_of_mem fun ha hb hle => ?_)
    · obtain ⟨s, rfl⟩ := htext a ha
      rfl
    · obtain ⟨s, rfl⟩ := htext _ ha
      obtain ⟨t, rfl⟩ := htext _ hb
      exact of_decide_eq_true hle
  · constructor
    · intro hagree
      refine hsorted.imp_of_mem fun ha hb hle => ?_
      have hkeys := hagree _ ha _ hb
      obtain ⟨a, s, rfl⟩ := hnumber _ ha
      obtain ⟨b, t, rfl⟩ := hnumber _ hb
      exact of_decide_eq_true hkeys (of_decide_eq_true hle)
    · intro hnames
      have hall : ks.Pairwise fun a b => a.agree b = true ∧ b.agree a = true := by
        refine ((hdistinct.and hsorted).and hnames).imp_of_mem fun ha hb hab => ?_
        obtain ⟨⟨hclash, hle⟩, hname⟩ := hab
        obtain ⟨a, s, rfl⟩ := hnumber _ ha
        obtain ⟨b, t, rfl⟩ := hnumber _ hb
        refine ⟨decide_eq_true fun _ => hname, decide_eq_true fun hba => ?_⟩
        rw [clash, Bool.or_eq_false_iff] at hclash
        exact absurd (Rat.le_antisymm (of_decide_eq_true hle) hba) (of_decide_eq_false hclash.1)
      intro a ha b hb
      refine (List.Pairwise.forall_of_forall_of_flip (fun k hk => ?_) hall
        (hall.imp And.symm) ha hb).1
      obtain ⟨a, s, rfl⟩ := hnumber _ hk
      exact ⟨decide_eq_true fun _ => String.le_refl s, decide_eq_true fun _ => String.le_refl s⟩

end PyKey

namespace PyVal

/-- How a call of `json.dumps` writes: whether it sorts keys, and whether `default` is
`str` or the caller's own function. -/
structure Options where
  sortKeys : Bool
  byStr : Bool

/-- The fields in the order in which they are written. -/
def orderFields (o : Options) (fields : List (PyKey × Json)) : Option (List (PyKey × Json)) :=
  if o.sortKeys then
    if PyKey.comparable (fields.map Prod.fst) then
      some (fields.mergeSort fun a b => a.1.le b.1)
    else none
  else some fields

/-- An object, written and read back: of two fields with one text the later stays. -/
def writeObject (o : Options) (fields : List (PyKey × Json)) : Option Json :=
  (orderFields o fields).bind fun ordered =>
    if ordered.all fun e => e.1.written.isSome then
      some (.obj (Json.merge [] (ordered.map fun e => (e.1.name, e.2))))
    else none

mutual

/-- `json.loads(json.dumps(value, …))`. -/
def encode (o : Options) : PyVal → Option Json
  | null => some .null
  | bool b => some (.bool b)
  | int n => some (.num n)
  | float s => some (.float s)
  | text s => some (.str s)
  | list items => (encodeItems o items).map .arr
  | dict entries => (encodeEntries o entries).bind (writeObject o)
  | foreign converted str => if o.byStr then some (.str str) else encodeConverted o converted

def encodeConverted (o : Options) : Option PyVal → Option Json
  | none => none
  | some v => encode o v

def encodeItems (o : Options) : List PyVal → Option (List Json)
  | [] => some []
  | v :: vs => (encode o v).bind fun j => (encodeItems o vs).map (j :: ·)

def encodeEntries (o : Options) : List (PyKey × PyVal) → Option (List (PyKey × Json))
  | [] => some []
  | (k, v) :: es => (encode o v).bind fun j => (encodeEntries o es).map ((k, j) :: ·)

end

/-- `json.dumps(value, default=…)` with the caller's function. -/
def byCaller : Options := { sortKeys := false, byStr := false }

/-- `json.dumps(value, sort_keys=True, default=str)`. -/
def bySort : Options := { sortKeys := true, byStr := true }

/-! ## When it raises -/

/-- The keys of a dictionary that can be written. -/
def keysWritable (o : Options) (ks : List PyKey) : Bool :=
  (!o.sortKeys || PyKey.comparable ks) && ks.all fun k => k.written.isSome

mutual

/-- A value that can be written. -/
def writable (o : Options) : PyVal → Bool
  | null => true
  | bool _ => true
  | int _ => true
  | float _ => true
  | text _ => true
  | list items => writableItems o items
  | dict entries => keysWritable o (entries.map Prod.fst) && writableEntries o entries
  | foreign converted _ => o.byStr || writableConverted o converted

def writableConverted (o : Options) : Option PyVal → Bool
  | none => false
  | some v => writable o v

def writableItems (o : Options) : List PyVal → Bool
  | [] => true
  | v :: vs => writable o v && writableItems o vs

def writableEntries (o : Options) : List (PyKey × PyVal) → Bool
  | [] => true
  | (_, v) :: es => writable o v && writableEntries o es

end

theorem keys_encodeEntries {o : Options} : ∀ {es : List (PyKey × PyVal)}
    {fields : List (PyKey × Json)}, encodeEntries o es = some fields →
    fields.map Prod.fst = es.map Prod.fst
  | [], _, h => by
      rw [← Option.some.inj h]
      rfl
  | (k, v) :: es, _, h => by
      obtain ⟨j, -, h⟩ := Option.bind_eq_some_iff.mp h
      obtain ⟨rest, hrest, rfl⟩ := Option.map_eq_some_iff.mp h
      rw [List.map_cons, List.map_cons, keys_encodeEntries hrest]

theorem isSome_writeObject (o : Options) (fields : List (PyKey × Json)) :
    (writeObject o fields).isSome = keysWritable o (fields.map Prod.fst) := by
  have hall : ∀ ordered : List (PyKey × Json), ordered.Perm fields →
      (ordered.all fun e => e.1.written.isSome) =
        (fields.map Prod.fst).all fun k => k.written.isSome := by
    intro ordered hperm
    rw [List.all_map]
    exact hperm.all_eq
  rw [writeObject, orderFields, keysWritable]
  cases o.sortKeys with
  | false =>
      rw [if_neg Bool.false_ne_true, Option.bind_some, hall _ (.refl _)]
      cases (fields.map Prod.fst).all fun k => k.written.isSome <;> rfl
  | true =>
      rw [if_pos rfl]
      cases PyKey.comparable (fields.map Prod.fst) with
      | false => rfl
      | true =>
          rw [if_pos rfl, Option.bind_some, hall _ (List.mergeSort_perm _ _)]
          cases (fields.map Prod.fst).all fun k => k.written.isSome <;> rfl

mutual

theorem isSome_encode (o : Options) : ∀ v : PyVal, (encode o v).isSome = writable o v
  | null => rfl
  | bool _ => rfl
  | int _ => rfl
  | float _ => rfl
  | text _ => rfl
  | list items => by
      rw [encode, writable, Option.isSome_map, isSome_encodeItems o items]
  | dict entries => by
      rw [encode, writable, ← isSome_encodeEntries o entries]
      cases h : encodeEntries o entries with
      | none => rw [Option.bind_none, Option.isSome_none, Option.isSome_none, Bool.and_false]
      | some fields =>
          rw [Option.bind_some, isSome_writeObject, keys_encodeEntries h, Option.isSome_some,
            Bool.and_true]
  | foreign converted _ => by
      rw [encode, writable]
      cases o.byStr with
      | true => rfl
      | false => rw [if_neg Bool.false_ne_true, Bool.false_or, isSome_encodeConverted o converted]

theorem isSome_encodeConverted (o : Options) : ∀ converted : Option PyVal,
    (encodeConverted o converted).isSome = writableConverted o converted
  | none => rfl
  | some v => isSome_encode o v

theorem isSome_encodeItems (o : Options) : ∀ vs : List PyVal,
    (encodeItems o vs).isSome = writableItems o vs
  | [] => rfl
  | v :: vs => by
      rw [encodeItems, writableItems, ← isSome_encode o v, ← isSome_encodeItems o vs]
      cases encode o v with
      | none => rfl
      | some j => rw [Option.bind_some, Option.isSome_map, Option.isSome_some, Bool.true_and]

theorem isSome_encodeEntries (o : Options) : ∀ es : List (PyKey × PyVal),
    (encodeEntries o es).isSome = writableEntries o es
  | [] => rfl
  | (k, v) :: es => by
      rw [encodeEntries, writableEntries, ← isSome_encode o v, ← isSome_encodeEntries o es]
      cases encode o v with
      | none => rfl
      | some j => rw [Option.bind_some, Option.isSome_map, Option.isSome_some, Bool.true_and]

end

/-! ## What is written -/

mutual

/-- No dictionary in the value has two keys that clash. -/
def distinct : PyVal → Bool
  | list items => distinctItems items
  | dict entries =>
      decide ((entries.map Prod.fst).Pairwise fun a b => a.clash b = false) &&
        distinctEntries entries
  | foreign converted _ => distinctConverted converted
  | _ => true

def distinctConverted : Option PyVal → Bool
  | none => true
  | some v => distinct v

def distinctItems : List PyVal → Bool
  | [] => true
  | v :: vs => distinct v && distinctItems vs

def distinctEntries : List (PyKey × PyVal) → Bool
  | [] => true
  | (_, v) :: es => distinct v && distinctEntries es

end

mutual

/-- The numbers among the keys of each dictionary sort by value as they do by text. -/
def ordered : PyVal → Bool
  | list items => orderedItems items
  | dict entries =>
      ((entries.map Prod.fst).all fun a => (entries.map Prod.fst).all fun b => a.agree b) &&
        orderedEntries entries
  | _ => true

def orderedItems : List PyVal → Bool
  | [] => true
  | v :: vs => ordered v && orderedItems vs

def orderedEntries : List (PyKey × PyVal) → Bool
  | [] => true
  | (_, v) :: es => ordered v && orderedEntries es

end

mutual

/-- What the caller's function makes of an object is written as this text. -/
def writtenAs (s : String) : PyVal → Bool
  | text t => t = s
  | foreign converted _ => convertedAs s converted
  | _ => false

def convertedAs (s : String) : Option PyVal → Bool
  | none => false
  | some v => writtenAs s v

end

mutual

/-- The caller's function makes of each object its `str`. -/
def alike : PyVal → Bool
  | list items => alikeItems items
  | dict entries => alikeEntries entries
  | foreign converted str => convertedAs str converted
  | _ => true

def alikeItems : List PyVal → Bool
  | [] => true
  | v :: vs => alike v && alikeItems vs

def alikeEntries : List (PyKey × PyVal) → Bool
  | [] => true
  | (_, v) :: es => alike v && alikeEntries es

end

mutual

theorem encode_eq_str {s : String} : ∀ {v : PyVal} {j : Json}, encode byCaller v = some j →
    (j.sorted = .str s ↔ writtenAs s v = true)
  | null, _, h | bool _, _, h | int _, _, h | float _, _, h => by
      rw [← Option.some.inj h]
      exact iff_of_false nofun nofun
  | text t, _, h => by
      rw [← Option.some.inj h]
      exact ⟨fun h => decide_eq_true (Json.str.inj h),
        fun h => congrArg Json.str (of_decide_eq_true h)⟩
  | list items, _, h => by
      obtain ⟨js, -, rfl⟩ := Option.map_eq_some_iff.mp h
      exact iff_of_false nofun nofun
  | dict entries, _, h => by
      obtain ⟨fields, -, h⟩ := Option.bind_eq_some_iff.mp h
      obtain ⟨ordered, -, h⟩ := Option.bind_eq_some_iff.mp h
      obtain ⟨-, h⟩ := Option.ite_none_right_eq_some.mp h
      rw [← Option.some.inj h]
      exact iff_of_false nofun nofun
  | foreign given _, _, h => encodeConverted_eq_str h

theorem encodeConverted_eq_str {s : String} : ∀ {given : Option PyVal} {j : Json},
    encodeConverted byCaller given = some j → (j.sorted = .str s ↔ convertedAs s given = true)
  | none, _, h => nomatch h
  | some _, _, h => encode_eq_str h

end

/-- The object that is written with sorted keys. -/
theorem writeObject_bySort {fields : List (PyKey × Json)} {j : Json}
    (h : writeObject bySort fields = some j)
    (hdistinct : (fields.map Prod.fst).Pairwise fun a b => a.clash b = false) :
    PyKey.comparable (fields.map Prod.fst) = true ∧
      ∃ sorted : List (PyKey × Json), sorted.Perm fields ∧ sorted.Pairwise (fun a b => a.1.le b.1 = true) ∧
        j = .obj (sorted.map fun e => (e.1.name, e.2)) := by
  obtain ⟨sorted, horder, h⟩ := Option.bind_eq_some_iff.mp h
  rw [orderFields, if_pos (show bySort.sortKeys = true from rfl)] at horder
  obtain ⟨hcomparable, horder⟩ := Option.ite_none_right_eq_some.mp horder
  obtain ⟨-, h⟩ := Option.ite_none_right_eq_some.mp h
  have hperm : sorted.Perm fields := Option.some.inj horder ▸ List.mergeSort_perm _ _
  have hnodup : ((sorted.map fun e => (e.1.name, e.2)).map Prod.fst).Nodup := by
    rw [List.map_map]
    refine ((hperm.map _).nodup_iff.mpr ?_)
    have hnames := PyKey.names_nodup hcomparable hdistinct
    rw [List.map_map] at hnames
    exact hnames
  refine ⟨hcomparable, sorted, hperm, ?_, ?_⟩
  · rw [← Option.some.inj horder]
    exact PyKey.pairwise_le fields
  · rw [← Option.some.inj h, Json.merge_nil hnodup]

/-- The object that is written as the keys come. -/
theorem writeObject_byCaller {fields : List (PyKey × Json)} {j : Json}
    (h : writeObject byCaller fields = some j)
    (hcomparable : PyKey.comparable (fields.map Prod.fst) = true)
    (hdistinct : (fields.map Prod.fst).Pairwise fun a b => a.clash b = false) :
    j = .obj (fields.map fun e => (e.1.name, e.2)) := by
  obtain ⟨written, horder, h⟩ := Option.bind_eq_some_iff.mp h
  obtain rfl := Option.some.inj horder
  obtain ⟨-, h⟩ := Option.ite_none_right_eq_some.mp h
  have hnodup : ((fields.map fun e => (e.1.name, e.2)).map Prod.fst).Nodup := by
    have hnames := PyKey.names_nodup hcomparable hdistinct
    rw [List.map_map] at hnames ⊢
    exact hnames
  rw [← Option.some.inj h, Json.merge_nil hnodup]

/-! ## Written in order -/

mutual

theorem ordered_iff : ∀ {v : PyVal} {j : Json}, distinct v = true → encode bySort v = some j →
    (j.sorted = j ↔ ordered v = true)
  | null, _, _, h | bool _, _, _, h | int _, _, _, h | float _, _, _, h | text _, _, _, h
  | foreign _ _, _, _, h => by
      rw [← Option.some.inj h]
      exact iff_of_true rfl rfl
  | list items, _, hd, h => by
      obtain ⟨js, hjs, rfl⟩ := Option.map_eq_some_iff.mp h
      rw [Json.sorted, Json.arr.injEq]
      exact orderedItems_iff hd hjs
  | dict entries, _, hd, h => by
      obtain ⟨fields, hfields, h⟩ := Option.bind_eq_some_iff.mp h
      have hkeys := keys_encodeEntries hfields
      obtain ⟨hpairwise, hvalues⟩ := (Bool.and_eq_true _ _).mp hd
      have hpairwise := hkeys ▸ of_decide_eq_true hpairwise
      obtain ⟨hcomparable, sorted, hperm, hle, rfl⟩ := writeObject_bySort h hpairwise
      have hsame := hperm.map Prod.fst
      have hcomparable' : PyKey.comparable (sorted.map Prod.fst) = true := by
        rw [← hcomparable, PyKey.comparable, PyKey.comparable, hsame.length_eq, hsame.all_eq,
          hsame.all_eq]
      have hclash : (sorted.map Prod.fst).Pairwise fun a b => a.clash b = false :=
        hsame.symm.pairwise hpairwise PyKey.clash_symm
      have hagree := PyKey.agree_iff hcomparable' hclash (List.pairwise_map.mpr hle)
      rw [Json.sorted_obj_eq_self_iff, ordered, Bool.and_eq_true, ← orderedEntries_iff hvalues hfields]
      refine and_congr ?_ ?_
      · rw [← hkeys, List.pairwise_map]
        rw [List.pairwise_map] at hagree
        have hnames : sorted.Pairwise (fun a b => Json.keyLe (a.1.name, a.2) (b.1.name, b.2) = true) ↔
            sorted.Pairwise fun a b => a.1.name ≤ b.1.name :=
          ⟨.imp of_decide_eq_true, .imp decide_eq_true⟩
        rw [hnames, ← hagree]
        simp only [List.all_eq_true, hsame.mem_iff]
      · rw [List.forall_mem_map]
        exact forall_congr' fun e => by rw [hperm.mem_iff]

theorem orderedItems_iff : ∀ {vs : List PyVal} {js : List Json}, distinctItems vs = true →
    encodeItems bySort vs = some js → (Json.sortedItems js = js ↔ orderedItems vs = true)
  | [], _, _, h => by
      rw [← Option.some.inj h]
      exact iff_of_true rfl rfl
  | v :: vs, _, hd, h => by
      obtain ⟨hv, hvs⟩ := (Bool.and_eq_true _ _).mp hd
      obtain ⟨j, hj, h⟩ := Option.bind_eq_some_iff.mp h
      obtain ⟨js, hjs, rfl⟩ := Option.map_eq_some_iff.mp h
      rw [Json.sortedItems, List.cons.injEq, orderedItems, Bool.and_eq_true, ordered_iff hv hj,
        orderedItems_iff hvs hjs]

theorem orderedEntries_iff : ∀ {es : List (PyKey × PyVal)} {fields : List (PyKey × Json)},
    distinctEntries es = true → encodeEntries bySort es = some fields →
    ((∀ e ∈ fields, e.2.sorted = e.2) ↔ orderedEntries es = true)
  | [], _, _, h => by
      rw [← Option.some.inj h]
      exact iff_of_true nofun rfl
  | (k, v) :: es, _, hd, h => by
      obtain ⟨hv, hes⟩ := (Bool.and_eq_true _ _).mp hd
      obtain ⟨j, hj, h⟩ := Option.bind_eq_some_iff.mp h
      obtain ⟨rest, hrest, rfl⟩ := Option.map_eq_some_iff.mp h
      rw [List.forall_mem_cons, orderedEntries, Bool.and_eq_true, ordered_iff hv hj,
        orderedEntries_iff hes hrest]

end

/-! ## Written the same -/

mutual

/-- Both ways to write a value give the same, but for the order of the keys, when the
caller's function makes of each object its `str`. -/
theorem alike_iff : ∀ {v : PyVal} {j j' : Json}, distinct v = true →
    encode byCaller v = some j → encode bySort v = some j' →
    (j.sorted = j'.sorted ↔ alike v = true)
  | null, _, _, _, h, h' | bool _, _, _, _, h, h' | int _, _, _, _, h, h'
  | float _, _, _, _, h, h' | text _, _, _, _, h, h' => by
      rw [← Option.some.inj h, ← Option.some.inj h']
      exact iff_of_true rfl rfl
  | foreign given str, j, _, _, h, h' => by
      rw [← Option.some.inj h']
      exact encodeConverted_eq_str h
  | list items, _, _, hd, h, h' => by
      obtain ⟨js, hjs, rfl⟩ := Option.map_eq_some_iff.mp h
      obtain ⟨js', hjs', rfl⟩ := Option.map_eq_some_iff.mp h'
      rw [Json.sorted, Json.sorted, Json.arr.injEq]
      exact alikeItems_iff hd hjs hjs'
  | dict entries, _, _, hd, h, h' => by
      obtain ⟨fields, hfields, h⟩ := Option.bind_eq_some_iff.mp h
      obtain ⟨fields', hfields', h'⟩ := Option.bind_eq_some_iff.mp h'
      have hkeys := keys_encodeEntries hfields
      have hkeys' := keys_encodeEntries hfields'
      obtain ⟨hpairwise, hvalues⟩ := (Bool.and_eq_true _ _).mp hd
      have hpairwise := of_decide_eq_true hpairwise
      obtain ⟨hcomparable, sorted, hperm, -, rfl⟩ := writeObject_bySort h' (hkeys'.symm ▸ hpairwise)
      rw [hkeys'] at hcomparable
      rw [writeObject_byCaller h (hkeys.symm ▸ hcomparable) (hkeys.symm ▸ hpairwise)]
      have hnames : ∀ {fields : List (PyKey × Json)},
          fields.map Prod.fst = entries.map Prod.fst →
          (fields.map fun e => (e.1.name, e.2)).map Prod.fst =
            (entries.map Prod.fst).map PyKey.name := by
        intro fields hfields
        rw [← hfields, List.map_map, List.map_map]
        rfl
      have hnodup := PyKey.names_nodup hcomparable hpairwise
      rw [Json.sorted_obj_of_perm (hperm.map _) (hnames hkeys' ▸ hnodup),
        Json.sorted_obj_eq_iff ((hnames hkeys).trans (hnames hkeys').symm) (hnames hkeys ▸ hnodup),
        List.map_map, List.map_map]
      exact alikeEntries_iff hvalues hfields hfields'

theorem alikeItems_iff : ∀ {vs : List PyVal} {js js' : List Json}, distinctItems vs = true →
    encodeItems byCaller vs = some js → encodeItems bySort vs = some js' →
    (Json.sortedItems js = Json.sortedItems js' ↔ alikeItems vs = true)
  | [], _, _, _, h, h' => by
      rw [← Option.some.inj h, ← Option.some.inj h']
      exact iff_of_true rfl rfl
  | v :: vs, _, _, hd, h, h' => by
      obtain ⟨hv, hvs⟩ := (Bool.and_eq_true _ _).mp hd
      obtain ⟨j, hj, h⟩ := Option.bind_eq_some_iff.mp h
      obtain ⟨js, hjs, rfl⟩ := Option.map_eq_some_iff.mp h
      obtain ⟨j', hj', h'⟩ := Option.bind_eq_some_iff.mp h'
      obtain ⟨js', hjs', rfl⟩ := Option.map_eq_some_iff.mp h'
      rw [Json.sortedItems, Json.sortedItems, List.cons.injEq, alikeItems, Bool.and_eq_true,
        alike_iff hv hj hj', alikeItems_iff hvs hjs hjs']

theorem alikeEntries_iff : ∀ {es : List (PyKey × PyVal)} {fields fields' : List (PyKey × Json)},
    distinctEntries es = true → encodeEntries byCaller es = some fields →
    encodeEntries bySort es = some fields' →
    ((fields.map fun e => (e.1.name, e.2.sorted)) = (fields'.map fun e => (e.1.name, e.2.sorted)) ↔
      alikeEntries es = true)
  | [], _, _, _, h, h' => by
      rw [← Option.some.inj h, ← Option.some.inj h']
      exact iff_of_true rfl rfl
  | (k, v) :: es, _, _, hd, h, h' => by
      obtain ⟨hv, hes⟩ := (Bool.and_eq_true _ _).mp hd
      obtain ⟨j, hj, h⟩ := Option.bind_eq_some_iff.mp h
      obtain ⟨rest, hrest, rfl⟩ := Option.map_eq_some_iff.mp h
      obtain ⟨j', hj', h'⟩ := Option.bind_eq_some_iff.mp h'
      obtain ⟨rest', hrest', rfl⟩ := Option.map_eq_some_iff.mp h'
      rw [List.map_cons, List.map_cons, List.cons.injEq, Prod.mk.injEq, alikeEntries,
        Bool.and_eq_true, alike_iff hv hj hj', alikeEntries_iff hes hrest hrest']
      exact and_congr_left fun _ => and_iff_right rfl

end

/-! ## What comes back has no key twice -/

theorem keyed_writeObject {o : Options} {fields : List (PyKey × Json)} {j : Json}
    (hfields : ∀ e ∈ fields, e.2.Keyed) (h : writeObject o fields = some j) : j.Keyed := by
  obtain ⟨ordered, horder, h⟩ := Option.bind_eq_some_iff.mp h
  obtain ⟨-, h⟩ := Option.ite_none_right_eq_some.mp h
  have hmem : ∀ e ∈ ordered, e ∈ fields := by
    rw [orderFields] at horder
    split at horder
    · obtain ⟨-, horder⟩ := Option.ite_none_right_eq_some.mp horder
      rw [← Option.some.inj horder]
      exact fun e he => (List.mergeSort_perm _ _).mem_iff.mp he
    · rw [← Option.some.inj horder]
      exact fun e he => he
  rw [← Option.some.inj h]
  refine Json.keyed_merge fun e he => ?_
  obtain ⟨e', he', rfl⟩ := List.mem_map.mp he
  exact hfields e' (hmem e' he')

mutual

theorem keyed_encode {o : Options} : ∀ {v : PyVal} {j : Json}, encode o v = some j → j.Keyed
  | null, _, h | bool _, _, h | int _, _, h | float _, _, h | text _, _, h => by
      rw [← Option.some.inj h]
      trivial
  | list items, _, h => by
      obtain ⟨js, hjs, rfl⟩ := Option.map_eq_some_iff.mp h
      exact keyed_encodeItems hjs
  | dict entries, _, h => by
      obtain ⟨fields, hfields, h⟩ := Option.bind_eq_some_iff.mp h
      exact keyed_writeObject (keyed_encodeEntries hfields) h
  | foreign given str, _, h => by
      rw [encode] at h
      split at h
      · rw [← Option.some.inj h]
        trivial
      · exact keyed_encodeConverted h

theorem keyed_encodeConverted {o : Options} : ∀ {given : Option PyVal} {j : Json},
    encodeConverted o given = some j → j.Keyed
  | none, _, h => nomatch h
  | some _, _, h => keyed_encode h

theorem keyed_encodeItems {o : Options} : ∀ {vs : List PyVal} {js : List Json},
    encodeItems o vs = some js → Json.KeyedItems js
  | [], _, h => by
      rw [← Option.some.inj h]
      trivial
  | v :: vs, _, h => by
      obtain ⟨j, hj, h⟩ := Option.bind_eq_some_iff.mp h
      obtain ⟨js, hjs, rfl⟩ := Option.map_eq_some_iff.mp h
      exact ⟨keyed_encode hj, keyed_encodeItems hjs⟩

theorem keyed_encodeEntries {o : Options} : ∀ {es : List (PyKey × PyVal)}
    {fields : List (PyKey × Json)}, encodeEntries o es = some fields → ∀ e ∈ fields, e.2.Keyed
  | [], _, h => by
      rw [← Option.some.inj h]
      exact nofun
  | (k, v) :: es, _, h => by
      obtain ⟨j, hj, h⟩ := Option.bind_eq_some_iff.mp h
      obtain ⟨rest, hrest, rfl⟩ := Option.map_eq_some_iff.mp h
      exact List.forall_mem_cons.mpr ⟨keyed_encode hj, keyed_encodeEntries hrest⟩

end

end PyVal
