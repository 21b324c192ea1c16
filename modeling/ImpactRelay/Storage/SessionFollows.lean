/-
# `Storage.SessionFollows` — the objects that a reading stands for

The reading of a graph (`SessionReading.read`) keeps the names and values of dictionaries and
attributes, and the decoder builds objects with identities, hashes and entries.  `Follows` is
what holds between the two at every step: an object is of the kind its node says, a tuple has
the items of its node, and what a dictionary or an object holds under a text is what the
reading has there (`Mirrors`, `Matches`).

Hashing is the first use of it: whether a value can be hashed is told from the nodes and the
attributes that have been read (`pyHash_replies`).
-/
import ImpactRelay.Storage.SessionReading

namespace ImpactRelay

open Raise Reading

namespace SessionReading

/-! ## Entries with texts for keys -/

/-- The items whose keys are texts. -/
def textItems (entries : Entries SessionValue) : List (String × SessionValue) :=
  entries.filterMap fun e => e.1.value.text?.map fun t => (t, e.2)

/-- How many of them come before the first other key. -/
def stopOf : Entries SessionValue → Option Nat
  | [] => none
  | (k, _) :: entries => if k.value.text? = none then some 0 else (stopOf entries).map (· + 1)

theorem textItems_cons_text {k : SessionKey} {t : String} (hk : k.value.text? = some t)
    (y : SessionValue) (entries : Entries SessionValue) :
    textItems ((k, y) :: entries) = (t, y) :: textItems entries := by
  simp [textItems, hk]

theorem textItems_cons_other {k : SessionKey} (hk : k.value.text? = none) (y : SessionValue)
    (entries : Entries SessionValue) : textItems ((k, y) :: entries) = textItems entries := by
  simp [textItems, hk]

theorem stopOf_cons_text {k : SessionKey} {t : String} (hk : k.value.text? = some t)
    (y : SessionValue) (entries : Entries SessionValue) :
    stopOf ((k, y) :: entries) = (stopOf entries).map (· + 1) := by
  simp [stopOf, hk]

theorem stopOf_cons_other {k : SessionKey} (hk : k.value.text? = none) (y : SessionValue)
    (entries : Entries SessionValue) : stopOf ((k, y) :: entries) = some 0 := by
  simp [stopOf, hk]

section

variable [PyHashing]

/-- Texts are stored under their hashes. -/
def Keyed (entries : Entries SessionValue) : Prop :=
  ∀ e ∈ entries, ∀ t, e.1.value.text? = some t → e.1.hash = PyHashing.scalar e.1.value

theorem matches_of_text {objects : Objects} {k : SessionKey} {h : Int} {v : SessionValue}
    {name : String} (hk : k.value.text? = some name) (hv : v.text? = some name)
    (hhash : k.hash = PyHashing.scalar k.value) (hh : h = PyHashing.scalar v) :
    k.matches_ objects h v = true := by
  obtain ⟨heq, hscalar⟩ := @PyHashing.text_eq _ objects _ _ _ hk hv
  rw [SessionKey.matches_, hhash, hh, hscalar, heq]
  simp

theorem lookup_eq {objects : Objects} {entries : Entries SessionValue} (h : Keyed entries)
    (name : String) : entries.lookup objects (PyHashing.scalar (.str name)) (.str name) =
      ((textItems entries).find? fun item => item.1 = name).map Prod.snd := by
  rw [Entries.lookup]
  induction entries with
  | nil => rfl
  | cons e entries ih =>
      obtain ⟨k, y⟩ := e
      have htail := ih fun e he => h e (List.mem_cons_of_mem _ he)
      cases hk : k.value.text? with
      | none =>
          have hmatch : ¬ k.matches_ objects (PyHashing.scalar (.str name)) (.str name) = true := by
            intro hmatch
            cases hk.symm.trans (SessionKey.text_of_matches hmatch)
          simp only [List.find?_cons, Bool.eq_false_iff.mpr hmatch, textItems_cons_other hk]
          exact htail
      | some t =>
          rw [textItems_cons_text hk]
          by_cases ht : t = name
          · subst ht
            have hmatch : k.matches_ objects (PyHashing.scalar (.str t)) (.str t) = true :=
              matches_of_text hk rfl (h _ List.mem_cons_self t hk) rfl
            simp only [List.find?_cons, hmatch, decide_true, Option.map_some]
          · have hmatch :
                ¬ k.matches_ objects (PyHashing.scalar (.str name)) (.str name) = true := by
              intro hmatch
              exact ht (Option.some.inj (hk.symm.trans (SessionKey.text_of_matches hmatch)))
            simp only [List.find?_cons, Bool.eq_false_iff.mpr hmatch, decide_eq_false ht]
            exact htail

section

variable {objects : Objects} {entries : Entries SessionValue} {h : Int} {v x : SessionValue}

theorem mem_put {e : SessionKey × SessionValue} (he : e ∈ entries.put objects h v x) :
    e ∈ entries ∨ e.2 = x ∧ (e.1 = ⟨h, v⟩ ∨ ∃ y, (e.1, y) ∈ entries) := by
  induction entries with
  | nil =>
      rw [Entries.put, List.mem_singleton] at he
      exact .inr ⟨congrArg Prod.snd he, .inl (congrArg Prod.fst he)⟩
  | cons entry entries ih =>
      obtain ⟨k, y⟩ := entry
      rw [Entries.put] at he
      split at he
      · rcases List.mem_cons.mp he with rfl | he
        · exact .inr ⟨rfl, .inr ⟨y, List.mem_cons_self⟩⟩
        · exact .inl (List.mem_cons_of_mem _ he)
      · rcases List.mem_cons.mp he with rfl | he
        · exact .inl List.mem_cons_self
        · rcases ih he with he | ⟨hx, hk | ⟨z, hz⟩⟩
          · exact .inl (List.mem_cons_of_mem _ he)
          · exact .inr ⟨hx, .inl hk⟩
          · exact .inr ⟨hx, .inr ⟨z, List.mem_cons_of_mem _ hz⟩⟩

theorem Keyed.put (hkeyed : Keyed entries)
    (hh : ∀ t, v.text? = some t → h = PyHashing.scalar v) :
    Keyed (entries.put objects h v x) := by
  intro e he t ht
  rcases mem_put he with he | ⟨-, hk | ⟨y, hy⟩⟩
  · exact hkeyed e he t ht
  · rw [hk] at ht ⊢
    exact hh t ht
  · exact hkeyed (e.1, y) hy t ht

/-- A text that is put in gives its value to the entry of that text, or goes to the end. -/
theorem put_text {t : String} (hkeyed : Keyed entries) (hv : v.text? = some t)
    (hh : h = PyHashing.scalar v) :
    textItems (entries.put objects h v x) = Dict.setEntries t x (textItems entries) ∧
      stopOf (entries.put objects h v x) = stopOf entries := by
  induction entries with
  | nil =>
      have hv' : (SessionKey.mk h v).value.text? = some t := hv
      rw [Entries.put, textItems_cons_text hv', stopOf_cons_text hv']
      exact ⟨rfl, rfl⟩
  | cons entry entries ih =>
      obtain ⟨k, y⟩ := entry
      obtain ⟨hitems, hstop⟩ := ih fun e he => hkeyed e (List.mem_cons_of_mem _ he)
      rw [Entries.put]
      split
      · next hmatch =>
          have hk := (SessionKey.text_of_matches hmatch).trans hv
          rw [textItems_cons_text hk, textItems_cons_text hk, stopOf_cons_text hk,
            stopOf_cons_text hk, Dict.setEntries, if_pos rfl]
          exact ⟨rfl, rfl⟩
      · next hmatch =>
          cases hk : k.value.text? with
          | none =>
              rw [textItems_cons_other hk, textItems_cons_other hk, stopOf_cons_other hk,
                stopOf_cons_other hk]
              exact ⟨hitems, rfl⟩
          | some u =>
              have hne : u ≠ t := by
                rintro rfl
                exact hmatch (matches_of_text hk hv (hkeyed _ List.mem_cons_self u hk) hh)
              rw [textItems_cons_text hk, textItems_cons_text hk, stopOf_cons_text hk,
                stopOf_cons_text hk, Dict.setEntries, if_neg hne, hitems, hstop]
              exact ⟨rfl, rfl⟩

/-- Another key is equal to one that is no text either, or goes to the end. -/
theorem put_other (hv : v.text? = none) :
    textItems (entries.put objects h v x) = textItems entries ∧
      stopOf (entries.put objects h v x) =
        some ((stopOf entries).getD (textItems entries).length) := by
  induction entries with
  | nil =>
      have hv' : (SessionKey.mk h v).value.text? = none := hv
      rw [Entries.put, textItems_cons_other hv', stopOf_cons_other hv']
      exact ⟨rfl, rfl⟩
  | cons entry entries ih =>
      obtain ⟨k, y⟩ := entry
      obtain ⟨hitems, hstop⟩ := ih
      rw [Entries.put]
      split
      · next hmatch =>
          have hk := (SessionKey.text_of_matches hmatch).trans hv
          rw [textItems_cons_other hk, textItems_cons_other hk, stopOf_cons_other hk,
            stopOf_cons_other hk]
          exact ⟨rfl, rfl⟩
      · next hmatch =>
          cases hk : k.value.text? with
          | none =>
              rw [textItems_cons_other hk, textItems_cons_other hk, stopOf_cons_other hk,
                stopOf_cons_other hk]
              exact ⟨hitems, rfl⟩
          | some u =>
              rw [textItems_cons_text hk, textItems_cons_text hk, stopOf_cons_text hk,
                stopOf_cons_text hk, hitems, hstop]
              refine ⟨rfl, ?_⟩
              cases stopOf entries with
              | none => rfl
              | some n => rfl

/-- The entries are what has been read of a dictionary. -/
structure Mirrors (entries : Entries SessionValue) (d : DictItems) : Prop where
  keyed : Keyed entries
  texts : textItems entries = d.texts.entries
  stop : stopOf entries = d.stop

theorem Mirrors.nil : Mirrors [] {} := ⟨fun _ he => absurd he List.not_mem_nil, rfl, rfl⟩

theorem Mirrors.put {d : DictItems} (hmirrors : Mirrors entries d)
    (hh : ∀ t, v.text? = some t → h = PyHashing.scalar v) :
    Mirrors (entries.put objects h v x) (d.put v.text? x) := by
  cases hv : v.text? with
  | none =>
      obtain ⟨hitems, hstop⟩ := @put_other _ objects entries h v x hv
      refine ⟨hmirrors.keyed.put hh, hitems.trans hmirrors.texts, ?_⟩
      rw [hstop, hmirrors.stop, hmirrors.texts]
      rfl
  | some t =>
      obtain ⟨hitems, hstop⟩ := @put_text _ objects entries h v x t hmirrors.keyed hv (hh t hv)
      refine ⟨hmirrors.keyed.put hh, ?_, hstop.trans hmirrors.stop⟩
      rw [hitems, hmirrors.texts]
      rfl

end

end

/-- The items of the entries up to the first key that is no text. -/
def givenOf : Entries SessionValue → List (Option String × SessionValue)
  | [] => []
  | (k, x) :: entries =>
      match k.value.text? with
      | some t => (some t, x) :: givenOf entries
      | none => [(none, .none)]

theorem givenOf_eq (entries : Entries SessionValue) : givenOf entries =
    match stopOf entries with
    | none => (textItems entries).map fun item => (some item.1, item.2)
    | some n => ((textItems entries).take n).map (fun item => (some item.1, item.2)) ++
        [(none, .none)] := by
  induction entries with
  | nil => rfl
  | cons entry entries ih =>
      obtain ⟨k, y⟩ := entry
      rw [givenOf]
      cases hk : k.value.text? with
      | none =>
          rw [stopOf_cons_other hk]
          rfl
      | some t =>
          rw [textItems_cons_text hk, stopOf_cons_text hk]
          simp only
          rw [ih]
          cases stopOf entries with
          | none => rfl
          | some n => rfl

theorem Mirrors.given [PyHashing] {entries : Entries SessionValue} {d : DictItems}
    (h : Mirrors entries d) : givenOf entries = d.given := by
  rw [givenOf_eq, h.stop, h.texts]
  rfl

/-! ## The objects of a reading -/

/-- What the value refers to has an object. -/
def Held (objects : Objects) (v : SessionValue) : Prop :=
  ∀ i, v = .ref i → (objects.at_ i).isSome

/-- A dictionary stays one; another object stays as it is. -/
def Stays : SessionObject → SessionObject → Prop
  | .dict _, object => ∃ entries, object = .dict entries
  | object, object' => object' = object

/-- The objects that are there stay. -/
structure Keeps (s s' : DecoderState) : Prop where
  objects : ∀ i object, s.objects.at_ i = some object →
    ∃ object', s'.objects.at_ i = some object' ∧ Stays object object'
  building : s'.building = s.building

section

variable {s s' s'' : DecoderState} {i j : Nat} {objects : Objects}

theorem at_set_self {object : SessionObject} (h : i < objects.length) :
    Objects.at_ (objects.set i (some object)) i = some object := by
  rw [Objects.at_, List.getElem?_set_self h]
  rfl

theorem at_set_ne {object : Option SessionObject} (h : i ≠ j) :
    Objects.at_ (objects.set i object) j = objects.at_ j := by
  rw [Objects.at_, List.getElem?_set_ne h, Objects.at_]

theorem lt_of_at {object : SessionObject} (h : objects.at_ i = some object) :
    i < objects.length := by
  by_contra hlen
  rw [Objects.at_, List.getElem?_eq_none (not_lt.mp hlen)] at h
  cases h

theorem Stays.refl (object : SessionObject) : Stays object object := by
  cases object with
  | dict entries => exact ⟨entries, rfl⟩
  | list | tuple | set | frozenset | instance_ => rfl

theorem Stays.trans {object object' object'' : SessionObject} (h : Stays object object')
    (h' : Stays object' object'') : Stays object object'' := by
  cases object with
  | dict entries =>
      obtain ⟨entries', rfl⟩ := h
      exact h'
  | list | tuple | set | frozenset | instance_ =>
      cases h
      exact h'

/-- What may become a dictionary was one. -/
theorem Stays.of_dict {object : SessionObject} {entries entries' : Entries SessionValue}
    (h : Stays object (.dict entries)) : Stays object (.dict entries') := by
  cases object with
  | dict => exact ⟨entries', rfl⟩
  | list | tuple | set | frozenset | instance_ => cases h

namespace Keeps

theorem refl (s : DecoderState) : Keeps s s := ⟨fun _ object h => ⟨object, h, .refl object⟩, rfl⟩

theorem trans (h : Keeps s s') (h' : Keeps s' s'') : Keeps s s'' := by
  refine ⟨fun i object hi => ?_, h'.building.trans h.building⟩
  obtain ⟨object', hi', hstays⟩ := h.objects i object hi
  obtain ⟨object'', hi'', hstays'⟩ := h'.objects i object' hi'
  exact ⟨object'', hi'', hstays.trans hstays'⟩

theorem held (h : Keeps s s') {v : SessionValue} (hv : Held s.objects v) : Held s'.objects v := by
  intro i hi
  obtain ⟨object, hobject⟩ := Option.isSome_iff_exists.mp (hv i hi)
  obtain ⟨object', hobject', -⟩ := h.objects i object hobject
  exact Option.isSome_of_eq_some hobject'

/-- An object where there was none at first. -/
theorem set (h : Keeps s s') {object : SessionObject} (hi : s.objects.at_ i = none) :
    Keeps s { s' with objects := s'.objects.set i (some object) } := by
  refine ⟨fun j other hj => ?_, h.building⟩
  have hne : i ≠ j := by
    rintro rfl
    rw [hi] at hj
    cases hj
  rw [at_set_ne hne]
  exact h.objects j other hj

/-- Other entries of a dictionary. -/
theorem setDict (h : Keeps s s') {entries entries' : Entries SessionValue}
    (hi : s'.objects.at_ i = some (.dict entries)) :
    Keeps s { s' with objects := s'.objects.set i (some (.dict entries')) } := by
  refine ⟨fun j other hj => ?_, h.building⟩
  obtain ⟨object, hobject, hstays⟩ := h.objects j other hj
  by_cases hij : i = j
  · subst hij
    cases hi.symm.trans hobject
    exact ⟨_, at_set_self (lt_of_at hi), hstays.of_dict⟩
  · rw [at_set_ne hij]
    exact ⟨object, hobject, hstays⟩

end Keeps

theorem Held.set {object : SessionObject} {v : SessionValue} (hv : Held objects v) :
    Held (objects.set i (some object)) v := by
  intro j hj
  obtain ⟨other, hother⟩ := Option.isSome_iff_exists.mp (hv j hj)
  by_cases hij : i = j
  · subst hij
    rw [at_set_self (lt_of_at hother)]
    rfl
  · rw [at_set_ne hij, hother]
    rfl

end

section

variable [TrustedClasses] [Json.CharTable]

/-- The object is of the kind that the node says; a tuple has the items of its node. -/
def Fits (objects : Objects) (node : Json) : SessionObject → Prop
  | .dict entries => nodeKind node = "dict" ∧ ∀ e ∈ entries, Held objects e.2
  | .list _ => nodeKind node = "list"
  | .tuple values => nodeKind node = "tuple" ∧ values = (nodeItems node).map valueOf ∧
      ∀ v ∈ values, Held objects v
  | .set _ => nodeKind node = "set"
  | .frozenset _ => nodeKind node = "frozenset"
  | .instance_ cls _ => nodeKind node = "object" ∧ nodeClass node = some cls

theorem Fits.set {objects : Objects} {object other : SessionObject} {node : Json} {i : Nat}
    (h : Fits objects node other) : Fits (objects.set i (some object)) node other := by
  cases other with
  | dict entries => exact ⟨h.1, fun e he => (h.2 e he).set⟩
  | tuple values => exact ⟨h.1, h.2.1, fun v hv => (h.2.2 v hv).set⟩
  | list | set | frozenset | instance_ => exact h

/-- Where a dictionary fits, nothing else does. -/
theorem Fits.of_dict {objects objects' : Objects} {object : SessionObject} {node : Json}
    {entries : Entries SessionValue} (hdict : Fits objects node (.dict entries))
    (h : Fits objects' node object) : ∃ entries', object = .dict entries' := by
  have hkind : ∀ kind : String, kind ≠ "dict" → nodeKind node ≠ kind := fun kind hne heq =>
    hne (heq.symm.trans hdict.1)
  cases object with
  | dict entries' => exact ⟨entries', rfl⟩
  | tuple values => exact absurd h.1 (hkind "tuple" (by decide))
  | instance_ cls attributes => exact absurd h.1 (hkind "object" (by decide))
  | list values => exact absurd h (hkind "list" (by decide))
  | set elements => exact absurd h (hkind "set" (by decide))
  | frozenset elements => exact absurd h (hkind "frozenset" (by decide))

variable [PyHashing]

/-- The attributes of an instance are what has been read of them. -/
def Matches (objects : Objects) : Attributes → Given → Prop
  | .own own, .own items => Keyed own ∧ textItems own = items.entries ∧ ∀ e ∈ own, Held objects e.2
  | .shared j, .shared k => j = k ∧ ∃ entries, objects.at_ j = some (.dict entries)
  | _, _ => False

/-- The decoder is where the reading is. -/
structure Follows (nodes : List Json) (g : Progress) (s : DecoderState) : Prop where
  length : s.objects.length = nodes.length
  building : s.building = g.building
  registered : ∀ i, (s.objects.at_ i).isSome ↔ i ∈ g.registered
  fits : ∀ i object, s.objects.at_ i = some object → Fits s.objects (nodeAt nodes i) object
  dicts : ∀ i entries, s.objects.at_ i = some (.dict entries) → Mirrors entries (g.dicts i)
  instances : ∀ i cls attributes, s.objects.at_ i = some (.instance_ cls attributes) →
    Matches s.objects attributes (g.given i)

namespace Follows

variable {nodes : List Json} {g g' : Progress} {s s' : DecoderState} {i : Nat}
  {object : SessionObject}

/-- One object is changed, and what has been read of it. -/
theorem set (h : Follows nodes g s) (hi : i < nodes.length)
    (hfits : Fits s.objects (nodeAt nodes i) object)
    (hdict : ∀ entries, object = .dict entries → Mirrors entries (g'.dicts i))
    (hinstance : ∀ cls attributes, object = .instance_ cls attributes →
      Matches s.objects attributes (g'.given i))
    (hbuilding : g'.building = g.building)
    (hregistered : ∀ j, j ∈ g'.registered ↔ j = i ∨ j ∈ g.registered)
    (hdicts : ∀ j, j ≠ i → g'.dicts j = g.dicts j)
    (hgiven : ∀ j, j ≠ i → g'.given j = g.given j) :
    Follows nodes g' { s with objects := s.objects.set i (some object) } := by
  have hself : Objects.at_ (s.objects.set i (some object)) i = some object :=
    at_set_self (h.length ▸ hi)
  have hmatches : ∀ {attributes given}, Matches s.objects attributes given →
      Matches (s.objects.set i (some object)) attributes given := by
    intro attributes given hm
    cases attributes with
    | own own =>
        cases given with
        | own items => exact ⟨hm.1, hm.2.1, fun e he => (hm.2.2 e he).set⟩
        | shared k => exact hm
    | shared j =>
        cases given with
        | own items => exact hm
        | shared k =>
            obtain ⟨hjk, entries, hj⟩ := hm
            refine ⟨hjk, ?_⟩
            by_cases hij : i = j
            · subst hij
              obtain ⟨entries', hobject⟩ := (h.fits i _ hj).of_dict hfits
              exact ⟨entries', hself.trans (congrArg some hobject)⟩
            · exact ⟨entries, (at_set_ne hij).trans hj⟩
  refine ⟨(List.length_set ..).trans h.length, h.building.trans hbuilding.symm, fun j => ?_,
    fun j other hj => ?_, fun j entries hj => ?_, fun j cls attributes hj => ?_⟩
  · rw [hregistered j]
    by_cases hij : i = j
    · subst hij
      rw [hself]
      exact iff_of_true rfl (.inl rfl)
    · rw [at_set_ne hij, h.registered j]
      exact ⟨.inr, fun h => h.resolve_left fun h => hij h.symm⟩
  · by_cases hij : i = j
    · subst hij
      cases hself.symm.trans hj
      exact hfits.set
    · rw [at_set_ne hij] at hj
      exact (h.fits j other hj).set
  · by_cases hij : i = j
    · subst hij
      exact hdict entries (Option.some.inj (hself.symm.trans hj))
    · rw [at_set_ne hij] at hj
      rw [hdicts j fun h => hij h.symm]
      exact h.dicts j entries hj
  · by_cases hij : i = j
    · subst hij
      exact hmatches (hinstance cls attributes (Option.some.inj (hself.symm.trans hj)))
    · rw [at_set_ne hij] at hj
      rw [hgiven j fun h => hij h.symm]
      exact hmatches (h.instances j cls attributes hj)

/-- A node is begun or left. -/
theorem withBuilding (h : Follows nodes g s) {b b' : List Nat} (hb : b' = b) :
    Follows nodes { g with building := b } { s with building := b' } where
  length := h.length
  building := hb
  registered := h.registered
  fits := h.fits
  dicts := h.dicts
  instances := h.instances

/-- What an instance has for attributes. -/
theorem attributes_eq (h : Follows nodes g s) {cls : SessionClass} {attributes : Attributes}
    (hi : s.objects.at_ i = some (.instance_ cls attributes)) :
    Keyed (s.objects.attributes attributes) ∧
      textItems (s.objects.attributes attributes) = (g.attributes i).entries ∧
      ∀ e ∈ s.objects.attributes attributes, Held s.objects e.2 := by
  have hmatches := h.instances i cls attributes hi
  rw [Progress.attributes]
  cases attributes with
  | own own =>
      cases hgiven : g.given i with
      | own items =>
          rw [hgiven] at hmatches
          exact hmatches
      | shared k =>
          rw [hgiven] at hmatches
          exact hmatches.elim
  | shared j =>
      cases hgiven : g.given i with
      | own items =>
          rw [hgiven] at hmatches
          exact hmatches.elim
      | shared k =>
          rw [hgiven] at hmatches
          obtain ⟨rfl, entries, hj⟩ := hmatches
          have hentries : s.objects.attributes (.shared j) = entries := by
            rw [Objects.attributes, Objects.dictAt, hj]
            rfl
          rw [hentries]
          exact ⟨(h.dicts j entries hj).keyed, (h.dicts j entries hj).texts, (h.fits j _ hj).2⟩

end Follows

/-! ### Hashing -/

section

variable {nodes : List Json} {g : Progress} {s : DecoderState}

theorem hashOf_replies (h : Follows nodes g s) {w : List SessionValue → Finding}
    {w' : Nat → List SessionField → Finding}
    {ofItems : List SessionValue → Except PyExc Int}
    {ofFields : SessionClass → List SessionField → Entries SessionValue → Except PyExc Int}
    (hitems : ∀ values, (∀ v ∈ values, Held s.objects v) → Replies (w values) (ofItems values))
    (hfields : ∀ i cls fields attributes, s.objects.at_ i = some (.instance_ cls attributes) →
      Replies (w' i fields) (ofFields cls fields (s.objects.attributes attributes)))
    {v : SessionValue} (hv : Held s.objects v) :
    Replies (hashBy nodes w w' v) (hashOf s.objects ofItems ofFields v) := by
  cases v with
  | decimal text =>
      simp only [hashBy, hashOf]
      by_cases htext : Decimal.ofText text = .signaling
      · rw [if_pos htext, if_pos htext]
        exact .error _
      · rw [if_neg htext, if_neg htext]
        exact .ok _
  | ref i =>
      obtain ⟨object, hobject⟩ := Option.isSome_iff_exists.mp (hv i rfl)
      have hfits := h.fits i object hobject
      simp only [hashBy, hashOf, hobject]
      cases object with
      | tuple values =>
          obtain ⟨hkind, hvalues, hheld⟩ := hfits
          rw [if_pos hkind, ← hvalues]
          exact hitems values hheld
      | frozenset elements =>
          have hkind : nodeKind (nodeAt nodes i) = "frozenset" := hfits
          simp only [hkind, String.reduceEq, if_false, if_true]
          exact .ok _
      | instance_ cls attributes =>
          obtain ⟨hkind, hcls⟩ := hfits
          simp only [hkind, hcls, String.reduceEq, if_false, if_true, Option.map_some]
          cases hclass : cls.kind with
          | dataclass frozen fields =>
              cases frozen with
              | true => exact hfields i cls fields attributes hobject
              | false => exact .error _
          | enumeration members => exact .ok _
          | plain => exact .ok _
      | dict entries =>
          simp only [hfits.1, String.reduceEq, if_false]
          exact .error _
      | list values =>
          have hkind : nodeKind (nodeAt nodes i) = "list" := hfits
          simp only [hkind, String.reduceEq, if_false]
          exact .error _
      | set elements =>
          have hkind : nodeKind (nodeAt nodes i) = "set" := hfits
          simp only [hkind, String.reduceEq, if_false]
          exact .error _
  | none | bool | int | float | str | datetime | date | path | member | noItems | lock =>
      exact .ok _

theorem hashTuples_replies (h : Follows nodes g s) {w' : Nat → List SessionField → Finding}
    {ofFields : SessionClass → List SessionField → Entries SessionValue → Except PyExc Int}
    (hfields : ∀ i cls fields attributes, s.objects.at_ i = some (.instance_ cls attributes) →
      Replies (w' i fields) (ofFields cls fields (s.objects.attributes attributes)))
    (depth : Nat) {v : SessionValue} (hv : Held s.objects v) :
    Replies (hashTuplesFinding nodes w' depth v) (hashTuples s.objects ofFields depth v) := by
  induction depth generalizing v with
  | zero =>
      rw [hashTuplesFinding, hashTuples]
      exact hashOf_replies h (fun _ _ => .ok _) hfields hv
  | succ depth ih =>
      rw [hashTuplesFinding, hashTuples]
      exact hashOf_replies h (fun values hvalues =>
        (Replies.mapM fun v hv => ih (hvalues v hv)).map) hfields hv

/-- A field is read as the attributes say. -/
theorem readField_eq (h : Follows nodes g s) {i : Nat} {cls : SessionClass}
    {attributes : Attributes} (hi : s.objects.at_ i = some (.instance_ cls attributes))
    (f : SessionField) : readField s.objects cls (s.objects.attributes attributes) f =
      match fieldValue (g.attributes i) f with
      | some v => .ok v
      | none => .error ⟨.attributeError,
          s!"'{cls.shortName}' object has no attribute '{f.name}'"⟩ := by
  obtain ⟨hkeyed, hitems, -⟩ := h.attributes_eq hi
  rw [readField, lookup_eq hkeyed, hitems, fieldValue, Dict.get?]
  cases ((g.attributes i).entries.find? fun item => item.1 = f.name).map Prod.snd with
  | some v => rfl
  | none =>
      cases f.default with
      | some v => rfl
      | none => rfl

/-- What a field holds has an object where it refers to one. -/
theorem held_fieldValue (h : Follows nodes g s) {i : Nat} {cls : SessionClass}
    {attributes : Attributes} (hi : s.objects.at_ i = some (.instance_ cls attributes))
    {f : SessionField} {v : SessionValue} (hv : fieldValue (g.attributes i) f = some v) :
    Held s.objects v := by
  obtain ⟨-, hitems, hheld⟩ := h.attributes_eq hi
  rw [fieldValue, Option.or_eq_some_iff] at hv
  rcases hv with hv | ⟨-, hv⟩
  · obtain ⟨item, hitem, rfl⟩ := Option.map_eq_some_iff.mp hv
    have hmem := List.mem_of_find?_eq_some hitem
    rw [← hitems, textItems, List.mem_filterMap] at hmem
    obtain ⟨e, he, hmap⟩ := hmem
    obtain ⟨t, -, rfl⟩ := Option.map_eq_some_iff.mp hmap
    exact hheld e he
  · intro j hj
    rw [hj] at hv
    exact absurd hv (f.isValue j)

omit [TrustedClasses] [Json.CharTable] [PyHashing] in
theorem filterMap_of_forall₂ {α β : Type} {f : α → Option β} {xs : List α} {ys : List β}
    (h : List.Forall₂ (fun x y => f x = some y) xs ys) : xs.filterMap f = ys := by
  induction h with
  | nil => rfl
  | cons hxy _ ih => rw [List.filterMap_cons_some hxy, ih]

theorem pyHash_replies (h : Follows nodes g s) (room : Nat) {v : SessionValue}
    (hv : Held s.objects v) :
    Replies (hashFinding nodes g.attributes room v) (pyHash s.objects room v) := by
  induction room generalizing v with
  | zero =>
      rw [hashFinding, pyHash, h.length]
      exact hashTuples_replies h (fun _ _ _ _ _ => .error _) _ hv
  | succ room ih =>
      rw [hashFinding, pyHash, h.length]
      refine hashTuples_replies h (fun i cls fields attributes hi => ?_) _ hv
      refine Replies.bind (Replies.mapM fun f _ => ?_) fun values hvalues => ?_
      · rw [readField_eq h hi]
        cases fieldValue (g.attributes i) f with
        | some v => exact .ok v
        | none => exact .error _
      · have hfields : fields.filterMap (fieldValue (g.attributes i)) = values := by
          refine filterMap_of_forall₂ ((except_mapM_eq_ok.mp hvalues).imp fun f v hread => ?_)
          rw [readField_eq h hi] at hread
          split at hread
          · next w hw =>
              cases hread
              exact hw
          · cases hread
        rw [hfields]
        refine (Replies.mapM fun v hv => ih ?_).map
        rw [← hfields] at hv
        obtain ⟨f, -, hf⟩ := List.mem_filterMap.mp hv
        exact held_fieldValue h hi hf

omit [TrustedClasses] [Json.CharTable] in
theorem pyHash_text {objects : Objects} {room : Nat} {v : SessionValue} {t : String}
    (h : v.text? = some t) : pyHash objects room v = .ok (PyHashing.scalar v) := by
  have htuples : ∀ ofFields depth, hashTuples objects ofFields depth v =
      .ok (PyHashing.scalar v) := by
    intro ofFields depth
    cases v with
    | str | member => cases depth <;> rfl
    | none | bool | int | float | decimal | datetime | date | path | noItems | lock | ref =>
        cases h
  cases room with
  | zero => exact htuples _ _
  | succ room => exact htuples _ _

end

end

end SessionReading

end ImpactRelay
