/-
# `Storage.SessionObjects` — the values that a session is decoded to

A session decodes to values, of which containers and instances are objects with an identity:
the position of the node they are decoded from.  `Objects` is what each position holds so far.

The file has what Python does with them on the decoder's behalf and where it raises: `hash`,
which a dictionary asks for before it takes a key and a set before it takes an element;
looking up a key, which asks the keys of the same hash whether they are equal; and setting an
attribute of an instance.  What `==` recurses into is left out: it answers.
-/
import ImpactRelay.Domain.Types
import ImpactRelay.Lib.DecimalText
import ImpactRelay.Lib.Raise

namespace ImpactRelay

open Raise

/-! ## Values -/

/-- A decoded value.  What is read from a text is kept by that text. -/
inductive SessionValue where
  | none
  | bool (b : Bool)
  | int (n : Int)
  | float (text : String)
  | str (s : String)
  | decimal (text : String)
  | datetime (text : String)
  | date (text : String)
  | path (text : String)
  /-- A member of an enumeration of texts. -/
  | member (cls name value : String)
  /-- The empty tuple that is the default of a field. -/
  | noItems
  /-- The lock of the store at a position. -/
  | lock (i : Nat)
  | ref (i : Nat)
deriving DecidableEq, Repr

/-- The text that a value is, where it is an instance of `str`. -/
def SessionValue.text? : SessionValue → Option String
  | .str s => some s
  | .member _ _ value => some value
  | _ => Option.none

/-- `a is b`, for objects. -/
def SessionValue.isSame (a b : SessionValue) : Bool :=
  match a, b with
  | .ref i, .ref j => i = j
  | _, _ => false

theorem SessionValue.text_of_isSame {a b : SessionValue} (h : a.isSame b = true) :
    a.text? = b.text? := by
  cases a with
  | ref i =>
      cases b with
      | ref j => rfl
      | _ => simp [isSame] at h
  | _ => simp [isSame] at h

/-! ## Classes -/

/-- A field that takes part in comparisons, with the default that is an attribute of the
class. -/
structure SessionField where
  name : String
  default : Option SessionValue := .none
  isValue : ∀ i, default ≠ some (.ref i) := by simp

inductive ClassKind where
  /-- A `str` enumeration: the names and values of its members. -/
  | enumeration (members : List (String × String))
  | dataclass (frozen : Bool) (fields : List SessionField)
  /-- Compared and hashed by identity. -/
  | plain

structure SessionClass where
  name : String
  kind : ClassKind
  /-- The properties without a setter. -/
  readOnly : List String := []

/-- `cls.__name__` -/
def SessionClass.shortName (cls : SessionClass) : String :=
  String.ofList (cls.name.toList.reverse.takeWhile (· ≠ '.')).reverse

class TrustedClasses where
  /-- `_TRUSTED_CLASSES.get(name)` -/
  find : String → Option SessionClass

/-! ## Objects -/

/-- A key of a dictionary or an element of a set, with the hash it was stored under. -/
structure SessionKey where
  hash : Int
  value : SessionValue

abbrev Entries (β : Type) := List (SessionKey × β)

/-- The `__dict__` of an instance: its own, or a dictionary that was put in its place. -/
inductive Attributes where
  | own (entries : Entries SessionValue)
  | shared (i : Nat)

inductive SessionObject where
  | dict (entries : Entries SessionValue)
  | list (items : List SessionValue)
  | tuple (items : List SessionValue)
  | set (elements : Entries Unit)
  | frozenset (elements : Entries Unit)
  | instance_ (cls : SessionClass) (attributes : Attributes)

abbrev Objects := List (Option SessionObject)

namespace Objects

def at_ (objects : Objects) (i : Nat) : Option SessionObject := objects[i]?.join

/-- The entries of the dictionary at a position. -/
def dictAt (objects : Objects) (i : Nat) : Option (Entries SessionValue) :=
  match objects.at_ i with
  | some (.dict entries) => some entries
  | _ => none

def attributes (objects : Objects) : Attributes → Entries SessionValue
  | .own entries => entries
  | .shared i => (objects.dictAt i).getD []

end Objects

/-- `type(v).__name__` -/
def Objects.typeName (objects : Objects) : SessionValue → String
  | .none => "NoneType"
  | .bool _ => "bool"
  | .int _ => "int"
  | .float _ => "float"
  | .str _ => "str"
  | .decimal _ => "decimal.Decimal"
  | .datetime _ => "datetime.datetime"
  | .date _ => "datetime.date"
  | .path _ => "PosixPath"
  | .member cls _ _ => cls
  | .noItems => "tuple"
  | .lock _ => "_thread.RLock"
  | .ref i =>
      match objects.at_ i with
      | some (.dict _) => "dict"
      | some (.list _) => "list"
      | some (.tuple _) => "tuple"
      | some (.set _) => "set"
      | some (.frozenset _) => "frozenset"
      | some (.instance_ cls _) => cls.shortName
      | none => "NoneType"

def unhashable (typeName : String) : PyExc := ⟨.typeError, "unhashable type: '" ++ typeName ++ "'"⟩

def recursionError : PyExc :=
  ⟨.other "builtins" "RecursionError", "maximum recursion depth exceeded"⟩

/-- How values are hashed and compared. -/
class PyHashing where
  /-- The hash of a value that is no container, or of an object by its identity. -/
  scalar : SessionValue → Int
  /-- The hash of a tuple by those of its items. -/
  sequence : List Int → Int
  /-- The hash of a frozen set by those of its elements. -/
  elements : List Int → Int
  /-- `a == b` -/
  eq : Objects → SessionValue → SessionValue → Bool
  /-- A text is equal to nothing but the same text, -/
  eq_text : ∀ {objects v w}, eq objects v w = true → v.text? = w.text?
  /-- which has the same hash. -/
  text_eq : ∀ {objects v w t}, v.text? = some t → w.text? = some t →
    eq objects v w = true ∧ scalar v = scalar w

section

variable [PyHashing]

/-! ## Looking up -/

/-- Whether the stored key is `v`: the same hash, and the same object or an equal one. -/
def SessionKey.matches_ (objects : Objects) (k : SessionKey) (h : Int) (v : SessionValue) : Bool :=
  decide (k.hash = h) && (k.value.isSame v || PyHashing.eq objects k.value v)

theorem SessionKey.text_of_matches {objects : Objects} {k : SessionKey} {h : Int}
    {v : SessionValue} (hk : k.matches_ objects h v = true) : k.value.text? = v.text? := by
  obtain ⟨-, hk⟩ := Bool.and_eq_true_iff.mp hk
  rcases Bool.or_eq_true_iff.mp hk with hsame | heq
  · exact SessionValue.text_of_isSame hsame
  · exact PyHashing.eq_text heq

variable {β : Type}

def Entries.lookup (objects : Objects) (h : Int) (v : SessionValue) (entries : Entries β) :
    Option β :=
  (entries.find? fun e => e.1.matches_ objects h v).map (·.2)

/-- The stored key stays when an equal one is assigned to. -/
def Entries.put (objects : Objects) (h : Int) (v : SessionValue) (x : β) : Entries β → Entries β
  | [] => [(⟨h, v⟩, x)]
  | (k, y) :: entries =>
      if k.matches_ objects h v then (k, x) :: entries
      else (k, y) :: Entries.put objects h v x entries

/-! ## Hashing -/

/-- `getattr(self, f.name)` -/
def readField (objects : Objects) (cls : SessionClass) (attributes : Entries SessionValue)
    (f : SessionField) : Except PyExc SessionValue :=
  match attributes.lookup objects (PyHashing.scalar (.str f.name)) (.str f.name), f.default with
  | some v, _ => .ok v
  | none, some v => .ok v
  | none, none =>
      .error ⟨.attributeError, s!"'{cls.shortName}' object has no attribute '{f.name}'"⟩

/-- `hash(v)`, by what it is of a tuple and of a frozen dataclass. -/
def hashOf (objects : Objects) (ofItems : List SessionValue → Except PyExc Int)
    (ofFields : SessionClass → List SessionField → Entries SessionValue → Except PyExc Int)
    (v : SessionValue) : Except PyExc Int :=
  match v with
  | .decimal text =>
      if Decimal.ofText text = .signaling then
        .error ⟨.typeError, "Cannot hash a signaling NaN value."⟩
      else .ok (PyHashing.scalar v)
  | .noItems => .ok (PyHashing.sequence [])
  | .ref i =>
      match objects.at_ i with
      | some (.tuple items) => ofItems items
      | some (.frozenset elements) => .ok (PyHashing.elements (elements.map fun e => e.1.hash))
      | some (.instance_ cls attributes) =>
          match cls.kind with
          | .dataclass true fields => ofFields cls fields (objects.attributes attributes)
          | .dataclass false _ => .error (unhashable (objects.typeName v))
          | _ => .ok (PyHashing.scalar v)
      | some _ => .error (unhashable (objects.typeName v))
      | none => .ok (PyHashing.scalar v)
  | _ => .ok (PyHashing.scalar v)

/-- A tuple is younger than its items that are tuples, so as many levels as there are objects
are enough. -/
def hashTuples (objects : Objects)
    (ofFields : SessionClass → List SessionField → Entries SessionValue → Except PyExc Int) :
    Nat → SessionValue → Except PyExc Int
  | 0 => hashOf objects (fun _ => .ok (PyHashing.sequence [])) ofFields
  | depth + 1 =>
      hashOf objects
        (fun items => return PyHashing.sequence (← items.mapM (hashTuples objects ofFields depth)))
        ofFields

/-- `hash(v)`, with room for that many calls of `__hash__`. -/
def pyHash (objects : Objects) : Nat → SessionValue → Except PyExc Int
  | 0 => hashTuples objects (fun _ _ _ => .error recursionError) objects.length
  | room + 1 =>
      hashTuples objects
        (fun cls fields attributes => do
          let values ← fields.mapM (readField objects cls attributes)
          return PyHashing.sequence (← values.mapM (pyHash objects room)))
        objects.length

/-! ## Assigning -/

variable {β : Type}

/-- `d[key] = x`, and `s.add(key)` on the entries of a set. -/
def setItem (objects : Objects) (room : Nat) (entries : Entries β) (key : SessionValue) (x : β) :
    Except PyExc (Entries β) := do
  let h ← pyHash objects room key
  return entries.put objects h key x

/-! ## Instances -/

/-- `object.__setattr__(obj, name, item)` for the object at a position, where `key` is the name
as it is stored. -/
def setAttr (objects : Objects) (i : Nat) (key : SessionValue) (name : String)
    (item : SessionValue) : Except PyExc Objects :=
  match objects.at_ i with
  | some (.instance_ cls attributes) =>
      if name = "__class__" then
        .error ⟨.typeError,
          s!"__class__ must be set to a class, not '{objects.typeName item}' object"⟩
      else if name = "__weakref__" then
        .error ⟨.attributeError,
          s!"attribute '__weakref__' of '{cls.shortName}' objects is not writable"⟩
      else if name ∈ cls.readOnly then
        .error ⟨.attributeError, s!"property '{name}' of '{cls.shortName}' object has no setter"⟩
      else if name = "__dict__" then
        match item with
        | .ref j =>
            if (objects.dictAt j).isSome then
              .ok (objects.set i (some (.instance_ cls (.shared j))))
            else
              .error ⟨.typeError,
                s!"__dict__ must be set to a dictionary, not a '{objects.typeName item}'"⟩
        | _ =>
            .error ⟨.typeError,
              s!"__dict__ must be set to a dictionary, not a '{objects.typeName item}'"⟩
      else
        let entries := (objects.attributes attributes).put objects (PyHashing.scalar key) key item
        match attributes with
        | .own _ => .ok (objects.set i (some (.instance_ cls (.own entries))))
        | .shared j => .ok (objects.set j (some (.dict entries)))
  | _ => .ok objects

end

/-- `object.__new__(cls)` -/
def newObject (cls : SessionClass) : Except PyExc SessionObject :=
  match cls.kind with
  | .enumeration _ =>
      .error ⟨.typeError,
        s!"object.__new__({cls.shortName}) is not safe, use str.__new__()"⟩
  | _ => .ok (.instance_ cls (.own []))

/-- `cls(entry["value"])`, for an enumeration. -/
def enumMember [Json.CharTable] (cls : SessionClass) (members : List (String × String))
    (value : Option Json) : Except PyExc SessionValue :=
  match value with
  | none => .error (keyError "value")
  | some value =>
      match members.find? fun m => Json.str m.2 = value with
      | some m => .ok (.member cls.shortName m.1 m.2)
      | none => .error ⟨.valueError, value.pyRepr ++ " is not a valid " ++ cls.shortName⟩

end ImpactRelay
