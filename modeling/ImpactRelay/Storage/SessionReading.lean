/-
# `Storage.SessionReading` — where decoding a session can fail

The nodes of a session's graph say by themselves in which order they are read: an encoded value
is a scalar, a text for `Decimal` and the like, or a reference, and a reference is followed
where its node has not been read yet.  `sessionPlaces` lists what is come to on the way —
each text to be converted, each key to be hashed, each attribute to be set, each place where
the graph is malformed — without building a single object.  Of the dictionaries it keeps the
items with a text for a key, and of the objects which attributes they are given: of these the
hash of a frozen dataclass is made.

`Place.finding` says of a place by its text, its class and its kind of node whether it is fine,
refused or raises.
-/
import ImpactRelay.Lib.Dict
import ImpactRelay.Lib.Reading
import ImpactRelay.Storage.OpsSession

namespace ImpactRelay

open Raise Reading

namespace SessionReading

/-! ## What a graph says -/

section

variable [TrustedClasses] [Json.CharTable]

def nodeAt (nodes : List Json) (i : Nat) : Json := (nodes[i]?).getD .null

def nodeKind (node : Json) : String :=
  match node.field? "kind" with
  | some (.str kind) => kind
  | _ => ""

def nodeItems (node : Json) : List Json :=
  match node.field? "items" with
  | some (.arr items) => items
  | _ => []

def nodeClass (node : Json) : Option SessionClass :=
  let name := (node.field? "class").getD .null
  TrustedClasses.find (if name.truthy then name.text else "")

/-- The member that an `$enum` entry names. -/
def namedMember (value name : Json) : Option SessionValue := do
  let cls ← TrustedClasses.find name.text
  match cls.kind with
  | .enumeration members => (enumMember cls members (value.field? "value")).toOption
  | _ => none

/-- What an encoded value stands for. -/
def valueOf (value : Json) : SessionValue :=
  match value with
  | .obj _ =>
      if let some x := value.field? "$decimal" then .decimal x.text
      else if let some x := value.field? "$datetime" then .datetime x.text
      else if let some x := value.field? "$date" then .date x.text
      else if let some x := value.field? "$path" then .path x.text
      else if let some x := value.field? "$enum" then (namedMember value x).getD .none
      else
        match value.field? "$ref" with
        | some (.num n) => .ref n.toNat
        | _ => .none
  | _ => scalarValue value

end

/-! ### Items and attributes -/

/-- A dictionary: the items whose keys are texts, and how many there were when the first other
key came. -/
structure DictItems where
  texts : Dict String SessionValue := .empty
  stop : Option Nat := none

def DictItems.put (d : DictItems) (key : Option String) (x : SessionValue) : DictItems :=
  match key with
  | some name => { d with texts := d.texts.set name x }
  | none => { d with stop := some (d.stop.getD d.texts.entries.length) }

/-- The items that an object is given for attributes, up to the first key that is no text. -/
def DictItems.given (d : DictItems) : List (Option String × SessionValue) :=
  match d.stop with
  | none => d.texts.entries.map fun item => (some item.1, item.2)
  | some n => (d.texts.entries.take n).map (fun item => (some item.1, item.2)) ++ [(none, .none)]

/-- The attributes of an object: its own, or a dictionary that was put in their place. -/
inductive Given where
  | own (items : Dict String SessionValue)
  | shared (j : Nat)

/-- How far the reading is: which nodes have an object, which are being read, and what the
dictionaries and the objects hold. -/
structure Progress where
  registered : List Nat := []
  building : List Nat := []
  dicts : Nat → DictItems := fun _ => {}
  given : Nat → Given := fun _ => .own .empty

namespace Progress

def attributes (g : Progress) (i : Nat) : Dict String SessionValue :=
  match g.given i with
  | .own items => items
  | .shared j => (g.dicts j).texts

def putItem (g : Progress) (i : Nat) (key : Option String) (x : SessionValue) : Progress :=
  { g with dicts := Function.update g.dicts i ((g.dicts i).put key x) }

/-- An attribute goes into the dictionary that the object has for its attributes, and
`__dict__` puts another one in its place. -/
def putAttribute (g : Progress) (i : Nat) (name : String) (x : SessionValue) : Progress :=
  if name = "__dict__" then
    match x with
    | .ref j => { g with given := Function.update g.given i (.shared j) }
    | _ => g
  else
    match g.given i with
    | .own items => { g with given := Function.update g.given i (.own (items.set name x)) }
    | .shared j => g.putItem j (some name) x

end Progress

/-! ### Hashing -/

section

variable [TrustedClasses] [Json.CharTable]

/-- `hash` of what a value stands for, by what it is of a tuple and of a frozen dataclass. -/
def hashBy (nodes : List Json) (ofItems : List SessionValue → Finding)
    (ofFields : Nat → List SessionField → Finding) : SessionValue → Finding
  | .decimal text => if Decimal.ofText text = .signaling then .raises else .fine
  | .ref i =>
      let node := nodeAt nodes i
      if nodeKind node = "tuple" then ofItems ((nodeItems node).map valueOf)
      else if nodeKind node = "frozenset" then .fine
      else if nodeKind node = "object" then
        match (nodeClass node).map SessionClass.kind with
        | some (.dataclass true fields) => ofFields i fields
        | some (.dataclass false _) => .raises
        | _ => .fine
      else .raises
  | _ => .fine

def hashTuplesFinding (nodes : List Json) (ofFields : Nat → List SessionField → Finding) :
    Nat → SessionValue → Finding
  | 0 => hashBy nodes (fun _ => .fine) ofFields
  | depth + 1 =>
      hashBy nodes (fun items => first (items.map (hashTuplesFinding nodes ofFields depth)))
        ofFields

def fieldValue (items : Dict String SessionValue) (f : SessionField) : Option SessionValue :=
  (items.get? f.name).or f.default

/-- `hash` of what a value stands for, where the objects have those attributes and there is room
for that many calls of `__hash__`: a field that is not there is missed before the others are
hashed. -/
def hashFinding (nodes : List Json) (attributes : Nat → Dict String SessionValue) :
    Nat → SessionValue → Finding
  | 0 => hashTuplesFinding nodes (fun _ _ => .raises) nodes.length
  | room + 1 =>
      hashTuplesFinding nodes
        (fun i fields => first (
          (fields.map fun f => if (fieldValue (attributes i) f).isSome then .fine else .raises) ++
          (fields.filterMap (fieldValue (attributes i))).map (hashFinding nodes attributes room)))
        nodes.length

end

/-! ## Places -/

section

variable [TrustedClasses] [Json.CharTable]

/-- What the decoder comes to where it may not go on. -/
inductive Place where
  /-- The text, the envelope or the graph is malformed. -/
  | malformed
  /-- The text, as JSON. -/
  | loads (result : Except PyExc Json)
  /-- One more nested call of `decode` than there is room for. -/
  | tooDeep
  | decimal (text : String)
  | datetime (text : String)
  | date (text : String)
  | member (members : List (String × String)) (value : Option Json)
  | new (cls : SessionClass)
  /-- A key of a dictionary or an element of a set. -/
  | key (nodes : List Json) (attributes : Nat → Dict String SessionValue) (room : Nat)
      (v : SessionValue)
  | attribute (nodes : List Json) (cls : SessionClass) (name : String) (item : SessionValue)

/-- The value is a dictionary. -/
def isDict (nodes : List Json) : SessionValue → Bool
  | .ref i => nodeKind (nodeAt nodes i) = "dict"
  | _ => false

def Place.finding : Place → Finding
  | .malformed => .refused
  | .loads (.ok _) => .fine
  | .loads (.error exc) => if isDecodeError exc.cls then .refused else .raises
  | .tooDeep => .raises
  | .decimal text => if (Decimal.ofText text).refusal = none then .fine else .raises
  | .datetime text => if (Datetime.fromisoformat text).isSome then .fine else .raises
  | .date text => if isDate text then .fine else .raises
  | .member members value => if ∃ m ∈ members, value = some (.str m.2) then .fine else .raises
  | .new cls =>
      match cls.kind with
      | .enumeration _ => .raises
      | _ => .fine
  | .key nodes attributes room v => hashFinding nodes attributes room v
  | .attribute nodes cls name item =>
      if name = "__class__" ∨ name = "__weakref__" ∨ name ∈ cls.readOnly then .raises
      else if name = "__dict__" ∧ isDict nodes item = false then .raises
      else .fine

def Place.Holds (place : Place) : Prop := place.finding = .fine

abbrev findingOf (places : List Place) : Finding := first (places.map Place.finding)

/-! ## Reading -/

abbrev SessionReader := Reader Progress Place

open Reader

/-- The node has an object, which is empty. -/
def register (i : Nat) : SessionReader := fun g =>
  ([], { g with
    registered := i :: g.registered,
    dicts := Function.update g.dicts i {},
    given := Function.update g.given i (.own .empty) })

def keys (nodes : List Json) (room : Nat) (values : List SessionValue) : SessionReader := fun g =>
  (values.map (Place.key nodes g.attributes room), g)

/-- A list where the source asks for one. -/
def withItems (node : Json) (r : List Json → SessionReader) : SessionReader :=
  match node.field? "items" with
  | some (.arr items) => r items
  | _ => note [.malformed]

def readAttribute (nodes : List Json) (i : Nat) (cls : SessionClass)
    (item : Option String × SessionValue) : SessionReader :=
  match item with
  | (some name, x) => fun g => ([.attribute nodes cls name x], g.putAttribute i name x)
  | (none, _) => note [.malformed]

/-- The attributes that an object is given, by the dictionary that is its state as far as it has
been read. -/
def readState (nodes : List Json) (i : Nat) (cls : SessionClass) (state : SessionValue) :
    SessionReader :=
  match state with
  | .ref j =>
      if nodeKind (nodeAt nodes j) = "dict" then
        fun g => (each (readAttribute nodes i cls) ((g.dicts j).given ++
          if cls.name = storeClass then [(some "_lock", .lock i)] else [])) g
      else note [.malformed]
  | _ => note [.malformed]

section

variable (nodes : List Json) (room : Nat) (read : Json → SessionReader) (i : Nat)

def readPair (pair : Json) : SessionReader :=
  match pairOf? pair with
  | some (k, v) => (read v).andThen ((read k).andThen ((keys nodes room [valueOf k]).andThen
      fun g => ([], g.putItem i (valueOf k).text? (valueOf v))))
  | none => note [.malformed]

def readObject (node : Json) : SessionReader :=
  match nodeClass node with
  | none => note [.malformed]
  | some cls =>
      let state := (node.field? "state").getD .null
      (note [.new cls]).andThen ((register i).andThen
        ((read state).andThen (readState nodes i cls (valueOf state))))

def readNode (node : Json) : SessionReader :=
  if nodeKind node = "dict" then
    (register i).andThen (withItems node (each (readPair nodes room read i)))
  else if nodeKind node = "list" then (register i).andThen (withItems node (each read))
  else if nodeKind node = "tuple" then
    withItems node fun items => (each read items).andThen (register i)
  else if nodeKind node = "set" then
    withItems node fun items => (each read items).andThen
      ((keys nodes room (items.map valueOf)).andThen (register i))
  else if nodeKind node = "frozenset" then
    -- a set is made of the values before the frozen one
    withItems node fun items => (each read items).andThen
      ((keys nodes room (items.map valueOf)).andThen
        ((keys nodes room (items.map valueOf)).andThen (register i)))
  else if nodeKind node = "object" then readObject nodes read i node
  else note [.malformed]

/-- A node that has no object yet is read; one that is being read and has none is a tuple or a
set. -/
def readAt : SessionReader := fun g =>
  if i ∈ g.registered then ([], g)
  else if i ∈ g.building then ([.malformed], g)
  else
    match nodes[i]? with
    | some (.obj fields) =>
        let r := readNode nodes room read i (.obj fields) { g with building := i :: g.building }
        (r.1, { r.2 with building := r.2.building.erase i })
    | _ => ([.malformed], g)

end

def readRef (nodes : List Json) (room : Nat) (read : Json → SessionReader) (rawRef : Json) :
    SessionReader :=
  match rawRef with
  | .num n =>
      if n < 0 ∨ (nodes.length : Int) ≤ n then note [.malformed] else readAt nodes room read n.toNat
  | _ => note [.malformed]

def readEnum (value name : Json) : SessionReader :=
  match (TrustedClasses.find name.text).map SessionClass.kind with
  | some (.enumeration members) => note [.member members (value.field? "value")]
  | _ => note [.malformed]

def read (nodes : List Json) : Nat → Json → SessionReader
  | 0, _ => note [.tooDeep]
  | room + 1, value =>
      match value with
      | .arr _ => note [.malformed]
      | .obj _ =>
          if let some x := value.field? "$decimal" then note [.decimal x.text]
          else if let some x := value.field? "$datetime" then note [.datetime x.text]
          else if let some x := value.field? "$date" then note [.date x.text]
          else if let some _ := value.field? "$path" then note []
          else if let some x := value.field? "$enum" then readEnum value x
          else if let some x := value.field? "$ref" then readRef nodes room (read nodes room) x
          else note [.malformed]
      | _ => note []

end

/-! ## The envelope -/

section

variable [TrustedClasses] [Json.CharTable] [Interpreter]

/-- The places of a graph; its root is a dictionary. -/
def graphPlaces (nodes : List Json) (root : Json) : List Place :=
  (read nodes Interpreter.recursionLimit root {}).1 ++
    match valueOf root with
    | .ref i => if nodeKind (nodeAt nodes i) = "dict" then [] else [.malformed]
    | _ => [.malformed]

variable [Digest]

def envelopePlaces (envelope : Json) : List Place :=
  match envelope with
  | .obj _ =>
      let graph := (envelope.field? "graph").getD .null
      if envelope.field? "format" = some (.str sessionFormat) ∧
          isVersion ((envelope.field? "version").getD .null) = true ∧
          envelope.field? "sha256" = some (.str (Digest.sha256 graph.dumps)) then
        match graph.field? "root", graph.field? "nodes" with
        | some root, some (.arr nodes) => graphPlaces nodes root
        | _, _ => [.malformed]
      else [.malformed]
  | _ => [.malformed]

def sessionPlaces (raw : String) : List Place :=
  .loads (Interpreter.loads raw) ::
    match Interpreter.loads raw with
    | .ok envelope => envelopePlaces envelope
    | .error _ => []

/-- The places before the first where the text is found malformed, or all of them. -/
def reachedPlaces (raw : String) : List Place := beforeRefusal Place.finding (sessionPlaces raw)

end

end SessionReading

end ImpactRelay
