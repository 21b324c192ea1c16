/-
# `Storage.OpsSession` — decoding a session of the operator

`decode_session` (`ops_session.py`) reads a text as JSON, checks the envelope and its digest,
and builds the object graph that the nodes describe.  What is wrong with the text, the
envelope, a node or a reference is a `SessionFormatError`.  The values inside are handed to
partial operations of Python — `Decimal`, `fromisoformat`, the call of an enumeration,
`object.__new__` and `object.__setattr__`, the hash of a key, one more nested call — and what
those raise is not caught.
-/
import ImpactRelay.Domain.Ledger
import ImpactRelay.Lib.Iso
import ImpactRelay.Lib.Reading
import ImpactRelay.Storage.SessionObjects

namespace ImpactRelay

open Raise

/-! ## Calls into Python -/

class Interpreter where
  /-- How many calls of `decode` can be nested. -/
  recursionLimit : Nat
  /-- `json.loads(raw)` -/
  loads : String → Except PyExc Json
  /-- The integer that a float is equal to. -/
  whole : String → Option Int

/-- `json.JSONDecodeError` or a `UnicodeError`. -/
def isDecodeError (cls : ExcClass) : Bool :=
  cls ∈ [.other "json.decoder" "JSONDecodeError", .other "builtins" "UnicodeError",
    .other "builtins" "UnicodeDecodeError", .other "builtins" "UnicodeEncodeError"]

/-- `Decimal(text)` -/
def decimalValue (text : String) : Except PyExc SessionValue :=
  match (Decimal.ofText text).refusal with
  | none => .ok (.decimal text)
  | some msg => .error ⟨.invalidOperation, msg⟩

/-- `date.fromisoformat(text)` has a result. -/
def isDate (text : String) : Bool := (Datetime.readDate text.toList).any fun d => d.2.isEmpty

section

variable [Json.CharTable]

def invalidIsoformat (text : String) : PyExc :=
  ⟨.valueError, "Invalid isoformat string: " ++ (Json.str text).pyRepr⟩

/-- `datetime.fromisoformat(text)` -/
def datetimeValue (text : String) : Except PyExc SessionValue :=
  match Datetime.fromisoformat text with
  | some _ => .ok (.datetime text)
  | none => .error (invalidIsoformat text)

/-- `date.fromisoformat(text)` -/
def dateValue (text : String) : Except PyExc SessionValue :=
  if isDate text then .ok (.date text) else .error (invalidIsoformat text)

end

/-! ## The decoder -/

structure DecoderState where
  objects : Objects
  building : List Nat := []

/-- A `SessionFormatError`, or what a call into Python raised. -/
abbrev SessionFailure := Reading.Stop PyExc String

abbrev Decoding := EStateM SessionFailure DecoderState

namespace Decoding

/-- `raise SessionFormatError(msg)` -/
def reject {α : Type} (msg : String) : Decoding α := throw (.refused msg)

/-- What Python is asked for; its exception is not caught. -/
def call {α : Type} (result : Except PyExc α) : Decoding α := okOrRaise (result.mapError .raised)

def register (i : Nat) (object : SessionObject) : Decoding Unit :=
  modify fun s => { s with objects := s.objects.set i (some object) }

end Decoding

open Decoding

/-- A value that is written as itself. -/
def scalarValue : Json → SessionValue
  | .bool b => .bool b
  | .num n => .int n
  | .float text => .float text
  | .str s => .str s
  | _ => .none

/-- A key and its value. -/
def pairOf? : Json → Option (Json × Json)
  | .arr [k, v] => some (k, v)
  | _ => none

def listItems (msg : String) (node : Json) : Decoding (List Json) :=
  match node.field? "items" with
  | some (.arr items) => return items
  | _ => reject msg

/-- `_items` -/
def containerItems (node : Json) : Decoding (List Json) :=
  listItems "container items must be a list" node

section

variable [TrustedClasses] [PyHashing] [Json.CharTable]

def classOf (name : String) : Decoding SessionClass :=
  match TrustedClasses.find name with
  | some cls => return cls
  | none => reject ("unsupported session class: " ++ name)

def decodeEnum (value name : Json) : Decoding SessionValue := do
  let cls ← classOf name.text
  match cls.kind with
  | .enumeration members => call (enumMember cls members (value.field? "value"))
  | _ => reject "session enum class is not an enum"

/-! ### Nodes -/

section

-- `decode` on what is nested in the node, with room for that many calls
variable (room : Nat) (decode : Json → Decoding SessionValue) (i : Nat)

/-- The value is decoded before the key. -/
def decodePair (pair : Json) : Decoding Unit :=
  match pairOf? pair with
  | some (k, v) => do
      let value ← decode v
      let key ← decode k
      let s ← get
      let entries ← call (setItem s.objects room ((s.objects.dictAt i).getD []) key value)
      register i (.dict entries)
  | none => reject "dictionary item must be a key/value pair"

def decodeDict (node : Json) : Decoding Unit := do
  register i (.dict [])
  (← listItems "dictionary items must be a list" node).forM (decodePair room decode i)

/-- `obj.append(v)` for the list at the position. -/
def appendItem (v : SessionValue) : Decoding Unit :=
  modify fun s =>
    match s.objects.at_ i with
    | some (.list items) => { s with objects := s.objects.set i (some (.list (items ++ [v]))) }
    | _ => s

def decodeList (node : Json) : Decoding Unit := do
  register i (.list [])
  (← containerItems node).forM fun item => do appendItem i (← decode item)

/-- `set(values)` -/
def setOf (values : List SessionValue) : Decoding (Entries Unit) :=
  values.foldlM (fun elements v => do
    let s ← get
    call (setItem s.objects room elements v ())) []

/-- Registered when it is complete. -/
def decodeImmutable (kind : String) (node : Json) : Decoding Unit := do
  let values ← (← containerItems node).mapM decode
  if kind = "tuple" then
    register i (.tuple values)
  else
    let elements ← setOf room values
    if kind = "frozenset" then
      let elements ← setOf room values
      register i (.frozenset elements)
    else
      register i (.set elements)

def setAttribute (key : SessionValue) (item : SessionValue) : Decoding Unit := do
  match key.text? with
  | some name =>
      let s ← get
      let objects ← call (setAttr s.objects i key name item)
      set { s with objects }
  | none => reject "session object attribute must be a string"

def storeClass : String := "impact_relay.workflows.store_memory.InMemoryWorkflowStore"

/-- The attributes of the object, by its state. -/
def giveState (cls : SessionClass) (state : SessionValue) : Decoding Unit := do
  let s ← get
  match state with
  | .ref j =>
      match s.objects.dictAt j with
      | some entries =>
          entries.forM fun e => setAttribute i e.1.value e.2
          if cls.name = storeClass then
            setAttribute i (.str "_lock") (.lock i)
      | none => reject "session object state must be a dictionary"
  | _ => reject "session object state must be a dictionary"

def decodeObject (node : Json) : Decoding Unit := do
  let name := (node.field? "class").getD .null
  let cls ← classOf (if name.truthy then name.text else "")
  register i (← call (newObject cls))
  giveState i cls (← decode ((node.field? "state").getD .null))

def decodeNode (node : Json) : Decoding Unit :=
  match node.field? "kind" with
  | some (.str kind) =>
      if kind = "dict" then decodeDict room decode i node
      else if kind = "list" then decodeList decode i node
      else if kind ∈ ["tuple", "set", "frozenset"] then decodeImmutable room decode i kind node
      else if kind = "object" then decodeObject decode i node
      else reject ("unknown session node kind: " ++ (Json.str kind).pyRepr)
  | kind => reject ("unknown session node kind: " ++ (kind.getD .null).pyRepr)

end

/-- The object at a position: the one that is registered, or the one its node describes. -/
def decodeAt (nodes : List Json) (room : Nat) (decode : Json → Decoding SessionValue) (i : Nat) :
    Decoding SessionValue := do
  let s ← get
  if (s.objects.at_ i).isSome then return .ref i
  -- an object that is being built and not registered is a tuple or a set
  else if i ∈ s.building then reject "unsupported cycle through immutable container"
  else
    match nodes[i]? with
    | some (.obj fields) =>
        modify fun s => { s with building := i :: s.building }
        decodeNode room decode i (.obj fields)
        modify fun s => { s with building := s.building.erase i }
        return .ref i
    | _ => reject "session node must be an object"

def decodeRef (nodes : List Json) (room : Nat) (decode : Json → Decoding SessionValue)
    (rawRef : Json) : Decoding SessionValue :=
  match rawRef with
  | .num n =>
      if n < 0 ∨ (nodes.length : Int) ≤ n then reject "session reference is out of range"
      else decodeAt nodes room decode n.toNat
  | _ => reject "session reference must be an integer"

def decode (nodes : List Json) : Nat → Json → Decoding SessionValue
  | 0, _ => call (.error recursionError)
  | room + 1, value =>
      match value with
      | .arr _ => reject "invalid encoded session value"
      | .obj _ =>
          if let some x := value.field? "$decimal" then call (decimalValue x.text)
          else if let some x := value.field? "$datetime" then call (datetimeValue x.text)
          else if let some x := value.field? "$date" then call (dateValue x.text)
          else if let some x := value.field? "$path" then return .path x.text
          else if let some x := value.field? "$enum" then decodeEnum value x
          else if let some x := value.field? "$ref" then decodeRef nodes room (decode nodes room) x
          else reject "unknown encoded session value"
      | _ => return scalarValue value

/-! ### The envelope -/

def sessionFormat : String := "impact-relay-ops-session"

def sessionVersion : Int := 1

variable [Interpreter]

/-- `value == 1`: also for a float that is one, and for `True`. -/
def isVersion : Json → Bool
  | .num n => n = sessionVersion
  | .float text => Interpreter.whole text = some sessionVersion
  | .bool b => b
  | _ => false

/-- A decoded session: the position of its root, which is a dictionary, and the objects. -/
structure Session where
  objects : Objects
  root : Nat
  isDict : (objects.dictAt root).isSome

/-- The objects that are decoded, and the value of the root. -/
def decodeGraph (nodes : List Json) (root : Json) : Except SessionFailure Session :=
  match decode nodes Interpreter.recursionLimit root
      { objects := List.replicate nodes.length none } with
  | .ok (.ref i) s =>
      if h : (s.objects.dictAt i).isSome then .ok ⟨s.objects, i, h⟩
      else .error (.refused "workflow session payload must be a dictionary")
  | .ok _ _ => .error (.refused "workflow session payload must be a dictionary")
  | .error failure _ => .error failure

variable [Digest]

def decodeEnvelope (envelope : Json) : Except SessionFailure Session :=
  match envelope with
  | .obj _ =>
      let version := (envelope.field? "version").getD .null
      let graph := (envelope.field? "graph").getD .null
      if envelope.field? "format" ≠ some (.str sessionFormat) then
        .error (.refused "unsupported workflow session format")
      else if !isVersion version then
        .error (.refused ("unsupported workflow session version: " ++ version.pyRepr))
      else if envelope.field? "sha256" ≠ some (.str (Digest.sha256 graph.dumps)) then
        .error (.refused "workflow session integrity check failed")
      else
        match graph.field? "root", graph.field? "nodes" with
        | none, _ => .error (.refused "workflow session graph is malformed")
        | some root, some (.arr nodes) => decodeGraph nodes root
        | some _, _ => .error (.refused "session nodes must be a list")
  | _ => .error (.refused "workflow session envelope must be an object")

def decodeSession (raw : String) : Except SessionFailure Session :=
  match Interpreter.loads raw with
  | .ok envelope => decodeEnvelope envelope
  | .error exc =>
      if isDecodeError exc.cls then .error (.refused "workflow session is not valid JSON")
      else .error (.raised exc)

/-- A dictionary is returned, or `SessionFormatError` is raised. -/
def Guarded (raw : String) : Prop :=
  (∃ payload, decodeSession raw = .ok payload) ∨ ∃ msg, decodeSession raw = .error (.refused msg)

end

end ImpactRelay
