/-
# `Lib.Json` — JSON values and their canonical text

The values that audit payloads, snapshots and hashed bodies are made of, and
the text `json.dumps(payload, sort_keys=True, separators=(",", ":"))` writes
for them: keys sorted by code point, no blanks, every character outside the
printable ASCII range escaped.  An object keeps its fields in insertion order;
`setField` overwrites in place or appends, as assigning to a dictionary does.
`pyRepr` is the other text, the one `str` and `repr` give for the dictionary.
-/
import ImpactRelay.Lib.Dict

inductive Json where
  | null
  | bool (b : Bool)
  | num (n : Int)
  /-- A float, by the text that is written for it. -/
  | float (text : String)
  | str (s : String)
  | arr (items : List Json)
  | obj (fields : List (String × Json))

namespace Json

/-- `None` or a string. -/
def ofOption : Option String → Json
  | none => null
  | some s => str s

/-- `d[k] = v` on the fields of an object. -/
def setField (fields : List (String × Json)) (k : String) (v : Json) : List (String × Json) :=
  Dict.setEntries k v fields

/-- `d[k]`; nothing when `d` is no object or has no such key. -/
def field? (j : Json) (k : String) : Option Json :=
  match j with
  | obj fields => (fields.find? (fun e => e.1 = k)).map Prod.snd
  | _ => none

/-- The fields of an object. -/
def fields : Json → List (String × Json)
  | obj fields => fields
  | _ => []

def str? : Json → Option String
  | str s => some s
  | _ => none

@[simp] theorem field?_setField (fields : List (String × Json)) (k k' : String) (v : Json) :
    (obj (setField fields k v)).field? k' = if k' = k then some v else (obj fields).field? k' :=
  Dict.find?_setEntries k k' v fields

/-! ## Canonical text -/

def hexDigit (n : Nat) : Char :=
  Nat.digitChar (n % 16)

/-- `\uXXXX` for one UTF-16 code unit. -/
def escapeUnit (n : Nat) : List Char :=
  ['\\', 'u', hexDigit (n / 4096), hexDigit (n / 256), hexDigit (n / 16), hexDigit n]

def escapeChar (c : Char) : List Char :=
  if c = '"' then ['\\', '"']
  else if c = '\\' then ['\\', '\\']
  else if c = '\n' then ['\\', 'n']
  else if c = '\r' then ['\\', 'r']
  else if c = '\t' then ['\\', 't']
  else if c.toNat = 8 then ['\\', 'b']
  else if c.toNat = 12 then ['\\', 'f']
  else if 32 ≤ c.toNat ∧ c.toNat ≤ 126 then [c]
  else if c.toNat < 65536 then escapeUnit c.toNat
  -- outside the basic plane: a surrogate pair
  else escapeUnit (55296 + (c.toNat - 65536) / 1024) ++ escapeUnit (56320 + (c.toNat - 65536) % 1024)

def quote (s : String) : String :=
  String.ofList ('"' :: (s.toList.flatMap escapeChar ++ ['"']))

/-- Sorting the written fields by key. -/
def sortFields (fields : List (String × String)) : List (String × String) :=
  fields.mergeSort (fun a b => decide (a.1 ≤ b.1))

mutual

def dumps : Json → String
  | null => "null"
  | bool true => "true"
  | bool false => "false"
  | num n => toString n
  | float text => text
  | str s => quote s
  | arr items => "[" ++ String.intercalate "," (dumpsItems items) ++ "]"
  | obj fields =>
      "\x7b" ++ String.intercalate "," ((sortFields (dumpsFields fields)).map
        (fun e => quote e.1 ++ ":" ++ e.2)) ++ "\x7d"

def dumpsItems : List Json → List String
  | [] => []
  | j :: js => dumps j :: dumpsItems js

def dumpsFields : List (String × Json) → List (String × String)
  | [] => []
  | (k, j) :: es => (k, dumps j) :: dumpsFields es

end

/-! ## The text of `repr` -/

/-- Which characters outside ASCII `repr` writes as they are. -/
class CharTable where
  isPrintable : Char → Bool

/-- Every character outside ASCII as it is. -/
@[reducible] def CharTable.all : CharTable := ⟨fun _ => true⟩

section Repr

variable [CharTable]

def reprChar (quotes c : Char) : List Char :=
  if c = '\\' ∨ c = quotes then ['\\', c]
  else if c = '\n' then ['\\', 'n']
  else if c = '\r' then ['\\', 'r']
  else if c = '\t' then ['\\', 't']
  else if 32 ≤ c.toNat ∧ c.toNat ≤ 126 then [c]
  else if 127 < c.toNat ∧ CharTable.isPrintable c then [c]
  else if c.toNat < 256 then ['\\', 'x', hexDigit (c.toNat / 16), hexDigit c.toNat]
  else if c.toNat < 65536 then escapeUnit c.toNat
  else ['\\', 'U', '0', '0'] ++ (escapeUnit (c.toNat / 65536)).drop 4 ++
    (escapeUnit c.toNat).drop 2

/-- Single quotes unless the text has one and no double quote. -/
def reprStr (s : String) : String :=
  let quotes := if '\'' ∈ s.toList ∧ '"' ∉ s.toList then '"' else '\''
  String.ofList (quotes :: (s.toList.flatMap (reprChar quotes) ++ [quotes]))

mutual

def pyRepr : Json → String
  | null => "None"
  | bool true => "True"
  | bool false => "False"
  | num n => toString n
  | float text => text
  | str s => reprStr s
  | arr items => "[" ++ String.intercalate ", " (pyReprItems items) ++ "]"
  | obj fields => "\x7b" ++ String.intercalate ", " (pyReprFields fields) ++ "\x7d"

def pyReprItems : List Json → List String
  | [] => []
  | j :: js => pyRepr j :: pyReprItems js

def pyReprFields : List (String × Json) → List String
  | [] => []
  | (k, j) :: es => (reprStr k ++ ": " ++ pyRepr j) :: pyReprFields es

end

/-- `str(value)`. -/
def text : Json → String
  | str s => s
  | j => pyRepr j

/-- `type(value).__name__`. -/
def typeName : Json → String
  | null => "NoneType"
  | bool _ => "bool"
  | num _ => "int"
  | float _ => "float"
  | str _ => "str"
  | arr _ => "list"
  | obj _ => "dict"

/-! ### By its characters -/

def reprChars (s : String) : List Char :=
  let quotes := if '\'' ∈ s.toList ∧ '"' ∉ s.toList then '"' else '\''
  quotes :: (s.toList.flatMap (reprChar quotes) ++ [quotes])

mutual

/-- The characters of `pyRepr`, without the texts in between. -/
def pyReprChars : Json → List Char
  | null => "None".toList
  | bool true => "True".toList
  | bool false => "False".toList
  | num n => (toString n).toList
  | float text => text.toList
  | str s => reprChars s
  | arr items => '[' :: (List.intercalate [',', ' '] (pyReprCharsItems items) ++ [']'])
  | obj fields => '\x7b' :: (List.intercalate [',', ' '] (pyReprCharsFields fields) ++ ['\x7d'])

def pyReprCharsItems : List Json → List (List Char)
  | [] => []
  | j :: js => pyReprChars j :: pyReprCharsItems js

def pyReprCharsFields : List (String × Json) → List (List Char)
  | [] => []
  | (k, j) :: es => (reprChars k ++ [':', ' '] ++ pyReprChars j) :: pyReprCharsFields es

end

mutual

theorem toList_pyRepr : ∀ j : Json, j.pyRepr.toList = pyReprChars j
  | null => rfl
  | bool true => rfl
  | bool false => rfl
  | num _ => rfl
  | float _ => rfl
  | str s => by
      rw [pyRepr, reprStr, String.toList_ofList]
      rfl
  | arr items => by
      rw [pyRepr, pyReprChars, ← toList_pyReprItems items]
      simp [String.toList_append, String.toList_intercalate]
  | obj fields => by
      rw [pyRepr, pyReprChars, ← toList_pyReprFields fields]
      simp [String.toList_append, String.toList_intercalate]

theorem toList_pyReprItems :
    ∀ js : List Json, (pyReprItems js).map String.toList = pyReprCharsItems js
  | [] => rfl
  | j :: js => by
      rw [pyReprItems, pyReprCharsItems, List.map_cons, toList_pyRepr j, toList_pyReprItems js]

theorem toList_pyReprFields : ∀ es : List (String × Json),
    (pyReprFields es).map String.toList = pyReprCharsFields es
  | [] => rfl
  | (k, j) :: es => by
      rw [pyReprFields, pyReprCharsFields, List.map_cons, toList_pyReprFields es,
        String.toList_append, String.toList_append, toList_pyRepr j, reprStr,
        String.toList_ofList]
      rfl

end

end Repr

/-- Whether a value is true where a condition is expected. -/
def truthy : Json → Bool
  | null => false
  | bool b => b
  | num n => decide (n ≠ 0)
  | float text => decide (text ≠ "0.0" ∧ text ≠ "-0.0")
  | str s => decide (s ≠ "")
  | arr items => !items.isEmpty
  | obj fields => !fields.isEmpty

/-- `{**a, **b}`. -/
def merge (a b : List (String × Json)) : List (String × Json) :=
  b.foldl (fun fields e => setField fields e.1 e.2) a

/-! ## Equality -/

mutual

def beq : Json → Json → Bool
  | null, null => true
  | bool a, bool b => decide (a = b)
  | num a, num b => decide (a = b)
  | float a, float b => decide (a = b)
  | str a, str b => decide (a = b)
  | arr a, arr b => beqItems a b
  | obj a, obj b => beqFields a b
  | _, _ => false

def beqItems : List Json → List Json → Bool
  | [], [] => true
  | a :: as, b :: bs => beq a b && beqItems as bs
  | _, _ => false

def beqFields : List (String × Json) → List (String × Json) → Bool
  | [], [] => true
  | (k, a) :: as, (k', b) :: bs => decide (k = k') && (beq a b && beqFields as bs)
  | _, _ => false

end

mutual

theorem beq_iff : ∀ a b : Json, beq a b = true ↔ a = b
  | null, b => by cases b <;> simp [beq]
  | bool a, b => by cases b <;> simp [beq]
  | num a, b => by cases b <;> simp [beq]
  | float a, b => by cases b <;> simp [beq]
  | str a, b => by cases b <;> simp [beq]
  | arr as, b => by cases b <;> simp [beq, beqItems_iff as]
  | obj as, b => by cases b <;> simp [beq, beqFields_iff as]

theorem beqItems_iff : ∀ as bs : List Json, beqItems as bs = true ↔ as = bs
  | [], bs => by cases bs <;> simp [beqItems]
  | a :: as, bs => by
      cases bs with
      | nil => simp [beqItems]
      | cons b bs => simp [beqItems, beq_iff a, beqItems_iff as]

theorem beqFields_iff : ∀ as bs : List (String × Json), beqFields as bs = true ↔ as = bs
  | [], bs => by cases bs <;> simp [beqFields]
  | (k, a) :: as, bs => by
      cases bs with
      | nil => simp [beqFields]
      | cons b bs => simp [beqFields, beq_iff a, beqFields_iff as, Prod.ext_iff, and_assoc]

end

instance : DecidableEq Json := fun a b => decidable_of_iff (beq a b = true) (beq_iff a b)

end Json
