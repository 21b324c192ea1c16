/-
# `Lib.JsonText` — an object of scalars is read off its canonical text

A text is self-delimiting when whoever reads on from its start can tell where it
ends.  An escaped character is, so a quoted string is, so a field of an object is;
and so two objects of strings, booleans and `null` with one canonical text have
the same fields (`perm_of_dumps`), whatever the strings contain.
-/
import ImpactRelay.Lib.SortedJson

/-- Whatever follows, the texts of two values start alike only for one value. -/
def SelfDelimiting {α : Type} (P : α → Prop) (text : α → List Char) : Prop :=
  ∀ a b rest rest', P a → P b → text a ++ rest = text b ++ rest' → a = b ∧ rest = rest'

namespace SelfDelimiting

variable {α β : Type} {P : α → Prop} {text : α → List Char}

/-- A reader that finds the value at the start of the text. -/
theorem of_reader {read : List Char → Option (α × List Char)}
    (h : ∀ a rest, P a → read (text a ++ rest) = some (a, rest)) : SelfDelimiting P text := by
  intro a b rest rest' ha hb heq
  have hread := (h a rest ha).symm.trans ((congrArg read heq).trans (h b rest' hb))
  exact Prod.ext_iff.mp (Option.some.inj hread)

/-- A value between fixed texts. -/
theorem enclosed (h : SelfDelimiting P text) (before after_ : List Char) :
    SelfDelimiting P fun a => before ++ text a ++ after_ := by
  intro a b rest rest' ha hb heq
  simp only [List.append_assoc, List.append_cancel_left_eq] at heq
  obtain ⟨hab, hrest⟩ := h a b _ _ ha hb heq
  exact ⟨hab, List.append_cancel_left hrest⟩

/-- One value after the other. -/
theorem pair {Q : β → Prop} {text' : β → List Char} (h : SelfDelimiting P text)
    (h' : SelfDelimiting Q text') :
    SelfDelimiting (fun e : α × β => P e.1 ∧ Q e.2) fun e => text e.1 ++ text' e.2 := by
  intro a b rest rest' ha hb heq
  simp only [List.append_assoc] at heq
  obtain ⟨hfst, heq⟩ := h _ _ _ _ ha.1 hb.1 heq
  obtain ⟨hsnd, hrest⟩ := h' _ _ _ _ ha.2 hb.2 heq
  exact ⟨Prod.ext hfst hsnd, hrest⟩

/-- Values up to a character none of them starts with. -/
theorem flatMap {stop : Char} (h : SelfDelimiting P text)
    (hstop : ∀ a, P a → ∃ c cs, text a = c :: cs ∧ c ≠ stop) :
    SelfDelimiting (fun as : List α => ∀ a ∈ as, P a) fun as => as.flatMap text ++ [stop] := by
  have hopen : ∀ a as rest rest', P a →
      (a :: as).flatMap text ++ [stop] ++ rest ≠ stop :: rest' := by
    intro a as rest rest' ha heq
    obtain ⟨c, cs, hc, hne⟩ := hstop a ha
    rw [List.flatMap_cons, hc] at heq
    exact hne (List.head_eq_of_cons_eq heq)
  intro as
  induction as with
  | nil =>
      intro bs rest rest' _ hbs heq
      cases bs with
      | nil => exact ⟨rfl, List.tail_eq_of_cons_eq heq⟩
      | cons b bs => exact absurd heq.symm (hopen b bs rest' rest (hbs b List.mem_cons_self))
  | cons a as ih =>
      intro bs rest rest' has hbs heq
      cases bs with
      | nil => exact absurd heq (hopen a as rest rest' (has a List.mem_cons_self))
      | cons b bs =>
          simp only [List.flatMap_cons, List.append_assoc] at heq
          obtain ⟨rfl, heq⟩ :=
            h a b _ _ (has a List.mem_cons_self) (hbs b List.mem_cons_self) heq
          obtain ⟨rfl, hrest⟩ := ih bs rest rest' (fun x hx => has x (List.mem_cons_of_mem a hx))
            (fun x hx => hbs x (List.mem_cons_of_mem a hx)) (by simpa using heq)
          exact ⟨rfl, hrest⟩

/-- Values with a separator between them, up to a character none of them starts
with and that is not the separator. -/
theorem separated {separator stop : Char} (h : SelfDelimiting P text) (hne : separator ≠ stop)
    (hstop : ∀ a, P a → ∃ c cs, text a = c :: cs ∧ c ≠ stop) :
    SelfDelimiting (fun as : List α => ∀ a ∈ as, P a)
      fun as => [separator].intercalate (as.map text) ++ [stop] := by
  -- behind the first value each of the others follows its separator
  have htail : ∀ a as, [separator].intercalate ((a :: as).map text) =
      text a ++ as.flatMap fun b => separator :: text b := by
    intro a as
    induction as generalizing a with
    | nil => simp
    | cons b bs ih =>
        have hrest := ih b
        simp only [List.map_cons] at hrest ⊢
        rw [List.intercalate_cons_cons, hrest, List.flatMap_cons, List.append_assoc]
        rfl
  have hlist := flatMap (h.enclosed [separator] []) fun a _ => ⟨separator, _, rfl, hne⟩
  have hopen : ∀ a as rest rest', P a →
      [separator].intercalate ((a :: as).map text) ++ [stop] ++ rest ≠ stop :: rest' := by
    intro a as rest rest' ha heq
    obtain ⟨c, cs, hc, hne⟩ := hstop a ha
    rw [htail, hc] at heq
    exact hne (List.head_eq_of_cons_eq heq)
  intro as bs rest rest' has hbs heq
  cases as with
  | nil =>
      cases bs with
      | nil => exact ⟨rfl, List.tail_eq_of_cons_eq heq⟩
      | cons b bs => exact absurd heq.symm (hopen b bs rest' rest (hbs b List.mem_cons_self))
  | cons a as =>
      cases bs with
      | nil => exact absurd heq (hopen a as rest rest' (has a List.mem_cons_self))
      | cons b bs =>
          simp only [htail, List.append_assoc] at heq
          obtain ⟨rfl, heq⟩ :=
            h a b _ _ (has a List.mem_cons_self) (hbs b List.mem_cons_self) heq
          have heq' := hlist as bs rest rest' (fun x hx => has x (List.mem_cons_of_mem a hx))
            (fun x hx => hbs x (List.mem_cons_of_mem a hx)) (by simpa using heq)
          exact ⟨congrArg _ heq'.1, heq'.2⟩

end SelfDelimiting

namespace Json

/-! ## Characters -/

def hexValue (c : Char) : Nat := if c.isDigit then c.toNat - 48 else c.toNat - 87

theorem hexValue_hexDigit (n : Nat) : hexValue (hexDigit n) = n % 16 := by
  have hall : ∀ m < 16, hexValue (Nat.digitChar m) = m := by decide
  exact hall _ (Nat.mod_lt _ (by decide))

/-- The code unit of four hexadecimal digits. -/
def unitValue (a b c d : Char) : Nat :=
  hexValue a * 4096 + hexValue b * 256 + hexValue c * 16 + hexValue d

theorem unitValue_hexDigit {n : Nat} (h : n < 65536) :
    unitValue (hexDigit (n / 4096)) (hexDigit (n / 256)) (hexDigit (n / 16)) (hexDigit n) = n := by
  rw [unitValue, hexValue_hexDigit, hexValue_hexDigit, hexValue_hexDigit, hexValue_hexDigit]
  omega

/-- The code point of a surrogate pair. -/
def pairValue (high low : Nat) : Nat := 65536 + (high - 55296) * 1024 + (low - 56320)

theorem pairValue_split {n : Nat} (h : 65536 ≤ n) :
    pairValue (55296 + (n - 65536) / 1024) (56320 + (n - 65536) % 1024) = n := by
  unfold pairValue
  omega

/-- The character behind `\u`: one code unit, or the two of a surrogate pair. -/
def readUnit : List Char → Option (Char × List Char)
  | a :: b :: c :: d :: rest =>
      let n := unitValue a b c d
      if 55296 ≤ n ∧ n < 56320 then
        match rest with
        | '\\' :: 'u' :: a :: b :: c :: d :: rest =>
            some (.ofNat (pairValue n (unitValue a b c d)), rest)
        | _ => none
      else some (.ofNat n, rest)
  | _ => none

/-- The first character of an escaped text. -/
def readChar : List Char → Option (Char × List Char)
  | [] => none
  | c :: rest =>
      if c ≠ '\\' then some (c, rest)
      else match rest with
        | [] => none
        | e :: rest =>
            if e = '"' then some ('"', rest)
            else if e = '\\' then some ('\\', rest)
            else if e = 'n' then some ('\n', rest)
            else if e = 'r' then some ('\r', rest)
            else if e = 't' then some ('\t', rest)
            else if e = 'b' then some (.ofNat 8, rest)
            else if e = 'f' then some (.ofNat 12, rest)
            else if e = 'u' then readUnit rest
            else none

theorem readUnit_plain {n : Nat} (h : n < 65536) (hplain : ¬ (55296 ≤ n ∧ n < 56320))
    (rest : List Char) : readUnit ((escapeUnit n).drop 2 ++ rest) = some (.ofNat n, rest) := by
  show (let m := unitValue _ _ _ _; if 55296 ≤ m ∧ m < 56320 then _ else some (Char.ofNat m, rest)) = _
  simp only [unitValue_hexDigit h]
  rw [if_neg hplain]

theorem readUnit_pair {high low : Nat} (h : 55296 ≤ high ∧ high < 56320) (hlow : low < 65536)
    (rest : List Char) : readUnit ((escapeUnit high).drop 2 ++ (escapeUnit low ++ rest)) =
      some (.ofNat (pairValue high low), rest) := by
  have hunit := unitValue_hexDigit (Nat.lt_trans h.2 (by decide))
  simp only [escapeUnit, List.drop_succ_cons, List.drop_zero, List.cons_append, List.nil_append,
    readUnit, hunit, unitValue_hexDigit hlow, if_pos h]

theorem readChar_escapeUnit (n : Nat) (rest : List Char) :
    readChar (escapeUnit n ++ rest) = readUnit ((escapeUnit n).drop 2 ++ rest) := rfl

theorem readChar_escapeChar (c : Char) (rest : List Char) :
    readChar (escapeChar c ++ rest) = some (c, rest) := by
  unfold escapeChar
  split
  case isTrue h => subst h; rfl
  split
  case isTrue h => subst h; rfl
  split
  case isTrue h => subst h; rfl
  split
  case isTrue h => subst h; rfl
  split
  case isTrue h => subst h; rfl
  split
  case isTrue h => rw [← Char.ofNat_toNat c, h]; rfl
  split
  case isTrue h => rw [← Char.ofNat_toNat c, h]; rfl
  case isFalse hquote hbackslash _ _ _ _ _ =>
    split
    case isTrue => exact if_pos hbackslash
    split
    -- no character is a surrogate
    case isTrue h =>
      have hplain : ¬ (55296 ≤ c.toNat ∧ c.toNat < 56320) := by
        have hvalid := c.valid
        rcases hvalid with hlow | ⟨hhigh, _⟩
        · intro hs
          exact absurd hlow (Nat.not_lt.mpr hs.1)
        · intro hs
          have : c.toNat > 57343 := hhigh
          omega
      rw [readChar_escapeUnit, readUnit_plain h hplain, Char.ofNat_toNat]
    case isFalse h =>
      have hlt : c.toNat < 1114112 := by
        have hvalid := c.valid
        rcases hvalid with hlow | ⟨_, hhigh⟩
        · exact Nat.lt_trans hlow (by decide)
        · exact hhigh
      have hhigh : 55296 ≤ 55296 + (c.toNat - 65536) / 1024 ∧
          55296 + (c.toNat - 65536) / 1024 < 56320 := by omega
      have hlow : 56320 + (c.toNat - 65536) % 1024 < 65536 := by omega
      rw [List.append_assoc, readChar_escapeUnit, readUnit_pair hhigh hlow,
        pairValue_split (Nat.not_lt.mp h), Char.ofNat_toNat]

theorem escapeChar_open (c : Char) : ∃ d ds, escapeChar c = d :: ds ∧ d ≠ '"' := by
  unfold escapeChar
  split
  case isTrue => exact ⟨_, _, rfl, by decide⟩
  case isFalse hquote =>
    repeat' split
    all_goals first | exact ⟨_, _, rfl, by decide⟩ | exact ⟨c, _, rfl, hquote⟩

/-! ## Strings and scalars -/

theorem selfDelimiting_quote : SelfDelimiting (fun _ : String => True) fun s => (quote s).toList := by
  have hchars := SelfDelimiting.flatMap (SelfDelimiting.of_reader (P := fun _ : Char => True)
    fun c rest _ => readChar_escapeChar c rest) fun c _ => escapeChar_open c
  have hquoted := hchars.enclosed ['"'] []
  intro s s' rest rest' _ _ heq
  simp only [quote, String.toList_ofList] at heq
  have htext := hquoted s.toList s'.toList rest rest' (fun _ _ => trivial) (fun _ _ => trivial)
    (by simpa using heq)
  exact ⟨String.toList_inj.mp htext.1, htext.2⟩

/-- Strings, booleans and `null`. -/
def Scalar : Json → Prop
  | null | bool _ | str _ => True
  | _ => False

@[simp] theorem scalar_str (s : String) : Scalar (str s) := trivial

@[simp] theorem scalar_bool (b : Bool) : Scalar (bool b) := trivial

@[simp] theorem scalar_ofOption (o : Option String) : Scalar (ofOption o) := by
  cases o <;> exact trivial

theorem quote_open (s : String) : ∃ ds, (quote s).toList = '"' :: ds := by
  simp only [quote, String.toList_ofList]
  exact ⟨_, rfl⟩

theorem selfDelimiting_scalar : SelfDelimiting Scalar fun j => (dumps j).toList := by
  have hnull : (dumps null).toList = ['n', 'u', 'l', 'l'] := by decide
  have htrue : (dumps (bool true)).toList = ['t', 'r', 'u', 'e'] := by decide
  have hfalse : (dumps (bool false)).toList = ['f', 'a', 'l', 's', 'e'] := by decide
  have hstr : ∀ s, ∃ ds, (dumps (str s)).toList = '"' :: ds := quote_open
  intro a b rest rest' ha hb heq
  rcases a with _ | (_ | _) | _ | _ | s | _ | _
  all_goals first | exact ha.elim | skip
  all_goals rcases b with _ | (_ | _) | _ | _ | s' | _ | _
  all_goals first | exact hb.elim | skip
  case str.str =>
    obtain ⟨rfl, hrest⟩ := selfDelimiting_quote s s' rest rest' trivial trivial heq
    exact ⟨rfl, hrest⟩
  -- otherwise the first letters tell the values apart
  case str.null | str.bool.false | str.bool.true =>
    obtain ⟨ds, hs⟩ := hstr s
    simp [hs, hnull, htrue, hfalse] at heq
  case null.str | bool.false.str | bool.true.str =>
    obtain ⟨ds, hs⟩ := hstr s'
    simp [hs, hnull, htrue, hfalse] at heq
  all_goals simp_all

/-! ## Objects -/

/-- The text of a field. -/
def fieldText (e : String × Json) : List Char := (quote e.1).toList ++ ':' :: (dumps e.2).toList

theorem selfDelimiting_fieldText : SelfDelimiting (fun e => Scalar e.2) fieldText := by
  have hfield := (selfDelimiting_quote.enclosed [] [':']).pair selfDelimiting_scalar
  intro e e' rest rest' he he' heq
  refine hfield e e' rest rest' ⟨trivial, he⟩ ⟨trivial, he'⟩ ?_
  simpa [fieldText] using heq

theorem toList_dumps_obj (fields : List (String × Json)) : (dumps (obj fields)).toList =
    '\x7b' :: ([','].intercalate ((fields.mergeSort keyLe).map fieldText) ++ ['\x7d']) := by
  have hfields : ∀ es : List (String × Json), dumpsFields es = es.map fun e => (e.1, e.2.dumps) := by
    intro es
    induction es with
    | nil => rfl
    | cons e es ih =>
        rw [dumpsFields, ih]
        rfl
  have hsort : sortFields (fields.map fun e => (e.1, e.2.dumps)) =
      (fields.mergeSort keyLe).map fun e => (e.1, e.2.dumps) :=
    (List.map_mergeSort (r := keyLe) (s := fun a b : String × String => decide (a.1 ≤ b.1))
      (f := fun e => (e.1, e.2.dumps)) fun _ _ _ _ => rfl).symm
  have htexts : ∀ es : List (String × Json),
      (es.map fun e => (quote e.1).toList ++ ':' :: (dumps e.2).toList) = es.map fieldText :=
    fun _ => rfl
  rw [dumps, hfields, hsort]
  simp [String.toList_intercalate, Function.comp_def, htexts]

/-- Objects of scalars with one canonical text have the same fields. -/
theorem perm_of_dumps {fields fields' : List (String × Json)} (hscalar : ∀ e ∈ fields, Scalar e.2)
    (hscalar' : ∀ e ∈ fields', Scalar e.2) (h : dumps (obj fields) = dumps (obj fields')) :
    fields.Perm fields' := by
  have hopen : ∀ e : String × Json, Scalar e.2 → ∃ c cs, fieldText e = c :: cs ∧ c ≠ '\x7d' := by
    intro e _
    obtain ⟨ds, hds⟩ := quote_open e.1
    exact ⟨'"', _, by rw [fieldText, hds]; rfl, by decide⟩
  have hobject := selfDelimiting_fieldText.separated (show ',' ≠ '\x7d' by decide) hopen
  have htext := congrArg String.toList h
  rw [toList_dumps_obj, toList_dumps_obj] at htext
  have hsorted := hobject (fields.mergeSort keyLe) (fields'.mergeSort keyLe) [] []
    (fun e he => hscalar e (List.mem_mergeSort.mp he))
    (fun e he => hscalar' e (List.mem_mergeSort.mp he))
    (by simpa using List.tail_eq_of_cons_eq htext)
  exact (List.mergeSort_perm fields keyLe).symm.trans
    (hsorted.1 ▸ List.mergeSort_perm fields' keyLe)

/-- Objects of scalars written with one list of keys differ in text where they differ. -/
theorem eq_of_dumps {fields fields' : List (String × Json)}
    (hkeys : fields.map Prod.fst = fields'.map Prod.fst) (hnodup : (fields.map Prod.fst).Nodup)
    (hscalar : ∀ e ∈ fields, Scalar e.2) (hscalar' : ∀ e ∈ fields', Scalar e.2)
    (h : dumps (obj fields) = dumps (obj fields')) : fields = fields' := by
  have hperm := perm_of_dumps hscalar hscalar' h
  have heq : (⟨fields, hnodup⟩ : Dict String Json) = ⟨fields', hkeys ▸ hnodup⟩ :=
    Dict.ext_of_keys hkeys fun k _ => Dict.get?_of_perm hperm k
  exact congrArg Dict.entries heq

@[simp] theorem ofOption_inj {o o' : Option String} : ofOption o = ofOption o' ↔ o = o' := by
  cases o <;> cases o' <;> simp [ofOption]

end Json
