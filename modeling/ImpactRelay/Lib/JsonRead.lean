/-
# `Lib.JsonRead` — reading JSON texts back

`loads` is `json.loads` on a text without lone surrogates: blanks between the parts, the
escapes of a string, whole numbers of at most so many digits, floats by the text that is
written for them, and objects in which the last value of a repeated key counts.  `write` is
the compact text of a value, its fields in the order they are in, under either way of
escaping: every character outside ASCII (`escapeChar`, the text of `dumps`), or quotes,
backslashes and control characters only (`escapeRaw`).

    a character read back, however it is escaped         (`readOne_escapeChar`, `readOne_escapeRaw`)
    a number read back, whatever closes it               (`readNumber_append`)
    a value read back, whatever closes it                (`readValue_write`)
    the text of a value is read as the value             (`loads_write`, `loads_dumps`)
    no key twice in an object that is read               (`loads_keyed`)
-/
import ImpactRelay.Lib.JsonText

namespace Json

/-! ## Strings -/

def isHex (c : Char) : Bool :=
  c.isDigit || (decide ('a' ≤ c) && decide (c ≤ 'f')) ||
    (decide ('A' ≤ c) && decide (c ≤ 'F'))

/-- Four hexadecimal digits of either case. -/
def readHex4 : List Char → Option (Nat × List Char)
  | a :: b :: c :: d :: cs =>
      if isHex a && isHex b && isHex c && isHex d then
        some (unitValue a.toLower b.toLower c.toLower d.toLower, cs)
      else none
  | _ => none

/-- The character behind `\u`.  Half of a surrogate pair is no character. -/
def readCodePoint (cs : List Char) : Option (Char × List Char) :=
  match readHex4 cs with
  | none => none
  | some (n, cs) =>
      if 55296 ≤ n ∧ n < 56320 then
        match cs with
        | '\\' :: 'u' :: cs =>
            match readHex4 cs with
            | none => none
            | some (low, cs) =>
                if 56320 ≤ low ∧ low < 57344 then some (.ofNat (pairValue n low), cs) else none
        | _ => none
      else if 56320 ≤ n ∧ n < 57344 then none
      else some (.ofNat n, cs)

/-- The character behind a backslash. -/
def readEscape : List Char → Option (Char × List Char)
  | '"' :: cs => some ('"', cs)
  | '\\' :: cs => some ('\\', cs)
  | '/' :: cs => some ('/', cs)
  | 'b' :: cs => some (.ofNat 8, cs)
  | 'f' :: cs => some (.ofNat 12, cs)
  | 'n' :: cs => some ('\n', cs)
  | 'r' :: cs => some ('\r', cs)
  | 't' :: cs => some ('\t', cs)
  | 'u' :: cs => readCodePoint cs
  | _ => none

/-- The first character of a string, escaped or not. -/
def readOne : List Char → Option (Char × List Char)
  | [] => none
  | c :: cs => if c = '\\' then readEscape cs else if c.toNat < 32 then none else some (c, cs)

/-- The characters of a string up to its closing quote, at most so many. -/
def readChars : Nat → List Char → Option (List Char × List Char)
  | 0, _ => none
  | n + 1, cs =>
      if cs.head? = some '"' then some ([], cs.tail)
      else (readOne cs).bind fun r => (readChars n r.2).map fun t => (r.1 :: t.1, t.2)

/-- A string behind its opening quote. -/
def readString (cs : List Char) : Option (String × List Char) :=
  (readChars cs.length cs).map fun r => (String.ofList r.1, r.2)

/-- `ensure_ascii=False`: quotes, backslashes and control characters only. -/
def escapeRaw (c : Char) : List Char :=
  if c = '"' then ['\\', '"']
  else if c = '\\' then ['\\', '\\']
  else if c = '\n' then ['\\', 'n']
  else if c = '\r' then ['\\', 'r']
  else if c = '\t' then ['\\', 't']
  else if c.toNat = 8 then ['\\', 'b']
  else if c.toNat = 12 then ['\\', 'f']
  else if c.toNat < 32 then escapeUnit c.toNat
  else [c]

/-- What a reader of strings undoes. -/
structure Escapes (esc : Char → List Char) : Prop where
  read : ∀ c rest, readOne (esc c ++ rest) = some (c, rest)
  starts : ∀ c, ∃ d ds, esc c = d :: ds ∧ d ≠ '"'

theorem isHex_hexDigit (n : Nat) : isHex (hexDigit n) = true := by
  have hall : ∀ m < 16, isHex (Nat.digitChar m) = true := by decide
  exact hall _ (Nat.mod_lt _ (by decide))

theorem toLower_hexDigit (n : Nat) : (hexDigit n).toLower = hexDigit n := by
  have hall : ∀ m < 16, (Nat.digitChar m).toLower = Nat.digitChar m := by decide
  exact hall _ (Nat.mod_lt _ (by decide))

theorem readHex4_escapeUnit {n : Nat} (h : n < 65536) (rest : List Char) :
    readHex4 ((escapeUnit n).drop 2 ++ rest) = some (n, rest) := by
  simp [escapeUnit, readHex4, isHex_hexDigit, toLower_hexDigit, unitValue_hexDigit h]

theorem readCodePoint_plain {n : Nat} (h : n < 65536) (hplain : ¬ (55296 ≤ n ∧ n < 57344))
    (rest : List Char) : readCodePoint ((escapeUnit n).drop 2 ++ rest) = some (.ofNat n, rest) := by
  rw [readCodePoint, readHex4_escapeUnit h]
  have hhigh : ¬ (55296 ≤ n ∧ n < 56320) := by omega
  have hlow : ¬ (56320 ≤ n ∧ n < 57344) := by omega
  simp [hhigh, hlow]

theorem readCodePoint_pair {high low : Nat} (hhigh : 55296 ≤ high ∧ high < 56320)
    (hlow : 56320 ≤ low ∧ low < 57344) (rest : List Char) :
    readCodePoint ((escapeUnit high).drop 2 ++ (escapeUnit low ++ rest)) =
      some (.ofNat (pairValue high low), rest) := by
  have hread := readHex4_escapeUnit (show low < 65536 by omega) rest
  have hunit : escapeUnit low ++ rest = '\\' :: 'u' :: ((escapeUnit low).drop 2 ++ rest) := rfl
  rw [readCodePoint, readHex4_escapeUnit (show high < 65536 by omega), hunit]
  simp only [if_pos hhigh, hread, if_pos hlow]

theorem readOne_escapeUnit (n : Nat) (rest : List Char) :
    readOne (escapeUnit n ++ rest) = readCodePoint ((escapeUnit n).drop 2 ++ rest) := rfl

/-- No character is a surrogate. -/
theorem not_surrogate (c : Char) : ¬ (55296 ≤ c.toNat ∧ c.toNat < 57344) := by
  intro h
  rcases c.valid with hlow | ⟨hhigh, _⟩
  · exact absurd hlow (Nat.not_lt.mpr h.1)
  · have : c.toNat > 57343 := hhigh
    omega

theorem toNat_lt (c : Char) : c.toNat < 1114112 := by
  rcases c.valid with hlow | ⟨_, hhigh⟩
  · exact Nat.lt_trans hlow (by decide)
  · exact hhigh

theorem readOne_escapeChar (c : Char) (rest : List Char) :
    readOne (escapeChar c ++ rest) = some (c, rest) := by
  unfold escapeChar
  split
  case isTrue h => subst h; rfl
  split
  case isTrue h => subst h; rfl
  split
  case isTrue h => subst h; rfl
  split
  case isTrue h => subst h; rfl
  split
  case isTrue h => subst h; rfl
  split
  case isTrue h => rw [← Char.ofNat_toNat c, h]; rfl
  split
  case isTrue h => rw [← Char.ofNat_toNat c, h]; rfl
  case isFalse hquote hbackslash _ _ _ _ _ =>
    split
    case isTrue h =>
      simp [readOne, hbackslash, Nat.not_lt.mpr h.1]
    split
    case isTrue h =>
      rw [readOne_escapeUnit, readCodePoint_plain h (not_surrogate c), Char.ofNat_toNat]
    case isFalse h =>
      have hlt := toNat_lt c
      rw [List.append_assoc, readOne_escapeUnit, readCodePoint_pair (by omega) (by omega),
        pairValue_split (Nat.not_lt.mp h), Char.ofNat_toNat]

theorem readOne_escapeRaw (c : Char) (rest : List Char) :
    readOne (escapeRaw c ++ rest) = some (c, rest) := by
  unfold escapeRaw
  split
  case isTrue h => subst h; rfl
  split
  case isTrue h => subst h; rfl
  split
  case isTrue h => subst h; rfl
  split
  case isTrue h => subst h; rfl
  split
  case isTrue h => subst h; rfl
  split
  case isTrue h => rw [← Char.ofNat_toNat c, h]; rfl
  split
  case isTrue h => rw [← Char.ofNat_toNat c, h]; rfl
  case isFalse hquote hbackslash _ _ _ _ _ =>
    split
    case isTrue h =>
      rw [readOne_escapeUnit, readCodePoint_plain (by omega) (not_surrogate c), Char.ofNat_toNat]
    case isFalse h => simp [readOne, hbackslash, h]

theorem escapes_escapeChar : Escapes escapeChar := ⟨readOne_escapeChar, escapeChar_open⟩

theorem escapes_escapeRaw : Escapes escapeRaw := by
  refine ⟨readOne_escapeRaw, fun c => ?_⟩
  unfold escapeRaw
  split
  case isTrue => exact ⟨_, _, rfl, by decide⟩
  case isFalse hquote =>
    repeat' split
    all_goals first | exact ⟨_, _, rfl, by decide⟩ | exact ⟨c, _, rfl, hquote⟩

section Strings

variable {esc : Char → List Char} (he : Escapes esc)
include he

theorem readChars_flatMap (cs : List Char) (rest : List Char) {n : Nat} (hn : cs.length < n) :
    readChars n (cs.flatMap esc ++ '"' :: rest) = some (cs, rest) := by
  induction cs generalizing n with
  | nil =>
      cases n with
      | zero => exact absurd hn (Nat.not_lt_zero _)
      | succ n => simp [readChars]
  | cons c cs ih =>
      cases n with
      | zero => exact absurd hn (Nat.not_lt_zero _)
      | succ n =>
          obtain ⟨d, ds, hd, hne⟩ := he.starts c
          have hread := he.read c (cs.flatMap esc ++ '"' :: rest)
          have hrest := ih (Nat.lt_of_succ_lt_succ hn)
          rw [List.flatMap_cons, List.append_assoc, readChars]
          rw [if_neg (by rw [hd]; simpa using hne), hread]
          simp [hrest]

theorem length_le_flatMap (cs : List Char) : cs.length ≤ (cs.flatMap esc).length := by
  induction cs with
  | nil => simp
  | cons c cs ih =>
      obtain ⟨d, ds, hd, -⟩ := he.starts c
      rw [List.flatMap_cons, List.length_append, hd, List.length_cons, List.length_cons]
      omega

theorem readString_flatMap (s : String) (rest : List Char) :
    readString (s.toList.flatMap esc ++ '"' :: rest) = some (s, rest) := by
  have hlength := length_le_flatMap he s.toList
  have hfuel : s.toList.length < (s.toList.flatMap esc ++ '"' :: rest).length := by
    rw [List.length_append, List.length_cons]
    omega
  rw [readString, readChars_flatMap he s.toList rest hfuel]
  simp

end Strings

/-! ## Numbers -/

/-- The digits of a whole number: no leading zero. -/
def wholeDigits (cs : List Char) : List Char :=
  if cs.head? = some '0' then ['0'] else cs.takeWhile Char.isDigit

/-- A point and at least one digit, or nothing. -/
def fractionPart (cs : List Char) : List Char :=
  let digits := cs.tail.takeWhile Char.isDigit
  if cs.head? = some '.' ∧ digits ≠ [] then '.' :: digits else []

/-- The sign of an exponent. -/
def exponentSign (cs : List Char) : List Char :=
  if cs.head? = some '+' ∨ cs.head? = some '-' then cs.take 1 else []

/-- An exponent, or nothing. -/
def exponentPart : List Char → List Char
  | [] => []
  | e :: cs =>
      let digits := (cs.drop (exponentSign cs).length).takeWhile Char.isDigit
      if (e = 'e' ∨ e = 'E') ∧ digits ≠ [] then e :: (exponentSign cs ++ digits) else []

/-- The parts of a number. -/
structure NumberText where
  sign : List Char
  whole : List Char
  fraction : List Char
  exponent : List Char

def NumberText.text (t : NumberText) : List Char :=
  t.sign ++ (t.whole ++ (t.fraction ++ t.exponent))

/-- A number, as far as it goes. -/
def scanNumber (cs : List Char) : NumberText :=
  let sign := if cs.head? = some '-' then ['-'] else []
  let unsigned := cs.drop sign.length
  let whole := wholeDigits unsigned
  let fraction := fractionPart (unsigned.drop whole.length)
  let exponent := exponentPart ((unsigned.drop whole.length).drop fraction.length)
  { sign, whole, fraction, exponent }

/-- The most digits of a whole number that is converted. -/
def maxDigits : Nat := 4300

/-- The text of a float: a fraction or an exponent, and nothing behind it. -/
def IsFloat (text : String) : Prop :=
  let t := scanNumber text.toList
  t.whole ≠ [] ∧ ¬ (t.fraction = [] ∧ t.exponent = []) ∧ t.text = text.toList

instance (text : String) : Decidable (IsFloat text) := by
  unfold IsFloat
  infer_instance

/-- What is written for the floats that are not finite. -/
def nonFinite : List String := ["NaN", "Infinity", "-Infinity"]

end Json

/-- The floats of the interpreter, by what `json.dumps` writes for them. -/
class FloatText where
  /-- What is written for `float(text)`. -/
  written : String → String
  /-- It is read back as the same float, unless the number was out of range. -/
  written_isFloat : ∀ text, Json.IsFloat text →
    (Json.IsFloat (written text) ∧ written (written text) = written text) ∨
      written text ∈ Json.nonFinite

/-- Floats that keep the text they are given as. -/
@[reducible] def FloatText.asGiven : FloatText where
  written text := text
  written_isFloat _ htext := .inl ⟨htext, rfl⟩

namespace Json

section

variable [FloatText]

def readNumber (cs : List Char) : Option (Json × List Char) :=
  let t := scanNumber cs
  if t.whole = [] then none
  else if t.fraction = [] ∧ t.exponent = [] then
    if maxDigits < t.whole.length then none
    else
      let n : Int := Nat.ofDigitChars 10 t.whole 0
      some (num (if t.sign = [] then n else -n), cs.drop t.text.length)
  else some (float (FloatText.written (String.ofList t.text)), cs.drop t.text.length)

end

theorem length_exponentSign (cs : List Char) : (exponentSign cs).length ≤ cs.length := by
  unfold exponentSign
  split
  · simp
  · exact Nat.zero_le _

/-! ### What closes a number -/

def numberChar (c : Char) : Bool :=
  c.isDigit || c = '.' || c = 'e' || c = 'E' || c = '+' || c = '-'

/-- Nothing follows that could be part of a number. -/
def Closes (rest : List Char) : Prop := ∀ c ∈ rest.head?, numberChar c = false

theorem closes_nil : Closes [] := by
  intro c hc
  simp at hc

theorem closes_cons {c : Char} {cs : List Char} (hc : numberChar c = false) : Closes (c :: cs) := by
  intro d hd
  simp only [List.head?_cons, Option.mem_some_iff] at hd
  exact hd ▸ hc

namespace Closes

variable {rest : List Char} (h : Closes rest)
include h

theorem head_ne {c : Char} (hc : numberChar c = true) : rest.head? ≠ some c := by
  intro hhead
  rw [h c hhead] at hc
  exact Bool.false_ne_true hc

theorem takeWhile_nil : rest.takeWhile Char.isDigit = [] := by
  cases rest with
  | nil => rfl
  | cons c cs =>
      have hc := h c rfl
      simp only [numberChar, Bool.or_eq_false_iff] at hc
      exact List.takeWhile_cons_of_neg (by simp [hc])

theorem takeWhile_append (cs : List Char) :
    (cs ++ rest).takeWhile Char.isDigit = cs.takeWhile Char.isDigit := by
  induction cs with
  | nil => simpa using h.takeWhile_nil
  | cons c cs ih =>
      rw [List.cons_append, List.takeWhile_cons, List.takeWhile_cons, ih]

theorem head_append {c : Char} (hc : numberChar c = true) (cs : List Char) :
    (cs ++ rest).head? = some c ↔ cs.head? = some c := by
  cases cs with
  | nil => simpa using h.head_ne hc
  | cons d cs => simp

theorem wholeDigits_append (cs : List Char) : wholeDigits (cs ++ rest) = wholeDigits cs := by
  simp only [wholeDigits, h.head_append (c := '0') (by decide), h.takeWhile_append]

theorem fractionPart_append (cs : List Char) : fractionPart (cs ++ rest) = fractionPart cs := by
  cases cs with
  | nil => simp [fractionPart, h.head_ne (c := '.') (by decide)]
  | cons c cs =>
      unfold fractionPart
      rw [List.cons_append, List.tail_cons, List.tail_cons, h.takeWhile_append]
      rfl

theorem exponentSign_append (cs : List Char) : exponentSign (cs ++ rest) = exponentSign cs := by
  cases cs with
  | nil =>
      simp [exponentSign, h.head_ne (c := '+') (by decide), h.head_ne (c := '-') (by decide)]
  | cons c cs => simp [exponentSign]

theorem exponentPart_append (cs : List Char) : exponentPart (cs ++ rest) = exponentPart cs := by
  cases cs with
  | nil =>
      cases hrest : rest with
      | nil => rfl
      | cons c cs =>
          have hc := h c (by rw [hrest]; rfl)
          simp only [numberChar, Bool.or_eq_false_iff, decide_eq_false_iff_not] at hc
          simp [exponentPart, hc]
  | cons c cs =>
      have hlength := length_exponentSign cs
      rw [List.cons_append, exponentPart, exponentPart, h.exponentSign_append,
        List.drop_append_of_le_length hlength, h.takeWhile_append]

end Closes

theorem length_wholeDigits (cs : List Char) : (wholeDigits cs).length ≤ cs.length := by
  unfold wholeDigits
  split
  case isTrue hhead =>
    cases cs with
    | nil => simp at hhead
    | cons c cs => simp
  case isFalse => exact (List.takeWhile_prefix _).length_le

theorem length_fractionPart (cs : List Char) : (fractionPart cs).length ≤ cs.length := by
  unfold fractionPart
  dsimp only
  split
  case isTrue hhead =>
    cases cs with
    | nil => simp at hhead
    | cons c cs => simpa using (List.takeWhile_prefix (l := cs) Char.isDigit).length_le
  case isFalse => exact Nat.zero_le _

theorem length_exponentPart (cs : List Char) : (exponentPart cs).length ≤ cs.length := by
  cases cs with
  | nil => exact Nat.le_refl _
  | cons e cs =>
      have hlength := length_exponentSign cs
      have htake :=
        (List.takeWhile_prefix (l := cs.drop (exponentSign cs).length) Char.isDigit).length_le
      rw [List.length_drop] at htake
      unfold exponentPart
      dsimp only
      split
      · simp only [List.length_cons, List.length_append]
        omega
      · exact Nat.zero_le _

theorem length_sign (cs : List Char) :
    (if cs.head? = some '-' then ['-'] else []).length ≤ cs.length := by
  cases cs with
  | nil => simp
  | cons c cs => split <;> simp

theorem length_text_scanNumber (cs : List Char) : (scanNumber cs).text.length ≤ cs.length := by
  have hsign := length_sign cs
  unfold scanNumber
  dsimp only
  generalize (if cs.head? = some '-' then ['-'] else []) = sign at hsign ⊢
  have hwhole := length_wholeDigits (cs.drop sign.length)
  generalize wholeDigits (cs.drop sign.length) = whole at hwhole ⊢
  have hfraction := length_fractionPart ((cs.drop sign.length).drop whole.length)
  generalize fractionPart ((cs.drop sign.length).drop whole.length) = fraction at hfraction ⊢
  have hexponent :=
    length_exponentPart (((cs.drop sign.length).drop whole.length).drop fraction.length)
  simp only [NumberText.text, List.length_append, List.length_drop] at *
  omega

/-- A number is read up to what closes it. -/
theorem scanNumber_append {cs rest : List Char} (hne : cs ≠ []) (hrest : Closes rest) :
    scanNumber (cs ++ rest) = scanNumber cs := by
  have hhead : (cs ++ rest).head? = cs.head? := by
    cases cs with
    | nil => exact absurd rfl hne
    | cons c cs => rfl
  simp only [scanNumber, hhead]
  rw [List.drop_append_of_le_length (length_sign cs), hrest.wholeDigits_append,
    List.drop_append_of_le_length (length_wholeDigits _), hrest.fractionPart_append,
    List.drop_append_of_le_length (length_fractionPart _), hrest.exponentPart_append]

/-! ### Whole numbers -/

theorem head_toDigits {m : Nat} (h : m ≠ 0) : (Nat.toDigits 10 m).head? ≠ some '0' := by
  induction m using Nat.strongRecOn with
  | _ m ih =>
      by_cases hsmall : m < 10
      · have hall : ∀ k < 10, k ≠ 0 → Nat.digitChar k ≠ '0' := by decide
        rw [Nat.toDigits_of_lt_base hsmall]
        intro hhead
        exact hall m hsmall h (Option.some.inj hhead)
      · rw [Nat.toDigits_of_base_le (by decide) (Nat.not_lt.mp hsmall)]
        have hhead := ih (m / 10) (by omega) (by omega)
        cases hdigits : Nat.toDigits 10 (m / 10) with
        | nil => exact absurd hdigits Nat.toDigits_ne_nil
        | cons d ds =>
            rw [hdigits] at hhead
            exact hhead

theorem isDigit_toDigits (m : Nat) : ∀ d ∈ Nat.toDigits 10 m, d.isDigit = true :=
  fun _ hd => Nat.isDigit_of_mem_toDigits (by decide) (by decide) hd

theorem wholeDigits_toDigits (m : Nat) : wholeDigits (Nat.toDigits 10 m) = Nat.toDigits 10 m := by
  by_cases h : m = 0
  · subst h
    rfl
  · rw [wholeDigits, if_neg (head_toDigits h)]
    simpa using isDigit_toDigits m

/-- The digits of a whole number, with its sign. -/
theorem scanNumber_digits (sign : List Char) (hsign : sign = [] ∨ sign = ['-']) (m : Nat) :
    scanNumber (sign ++ Nat.toDigits 10 m) = ⟨sign, Nat.toDigits 10 m, [], []⟩ := by
  have hhead : (if (sign ++ Nat.toDigits 10 m).head? = some '-' then ['-'] else []) = sign := by
    rcases hsign with rfl | rfl
    · cases hdigits : Nat.toDigits 10 m with
      | nil => exact absurd hdigits Nat.toDigits_ne_nil
      | cons d ds =>
          have hd := isDigit_toDigits m d (by simp [hdigits])
          have hne : d ≠ '-' := by
            rintro rfl
            simp at hd
          simp [hne]
    · simp
  unfold scanNumber
  simp only [hhead, List.drop_left, wholeDigits_toDigits, List.drop_length]
  rfl

/-- The text of a whole number. -/
theorem toList_toString (n : Int) : (toString n).toList =
    (if n < 0 then ['-'] else []) ++ Nat.toDigits 10 n.natAbs := by
  cases n with
  | ofNat m =>
      rw [if_neg (by simp)]
      exact Nat.toList_repr
  | negSucc m =>
      rw [if_pos (Int.negSucc_lt_zero m)]
      show ("-" ++ (m + 1).repr).toList = _
      rw [String.toList_append, Nat.toList_repr]
      rfl

section

variable [FloatText]

theorem readNumber_append {cs rest : List Char} (hne : cs ≠ []) (hrest : Closes rest) :
    readNumber (cs ++ rest) = (readNumber cs).map fun r => (r.1, r.2 ++ rest) := by
  have hdrop : (cs ++ rest).drop (scanNumber cs).text.length =
      cs.drop (scanNumber cs).text.length ++ rest :=
    List.drop_append_of_le_length (length_text_scanNumber cs)
  simp only [readNumber, scanNumber_append hne hrest, hdrop]
  split
  case isTrue => rfl
  case isFalse =>
    split
    · split <;> rfl
    · rfl

theorem readNumber_digits (sign : List Char) (hsign : sign = [] ∨ sign = ['-']) {m : Nat}
    (h : (Nat.toDigits 10 m).length ≤ maxDigits) : readNumber (sign ++ Nat.toDigits 10 m) =
      some (num (if sign = [] then m else -m), []) := by
  have hscan := scanNumber_digits sign hsign m
  simp only [readNumber, hscan, if_neg (Nat.toDigits_ne_nil (n := m) (b := 10)),
    if_neg (Nat.not_lt.mpr h), Nat.ofDigitChars_ten_toDigits, NumberText.text]
  simp

theorem readNumber_num {n : Int} (h : (Nat.toDigits 10 n.natAbs).length ≤ maxDigits) :
    readNumber (toString n).toList = some (num n, []) := by
  rw [toList_toString]
  by_cases hneg : n < 0
  · rw [if_pos hneg, readNumber_digits ['-'] (Or.inr rfl) h, if_neg (by simp)]
    rw [show -(n.natAbs : Int) = n by omega]
  · rw [if_neg hneg, readNumber_digits [] (Or.inl rfl) h, if_pos rfl]
    rw [show (n.natAbs : Int) = n by omega]

theorem readNumber_float {text : String} (h : IsFloat text) :
    readNumber text.toList = some (float (FloatText.written text), []) := by
  obtain ⟨hwhole, hparts, htext⟩ := h
  have hlist : String.ofList (scanNumber text.toList).text = text := by
    rw [htext, String.ofList_toList]
  simp only [readNumber, if_neg hwhole, if_neg hparts, hlist]
  rw [htext, List.drop_length]

/-! ## Values -/

def isBlank (c : Char) : Bool := c = ' ' || c = '\t' || c = '\n' || c = '\r'

def skipBlanks (cs : List Char) : List Char := cs.dropWhile isBlank

/-- The words, and what they stand for. -/
def words : List (List Char × Json) :=
  [(['n', 'u', 'l', 'l'], null), (['t', 'r', 'u', 'e'], bool true),
    (['f', 'a', 'l', 's', 'e'], bool false), (['N', 'a', 'N'], float "NaN"),
    (['I', 'n', 'f', 'i', 'n', 'i', 't', 'y'], float "Infinity"),
    (['-', 'I', 'n', 'f', 'i', 'n', 'i', 't', 'y'], float "-Infinity")]

/-- A word or a number. -/
def readAtom (cs : List Char) : Option (Json × List Char) :=
  match words.find? fun w => w.1.isPrefixOf cs with
  | some w => some (w.2, cs.drop w.1.length)
  | none => readNumber cs

mutual

/-- A value at the start of the text; the number bounds the depth and the length. -/
def readValue : Nat → List Char → Option (Json × List Char)
  | 0, _ => none
  | n + 1, cs =>
      match cs with
      | '"' :: cs => (readString cs).map fun r => (str r.1, r.2)
      | '[' :: cs =>
          match skipBlanks cs with
          | ']' :: cs => some (arr [], cs)
          | cs => (readItems n cs).map fun r => (arr r.1, r.2)
      | '\x7b' :: cs =>
          match skipBlanks cs with
          | '\x7d' :: cs => some (obj [], cs)
          | cs => (readFields n [] cs).map fun r => (obj r.1, r.2)
      | cs => readAtom cs

/-- The items of an array from the first one on. -/
def readItems : Nat → List Char → Option (List Json × List Char)
  | 0, _ => none
  | n + 1, cs =>
      match readValue n cs with
      | none => none
      | some (item, cs) =>
          match skipBlanks cs with
          | ',' :: cs => (readItems n (skipBlanks cs)).map fun r => (item :: r.1, r.2)
          | ']' :: cs => some ([item], cs)
          | _ => none

/-- The fields of an object, behind those that are read already. -/
def readFields : Nat → List (String × Json) → List Char →
    Option (List (String × Json) × List Char)
  | 0, _, _ => none
  | n + 1, fields, cs =>
      match cs with
      | '"' :: cs =>
          match readString cs with
          | none => none
          | some (key, cs) =>
              match skipBlanks cs with
              | ':' :: cs =>
                  match readValue n (skipBlanks cs) with
                  | none => none
                  | some (value, cs) =>
                      match skipBlanks cs with
                      | ',' :: cs => readFields n (setField fields key value) (skipBlanks cs)
                      | '\x7d' :: cs => some (setField fields key value, cs)
                      | _ => none
              | _ => none
      | _ => none

end

/-- `json.loads(text)`; nothing where it raises. -/
def loads (text : String) : Option Json :=
  let cs := skipBlanks text.toList
  match readValue (cs.length + 1) cs with
  | none => none
  | some (value, rest) => if skipBlanks rest = [] then some value else none

end

/-! ## Writing -/

section

variable (esc : Char → List Char)

def writeString (s : String) : List Char := '"' :: (s.toList.flatMap esc ++ ['"'])

mutual

/-- The compact text of a value. -/
def write : Json → List Char
  | null => ['n', 'u', 'l', 'l']
  | bool true => ['t', 'r', 'u', 'e']
  | bool false => ['f', 'a', 'l', 's', 'e']
  | num n => (toString n).toList
  | float text => text.toList
  | str s => writeString esc s
  | arr [] => ['[', ']']
  | arr (j :: js) => '[' :: (write j ++ (writeItems js ++ [']']))
  | obj [] => ['\x7b', '\x7d']
  | obj ((k, j) :: es) =>
      '\x7b' :: (writeString esc k ++ ':' :: (write j ++ (writeFields es ++ ['\x7d'])))

/-- The items behind the first. -/
def writeItems : List Json → List Char
  | [] => []
  | j :: js => ',' :: (write j ++ writeItems js)

/-- The fields behind the first. -/
def writeFields : List (String × Json) → List Char
  | [] => []
  | (k, j) :: es => ',' :: (writeString esc k ++ ':' :: (write j ++ writeFields es))

end

end

/-! ## What is written is read back -/

section

variable [FloatText]

mutual

/-- The numbers of the value are written as they are read. -/
def Readable : Json → Prop
  | num n => (Nat.toDigits 10 n.natAbs).length ≤ maxDigits
  | float text => IsFloat text ∧ FloatText.written text = text ∨ text ∈ nonFinite
  | arr items => ReadableItems items
  | obj fields => ReadableFields fields
  | _ => True

def ReadableItems : List Json → Prop
  | [] => True
  | j :: js => Readable j ∧ ReadableItems js

def ReadableFields : List (String × Json) → Prop
  | [] => True
  | (_, j) :: es => Readable j ∧ ReadableFields es

end

/-- How a number begins. -/
def NumberStart (cs : List Char) : Prop :=
  ∃ d ds, d.isDigit = true ∧ (cs = d :: ds ∨ cs = '-' :: d :: ds)

omit [FloatText] in
theorem wholeDigits_start {cs : List Char} (h : wholeDigits cs ≠ []) :
    ∃ d ds, d.isDigit = true ∧ cs = d :: ds := by
  cases cs with
  | nil => exact absurd rfl h
  | cons d ds =>
      refine ⟨d, ds, ?_, rfl⟩
      unfold wholeDigits at h
      split at h
      case isTrue hzero =>
        simp only [List.head?_cons, Option.some.injEq] at hzero
        subst hzero
        decide
      case isFalse =>
        by_contra hd
        rw [List.takeWhile_cons_of_neg hd] at h
        exact h rfl

omit [FloatText] in
theorem scanNumber_start {cs : List Char} (h : (scanNumber cs).whole ≠ []) : NumberStart cs := by
  unfold scanNumber at h
  dsimp only at h
  by_cases hsign : cs.head? = some '-'
  · rw [if_pos hsign] at h
    obtain ⟨d, ds, hd, heq⟩ := wholeDigits_start h
    cases cs with
    | nil => simp at hsign
    | cons c cs =>
        simp only [List.head?_cons, Option.some.injEq] at hsign
        simp only [List.length_cons, List.length_nil, List.drop_succ_cons, List.drop_zero] at heq
        exact ⟨d, ds, hd, Or.inr (by rw [hsign, heq])⟩
  · rw [if_neg hsign] at h
    obtain ⟨d, ds, hd, heq⟩ := wholeDigits_start h
    exact ⟨d, ds, hd, Or.inl heq⟩

theorem readNumber_start {cs : List Char} {r : Json × List Char} (h : readNumber cs = some r) :
    NumberStart cs := by
  refine scanNumber_start ?_
  intro hwhole
  unfold readNumber at h
  dsimp only at h
  rw [if_pos hwhole] at h
  cases h

omit [FloatText] in
theorem words_find?_number {cs : List Char} (h : NumberStart cs) :
    words.find? (fun w => w.1.isPrefixOf cs) = none := by
  obtain ⟨d, ds, hd, hcs⟩ := h
  have hne : ∀ c : Char, c.isDigit = false → c ≠ d := by
    rintro c hc rfl
    exact Bool.false_ne_true (hc.symm.trans hd)
  rcases hcs with rfl | rfl
  · simp [words, hne 'n' (by decide), hne 't' (by decide), hne 'f' (by decide),
      hne 'N' (by decide), hne 'I' (by decide), hne '-' (by decide)]
  · simp [words, hne 'I' (by decide)]

theorem readAtom_number {cs rest : List Char} (h : NumberStart cs) :
    readAtom (cs ++ rest) = readNumber (cs ++ rest) := by
  have hstart : NumberStart (cs ++ rest) := by
    obtain ⟨d, ds, hd, rfl | rfl⟩ := h
    · exact ⟨d, ds ++ rest, hd, Or.inl rfl⟩
    · exact ⟨d, ds ++ rest, hd, Or.inr rfl⟩
  rw [readAtom, words_find?_number hstart]

theorem readValue_atom {cs : List Char} (n : Nat)
    (h : ∀ c ∈ cs.head?, c ≠ '"' ∧ c ≠ '[' ∧ c ≠ '\x7b') :
    readValue (n + 1) cs = readAtom cs := by
  rw [readValue]
  · rintro _ rfl
    exact (h '"' rfl).1 rfl
  · rintro _ rfl
    exact (h '[' rfl).2.1 rfl
  · rintro _ rfl
    exact (h '\x7b' rfl).2.2 rfl

/-- A number that the reader takes whole. -/
theorem readValue_number {cs rest : List Char} {j : Json} (n : Nat)
    (h : readNumber cs = some (j, [])) (hrest : Closes rest) :
    readValue (n + 1) (cs ++ rest) = some (j, rest) := by
  have hstart := readNumber_start h
  have hne : cs ≠ [] := by
    obtain ⟨d, ds, -, rfl | rfl⟩ := hstart
    · exact List.cons_ne_nil _ _
    · exact List.cons_ne_nil _ _
  have hhead : ∀ c ∈ (cs ++ rest).head?, c ≠ '"' ∧ c ≠ '[' ∧ c ≠ '\x7b' := by
    obtain ⟨d, ds, hd, rfl | rfl⟩ := hstart
    · intro c hc
      obtain rfl : d = c := by simpa using hc
      refine ⟨?_, ?_, ?_⟩ <;> rintro rfl <;> simp at hd
    · intro c hc
      obtain rfl : '-' = c := by simpa using hc
      decide
  rw [readValue_atom n hhead, readAtom_number hstart, readNumber_append hne hrest, h]
  rfl

theorem readValue_nonFinite {text : String} (h : text ∈ nonFinite) (n : Nat) (rest : List Char) :
    readValue (n + 1) (text.toList ++ rest) = some (float text, rest) := by
  simp only [nonFinite, List.mem_cons, List.not_mem_nil, or_false] at h
  rcases h with rfl | rfl | rfl
  · rfl
  · rfl
  · rfl

/-! ### Values -/

variable {esc : Char → List Char}

variable (esc) in
/-- How a value begins. -/
theorem write_starts {j : Json} (h : j.Readable) :
    ∃ c cs, write esc j = c :: cs ∧ isBlank c = false ∧ c ≠ ']' := by
  have hnumber : ∀ cs : List Char, NumberStart cs →
      ∃ c ds, cs = c :: ds ∧ isBlank c = false ∧ c ≠ ']' := by
    rintro cs ⟨d, ds, hd, rfl | rfl⟩
    · have hne : ∀ c : Char, c.isDigit = false → d ≠ c := by
        rintro c hc rfl
        exact Bool.false_ne_true (hc.symm.trans hd)
      refine ⟨d, ds, rfl, ?_, hne ']' (by decide)⟩
      simp [isBlank, hne ' ' (by decide), hne '\t' (by decide), hne '\n' (by decide),
        hne '\r' (by decide)]
    · exact ⟨'-', _, rfl, by decide, by decide⟩
  cases j with
  | null => exact ⟨_, _, rfl, by decide, by decide⟩
  | bool b => cases b <;> exact ⟨_, _, rfl, by decide, by decide⟩
  | num n => exact hnumber _ (readNumber_start (readNumber_num h))
  | float text =>
      rcases h with ⟨hfloat, -⟩ | hword
      · exact hnumber _ (readNumber_start (readNumber_float hfloat))
      · simp only [nonFinite, List.mem_cons, List.not_mem_nil, or_false] at hword
        rcases hword with rfl | rfl | rfl <;> exact ⟨_, _, rfl, by decide, by decide⟩
  | str s => exact ⟨_, _, rfl, by decide, by decide⟩
  | arr items => cases items <;> exact ⟨_, _, rfl, by decide, by decide⟩
  | obj fields => cases fields <;> exact ⟨_, _, rfl, by decide, by decide⟩

omit [FloatText] in
theorem skipBlanks_cons {c : Char} {cs : List Char} (h : isBlank c = false) :
    skipBlanks (c :: cs) = c :: cs := List.dropWhile_cons_of_neg (by simp [h])

variable (esc) in
theorem skipBlanks_write {j : Json} (h : j.Readable) (rest : List Char) :
    skipBlanks (write esc j ++ rest) = write esc j ++ rest := by
  obtain ⟨c, cs, heq, hblank, -⟩ := write_starts esc h
  rw [heq]
  exact skipBlanks_cons hblank

omit [FloatText] in
theorem closes_writeItems (js : List Json) (rest : List Char) :
    Closes (writeItems esc js ++ ']' :: rest) := by
  cases js with
  | nil => exact closes_cons (by decide)
  | cons j js => exact closes_cons (by decide)

omit [FloatText] in
theorem closes_writeFields (es : List (String × Json)) (rest : List Char) :
    Closes (writeFields esc es ++ '\x7d' :: rest) := by
  cases es with
  | nil => exact closes_cons (by decide)
  | cons e es => exact closes_cons (by decide)

omit [FloatText] in
theorem readString_writeString (he : Escapes esc) (s : String) (rest : List Char) :
    readString ((s.toList.flatMap esc ++ ['"']) ++ rest) = some (s, rest) := by
  have hread := readString_flatMap he s rest
  rwa [List.append_assoc, List.singleton_append]

mutual

/-- A value read back, whatever closes it. -/
theorem readValue_write (he : Escapes esc) : ∀ (j : Json) (n : Nat) (rest : List Char),
    j.Keyed → j.Readable → Closes rest → (write esc j).length ≤ n →
    readValue n (write esc j ++ rest) = some (j, rest)
  | null, n, rest, _, _, _, hn => by
      cases n with
      | zero => simp [write] at hn
      | succ n => rfl
  | bool true, n, rest, _, _, _, hn => by
      cases n with
      | zero => simp [write] at hn
      | succ n => rfl
  | bool false, n, rest, _, _, _, hn => by
      cases n with
      | zero => simp [write] at hn
      | succ n => rfl
  | num k, n, rest, hkeyed, hread, hrest, hn => by
      obtain ⟨c, cs, heq, -, -⟩ := write_starts esc hread
      cases n with
      | zero => simp [heq] at hn
      | succ n => exact readValue_number n (readNumber_num hread) hrest
  | float text, n, rest, hkeyed, hread, hrest, hn => by
      obtain ⟨c, cs, heq, -, -⟩ := write_starts esc hread
      cases n with
      | zero => simp [heq] at hn
      | succ n =>
          rcases hread with ⟨hfloat, hwritten⟩ | hword
          · have hnumber := readNumber_float hfloat
            rw [hwritten] at hnumber
            exact readValue_number n hnumber hrest
          · exact readValue_nonFinite hword n rest
  | str s, n, rest, _, _, _, hn => by
      cases n with
      | zero => simp [write, writeString] at hn
      | succ n =>
          rw [write, writeString, List.cons_append, readValue, readString_writeString he]
          rfl
  | arr [], n, rest, _, _, _, hn => by
      cases n with
      | zero => simp [write] at hn
      | succ n => rfl
  | arr (j :: js), n, rest, hkeyed, hread, hrest, hn => by
      cases n with
      | zero => simp [write] at hn
      | succ n =>
          have hitems := readItems_write he (j :: js) j js n rest rfl hkeyed hread
            (by simp only [write, List.length_cons, List.length_append] at hn; omega)
          obtain ⟨c, cs, heq, hblank, hne⟩ := write_starts esc hread.1
          have htext : write esc (arr (j :: js)) ++ rest =
              '[' :: (write esc j ++ (writeItems esc js ++ ']' :: rest)) := by
            simp [write]
          rw [htext, readValue, skipBlanks_write esc hread.1]
          rw [heq] at hitems ⊢
          split
          · rename_i hclose
            exact absurd (List.cons.inj hclose).1 hne
          · rw [hitems]
            rfl
  | obj [], n, rest, _, _, _, hn => by
      cases n with
      | zero => simp [write] at hn
      | succ n => rfl
  | obj ((k, j) :: es), n, rest, hkeyed, hread, hrest, hn => by
      cases n with
      | zero => simp [write] at hn
      | succ n =>
          have hfields := readFields_write he ((k, j) :: es) k j es [] n rest rfl
            hkeyed.1 hkeyed.2 hread
            (by simp only [write, List.length_cons, List.length_append] at hn; omega)
          have htext : write esc (obj ((k, j) :: es)) ++ rest = '\x7b' :: (writeString esc k ++
              ':' :: (write esc j ++ (writeFields esc es ++ '\x7d' :: rest))) := by
            simp [write]
          rw [htext, readValue]
          rw [writeString, List.cons_append] at hfields ⊢
          rw [skipBlanks_cons (by decide)]
          split
          · rename_i hclose
            exact absurd (List.cons.inj hclose).1 (by decide)
          · rw [hfields]
            rfl

theorem readItems_write (he : Escapes esc) : ∀ (items : List Json) (j : Json) (js : List Json)
    (n : Nat) (rest : List Char), items = j :: js → KeyedItems items → ReadableItems items →
    (write esc j).length + (writeItems esc js).length + 1 ≤ n →
    readItems n (write esc j ++ (writeItems esc js ++ ']' :: rest)) = some (items, rest)
  | [], _, _, _, _, h, _, _, _ => by cases h
  | j :: js, _, _, n, rest, h, hkeyed, hread, hn => by
      obtain ⟨rfl, rfl⟩ := List.cons.inj h
      cases n with
      | zero => exact absurd hn (by omega)
      | succ n =>
          rw [readItems,
            readValue_write he j n _ hkeyed.1 hread.1 (closes_writeItems js rest) (by omega)]
          cases hjs : js with
          | nil => rfl
          | cons j' js' =>
              rw [hjs] at hn
              have hitems := readItems_write he js j' js' n rest hjs hkeyed.2 hread.2
                (by simp only [writeItems, List.length_cons, List.length_append] at hn; omega)
              rw [hjs] at hitems hread
              dsimp only
              rw [writeItems, List.cons_append, skipBlanks_cons (by decide), List.append_assoc]
              simp only [skipBlanks_write esc hread.2.1, hitems, Option.map_some]

theorem readFields_write (he : Escapes esc) : ∀ (fields : List (String × Json)) (k : String)
    (j : Json) (es acc : List (String × Json)) (n : Nat) (rest : List Char),
    fields = (k, j) :: es → ((acc ++ fields).map Prod.fst).Nodup → KeyedFields fields →
    ReadableFields fields →
    (writeString esc k).length + (write esc j).length + (writeFields esc es).length + 1 ≤ n →
    readFields n acc
        (writeString esc k ++ ':' :: (write esc j ++ (writeFields esc es ++ '\x7d' :: rest))) =
      some (acc ++ fields, rest)
  | [], _, _, _, _, _, _, h, _, _, _, _ => by cases h
  | (k, j) :: es, _, _, _, acc, n, rest, h, hnodup, hkeyed, hread, hn => by
      obtain ⟨heq, rfl⟩ := List.cons.inj h
      obtain ⟨rfl, rfl⟩ := Prod.mk.inj heq
      cases n with
      | zero => exact absurd hn (by omega)
      | succ n =>
          have hnew : k ∉ acc.map Prod.fst := by
            rw [List.map_append, List.nodup_append] at hnodup
            intro hk
            exact hnodup.2.2 k hk k (by simp) rfl
          have hset : setField acc k j = acc ++ [(k, j)] := Dict.setEntries_of_not_mem hnew
          rw [writeString, List.cons_append, readFields, readString_writeString he]
          dsimp only
          rw [skipBlanks_cons (by decide)]
          simp only [skipBlanks_write esc hread.1,
            readValue_write he j n _ hkeyed.1 hread.1 (closes_writeFields es rest) (by omega), hset]
          cases hes : es with
          | nil => rfl
          | cons e es' =>
              rw [hes] at hn
              have hfields := readFields_write he es e.1 e.2 es' (acc ++ [(k, j)]) n rest hes
                (by simpa using hnodup) hkeyed.2 hread.2
                (by simp only [writeFields, List.length_cons, List.length_append] at hn; omega)
              rw [hes] at hfields
              rw [writeFields, List.cons_append, skipBlanks_cons (by decide), List.append_assoc,
                List.cons_append, List.append_assoc]
              rw [writeString, List.cons_append] at hfields ⊢
              simp only [skipBlanks_cons (show isBlank '"' = false by decide)]
              rw [hfields, List.append_assoc, List.singleton_append]

end

theorem loads_write (he : Escapes esc) {j : Json} (hkeyed : j.Keyed) (hread : j.Readable) :
    loads (String.ofList (write esc j)) = some j := by
  have hblanks := skipBlanks_write esc hread []
  rw [List.append_nil] at hblanks
  have hvalue := readValue_write he j ((write esc j).length + 1) [] hkeyed hread closes_nil
    (Nat.le_succ _)
  rw [List.append_nil] at hvalue
  simp only [loads, String.toList_ofList, hblanks, hvalue]
  rfl

end

/-! ## The text of a sorted value -/

theorem intercalate_cons_eq {α : Type} (separator first : List α) (others : List (List α)) :
    separator.intercalate (first :: others) = first ++ others.flatMap (separator ++ ·) := by
  induction others generalizing first with
  | nil => simp
  | cons other others ih =>
      rw [List.intercalate_cons_cons, ih, List.flatMap_cons, List.append_assoc, List.append_assoc]

theorem write_arr (esc : Char → List Char) (items : List Json) : write esc (arr items) =
    '[' :: ([','].intercalate (items.map (write esc)) ++ [']']) := by
  have hitems : ∀ js : List Json,
      writeItems esc js = (js.map (write esc)).flatMap (',' :: ·) := by
    intro js
    induction js with
    | nil => rfl
    | cons j js ih => rw [writeItems, ih]; rfl
  cases items with
  | nil => rfl
  | cons j js =>
      rw [write, hitems, List.map_cons, intercalate_cons_eq]
      simp

theorem write_obj (esc : Char → List Char) (fields : List (String × Json)) :
    write esc (obj fields) = '\x7b' :: ([','].intercalate (fields.map fun e =>
      writeString esc e.1 ++ ':' :: write esc e.2) ++ ['\x7d']) := by
  have hfields : ∀ es : List (String × Json), writeFields esc es =
      (es.map fun e => writeString esc e.1 ++ ':' :: write esc e.2).flatMap (',' :: ·) := by
    intro es
    induction es with
    | nil => rfl
    | cons e es ih =>
        obtain ⟨k, j⟩ := e
        rw [writeFields, ih]
        simp
  cases fields with
  | nil => rfl
  | cons e es =>
      obtain ⟨k, j⟩ := e
      rw [write, hfields, List.map_cons, intercalate_cons_eq]
      simp

mutual

/-- `json.dumps(value, sort_keys=True)` writes the sorted value. -/
theorem toList_dumps : ∀ j : Json, (dumps j).toList = write escapeChar j.sorted
  | null => by decide
  | bool true => by decide
  | bool false => by decide
  | num _ => rfl
  | float _ => rfl
  | str s => by simp [dumps, quote, sorted, write, writeString]
  | arr items => by
      rw [sorted, write_arr, dumps, ← toList_dumpsItems items]
      simp [String.toList_intercalate]
  | obj fields => by
      have htexts := toList_dumpsFields fields
      have hsort : (sortedFields fields).mergeSort keyLe =
          (fields.mergeSort keyLe).map fun e => (e.1, e.2.sorted) := by
        rw [sortedFields_eq_map]
        exact (List.map_mergeSort (r := keyLe) (s := keyLe)
          (f := fun e : String × Json => (e.1, e.2.sorted)) fun _ _ _ _ => rfl).symm
      rw [sorted, write_obj, toList_dumps_obj, hsort, List.map_map]
      refine congrArg (fun texts => '\x7b' :: ([','].intercalate texts ++ ['\x7d'])) ?_
      refine List.map_congr_left fun e he => ?_
      rw [fieldText, htexts e (List.mem_mergeSort.mp he), quote, String.toList_ofList]
      rfl

theorem toList_dumpsItems : ∀ js : List Json,
    (dumpsItems js).map String.toList = (sortedItems js).map (write escapeChar)
  | [] => rfl
  | j :: js => by
      rw [dumpsItems, sortedItems, List.map_cons, List.map_cons, toList_dumps j,
        toList_dumpsItems js]

theorem toList_dumpsFields : ∀ es : List (String × Json),
    ∀ e ∈ es, (dumps e.2).toList = write escapeChar e.2.sorted
  | [], _, h => by cases h
  | (k, j) :: es, e, h => by
      rcases List.mem_cons.mp h with rfl | h
      · exact toList_dumps j
      · exact toList_dumpsFields es e h

end

mutual

theorem Keyed.sorted : ∀ {j : Json}, j.Keyed → j.sorted.Keyed
  | null, h => h
  | bool _, h => h
  | num _, h => h
  | float _, h => h
  | str _, h => h
  | arr items, h => keyedItems_sorted items h
  | obj fields, h => by
      have hfields := keyedFields_sorted fields h.2
      rw [keyedFields_iff] at hfields
      refine ⟨?_, keyedFields_iff.mpr fun e he => ?_⟩
      · refine ((sortedFields_perm fields).map Prod.fst).nodup_iff.mpr ?_
        rw [map_fst_sorted]
        exact h.1
      · exact hfields e ((List.mergeSort_perm _ _).mem_iff.mp he)

theorem keyedItems_sorted : ∀ items : List Json, KeyedItems items →
    KeyedItems (sortedItems items)
  | [], _ => trivial
  | _ :: items, h => ⟨h.1.sorted, keyedItems_sorted items h.2⟩

theorem keyedFields_sorted : ∀ fields : List (String × Json), KeyedFields fields →
    KeyedFields (sortedFields fields)
  | [], _ => trivial
  | (_, _) :: fields, h => ⟨h.1.sorted, keyedFields_sorted fields h.2⟩

end

section

variable [FloatText]

theorem readableFields_iff {fields : List (String × Json)} :
    ReadableFields fields ↔ ∀ e ∈ fields, e.2.Readable := by
  induction fields with
  | nil => simp [ReadableFields]
  | cons e es ih => rw [ReadableFields, ih, List.forall_mem_cons]

mutual

theorem Readable.sorted : ∀ {j : Json}, j.Readable → j.sorted.Readable
  | null, h => h
  | bool _, h => h
  | num _, h => h
  | float _, h => h
  | str _, h => h
  | arr items, h => readableItems_sorted items h
  | obj fields, h => by
      have hfields := readableFields_sorted fields h
      rw [readableFields_iff] at hfields
      refine readableFields_iff.mpr fun e he => ?_
      exact hfields e ((List.mergeSort_perm _ _).mem_iff.mp he)

theorem readableItems_sorted : ∀ items : List Json, ReadableItems items →
    ReadableItems (sortedItems items)
  | [], _ => trivial
  | _ :: items, h => ⟨h.1.sorted, readableItems_sorted items h.2⟩

theorem readableFields_sorted : ∀ fields : List (String × Json), ReadableFields fields →
    ReadableFields (sortedFields fields)
  | [], _ => trivial
  | (_, _) :: fields, h => ⟨h.1.sorted, readableFields_sorted fields h.2⟩

end

/-- `json.loads(json.dumps(value, sort_keys=True))`. -/
theorem loads_dumps {j : Json} (hkeyed : j.Keyed) (hread : j.Readable) :
    loads (dumps j) = some j.sorted := by
  rw [← String.ofList_toList (s := dumps j), toList_dumps]
  exact loads_write escapes_escapeChar hkeyed.sorted hread.sorted

end

/-! ## What is read -/

theorem keyed_setField {fields : List (String × Json)} {k : String} {v : Json}
    (h : (obj fields).Keyed) (hv : v.Keyed) : (obj (setField fields k v)).Keyed := by
  obtain ⟨hnodup, hfields⟩ := h
  rw [keyedFields_iff] at hfields
  let d : Dict String Json := ⟨fields, hnodup⟩
  refine ⟨(d.set k v).nodup, keyedFields_iff.mpr fun e he => ?_⟩
  rcases Dict.mem_values_set (d := d) (List.mem_map_of_mem he) with heq | hmem
  · rw [heq]
    exact hv
  · obtain ⟨e', he', heq⟩ := List.mem_map.mp hmem
    rw [← heq]
    exact hfields e' he'

section

variable [FloatText]

theorem readNumber_keyed {cs : List Char} {r : Json × List Char} (h : readNumber cs = some r) :
    r.1.Keyed := by
  simp only [readNumber] at h
  split at h
  · cases h
  · split at h
    · split at h
      · cases h
      · cases h
        trivial
    · cases h
      trivial

theorem readAtom_keyed {cs : List Char} {r : Json × List Char} (h : readAtom cs = some r) :
    r.1.Keyed := by
  rw [readAtom] at h
  split at h
  next w hw =>
    have hword : ∀ w ∈ words, w.2.Keyed := by
      simp [words, Keyed]
    cases h
    exact hword w (List.mem_of_find?_eq_some hw)
  next => exact readNumber_keyed h

/-- No object that is read has a key twice: the last value of a repeated key counts. -/
theorem reads_keyed (n : Nat) :
    (∀ cs r, readValue n cs = some r → r.1.Keyed) ∧
    (∀ cs r, readItems n cs = some r → KeyedItems r.1) ∧
    (∀ fields cs r, (obj fields).Keyed → readFields n fields cs = some r → (obj r.1).Keyed) := by
  induction n with
  | zero =>
      refine ⟨fun cs r h => ?_, fun cs r h => ?_, fun fields cs r _ h => ?_⟩
      · cases h
      · cases h
      · cases h
  | succ n ih =>
      obtain ⟨hvalue, hitems, hfields⟩ := ih
      refine ⟨fun cs r h => ?_, fun cs r h => ?_, fun fields cs r hkeyed h => ?_⟩
      · unfold readValue at h
        split at h
        · obtain ⟨r', -, rfl⟩ := Option.map_eq_some_iff.mp h
          trivial
        · split at h
          · cases h
            trivial
          · obtain ⟨r', hr', rfl⟩ := Option.map_eq_some_iff.mp h
            exact hitems _ _ hr'
        · split at h
          · cases h
            exact ⟨List.nodup_nil, trivial⟩
          · obtain ⟨r', hr', rfl⟩ := Option.map_eq_some_iff.mp h
            exact hfields [] _ _ ⟨List.nodup_nil, trivial⟩ hr'
        · exact readAtom_keyed h
      · unfold readItems at h
        split at h
        · cases h
        next item cs hitem =>
          have hkeyed := hvalue _ _ hitem
          split at h
          · obtain ⟨r', hr', rfl⟩ := Option.map_eq_some_iff.mp h
            exact ⟨hkeyed, hitems _ _ hr'⟩
          · cases h
            exact ⟨hkeyed, trivial⟩
          · cases h
      · unfold readFields at h
        split at h
        · split at h
          · cases h
          · split at h
            · split at h
              · cases h
              next value cs hread =>
                have hset := fun k => keyed_setField (k := k) hkeyed (hvalue _ _ hread)
                split at h
                · exact hfields _ _ _ (hset _) h
                · cases h
                  exact hset _
                · cases h
            · cases h
        · cases h

theorem loads_keyed {text : String} {j : Json} (h : loads text = some j) : j.Keyed := by
  simp only [loads] at h
  split at h
  · cases h
  next value rest hvalue =>
    split at h
    · cases h
      exact (reads_keyed _).1 _ _ hvalue
    · cases h

end

end Json
