/-
# `Lib.DecimalText` — the texts of decimals

The text of an amount with two places, and what `Decimal` reads from a text.
Blanks around the number and underscores in it do not count, and a decimal digit
of another script stands for its value.  Besides finite numbers there are
infinities and two kinds of NaN.  What is written comes back (`ofText_toStr`).
-/
import ImpactRelay.Lib.Decimal
import ImpactRelay.Lib.Text

namespace Decimal

/-- The text of an amount with two places. -/
def toStr (c : Int) : String :=
  let n := c.natAbs
  (if c < 0 then "-" else "") ++ toString (n / 100) ++ "." ++
    toString (n % 100 / 10) ++ toString (n % 10)

example : toStr (-1205) = "-12.05" := by decide

def parseSign : List Char → Bool × List Char
  | '-' :: cs => (true, cs)
  | '+' :: cs => (false, cs)
  | cs => (false, cs)

def signed (negative : Bool) (n : Nat) : Int := if negative then -n else n

/-- The digits of a coefficient with `places` of them after the point, and what
follows them: nothing, or an exponent. -/
def finish (negative : Bool) (digits : List Char) (places : Nat) (rest : List Char) : Amount :=
  let coeff := signed negative (Nat.ofDigitChars 10 digits 0)
  if digits = [] then .malformed
  else
    match rest with
    | [] => .finite coeff (-places)
    | e :: cs =>
        let (expNegative, expDigits) := parseSign cs
        if (e = 'e' ∨ e = 'E') ∧ expDigits ≠ [] ∧ expDigits.all Char.isDigit then
          .finite coeff (signed expNegative (Nat.ofDigitChars 10 expDigits 0) - places)
        else .malformed

def parseUnsigned (negative : Bool) (cs : List Char) : Amount :=
  match cs.dropWhile Char.isDigit with
  | '.' :: rest =>
      finish negative (cs.takeWhile Char.isDigit ++ rest.takeWhile Char.isDigit)
        (rest.takeWhile Char.isDigit).length (rest.dropWhile Char.isDigit)
  | rest => finish negative (cs.takeWhile Char.isDigit) 0 rest

/-- The zeros of the scripts that have decimal digits. -/
def scriptZeros : List Nat := [
  0x660, 0x6F0, 0x7C0, 0x966, 0x9E6, 0xA66, 0xAE6, 0xB66, 0xBE6, 0xC66, 0xCE6, 0xD66, 0xDE6, 0xE50,
  0xED0, 0xF20, 0x1040, 0x1090, 0x17E0, 0x1810, 0x1946, 0x19D0, 0x1A80, 0x1A90, 0x1B50, 0x1BB0,
  0x1C40, 0x1C50, 0xA620, 0xA8D0, 0xA900, 0xA9D0, 0xA9F0, 0xAA50, 0xABF0, 0xFF10, 0x104A0, 0x10D30,
  0x11066, 0x110F0, 0x11136, 0x111D0, 0x112F0, 0x11450, 0x114D0, 0x11650, 0x116C0, 0x11730, 0x118E0,
  0x11950, 0x11C50, 0x11D50, 0x11DA0, 0x16A60, 0x16AC0, 0x16B50, 0x1D7CE, 0x1D7D8, 0x1D7E2, 0x1D7EC,
  0x1D7F6, 0x1E140, 0x1E2F0, 0x1E950, 0x1FBF0]

/-- The digit of ASCII that a character stands for, if it is a decimal digit. -/
def asciiDigit (c : Char) : Char :=
  if c.toNat < 128 then c
  else
    match scriptZeros.find? fun start => start ≤ c.toNat ∧ c.toNat < start + 10 with
    | some start => Nat.digitChar (c.toNat - start)
    | none => c

/-- The characters that are read. -/
def significant (text : String) : List Char :=
  ((Text.strip text).toList.filter (· ≠ '_')).map asciiDigit

/-- A number, an infinity or a NaN without its sign. -/
def readUnsigned (negative : Bool) (cs : List Char) : Amount :=
  match cs.map Char.toLower with
  | ['i', 'n', 'f'] | ['i', 'n', 'f', 'i', 'n', 'i', 't', 'y'] => .infinite
  | 'n' :: 'a' :: 'n' :: payload => if payload.all Char.isDigit then .nan else .malformed
  | 's' :: 'n' :: 'a' :: 'n' :: payload =>
      if payload.all Char.isDigit then .signaling else .malformed
  | _ => parseUnsigned negative cs

def read (text : String) : Amount :=
  let (negative, cs) := parseSign (significant text)
  readUnsigned negative cs

/-- The largest exponent of a leading digit. -/
def maxExponent : Int := 999999999999999999

/-- The smallest exponent of a last digit. -/
def minExponent : Int := -1999999999999999997

/-- A number that is not held exactly is refused. -/
def held : Amount → Amount
  | .finite coeff exp =>
      if minExponent ≤ exp ∧ exp + digits coeff - 1 ≤ maxExponent then .finite coeff exp
      else .outOfRange
  | d => d

/-- `Decimal(text)`. -/
def ofText (text : String) : Amount := held (read text)

example : ofText " -1_2.50e1" = .finite (-1250) (-1) := by decide

example : ofText "-sNaN7" = .signaling := by decide

example : ofText "٣.٥" = .finite 35 (-1) := by decide

/-! ## Reading back -/

theorem takeWhile_dropWhile_digits {ds : List Char} {c : Char} (rest : List Char)
    (hds : ∀ d ∈ ds, d.isDigit = true) (hc : c.isDigit = false) :
    (ds ++ c :: rest).takeWhile Char.isDigit = ds ∧
      (ds ++ c :: rest).dropWhile Char.isDigit = c :: rest := by
  constructor
  · rw [List.takeWhile_append_of_pos hds, List.takeWhile_cons_of_neg (by simp [hc]), List.append_nil]
  · rw [List.dropWhile_append_of_pos hds, List.dropWhile_cons_of_neg (by simp [hc])]

/-- The digits of the whole part, the point and the two places. -/
theorem toList_toStr (c : Int) : (toStr c).toList =
    (if c < 0 then ['-'] else []) ++ (Nat.toDigits 10 (c.natAbs / 100) ++
      '.' :: [Nat.digitChar (c.natAbs % 100 / 10), Nat.digitChar (c.natAbs % 10)]) := by
  have htens : Nat.toDigits 10 (c.natAbs % 100 / 10) = [Nat.digitChar (c.natAbs % 100 / 10)] :=
    Nat.toDigits_of_lt_base (by omega)
  have hones : Nat.toDigits 10 (c.natAbs % 10) = [Nat.digitChar (c.natAbs % 10)] :=
    Nat.toDigits_of_lt_base (by omega)
  rw [toStr]
  simp only [String.toList_append, Nat.toString_eq_ofList_toDigits, String.toList_ofList, htens,
    hones, List.append_assoc]
  split <;> rfl

theorem parseUnsigned_digits (negative : Bool) (n : Nat) :
    parseUnsigned negative (Nat.toDigits 10 (n / 100) ++
      '.' :: [Nat.digitChar (n % 100 / 10), Nat.digitChar (n % 10)]) =
      .finite (signed negative n) (-2) := by
  have hwhole : ∀ d ∈ Nat.toDigits 10 (n / 100), d.isDigit = true :=
    fun d hd => Nat.isDigit_of_mem_toDigits (by omega) (by omega) hd
  have htens : (Nat.digitChar (n % 100 / 10)).isDigit = true := by
    rw [Nat.isDigit_digitChar]
    exact decide_eq_true (by omega)
  have hones : (Nat.digitChar (n % 10)).isDigit = true := by
    rw [Nat.isDigit_digitChar]
    exact decide_eq_true (by omega)
  obtain ⟨htake, hdrop⟩ := takeWhile_dropWhile_digits
    [Nat.digitChar (n % 100 / 10), Nat.digitChar (n % 10)] hwhole
    (show ('.' : Char).isDigit = false by decide)
  have hcoeff : Nat.ofDigitChars 10 (Nat.toDigits 10 (n / 100) ++
      [Nat.digitChar (n % 100 / 10), Nat.digitChar (n % 10)]) 0 = n := by
    rw [Nat.ofDigitChars_append, Nat.ofDigitChars_ten_toDigits,
      Nat.ofDigitChars_cons_digitChar_of_lt_ten (by omega),
      Nat.ofDigitChars_cons_digitChar_of_lt_ten (by omega), Nat.ofDigitChars_nil]
    omega
  rw [parseUnsigned, hdrop, htake]
  simp [htens, hones, finish, hcoeff]

theorem significant_of_plain {text : String}
    (h : ∀ c ∈ text.toList, c.isDigit = true ∨ c = '-' ∨ c = '.') :
    significant text = text.toList := by
  have hplain : ∀ c ∈ text.toList, Text.isSpace c = false ∧ c ≠ '_' ∧ asciiDigit c = c := by
    intro c hc
    rcases h c hc with hdigit | rfl | rfl
    · have hrange : 48 ≤ c.toNat ∧ c.toNat ≤ 57 := by
        simpa [Char.isDigit, UInt32.le_iff_toNat_le] using hdigit
      refine ⟨?_, ?_, if_pos (by omega)⟩
      · simp only [Text.isSpace, decide_eq_false_iff_not, not_or, not_and, not_le, List.mem_cons,
          List.not_mem_nil, or_false]
        omega
      · rintro rfl
        exact absurd hrange.2 (by decide)
    · decide
    · decide
  have hdrop : ∀ cs : List Char, (∀ c ∈ cs, c ∈ text.toList) → cs.dropWhile Text.isSpace = cs := by
    intro cs hcs
    cases cs with
    | nil => rfl
    | cons c cs =>
        exact List.dropWhile_cons_of_neg (by simp [(hplain c (hcs c List.mem_cons_self)).1])
  rw [significant, Text.strip, String.toList_ofList, hdrop _ fun _ hc => hc,
    hdrop _ fun _ hc => List.mem_reverse.mp hc, List.reverse_reverse,
    List.filter_eq_self.mpr fun c hc => by simp [(hplain c hc).2.1]]
  conv_rhs => rw [← List.map_id text.toList]
  exact List.map_congr_left fun c hc => (hplain c hc).2.2

theorem parseSign_digit {d : Char} {cs : List Char} (hd : d.isDigit = true) :
    parseSign (d :: cs) = (false, d :: cs) := by
  rw [parseSign]
  · rintro _ h
    cases h
    exact nomatch hd
  · rintro _ h
    cases h
    exact nomatch hd

/-- What begins with a digit is a number. -/
theorem readUnsigned_digit {negative : Bool} {d : Char} {cs : List Char} (hd : d.isDigit = true) :
    readUnsigned negative (d :: cs) = parseUnsigned negative (d :: cs) := by
  have hrange : 48 ≤ d.toNat ∧ d.toNat ≤ 57 := by
    simpa [Char.isDigit, UInt32.le_iff_toNat_le] using hd
  have hlower : d.toLower = d := by
    rw [Char.toLower]
    exact dif_neg fun h => by
      have := UInt32.le_iff_toNat_le.mp h.1
      have : 65 ≤ d.toNat := this
      omega
  have hne : ∀ c : Char, 57 < c.toNat → d ≠ c := by
    rintro c hc rfl
    omega
  rw [readUnsigned, List.map_cons, hlower]
  split
  · next h => exact absurd (List.cons.inj h).1 (hne _ (by decide))
  · next h => exact absurd (List.cons.inj h).1 (hne _ (by decide))
  · next h => exact absurd (List.cons.inj h).1 (hne _ (by decide))
  · next h => exact absurd (List.cons.inj h).1 (hne _ (by decide))
  · rfl

/-- Reading back the text of an amount, however large. -/
theorem read_toStr (c : Int) : read (toStr c) = ofCents c := by
  have hwhole : ∀ d ∈ Nat.toDigits 10 (c.natAbs / 100), d.isDigit = true :=
    fun d hd => Nat.isDigit_of_mem_toDigits (by omega) (by omega) hd
  have hplain : ∀ d ∈ (toStr c).toList, d.isDigit = true ∨ d = '-' ∨ d = '.' := by
    intro d hd
    rw [toList_toStr, List.mem_append, List.mem_append, List.mem_cons, List.mem_cons,
      List.mem_singleton] at hd
    rcases hd with hd | hd | rfl | rfl | rfl
    · split at hd
      · exact Or.inr (Or.inl (List.mem_singleton.mp hd))
      · exact absurd hd List.not_mem_nil
    · exact Or.inl (hwhole d hd)
    · exact Or.inr (Or.inr rfl)
    · exact Or.inl (by rw [Nat.isDigit_digitChar]; exact decide_eq_true (by omega))
    · exact Or.inl (by rw [Nat.isDigit_digitChar]; exact decide_eq_true (by omega))
  have hparse (negative : Bool) : readUnsigned negative (Nat.toDigits 10 (c.natAbs / 100) ++
      '.' :: [Nat.digitChar (c.natAbs % 100 / 10), Nat.digitChar (c.natAbs % 10)]) =
      .finite (signed negative c.natAbs) (-2) := by
    rw [← parseUnsigned_digits]
    cases hds : Nat.toDigits 10 (c.natAbs / 100) with
    | nil => exact absurd hds Nat.toDigits_ne_nil
    | cons d ds => exact readUnsigned_digit (hwhole d (hds ▸ List.mem_cons_self))
  rw [read, significant_of_plain hplain, toList_toStr]
  by_cases hneg : c < 0
  · rw [if_pos hneg]
    show readUnsigned true (Nat.toDigits 10 (c.natAbs / 100) ++ _) = _
    rw [hparse, ofCents]
    exact congrArg (Amount.finite · (-2)) (show -(c.natAbs : Int) = c by omega)
  · rw [if_neg hneg, List.nil_append]
    cases hds : Nat.toDigits 10 (c.natAbs / 100) with
    | nil => exact absurd hds Nat.toDigits_ne_nil
    | cons d ds =>
        rw [List.cons_append, parseSign_digit (hwhole d (hds ▸ List.mem_cons_self)),
          ← List.cons_append, ← hds]
        show readUnsigned false _ = _
        rw [hparse, ofCents]
        exact congrArg (Amount.finite · (-2)) (show (c.natAbs : Int) = c by omega)

/-- Reading back the text of an amount. -/
theorem ofText_toStr {c : Int} (h : Fits c) : ofText (toStr c) = ofCents c := by
  have hdigits : digits c ≤ precision :=
    (Nat.length_toDigits_le_iff (by norm_num) (by decide)).mpr h
  rw [ofText, read_toStr, ofCents]
  refine if_pos ⟨by decide, ?_⟩
  have hshort : digits c ≤ 28 := hdigits
  rw [maxExponent]
  omega

end Decimal
