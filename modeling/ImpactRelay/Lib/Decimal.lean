/-
# `Lib.Decimal` — amounts of money as whole cents

`quantize` brings a decimal to two places, rounding half to even, and signals
`InvalidOperation` for what is not a number or needs more digits than the
context has; a quiet NaN it returns as it is, for the next ordering test to
refuse.  After it every amount is a whole number of cents, so a stored amount is
an `Int`.  What a caller passes in is an `Amount`.  A product or a quotient of
two is rounded to the digits of the context before it is quantized, and so is
each sum: `total_of_lt` says when that makes no difference.
-/
import Mathlib

namespace Decimal

/-- A decimal as a caller writes it, or a text that is none: one that no decimal
is read from, or one whose exponent is too large or too small to be held. -/
inductive Amount where
  | finite (coeff exp : Int)
  | infinite
  | nan
  | signaling
  | malformed
  | outOfRange
deriving DecidableEq, Repr

/-- What `Decimal(text)` says of a text that it refuses. -/
def Amount.refusal : Amount → Option String
  | .malformed => some "[<class 'decimal.ConversionSyntax'>]"
  | .outOfRange => some "[<class 'decimal.InvalidOperation'>]"
  | _ => none

/-- `n / d` rounded to an integer, ties to the even neighbour (`d` positive). -/
def halfEven (n d : Int) : Int :=
  let q := n / d
  let r := n % d
  if 2 * r < d then q
  else if d < 2 * r then q + 1
  else if q % 2 = 0 then q
  else q + 1

/-- Significant digits of the arithmetic context. -/
def precision : Nat := 28

/-- No more digits than the context has. -/
def Fits (c : Int) : Prop := c.natAbs < 10 ^ precision

instance (c : Int) : Decidable (Fits c) := inferInstanceAs (Decidable (_ < _))

theorem fits_iff {c : Int} : Fits c ↔ -10 ^ precision < c ∧ c < 10 ^ precision := by
  simp only [Fits, precision]
  omega

/-- `coeff * 10 ^ exp` in cents. -/
def centsOf (coeff exp : Int) : Int :=
  if 0 ≤ exp + 2 then coeff * 10 ^ (exp + 2).toNat
  else halfEven coeff (10 ^ (-(exp + 2)).toNat)

/-- Whole cents, or the quiet NaN that was quantized. -/
inductive Quantized where
  | cents (c : Int)
  | nan
deriving DecidableEq, Repr

/-- `d.quantize(Decimal("0.01"))`; nothing when it signals `InvalidOperation`. -/
def quantize : Amount → Option Quantized
  | .finite coeff exp =>
      let c := centsOf coeff exp
      if Fits c then some (.cents c) else none
  | .nan => some .nan
  | .infinite | .signaling | .malformed | .outOfRange => none

/-- An amount that is already a whole number of cents. -/
def ofCents (c : Int) : Amount := .finite c (-2)

theorem quantize_ofCents {c : Int} (h : Fits c) : quantize (ofCents c) = some (.cents c) := by
  simp [quantize, ofCents, centsOf, h]

/-! ## Products and quotients -/

/-- Decimal digits of a coefficient. -/
def digits (n : Int) : Nat := (Nat.toDigits 10 n.natAbs).length

/-- `coeff * 10 ^ exp` with at most the digits of the context, ties to even. -/
def round (coeff exp : Int) : Amount :=
  let excess := digits coeff - precision
  .finite (halfEven coeff (10 ^ excess)) (exp + excess)

/-- `a * b`, of finite decimals. -/
def mul : Amount → Amount → Amount
  | .finite c e, .finite c' e' => round (c * c') (e + e')
  | _, _ => .nan

/-- `a / b` for a positive `b`: the quotient to one digit more than the context
has, its last digit moved off a tie when there is a remainder, then rounded. -/
def div : Amount → Amount → Amount
  | .finite c e, .finite c' e' =>
      let shift : Int := digits c' - digits c + precision + 1
      let n := c * 10 ^ shift.toNat
      let d := c' * 10 ^ (-shift).toNat
      let q := n / d
      round (if n % d ≠ 0 ∧ q % 5 = 0 then q + 1 else q) (e - e' - shift)
  | _, _ => .nan

/-- A third of 1.50 is rounded twice and still comes out even. -/
example : quantize (mul (ofCents 150) (div (ofCents 1) (ofCents 3))) = some (.cents 50) := by
  decide

example : quantize (.finite 12345 (-3)) = some (.cents 1234) := by decide

/-! ## Sums -/

theorem halfEven_one (n : Int) : halfEven n 1 = n := by
  simp [halfEven]

theorem le_of_lt_digits {k : Nat} {n : Int} (hk : 0 < k) (h : k < digits n) :
    10 ^ k ≤ n.natAbs :=
  Nat.not_lt.mp fun hlt => absurd ((Nat.length_toDigits_le_iff (by norm_num) hk).mpr hlt)
    (Nat.not_le.mpr h)

theorem pow_digits_le {n : Int} (hn : n ≠ 0) : 10 ^ (digits n - 1) ≤ n.natAbs := by
  rcases Nat.eq_zero_or_pos (digits n - 1) with hone | hmany
  · rw [hone, pow_zero]
    exact Int.natAbs_pos.mpr hn
  · exact le_of_lt_digits hmany (by omega)

theorem lt_pow_digits (n : Int) : n.natAbs < 10 ^ digits n :=
  (Nat.length_toDigits_le_iff (by norm_num) Nat.length_toDigits_pos).mp (Nat.le_refl _)

/-- Cents with at most the digits of the context, ties to even. -/
def fit (c : Int) : Int :=
  if Fits c then c
  else
    let unit : Int := 10 ^ (digits c - precision)
    halfEven c unit * unit

/-- `a + b`. -/
def add (a b : Int) : Int := fit (a + b)

/-- `a - b`. -/
def sub (a b : Int) : Int := fit (a - b)

/-- `sum(amounts, Decimal("0.00"))`. -/
def total (amounts : List Int) : Int := amounts.foldl add 0

/-- 99999999999999999999999999.99 and 0.01 and 0.04: the second sum has one digit too many. -/
example : total [9999999999999999999999999999, 1, 4] = 10000000000000000000000000000 := by decide

theorem fit_of_fits {c : Int} (h : Fits c) : fit c = c := if_pos h

/-- Rounding does not bring a number back into the digits of the context. -/
theorem fits_of_nonneg {c : Int} (hnonneg : 0 ≤ c) (h : c < 10 ^ precision) : Fits c :=
  fits_iff.mpr ⟨lt_of_lt_of_le (by decide) hnonneg, h⟩

theorem foldl_add_of_lt {amounts : List Int} {start : Int} (hnonneg : ∀ a ∈ amounts, 0 ≤ a)
    (hstart : 0 ≤ start) (h : start + amounts.sum < 10 ^ precision) :
    amounts.foldl add start = start + amounts.sum := by
  induction amounts generalizing start with
  | nil => simp
  | cons a amounts ih =>
      have ha := hnonneg a List.mem_cons_self
      have hrest : 0 ≤ amounts.sum :=
        List.sum_nonneg fun b hb => hnonneg b (List.mem_cons_of_mem a hb)
      rw [List.sum_cons] at h ⊢
      have hadd : add start a = start + a :=
        fit_of_fits (fits_of_nonneg (by omega) (by omega))
      rw [List.foldl_cons, hadd, ih (fun b hb => hnonneg b (List.mem_cons_of_mem a hb)) (by omega)
        (by omega), add_assoc]

/-- A sum within the digits of the context is exact. -/
theorem total_of_lt {amounts : List Int} (hnonneg : ∀ a ∈ amounts, 0 ≤ a)
    (h : amounts.sum < 10 ^ precision) : total amounts = amounts.sum := by
  rw [total, foldl_add_of_lt hnonneg le_rfl (by omega), zero_add]

end Decimal
