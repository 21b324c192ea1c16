/-
# `Lib.Rounding` — how far rounding moves an amount

The exact value of a decimal in cents, and how far from it the cents are that
`quantize` gives: half a cent.  Over any number of amounts the errors add up
(`sum_close`).  Products and quotients are rounded to the digits of the context
first; `mul_div_close` bounds what that costs a share `a * (b / c)`.
-/
import ImpactRelay.Lib.Decimal
import Mathlib

namespace Decimal

/-! ## The exact value -/

/-- The value of a decimal in cents. -/
def cents : Amount → ℚ
  | .finite coeff exp => coeff * 10 ^ (exp + 2)
  | _ => 0

@[simp] theorem cents_ofCents (c : Int) : cents (ofCents c) = c := by
  simp [cents, ofCents]

/-! ## One rounding -/

theorem div_eq_floor_add (n : Int) {d : Int} (hd : 0 < d) :
    (n : ℚ) / d = (n / d : Int) + (n % d : Int) / d := by
  have hpos : (0 : ℚ) < d := by exact_mod_cast hd
  have hsplit : (n : ℚ) = d * (n / d : Int) + (n % d : Int) := by
    exact_mod_cast (Int.mul_ediv_add_emod n d).symm
  rw [hsplit]
  field_simp

/-- The even neighbour is the nearest. -/
theorem halfEven_close (n : Int) {d : Int} (hd : 0 < d) :
    |(halfEven n d : ℚ) - n / d| ≤ 1 / 2 := by
  have hpos : (0 : ℚ) < d := by exact_mod_cast hd
  have hnonneg : (0 : ℚ) ≤ (n % d : Int) := by exact_mod_cast Int.emod_nonneg n hd.ne'
  have hlt : ((n % d : Int) : ℚ) < d := by exact_mod_cast Int.emod_lt_of_pos n hd
  rw [div_eq_floor_add n hd, abs_le]
  have hfrac : ((n % d : Int) : ℚ) / d < 1 := (div_lt_one hpos).mpr hlt
  have hfrac' : (0 : ℚ) ≤ ((n % d : Int) : ℚ) / d := div_nonneg hnonneg hpos.le
  unfold halfEven
  simp only
  split
  · next hlow =>
      have hlow' : ((n % d : Int) : ℚ) / d < 1 / 2 := by
        rw [div_lt_div_iff₀ hpos two_pos]
        exact_mod_cast (show n % d * 2 < 1 * d by omega)
      constructor <;> linarith
  · next hlow =>
      have hhigh : (1 : ℚ) / 2 ≤ ((n % d : Int) : ℚ) / d := by
        rw [div_le_div_iff₀ two_pos hpos]
        exact_mod_cast (show 1 * d ≤ n % d * 2 by omega)
      split
      · push_cast
        constructor <;> linarith
      · next htie =>
          have htie' : ((n % d : Int) : ℚ) / d = 1 / 2 := by
            rw [div_eq_div_iff hpos.ne' two_ne_zero]
            exact_mod_cast (show n % d * 2 = 1 * d by omega)
          rw [htie']
          split
          · constructor <;> linarith
          · push_cast
            constructor <;> linarith

theorem centsOf_close (coeff exp : Int) :
    |(centsOf coeff exp : ℚ) - cents (.finite coeff exp)| ≤ 1 / 2 := by
  rw [centsOf, cents]
  split
  · next hexp =>
      have hcast : ((coeff * 10 ^ (exp + 2).toNat : Int) : ℚ) = coeff * 10 ^ (exp + 2) := by
        push_cast
        rw [← zpow_natCast, Int.toNat_of_nonneg hexp]
      rw [hcast, sub_self, abs_zero]
      norm_num
  · next hexp =>
      have hpow : (0 : Int) < 10 ^ (-(exp + 2)).toNat := by positivity
      have hclose := halfEven_close coeff hpow
      have hcast : (coeff : ℚ) / (10 ^ (-(exp + 2)).toNat : Int) = coeff * 10 ^ (exp + 2) := by
        push_cast
        rw [← zpow_natCast, Int.toNat_of_nonneg (by omega), zpow_neg, div_inv_eq_mul]
      rwa [hcast] at hclose

theorem quantize_close {x : Amount} {c : Int} (h : quantize x = some (.cents c)) :
    |(c : ℚ) - cents x| ≤ 1 / 2 := by
  cases x with
  | finite coeff exp =>
      simp only [quantize, Option.ite_none_right_eq_some, Option.some.injEq,
        Quantized.cents.injEq] at h
      exact h.2 ▸ centsOf_close coeff exp
  | nan | infinite | signaling | malformed | outOfRange => simp [quantize] at h

/-- Half a cent is not enough to pass a whole number of cents. -/
theorem quantize_le {x : Amount} {c k : Int} (h : quantize x = some (.cents c))
    (hlt : cents x < k + 1 / 2) : c ≤ k := by
  have hclose := (abs_le.mp (quantize_close h)).2
  have hlt' : (c : ℚ) < (k + 1 : Int) := by
    push_cast
    linarith
  have hint : c < k + 1 := by exact_mod_cast hlt'
  omega

/-! ## Many roundings -/

/-- The error of a sum is at most the sum of the errors. -/
theorem sum_close {α : Type} {f g δ : α → ℚ} {xs : List α} (h : ∀ x ∈ xs, |f x - g x| ≤ δ x) :
    |(xs.map f).sum - (xs.map g).sum| ≤ (xs.map δ).sum := by
  induction xs with
  | nil => simp
  | cons x xs ih =>
      have hhead := abs_le.mp (h x List.mem_cons_self)
      have htail := abs_le.mp (ih fun y hy => h y (List.mem_cons_of_mem x hy))
      simp only [List.map_cons, List.sum_cons]
      rw [abs_le]
      constructor <;> linarith [hhead.1, hhead.2, htail.1, htail.2]

/-! ## Products and quotients -/

/-- The value of a decimal. -/
def value : Amount → ℚ
  | .finite coeff exp => coeff * 10 ^ exp
  | _ => 0

theorem cents_eq_value (x : Amount) : cents x = value x * 100 := by
  cases x with
  | finite coeff exp =>
      rw [cents, value, zpow_add₀ (by norm_num : (10 : ℚ) ≠ 0)]
      norm_num
      ring
  | _ => simp [cents, value]

/-- Rounding to the digits of the context moves a decimal by at most half a unit
of its last digit. -/
theorem round_close (coeff exp : Int) :
    |value (round coeff exp) - coeff * 10 ^ exp| ≤ |(coeff : ℚ) * 10 ^ exp| * (1 / 2 / 10 ^ 27) := by
  rcases Nat.eq_zero_or_pos (digits coeff - precision) with hfew | hmany
  · have hexact : value (round coeff exp) = coeff * 10 ^ exp := by
      rw [round, hfew, value, Nat.cast_zero, add_zero, pow_zero, halfEven_one]
    rw [hexact, sub_self, abs_zero]
    positivity
  · obtain ⟨excess, hexcess⟩ : ∃ excess, digits coeff - precision = excess := ⟨_, rfl⟩
    rw [hexcess] at hmany
    have hpow : (0 : Int) < 10 ^ excess := by positivity
    have hclose := halfEven_close coeff hpow
    push_cast at hclose
    have hbig : (10 : ℚ) ^ (27 + excess) ≤ |(coeff : ℚ)| := by
      have hdigits : 27 + excess < digits coeff := by
        rw [precision] at hexcess
        omega
      have hnat := le_of_lt_digits (by omega) hdigits
      rw [← Int.cast_abs, Int.abs_eq_natAbs]
      exact_mod_cast hnat
    have hvalue : value (round coeff exp) - coeff * 10 ^ exp =
        ((halfEven coeff (10 ^ excess) : ℚ) - coeff / 10 ^ excess) * (10 ^ excess * 10 ^ exp) := by
      rw [round, hexcess, value, zpow_add₀ (by norm_num : (10 : ℚ) ≠ 0), zpow_natCast]
      field_simp
    have hunits : (0 : ℚ) < 10 ^ excess * 10 ^ exp := by positivity
    rw [hvalue, abs_mul _ (10 ^ excess * 10 ^ exp : ℚ), abs_of_pos hunits, abs_mul (coeff : ℚ),
      abs_of_pos (show (0 : ℚ) < 10 ^ exp by positivity)]
    have hunit : (10 : ℚ) ^ excess ≤ |(coeff : ℚ)| / 10 ^ 27 := by
      rw [le_div_iff₀ (by positivity), ← pow_add, add_comm]
      exact hbig
    calc |(halfEven coeff (10 ^ excess) : ℚ) - coeff / 10 ^ excess| * (10 ^ excess * 10 ^ exp)
        ≤ 1 / 2 * (|(coeff : ℚ)| / 10 ^ 27 * 10 ^ exp) := by gcongr
      _ = |(coeff : ℚ)| * 10 ^ exp * (1 / 2 / 10 ^ 27) := by ring

theorem mul_close (x y : Amount) :
    |value (mul x y) - value x * value y| ≤ |value x * value y| * (1 / 2 / 10 ^ 27) := by
  cases x with
  | finite c e =>
      cases y with
      | finite c' e' =>
          have hclose := round_close (c * c') (e + e')
          have hvalue : ((c * c' : Int) : ℚ) * 10 ^ (e + e') = c * 10 ^ e * (c' * 10 ^ e') := by
            push_cast
            rw [zpow_add₀ (by norm_num : (10 : ℚ) ≠ 0)]
            ring
          rw [hvalue] at hclose
          exact hclose
      | _ => simp [mul, value]
  | _ => simp [mul, value]

theorem zpow_toNat (shift : Int) :
    (10 : ℚ) ^ shift.toNat / 10 ^ (-shift).toNat = 10 ^ shift := by
  rcases le_total 0 shift with hshift | hshift
  · rw [← zpow_natCast, Int.toNat_of_nonneg hshift, Int.toNat_of_nonpos (by omega), pow_zero,
      div_one]
  · rw [← zpow_natCast, ← zpow_natCast, Int.toNat_of_nonpos hshift, Int.toNat_of_nonneg (by omega),
      zpow_neg, div_inv_eq_mul, Nat.cast_zero, zpow_zero, one_mul]

/-- The quotient of two whole amounts of cents: what is cut off is less than a
unit of the last digit before the rounding. -/
theorem div_close {b c : Int} (hb : 0 < b) (hc : 0 < c) :
    |value (div (ofCents b) (ofCents c)) - b / c| ≤ (b / c : ℚ) * (1 / 10 ^ 27) := by
  have hb' : (0 : ℚ) < b := by exact_mod_cast hb
  have hc' : (0 : ℚ) < c := by exact_mod_cast hc
  obtain ⟨shift, hshift⟩ : ∃ shift : Int, (digits c : Int) - digits b + precision + 1 = shift :=
    ⟨_, rfl⟩
  obtain ⟨n, hn⟩ : ∃ n : Int, b * 10 ^ shift.toNat = n := ⟨_, rfl⟩
  obtain ⟨d, hd⟩ : ∃ d : Int, c * 10 ^ (-shift).toNat = d := ⟨_, rfl⟩
  have hdpos : 0 < d := hd ▸ Int.mul_pos hc (by positivity)
  have hdpos' : (0 : ℚ) < d := by exact_mod_cast hdpos
  have hscaled : (n : ℚ) / d = b / c * 10 ^ shift := by
    rw [← hn, ← hd, ← zpow_toNat shift]
    push_cast
    field_simp
  -- the scaled quotient has more digits than the context
  have hlarge : (10 : ℚ) ^ 28 ≤ n / d := by
    have hfirst : (10 : ℚ) ^ (digits b - 1) ≤ b := by
      have hnat := pow_digits_le hb.ne'
      exact_mod_cast (by omega : (10 ^ (digits b - 1) : Nat) ≤ b)
    have hlast : (c : ℚ) ≤ 10 ^ digits c := by
      have hnat := lt_pow_digits c
      exact_mod_cast (by omega : c ≤ (10 ^ digits c : Nat))
    have hdigits : 0 < digits b := Nat.length_toDigits_pos
    have hexps : (10 : ℚ) ^ 28 = 10 ^ (digits b - 1) / 10 ^ digits c * 10 ^ shift := by
      rw [← zpow_natCast, ← zpow_natCast, ← zpow_natCast, ← zpow_sub₀ (by norm_num),
        ← zpow_add₀ (by norm_num), ← hshift, precision]
      congr 1
      push_cast [hdigits]
      omega
    rw [hscaled, hexps]
    gcongr
  obtain ⟨q, hq⟩ : ∃ q : Int, (if n % d ≠ 0 ∧ n / d % 5 = 0 then n / d + 1 else n / d) = q :=
    ⟨_, rfl⟩
  have hcut : |(q : ℚ) - n / d| ≤ 1 := by
    have hnonneg : (0 : ℚ) ≤ (n % d : Int) / d := by
      have := Int.emod_nonneg n hdpos.ne'
      positivity
    have hlt : ((n % d : Int) : ℚ) / d < 1 := by
      rw [div_lt_one hdpos']
      exact_mod_cast Int.emod_lt_of_pos n hdpos
    rw [div_eq_floor_add n hdpos, ← hq, abs_le]
    split
    · push_cast
      constructor <;> linarith
    · constructor <;> linarith
  have hvalue : value (div (ofCents b) (ofCents c)) = value (round q (-shift)) := by
    simp only [div, ofCents]
    rw [hshift, hn, hd, hq, sub_self, zero_sub]
  have hround := round_close q (-shift)
  rw [← hvalue] at hround
  obtain ⟨y, hy⟩ : ∃ y : ℚ, (b : ℚ) / c = y := ⟨_, rfl⟩
  obtain ⟨u, hu⟩ : ∃ u : ℚ, (q : ℚ) * 10 ^ (-shift) = u := ⟨_, rfl⟩
  rw [hy] at hscaled ⊢
  rw [hu] at hround
  have hypos : 0 < y := hy ▸ div_pos hb' hc'
  have hunit : (10 : ℚ) ^ (-shift) ≤ y / 10 ^ 28 := by
    rw [zpow_neg, le_div_iff₀ (by positivity), inv_mul_le_iff₀ (by positivity), mul_comm]
    exact hscaled ▸ hlarge
  have hnear : |u - y| ≤ y / 10 ^ 28 := by
    have hsub : u - y = ((q : ℚ) - n / d) * 10 ^ (-shift) := by
      rw [hscaled, ← hu, sub_mul, mul_assoc, ← zpow_add₀ (by norm_num), add_neg_cancel, zpow_zero,
        mul_one]
    rw [hsub, abs_mul, abs_of_pos (show (0 : ℚ) < 10 ^ (-shift) by positivity)]
    calc |(q : ℚ) - n / d| * 10 ^ (-shift) ≤ 1 * (y / 10 ^ 28) := by gcongr
      _ = y / 10 ^ 28 := one_mul _
  have hsize : |u| ≤ y + y / 10 ^ 28 := by
    have := abs_le.mp hnear
    rw [abs_le]
    constructor <;> linarith
  have htotal := abs_sub_le (value (div (ofCents b) (ofCents c))) u y
  calc |value (div (ofCents b) (ofCents c)) - y|
      ≤ |u| * (1 / 2 / 10 ^ 27) + y / 10 ^ 28 := htotal.trans (add_le_add hround hnear)
    _ ≤ (y + y / 10 ^ 28) * (1 / 2 / 10 ^ 27) + y / 10 ^ 28 := by gcongr
    _ ≤ y * (1 / 10 ^ 27) := by linarith

/-- What the digits of the context cost a share of a whole amount of cents. -/
theorem mul_div_close {a b c : Int} (ha : 0 ≤ a) (hb : 0 < b) (hc : 0 < c) :
    |cents (mul (ofCents a) (div (ofCents b) (ofCents c))) - a * b / c| ≤
      (a * b / c : ℚ) * (2 / 10 ^ 27) := by
  have ha' : (0 : ℚ) ≤ a := by exact_mod_cast ha
  have hmul := mul_close (ofCents a) (div (ofCents b) (ofCents c))
  have hdiv := div_close hb hc
  have hypos : (0 : ℚ) < b / c := div_pos (by exact_mod_cast hb) (by exact_mod_cast hc)
  rw [cents_eq_value, mul_div_assoc]
  obtain ⟨y, hy⟩ : ∃ y : ℚ, (b : ℚ) / c = y := ⟨_, rfl⟩
  obtain ⟨v, hv⟩ : ∃ v : ℚ, value (div (ofCents b) (ofCents c)) = v := ⟨_, rfl⟩
  obtain ⟨w, hw⟩ : ∃ w : ℚ, value (mul (ofCents a) (div (ofCents b) (ofCents c))) = w := ⟨_, rfl⟩
  have hcents : value (ofCents a) * 100 = a := by rw [← cents_eq_value, cents_ofCents]
  rw [hy] at hypos hdiv ⊢
  rw [hv] at hdiv
  rw [hv, hw] at hmul
  rw [hw]
  have hscaled : |w * 100 - a * v| ≤ a * |v| * (1 / 2 / 10 ^ 27) := by
    have hsub : w * 100 - a * v = (w - value (ofCents a) * v) * 100 := by rw [← hcents]; ring
    have hsize : |value (ofCents a) * v| * 100 = a * |v| := by
      rw [← abs_of_nonneg ha', ← hcents, abs_mul, abs_mul, abs_of_pos (by norm_num : (0 : ℚ) < 100)]
      ring
    rw [hsub, abs_mul, abs_of_pos (by norm_num : (0 : ℚ) < 100), ← hsize]
    linarith
  have hshare : |(a : ℚ) * v - a * y| ≤ a * (y * (1 / 10 ^ 27)) := by
    rw [← mul_sub, abs_mul, abs_of_nonneg ha']
    gcongr
  have hsize : |v| ≤ y + y * (1 / 10 ^ 27) := by
    have := abs_le.mp hdiv
    rw [abs_le]
    constructor <;> linarith
  have htotal := abs_sub_le (w * 100) (a * v) (a * y)
  have hproduct : (0 : ℚ) ≤ a * y := mul_nonneg ha' hypos.le
  calc |w * 100 - a * y|
      ≤ a * |v| * (1 / 2 / 10 ^ 27) + a * (y * (1 / 10 ^ 27)) :=
        htotal.trans (add_le_add hscaled hshare)
    _ ≤ a * (y + y * (1 / 10 ^ 27)) * (1 / 2 / 10 ^ 27) + a * (y * (1 / 10 ^ 27)) := by gcongr
    _ ≤ a * y * (2 / 10 ^ 27) := by linarith

/-- No share of a charge that is not positive is positive. -/
theorem mul_div_nonpos {a b c : Int} (ha : a ≤ 0) (hb : 0 < b) (hc : 0 < c) :
    cents (mul (ofCents a) (div (ofCents b) (ofCents c))) ≤ 0 := by
  have hmul := abs_le.mp (mul_close (ofCents a) (div (ofCents b) (ofCents c)))
  have hdiv := abs_le.mp (div_close hb hc)
  have hquotient : (0 : ℚ) < b / c := div_pos (by exact_mod_cast hb) (by exact_mod_cast hc)
  have hshare : 0 ≤ value (div (ofCents b) (ofCents c)) := by linarith [hdiv.1]
  have hcents : value (ofCents a) * 100 = a := by rw [← cents_eq_value, cents_ofCents]
  have hvalue : value (ofCents a) ≤ 0 := by
    have ha' : (a : ℚ) ≤ 0 := by exact_mod_cast ha
    linarith
  have hproduct := mul_nonpos_of_nonpos_of_nonneg hvalue hshare
  rw [abs_of_nonpos hproduct] at hmul
  rw [cents_eq_value]
  linarith [hmul.2]

end Decimal
