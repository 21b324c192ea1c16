/-
# `Lib.IsoOrder` — texts in the order of their instants

Texts are compared character by character.  For the texts that `isoformat` writes for
whole seconds in UTC this is the order of the instants: every field has its own width,
and the fields go from the years down to the seconds (`isoformat_lt_iff`).  For other
spellings it need not be.
-/
import ImpactRelay.Lib.IsoText

namespace Datetime

/-! ## Lists of characters -/

theorem append_lt_append {as bs xs ys : List Char} (hlength : as.length = bs.length)
    (h : as < bs) : as ++ xs < bs ++ ys := by
  induction as generalizing bs with
  | nil =>
      rw [List.eq_nil_of_length_eq_zero hlength.symm] at h
      exact absurd h (List.not_lt_nil [])
  | cons a as ih =>
      cases bs with
      | nil => exact nomatch hlength
      | cons b bs =>
          rw [List.cons_append, List.cons_append, List.cons_lt_cons_iff]
          rcases List.cons_lt_cons_iff.mp h with hlt | ⟨rfl, hlt⟩
          · exact .inl hlt
          · exact .inr ⟨rfl, ih (Nat.succ.inj hlength) hlt⟩

theorem digit_range {c : Char} (h : c.isDigit = true) : '0'.toNat ≤ c.toNat ∧ c.toNat ≤ '9'.toNat := by
  obtain ⟨hlow, hhigh⟩ := (Bool.and_eq_true _ _).mp h
  exact ⟨of_decide_eq_true hlow, of_decide_eq_true hhigh⟩

/-- Of two digit strings of one length, the one with the smaller value comes first; the
accumulators are what the digits before them were worth. -/
theorem digits_lt {p q : Nat} {as bs : List Char} (hlength : as.length = bs.length)
    (has : ∀ c ∈ as, c.isDigit = true) (hbs : ∀ c ∈ bs, c.isDigit = true)
    (h : Nat.ofDigitChars 10 as p < Nat.ofDigitChars 10 bs q) : p < q ∨ p = q ∧ as < bs := by
  induction as generalizing bs p q with
  | nil =>
      rw [List.eq_nil_of_length_eq_zero hlength.symm] at h
      exact .inl h
  | cons a as ih =>
      cases bs with
      | nil => exact nomatch hlength
      | cons b bs =>
          obtain ⟨ha, has⟩ := List.forall_mem_cons.mp has
          obtain ⟨hb, hbs⟩ := List.forall_mem_cons.mp hbs
          rw [Nat.ofDigitChars_cons, Nat.ofDigitChars_cons] at h
          have hnext := ih (Nat.succ.inj hlength) has hbs h
          have h0 : '0'.toNat = 48 := rfl
          have h9 : '9'.toNat = 57 := rfl
          have harange := digit_range ha
          have hbrange := digit_range hb
          rw [List.cons_lt_cons_iff]
          rcases hnext with hlt | ⟨heq, hlt⟩
          · rcases Nat.lt_trichotomy p q with hpq | hpq | hpq
            · exact .inl hpq
            · refine .inr ⟨hpq, .inl ?_⟩
              show a.toNat < b.toNat
              omega
            · omega
          · refine .inr ⟨by omega, .inr ⟨?_, hlt⟩⟩
            exact Char.toNat_inj.mp (by omega)

theorem padded_lt {width n m : Nat} (hwidth : 0 < width) (h : n < m) (hm : m < 10 ^ width) :
    (padded width n).toList < (padded width m).toList := by
  have hvalue : ∀ k, Nat.ofDigitChars 10 (padded width k).toList 0 = k := by
    intro k
    rw [padded_toList, Nat.ofDigitChars_append, Nat.ofDigitChars_replicate_zero, Nat.mul_zero,
      Nat.ofDigitChars_ten_toDigits]
  have hlength : (padded width n).toList.length = (padded width m).toList.length := by
    rw [padded_length hwidth (by omega), padded_length hwidth hm]
  have hlt : Nat.ofDigitChars 10 (padded width n).toList 0 <
      Nat.ofDigitChars 10 (padded width m).toList 0 := by
    rw [hvalue, hvalue]
    exact h
  rcases digits_lt hlength padded_isDigit padded_isDigit hlt with hzero | ⟨-, h⟩
  · exact absurd hzero (Nat.lt_irrefl 0)
  · exact h

/-- A field that is smaller, whatever follows. -/
theorem field_lt {width n m : Nat} (hwidth : 0 < width) (h : n < m) (hm : m < 10 ^ width)
    (xs ys : List Char) : (padded width n).toList ++ xs < (padded width m).toList ++ ys := by
  refine append_lt_append ?_ (padded_lt hwidth h hm)
  rw [padded_length hwidth (by omega), padded_length hwidth hm]

/-- A field that is the same, and a separator. -/
theorem field_eq {width n : Nat} {sep : Char} {xs ys : List Char} (h : xs < ys) :
    (padded width n).toList ++ sep :: xs < (padded width n).toList ++ sep :: ys :=
  List.append_left_lt (List.cons_lt_cons_iff.mpr (.inr ⟨rfl, h⟩))

/-! ## Dates -/

theorem daysBeforeYear_succ {year : Nat} (h : 0 < year) :
    daysBeforeYear (year + 1) = daysBeforeYear year + (if isLeap year then 366 else 365) := by
  obtain ⟨k, rfl⟩ : ∃ k, year = k + 1 := ⟨year - 1, by omega⟩
  have h4 : (k + 1) / 4 = k / 4 + (if (k + 1) % 4 = 0 then 1 else 0) := by
    split <;> omega
  have h100 : (k + 1) / 100 = k / 100 + (if (k + 1) % 100 = 0 then 1 else 0) := by
    split <;> omega
  have h400 : (k + 1) / 400 = k / 400 + (if (k + 1) % 400 = 0 then 1 else 0) := by
    split <;> omega
  have hle : k / 100 ≤ k := Nat.div_le_self k 100
  rw [daysBeforeYear, daysBeforeYear, Nat.add_sub_cancel, Nat.add_sub_cancel, h4, h100, h400]
  simp only [isLeap_succ]
  by_cases c4 : (k + 1) % 4 = 0
  · by_cases c100 : (k + 1) % 100 = 0
    · by_cases c400 : (k + 1) % 400 = 0
      · simp only [c4, c100, c400, if_true, ne_eq, not_true, or_true, and_true]
        omega
      · simp only [c4, c100, c400, if_true, if_false, ne_eq, not_true, or_false, and_false]
        omega
    · have c400 : ¬ (k + 1) % 400 = 0 := by omega
      simp only [c4, c100, c400, if_true, if_false, ne_eq, not_false_iff, true_or, and_true]
      omega
  · have c100 : ¬ (k + 1) % 100 = 0 := by omega
    have c400 : ¬ (k + 1) % 400 = 0 := by omega
    simp only [c4, c100, c400, if_false, false_and]
    omega

theorem daysBeforeYear_mono {year year' : Nat} (hpos : 0 < year) (h : year ≤ year') :
    daysBeforeYear year ≤ daysBeforeYear year' := by
  induction h with
  | refl => exact Nat.le_refl _
  | step h ih =>
      rw [daysBeforeYear_succ (Nat.lt_of_lt_of_le hpos h)]
      exact Nat.le_add_right_of_le ih

theorem monthStart_mono : ∀ leap : Bool, ∀ month < 13, ∀ month' < month, 0 < month' →
    monthStart leap month' + monthDays leap month' ≤ monthStart leap month := by
  decide +kernel

/-- Years, months and days of two dates, in order. -/
theorem date_lt {n n' year month day year' month' day' : Nat} (h : n < n') (hlast : n' < lastDay)
    (hdate : dateOf n = (year, month, day)) (hdate' : dateOf n' = (year', month', day')) :
    year < year' ∨ year = year' ∧ (month < month' ∨ month = month' ∧ day < day') := by
  obtain ⟨hyear, -, hmonth, hmonth12, hday, hdays, hsum⟩ :=
    date_spec (Nat.lt_trans h hlast) hdate
  obtain ⟨hyear', -, hmonth', hmonth12', hday', hdays', hsum'⟩ := date_spec hlast hdate'
  rcases Nat.lt_trichotomy year year' with hlt | rfl | hgt
  · exact .inl hlt
  · refine .inr ⟨rfl, ?_⟩
    rcases Nat.lt_trichotomy month month' with hlt | rfl | hgt
    · exact .inl hlt
    · exact .inr ⟨rfl, by omega⟩
    · have hstart := monthStart_mono (isLeap year) month (by omega) month' hgt hmonth'
      have hbefore : ∀ m, daysBeforeMonth year m = monthStart (isLeap year) m := fun _ => rfl
      have hin : daysInMonth year month' = monthDays (isLeap year) month' := rfl
      rw [hbefore] at hsum hsum'
      omega
  · obtain ⟨-, -, -, hrest⟩ := year_spec hlast
    rw [hdate'] at hrest
    have hsucc := daysBeforeYear_succ hyear'
    have hmono : daysBeforeYear (year' + 1) ≤ daysBeforeYear year :=
      daysBeforeYear_mono (Nat.succ_pos year') hgt
    dsimp only at hrest
    omega

/-! ## Whole seconds in UTC -/

/-- A whole second of the source's range, shown in UTC. -/
structure Canonical (d : Datetime) : Prop where
  offset : d.offset = 0
  whole : d.micros % 1000000 = 0
  pos : 0 ≤ d.micros
  last : d.micros < lastDay * 86400000000

theorem Canonical.inRange {d : Datetime} (h : d.Canonical) : d.InRange := by
  have hoffset := h.offset
  have hpos := h.pos
  have hlast := h.last
  exact ⟨by omega, by omega, by omega, fun _ => hoffset⟩

/-- The text of the second `n`. -/
def secondText (n : Nat) : List Char :=
  let (year, month, day) := dateOf (n / 86400)
  (padded 4 year).toList ++ '-' :: ((padded 2 month).toList ++ '-' :: ((padded 2 day).toList ++
    'T' :: ((padded 2 (n % 86400 / 3600)).toList ++ ':' :: ((padded 2 (n % 86400 / 60 % 60)).toList ++
      ':' :: ((padded 2 (n % 86400 % 60)).toList ++ (offsetText 0).toList)))))

theorem Canonical.toList_isoformat {d : Datetime} (h : d.Canonical) :
    d.isoformat.toList = secondText (d.micros.toNat / 1000000) := by
  have hwhole : d.micros.toNat % 1000000 = 0 := by
    have := h.whole
    omega
  have hdash : "-".toList = ['-'] := rfl
  have hbetween : "T".toList = ['T'] := rfl
  have hcolon : ":".toList = [':'] := rfl
  rw [isoformat, secondText, h.offset]
  simp only [Int.add_zero, hwhole, fractionText, if_true, clock]
  simp only [String.toList_append, hdash, hbetween, hcolon, List.append_assoc, List.cons_append,
    List.nil_append, String.toList_empty]

theorem secondText_lt {n m : Nat} (h : n < m) (hm : m / 86400 < lastDay) :
    secondText n < secondText m := by
  obtain ⟨⟨year, month, day⟩, hdate⟩ : ∃ date, dateOf (n / 86400) = date := ⟨_, rfl⟩
  obtain ⟨⟨year', month', day'⟩, hdate'⟩ : ∃ date, dateOf (m / 86400) = date := ⟨_, rfl⟩
  obtain ⟨-, hyear', -, hmonth', -, hday', -⟩ := date_spec hm hdate'
  have hday31 : day' ≤ 31 := by
    have hdays : ∀ y k, daysInMonth y k ≤ 31 := by
      intro y k
      rw [daysInMonth]
      split
      · split <;> omega
      · split <;> omega
    exact Nat.le_trans hday' (hdays _ _)
  rw [secondText, secondText, hdate, hdate']
  dsimp only
  rcases Nat.lt_or_ge (n / 86400) (m / 86400) with hdays | hdays
  · rcases date_lt hdays hm hdate hdate' with hlt | ⟨rfl, hlt | ⟨rfl, hlt⟩⟩
    · exact field_lt (by decide) hlt (by omega) _ _
    · exact field_eq (field_lt (by decide) hlt (by omega) _ _)
    · exact field_eq (field_eq (field_lt (by decide) hlt (by omega) _ _))
  · have hsame : n / 86400 = m / 86400 := by omega
    rw [hsame, hdate'] at hdate
    obtain ⟨rfl, rfl, rfl⟩ : year' = year ∧ month' = month ∧ day' = day := by
      simpa using hdate
    refine field_eq (field_eq (field_eq ?_))
    have hseconds : n % 86400 < m % 86400 := by omega
    rcases Nat.lt_trichotomy (n % 86400 / 3600) (m % 86400 / 3600) with hlt | heq | hgt
    · exact field_lt (by decide) hlt (by omega) _ _
    · rw [heq]
      refine field_eq ?_
      rcases Nat.lt_trichotomy (n % 86400 / 60 % 60) (m % 86400 / 60 % 60) with hlt | heq' | hgt
      · exact field_lt (by decide) hlt (by omega) _ _
      · rw [heq']
        exact field_eq (field_lt (by decide) (by omega) (by omega) _ _)
      · omega
    · omega

variable {d e : Datetime}

theorem Canonical.isoformat_lt (hd : d.Canonical) (he : e.Canonical) (h : d < e) :
    d.isoformat < e.isoformat := by
  rw [String.lt_iff, hd.toList_isoformat, he.toList_isoformat]
  have hlt : d.micros < e.micros := h
  have hlast := he.last
  have hpos := hd.pos
  have hwhole := hd.whole
  have hwhole' := he.whole
  refine secondText_lt (by omega) ?_
  rw [lastDay] at hlast ⊢
  omega

/-- As texts they come in the order of their instants. -/
theorem Canonical.isoformat_lt_iff (hd : d.Canonical) (he : e.Canonical) :
    d.isoformat < e.isoformat ↔ d < e := by
  refine ⟨fun h => ?_, hd.isoformat_lt he⟩
  rcases Int.lt_trichotomy d.micros e.micros with hlt | heq | hgt
  · exact hlt
  · have hsame : d = e := by
      obtain ⟨_, _⟩ := d
      obtain ⟨_, _⟩ := e
      obtain rfl : _ = _ := heq
      obtain rfl : _ = _ := hd.offset
      obtain rfl : _ = _ := he.offset
      rfl
    exact absurd (hsame ▸ h) (String.lt_irrefl _)
  · exact absurd (String.lt_trans h (he.isoformat_lt hd hgt)) (String.lt_irrefl _)

theorem Canonical.isoformat_le_iff (hd : d.Canonical) (he : e.Canonical) :
    d.isoformat ≤ e.isoformat ↔ d ≤ e := by
  rw [← String.not_lt, he.isoformat_lt_iff hd]
  exact Int.not_lt

/-! ## The minutes of a day -/

/-- The text `HH:MM` of a minute of the day. -/
def hhmm (t : Nat) : String := padded 2 (t / 60) ++ ":" ++ padded 2 (t % 60)

theorem toList_hhmm (t : Nat) :
    (hhmm t).toList = (padded 2 (t / 60)).toList ++ ':' :: (padded 2 (t % 60)).toList := by
  rw [hhmm, String.toList_append, String.toList_append, List.append_assoc]
  rfl

theorem length_hhmm {t : Nat} (ht : t < 1440) : (hhmm t).toList.length = 5 := by
  rw [toList_hhmm, List.length_append, List.length_cons, padded_length (by omega) (by omega),
    padded_length (by omega) (by omega)]

theorem hhmm_ne_empty {t : Nat} (ht : t < 1440) : hhmm t ≠ "" := by
  intro h
  have hlength := length_hhmm ht
  rw [h] at hlength
  exact nomatch hlength

theorem hhmm_lt {t u : Nat} (h : t < u) (hu : u < 1440) : hhmm t < hhmm u := by
  rw [String.lt_iff, toList_hhmm, toList_hhmm]
  by_cases hhour : t / 60 = u / 60
  · rw [hhour]
    exact field_eq (padded_lt (by omega) (by omega) (by omega))
  · exact field_lt (by omega) (by omega) (by omega) _ _

/-- As texts they come in the order of the minutes. -/
theorem hhmm_lt_iff {t u : Nat} (ht : t < 1440) (hu : u < 1440) : hhmm t < hhmm u ↔ t < u := by
  refine ⟨fun h => ?_, fun h => hhmm_lt h hu⟩
  rcases Nat.lt_trichotomy t u with hlt | rfl | hgt
  · exact hlt
  · exact absurd h (String.lt_irrefl _)
  · exact absurd (String.lt_trans h (hhmm_lt hgt ht)) (String.lt_irrefl _)

theorem hhmm_le_iff {t u : Nat} (ht : t < 1440) (hu : u < 1440) : hhmm t ≤ hhmm u ↔ t ≤ u := by
  rw [← String.not_lt, hhmm_lt_iff hu ht]
  exact Nat.not_lt

theorem clock_eq_hhmm (seconds : Nat) :
    clock seconds = hhmm (seconds / 60) ++ (":" ++ padded 2 (seconds % 60)) := by
  rw [clock, hhmm, Nat.div_div_eq_div_mul]
  simp only [String.append_assoc]

/-- What is written of an instant in UTC has its `HH:MM` after the first `T`. -/
theorem isoformat_hhmm {d : Datetime} (hutc : d.offset = 0) : ∃ date rest, 'T' ∉ date.toList ∧
    d.isoformat = date ++ "T" ++ hhmm (d.micros.toNat / 1000000 % 86400 / 60) ++ rest := by
  obtain ⟨⟨year, month, day⟩, hdate⟩ :
      ∃ date, dateOf (d.micros.toNat / 1000000 / 86400) = date := ⟨_, rfl⟩
  have hdigits : ∀ width n, 'T' ∉ (padded width n).toList :=
    fun _ _ hmem => absurd (padded_isDigit 'T' hmem) (by decide)
  refine ⟨padded 4 year ++ "-" ++ padded 2 month ++ "-" ++ padded 2 day,
    ":" ++ padded 2 (d.micros.toNat / 1000000 % 86400 % 60) ++
      fractionText (d.micros.toNat % 1000000) ++ offsetText d.offset, ?_, ?_⟩
  · simp only [String.toList_append, List.mem_append, not_or]
    exact ⟨⟨⟨⟨hdigits _ _, by decide⟩, hdigits _ _⟩, by decide⟩, hdigits _ _⟩
  · rw [isoformat, hutc, Int.add_zero]
    dsimp only
    rw [hdate, clock_eq_hhmm]
    simp only [String.append_assoc]

end Datetime
