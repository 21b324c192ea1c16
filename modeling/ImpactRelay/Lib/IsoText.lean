/-
# `Lib.IsoText` — what `isoformat` writes, `fromisoformat` reads back

The calendar first: `dateOf` finds the date of a day, and counting the days before that
date gives the day back.  Then the text, field by field: each reader takes what its
writer wrote and leaves the rest.  `fromisoformat_isoformat` puts them together for
every datetime of the source's range, the years 1 to 9999.
-/
import ImpactRelay.Lib.Iso

namespace Datetime

/-! ## The calendar -/

/-- The days of a month, of a leap year or of another one. -/
def monthDays (leap : Bool) (month : Nat) : Nat :=
  if month = 2 then (if leap then 29 else 28) else if month ∈ [4, 6, 9, 11] then 30 else 31

def monthStart (leap : Bool) (month : Nat) : Nat :=
  (((List.range month).drop 1).map (monthDays leap)).sum

def monthAt (leap : Bool) (n : Nat) : Nat × Nat :=
  let month := ((List.range 13).drop 1).findIdx (fun m => n < monthStart leap (m + 1)) + 1
  (month, n - monthStart leap month + 1)

/-- A day of the year, found in its month. -/
theorem monthAt_spec (leap : Bool) : ∀ n < (if leap then 366 else 365),
    (monthAt leap n).1 ∈ (List.range 13).drop 1 ∧ (monthAt leap n).2 ≠ 0 ∧
      (monthAt leap n).2 ≤ monthDays leap (monthAt leap n).1 ∧
      monthStart leap (monthAt leap n).1 + ((monthAt leap n).2 - 1) = n := by
  cases leap <;> decide +kernel

theorem isLeap_succ (k : Nat) : isLeap (k + 1) = true ↔
    (k + 1) % 4 = 0 ∧ ((k + 1) % 100 ≠ 0 ∨ (k + 1) % 400 = 0) := by
  simp [isLeap]

/-- The days before the year of a cycle of 400, of 100, of 4 years and of one year. -/
theorem daysBeforeYear_cycles {n400 n100 n4 n1 : Nat} (h100 : n100 ≤ 3) (h4 : n4 ≤ 24) (h1 : n1 ≤ 3) :
    daysBeforeYear (n400 * 400 + n100 * 100 + n4 * 4 + n1 + 1) =
      146097 * n400 + 36524 * n100 + 1461 * n4 + 365 * n1 := by
  have hby4 : (n400 * 400 + n100 * 100 + n4 * 4 + n1) / 4 = n400 * 100 + n100 * 25 + n4 := by omega
  have hby100 : (n400 * 400 + n100 * 100 + n4 * 4 + n1) / 100 = n400 * 4 + n100 := by omega
  have hby400 : (n400 * 400 + n100 * 100 + n4 * 4 + n1) / 400 = n400 := by omega
  rw [daysBeforeYear, Nat.add_sub_cancel, hby4, hby100, hby400]
  omega

/-- The last year of four is a leap year, except the last of most centuries. -/
theorem isLeap_cycles {n400 n100 n4 n1 : Nat} (h100 : n100 ≤ 3) (h4 : n4 ≤ 24) (h1 : n1 ≤ 3) :
    isLeap (n400 * 400 + n100 * 100 + n4 * 4 + n1 + 1) = true ↔ n1 = 3 ∧ (n4 = 24 → n100 = 3) := by
  rw [isLeap_succ]
  omega

/-- The year a day falls in. -/
theorem year_spec {n : Nat} (h : n < lastDay) :
    0 < (dateOf n).1 ∧ (dateOf n).1 < 10000 ∧ daysBeforeYear (dateOf n).1 ≤ n ∧
      n - daysBeforeYear (dateOf n).1 < (if isLeap (dateOf n).1 then 366 else 365) := by
  obtain ⟨n100, hn100⟩ : ∃ k, k = Nat.min (n % 146097 / 36524) 3 := ⟨_, rfl⟩
  obtain ⟨rest, hrest⟩ : ∃ k, k = n % 146097 - n100 * 36524 := ⟨_, rfl⟩
  obtain ⟨n1, hn1⟩ : ∃ k, k = Nat.min (rest % 1461 / 365) 3 := ⟨_, rfl⟩
  have hyear : (dateOf n).1 = n / 146097 * 400 + n100 * 100 + rest / 1461 * 4 + n1 + 1 := by
    rw [hn1, hrest, hn100]
    rfl
  have h100 : n100 ≤ 3 ∧ n100 * 36524 ≤ n % 146097 ∧ (n100 < 3 → rest < 36524) ∧ rest ≤ 36524 := by
    have hmin : n100 = Min.min (n % 146097 / 36524) 3 := hn100
    omega
  have h4 : rest / 1461 ≤ 24 := by omega
  have h1 : n1 ≤ 3 ∧ n1 * 365 ≤ rest % 1461 ∧ (n1 < 3 → rest % 1461 - n1 * 365 < 365) := by
    have hmin : n1 = Min.min (rest % 1461 / 365) 3 := hn1
    omega
  have hlast : n < 3652059 := h
  rw [hyear, daysBeforeYear_cycles h100.1 h4 h1.1]
  refine ⟨Nat.succ_pos _, by omega, by omega, ?_⟩
  split
  · omega
  · rename_i hleap
    rw [isLeap_cycles h100.1 h4 h1.1] at hleap
    omega

/-- The date of a day is one of the calendar, and so many days come before it. -/
theorem date_spec {n year month day : Nat} (h : n < lastDay) (hdate : dateOf n = (year, month, day)) :
    0 < year ∧ year < 10000 ∧ 0 < month ∧ month ≤ 12 ∧ day ≠ 0 ∧ day ≤ daysInMonth year month ∧
      daysBeforeYear year + daysBeforeMonth year month + (day - 1) = n := by
  obtain ⟨hpos, hlt, hbefore, hrest⟩ := year_spec h
  have hmonth := monthAt_spec (isLeap (dateOf n).1) (n - daysBeforeYear (dateOf n).1) hrest
  have hin : (dateOf n).2 = monthAt (isLeap (dateOf n).1) (n - daysBeforeYear (dateOf n).1) := rfl
  rw [← hin, hdate] at hmonth
  rw [hdate] at hpos hlt hbefore
  obtain ⟨hmem, hday, hle, hsum⟩ := hmonth
  have hrange : 0 < month ∧ month ≤ 12 := by
    have : ∀ m ∈ (List.range 13).drop 1, 0 < m ∧ m ≤ 12 := by decide
    exact this month hmem
  refine ⟨hpos, hlt, hrange.1, hrange.2, hday, hle, ?_⟩
  have hstart : daysBeforeMonth year month = monthStart (isLeap year) month := rfl
  rw [hstart]
  dsimp only at hsum hbefore
  omega

/-! ## Digits -/

theorem readDigits_append {rest : List Char} :
    ∀ {digits : List Char} (acc : Nat), (∀ c ∈ digits, c.isDigit = true) →
      readDigits digits.length acc (digits ++ rest) = some (Nat.ofDigitChars 10 digits acc, rest)
  | [], _, _ => rfl
  | c :: digits, acc, h => by
      have hc : c.isDigit = true := h c List.mem_cons_self
      rw [List.length_cons, List.cons_append, readDigits, if_pos hc, Nat.ofDigitChars_cons,
        readDigits_append _ fun d hd => h d (List.mem_cons_of_mem c hd), Nat.mul_comm acc 10]

theorem padded_toList (width n : Nat) : (padded width n).toList =
    List.replicate (width - (Nat.toDigits 10 n).length) '0' ++ Nat.toDigits 10 n :=
  String.toList_ofList

theorem padded_isDigit {width n : Nat} : ∀ c ∈ (padded width n).toList, c.isDigit = true := by
  intro c hc
  rw [padded_toList] at hc
  rcases List.mem_append.mp hc with hzero | hdigit
  · exact (List.eq_of_mem_replicate hzero) ▸ rfl
  · exact Nat.isDigit_of_mem_toDigits (by decide) (by decide) hdigit

theorem padded_length {width n : Nat} (hwidth : 0 < width) (h : n < 10 ^ width) :
    (padded width n).toList.length = width := by
  have hle : (Nat.toDigits 10 n).length ≤ width :=
    (Nat.length_toDigits_le_iff (by decide) hwidth).mpr h
  rw [padded_toList, List.length_append, List.length_replicate]
  omega

theorem readDigits_padded {width n : Nat} (hwidth : 0 < width) (h : n < 10 ^ width)
    (rest : List Char) : readDigits width 0 ((padded width n).toList ++ rest) = some (n, rest) := by
  have hread : readDigits (padded width n).toList.length 0 ((padded width n).toList ++ rest) =
      some (Nat.ofDigitChars 10 (padded width n).toList 0, rest) := readDigits_append 0 padded_isDigit
  rw [padded_length hwidth h] at hread
  rw [hread, padded_toList, Nat.ofDigitChars_append, Nat.ofDigitChars_replicate_zero, Nat.mul_zero,
    Nat.ofDigitChars_ten_toDigits]

/-! ## The fields -/

theorem readDate_written {n year month day : Nat} (h : n < lastDay)
    (hdate : dateOf n = (year, month, day)) (rest : List Char) :
    readDate ((padded 4 year).toList ++ '-' :: ((padded 2 month).toList ++
      '-' :: ((padded 2 day).toList ++ rest))) = some (n, rest) := by
  obtain ⟨hyear, hyear', hmonth, hmonth', hday, hday', hsum⟩ := date_spec h hdate
  have hdays : ∀ y m, daysInMonth y m ≤ 31 := by
    intro y m
    rw [daysInMonth]
    split
    · split <;> omega
    · split <;> omega
  have hvalid : ¬ (year = 0 ∨ month = 0 ∨ 12 < month ∨ day = 0 ∨ daysInMonth year month < day) := by
    omega
  have hday31 := hdays year month
  -- a month is no week
  have hmonthDay : ∀ rest : List Char, ((padded 2 month).toList ++ rest).head? ≠ some 'W' := by
    intro rest h
    have hmem : 'W' ∈ (padded 2 month).toList := by
      cases hchars : (padded 2 month).toList with
      | nil =>
          have hlength := padded_length (show 0 < 2 by decide) (show month < 10 ^ 2 by omega)
          rw [hchars] at hlength
          exact nomatch hlength
      | cons c cs =>
          rw [hchars] at h
          exact Option.some.inj h ▸ List.mem_cons_self
    exact absurd (padded_isDigit _ hmem) (by decide)
  rw [readDate, readDigits_padded (by decide) (by omega)]
  simp only [Option.bind_eq_bind, Option.bind_some, List.head?_cons, decide_true, readSep, if_true,
    List.drop_succ_cons, List.drop_zero]
  rw [if_neg (hmonthDay _), readMonthDay, readDigits_padded (by decide) (by omega)]
  simp only [Option.bind_eq_bind, readSep, if_true]
  simp only [Option.bind_some, List.head?_cons, if_true, List.drop_succ_cons, List.drop_zero]
  rw [readDigits_padded (by decide) (by omega)]
  simp only [Option.bind_some]
  rw [if_neg hvalid, hsum]
  rfl

/-! ## Fields of a clock -/

theorem ne_nil_of_padded {width n : Nat} (hwidth : 0 < width) (h : n < 10 ^ width)
    {rest : List Char} : (padded width n).toList ++ rest ≠ [] := by
  intro hnil
  have hlength := padded_length hwidth h
  rw [(List.append_eq_nil_iff.mp hnil).1] at hlength
  exact absurd hlength.symm (Nat.ne_of_gt hwidth)

/-- The last field of a text. -/
theorem readFields_last {separated : Bool} {left value : Nat} (h : value < 100) :
    readFields separated (left + 1) (padded 2 value).toList = some { fields := [value] } := by
  have hread := readDigits_padded (show 0 < 2 by decide) h []
  rw [List.append_nil] at hread
  rw [readFields, hread]
  rfl

/-- A field, and others after a colon. -/
theorem readFields_colon {left value : Nat} {cs : List Char} (h : value < 100) (hcs : cs ≠ []) :
    readFields true (left + 1) ((padded 2 value).toList ++ ':' :: cs) =
      (readFields true left cs).map (Clock.push value) := by
  obtain ⟨c, cs, rfl⟩ := List.exists_cons_of_ne_nil hcs
  rw [readFields, readDigits_padded (by decide) h]
  simp only [Option.bind_eq_bind, Option.bind_some, and_self, if_true]
  cases readFields true left (c :: cs) with
  | none => rfl
  | some clock => rfl

/-- A field, and a fraction of a second after it. -/
theorem readFields_point {left value : Nat} {cs : List Char} (h : value < 100) (hcs : cs ≠ []) :
    readFields true (left + 1) ((padded 2 value).toList ++ '.' :: cs) =
      (readFraction cs).map (Clock.push value) := by
  obtain ⟨c, cs, rfl⟩ := List.exists_cons_of_ne_nil hcs
  have hcolon : ¬ (True ∧ '.' = ':') := by decide
  rw [readFields, readDigits_padded (by decide) h]
  simp only [Option.bind_eq_bind, Option.bind_some]
  rw [if_neg hcolon, if_pos (Or.inl trivial)]
  cases readFraction (c :: cs) with
  | none => rfl
  | some clock => rfl

theorem readFraction_written {micros : Nat} (h : micros < 1000000) :
    readFraction (padded 6 micros).toList = some { fields := [], micros } := by
  have hsix : (padded 6 micros).toList.length = 6 := padded_length (by decide) h
  have hread := readDigits_padded (show 0 < 6 by decide) h []
  rw [List.append_nil] at hread
  have hmin : Nat.min (padded 6 micros).toList.length 6 = 6 := by
    rw [hsix]
    rfl
  rw [readFraction]
  simp only [hmin, hread, Option.map_some]
  rw [Nat.sub_self, Nat.pow_zero, Nat.mul_one]
  rfl

/-- No fraction is written for whole seconds, and six digits otherwise. -/
theorem readFields_seconds {seconds micros : Nat} (h : seconds < 100) (hmicros : micros < 1000000) :
    readFields true 1 ((padded 2 seconds).toList ++ (fractionText micros).toList) =
      some { fields := [seconds], micros } := by
  rw [fractionText]
  split
  · rename_i hzero
    rw [hzero, String.toList_empty, List.append_nil]
    exact readFields_last h
  · have htext : ("." ++ padded 6 micros).toList = '.' :: (padded 6 micros).toList := by
      rw [String.toList_append]
      rfl
    have hne : (padded 6 micros).toList ++ [] ≠ [] := ne_nil_of_padded (by decide) hmicros
    rw [List.append_nil] at hne
    rw [htext, readFields_point h hne, readFraction_written hmicros]
    rfl

theorem colon_toList : ":".toList = [':'] := rfl

/-- A field is followed by what is third. -/
theorem getElem?_padded {value : Nat} (h : value < 100) (c : Char) (cs : List Char) :
    ((padded 2 value).toList ++ c :: cs)[2]? = some c := by
  have hlength : (padded 2 value).toList.length = 2 := padded_length (by decide) h
  rw [List.getElem?_append_right (Nat.le_of_eq hlength), hlength]
  rfl

/-- Hours, minutes, seconds and a fraction. -/
theorem readClock_long {hours minutes seconds micros : Nat} (hhours : hours < 100)
    (hminutes : minutes < 100) (hseconds : seconds < 100) (hmicros : micros < 1000000) :
    readClock ((padded 2 hours).toList ++ ':' :: ((padded 2 minutes).toList ++
      ':' :: ((padded 2 seconds).toList ++ (fractionText micros).toList))) =
        some { fields := [hours, minutes, seconds], micros } := by
  rw [readClock, getElem?_padded hhours, decide_eq_true rfl,
    readFields_colon hhours (ne_nil_of_padded (by decide) hminutes),
    readFields_colon hminutes (ne_nil_of_padded (by decide) hseconds),
    readFields_seconds hseconds hmicros]
  rfl

/-- Hours and minutes. -/
theorem readClock_short {hours minutes : Nat} (hhours : hours < 100) (hminutes : minutes < 100) :
    readClock ((padded 2 hours).toList ++ ':' :: (padded 2 minutes).toList) =
      some { fields := [hours, minutes] } := by
  have hne : (padded 2 minutes).toList ++ [] ≠ [] := ne_nil_of_padded (by decide) hminutes
  rw [List.append_nil] at hne
  rw [readClock, getElem?_padded hhours, decide_eq_true rfl, readFields_colon hhours hne,
    readFields_last hminutes]
  rfl

theorem readClock_clock {seconds micros : Nat} (h : seconds < 86400) (hmicros : micros < 1000000) :
    readClock ((clock seconds).toList ++ (fractionText micros).toList) =
      some { fields := [seconds / 3600, seconds / 60 % 60, seconds % 60], micros } := by
  have hfields : seconds / 3600 < 100 ∧ seconds / 60 % 60 < 100 ∧ seconds % 60 < 100 := by omega
  have hread := readClock_long hfields.1 hfields.2.1 hfields.2.2 hmicros
  rw [clock]
  simp only [String.toList_append, colon_toList, List.append_assoc, List.cons_append,
    List.nil_append]
  exact hread

/-! ## Offsets -/

/-- What is read of the hours and minutes of an offset, and of its seconds where there are any. -/
theorem readClock_zoneText {n : Nat} (h : n < 86400000000) : ∃ c, readClock (zoneText n).toList =
    some c ∧ c.junk = false ∧ c.seconds = n / 1000000 ∧ c.micros = n % 1000000 := by
  rw [zoneText]
  split
  · rename_i hwhole
    have hfields : n / 1000000 / 3600 < 100 ∧ n / 1000000 / 60 % 60 < 100 := by omega
    refine ⟨{ fields := [n / 1000000 / 3600, n / 1000000 / 60 % 60] }, ?_, rfl, ?_, ?_⟩
    · have hread := readClock_short hfields.1 hfields.2
      simp only [String.toList_append, String.toList_empty, colon_toList, List.append_assoc,
        List.cons_append, List.nil_append, List.append_nil]
      exact hread
    · show n / 1000000 / 3600 * 3600 + n / 1000000 / 60 % 60 * 60 + 0 = n / 1000000
      omega
    · show 0 = n % 1000000
      omega
  · have hfields : n / 1000000 / 3600 < 100 ∧ n / 1000000 / 60 % 60 < 100 ∧
        n / 1000000 % 60 < 100 := by omega
    refine ⟨{
      fields := [n / 1000000 / 3600, n / 1000000 / 60 % 60, n / 1000000 % 60]
      micros := n % 1000000 }, ?_, rfl, ?_, rfl⟩
    · have hread := readClock_long hfields.1 hfields.2.1 hfields.2.2
        (Nat.mod_lt n (show 0 < 1000000 by decide))
      simp only [String.toList_append, colon_toList, List.append_assoc, List.cons_append,
        List.nil_append]
      exact hread
    · show n / 1000000 / 3600 * 3600 + n / 1000000 / 60 % 60 * 60 + n / 1000000 % 60 = n / 1000000
      omega

theorem readOffset_written {offset : Int} (h : offset.natAbs < 86400000000)
    (hsecond : offset.natAbs < 1000000 → offset = 0) :
    readOffset (offsetText offset).toList = some offset := by
  obtain ⟨c, hread, hjunk, hseconds, hmicros⟩ := readClock_zoneText h
  have hvalue : (if c.seconds = 0 then 0 else c.seconds * 1000000 + c.micros) = offset.natAbs := by
    rw [hseconds, hmicros]
    split
    · rename_i hzero
      rw [hsecond (by omega)]
      rfl
    · exact Nat.div_add_mod' _ _
  have hfits : ¬ (c.junk = true ∨ 86400000000 ≤ offset.natAbs) := by
    rintro (hleft | hlong)
    · rw [hjunk] at hleft
      cases hleft
    · omega
  rw [offsetText, String.toList_append]
  by_cases hsign : offset < 0
  · rw [if_pos hsign]
    change readOffset ('-' :: (zoneText offset.natAbs).toList) = _
    rw [readOffset, if_neg (by decide), hread]
    simp only [Option.bind_eq_bind, Option.bind_some]
    rw [hvalue, if_neg hfits]
    exact congrArg some (show -(offset.natAbs : Int) = offset by omega)
  · rw [if_neg hsign]
    change readOffset ('+' :: (zoneText offset.natAbs).toList) = _
    rw [readOffset, if_neg (by decide), hread]
    simp only [Option.bind_eq_bind, Option.bind_some]
    rw [hvalue, if_neg hfits]
    exact congrArg some (show (offset.natAbs : Int) = offset by omega)

/-- An offset begins with its sign. -/
theorem offsetText_head (offset : Int) :
    ∃ c cs, (offsetText offset).toList = c :: cs ∧ isZone c = true := by
  rw [offsetText, String.toList_append]
  split
  · exact ⟨'-', _, rfl, rfl⟩
  · exact ⟨'+', _, rfl, rfl⟩

/-- There is no sign in a time of the day. -/
theorem isZone_clock {seconds micros : Nat} :
    ∀ c ∈ (clock seconds).toList ++ (fractionText micros).toList, isZone c = false := by
  have hdigit : ∀ c : Char, c.isDigit = true → isZone c = false := by
    intro c hc
    have hne : c ≠ '+' ∧ c ≠ '-' ∧ c ≠ 'Z' :=
      ⟨by rintro rfl; exact absurd hc (by decide), by rintro rfl; exact absurd hc (by decide),
        by rintro rfl; exact absurd hc (by decide)⟩
    simp [isZone, hne]
  have hpadded : ∀ width n, ∀ c ∈ (padded width n).toList, isZone c = false :=
    fun _ _ c hc => hdigit c (padded_isDigit c hc)
  intro c hc
  rcases List.mem_append.mp hc with hc | hc
  · rw [clock] at hc
    simp only [String.toList_append, colon_toList, List.mem_append, List.mem_singleton] at hc
    rcases hc with (((hc | rfl) | hc) | rfl) | hc
    · exact hpadded _ _ c hc
    · rfl
    · exact hpadded _ _ c hc
    · rfl
    · exact hpadded _ _ c hc
  · rw [fractionText] at hc
    split at hc
    · exact absurd hc List.not_mem_nil
    · rw [String.toList_append] at hc
      rcases List.mem_append.mp hc with hc | hc
      · obtain rfl := List.mem_singleton.mp hc
        rfl
      · exact hpadded _ _ c hc

theorem readTime_written {seconds micros : Nat} {offset : Int} (h : seconds < 86400)
    (hmicros : micros < 1000000) (hoffset : offset.natAbs < 86400000000)
    (hsecond : offset.natAbs < 1000000 → offset = 0) :
    readTime ((clock seconds).toList ++ ((fractionText micros).toList ++
      (offsetText offset).toList)) = some (seconds * 1000000 + micros, offset) := by
  obtain ⟨c, cs, hzone, hc⟩ := offsetText_head offset
  have hclock : ∀ c ∈ (clock seconds).toList ++ (fractionText micros).toList,
      (!isZone c) = true := fun c hc => by rw [isZone_clock c hc]; rfl
  have htake : ((clock seconds).toList ++ ((fractionText micros).toList ++
      (offsetText offset).toList)).takeWhile (!isZone ·) =
        (clock seconds).toList ++ (fractionText micros).toList := by
    rw [← List.append_assoc, List.takeWhile_append_of_pos hclock, hzone, List.takeWhile_cons, hc,
      Bool.not_true, if_neg Bool.false_ne_true, List.append_nil]
  have hdrop : ((clock seconds).toList ++ ((fractionText micros).toList ++
      (offsetText offset).toList)).dropWhile (!isZone ·) = (offsetText offset).toList := by
    rw [← List.append_assoc, List.dropWhile_append_of_pos hclock, hzone, List.dropWhile_cons, hc,
      Bool.not_true, if_neg Bool.false_ne_true]
  have hvalid : ¬ (23 < [seconds / 3600, seconds / 60 % 60, seconds % 60].getD 0 0 ∨
      59 < [seconds / 3600, seconds / 60 % 60, seconds % 60].getD 1 0 ∨
        59 < [seconds / 3600, seconds / 60 % 60, seconds % 60].getD 2 0) := by
    show ¬ (23 < seconds / 3600 ∨ 59 < seconds / 60 % 60 ∨ 59 < seconds % 60)
    omega
  have hsum : seconds / 3600 * 3600 + seconds / 60 % 60 * 60 + seconds % 60 = seconds := by omega
  have hne : ¬ ((offsetText offset).toList = [] ∧ false = true) := by simp
  rw [readTime, htake, hdrop, readClock_clock h hmicros]
  simp only [Option.bind_eq_bind, Option.bind_some]
  rw [if_neg hvalid, if_neg hne, readOffset_written hoffset hsecond]
  exact congrArg (fun n => some (n * 1000000 + micros, offset)) hsum

/-! ## The round trip -/

/-- A datetime of the source: its local date is in the years 1 to 9999, and its offset is
less than a day, and a second or more if it is one. -/
structure InRange (d : Datetime) : Prop where
  pos : 0 ≤ d.micros + d.offset
  last : d.micros + d.offset < lastDay * 86400000000
  offset : d.offset.natAbs < 86400000000
  second : d.offset.natAbs < 1000000 → d.offset = 0

theorem fromisoformat_isoformat {d : Datetime} (h : d.InRange) :
    fromisoformat d.isoformat = some d := by
  obtain ⟨hpos, hlast, hoffset, hsecond⟩ := h
  obtain ⟨micros, hmicros⟩ : ∃ n, n = (d.micros + d.offset).toNat := ⟨_, rfl⟩
  obtain ⟨⟨year, month, day⟩, hdate⟩ : ∃ date, dateOf (micros / 1000000 / 86400) = date := ⟨_, rfl⟩
  have hday : micros / 1000000 / 86400 < lastDay := by
    rw [lastDay] at hlast ⊢
    omega
  have htext : d.isoformat.toList = (padded 4 year).toList ++ '-' :: ((padded 2 month).toList ++
      '-' :: ((padded 2 day).toList ++ 'T' :: ((clock (micros / 1000000 % 86400)).toList ++
        ((fractionText (micros % 1000000)).toList ++ (offsetText d.offset).toList)))) := by
    have hdash : "-".toList = ['-'] := rfl
    have hbetween : "T".toList = ['T'] := rfl
    rw [isoformat, ← hmicros]
    dsimp only
    rw [hdate]
    simp only [String.toList_append, hdash, hbetween, List.append_assoc, List.cons_append,
      List.nil_append]
  rw [fromisoformat, htext, readDate_written hday hdate]
  simp only [Option.bind_eq_bind, Option.bind_some]
  rw [readTime_written (Nat.mod_lt _ (by decide)) (Nat.mod_lt _ (by decide)) hoffset hsecond]
  have hback : ((micros / 1000000 / 86400 * 86400 * 1000000 +
      (micros / 1000000 % 86400 * 1000000 + micros % 1000000) : Nat) : Int) - d.offset =
        d.micros := by omega
  exact congrArg (fun m => some (⟨m, d.offset⟩ : Datetime)) hback

end Datetime
