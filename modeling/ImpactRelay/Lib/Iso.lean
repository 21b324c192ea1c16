/-
# `Lib.Iso` — points in time and their ISO texts

An aware `datetime` is an instant with the offset it is shown in.  `isoformat`
writes it with the proleptic Gregorian calendar, `fromisoformat` reads dates
of the calendar and by their week, in the extended and the basic form; a text without an offset is read in
UTC, as every reader of this development does with a naive `datetime`.  The reader is as lenient
as the interpreter's: it looks for the sign of an offset first, and between the time and the
sign it lets a character stand.
-/
import Mathlib

/-- Microseconds since the first of January of the year 1 in UTC, and the microseconds
the zone is ahead of UTC. -/
structure Datetime where
  micros : Int
  offset : Int := 0
deriving DecidableEq, Repr

/-- Comparing aware datetimes compares instants. -/
instance : LT Datetime := ⟨fun a b => a.micros < b.micros⟩

instance (a b : Datetime) : Decidable (a < b) := inferInstanceAs (Decidable (a.micros < b.micros))

instance : LE Datetime := ⟨fun a b => a.micros ≤ b.micros⟩

instance (a b : Datetime) : Decidable (a ≤ b) := inferInstanceAs (Decidable (a.micros ≤ b.micros))

namespace Datetime

/-- `datetime.min.replace(tzinfo=UTC)`. -/
def min : Datetime := ⟨0, 0⟩

/-- `d + timedelta(seconds=…)`. -/
def addSeconds (d : Datetime) (seconds : Nat) : Datetime :=
  { d with micros := d.micros + seconds * 1000000 }

/-- `d.replace(microsecond=0)`. -/
def truncate (d : Datetime) : Datetime := { d with micros := d.micros - d.micros % 1000000 }

/-- `d.astimezone(UTC)`. -/
def utc (d : Datetime) : Datetime := { d with offset := 0 }

/-! ## The calendar -/

def isLeap (year : Nat) : Bool := year % 4 = 0 && (year % 100 ≠ 0 || year % 400 = 0)

def daysInMonth (year month : Nat) : Nat :=
  if month = 2 then (if isLeap year then 29 else 28)
  else if month ∈ [4, 6, 9, 11] then 30 else 31

def daysBeforeMonth (year month : Nat) : Nat :=
  (((List.range month).drop 1).map (daysInMonth year)).sum

/-- Days before the first of January of the year. -/
def daysBeforeYear (year : Nat) : Nat :=
  (year - 1) * 365 + (year - 1) / 4 - (year - 1) / 100 + (year - 1) / 400

/-- The month and the day of the month that `n` days of the year come before. -/
def monthOf (year n : Nat) : Nat × Nat :=
  let month := ((List.range 13).drop 1).findIdx (fun m => n < daysBeforeMonth year (m + 1)) + 1
  (month, n - daysBeforeMonth year month + 1)

/-- Year, month and day of the date `n` days after the first one. -/
def dateOf (n : Nat) : Nat × Nat × Nat :=
  let n400 := n / 146097
  let n100 := Nat.min (n % 146097 / 36524) 3
  let rest := n % 146097 - n100 * 36524
  let n4 := rest / 1461
  let n1 := Nat.min (rest % 1461 / 365) 3
  let year := n400 * 400 + n100 * 100 + n4 * 4 + n1 + 1
  (year, monthOf year (n - daysBeforeYear year))

/-! ## Writing -/

/-- `n` in decimal, with zeros in front up to `width` digits. -/
def padded (width n : Nat) : String :=
  let digits := Nat.toDigits 10 n
  String.ofList (List.replicate (width - digits.length) '0' ++ digits)

def clock (seconds : Nat) : String :=
  padded 2 (seconds / 3600) ++ ":" ++ padded 2 (seconds / 60 % 60) ++ ":" ++ padded 2 (seconds % 60)

/-- A fraction of a second, where there is one. -/
def fractionText (micros : Nat) : String := if micros = 0 then "" else "." ++ padded 6 micros

/-- `HH:MM`, with the seconds where there are any. -/
def zoneText (micros : Nat) : String :=
  let n := micros / 1000000
  padded 2 (n / 3600) ++ ":" ++ padded 2 (n / 60 % 60) ++
    (if micros % 60000000 = 0 then ""
      else ":" ++ padded 2 (n % 60) ++ fractionText (micros % 1000000))

def offsetText (offset : Int) : String :=
  (if offset < 0 then "-" else "+") ++ zoneText offset.natAbs

def isoformat (d : Datetime) : String :=
  let micros := (d.micros + d.offset).toNat
  let seconds := micros / 1000000
  let (year, month, day) := dateOf (seconds / 86400)
  padded 4 year ++ "-" ++ padded 2 month ++ "-" ++ padded 2 day ++ "T" ++ clock (seconds % 86400) ++
    fractionText (micros % 1000000) ++ offsetText d.offset

/-! ## Reading -/

/-- `n` digits, and what follows them. -/
def readDigits : Nat → Nat → List Char → Option (Nat × List Char)
  | 0, acc, cs => some (acc, cs)
  | n + 1, acc, c :: cs =>
      if c.isDigit then readDigits n (acc * 10 + (c.toNat - '0'.toNat)) cs else none
  | _ + 1, _, [] => none

/-- One character, where the form has separators. -/
def readSep (sep : Char) (present : Bool) (cs : List Char) : Option (List Char) :=
  if present then (if cs.head? = some sep then some (cs.drop 1) else none) else some cs

/-- The days of the years 1 to 9999. -/
def lastDay : Nat := 3652059

/-- A month and a day of the year. -/
def readMonthDay (year : Nat) (separated : Bool) (cs : List Char) : Option (Nat × List Char) := do
  let (month, cs) ← readDigits 2 0 cs
  let cs ← readSep '-' separated cs
  let (day, cs) ← readDigits 2 0 cs
  if year = 0 ∨ month = 0 ∨ 12 < month ∨ day = 0 ∨ daysInMonth year month < day then none
  else return (daysBeforeYear year + daysBeforeMonth year month + (day - 1), cs)

/-- The Monday of the week that has the year's first Thursday. -/
def weekOne (year : Nat) : Nat :=
  let first := daysBeforeYear year
  first - first % 7 + (if 3 < first % 7 then 7 else 0)

/-- Whether the year has a week 53: it starts on a Thursday, or on the Wednesday before a
leap day. -/
def isLong (year : Nat) : Bool :=
  daysBeforeYear year % 7 = 3 || (daysBeforeYear year % 7 = 2 && isLeap year)

/-- The day of the week, where the text has one; a Monday otherwise.  Of a run of digits
in the basic form it is the first, unless two by two they are a clock's. -/
def readWeekday (separated : Bool) (cs : List Char) : Option (Nat × List Char) :=
  if separated then
    match cs with
    | '-' :: cs =>
        if (cs.drop 1).head?.any Char.isDigit then some (1, '-' :: cs) else readDigits 1 0 cs
    | cs => some (1, cs)
  else
    let run := (cs.takeWhile Char.isDigit).length
    if run = 1 ∨ (1 < run ∧ run % 2 = 0) then readDigits 1 0 cs else some (1, cs)

/-- A week and a day of the week. -/
def readWeek (year : Nat) (separated : Bool) (cs : List Char) : Option (Nat × List Char) := do
  let (week, cs) ← readDigits 2 0 cs
  let (day, cs) ← readWeekday separated cs
  let date := weekOne year + (week - 1) * 7 + (day - 1)
  if year = 0 ∨ week = 0 ∨ 53 < week ∨ (week = 53 ∧ !isLong year) ∨ day = 0 ∨ 7 < day ∨
      lastDay ≤ date then none
  else return (date, cs)

/-- `YYYY-MM-DD`, `YYYYMMDD`, or a date by its week, as days since the first date. -/
def readDate (cs : List Char) : Option (Nat × List Char) := do
  let (year, cs) ← readDigits 4 0 cs
  let separated := cs.head? = some '-'
  let cs ← readSep '-' separated cs
  if cs.head? = some 'W' then readWeek year separated (cs.drop 1)
  else readMonthDay year separated cs

/-- Hours, minutes and seconds as far as they are given, the microseconds, and whether
anything is left. -/
structure Clock where
  fields : List Nat
  micros : Nat := 0
  junk : Bool := false

def Clock.seconds (c : Clock) : Nat :=
  c.fields.getD 0 0 * 3600 + c.fields.getD 1 0 * 60 + c.fields.getD 2 0

/-- One field more in front. -/
def Clock.push (field : Nat) (c : Clock) : Clock := { c with fields := field :: c.fields }

/-- The end of the text, or a NUL, which is taken for it. -/
def ended (cs : List Char) : Bool := cs.head?.all (· = '\x00')

/-- A fraction of a second; digits after the sixth are dropped. -/
def readFraction (cs : List Char) : Option Clock :=
  let n := Nat.min cs.length 6
  (readDigits n 0 cs).map fun (value, rest) =>
    { fields := [], micros := value * 10 ^ (6 - n), junk := !ended (rest.dropWhile Char.isDigit) }

/-- That many fields of two digits, and a fraction.  A single character at the end is left. -/
def readFields (separated : Bool) : Nat → List Char → Option Clock
  | 0, cs => readFraction cs
  | n + 1, cs => do
      let (value, rest) ← readDigits 2 0 cs
      match rest with
      | [] => return { fields := [value] }
      | [c] => if c.toNat < 128 then return { fields := [value], junk := c ≠ '\x00' } else none
      | c :: cs =>
          if separated ∧ c = ':' then return (← readFields separated n cs).push value
          else if c = '.' ∨ c = ',' then return (← readFraction cs).push value
          else if separated then none
          else return (← readFields separated n (c :: cs)).push value

/-- The third character says whether the fields are separated. -/
def readClock (cs : List Char) : Option Clock := readFields (cs[2]? = some ':') 3 cs

def isZone (c : Char) : Bool := c = '+' || c = '-' || c = 'Z'

/-- Nothing, `Z`, or a signed offset of less than a day; one of less than a second is none. -/
def readOffset : List Char → Option Int
  | [] => some 0
  | sign :: cs =>
      if sign = 'Z' then (if ended cs then some 0 else none)
      else do
        let clock ← readClock cs
        let micros := if clock.seconds = 0 then 0 else clock.seconds * 1000000 + clock.micros
        if clock.junk ∨ 86400000000 ≤ micros then none
        else return if sign = '-' then -(micros : Int) else micros

/-- A time of the day: the text up to the zone, and the zone. -/
def readTime (cs : List Char) : Option (Nat × Int) := do
  let zone := cs.dropWhile (!isZone ·)
  let clock ← readClock (cs.takeWhile (!isZone ·))
  if 23 < clock.fields.getD 0 0 ∨ 59 < clock.fields.getD 1 0 ∨ 59 < clock.fields.getD 2 0 then none
  else if zone = [] ∧ clock.junk then none
  else return (clock.seconds * 1000000 + clock.micros, ← readOffset zone)

/-- The datetime a text names; `none` is `ValueError`. -/
def fromisoformat (text : String) : Option Datetime := do
  let (days, cs) ← readDate text.toList
  match cs with
  | [] => return ⟨days * 86400 * 1000000, 0⟩
  | _ :: cs =>
      let (micros, offset) ← readTime cs
      return ⟨(days * 86400 * 1000000 + micros : Nat) - offset, offset⟩

example : (⟨63902822400 * 1000000, 0⟩ : Datetime).isoformat = "2026-01-01T00:00:00+00:00" := by
  decide

example : fromisoformat "2026-W01-4T00:00:00Z" = some ⟨63902822400 * 1000000, 0⟩ := by decide

example : fromisoformat "2026-01-01T02:00:00+02:00" = some ⟨63902822400 * 1000000, 7200000000⟩ := by
  decide +kernel

example : fromisoformat "20260101T00+00:00:01.5" =
    some ⟨63902822400 * 1000000 - 1500000, 1500000⟩ := by decide +kernel

end Datetime
