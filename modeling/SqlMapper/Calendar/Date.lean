import SqlMapper.Number.Integer

/-!
# Calendar dates

Dates of the proleptic Gregorian calendar with years from -9999 to 9999, and their numbering by days, with
1970-01-01 as day 0.
-/

namespace SqlMapper.Calendar

/-- A year with a 29th of February. -/
def isLeapYear (year : Int) : Bool := year % 4 = 0 && (year % 100 ≠ 0 || year % 400 = 0)

/-- The number of days of a month. -/
def daysInMonth (year : Int) (month : Nat) : Nat :=
  if month = 2 then if isLeapYear year then 29 else 28
  else if month = 4 ∨ month = 6 ∨ month = 9 ∨ month = 11 then 30
  else 31

/-- The number of days of a year. -/
def daysInYear (year : Int) : Nat := if isLeapYear year then 366 else 365

/-- The calendar has such a day. -/
def IsDate (year : Int) (month day : Nat) : Prop :=
  -9999 ≤ year ∧ year ≤ 9999 ∧ 1 ≤ month ∧ month ≤ 12 ∧ 1 ≤ day ∧ day ≤ daysInMonth year month

instance (year : Int) (month day : Nat) : Decidable (IsDate year month day) := by
  unfold IsDate; infer_instance

/-- A day of the calendar. -/
structure Date where
  year : Int
  month : Nat
  day : Nat
  isDate : IsDate year month day
deriving DecidableEq

namespace Date

/-- The first day of 1970. -/
def epoch : Date := ⟨1970, 1, 1, by decide⟩

instance : Inhabited Date := ⟨epoch⟩

/-- The day with the given year, month and day of the month, if there is one. -/
def of? (year : Int) (month day : Nat) : Option Date :=
  if h : IsDate year month day then some ⟨year, month, day, h⟩ else none

/-- Days from the start of March in year 0 to a day; years count from March. -/
def daysFromMarch (year : Int) (month day : Nat) : Int :=
  let y := if month ≤ 2 then year - 1 else year
  let m : Int := (month + 9) % 12
  365 * y + y / 4 - y / 100 + y / 400 + (153 * m + 2) / 5 + day - 1

/-- Days since 1970-01-01. -/
def dayNumber (d : Date) : Int := daysFromMarch d.year d.month d.day - 719468

/-- The day with the given number, if it lies inside the calendar. -/
def ofDayNumber? (n : Int) : Option Date :=
  let z := n + 719468
  let era := z / 146097
  let dayOfEra := z % 146097
  let yearOfEra := (dayOfEra - dayOfEra / 1460 + dayOfEra / 36524 - dayOfEra / 146096) / 365
  let dayOfYear := dayOfEra - (365 * yearOfEra + yearOfEra / 4 - yearOfEra / 100)
  let m := (5 * dayOfYear + 2) / 153
  let day := dayOfYear - (153 * m + 2) / 5 + 1
  let month := if m < 10 then m + 3 else m - 9
  let year := yearOfEra + era * 400 + if month ≤ 2 then 1 else 0
  of? year month.toNat day.toNat

/-- The day of a year counted from 1, if the year has it. -/
def ofOrdinal? (year : Int) (ordinal : Nat) : Option Date := do
  guard (1 ≤ ordinal ∧ ordinal ≤ daysInYear year)
  let first ← of? year 1 1
  ofDayNumber? (first.dayNumber + ordinal - 1)

/-- Days since Monday. -/
def weekday (d : Date) : Nat := ((d.dayNumber + 3) % 7).toNat

/-- The week of a year that holds its first Thursday is week 1; a year has 53 weeks if week 53 has its Thursday. -/
def isoWeeks (year : Int) : Nat :=
  match of? year 1 1 with
  | none => 52
  | some first =>
    if first.weekday = 3 ∨ (first.weekday = 2 ∧ isLeapYear year) then 53 else 52

/-- A day by year, week and weekday (Monday is 0), with weeks counted from the one with the first Thursday. -/
def ofIsoWeek? (year : Int) (week weekday : Nat) : Option Date := do
  guard (-9999 ≤ year ∧ year ≤ 9999 ∧ 1 ≤ week ∧ week ≤ isoWeeks year)
  let fourth ← of? year 1 4
  ofDayNumber? (fourth.dayNumber - fourth.weekday + 7 * ((week : Int) - 1) + weekday)

/-- The date as messages show it: four digits of year, with the sign in front of them. -/
def text (d : Date) : String :=
  (if d.year < 0 then "-" else "") ++ Number.padded 4 d.year.natAbs ++ "-" ++ Number.padded 2 d.month ++ "-" ++
    Number.padded 2 d.day

/-- The date as statements write it: the year takes at least four characters, a sign included. -/
def literal (d : Date) : String :=
  (if d.year < 0 then "-" ++ Number.padded 3 d.year.natAbs else Number.padded 4 d.year.natAbs) ++ "-" ++
    Number.padded 2 d.month ++ "-" ++ Number.padded 2 d.day

end Date

end SqlMapper.Calendar
