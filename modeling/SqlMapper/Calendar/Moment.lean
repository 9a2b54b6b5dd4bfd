import SqlMapper.Calendar.Date

/-!
# Times and moments

Times of day to the nanosecond, a date with a time of day, and moments: a date and time on clocks with a known
offset from universal time. Two moments are the same when their clocks show the same instant.
-/

namespace SqlMapper.Calendar

/-- A time of day. -/
structure Time where
  hour : Fin 24
  minute : Fin 60
  second : Fin 60
  nanosecond : Fin 1000000000
deriving DecidableEq

namespace Time

/-- The start of a day. -/
def midnight : Time := ⟨0, 0, 0, 0⟩

instance : Inhabited Time := ⟨midnight⟩

/-- The time with the given parts, if they are in bounds. -/
def of? (hour minute second nanosecond : Nat) : Option Time :=
  if h : hour < 24 ∧ minute < 60 ∧ second < 60 ∧ nanosecond < 1000000000 then
    some ⟨⟨hour, h.1⟩, ⟨minute, h.2.1⟩, ⟨second, h.2.2.1⟩, ⟨nanosecond, h.2.2.2⟩⟩
  else none

/-- Whole seconds since midnight. -/
def secondOfDay (t : Time) : Nat := t.hour.val * 3600 + t.minute.val * 60 + t.second.val

/-- Whole microseconds of the second. -/
def microsecond (t : Time) : Nat := t.nanosecond.val / 1000

/-- The fraction of the second without zeros at its end, at least one digit. -/
def fractionText (t : Time) : String :=
  let ds := (Number.padded 9 t.nanosecond.val).toList
  let shown := (ds.reverse.dropWhile (· = '0')).reverse
  if shown.isEmpty then "0" else String.ofList shown

/-- The time as messages show it: no zero in front of the hour, the fraction always there. -/
def text (t : Time) : String :=
  Nat.repr t.hour.val ++ ":" ++ Number.padded 2 t.minute.val ++ ":" ++ Number.padded 2 t.second.val ++ "." ++
    t.fractionText

/-- The time as statements write it: two digits for each part, and six for microseconds unless there are none. -/
def literal (t : Time) : String :=
  Number.padded 2 t.hour.val ++ ":" ++ Number.padded 2 t.minute.val ++ ":" ++ Number.padded 2 t.second.val ++
    if t.microsecond = 0 then "" else "." ++ Number.padded 6 t.microsecond

end Time

/-- A date and a time of day. -/
structure DateTime where
  date : Date
  time : Time
deriving DecidableEq, Inhabited

namespace DateTime

/-- The start of a day. -/
def startOf (d : Date) : DateTime := ⟨d, .midnight⟩

/-- Seconds since the start of 1970 on the same clock. -/
def seconds (d : DateTime) : Int := d.date.dayNumber * 86400 + d.time.secondOfDay

/-- The date and time a number of seconds after the start of 1970, if the calendar has it. -/
def ofSeconds? (s : Int) (nanosecond : Fin 1000000000) : Option DateTime := do
  let date ← Date.ofDayNumber? (s / 86400)
  let rest := (s % 86400).toNat
  let time ← Time.of? (rest / 3600) (rest / 60 % 60) (rest % 60) nanosecond.val
  return ⟨date, time⟩

/-- The date and time as messages show it. -/
def text (d : DateTime) : String := d.date.text ++ " " ++ d.time.text

/-- The date and time as statements write it. -/
def literal (d : DateTime) : String := d.date.literal ++ " " ++ d.time.literal

end DateTime

/-- A date and time on clocks that are `offset` seconds ahead of universal time. -/
structure Moment where
  wall : DateTime
  offset : Int
deriving DecidableEq, Inhabited

namespace Moment

/-- Whole seconds since the start of 1970 in universal time. -/
def unixSeconds (m : Moment) : Int := m.wall.seconds - m.offset

/-- Both are the same instant. -/
def same (a b : Moment) : Bool := a.unixSeconds = b.unixSeconds && a.wall.time.nanosecond = b.wall.time.nanosecond

/-- The instant a number of seconds after the start of 1970, if the calendar has it. -/
def ofUnixSeconds? (s : Int) : Option Moment := (DateTime.ofSeconds? s 0).map fun wall => ⟨wall, 0⟩

/-- The same instant on clocks that are `offset` seconds ahead, if their date is in the calendar then. -/
def at? (m : Moment) (offset : Int) : Option Moment :=
  if m.offset = offset then some m
  else (DateTime.ofSeconds? (m.unixSeconds + offset) m.wall.time.nanosecond).map fun wall => ⟨wall, offset⟩

/-- The date and time of clocks of universal time at a moment, if the calendar has it. -/
def utc? (m : Moment) : Option DateTime := (m.at? 0).map wall

/-- The offset with a sign and two digits for each of hours, minutes and seconds. -/
def offsetText (offset : Int) : String :=
  let n := offset.natAbs
  (if offset < 0 then "-" else "+") ++ Number.padded 2 (n / 3600) ++ ":" ++ Number.padded 2 (n / 60 % 60) ++ ":" ++
    Number.padded 2 (n % 60)

/-- The moment as messages show it. -/
def text (m : Moment) : String := m.wall.text ++ " " ++ offsetText m.offset

end Moment

end SqlMapper.Calendar
