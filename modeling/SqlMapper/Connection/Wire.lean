import SqlMapper.Connection.Fault
import SqlMapper.Running.Executor

/-!
# Values on the wire

The forms that the server's protocol has for values, and how values are written in them and read from them. Dates have
a year of 16 bits, fractions of seconds are cut to microseconds, and a duration that is no time of the day is read as
text.
-/

namespace SqlMapper

open Calendar

/-- A value in the server's protocol. -/
inductive WireValue where
  | null
  | bytes (bs : List UInt8)
  | int (n : Int64)
  | uint (n : UInt64)
  | float (x : Float32)
  | double (x : Float)
  | date (year month day hour minute second micro : Nat)
  /-- A duration of some days and a part of a day. -/
  | time (negative : Bool) (days hours minutes seconds micro : Nat)
deriving Inhabited

namespace WireValue

/-- A fraction of a second, left out if it is zero. -/
def fractionText (micro : Nat) : String := if micro = 0 then "" else "." ++ Number.padded 6 micro

/-- A date and time between quotes; the time is left out if it is midnight. -/
def dateText (year month day hour minute second micro : Nat) : String :=
  let date := Number.padded 4 year ++ "-" ++ Number.padded 2 month ++ "-" ++ Number.padded 2 day
  let time :=
    if hour = 0 ∧ minute = 0 ∧ second = 0 ∧ micro = 0 then ""
    else
      " " ++ Number.padded 2 hour ++ ":" ++ Number.padded 2 minute ++ ":" ++ Number.padded 2 second ++
        fractionText micro
  "'" ++ date ++ time ++ "'"

/-- A time of the day between quotes. -/
def timeText (hours minutes seconds micro : Nat) : String :=
  "'" ++ Number.padded 3 hours ++ ":" ++ Number.padded 2 minutes ++ ":" ++ Number.padded 2 seconds ++
    fractionText micro ++ "'"

/-- A value that has a form but no meaning. -/
def unreadable {α : Type} (kind text : String) : Result α :=
  .error (ConnectionFault.unreadable (kind ++ "(" ++ Text.Quoted.quote text ++ ")")).error

/-- A duration as text. -/
def durationText (negative : Bool) (days hours minutes seconds micro : Nat) : String :=
  (if negative then "-" else "") ++ Number.padded 2 (days * 24 + hours) ++ ":" ++ Number.padded 2 minutes ++ ":" ++
    Number.padded 2 seconds ++ "." ++ Number.padded 6 micro

/-- The value that a form of the protocol denotes. -/
def toValue : WireValue → Result Value
  | null => .ok .null
  | bytes bs => .ok (.bytes bs)
  | int n => .ok (.int n)
  | uint n => .ok (.uint n)
  | float x => .ok (.float x.toFloat)
  | double x => .ok (.float x)
  | date year month day hour minute second micro =>
    match Date.of? year month day, Time.of? hour minute second (micro * 1000) with
    | some d, some t => .ok (.datetime ⟨d, t⟩)
    | _, _ => unreadable "Date" (dateText year month day hour minute second micro)
  | time false 0 hours minutes seconds micro =>
    match Time.of? hours minutes seconds (micro * 1000) with
    | some t => .ok (.time t)
    | none => unreadable "Time" (timeText hours minutes seconds micro)
  | time negative days hours minutes seconds micro =>
    .ok (.text (durationText negative days hours minutes seconds micro))

/-- A date and time, unless its year is out of range. -/
def ofDateTime (d : DateTime) : Result WireValue :=
  if d.date.year < 0 ∨ 65535 < d.date.year then .error (ConnectionFault.dateRange d).error
  else
    .ok (date d.date.year.toNat d.date.month d.date.day d.time.hour.val d.time.minute.val d.time.second.val
      d.time.microsecond)

/-- The form of a value in the protocol. A list has none; it is expanded before. -/
def ofValue : Value → Result WireValue
  | .null => .ok null
  | .boolean b => .ok (int (if b then 1 else 0))
  | .int n => .ok (int n)
  | .uint n => .ok (uint n)
  | .float x => .ok (double x)
  | .decimal d => .ok (bytes (Text.Utf8.encode d.text))
  | .text s => .ok (bytes (Text.Utf8.encode s))
  | .bytes bs => .ok (bytes bs)
  | .date d => ofDateTime (.startOf d)
  | .time t => .ok (time false 0 t.hour.val t.minute.val t.second.val t.microsecond)
  | .datetime d => ofDateTime d
  | .timestamp m => orPanic m.utc? >>= ofDateTime
  | .uuid u => .ok (bytes (Text.Utf8.encode u.simple))
  | .list _ => .error ConnectionFault.unexpandedList.error

/-- The row that the server delivers, if every value of it can be read. -/
def readRow (labels : List String) (values : List WireValue) : Result FetchedRow :=
  match values.mapM fun (w : WireValue) => w.toValue.toOption with
  | some vs => .ok ⟨labels, vs⟩
  | none => .error ConnectionFault.unreadableRow.error

end WireValue

end SqlMapper
