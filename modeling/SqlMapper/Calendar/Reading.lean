import SqlMapper.Calendar.Moment
import SqlMapper.Calendar.Pattern

/-!
# Reading dates and times by a pattern

A text is read item by item; each component takes its bytes and notes its value. A date, a time, or both are then made
of the values noted, and the text is refused if it does not fit the pattern, does not end with it, or does not tell
enough.
-/

namespace SqlMapper.Calendar

/-- What the components of a pattern have told. -/
structure Noted where
  year : Option Int := none
  century : Option (Nat × Bool) := none
  lastTwo : Option Nat := none
  weekYear : Option Int := none
  weekCentury : Option (Nat × Bool) := none
  weekLastTwo : Option Nat := none
  month : Option Nat := none
  sundayWeek : Option Nat := none
  mondayWeek : Option Nat := none
  isoWeek : Option Nat := none
  weekday : Option Nat := none
  ordinal : Option Nat := none
  day : Option Nat := none
  hour : Option Nat := none
  hour12 : Option Nat := none
  isPm : Option Bool := none
  minute : Option Nat := none
  second : Option Nat := none
  subsecond : Option Nat := none

namespace Reading

/-- Takes between `least` and `most` digits, as many as there are. -/
def takeNumber : (least most value : Nat) → List UInt8 → Option (Nat × List UInt8)
  | least, 0, value, bytes => if least = 0 then some (value, bytes) else none
  | least, most + 1, value, bytes =>
    match bytes with
    | [] => if least = 0 then some (value, bytes) else none
    | b :: rest =>
      match Number.digitValue? b with
      | some d => takeNumber (least - 1) most (value * 10 + d) rest
      | none => if least = 0 then some (value, bytes) else none

/-- Takes a number of a fixed width, filled as the padding says. -/
def takePadded (padding : Padding) (width : Nat) (bytes : List UInt8) : Option (Nat × List UInt8) :=
  match padding with
  | .zero => takeNumber width width 0 bytes
  | .none => takeNumber 1 width 0 bytes
  | .space =>
    let blanks := min ((bytes.takeWhile (· = 0x20)).length) (width - 1)
    takeNumber (width - blanks) (width - blanks) 0 (bytes.drop blanks)

/-- Takes a sign, if there is one, and whether it is a minus. -/
def takeSign : List UInt8 → Option Bool × List UInt8
  | 0x2d :: rest => (some true, rest)
  | 0x2b :: rest => (some false, rest)
  | bytes => (none, bytes)

/-- Takes one of several names; its position tells which. -/
def takeName (caseSensitive : Bool) (names : List String) (bytes : List UInt8) : Option (Nat × List UInt8) :=
  let fold (bs : List UInt8) := if caseSensitive then bs else bs.map Number.lowerByte
  let fits (name : String) : Bool :=
    let n := Text.Utf8.encode name
    fold (bytes.take n.length) = fold n
  (names.findIdx? fits).bind fun i => (names[i]?).map fun name => (i, bytes.drop (Text.Utf8.encode name).length)

/-- Names of the months. -/
def monthNames : List String :=
  ["January", "February", "March", "April", "May", "June", "July", "August", "September", "October", "November",
    "December"]

/-- Names of the days of the week. -/
def weekdayNames : List String := ["Monday", "Tuesday", "Wednesday", "Thursday", "Friday", "Saturday", "Sunday"]

/-- The first three letters of a name. -/
def short (name : String) : String := String.ofList (name.toList.take 3)

/-- Takes a year and notes it. -/
def takeYear (padding : Padding) (form : YearForm) (weekBased signMandatory : Bool) (bytes : List UInt8)
    (n : Noted) : Option (Noted × List UInt8) :=
  match form with
  | .full => do
    let (sign, bytes) := takeSign bytes
    guard (sign.isSome || !signMandatory)
    let (y, bytes) ← takePadded padding 4 bytes
    let year : Int := if sign = some true then -(y : Int) else y
    return (if weekBased then { n with weekYear := some year } else { n with year := some year }, bytes)
  | .century => do
    let (sign, bytes) := takeSign bytes
    guard (sign.isSome || !signMandatory)
    let (c, bytes) ←
      if sign.isSome then takePadded padding 2 bytes
      else
        match padding with
        | .space => takePadded .space 1 bytes
        | _ => takeNumber 1 2 0 bytes
    let century := some (c, decide (sign = some true))
    return (if weekBased then { n with weekCentury := century } else { n with century := century }, bytes)
  | .lastTwo => do
    let (y, bytes) ← takePadded padding 2 bytes
    return (if weekBased then { n with weekLastTwo := some y } else { n with lastTwo := some y }, bytes)

/-- Takes a day of the week, counted from Monday. -/
def takeWeekday (form : WeekdayForm) (oneIndexed caseSensitive : Bool) (bytes : List UInt8) :
    Option (Nat × List UInt8) :=
  let numbered (shift : Nat) : Option (Nat × List UInt8) := do
    let (d, rest) ← takeNumber 1 1 0 bytes
    let first := if oneIndexed then 1 else 0
    guard (first ≤ d ∧ d < first + 7)
    return ((d - first + shift) % 7, rest)
  match form with
  | .short => takeName caseSensitive (weekdayNames.map short) bytes
  | .long => takeName caseSensitive weekdayNames bytes
  | .fromSunday => numbered 6
  | .fromMonday => numbered 0

/-- Takes a component and notes its value. -/
def takeComponent (c : Component) (bytes : List UInt8) (n : Noted) : Option (Noted × List UInt8) :=
  match c with
  | .day padding => do
    let (d, bytes) ← takePadded padding 2 bytes
    guard (1 ≤ d ∧ d ≤ 31)
    return ({ n with day := some d }, bytes)
  | .month padding form caseSensitive => do
    let (m, bytes) ←
      match form with
      | .numerical => takePadded padding 2 bytes
      | .long => (takeName caseSensitive monthNames bytes).map fun (i, rest) => (i + 1, rest)
      | .short => (takeName caseSensitive (monthNames.map short) bytes).map fun (i, rest) => (i + 1, rest)
    guard (1 ≤ m ∧ m ≤ 12)
    return ({ n with month := some m }, bytes)
  | .ordinal padding => do
    let (d, bytes) ← takePadded padding 3 bytes
    guard (1 ≤ d ∧ d ≤ 366)
    return ({ n with ordinal := some d }, bytes)
  | .weekday form oneIndexed caseSensitive => do
    let (d, bytes) ← takeWeekday form oneIndexed caseSensitive bytes
    return ({ n with weekday := some d }, bytes)
  | .weekNumber padding form => do
    let (w, bytes) ← takePadded padding 2 bytes
    guard (w ≤ 53)
    match form with
    | .iso => do
      guard (1 ≤ w)
      return ({ n with isoWeek := some w }, bytes)
    | .sunday => return ({ n with sundayWeek := some w }, bytes)
    | .monday => return ({ n with mondayWeek := some w }, bytes)
  | .year padding form weekBased signMandatory => takeYear padding form weekBased signMandatory bytes n
  | .hour padding twelveHour => do
    let (h, bytes) ← takePadded padding 2 bytes
    if twelveHour then do
      guard (1 ≤ h ∧ h ≤ 12)
      return ({ n with hour12 := some h }, bytes)
    else do
      guard (h ≤ 23)
      return ({ n with hour := some h }, bytes)
  | .minute padding => do
    let (m, bytes) ← takePadded padding 2 bytes
    guard (m ≤ 59)
    return ({ n with minute := some m }, bytes)
  | .period upper caseSensitive => do
    let (p, bytes) ← takeName caseSensitive (if upper then ["AM", "PM"] else ["am", "pm"]) bytes
    return ({ n with isPm := some (p = 1) }, bytes)
  | .second padding => do
    let (s, bytes) ← takePadded padding 2 bytes
    guard (s ≤ 60)
    return ({ n with second := some s }, bytes)
  | .subsecond digits =>
    match digits with
    | some count => do
      let (v, bytes) ← takeNumber count count 0 bytes
      return ({ n with subsecond := some (v * Nat.pow 10 (9 - count)) }, bytes)
    | none => do
      let ds := bytes.takeWhile fun b => (Number.digitValue? b).isSome
      guard (!ds.isEmpty)
      let (v, _) ← takeNumber (min 9 ds.length) (min 9 ds.length) 0 ds
      return ({ n with subsecond := some (v * Nat.pow 10 (9 - ds.length)) }, bytes.drop ds.length)
  | .offsetHour padding signMandatory => do
    let (sign, bytes) := takeSign bytes
    guard (sign.isSome || !signMandatory)
    let (h, bytes) ← takePadded padding 2 bytes
    guard (h ≤ 25)
    return (n, bytes)
  | .offsetMinute padding | .offsetSecond padding => do
    let (m, bytes) ← takePadded padding 2 bytes
    guard (m ≤ 59)
    return (n, bytes)
  | .skip count => do
    guard (count ≤ bytes.length)
    return (n, bytes.drop count)
  | .unixTimestamp digits signMandatory => do
    let (sign, bytes) := takeSign bytes
    guard (sign.isSome || !signMandatory)
    let (_, bytes) ← takeNumber 1 digits 0 bytes
    return (n, bytes)
  | .finish discardRest => do
    guard (discardRest || bytes.isEmpty)
    return (n, [])

/-- Reads a text by the items of a pattern. -/
def takeItems : List PatternItem → List UInt8 → Noted → Option (Noted × List UInt8)
  | [], bytes, n => some (n, bytes)
  | .literal l :: items, bytes, n =>
    if bytes.take l.length = l then takeItems items (bytes.drop l.length) n else none
  | .component c :: items, bytes, n => do
    let (n, bytes) ← takeComponent c bytes n
    takeItems items bytes n

/-- What a whole text tells by a pattern. -/
def note (items : List PatternItem) (s : String) : Option Noted := do
  let (n, rest) ← takeItems items (Text.Utf8.encode s) {}
  guard rest.isEmpty
  return n

/-- A year of which only the century and the last two digits are told. -/
def joinedYear (year : Option Int) (century : Option (Nat × Bool)) (lastTwo : Option Nat) : Option Int :=
  match year, century, lastTwo with
  | some y, _, _ => some y
  | none, some (c, negative), some t => some (if negative then -(100 * c + t : Int) else (100 * c + t : Int))
  | none, _, _ => none

/-- The day before the first week of a year that starts on the given weekday (Monday is 0). -/
def beforeFirstWeek (year : Int) (weekStart : Nat) : Int :=
  match Date.of? year 1 1 with
  | none => 0
  | some first =>
    let sinceStart := (first.weekday + 7 - weekStart) % 7
    if sinceStart = 0 then 0 else 7 - sinceStart

end Reading

/-- The date that a text tells. -/
def Noted.date? (n : Noted) : Option Date := do
  let year := Reading.joinedYear n.year n.century n.lastTwo
  let weekYear := Reading.joinedYear n.weekYear n.weekCentury n.weekLastTwo
  match year, n.ordinal with
  | some y, some o => Date.ofOrdinal? y o
  | _, _ =>
  match year, n.month, n.day with
  | some y, some m, some d => Date.of? y m d
  | _, _, _ =>
  match weekYear, n.isoWeek, n.weekday with
  | some y, some w, some d => Date.ofIsoWeek? y w d
  | _, _, _ =>
  match year, n.sundayWeek, n.weekday with
  | some y, some w, some d => do
    let day := 7 * ((w : Int) - 1) + ((d + 1) % 7 : Nat) + Reading.beforeFirstWeek y 6 + 1
    guard (1 ≤ day)
    Date.ofOrdinal? y day.toNat
  | _, _, _ =>
  match year, n.mondayWeek, n.weekday with
  | some y, some w, some d => do
    let day := 7 * ((w : Int) - 1) + d + Reading.beforeFirstWeek y 0 + 1
    guard (1 ≤ day)
    Date.ofOrdinal? y day.toNat
  | _, _, _ => none

/-- The time of day that a text tells. -/
def Noted.time? (n : Noted) : Option Time := do
  let hour ←
    match n.hour, n.hour12, n.isPm with
    | some h, _, _ => some h
    | none, some h, some pm => some (h % 12 + if pm then 12 else 0)
    | _, _, _ => none
  match n.minute, n.second, n.subsecond with
  | none, none, none => Time.of? hour 0 0 0
  | some m, none, none => Time.of? hour m 0 0
  | some m, some s, none => Time.of? hour m s 0
  | some m, some s, some f => Time.of? hour m s f
  | _, _, _ => none

/-- Reads a date. -/
def Date.read (items : List PatternItem) (s : String) : Option Date := (Reading.note items s).bind Noted.date?

/-- Reads a time of day. -/
def Time.read (items : List PatternItem) (s : String) : Option Time := (Reading.note items s).bind Noted.time?

/-- Reads a date with a time of day. -/
def DateTime.read (items : List PatternItem) (s : String) : Option DateTime := do
  let n ← Reading.note items s
  return ⟨← n.date?, ← n.time?⟩

end SqlMapper.Calendar
