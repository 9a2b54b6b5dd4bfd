import SqlMapper.Calendar.PatternText
import SqlMapper.Number.FloatText

/-!
# Date and time patterns

A pattern describes how a date or a time is written: literal text with components in brackets, each with modifiers that
say how it is written. Names, keys and values may be written in either case. A choice between nested patterns has a
written form, but no pattern that is read here may hold one.
-/

namespace SqlMapper.Calendar

/-- How a number with too few digits is filled. -/
inductive Padding where
  | space
  | zero
  | none
deriving DecidableEq, Repr

/-- How a month is written. -/
inductive MonthForm where
  | numerical
  | long
  | short
deriving DecidableEq, Repr

/-- How a day of the week is written. -/
inductive WeekdayForm where
  | short
  | long
  | fromSunday
  | fromMonday
deriving DecidableEq, Repr

/-- Which week is the first of a year. -/
inductive WeekForm where
  | iso
  | sunday
  | monday
deriving DecidableEq, Repr

/-- Which part of a year is written. -/
inductive YearForm where
  | full
  | century
  | lastTwo
deriving DecidableEq, Repr

/-- A part of a date or time with the way it is written. -/
inductive Component where
  | day (padding : Padding)
  | month (padding : Padding) (form : MonthForm) (caseSensitive : Bool)
  | ordinal (padding : Padding)
  | weekday (form : WeekdayForm) (oneIndexed caseSensitive : Bool)
  | weekNumber (padding : Padding) (form : WeekForm)
  | year (padding : Padding) (form : YearForm) (weekBased signMandatory : Bool)
  | hour (padding : Padding) (twelveHour : Bool)
  | minute (padding : Padding)
  | period (upper caseSensitive : Bool)
  | second (padding : Padding)
  | subsecond (digits : Option Nat)
  | offsetHour (padding : Padding) (signMandatory : Bool)
  | offsetMinute (padding : Padding)
  | offsetSecond (padding : Padding)
  | skip (bytes : Nat)
  | unixTimestamp (digits : Nat) (signMandatory : Bool)
  | finish (discardRest : Bool)
deriving DecidableEq, Repr

/-- One step of a pattern. -/
inductive PatternItem where
  | literal (bytes : List UInt8)
  | component (c : Component)
deriving DecidableEq, Repr

namespace Pattern

/-! ## Components -/

/-- The text of a run of bytes in lower case. -/
def lowered (bytes : List UInt8) : String := Text.Utf8.decodeLossy (bytes.map Number.lowerByte)

/-- The modifiers that a component knows, with their possible values. -/
def knownModifiers (name : String) : Option (List (String × List String)) :=
  let padding := ("padding", ["space", "zero", "none"])
  let sign := ("sign", ["automatic", "mandatory"])
  let caseSensitive := ("case_sensitive", ["false", "true"])
  match name with
  | "day" | "minute" | "second" | "ordinal" | "offset_minute" | "offset_second" => some [padding]
  | "end" => some [("trailing_input", ["prohibit", "discard"])]
  | "hour" => some [padding, ("repr", ["12", "24"])]
  | "ignore" => some [("count", [])]
  | "month" => some [padding, ("repr", ["numerical", "long", "short"]), caseSensitive]
  | "offset_hour" => some [sign, padding]
  | "period" => some [("case", ["lower", "upper"]), caseSensitive]
  | "subsecond" => some [("digits", ["1", "2", "3", "4", "5", "6", "7", "8", "9", "1+"])]
  | "unix_timestamp" => some [("precision", ["second", "millisecond", "microsecond", "nanosecond"]), sign]
  | "weekday" =>
    some [("repr", ["short", "long", "sunday", "monday"]), ("one_indexed", ["false", "true"]), caseSensitive]
  | "week_number" => some [padding, ("repr", ["iso", "sunday", "monday"])]
  | "year" =>
    some [padding, ("repr", ["full", "century", "last_two"]), ("range", ["standard", "extended"]),
      ("base", ["calendar", "iso_week"]), sign]
  | _ => none

/-- A positive number below 2 ^ 16. -/
def readCount (s : String) : Option Nat := do
  let bytes := Text.Utf8.encode s
  let digits := match bytes with
    | 0x2b :: rest => rest
    | bytes => bytes
  guard (!digits.isEmpty)
  let n ← Number.readDigits 0 digits
  guard (0 < n ∧ n < 65536)
  return n

/-- Checks that every modifier is known and has one of its values. -/
def checkModifiers (known : List (String × List String)) : List Modifier → Except PatternFault Unit
  | [] => .ok ()
  | m :: rest =>
    match known.find? (·.1 = m.key.toLower) with
    | none => .error (.invalidModifier m.key m.keyIndex)
    | some (key, values) =>
      if key = "count" then
        if (readCount m.value).isSome then checkModifiers known rest
        else .error (.invalidModifier m.value m.valueIndex)
      else if values.contains m.value.toLower then checkModifiers known rest
      else .error (.invalidModifier m.value m.valueIndex)

/-- The value that the last modifier with a key gives. -/
def valueOf (modifiers : List Modifier) (key : String) : Option String :=
  (modifiers.reverse.find? (·.key.toLower = key)).map (·.value.toLower)

/-- The component with a known name and checked modifiers. -/
def componentOf (name : String) (index : Nat) (modifiers : List Modifier) : Except PatternFault Component :=
  let value (key : String) := valueOf modifiers key
  let padding :=
    match value "padding" with
    | some "space" => Padding.space
    | some "none" => Padding.none
    | _ => Padding.zero
  let signMandatory := value "sign" = some "mandatory"
  let caseSensitive := value "case_sensitive" ≠ some "false"
  match name with
  | "day" => .ok (.day padding)
  | "minute" => .ok (.minute padding)
  | "second" => .ok (.second padding)
  | "ordinal" => .ok (.ordinal padding)
  | "offset_minute" => .ok (.offsetMinute padding)
  | "offset_second" => .ok (.offsetSecond padding)
  | "offset_hour" => .ok (.offsetHour padding signMandatory)
  | "hour" => .ok (.hour padding (value "repr" = some "12"))
  | "end" => .ok (.finish (value "trailing_input" = some "discard"))
  | "ignore" =>
    match (modifiers.reverse.find? (·.key.toLower = "count")).bind (readCount ·.value) with
    | some n => .ok (.skip n)
    | none => .error (.missingModifier "count" index)
  | "month" =>
    let form :=
      match value "repr" with
      | some "long" => MonthForm.long
      | some "short" => MonthForm.short
      | _ => MonthForm.numerical
    .ok (.month padding form caseSensitive)
  | "period" => .ok (.period (value "case" ≠ some "lower") caseSensitive)
  | "subsecond" =>
    .ok (.subsecond ((value "digits").bind fun d => if d = "1+" then none else d.toNat?))
  | "unix_timestamp" =>
    let digits :=
      match value "precision" with
      | some "millisecond" => 17
      | some "microsecond" => 20
      | some "nanosecond" => 23
      | _ => 14
    .ok (.unixTimestamp digits signMandatory)
  | "weekday" =>
    let form :=
      match value "repr" with
      | some "short" => WeekdayForm.short
      | some "sunday" => WeekdayForm.fromSunday
      | some "monday" => WeekdayForm.fromMonday
      | _ => WeekdayForm.long
    .ok (.weekday form (value "one_indexed" ≠ some "false") caseSensitive)
  | "week_number" =>
    let form :=
      match value "repr" with
      | some "sunday" => WeekForm.sunday
      | some "monday" => WeekForm.monday
      | _ => WeekForm.iso
    .ok (.weekNumber padding form)
  | _ =>
    let form :=
      match value "repr" with
      | some "century" => YearForm.century
      | some "last_two" => YearForm.lastTwo
      | _ => YearForm.full
    .ok (.year padding form (value "base" = some "iso_week") signMandatory)

/-! ## Brackets -/

/-- What a pair of brackets stands for. -/
inductive Meaning where
  | component (c : Component)
  /-- A choice between nested patterns. -/
  | choice (what : String)

/-- Modifiers where none are known. -/
def refuseModifiers : List Modifier → Except PatternFault Unit := checkModifiers []

mutual

/-- What a pair of brackets stands for. A choice is checked with all that is nested in it. -/
def Bracketed.meaning : Bracketed → Except PatternFault Meaning
  | .mk head nested => do
    let name := lowered head.name
    if name = "optional" then
      refuseModifiers head.modifiers
      match nested with
      | [] => throw (.expected "nested format description" head.closing)
      | first :: _ :: _ =>
        throw (.notSupported "more than one nested format description" "\x60optional\x60 components" first.opening)
      | [_] => pure ()
      checkNested nested
      return .choice "optional item"
    else if name = "first" then
      refuseModifiers head.modifiers
      checkNested nested
      return .choice "'first' item"
    else
      match knownModifiers name, nested with
      | none, _ => throw (.invalidComponent (Text.Utf8.decodeLossy head.name) head.nameIndex)
      | some _, first :: _ => throw (.invalidModifier "[" first.opening)
      | some known, [] =>
        checkModifiers known head.modifiers
        return .component (← componentOf name head.nameIndex head.modifiers)

/-- Checks nested patterns. -/
def checkNested : List Nested → Except PatternFault Unit
  | [] => .ok ()
  | .mk _ parts :: rest => do
    checkParts parts
    checkNested rest

/-- Checks the parts of a nested pattern. -/
def checkParts : List Bracketed → Except PatternFault Unit
  | [] => .ok ()
  | part :: rest => do
    let _ ← part.meaning
    checkParts rest

end

/-- Reads the items of a pattern, one after another. -/
def items : (fuel : Nat) → List Token → Except PatternFault (List PatternItem)
  | 0, _ => .ok []
  | _, [] => .ok []
  | fuel + 1, .literal bytes :: rest => do return .literal bytes :: (← items fuel rest)
  | fuel + 1, .opening index :: rest => do
    let (part, rest) ← bracketed (rest.length + 1) index rest
    match ← part.meaning with
    | .component c => return .component c :: (← items fuel rest)
    | .choice what => throw (.notSupported what "runtime-parsed format descriptions" index)
  | _, .fault f :: _ => .error f
  | fuel + 1, _ :: rest => items fuel rest

end Pattern

/-- The items of a pattern, or why it is refused. -/
def readPattern (pattern : String) : Except PatternFault (List PatternItem) :=
  let bytes := Text.Utf8.encode pattern
  let tokens := Pattern.tokens (bytes.length + 1) 0 0 bytes
  Pattern.items (tokens.length + 1) tokens

end SqlMapper.Calendar
