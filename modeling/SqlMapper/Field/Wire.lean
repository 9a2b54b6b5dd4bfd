import SqlMapper.Field.Basic
import SqlMapper.Calendar.Reading

/-!
# Conversion by fields

A field converts an application value to the value that is bound to a placeholder (`toWire`), and a value that the
database delivers to an application value (`toApp`). Both refuse a value that does not fit the column and name the
column in the error. `NULL` passes through both unchanged, and a list is converted item by item on its way to the
wire. A moment that has to be shown on other clocks, where it would leave the calendar, is not refused: it is a panic.
-/

namespace SqlMapper

open Number Calendar

namespace Field

/-- The value is not what the column takes. -/
def invalid (f : Field) (v : Value) (expected : String) : Error := Error.expected f.name expected v

/-- Takes a reading of a value, or refuses the value. -/
def take {α : Type} (f : Field) (v : Value) (expected : String) : Option α → Result α
  | some a => .ok a
  | none => .error (f.invalid v expected)

/-- Reads a text by the first pattern that it follows. A pattern that cannot be understood ends the search. -/
def readTemporal {α : Type} (f : Field) (read : List PatternItem → String → Option α) (s : String) :
    (formats : List String) → Result α
  | [] => fail (.data f.name (.noFormatMatches s))
  | format :: rest =>
    match readPattern format with
    | .error fault => fail (.data f.name (.invalidFormat format fault))
    | .ok items =>
      match read items s with
      | some a => .ok a
      | none => f.readTemporal read s rest

/-- The integer of 64 bits, with or without sign, that a value denotes. -/
def wireInteger (f : Field) (v : Value) : Result Value :=
  match v with
  | .int n => .ok (.int n)
  | .uint n => .ok (.uint n)
  | v => f.take v "an integer" <| do
    let n ← v.integer?
    ((Value.int64? n).map Value.int).or ((Value.uint64? n).map Value.uint)

/-- A value other than `NULL` and lists on its way to the database. -/
def scalarToWire (f : Field) (v : Value) : Result Value :=
  match f.kind with
  | .integer .. => f.wireInteger v
  | .boolean => (f.take v "a boolean" v.readBoolean.toOption).map .boolean
  | .float .. => (f.take v "a number" v.float?).map .float
  | .decimal _ scale rounding =>
    (f.take v "a decimal" v.decimal?).map fun d =>
      .decimal <| match rounding with
        | some mode => d.round mode scale
        | none => d
  | .char _ | .varchar _ | .text =>
    match v with
    | .text s => .ok (.text s)
    | .uuid u => .ok (.text u.text)
    | v => .error (f.invalid v "a string")
  | .date formats =>
    match v with
    | .date d => .ok (.date d)
    | .datetime d => .ok (.date d.date)
    | .text s => (f.readTemporal Date.read s formats).map .date
    | v => .error (f.invalid v "a date")
  | .time formats =>
    match v with
    | .time t => .ok (.time t)
    | .text s => (f.readTemporal Time.read s formats).map .time
    | v => .error (f.invalid v "a time")
  | .datetime formats =>
    match v with
    | .datetime d => .ok (.datetime d)
    | .date d => .ok (.datetime (.startOf d))
    | .timestamp m => (orPanic m.utc?).map .datetime
    | .text s => (f.readTemporal DateTime.read s formats).map .datetime
    | v => .error (f.invalid v "a datetime")
  | .timestamp clocks =>
    match v with
    | .timestamp m => .ok (.int (Int64.ofInt m.unixSeconds))
    | .datetime d => .ok (.int (Int64.ofInt (d.seconds - clocks.ahead)))
    | .int n => .ok (.int n)
    | .uint n => .ok (.uint n)
    | v => .error (f.invalid v "a timestamp")
  | .uuid => (f.take v "a uuid" v.uuid?).map fun u => .text u.simple

mutual

/-- The value that is bound for an application value. -/
def toWire (f : Field) : Value → Result Value
  | .null => .ok .null
  | .list items => (f.toWireAll items).map .list
  | .boolean b => f.scalarToWire (.boolean b)
  | .int n => f.scalarToWire (.int n)
  | .uint n => f.scalarToWire (.uint n)
  | .float x => f.scalarToWire (.float x)
  | .decimal d => f.scalarToWire (.decimal d)
  | .text s => f.scalarToWire (.text s)
  | .bytes bs => f.scalarToWire (.bytes bs)
  | .date d => f.scalarToWire (.date d)
  | .time t => f.scalarToWire (.time t)
  | .datetime d => f.scalarToWire (.datetime d)
  | .timestamp m => f.scalarToWire (.timestamp m)
  | .uuid u => f.scalarToWire (.uuid u)

/-- The values that are bound for some application values, unless one of them is refused. -/
def toWireAll (f : Field) : List Value → Result (List Value)
  | [] => .ok []
  | v :: vs => do return (← f.toWire v) :: (← f.toWireAll vs)

end

/-- The integer that the database delivers as a number or as text. -/
def appInteger (f : Field) (v : Value) : Result Value :=
  match v with
  | .int n => .ok (.int n)
  | .uint n => .ok (.uint n)
  | v =>
    match v.asText?.bind fun s => readInteger (Text.Utf8.encode s) with
    | some n => f.take v "an integer" (((Value.int64? n).map Value.int).or ((Value.uint64? n).map Value.uint))
    | none => f.take v "an integer" ((v.integer?.bind Value.int64?).map Value.int)

/-- The text, if any, of a delivered value, read by the patterns of the column. -/
def appTemporal {α : Type} (f : Field) (v : Value) (expected : String)
    (read : List PatternItem → String → Option α) (formats : List String) : Result α :=
  match v.asText? with
  | some s => f.readTemporal read s formats
  | none => .error (f.invalid v expected)

/-- The instant of a delivered value. A date and time without clocks is in universal time. -/
def instant (f : Field) (v : Value) : Result Moment :=
  match v with
  | .timestamp m => .ok m
  | .datetime d => .ok ⟨d, 0⟩
  | v => do
    let seconds ← f.take v "epoch seconds" (v.integer?.bind Value.int64?)
    match Moment.ofUnixSeconds? seconds.toInt with
    | some m => .ok m
    | none => fail (.data f.name .timestampRange)

/-- The moment of a delivered value, on the clocks of the column. -/
def appTimestamp (f : Field) (clocks : Clocks) (v : Value) : Result Moment := do
  orPanic ((← f.instant v).at? clocks.ahead)

/-- The application value of a value other than `NULL` that the database delivers. -/
def scalarToApp (f : Field) (v : Value) : Result Value :=
  match f.kind with
  | .integer .. => f.appInteger v
  | .boolean => (f.take v "a boolean" v.readBoolean.toOption).map .boolean
  | .float .. => (f.take v "a number" v.float?).map .float
  | .decimal .. => (f.take v "a decimal" v.decimal?).map .decimal
  | .char _ | .varchar _ | .text => (f.take v "a string" v.readString.toOption).map .text
  | .date formats =>
    match v with
    | .date d => .ok (.date d)
    | .datetime d => .ok (.date d.date)
    | v => (f.appTemporal v "a date" Date.read formats).map .date
  | .time formats =>
    match v with
    | .time t => .ok (.time t)
    | v => (f.appTemporal v "a time" Time.read formats).map .time
  | .datetime formats =>
    match v with
    | .datetime d => .ok (.datetime d)
    | .date d => .ok (.datetime (.startOf d))
    | v => (f.appTemporal v "a datetime" DateTime.read formats).map .datetime
  | .timestamp clocks => (f.appTimestamp clocks v).map .timestamp
  | .uuid => (f.take v "a uuid" v.uuid?).map .uuid

/-- The application value of a value that the database delivers. -/
def toApp (f : Field) (v : Value) : Result Value := if v.isNull then .ok .null else f.scalarToApp v

end Field

end SqlMapper
