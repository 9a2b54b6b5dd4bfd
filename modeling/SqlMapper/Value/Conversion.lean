import SqlMapper.Error

/-!
# Values as native types

Reading a value as one of the types that records are made of. A type takes its own kind of value and the forms in
which a driver may hand it over: integers of any width with a range check, and the text that a database writes for
any column. The result is the value in the one form that the type writes.
-/

namespace SqlMapper

open Number Calendar

/-- Integer types by width and sign. -/
inductive IntegerType where
  | i8
  | i16
  | i32
  | i64
  | isize
  | u8
  | u16
  | u32
  | u64
  | usize
deriving DecidableEq, Repr

namespace IntegerType

/-- Every integer type. -/
def all : List IntegerType := [i8, i16, i32, i64, isize, u8, u16, u32, u64, usize]

/-- The name of the type in messages. -/
def name : IntegerType → String
  | i8 => "i8"
  | i16 => "i16"
  | i32 => "i32"
  | i64 => "i64"
  | isize => "isize"
  | u8 => "u8"
  | u16 => "u16"
  | u32 => "u32"
  | u64 => "u64"
  | usize => "usize"

/-- The width in bits. -/
def bits : IntegerType → Nat
  | i8 | u8 => 8
  | i16 | u16 => 16
  | i32 | u32 => 32
  | i64 | u64 | isize | usize => 64

/-- The type has negative numbers. -/
def isSigned : IntegerType → Bool
  | i8 | i16 | i32 | i64 | isize => true
  | u8 | u16 | u32 | u64 | usize => false

/-- The number lies in the range of the type. -/
def holds (t : IntegerType) (n : Int) : Bool :=
  if t.isSigned then -Int.pow 2 (t.bits - 1) ≤ n && n < Int.pow 2 (t.bits - 1) else 0 ≤ n && n < Int.pow 2 t.bits

/-- A number of the type as a value. -/
def value (t : IntegerType) (n : Int) : Value :=
  if t.isSigned then .int (Int64.ofInt n) else .uint (UInt64.ofNat n.toNat)

end IntegerType

/-- The types that a value can be read as. -/
inductive NativeType where
  | bool
  | integer (t : IntegerType)
  | f32
  | f64
  | decimal
  | string
  | bytes
  | uuid
  | date
  | time
  | datetime
  | timestamp
  | option (t : NativeType)
deriving DecidableEq, Repr, Inhabited

/-- The name of the type in messages. -/
def NativeType.name : NativeType → String
  | bool => "bool"
  | integer t => t.name
  | f32 => "f32"
  | f64 => "f64"
  | decimal => "rust_decimal::decimal::Decimal"
  | string => "alloc::string::String"
  | bytes => "alloc::vec::Vec<u8>"
  | uuid => "uuid::Uuid"
  | date => "time::date::Date"
  | time => "time::time::Time"
  | datetime => "time::plain_date_time::PlainDateTime"
  | timestamp => "time::offset_date_time::OffsetDateTime"
  | option t => t.name

/-- The types that are not built from others, by their short names. -/
def NativeType.simple : List (String × NativeType) :=
  [("bool", bool), ("f32", f32), ("f64", f64), ("decimal", decimal), ("string", string), ("bytes", bytes),
    ("uuid", uuid), ("date", date), ("time", time), ("datetime", datetime), ("timestamp", timestamp)] ++
    IntegerType.all.map fun t => (t.name, integer t)

namespace Value

/-- The integer that a value denotes: a number, a truth value, a decimal without fraction, or a text that is one. -/
def integer? : Value → Option Int
  | int n => some n.toInt
  | uint n => some n.toNat
  | boolean b => some (if b then 1 else 0)
  | decimal d => d.toInt?
  | text s => readInteger (Text.Utf8.encode s)
  | bytes bs => readInteger bs
  | _ => none

/-- The value does not have a form that the type reads. -/
def mismatch (v : Value) (t : NativeType) : Error := (Cause.conversion (.mismatch v t.name) : Cause)

/-- The integer of a type that a value denotes. -/
def readInteger (t : IntegerType) (v : Value) : Result Int :=
  match v.integer? with
  | none => .error (v.mismatch (.integer t))
  | some n => if t.holds n then .ok n else fail (.conversion (.outOfRange n t.name))

/-- The truth value that a value denotes; the integers 0 and 1 are truth values too. -/
def readBoolean (v : Value) : Result Bool :=
  match v with
  | boolean b => .ok b
  | v =>
    match v.integer? with
    | some 0 => .ok false
    | some 1 => .ok true
    | _ => .error (v.mismatch .bool)

/-- The floating point number that a value denotes. -/
def float? : Value → Option Float
  | float x => some x
  | int n => some (floatOfInt n.toInt)
  | uint n => some (floatOfInt n.toNat)
  | decimal d => some d.toFloat
  | text s => readFloat (Text.Utf8.encode s)
  | bytes bs => readFloat bs
  | _ => none

/-- The decimal that a value denotes. -/
def decimal? : Value → Option Decimal
  | decimal d => some d
  | int n => some (.ofInt64 n)
  | uint n => some (.ofUInt64 n)
  | float x => Decimal.ofFloat? x
  | text s => Decimal.read s
  | bytes bs => (Text.Utf8.decode? bs).bind Decimal.read
  | _ => none

/-- The text that a value holds. An identifier has its groups. -/
def readString (v : Value) : Result String :=
  match v with
  | text s => .ok s
  | bytes bs =>
    match Text.Utf8.decode bs with
    | .ok s => .ok s
    | .error fault =>
      .error ⟨.other fault.message, ["Cannot convert bytes that are not valid UTF-8 into String"]⟩
  | uuid u => .ok u.text
  | v => .error (v.mismatch .string)

/-- The identifier that a value denotes: its sixteen bytes or one of its texts. -/
def uuid? : Value → Option Uuid
  | uuid u => some u
  | bytes bs => if bs.length = 16 then Uuid.ofBytes? bs else (Text.Utf8.decode? bs).bind Uuid.read
  | text s => Uuid.read s
  | _ => none

/-- The moment that a value denotes. A date and time is taken in universal time, an integer in seconds. -/
def readTimestamp (v : Value) : Result Moment :=
  match v with
  | timestamp m => .ok m
  | datetime d => .ok ⟨d, 0⟩
  | int n =>
    match Moment.ofUnixSeconds? n.toInt with
    | some m => .ok m
    | none => fail (.conversion .timestampRange)
  | v => .error (v.mismatch .timestamp)

/-- An optional reading as a result. -/
def readBy {α : Type} (v : Value) (t : NativeType) (r : Option α) (write : α → Value) : Result Value :=
  match r with
  | some a => .ok (write a)
  | none => .error (v.mismatch t)

/-- Reads a value as a type, and gives it in the form that the type writes. -/
def readAs : NativeType → Value → Result Value
  | .bool, v => v.readBoolean.map boolean
  | .integer t, v => (v.readInteger t).map t.value
  | .f32, v => v.readBy .f32 v.float? fun x => float x.toFloat32.toFloat
  | .f64, v => v.readBy .f64 v.float? float
  | .decimal, v => v.readBy .decimal v.decimal? decimal
  | .string, v => v.readString.map text
  | .bytes, v =>
    match v with
    | bytes bs => .ok (bytes bs)
    | text s => .ok (bytes (Text.Utf8.encode s))
    | v => .error (v.mismatch .bytes)
  | .uuid, v => v.readBy .uuid v.uuid? uuid
  | .date, v =>
    match v with
    | date d => .ok (date d)
    | datetime d => .ok (date d.date)
    | v => .error (v.mismatch .date)
  | .time, v =>
    match v with
    | time t => .ok (time t)
    | v => .error (v.mismatch .time)
  | .datetime, v =>
    match v with
    | datetime d => .ok (datetime d)
    | date d => .ok (datetime (.startOf d))
    | v => .error (v.mismatch .datetime)
  | .timestamp, v => v.readTimestamp.map timestamp
  | .option t, v =>
    match v with
    | null => .ok null
    | v => readAs t v

end Value

end SqlMapper
