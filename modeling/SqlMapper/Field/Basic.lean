import SqlMapper.Value.Conversion

/-!
# Fields

The declaration of one column: its type with the options of the type, and what an insert writes when a row does not
provide a value. A generator is a stream of values that is drawn from once per inserted row; how far each stream has
been read is kept apart from the declarations, in a supply.
-/

namespace SqlMapper

open Number Calendar

/-- Integer columns by width. -/
inductive IntegerSize where
  | tiny
  | small
  | medium
  | int
  | big
deriving DecidableEq, Repr

/-- The width that the database shows for an integer column when none is declared. -/
def IntegerSize.defaultLength : IntegerSize → (isUnsigned : Bool) → Nat
  | tiny, false => 4
  | tiny, true => 3
  | small, false => 6
  | small, true => 5
  | medium, false => 9
  | medium, true => 8
  | int, false => 11
  | int, true => 10
  | big, _ => 20

/-- The clocks on which the moments of a timestamp column are read: those of universal time, or those of the process,
which are `ahead` seconds ahead of them. -/
inductive Clocks where
  | universal
  | process (ahead : Int)
deriving DecidableEq, Repr

/-- How far the clocks are ahead of universal time, in seconds. -/
def Clocks.ahead : Clocks → Int
  | universal => 0
  | process ahead => ahead

/-- The type of a column with the options that only it has. -/
inductive FieldKind where
  | integer (size : IntegerSize) (length : Option Nat)
  | boolean
  | float (double : Bool) (precision : Option (Nat × Nat))
  | decimal (precision scale : Nat) (rounding : Option Decimal.Rounding)
  | char (length : Nat)
  | varchar (length : Nat)
  | text
  | date (formats : List String)
  | time (formats : List String)
  | datetime (formats : List String)
  /-- Seconds since the start of 1970. -/
  | timestamp (clocks : Clocks)
  /-- The 32 digits of an identifier in a text column. -/
  | uuid
deriving DecidableEq, Repr

namespace FieldKind

/-- The column holds integers. -/
def isInteger : FieldKind → Bool
  | integer .. => true
  | _ => false

/-- The column holds long texts, which cannot be indexed. -/
def isText : FieldKind → Bool
  | text => true
  | _ => false

/-- Patterns of dates that a date column takes. -/
def dateFormats : List String := ["[year]-[month]-[day]", "[year]/[month]/[day]"]

/-- Patterns of times that a time column takes. -/
def timeFormats : List String :=
  ["[hour]:[minute]:[second].[subsecond]", "[hour]:[minute]:[second]", "[hour]:[minute]"]

/-- Patterns of dates with a time that a datetime column takes. -/
def datetimeFormats : List String :=
  ["[year]-[month]-[day] [hour]:[minute]:[second].[subsecond]",
    "[year]-[month]-[day] [hour]:[minute]:[second]",
    "[year]-[month]-[day]T[hour]:[minute]:[second].[subsecond]",
    "[year]-[month]-[day]T[hour]:[minute]:[second]"]

end FieldKind

/-- A stream of values for a column: the value at each position, at the given instant. -/
structure Generator where
  value : Moment → Nat → Value

namespace Generator

/-- Integers from `start` on, `step` apart. -/
def counting (start step : Int) : Generator := ⟨fun _ position => .int (Int64.ofInt (start + step * position))⟩

/-- One value again and again. -/
def constant (v : Value) : Generator := ⟨fun _ _ => v⟩

/-- The current instant as a column of the given type sees it. No process lives to see the end of the calendar, so that
its clocks show the instant, which else stands as it is. -/
def clock (kind : FieldKind) : Generator where
  value now _ :=
    match kind with
    | .date _ => .date now.wall.date
    | .time _ => .time now.wall.time
    | .datetime _ => .datetime now.wall
    | .timestamp clocks => .timestamp ((now.at? clocks.ahead).getD now)
    | _ => .timestamp now

end Generator

/-- What an insert writes when a row does not provide a value. -/
inductive FieldDefault where
  | none
  | value (v : Value)
  /-- An expression that the server evaluates. -/
  | raw (sql : String)
  /-- The next value of the stream with the given identity. -/
  | generated (source : Nat) (generator : Generator)

/-- The declaration of a column. -/
structure Field where
  name : String
  kind : FieldKind
  nullable : Bool
  default : FieldDefault
  comment : String
  isPrimaryKey : Bool
  isAutoIncrement : Bool
  isUnsigned : Bool
  isZerofill : Bool
  charset : Option String

namespace Field

/-- A column of a type without any option. Its name is filled in by the table. -/
def ofKind (kind : FieldKind) : Field :=
  { name := "", kind := kind, nullable := false, default := .none, comment := "", isPrimaryKey := false
    isAutoIncrement := false, isUnsigned := false, isZerofill := false, charset := Option.none }

instance : Inhabited Field := ⟨ofKind .text⟩

/-- An integer column. -/
def integer (size : IntegerSize) : Field := ofKind (.integer size Option.none)

/-- The column is the primary key, and then it is not null. -/
def primaryKey (f : Field) : Field := { f with isPrimaryKey := true, nullable := false }

/-- The server numbers the rows in this column, and then it is not null. -/
def autoIncrement (f : Field) : Field := { f with isAutoIncrement := true, nullable := false }

/-- Numbers without sign. -/
def unsigned (f : Field) : Field := { f with isUnsigned := true }

/-- A numbered primary key. -/
def auto : Field := (integer .int).primaryKey.autoIncrement

/-- A numbered primary key of 64 bits. -/
def bigAuto : Field := (integer .big).primaryKey.autoIncrement

/-- A column of truth values. -/
def boolean : Field := ofKind .boolean

/-- A column of floating point numbers of 32 bits. -/
def float : Field := ofKind (.float false Option.none)

/-- A column of floating point numbers of 64 bits. -/
def double : Field := ofKind (.float true Option.none)

/-- A column of decimals with a number of digits and a number of decimals. -/
def decimal (precision scale : Nat) : Field := ofKind (.decimal precision scale Option.none)

/-- A column of texts of one length. -/
def char (length : Nat) : Field := ofKind (.char length)

/-- A column of texts up to a length. -/
def varchar (length : Nat) : Field := ofKind (.varchar length)

/-- A column of long texts. -/
def text : Field := ofKind .text

/-- A column of dates. -/
def date : Field := ofKind (.date FieldKind.dateFormats)

/-- A column of times of the day. -/
def time : Field := ofKind (.time FieldKind.timeFormats)

/-- A column of dates with a time. -/
def datetime : Field := ofKind (.datetime FieldKind.datetimeFormats)

/-- A column of identifiers. -/
def uuid : Field := ofKind .uuid

/-- Seconds since the start of 1970 in an unsigned column. -/
def timestamp : Field := (ofKind (.timestamp .universal)).unsigned

/-- The columns of the types that need no argument, by the names of the types. -/
def plainTypes : List (String × Field) :=
  [("tinyint", integer .tiny), ("smallint", integer .small), ("mediumint", integer .medium), ("int", integer .int),
    ("bigint", integer .big), ("auto", auto), ("big_auto", bigAuto), ("boolean", boolean), ("float", float),
    ("double", double), ("text", text), ("date", date), ("time", time), ("datetime", datetime),
    ("timestamp", timestamp), ("uuid", uuid)]

/-- The display width, of an integer column. -/
def withLength (f : Field) (length : Nat) : Field :=
  match f.kind with
  | .integer size _ => { f with kind := .integer size (some length) }
  | _ => f

/-- The number of digits and of decimals, of a floating point column. -/
def withPrecision (f : Field) (digits decimals : Nat) : Field :=
  match f.kind with
  | .float double _ => { f with kind := .float double (some (digits, decimals)) }
  | _ => f

/-- How decimals are rounded to the scale of the column before they are written, of a decimal column. -/
def withRounding (f : Field) (rounding : Decimal.Rounding) : Field :=
  match f.kind with
  | .decimal precision scale _ => { f with kind := .decimal precision scale (some rounding) }
  | _ => f

/-- The patterns that texts may follow, of a date, time or datetime column. -/
def withFormats (f : Field) (formats : List String) : Field :=
  match f.kind with
  | .date _ => { f with kind := .date formats }
  | .time _ => { f with kind := .time formats }
  | .datetime _ => { f with kind := .datetime formats }
  | _ => f

/-- Whether moments are read in universal time, of a timestamp column, or else in a process whose clocks are `ahead`
seconds ahead of it. -/
def withUtc (f : Field) (utc : Bool) (ahead : Int := 0) : Field :=
  match f.kind with
  | .timestamp _ => { f with kind := .timestamp (if utc then .universal else .process ahead) }
  | _ => f

/-- The default that the server has for a timestamp column that is not null and declares none. -/
def implicitDefault (f : Field) : Option String :=
  match f.kind, f.nullable with
  | .timestamp .universal, false => some "(UNIX_TIMESTAMP(UTC_TIMESTAMP()))"
  | .timestamp (.process _), false => some "(UNIX_TIMESTAMP())"
  | _, _ => Option.none

end Field

/-- How many values of each stream have been drawn, and what time it is. -/
structure Supply where
  drawn : Nat → Nat
  now : Moment

namespace Supply

/-- Nothing has been drawn yet. -/
def start : Supply := ⟨fun _ => 0, default⟩

/-- The next value of a stream. -/
def draw (s : Supply) (source : Nat) (generator : Generator) : Value × Supply :=
  (generator.value s.now (s.drawn source),
    { s with drawn := fun other => if other = source then s.drawn other + 1 else s.drawn other })

end Supply

/-- The value that an insert writes for a column that a row leaves out, none if the server decides. -/
def Field.resolveDefault (f : Field) (s : Supply) : Option Value × Supply :=
  match f.default with
  | .none => (some .null, s)
  | .value v => (some v, s)
  | .raw _ => (none, s)
  | .generated source generator =>
    let (v, s) := s.draw source generator
    (some v, s)

/-- The declared default as messages show it. -/
def FieldDefault.shown : FieldDefault → String
  | none => "None"
  | value v => "Value(" ++ v.shown ++ ")"
  | raw sql => "Raw(" ++ Text.Quoted.quote sql ++ ")"
  | generated .. => "Generator(..)"

end SqlMapper
