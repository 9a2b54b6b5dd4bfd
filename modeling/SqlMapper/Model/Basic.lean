import SqlMapper.Record.Saving
import SqlMapper.Table.Declaration
import SqlMapper.Statement.Definition

/-!
# Models

A model ties a table to the native types of its attributes. Its instances hold one value for each attribute, in the
form that the type of the attribute writes. An instance gives its values to a statement, apart from those that the
server or a declared default provides, and is read back from a record.
-/

namespace SqlMapper

namespace NativeType

/-- The type allows the absence of a value. -/
def isOption : NativeType → Bool
  | option _ => true
  | _ => false

/-- The column that stores values of an integer type. -/
def integerField : IntegerType → Field
  | .i8 => .integer .tiny
  | .i16 => .integer .small
  | .i32 => .integer .int
  | .i64 | .isize => .integer .big
  | .u8 => (Field.integer .tiny).unsigned
  | .u16 => (Field.integer .small).unsigned
  | .u32 => (Field.integer .int).unsigned
  | .u64 | .usize => (Field.integer .big).unsigned

/-- The column that stores values of a type when nothing else is declared. Raw bytes have none. -/
def field? : NativeType → Option Field
  | bool => some .boolean
  | integer t => some (integerField t)
  | f32 => some .float
  | f64 => some .double
  | decimal => some (.decimal 10 0)
  | string => some (.varchar 255)
  | bytes => none
  | uuid => some .uuid
  | date => some .date
  | time => some .time
  | datetime => some .datetime
  | timestamp => some .timestamp
  | option t => (field? t).map fun f => { f with nullable := true }

end NativeType

/-- An attribute of a model: its native type and its column. -/
structure Member where
  attr : String
  type : NativeType
  field : Field
deriving Inhabited

namespace Member

/-- An attribute with the column that its type has, changed by some options. -/
def ofType (attr : String) (type : NativeType) (options : Field → Field) : Member :=
  ⟨attr, type, options (type.field?.getD default)⟩

/-- An attribute that the server numbers. -/
def auto (attr : String) (type : IntegerType) : Member :=
  ofType attr (.integer type) fun f => f.primaryKey.autoIncrement

/-- The column has a declared default. -/
def hasDefault (m : Member) : Bool :=
  match m.field.default with
  | .none => false
  | _ => true

/-- The value is a zero, as a number that the server has not given yet. -/
def isUnset : Value → Bool
  | .int n => n == 0
  | .uint n => n == 0
  | _ => false

/-- The value is left to the server or to the declared default. -/
def leavesOut (m : Member) (v : Value) : Bool :=
  if m.field.isAutoIncrement then isUnset v else m.type.isOption && m.hasDefault && v.isNull

end Member

/-- A table with the native types of its attributes. -/
structure Model where
  name : String
  table : Table
  members : List Member
deriving Inhabited

/-- The values of an instance of a model by attribute, in the order of declaration. -/
abbrev Instance := List (String × Value)

namespace Model

/-- The model with the given attributes; the declaration has the options of the table. -/
def declare (d : Declaration) (members : List Member) : Result Model := do
  let table ← { d with fields := members.map fun m => (m.attr, m.field) : Declaration }.compile
  return ⟨d.className, table, members⟩

/-- Reads the values of attributes from a record. -/
def readMembers (m : Model) (r : Record) : List Member → Result Instance
  | [] => .ok []
  | member :: rest => do
    let v ← (Value.readAs member.type ((r.get? member.attr).getD .null)).mapError
      (Error.within s!"Cannot read \x60{member.attr}\x60 of \x60{m.name}\x60")
    return (member.attr, v) :: (← m.readMembers r rest)

/-- The instance that a record describes. A missing attribute reads as `NULL`. -/
def fromRecord (m : Model) (r : Record) : Result Instance := m.readMembers r m.members

/-- The values that an instance gives to a statement. -/
def toValues (m : Model) (x : Instance) : Values :=
  .ofList ((m.members.zip x).filterMap fun (member, p) => if member.leavesOut p.2 then none else some p)

/-- The column of an attribute. -/
def column (m : Model) (attr : String) : Result Column := m.table.column attr

/-- The columns of the attributes. -/
def columns (m : Model) : List Column := m.members.filterMap fun member => (m.table.column member.attr).toOption

/-! ## Statements -/

/-- All rows. -/
def select (m : Model) : Select := .ofTable m.table

/-- Inserts a row. -/
def insert (m : Model) (row : Values) : Insert := { table := m.table, rows := [row] }

/-- Replaces a row. -/
def replace (m : Model) (row : Values) : Insert := { table := m.table, rows := [row], isReplace := true }

/-- The attributes that are read from rows: all of them if none is named. -/
def selection (attrs : List String) : Option (List String) := if attrs.isEmpty then none else some attrs

/-- Inserts rows, reading some attributes from each. -/
def insertAll (m : Model) (rows : List Values) (attrs : List String) : Insert :=
  { table := m.table, rows := rows, columns := selection attrs }

/-- Replaces rows, reading some attributes from each. -/
def replaceAll (m : Model) (rows : List Values) (attrs : List String) : Insert :=
  { table := m.table, rows := rows, columns := selection attrs, isReplace := true }

/-- Assigns values in all rows. -/
def update (m : Model) (values : Values) : Result Update := ({ table := m.table } : Update).setAll values.pairs

/-- Deletes rows. -/
def delete (m : Model) : Delete := { table := m.table }

end Model

end SqlMapper
