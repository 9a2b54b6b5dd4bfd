import SqlMapper.Model.Basic
import SqlMapper.Struct.Table

/-!
# Models of structs

The model of an annotated struct: an attribute for every field of the struct, with the native type that the name of its
type stands for and the field that its column defines, and the table that the chain of calls builds.
-/

namespace SqlMapper.Struct

/-- The native types by the names that they have in a struct. -/
def nativeTypes : List (String × NativeType) :=
  [("i8", .integer .i8), ("i16", .integer .i16), ("i32", .integer .i32), ("i64", .integer .i64),
    ("isize", .integer .isize), ("u8", .integer .u8), ("u16", .integer .u16), ("u32", .integer .u32),
    ("u64", .integer .u64), ("usize", .integer .usize), ("bool", .bool), ("f32", .f32), ("f64", .f64),
    ("Decimal", .decimal), ("String", .string), ("Date", .date), ("Time", .time), ("PrimitiveDateTime", .datetime),
    ("OffsetDateTime", .timestamp), ("Uuid", .uuid)]

/-- The native type of a column. -/
def Column.nativeType? (c : Column) : Option NativeType :=
  (nativeTypes.lookup c.base).map fun t => if c.isOption then .option t else t

/-- The attribute of a column. -/
def Column.member (d : Denotation) (c : Column) : Reading Member := do
  let definition ← c.chain
  match c.nativeType? with
  | some type => return ⟨c.attr, type, definition.field d⟩
  | none => throw (.unmappedType c.base)

/-- The model of a struct, unless its table does not compile. -/
def StructTable.model (d : Denotation) (t : StructTable) : Reading (Result Model) := do
  let members ← t.columns.mapM (Column.member d)
  let definition ← t.chain
  return (definition.declaration d).compile.map fun table => ⟨t.name, table, members⟩

end SqlMapper.Struct
