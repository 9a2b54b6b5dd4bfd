import SqlMapper.Field.Wire
import SqlMapper.Value.Literal

/-!
# Column definitions

A field as a table definition writes it: name, type, options, default and comment.
-/

namespace SqlMapper

namespace Field

/-- What stands in a statement for a value of the column: its bound form, or the value itself if it does not fit.
Nothing stands for a value whose conversion panics. -/
def displayed (f : Field) (v : Value) : Option Value :=
  match f.toWire v with
  | .ok w => some w
  | .error e => if e.isPanic then none else some v

/-- The literal of a value of the column. -/
def display (f : Field) (v : Value) : Option String := (f.displayed v).bind Value.literal

/-- The name of the type of a column. -/
def typeName (f : Field) : String :=
  match f.kind with
  | .integer size length =>
    let name := match size with
      | .tiny => "tinyint"
      | .small => "smallint"
      | .medium => "mediumint"
      | .int => "int"
      | .big => "bigint"
    name ++ "(" ++ Nat.repr (length.getD (size.defaultLength f.isUnsigned)) ++ ")"
  | .boolean => "tinyint(1)"
  | .float double precision =>
    (if double then "double" else "float") ++
      match precision with
      | some (digits, decimals) => "(" ++ Nat.repr digits ++ "," ++ Nat.repr decimals ++ ")"
      | none => ""
  | .decimal precision scale _ => "decimal(" ++ Nat.repr precision ++ "," ++ Nat.repr scale ++ ")"
  | .char length => "char(" ++ Nat.repr length ++ ")"
  | .varchar length => "varchar(" ++ Nat.repr length ++ ")"
  | .text => "text"
  | .date _ => "date"
  | .time _ => "time"
  | .datetime _ => "datetime"
  | .timestamp _ => "int(10)"
  | .uuid => "varchar(40)"

/-- The default of a column in its definition, unless its literal is a panic. -/
def defaultClause (f : Field) : Option String :=
  match f.default with
  | .value v => (f.display v).map fun s => " DEFAULT " ++ s
  | .raw sql => some (" DEFAULT " ++ sql)
  | .none | .generated .. =>
    if f.nullable then some " DEFAULT NULL"
    else
      match f.implicitDefault with
      | some sql => some (" DEFAULT " ++ sql)
      | none => some ""

/-- The definition of a column that has a name, around its default. -/
def namedDefinition (f : Field) (defaultClause : String) : String :=
  Literal.identifier f.name ++ " " ++ f.typeName ++ (if f.isUnsigned then " unsigned" else "") ++
    (if f.isZerofill then " zerofill" else "") ++
    (match f.charset with
      | some charset => " CHARACTER SET " ++ charset
      | none => "") ++
    (if f.nullable then "" else " NOT NULL") ++ (if f.isAutoIncrement then " AUTO_INCREMENT" else "") ++
    defaultClause ++ if f.comment.isEmpty then "" else " COMMENT " ++ Literal.quoted f.comment

/-- The definition of a column, which needs a name. -/
def definition (f : Field) : Result String :=
  if f.name.isEmpty then fail (.usage .unnamedColumn) else (orPanic f.defaultClause).map f.namedDefinition

/-- What writing the definition reports. -/
def definitionLog (f : Field) : Log :=
  match f.name.isEmpty, f.default with
  | false, .value v => ((f.displayed v).map Value.literalLog).getD []
  | _, _ => []

end Field

end SqlMapper
