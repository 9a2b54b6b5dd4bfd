import SqlMapper.Source.Token
import SqlMapper.Table.Declaration
import SqlMapper.Text.Quoted

/-!
# Builder chains

The expression that builds the table of a struct: calls that set options, one after another, each with the literals
that the declaration was written with. A chain has a text, and a meaning once the literals have one: the declaration
that its calls build.
-/

namespace SqlMapper.Struct

open Source

/-- What literals and expressions denote, in a process whose clocks are `ahead` seconds ahead of universal time. -/
structure Denotation where
  text : String → String
  number : String → Nat
  switch : String → Bool
  value : List Token → Value
  ahead : Int

/-- The call that begins the definition of a field. -/
inductive FieldType where
  | tinyint
  | smallint
  | int
  | bigint
  | boolean
  | float
  | double
  | decimal (precision scale : String)
  | varchar (length : String)
  | char (length : String)
  | text
  | date
  | time
  | datetime
  | timestamp
  | uuid
deriving DecidableEq, Repr

/-- A call that sets an option of a field. -/
inductive FieldCall where
  | name (literal : String)
  | nullable
  | primaryKey
  | autoIncrement
  | unsigned
  | zerofill
  | length (literal : String)
  | utc (literal : String)
  | charset (literal : String)
  | comment (literal : String)
  | default (expression : List Token)
  | defaultRaw (literal : String)

/-- The definition of a field. -/
structure FieldChain where
  type : FieldType
  calls : List FieldCall

/-- A call that sets an option of a table or adds to it. -/
inductive TableCall where
  | name (literal : String)
  | db (literal : String)
  | engine (literal : String)
  | charset (literal : String)
  | comment (literal : String)
  | autoIncrement (literal : String)
  | field (attr : String) (definition : FieldChain)
  | index (isUnique : Bool) (name : String) (columns : List String)

/-- The definition of a table. -/
structure TableChain where
  name : String
  calls : List TableCall

/-! ## Texts -/

/-- A call with its arguments. -/
def callText (name : String) (arguments : List String) : String :=
  name ++ "(" ++ String.intercalate "," arguments ++ ")"

/-- The call as it is written. -/
def FieldType.written : FieldType → String
  | tinyint => callText "tinyint" []
  | smallint => callText "smallint" []
  | int => callText "int" []
  | bigint => callText "bigint" []
  | boolean => callText "boolean" []
  | float => callText "float" []
  | double => callText "double" []
  | decimal precision scale => callText "decimal" [precision, scale]
  | varchar length => callText "varchar" [length]
  | char length => callText "char" [length]
  | text => callText "text" []
  | date => callText "date" []
  | time => callText "time" []
  | datetime => callText "datetime" []
  | timestamp => callText "timestamp" []
  | uuid => callText "uuid" []

/-- The call as it is written. -/
def FieldCall.written : FieldCall → String
  | name literal => callText ".name" [literal]
  | nullable => callText ".nullable" []
  | primaryKey => callText ".primary_key" []
  | autoIncrement => callText ".auto_increment" []
  | unsigned => callText ".unsigned" []
  | zerofill => callText ".zerofill" []
  | length literal => callText ".length" [literal]
  | utc literal => callText ".utc" [literal]
  | charset literal => callText ".charset" [literal]
  | comment literal => callText ".comment" [literal]
  | default expression => callText ".default" [String.ofList (textOf expression)]
  | defaultRaw literal => callText ".default_raw" [literal]

/-- The definition as it is written. -/
def FieldChain.written (c : FieldChain) : String :=
  "::keel::Field::" ++ c.type.written ++ String.join (c.calls.map FieldCall.written)

/-- The call as it is written. -/
def TableCall.written : TableCall → String
  | name literal => callText ".name" [literal]
  | db literal => callText ".db" [literal]
  | engine literal => callText ".engine" [literal]
  | charset literal => callText ".charset" [literal]
  | comment literal => callText ".comment" [literal]
  | autoIncrement literal => callText ".auto_increment" [literal]
  | field attr definition => callText ".field" [Text.Quoted.quote attr, definition.written]
  | index isUnique title columns =>
    callText ".index"
      [callText (if isUnique then "::keel::Index::unique" else "::keel::Index::key")
        [title, "[" ++ String.intercalate "," columns ++ "]"]]

/-- The definition as it is written. -/
def TableChain.written (c : TableChain) : String :=
  callText "::keel::Table::builder" [Text.Quoted.quote c.name] ++ String.join (c.calls.map TableCall.written)

/-! ## Meanings -/

/-- The field that the call begins with. -/
def FieldType.field (d : Denotation) : FieldType → Field
  | tinyint => .integer .tiny
  | smallint => .integer .small
  | int => .integer .int
  | bigint => .integer .big
  | boolean => .boolean
  | float => .float
  | double => .double
  | decimal precision scale => .decimal (d.number precision) (d.number scale)
  | varchar length => .varchar (d.number length)
  | char length => .char (d.number length)
  | text => .text
  | date => .date
  | time => .time
  | datetime => .datetime
  | timestamp => .timestamp
  | uuid => .uuid

/-- What the call makes of a field. -/
def FieldCall.apply (d : Denotation) (f : Field) : FieldCall → Field
  | name literal => { f with name := d.text literal }
  | nullable => { f with nullable := true }
  | primaryKey => f.primaryKey
  | autoIncrement => f.autoIncrement
  | unsigned => f.unsigned
  | zerofill => { f with isZerofill := true }
  | length literal => f.withLength (d.number literal)
  | utc literal => f.withUtc (d.switch literal) d.ahead
  | charset literal => { f with charset := some (d.text literal) }
  | comment literal => { f with comment := d.text literal }
  | default expression => { f with default := .value (d.value expression) }
  | defaultRaw literal => { f with default := .raw (d.text literal) }

/-- The field that the definition builds. -/
def FieldChain.field (d : Denotation) (c : FieldChain) : Field := c.calls.foldl (FieldCall.apply d) (c.type.field d)

/-- What the call makes of a declaration. -/
def TableCall.apply (d : Denotation) (t : Declaration) : TableCall → Declaration
  | name literal => { t with name := some (d.text literal) }
  | db literal => { t with db := some (d.text literal) }
  | engine literal => { t with engine := some (d.text literal) }
  | charset literal => { t with charset := some (d.text literal) }
  | comment literal => { t with comment := some (d.text literal) }
  | autoIncrement literal => { t with autoIncrement := some (d.number literal) }
  | field attr definition => { t with fields := t.fields ++ [(attr, definition.field d)] }
  | index isUnique title columns =>
    let i := if isUnique then Index.unique else .ofColumns
    { t with indexes := t.indexes ++ [i (d.text title) (columns.map d.text)] }

/-- The declaration that the definition builds. -/
def TableChain.declaration (d : Denotation) (c : TableChain) : Declaration :=
  c.calls.foldl (TableCall.apply d) { className := c.name }

end SqlMapper.Struct
