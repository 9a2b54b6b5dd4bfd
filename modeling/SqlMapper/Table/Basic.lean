import SqlMapper.Field.Definition
import SqlMapper.Index
import SqlMapper.Ordered

/-!
# Tables

A compiled table: its fields by attribute, in order, its one primary key, its indexes and its options. Nothing changes
a table after it is compiled.
-/

namespace SqlMapper

/-- The name of a table, possibly inside a database. -/
structure TableRef where
  db : Option String
  name : String
deriving DecidableEq, Repr, Inhabited

/-- The name as statements write it. -/
def TableRef.text (r : TableRef) : String :=
  (match r.db with
    | some db => Literal.identifier db ++ "."
    | none => "") ++ Literal.identifier r.name

/-- The field that identifies the rows of a table. -/
structure PrimaryKey where
  attr : String
  field : Field
  isAutoIncrement : Bool
  /-- The first number that the server gives. -/
  seed : Nat
deriving Inhabited

/-- A compiled table. -/
structure Table where
  ref : TableRef
  fields : Ordered Field
  primaryKey : PrimaryKey
  indexes : List Index
  engine : String
  charset : String
  comment : String
deriving Inhabited

/-- A column of a table, as expressions refer to it. -/
structure Column where
  table : TableRef
  attr : String
  field : Field
deriving Inhabited

/-- The name of the column in the database. -/
def Column.name (c : Column) : String := c.field.name

namespace Table

/-- The name of the table. -/
def name (t : Table) : String := t.ref.name

/-- The field of an attribute. -/
def field (t : Table) (attr : String) : Result Field :=
  match t.fields.get? attr with
  | some f => .ok f
  | none => fail (.unknownColumn t.name attr)

/-- The column of an attribute. -/
def column (t : Table) (attr : String) : Result Column :=
  (t.field attr).map fun f => ⟨t.ref, attr, f⟩

/-- The columns in the order of declaration. -/
def columns (t : Table) : List Column := t.fields.pairs.map fun (attr, f) => ⟨t.ref, attr, f⟩

/-- The column of the primary key. -/
def primaryKeyColumn (t : Table) : Column := ⟨t.ref, t.primaryKey.attr, t.primaryKey.field⟩

/-- The attribute that is stored in a column. -/
def attributeOf (t : Table) (column : String) : Option String :=
  (t.fields.pairs.find? fun p => p.2.name = column).map Prod.fst

end Table

end SqlMapper
