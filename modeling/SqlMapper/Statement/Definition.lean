import SqlMapper.Statement.Query
import SqlMapper.Table.Basic

/-!
# Table definitions

Creating a table with its fields, primary key and indexes, dropping a table, and asking the server what it knows of
one.
-/

namespace SqlMapper

/-- Creates a table. -/
structure CreateTable where
  table : Table
  /-- An existing table is no error. -/
  safe : Bool := false
  temporary : Bool := false

namespace CreateTable

/-- The definitions of the columns. -/
def columns : List (String × Field) → Result (List String)
  | [] => .ok []
  | (_, f) :: rest => do return (← f.definition) :: (← columns rest)

/-- The statement. -/
def render (c : CreateTable) : Result Query := do
  let t := c.table
  let columns ← columns t.fields.pairs
  let key := ", PRIMARY KEY (" ++ Literal.identifier t.primaryKey.field.name ++ ")"
  let indexes := String.join (t.indexes.map fun i => ", " ++ i.definition)
  let seed := if t.primaryKey.isAutoIncrement then " AUTO_INCREMENT=" ++ Nat.repr t.primaryKey.seed else ""
  return ⟨Query.terminated ("CREATE " ++ (if c.temporary then "TEMPORARY " else "") ++ "TABLE " ++
    (if c.safe then "IF NOT EXISTS " else "") ++ t.ref.text ++ " (" ++ Text.commaSeparated columns ++ key ++ indexes ++
    ") ENGINE=" ++ t.engine ++ seed ++ " DEFAULT CHARSET=" ++ t.charset ++ " COMMENT=" ++ Literal.quoted t.comment),
    .none⟩

/-- What writing the definitions of columns reports, up to the first fault. -/
def columnsLog : List (String × Field) → Log
  | [] => []
  | (_, f) :: rest =>
    match f.definition with
    | .ok _ => f.definitionLog ++ columnsLog rest
    | .error _ => []

end CreateTable

/-- Drops a table. -/
structure DropTable where
  table : TableRef
  /-- A missing table is no error. -/
  safe : Bool := false
  temporary : Bool := false

/-- The statement. -/
def DropTable.render (d : DropTable) : Query :=
  ⟨Query.terminated ("DROP " ++ (if d.temporary then "TEMPORARY " else "") ++ "TABLE " ++
    (if d.safe then "IF EXISTS " else "") ++ d.table.text), .none⟩

/-- What is asked about a table. -/
inductive TableFact where
  | definition
  | columns
  | indexes
deriving DecidableEq, Repr

/-- The statement that asks for a fact. -/
def TableFact.render (fact : TableFact) (table : TableRef) : Query :=
  let question := match fact with
    | .definition => "SHOW CREATE TABLE "
    | .columns => "SHOW FULL COLUMNS FROM "
    | .indexes => "SHOW INDEX FROM "
  ⟨Query.terminated (question ++ table.text), .none⟩

end SqlMapper
