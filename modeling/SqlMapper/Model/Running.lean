import SqlMapper.Model.Basic
import SqlMapper.Running.Fetching
import SqlMapper.Statement

/-!
# Running models

The everyday statements of a model on an executor: its table is created, described and dropped, rows are added, and
instances are found by their keys.
-/

namespace SqlMapper

namespace Model

variable {σ : Type}

/-- Creates the table. -/
def create (m : Model) (e : Executor σ) (safe : Bool) : Action σ Unit := do
  let _ ← e.execute (← (Statement.create { table := m.table, safe := safe }).rendering)

/-- Drops the table. -/
def dropTable (m : Model) (e : Executor σ) (safe : Bool) : Action σ Unit := do
  let _ ← e.execute ({ table := m.table.ref, safe := safe } : DropTable).render

/-- What the server knows of the table. -/
def describe (m : Model) (e : Executor σ) (fact : TableFact) : Action σ (List FetchedRow) :=
  e.fetch (fact.render m.table.ref) none

/-- The select of the row with a key. -/
def withKey (m : Model) (key : Value) : Select := { m.select with filter := some (Record.keyIs m.table key) }

/-- The instance with a key. -/
def get (m : Model) (e : Executor σ) (key : Value) : Action σ (Option Instance) :=
  (m.withKey key).firstAs e m.fromRecord

/-- The columns of some attributes, up to the first that the table does not have. -/
def columnsOf (m : Model) : List String → Result (List Expr)
  | [] => .ok []
  | attr :: rest => do return .column (← m.column attr) :: (← m.columnsOf rest)

/-- The rows with some keys, restricted to some attributes if any are named. -/
def getAll (m : Model) (e : Executor σ) (keys : List Value) (attrs : List String) : Action σ (List Row) := do
  let columns ← Action.ofResult (m.columnsOf attrs)
  if keys.isEmpty then return []
  let isKey ← Action.ofResult ((Expr.column m.table.primaryKeyColumn).isIn (.value (.list keys)))
  ({ m.select with filter := some isKey, columns := columns, limit := some keys.length } : Select).all e

/-- Adds a row. -/
def add (m : Model) (e : Executor σ) (row : Values) : Action σ RowsAffected := (m.insert row).run e

/-- Adds rows in one statement. -/
def addAll (m : Model) (e : Executor σ) (rows : List Values) : Action σ RowsAffected := (m.insertAll rows []).run e

end Model

end SqlMapper
