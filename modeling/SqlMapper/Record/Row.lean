import SqlMapper.Record.Basic
import SqlMapper.Running.Executor
import SqlMapper.Expression.Basic

/-!
# Rows in a shape

A fetched row becomes a record of its table, a map from names to values, or a list of values. Columns of the table are
named by their attributes, other columns keep their labels. A row with a column that is not one of the table's cannot
be a record; it becomes a map instead.
-/

namespace SqlMapper

/-- A fetched row in a shape. -/
inductive Row where
  | record (r : Record)
  | map (values : Values)
  | tuple (values : List Value)

namespace Row

/-- The value of a name. A row of bare values has no names. -/
def get? : Row → String → Option Value
  | record r, name => r.get? name
  | map values, name => values.get? name
  | tuple _, _ => none

/-- The record that the row is. -/
def record? : Row → Option Record
  | record r => some r
  | map _ | tuple _ => none

/-- The values by name. -/
def map? : Row → Option Values
  | record r => some r.values
  | map values => some values
  | tuple _ => none

/-- The values alone. -/
def toTuple : Row → List Value
  | record r => r.values.values
  | map values => values.values
  | tuple values => values

/-- The name of a column in a map: its attribute if it has one. -/
def columnName (t : Table) (label : String) : String := (t.attributeOf label).getD label

/-- The values of a fetched row by attribute or label. -/
def named (t : Table) (row : FetchedRow) : Values :=
  .ofList (row.pairs.map fun (label, v) => (columnName t label, v))

/-- Every column of the row belongs to the table. -/
def fits (t : Table) (row : FetchedRow) : Bool := row.labels.all fun label => (t.attributeOf label).isSome

/-- Converts the values of columns by their fields and puts them into a record. -/
def fill (r : Record) : List (String × Value) → Result Record
  | [] => .ok r
  | (label, v) :: rest =>
    match r.table.attributeOf label with
    | none => fill r rest
    | some attr => do
      let f ← r.table.field attr
      fill (r.load attr (← f.toApp v)) rest

/-- A fetched row in the wanted shape. -/
def load (t : Table) (row : FetchedRow) : Shape → Result Row
  | .tuple => .ok (tuple row.values)
  | .map => .ok (map (named t row))
  | .model => if fits t row then (fill (.ofTable t) row.pairs).map record else .ok (map (named t row))

/-- What loading a row reports. -/
def loadLog (t : Table) (row : FetchedRow) : Shape → Log
  | .model =>
    if fits t row then []
    else [.debug s!"Row does not match the fields of \x60{t.name}\x60, loading it as a map"]
  | .tuple | .map => []

/-- Loads a row and reports what there is to report. -/
def loading {σ : Type} (t : Table) (row : FetchedRow) (shape : Shape) : Action σ Row := do
  Action.report (loadLog t row shape)
  Action.ofResult (load t row shape)

/-- Loads rows one after the other, up to the first that does not load. -/
def loadingAll {σ : Type} (t : Table) (shape : Shape) : List FetchedRow → Action σ (List Row)
  | [] => return []
  | row :: rest => do return (← loading t row shape) :: (← loadingAll t shape rest)

end Row

end SqlMapper
