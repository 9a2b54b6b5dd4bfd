import SqlMapper.Statement.Query
import SqlMapper.Table.Basic

/-!
# Inserts

Inserting or replacing one row, or a batch of rows in one statement. A row is first normalized against the table:
an attribute that it leaves out takes its default, a column that the server fills is left out of the statement, and
every value is converted by its field. All rows of a batch have to come out with the same columns.
-/

namespace SqlMapper

/-- Attribute values of a row in order of arrival. -/
abbrev Values := Ordered Value

/-- Work that may draw values from streams and may fail. What was drawn before a failure stays drawn. -/
abbrev Drawing (α : Type) := ExceptT Error (StateM Supply) α

/-- Fails with a cause. -/
def Drawing.fail {α : Type} (cause : Cause) : Drawing α := throw ⟨cause, []⟩

/-- Rows to be inserted. -/
structure Insert where
  table : Table
  rows : List Values := []
  /-- The attributes that are read from the rows; the others count as left out. -/
  columns : Option (List String) := none
  isReplace : Bool := false

namespace Insert

/-- Further rows. -/
def addRows (i : Insert) (rows : List Values) : Insert := { i with rows := i.rows ++ rows }

/-- The attribute is read from the rows. -/
def selects (i : Insert) (attr : String) : Bool :=
  match i.columns with
  | some names => names.contains attr
  | none => true

/-- The value that a row provides for an attribute. -/
def provided (i : Insert) (row : Values) (attr : String) : Option Value :=
  if i.selects attr then row.get? attr else none

/-- The row names the row that it replaces. -/
def hasKey (i : Insert) (row : Values) : Bool :=
  match row.get? i.table.primaryKey.attr with
  | some v => !v.isNull
  | none => false

/-- The value that goes into a column before its conversion, none if the column is left out. -/
def resolved (i : Insert) (row : Values) (attr : String) (f : Field) : Drawing (Option Value) := do
  let provided := i.provided row attr
  let isNumbered := match provided with
    | some v => !v.isNull
    | none => false
  if f.isAutoIncrement && !isNumbered then return none
  if f.isAutoIncrement && !i.isReplace then Drawing.fail (.notAllowed (.insert attr i.table.name))
  match provided with
  | some v => return some v
  | none =>
    let (v, supply) := f.resolveDefault (← get)
    set supply
    return v

/-- The bound value of a column, none if the column is left out. -/
def bound (i : Insert) (row : Values) (attr : String) (f : Field) : Drawing (Option Value) := do
  match ← i.resolved row attr f with
  | none => return none
  | some v =>
    if v.isNull && !f.nullable then
      if i.isReplace && i.hasKey row then return none
      else Drawing.fail (.data f.name (.null attr i.table.name))
    else
      let w ← f.toWire v
      return some w

/-- The columns of a row with their bound values. -/
def boundFields (i : Insert) (row : Values) : List (String × Field) → Drawing (List (Field × Value))
  | [] => return []
  | (attr, f) :: rest => do
    match ← i.bound row attr f with
    | none => i.boundFields row rest
    | some v => return (f, v) :: (← i.boundFields row rest)

/-- The columns of a row with their bound values; every attribute of the row has to be one of the table's. -/
def normalize (i : Insert) (row : Values) : Drawing (List (Field × Value)) := do
  match row.keys.find? fun attr => !i.table.fields.contains attr with
  | some attr => Drawing.fail (.unknownColumn i.table.name attr)
  | none => i.boundFields row i.table.fields.pairs

/-- The statement text for the given columns. -/
def text (i : Insert) (columns : List String) : String :=
  (if i.isReplace then "REPLACE INTO " else "INSERT INTO ") ++ i.table.ref.text ++ " (" ++
    Text.joinedBy ", " (columns.map Literal.identifier) ++ ") VALUES (" ++
    Text.commaSeparated (columns.map fun _ => "%s") ++ ")"

/-- The parameter sets of the rows, all of which have the given columns. -/
def batch (i : Insert) (columns : List String) : List Values → Drawing (List (List Value))
  | [] => return []
  | row :: rest => do
    let bound ← i.normalize row
    if bound.map (·.1.name) ≠ columns then Drawing.fail (.usage (.unequalRows i.table.name))
    return bound.map (·.2) :: (← i.batch columns rest)

/-- The statement. -/
def render (i : Insert) : Drawing Query := do
  match i.rows with
  | [] => Drawing.fail (.usage (.nothingToInsert i.table.name))
  | first :: rest =>
    let bound ← i.normalize first
    let columns := bound.map (·.1.name)
    let sql := Query.terminated (i.text columns)
    if rest.isEmpty then return ⟨sql, .single (bound.map (·.2))⟩
    else return ⟨sql, .many (bound.map (·.2) :: (← i.batch columns rest))⟩

end Insert

end SqlMapper
