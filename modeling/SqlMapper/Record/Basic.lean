import SqlMapper.Table.Basic
import SqlMapper.Statement.Insert

/-!
# Records

A changeable row of a table: attribute values that are checked against the fields of the table. A number that the
server has given to the row does not change.
-/

namespace SqlMapper

/-- A row of a table. -/
structure Record where
  table : Table
  values : Values
deriving Inhabited

namespace Record

/-- A row without values. -/
def ofTable (table : Table) : Record := ⟨table, .empty⟩

/-- The value of an attribute. -/
def get? (r : Record) (attr : String) : Option Value := r.values.get? attr

/-- Gives a value to an attribute unchecked, as rows come from the database. -/
def load (r : Record) (attr : String) (v : Value) : Record := { r with values := r.values.insert attr v }

/-- The value of an attribute would change the number that the server gave to the row. -/
def changesKey (r : Record) (f : Field) (attr : String) (v : Value) : Bool :=
  f.isAutoIncrement &&
    match r.get? attr with
    | some old => !old.isNull && !old.same v
    | none => false

/-- Gives a value to an attribute of the table. -/
def set (r : Record) (attr : String) (v : Value) : Result Record := do
  let f ← r.table.field attr
  if r.changesKey f attr v then fail (.notAllowed (.change attr r.table.name)) else return r.load attr v

/-- Gives values to attributes one after the other. -/
def setAll (r : Record) : List (String × Value) → Result Record
  | [] => .ok r
  | (attr, v) :: rest => do (← r.set attr v).setAll rest

/-- A row with some values. -/
def withValues (table : Table) (values : Values) : Result Record := (ofTable table).setAll values.pairs

/-- The value of an attribute read as a type. A missing attribute reads as `NULL`. -/
def getAs (r : Record) (attr : String) (t : NativeType) : Result Value :=
  (Value.readAs t ((r.get? attr).getD .null)).mapError
    (Error.within s!"While reading attribute \x60{attr}\x60 of \x60{r.table.name}\x60")

/-- Moves an attribute out of the record. -/
def take (r : Record) (attr : String) : Value × Record :=
  ((r.get? attr).getD .null, { r with values := r.values.erase attr })

/-- The value of the primary key, unless it is missing or `NULL`. -/
def key? (r : Record) : Option Value := (r.get? r.table.primaryKey.attr).filter fun v => !v.isNull

end Record

end SqlMapper
