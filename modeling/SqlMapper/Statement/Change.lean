import SqlMapper.Rendering.Expression
import SqlMapper.Statement.Insert

/-!
# Updates and deletes

Assigning columns of the rows that meet a condition, and deleting rows. The server numbers an auto-increment key, so
no update assigns it. A delete without a condition has to be confirmed.
-/

namespace SqlMapper

/-- Assignments to columns of the rows that meet a condition. -/
structure Update where
  table : Table
  assignments : List (Field × Operand) := []
  filter : Option Expr := none

namespace Update

/-- Assigns a column: in the place of an earlier assignment to it, and else at the end. -/
def assigned (f : Field) (value : Operand) : List (Field × Operand) → List (Field × Operand)
  | [] => [(f, value)]
  | (g, old) :: rest => if g.name = f.name then (g, value) :: rest else (g, old) :: assigned f value rest

/-- Assigns an operand to an attribute. -/
def assign (u : Update) (attr : String) (value : Operand) : Result Update := do
  let f ← u.table.field attr
  if f.isAutoIncrement then fail (.notAllowed (.update attr u.table.name))
  else return { u with assignments := assigned f value u.assignments }

/-- Assigns a value to an attribute. -/
def set (u : Update) (attr : String) (v : Value) : Result Update := u.assign attr (.value v)

/-- Assigns values to attributes, one after the other. -/
def setAll (u : Update) : List (String × Value) → Result Update
  | [] => .ok u
  | (attr, v) :: rest => do (← u.set attr v).setAll rest

/-- What an assignment adds to the statement; its value is converted by its column. -/
def assignment (f : Field) (value : Operand) : Piece :=
  .ofText (Literal.identifier f.name ++ "=") ++ Operand.piece { converter := some f } value

/-- The piece of the whole statement. -/
def piece (u : Update) : Piece :=
  .ofText ("UPDATE " ++ u.table.ref.text ++ " SET ") ++
    Piece.separated (u.assignments.map fun (f, value) => assignment f value) ++ Expr.clause {} " WHERE " u.filter

/-- The statement. -/
def render (u : Update) : Result Query :=
  if u.assignments.isEmpty then fail (.usage (.nothingToUpdate u.table.name)) else Query.ofPiece u.piece

end Update

/-- The rows to be deleted. -/
structure Delete where
  table : Table
  filter : Option Expr := none
  limit : Option Nat := none
  /-- Deleting without a condition is meant. -/
  allowsAll : Bool := false

namespace Delete

/-- The piece of the whole statement. -/
def piece (d : Delete) : Piece :=
  .ofText ("DELETE FROM " ++ d.table.ref.text) ++ Expr.clause {} " WHERE " d.filter ++ limitClause d.limit none

/-- The statement. -/
def render (d : Delete) : Result Query :=
  if d.filter.isNone && !d.allowsAll then fail (.dangerous d.table.name) else Query.ofPiece d.piece

end Delete

namespace Select

/-- The statement. -/
def render (s : Select) : Result Query := Query.ofPiece (s.piece {})

/-- The same rows seen through one other column, in no order and with another limit. -/
def projected (s : Select) (column : Expr) (limit : Option Nat) : Select :=
  { s with columns := [column], orderBy := [], limit := limit, offset := none }

/-- The same query with another limit and offset. -/
def limited (s : Select) (limit offset : Option Nat) : Select := { s with limit := limit, offset := offset }

end Select

end SqlMapper
