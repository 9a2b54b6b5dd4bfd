import SqlMapper.Record.Basic
import SqlMapper.Running.Executor
import SqlMapper.Statement.Change

/-!
# Saving records

Writing a record back and deleting its row. On a table whose rows the server numbers, a record without a number is
inserted and takes over the number that it gets, and a record with a number is updated. On other tables saving
replaces the row.
-/

namespace SqlMapper

namespace Insert

/-- Runs the insert. -/
def run {σ : Type} (i : Insert) (e : Executor σ) : Action σ RowsAffected := do
  e.execute (← Action.drawing i.render)

end Insert

namespace Update

/-- Runs the update. -/
def run {σ : Type} (u : Update) (e : Executor σ) : Action σ RowsAffected := do
  e.execute (← Action.ofResult u.render)

end Update

namespace Delete

/-- Runs the delete. -/
def run {σ : Type} (d : Delete) (e : Executor σ) : Action σ RowsAffected := do
  e.execute (← Action.ofResult d.render)

end Delete

namespace Record

variable {σ : Type}

/-- A number given by the server as a value. -/
def idValue (id : Nat) : Value := if id < Nat.pow 2 63 then .int (Int64.ofNat id) else .uint (UInt64.ofNat id)

/-- The row of the record as a condition on the key. -/
def keyIs (t : Table) (key : Value) : Expr := (Expr.column t.primaryKeyColumn).equal (.value key)

/-- The values apart from the key. -/
def otherValues (r : Record) : List (String × Value) := r.values.pairs.filter (·.1 ≠ r.table.primaryKey.attr)

/-- The record with the number that the server gave to it. -/
def adopt (r : Record) (id : Option Nat) : Result Record :=
  match id with
  | none => .ok r
  | some id => do return r.load r.table.primaryKey.attr (← r.table.primaryKey.field.toApp (idValue id))

/-- Writes the record back, and gives it as it is afterwards. -/
def save (r : Record) (e : Executor σ) : Action σ (RowsAffected × Record) := do
  let t := r.table
  if !t.primaryKey.isAutoIncrement then
    let affected ← ({ table := t, rows := [r.values], isReplace := true } : Insert).run e
    return (affected, r)
  match r.key? with
  | none =>
    let affected ← ({ table := t, rows := [r.values] } : Insert).run e
    return (affected, ← Action.ofResult (r.adopt affected.lastInsertId))
  | some key =>
    if r.otherValues.isEmpty then return (.zero, r)
    let u ← Action.ofResult (({ table := t } : Update).setAll r.otherValues)
    let affected ← ({ u with filter := some (keyIs t key) } : Update).run e
    return (affected, r)

/-- Deletes the row of the record. -/
def remove (r : Record) (e : Executor σ) : Action σ RowsAffected := do
  match r.key? with
  | none => Action.fail (.usage (.removeWithoutKey r.table.name))
  | some key => ({ table := r.table, filter := some (keyIs r.table key), limit := some 1 } : Delete).run e

end Record

end SqlMapper
