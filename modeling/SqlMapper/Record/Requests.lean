import SqlMapper.Record.Saving

/-!
# Requests to a record

A record that changes in its place: its attributes are set, it is saved and removed, in any order, and what was changed
before a failure stays. A run of requests is told turn by turn, with the statements that were sent to the executor.
-/

namespace SqlMapper

/-- The executor that also keeps the statements that it was asked to run. -/
def Executor.recorded {σ : Type} (e : Executor σ) : Executor (σ × List Query) where
  execute q := ExceptT.mk fun w =>
    let (result, w') := (e.execute q).run { w with executor := w.executor.1 }
    (result, { w' with executor := (w'.executor, w.executor.2 ++ [q]) })
  fetch q limit := ExceptT.mk fun w =>
    let (result, w') := (e.fetch q limit).run { w with executor := w.executor.1 }
    (result, { w' with executor := (w'.executor, w.executor.2 ++ [q]) })

/-- Work of a record that changes in its place, in a world. -/
abbrev Method (σ α : Type) := ExceptT Error (StateM (Record × World σ)) α

namespace Method

variable {σ α : Type}

/-- The record as it is. -/
def record : Method σ Record := do return (← get).1

/-- Changes the record. -/
def change (f : Record → Record) : Method σ Unit := modify fun (r, w) => (f r, w)

/-- Work in the world that does not touch the record. -/
def act (a : Action σ α) : Method σ α := ExceptT.mk fun (r, w) =>
  let (result, w') := a.run w
  (result, r, w')

/-- Gives a value to an attribute of the table. -/
def set (attr : String) (v : Value) : Method σ Unit := do
  let r ← record
  let f ← act (.ofResult (r.table.field attr))
  if r.changesKey f attr v then act (.fail (.notAllowed (.change attr r.table.name)))
  change (·.load attr v)

/-- Writes the record back. A record without a number takes over the number that its row gets. -/
def save (e : Executor σ) : Method σ RowsAffected := do
  let r ← record
  let t := r.table
  if !t.primaryKey.isAutoIncrement then
    return ← act (({ table := t, rows := [r.values], isReplace := true } : Insert).run e)
  match r.key? with
  | none =>
    let affected ← act (({ table := t, rows := [r.values] } : Insert).run e)
    match affected.lastInsertId with
    | none => return affected
    | some id =>
      let key ← act (.ofResult (t.primaryKey.field.toApp (Record.idValue id)))
      change (·.load t.primaryKey.attr key)
      return affected
  | some key =>
    if r.otherValues.isEmpty then return .zero
    let u ← act (.ofResult (({ table := t } : Update).setAll r.otherValues))
    act (({ u with filter := some (Record.keyIs t key) } : Update).run e)

/-- Deletes the row of the record. -/
def remove (e : Executor σ) : Method σ RowsAffected := do
  act ((← record).remove e)

end Method

namespace Record

/-- What an application asks of a record. -/
inductive Request where
  | set (attr : String) (v : Value)
  | save
  | remove

/-- Runs a request. -/
def Request.run {σ : Type} (request : Request) (e : Executor σ) : Method σ Unit :=
  match request with
  | set attr v => Method.set attr v
  | save => discard (Method.save e)
  | remove => discard (Method.remove e)

/-- A request, the record before and after it, the statements that it sent, and its failure if there was one. -/
structure Turn where
  request : Request
  before : Record
  after : Record
  sent : List Query
  failure : Option Error

variable {σ : Type}

/-- Serves a request, with an executor that answers as it likes. -/
def serve (r : Record) (e : Executor σ) (request : Request) (w : World σ) : Turn × World σ :=
  let (result, r', w') := (request.run e.recorded).run (r, { w with executor := (w.executor, []) })
  let failure :=
    match result with
    | .ok _ => none
    | .error error => some error
  (⟨request, r, r', w'.executor.2, failure⟩, { w' with executor := w'.executor.1 })

/-- Serves requests one after the other. -/
def turns (r : Record) (e : Executor σ) : List Request → World σ → List Turn
  | [], _ => []
  | request :: rest, w =>
    let (turn, w') := r.serve e request w
    turn :: turn.after.turns e rest w'

end Record

end SqlMapper
