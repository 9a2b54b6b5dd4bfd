import SqlMapper.Running.Replay

/-!
# Scripted answers

An executor that answers each statement with the reply at its place in a script. A reply may fail the statement, and
the rows of a reply may hold values that earlier statements have bound. Without a fitting reply a change affects one
row and a question has no rows.
-/

namespace SqlMapper

/-- A value of a scripted row. -/
inductive Cell where
  | value (v : Value)
  /-- The value at a position among the parameters of an earlier statement. -/
  | bound (statement position : Nat)

/-- A scripted answer. -/
inductive Reply where
  | affected (a : RowsAffected)
  | rows (rows : List (List (String × Cell)))
  | refusal (message : String)

/-- A statement that was received: whether it asks for rows, and how many it takes at most. -/
structure Received where
  asksRows : Bool
  query : Query
  limit : Option Nat

/-- Statements that were received, and the replies to those that follow. -/
structure Script where
  replies : List Reply
  received : List Received := []

namespace Script

/-- The value at a position among the parameters of a statement. -/
def boundAt (received : List Received) (statement position : Nat) : Option Value :=
  match received[statement]? with
  | some ⟨_, ⟨_, .single values⟩, _⟩ => values[position]?
  | _ => none

/-- The value of a cell. -/
def cellValue (received : List Received) : Cell → Value
  | .value v => v
  | .bound statement position => (boundAt received statement position).getD .null

/-- A row with the values of its cells. -/
def row (received : List Received) (cells : List (String × Cell)) : FetchedRow :=
  .ofPairs (cells.map fun (label, cell) => (label, cellValue received cell))

/-- The script after a statement has come in. -/
def receiving (s : Script) (r : Received) : Script := ⟨s.replies.tail, s.received ++ [r]⟩

/-- Receives a statement and takes the reply to it. -/
def receive (r : Received) : Action Script (Option Reply) := do
  let w ← get
  set { w with executor := w.executor.receiving r }
  return w.executor.replies.head?

/-- Answers a change. -/
def execute (q : Query) : Action Script RowsAffected := do
  match ← receive ⟨false, q, none⟩ with
  | some (.affected a) => return a
  | some (.refusal message) => Action.fail (.other message)
  | _ => return Replay.unprepared

/-- Answers a question. -/
def fetch (q : Query) (limit : Option Nat) : Action Script (List FetchedRow) := do
  match ← receive ⟨true, q, limit⟩ with
  | some (.rows rows) =>
    let received := (← get).executor.received
    return atMost limit (rows.map (row received))
  | some (.refusal message) => Action.fail (.other message)
  | _ => return []

/-- The executor that follows a script. -/
def executor : Executor Script := ⟨execute, fetch⟩

end Script

end SqlMapper
