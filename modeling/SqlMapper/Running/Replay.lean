import SqlMapper.Running.Executor

/-!
# Replayed answers

An executor that needs no database: it records every statement that it receives and answers from lists that were
filled before. Without a prepared answer a change affects one row and a question has no rows.
-/

namespace SqlMapper

/-- Statements that were received, and answers that are still to be given. -/
structure Replay where
  received : List Query := []
  results : List (List FetchedRow) := []
  affected : List RowsAffected := []
deriving Inhabited

namespace Replay

/-- The answer to the next change when none is prepared. -/
def unprepared : RowsAffected := ⟨1, none⟩

/-- Prepares the rows of one more question. -/
def pushRows (r : Replay) (rows : List FetchedRow) : Replay := { r with results := r.results ++ [rows] }

/-- Prepares the answer to one more change. -/
def pushAffected (r : Replay) (a : RowsAffected) : Replay := { r with affected := r.affected ++ [a] }

/-- The state after a statement has come in. -/
def receiving (r : Replay) (q : Query) : Replay := { r with received := r.received ++ [q] }

/-- The line that a statement leaves in the log. -/
def line (q : Query) : LogLine := .debug q.shown

/-- Answers the next change. -/
def execute (q : Query) : Action Replay RowsAffected := do
  let w ← get
  let r := w.executor.receiving q
  set { (w.logging [line q]) with executor := { r with affected := r.affected.tail } }
  return r.affected.headD unprepared

/-- Answers the next question. -/
def fetch (q : Query) (limit : Option Nat) : Action Replay (List FetchedRow) := do
  let w ← get
  let r := w.executor.receiving q
  set { (w.logging [line q]) with executor := { r with results := r.results.tail } }
  return atMost limit (r.results.headD [])

/-- The executor that replays. -/
def executor : Executor Replay := ⟨execute, fetch⟩

end Replay

end SqlMapper
