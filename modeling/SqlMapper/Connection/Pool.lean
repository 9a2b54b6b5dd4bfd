import SqlMapper.Connection.Fault
import SqlMapper.Running.Executor

/-!
# Closed pools

A pool of connections that was closed is still an executor: a question for no rows and a question with several
parameter sets are answered without a connection, and everything else fails. Failures are logged with the statement.
-/

namespace SqlMapper.Pool

variable {σ α : Type}

/-- The failure of everything that needs a connection. -/
def closedError : Error :=
  ConnectionFault.closed.error.within s!"Driver error: \x60{ConnectionFault.closed.message}'"

/-- Fails with an error about a statement, and logs it. -/
def failing (activity : String) (q : Query) (e : Error) : Action σ α := do
  let e := e.within s!"While {activity} the query:\n{q.shown}"
  Action.report [.error e.message]
  throw e

/-- Runs a change. -/
def execute (q : Query) : Action σ RowsAffected := do
  Action.report [.debug q.shown]
  failing "executing" q closedError

/-- Asks for rows. -/
def fetch (q : Query) (limit : Option Nat) : Action σ (List FetchedRow) := do
  Action.report [.debug q.shown]
  match q.params with
  | .many _ => failing "fetching" q ConnectionFault.severalSets.error
  | .single _ => if limit = some 0 then return [] else failing "fetching" q closedError

/-- The closed pool as an executor. -/
def closed : Executor σ := ⟨execute, fetch⟩

end SqlMapper.Pool
