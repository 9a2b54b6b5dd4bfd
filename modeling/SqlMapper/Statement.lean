import SqlMapper.Statement.Change
import SqlMapper.Statement.Definition
import SqlMapper.Statement.Insert
import SqlMapper.Running.Executor

/-!
# Statements

A statement of any kind. Rendering one may draw values from streams, and writing a table definition may report values
that have no literal.
-/

namespace SqlMapper

/-- A statement of any kind. -/
inductive Statement where
  | select (s : Select)
  | insert (i : Insert)
  | update (u : Update)
  | delete (d : Delete)
  | create (c : CreateTable)
  | drop (d : DropTable)
  | describe (fact : TableFact) (table : TableRef)

namespace Statement

/-- The rendered statement. -/
def render : Statement → Drawing Query
  | select s => monadLift s.render
  | insert i => i.render
  | update u => monadLift u.render
  | delete d => monadLift d.render
  | create c => monadLift c.render
  | drop d => pure d.render
  | describe fact table => pure (fact.render table)

/-- What rendering the statement reports. -/
def log : Statement → Log
  | create c => CreateTable.columnsLog c.table.fields.pairs
  | _ => []

/-- Renders the statement in a world. -/
def rendering {σ : Type} (s : Statement) : Action σ Query := do
  Action.report s.log
  Action.drawing s.render

end Statement

end SqlMapper
