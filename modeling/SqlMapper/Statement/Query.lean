import SqlMapper.Rendering.Piece
import SqlMapper.Text.Truncated

/-!
# Queries

A rendered statement: text with `%s` for each parameter, and the parameters, as one set or as a set for each row of a
batch.
-/

namespace SqlMapper

/-- The parameters of a statement. -/
inductive Params where
  | single (values : List Value)
  /-- The statement runs once for each set. -/
  | many (rows : List (List Value))

namespace Params

/-- No parameters. -/
def none : Params := single []

/-- There is nothing to bind, or no set to run the statement with. -/
def isEmpty : Params → Bool
  | single values => values.isEmpty
  | many rows => rows.isEmpty

/-- One set without parameters. -/
def isNone : Params → Bool
  | single values => values.isEmpty
  | many _ => false

end Params

/-- A rendered statement. -/
structure Query where
  sql : String
  params : Params

namespace Query

/-- A statement without parameters. -/
def raw (sql : String) : Query := ⟨sql, .none⟩

instance : Inhabited Query := ⟨raw ""⟩

/-- The text as a whole statement. -/
def terminated (sql : String) : String := if sql.toList.getLast? = some ';' then sql else sql ++ ";"

/-- The statement that a piece makes. -/
def ofPiece (p : Piece) : Result Query := do
  let (text, params) ← p.outcome
  return ⟨terminated text, .single params⟩

/-- The statement as a log line shows it. -/
def shown (q : Query) : String := Text.truncated q.sql

end Query

end SqlMapper
