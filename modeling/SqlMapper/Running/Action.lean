import SqlMapper.Statement.Insert

/-!
# Actions

What an application does with a database: it works in a world that holds the state of the executor, the supply of
default values and the log. An action may fail; what it changed in the world before the failure stays.
-/

namespace SqlMapper

/-- The surroundings of an application, with an executor whose state has the given type. -/
structure World (σ : Type) where
  executor : σ
  supply : Supply
  log : Log

namespace World

variable {σ : Type}

/-- A world in which nothing has happened yet. -/
def start (executor : σ) : World σ := ⟨executor, .start, []⟩

/-- The world after some lines of log. -/
def logging (w : World σ) (lines : Log) : World σ := { w with log := w.log ++ lines }

end World

/-- Work in a world. -/
abbrev Action (σ α : Type) := ExceptT Error (StateM (World σ)) α

namespace Action

variable {σ α : Type}

/-- Fails with a cause. -/
def fail (cause : Cause) : Action σ α := throw ⟨cause, []⟩

/-- The answer of an operation that does not touch the world. -/
def ofResult (r : Result α) : Action σ α := ExceptT.mk (pure r)

/-- Writes lines to the log. -/
def report (lines : Log) : Action σ Unit := modify (·.logging lines)

/-- Work that draws default values. -/
def drawing (d : Drawing α) : Action σ α := do
  let w ← get
  let (r, supply) := d.run w.supply
  set { w with supply := supply }
  ofResult r

end Action

end SqlMapper
