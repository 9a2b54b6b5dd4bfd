import SqlMapper.Running.Executor

/-!
# Connectors

A slot for the executor that an application works with. At most one executor is bound at a time; whoever binds one
gets a handle to it, which stays good after it is unbound. The connector is an executor itself: it hands every
statement to the bound executor, and refuses statements while nothing is bound.
-/

namespace SqlMapper

/-- A reference to an executor that was bound at some time. -/
structure Handle where
  index : Nat
deriving DecidableEq, Repr, Inhabited

/-- The executors that were ever bound, in order, and the one that is bound now. -/
structure Connector (σ : Type) where
  members : List σ := []
  slot : Option Handle := none

namespace Connector

variable {σ α : Type}

/-- No executor was bound yet. -/
def empty : Connector σ := {}

instance : Inhabited (Connector σ) := ⟨empty⟩

/-- Some executor is bound. -/
def isBound (c : Connector σ) : Bool := c.slot.isSome

/-- Binds an executor. -/
def bind (executor : σ) : Action (Connector σ) Handle := do
  let w ← get
  if w.executor.isBound then Action.fail (.binding .alreadyBound)
  let handle : Handle := ⟨w.executor.members.length⟩
  let after : Connector σ := ⟨w.executor.members ++ [executor], some handle⟩
  set { (w.logging [.debug "Executor bound"]) with executor := after }
  return handle

/-- Releases the bound executor. -/
def unbind : Action (Connector σ) Handle := do
  let w ← get
  match w.executor.slot with
  | none => Action.fail (.binding .notBound)
  | some handle =>
    set { (w.logging [.debug "Executor unbound"]) with executor := { w.executor with slot := none } }
    return handle

/-- The bound executor. -/
def current : Action (Connector σ) Handle := do
  match (← get).executor.slot with
  | none => Action.fail (.binding .unbound)
  | some handle => return handle

/-- The state of the executor behind a handle. -/
def member? (c : Connector σ) (handle : Handle) : Option σ := c.members[handle.index]?

/-- Changes the state of the executor behind a handle. -/
def updated (c : Connector σ) (handle : Handle) (state : σ) : Connector σ :=
  { c with members := c.members.set handle.index state }

/-- Work with the executor behind a handle, whether it is bound or not. -/
def within (handle : Handle) (act : Action σ α) : Action (Connector σ) α := do
  let w ← get
  match w.executor.member? handle with
  | none => Action.fail (.binding .unbound)
  | some state =>
    let (r, after) := act.run ⟨state, w.supply, w.log⟩
    set (⟨w.executor.updated handle after.executor, after.supply, after.log⟩ : World (Connector σ))
    Action.ofResult r

/-- The connector as an executor that hands everything to the bound one. -/
def executor (e : Executor σ) : Executor (Connector σ) where
  execute q := do within (← current) (e.execute q)
  fetch q limit := do within (← current) (e.fetch q limit)

end Connector

end SqlMapper
