import SqlMapper.Running.Connector

/-!
# Sessions

What an application does with a connector over time: it binds executors and releases them, asks which one is bound, and
makes calls. A call is meant for the executor that is bound when it is made, but nothing runs before the call is
awaited, which may be after that executor was released. A session is told turn by turn, and every executor that is
offered to the connector keeps the statements that it receives.
-/

namespace SqlMapper

/-- A statement for an executor. -/
inductive Command where
  | execute (q : Query)
  | fetch (q : Query) (limit : Option Nat)

/-- What awaiting a call brings. -/
inductive Item where
  | affected (a : RowsAffected)
  | row (r : FetchedRow)
  | fault (e : Error)
  /-- The call has nothing more to bring. -/
  | finished

/-- What a statement brings: the items of its answer, or the fault. -/
def Item.ofResult : Result (List Item) → List Item
  | .ok items => items
  | .error e => [.fault e]

/-- Runs the statement. -/
def Command.run {σ : Type} (e : Executor σ) : Command → Action σ (List Item)
  | execute q => do return [.affected (← e.execute q)]
  | fetch q limit => do return (← e.fetch q limit).map .row

namespace Connector

variable {σ : Type}

/-- A call: the executor that was bound when it was made, and the statement. -/
structure Call where
  target : Option Handle
  command : Command
  /-- What is still to be handed out, once the call was awaited. -/
  rest : Option (List Item) := none

/-- A call for the bound executor. -/
def call (c : Connector σ) (command : Command) : Call := { target := c.slot, command := command }

namespace Call

/-- Runs the statement of a call, with the executor that the call is meant for. -/
def start (e : Executor σ) (c : Call) (w : World (Connector σ)) : List Item × World (Connector σ) :=
  match c.target with
  | none => ([.fault ⟨.binding .unbound, []⟩], w)
  | some handle => ((within handle (c.command.run e)).run w).map Item.ofResult id

/-- Awaits what a call brings next. The statement runs when the call is awaited for the first time. -/
def await (e : Executor σ) (c : Call) (w : World (Connector σ)) : Item × Call × World (Connector σ) :=
  let (items, w) :=
    match c.rest with
    | some items => (items, w)
    | none => c.start e w
  (items.headD .finished, { c with rest := some items.tail }, w)

end Call

end Connector

/-- An executor that was offered to a connector, and the statements that it has received. -/
structure Observed (σ : Type) where
  /-- The turn of the session in which it was offered. -/
  offer : Nat
  state : σ
  received : List Command := []

/-- Receives a statement and works on it. -/
def Observed.receiving {σ α : Type} (command : Command) (act : Action σ α) : Action (Observed σ) α :=
  ExceptT.mk fun w =>
    let (result, w') := act.run { w with executor := w.executor.state }
    (result, { w' with
      executor := { w.executor with state := w'.executor, received := w.executor.received ++ [command] } })

/-- The executor that also keeps the statements that it receives. -/
def Executor.observed {σ : Type} (e : Executor σ) : Executor (Observed σ) where
  execute q := Observed.receiving (.execute q) (e.execute q)
  fetch q limit := Observed.receiving (.fetch q limit) (e.fetch q limit)

namespace Session

/-- What an application asks of a connector. Calls are numbered as they are made. -/
inductive Request (σ : Type) where
  | bind (executor : σ)
  | unbind
  | current
  | isBound
  | call (command : Command)
  | await (call : Nat)

/-- A request and the answer to it. -/
inductive Turn where
  | bind (result : Result Handle)
  | unbind (result : Result Handle)
  | current (result : Result Handle)
  | isBound (answer : Bool)
  | call (command : Command)
  /-- Nothing is awaited if there is no such call. -/
  | await (call : Nat) (item : Option Item)

end Session

/-- A connector in its world, the calls that were made, and the turns so far. -/
structure Session (σ : Type) where
  world : World (Connector (Observed σ))
  calls : List Connector.Call := []
  turns : List Session.Turn := []

namespace Session

variable {σ : Type}

/-- A session with a connector to which nothing was bound yet. -/
def start (supply : Supply) (log : Log) : Session σ := { world := ⟨.empty, supply, log⟩ }

/-- The session after an action of the connector, which makes a turn. -/
def acting {α : Type} (s : Session σ) (act : Action (Connector (Observed σ)) α) (turn : Result α → Turn) : Session σ :=
  let (result, w) := act.run s.world
  { s with world := w, turns := s.turns ++ [turn result] }

/-- Serves a request, with executors that answer as they like. -/
def serve (e : Executor σ) (s : Session σ) : Request σ → Session σ
  | .bind executor => s.acting (Connector.bind { offer := s.turns.length, state := executor }) .bind
  | .unbind => s.acting Connector.unbind .unbind
  | .current => s.acting Connector.current .current
  | .isBound => { s with turns := s.turns ++ [.isBound s.world.executor.isBound] }
  | .call command =>
    { s with calls := s.calls ++ [s.world.executor.call command], turns := s.turns ++ [.call command] }
  | .await k =>
    match s.calls[k]? with
    | none => { s with turns := s.turns ++ [.await k none] }
    | some c =>
      let (item, c, w) := c.await e.observed s.world
      { world := w, calls := s.calls.set k c, turns := s.turns ++ [.await k (some item)] }

/-- Serves requests one after the other. -/
def run (e : Executor σ) (s : Session σ) (requests : List (Request σ)) : Session σ := requests.foldl (serve e) s

end Session

end SqlMapper
