import SqlMapper.Record.Row
import SqlMapper.Statement.Change

/-!
# Fetching

What a select answers: all rows, the first one, a page, a single value, a number of rows, or the rows one by one. A
select without a limit fetches a thousand rows at most, and says so when there may be more.
-/

namespace SqlMapper

namespace Select

variable {σ : Type}

/-- The most rows that a select without a limit fetches. -/
def rowCap : Nat := 1000

/-- The limit under which all rows are fetched. -/
def cappedLimit (s : Select) : Nat := s.limit.getD rowCap

/-- The rows of the select with another limit and offset. -/
def fetchLimited (s : Select) (e : Executor σ) (limit offset : Option Nat) (atMost : Option Nat) :
    Action σ (List FetchedRow) := do
  e.fetch (← Action.ofResult (s.limited limit offset).render) atMost

/-- What fetching all rows reports. -/
def capLog (s : Select) (rows : List FetchedRow) : Log :=
  if s.limit.isNone && rowCap ≤ rows.length then
    [.warn s!"Select on \x60{s.table.name}\x60 stopped at {Nat.repr rowCap} rows, set a limit to fetch more"]
  else []

/-- All rows. -/
def all (s : Select) (e : Executor σ) : Action σ (List Row) := do
  let rows ← s.fetchLimited e (some s.cappedLimit) s.offset none
  Action.report (s.capLog rows)
  Row.loadingAll s.table s.shape rows

/-- The first row. -/
def first (s : Select) (e : Executor σ) : Action σ (Option Row) := do
  match ← s.fetchLimited e (some 1) s.offset (some 1) with
  | [] => return none
  | row :: _ => return some (← Row.loading s.table row s.shape)

/-- A fetched row as a record of the table. -/
def toRecord (t : Table) (row : FetchedRow) : Action σ Record := do
  match ← Row.loading t row .model with
  | .record r => return r
  | .map _ | .tuple _ => Action.fail (.usage (.notRecords t.name))

/-- Each row as what `read` makes of its record, up to the first that cannot be read. -/
def readAll {α : Type} (t : Table) (read : Record → Result α) : List FetchedRow → Action σ (List α)
  | [] => return []
  | row :: rest => do
    let a ← Action.ofResult (read (← toRecord t row))
    return a :: (← readAll t read rest)

/-- All rows as what `read` makes of their records. -/
def allAs {α : Type} (s : Select) (e : Executor σ) (read : Record → Result α) : Action σ (List α) := do
  readAll s.table read (← s.fetchLimited e (some s.cappedLimit) s.offset none)

/-- The first row as what `read` makes of its record. -/
def firstAs {α : Type} (s : Select) (e : Executor σ) (read : Record → Result α) : Action σ (Option α) := do
  match ← s.fetchLimited e (some 1) s.offset (some 1) with
  | [] => return none
  | row :: _ => return some (← Action.ofResult (read (← toRecord s.table row)))

/-- `count` rows from offset `start` on. -/
def rows (s : Select) (e : Executor σ) (count start : Nat) : Action σ (List Row) := do
  Row.loadingAll s.table s.shape (← s.fetchLimited e (some count) (some start) none)

/-- The page with the given number, counted from one, when pages have `size` rows. -/
def paginate (s : Select) (e : Executor σ) (page size : Nat) : Action σ (List Row) :=
  if page = 0 then Action.fail (.usage .pageZero) else s.rows e size ((page - 1) * size)

/-- The first value of the first row that a statement gives, `NULL` if there is none. -/
def fetchScalar (e : Executor σ) (q : Query) : Action σ Value := do
  return ((← e.fetch q (some 1)).head?.bind (·.values.head?)).getD .null

/-- The first value of the first row. -/
def scalar (s : Select) (e : Executor σ) : Action σ Value := do
  fetchScalar e (← Action.ofResult s.render)

/-- The number of rows, whatever the order and the limit. -/
def count (s : Select) (e : Executor σ) : Action σ Nat := do
  let v ← fetchScalar e (← Action.ofResult (s.projected Expr.countAll none).render)
  if v.isNull then return 0
  return (← Action.ofResult (v.readInteger .u64)).toNat

/-- There is a row. -/
def exist (s : Select) (e : Executor σ) : Action σ Bool := do
  return !(← fetchScalar e (← Action.ofResult (s.projected (.raw "1") (some 1)).render)).isNull

/-- Where a row by row walk begins. -/
def walkStart (s : Select) : Nat := (s.window.map (·.start)).getD (s.offset.getD 0)

/-- How far a row by row walk goes from one row to the next. -/
def walkStep (s : Select) : Nat := (s.window.map (·.step)).getD 1

/-- The offset belongs to the walk. -/
def visits (s : Select) (offset : Nat) : Bool :=
  match s.window with
  | some w => offset < w.stop
  | none => true

/-- The row at an offset of the walk, none where the walk ends. -/
def rowAt (s : Select) (e : Executor σ) (offset : Nat) : Action σ (Option Row) := do
  if !s.visits offset then return none
  match ← s.fetchLimited e (some 1) (some offset) (some 1) with
  | [] => return none
  | row :: _ => return some (← Row.loading s.table row s.shape)

/-- The rows of the walk from an offset on, at most `budget` of them. An error is the last item. -/
def walkFrom (s : Select) (e : Executor σ) : (budget offset : Nat) → StateM (World σ) (List (Result Row))
  | 0, _ => return []
  | budget + 1, offset => do
    match ← (s.rowAt e offset).run with
    | .error fault => return [.error fault]
    | .ok none => return []
    | .ok (some row) => return .ok row :: (← s.walkFrom e budget (offset + s.walkStep))

/-- The first rows of the walk, at most `budget` of them, each fetched by a statement of its own. -/
def walk (s : Select) (e : Executor σ) (budget : Nat) : StateM (World σ) (List (Result Row)) :=
  s.walkFrom e budget s.walkStart

end Select

end SqlMapper
