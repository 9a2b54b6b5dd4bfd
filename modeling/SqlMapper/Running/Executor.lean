import SqlMapper.Running.Action

/-!
# Executors

An executor runs statements: it executes those that change something and fetches the rows of those that ask. Its
state is part of the world, so an executor may be anything from a connection to a list of prepared answers.
-/

namespace SqlMapper

/-- What a statement changed. -/
structure RowsAffected where
  rows : Nat
  /-- The number that the server gave to an inserted row. -/
  lastInsertId : Option Nat
deriving DecidableEq, Repr, Inhabited

namespace RowsAffected

/-- Nothing changed. -/
def zero : RowsAffected := ⟨0, none⟩

/-- What two statements changed together; the last number that the server gave counts. -/
def add (a b : RowsAffected) : RowsAffected := ⟨a.rows + b.rows, b.lastInsertId.or a.lastInsertId⟩

/-- What some statements changed together. -/
def total (items : List RowsAffected) : RowsAffected := items.foldl add zero

end RowsAffected

/-- A row as an executor delivers it: the labels of its columns and their values, side by side. -/
structure FetchedRow where
  labels : List String
  values : List Value
deriving Inhabited

namespace FetchedRow

/-- The row of some labelled values. -/
def ofPairs (pairs : List (String × Value)) : FetchedRow := ⟨pairs.map Prod.fst, pairs.map Prod.snd⟩

/-- The values with their labels. -/
def pairs (r : FetchedRow) : List (String × Value) := r.labels.zip r.values

/-- The value of the first column with a label. -/
def column? (r : FetchedRow) (label : String) : Option Value := r.values[r.labels.idxOf label]?

/-- The number of values. -/
def length (r : FetchedRow) : Nat := r.values.length

/-- The row has no value. -/
def isEmpty (r : FetchedRow) : Bool := r.values.isEmpty

end FetchedRow

/-- A way to run statements with a state of type `σ`. -/
structure Executor (σ : Type) where
  /-- Runs a statement that changes something, once for each parameter set. -/
  execute : Query → Action σ RowsAffected
  /-- Runs a statement that asks for rows, and takes at most `limit` of them. -/
  fetch : Query → (limit : Option Nat) → Action σ (List FetchedRow)

/-- The first rows, as many as a limit allows. -/
def atMost {α : Type} (limit : Option Nat) (rows : List α) : List α :=
  match limit with
  | some n => rows.take n
  | none => rows

end SqlMapper
