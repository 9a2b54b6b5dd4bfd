/-!
# Ordered maps

A map from names to values that remembers the order in which the names came in. A name keeps its first place when its
value changes.
-/

namespace SqlMapper

/-- Names with values, each name once, in order of arrival. -/
structure Ordered (α : Type) where
  pairs : List (String × α)
  nodup : (pairs.map Prod.fst).Nodup

namespace Ordered

variable {α : Type}

/-- No name. -/
def empty : Ordered α := ⟨[], List.nodup_nil⟩

instance : Inhabited (Ordered α) := ⟨empty⟩

/-- The names in order. -/
def keys (m : Ordered α) : List String := m.pairs.map Prod.fst

/-- The values in the order of their names. -/
def values (m : Ordered α) : List α := m.pairs.map Prod.snd

/-- The value of a name. -/
def get? (m : Ordered α) (key : String) : Option α := (m.pairs.find? (·.1 = key)).map Prod.snd

/-- The name has a value. -/
def contains (m : Ordered α) (key : String) : Bool := m.pairs.any (·.1 = key)

/-- Gives a new value to a name that is there. -/
def replaced (key : String) (a : α) (pairs : List (String × α)) : List (String × α) :=
  pairs.map fun p => if p.1 = key then (key, a) else p

theorem keys_replaced (key : String) (a : α) (pairs : List (String × α)) :
    (replaced key a pairs).map Prod.fst = pairs.map Prod.fst := by
  induction pairs with
  | nil => rfl
  | cons p rest ih =>
    simp only [replaced, List.map_cons] at ih ⊢
    rw [ih]
    split
    · next h => simp [h]
    · rfl

/-- Gives a value to a name: in its place if it is there, and else at the end. -/
def insert (m : Ordered α) (key : String) (a : α) : Ordered α :=
  if h : key ∈ m.pairs.map Prod.fst then ⟨replaced key a m.pairs, by rw [keys_replaced]; exact m.nodup⟩
  else
    ⟨m.pairs ++ [(key, a)], by
      rw [List.map_append, List.nodup_append]
      refine ⟨m.nodup, by simp, ?_⟩
      intro x hx y hy
      simp only [List.map_cons, List.map_nil, List.mem_singleton] at hy
      rw [hy]
      intro he
      exact h (he ▸ hx)⟩

/-- Removes a name; the others keep their order. -/
def erase (m : Ordered α) (key : String) : Ordered α :=
  ⟨m.pairs.filter (·.1 ≠ key), m.nodup.sublist ((List.filter_sublist).map Prod.fst)⟩

/-- Gives values to names one after the other. -/
def insertAll (m : Ordered α) (pairs : List (String × α)) : Ordered α :=
  pairs.foldl (fun m p => m.insert p.1 p.2) m

/-- The map of some pairs; a repeated name keeps its first place and its last value. -/
def ofList (pairs : List (String × α)) : Ordered α := empty.insertAll pairs

end Ordered

end SqlMapper
