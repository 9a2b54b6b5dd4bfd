import SqlMapper.Field.Wire

/-!
# Shapes of converted values

A conversion may change the kind of a value, but not whether it is a list, nor how many items it has
(`toWire_itemCount?`).
-/

namespace SqlMapper

/-- The number of items of a list, none for any other value. -/
def Value.itemCount? : Value → Option Nat
  | list items => some items.length
  | _ => none

theorem Value.exists_of_itemCount? {v : Value} {n : Nat} (h : v.itemCount? = some n) : ∃ items, v = .list items := by
  cases v with
  | list items => exact ⟨items, rfl⟩
  | _ => cases h

theorem Value.itemCount?_eq_none {v : Value} (h : v.isList = false) : v.itemCount? = none := by
  cases v with
  | list items => cases h
  | _ => rfl

theorem Value.eq_null {v : Value} (h : v.isNull = true) : v = .null := by
  cases v with
  | null => rfl
  | _ => cases h

theorem Value.isNull_of_integer? {v : Value} {n : Int} (h : v.integer? = some n) : v.isNull = false := by
  cases v with
  | null => cases h
  | _ => rfl

namespace Field

variable {f : Field} {v w : Value}

/-- Only a value that is there can be taken. -/
theorem take_eq_ok {α : Type} {expected : String} {reading : Option α} {a : α}
    (h : f.take v expected reading = .ok a) : reading = some a := by
  cases reading with
  | none => cases h
  | some b => rw [Except.ok.inj h]

/-- The value of a conversion in one step. -/
theorem map_eq_ok {α β : Type} {r : Result α} {g : α → β} {b : β} (h : r.map g = .ok b) : ∃ a, r = .ok a ∧ g a = b := by
  cases r with
  | error e => cases h
  | ok a => exact ⟨a, rfl, Except.ok.inj h⟩

theorem wireInteger_itemCount? (h : f.wireInteger v = .ok w) : w.itemCount? = none := by
  unfold wireInteger at h
  split at h
  · cases h
    rfl
  · cases h
    rfl
  · obtain ⟨n, -, hn⟩ := Option.bind_eq_some_iff.1 (take_eq_ok h)
    rcases Option.or_eq_some_iff.1 hn with hn | ⟨-, hn⟩
    · obtain ⟨_, -, rfl⟩ := Option.map_eq_some_iff.1 hn
      rfl
    · obtain ⟨_, -, rfl⟩ := Option.map_eq_some_iff.1 hn
      rfl

/-- A scalar stays a scalar. -/
theorem scalarToWire_itemCount? (h : f.scalarToWire v = .ok w) : w.itemCount? = none := by
  unfold scalarToWire at h
  split at h
  · exact wireInteger_itemCount? h
  all_goals try split at h
  -- what is left is a refusal, a value of one kind, or a reading turned into one
  all_goals first
    | cases h; rfl
    | obtain ⟨_, -, rfl⟩ := map_eq_ok h; rfl
    | cases h

theorem toWire_of_scalar (hn : v.isNull = false) (hl : v.isList = false) : f.toWire v = f.scalarToWire v := by
  cases v with
  | null => cases hn
  | list items => cases hl
  | _ => rw [toWire]

theorem toApp_of_not_null (h : v.isNull = false) : f.toApp v = f.scalarToApp v := by
  rw [toApp, h]
  rfl

/-- A column of integers reads the integers that are delivered. -/
theorem toApp_of_integer (hi : f.kind.isInteger = true) (hn : v.isNull = false) : f.toApp v = f.appInteger v := by
  rw [toApp_of_not_null hn, scalarToApp]
  cases hk : f.kind with
  | integer size length => rfl
  | _ =>
    rw [hk] at hi
    cases hi

theorem toWireAll_length : ∀ {vs ws : List Value}, f.toWireAll vs = .ok ws → ws.length = vs.length
  | [], _, h => by
    rw [toWireAll] at h
    cases h
    rfl
  | v :: vs, _, h => by
    rw [toWireAll] at h
    cases hv : f.toWire v with
    | error e => rw [hv] at h; cases h
    | ok w =>
      cases hvs : f.toWireAll vs with
      | error e => rw [hv, hvs] at h; cases h
      | ok ws =>
        rw [hv, hvs] at h
        cases h
        rw [List.length_cons, List.length_cons, toWireAll_length hvs]

/-- A list keeps its length on the way to the database, and no other value becomes a list. -/
theorem toWire_itemCount? (h : f.toWire v = .ok w) : w.itemCount? = v.itemCount? := by
  cases hn : v.isNull with
  | true =>
    obtain rfl := Value.eq_null hn
    rw [toWire] at h
    cases h
    rfl
  | false =>
    cases hl : v.isList with
    | true =>
      cases v with
      | list items =>
        rw [toWire] at h
        obtain ⟨ws, hws, rfl⟩ := map_eq_ok h
        exact congrArg some (toWireAll_length hws)
      | _ => cases hl
    | false =>
      rw [toWire_of_scalar hn hl] at h
      rw [scalarToWire_itemCount? h]
      cases v with
      | list items => cases hl
      | _ => rfl

end Field

end SqlMapper
