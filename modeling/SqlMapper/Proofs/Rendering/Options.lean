import SqlMapper.Proofs.Field.Wire
import SqlMapper.Proofs.Rendering.Piece
import SqlMapper.Rendering.Options

/-!
# Bound values

What a scope that binds values makes of a literal: one placeholder for a scalar, and for a list where it is one
parameter (`Options.value_of_single`); elsewhere a list has a placeholder for each item (`Options.placed_list`). Either
way there is a placeholder for each value that is bound (`Options.exists_items_of_value`).
-/

namespace SqlMapper.Options

open Piece

variable {o : Options} {v w : Value}

theorem value_of_ok (h : o.converted v = .ok w) : o.value v = o.placed w := by rw [value, h]

theorem value_of_error {e : Error} (h : o.converted v = .error e) : o.value v = failed e := by rw [value, h]

/-- A value that does not fail was converted. -/
theorem converted_of_value (h : (o.value v).failure = none) : ∃ w, o.converted v = .ok w := by
  cases hc : o.converted v with
  | ok w => exact ⟨w, rfl⟩
  | error e =>
    rw [value_of_error hc] at h
    cases h

/-- Only a field refuses a value. -/
theorem exists_toWire_of_error {e : Error} (h : o.converted v = .error e) : ∃ f : Field, f.toWire v = .error e := by
  unfold converted at h
  cases hc : o.converter with
  | none =>
    rw [hc] at h
    cases h
  | some f =>
    rw [hc] at h
    exact ⟨f, h⟩

/-- The conversion of a scope keeps scalars scalars and lists as long as they are. -/
theorem converted_itemCount? (h : o.converted v = .ok w) : w.itemCount? = v.itemCount? := by
  unfold converted at h
  cases hc : o.converter with
  | none =>
    rw [hc] at h
    rw [Except.ok.inj h]
  | some f =>
    rw [hc] at h
    exact Field.toWire_itemCount? h

/-- A list that is one parameter has one placeholder, and so has every scalar. -/
theorem placed_of_single (hb : o.bind = true) (h : o.nested = true ∨ v.itemCount? = none) :
    o.placed v = placeholder v := by
  unfold placed
  rw [if_pos hb]
  split
  · rename_i hn
    rcases h with h | h
    · rw [hn] at h
      cases h
    · cases h
  · rfl

/-- A scalar is bound as what its field makes of it. -/
theorem value_of_toWire {f : Field} (hb : o.bind = true) (hc : o.converter = some f) (hw : f.toWire v = .ok w)
    (hl : v.itemCount? = none) : o.value v = placeholder w := by
  have hconverted : o.converted v = .ok w := by
    rw [converted, hc]
    exact hw
  rw [value_of_ok hconverted]
  exact placed_of_single hb (.inr ((Field.toWire_itemCount? hw).trans hl))

theorem placed_list (hb : o.bind = true) (hn : o.nested = false) (items : List Value) :
    o.placed (.list items) = separated (items.map placeholder) := by
  unfold placed
  rw [if_pos hb, hn]

/-- What is bound for a literal has a placeholder for each of its values. -/
theorem exists_items_of_value (hb : o.bind = true) (hn : o.nested = false) (hf : (o.value v).failure = none) :
    ∃ items, o.value v = ⟨Text.commaSeparated (items.map fun _ => "%s"), items, none⟩ := by
  obtain ⟨w, hw⟩ := converted_of_value hf
  rw [value_of_ok hw]
  cases hc : w.itemCount? with
  | none => exact ⟨[w], placed_of_single hb (.inr hc)⟩
  | some n =>
    obtain ⟨items, rfl⟩ := Value.exists_of_itemCount? hc
    exact ⟨items, (placed_list hb hn items).trans (separated_placeholders items)⟩

/-- A literal that is one parameter is a placeholder, unless its conversion fails. -/
theorem value_of_single (hb : o.bind = true) (h : o.nested = true ∨ v.itemCount? = none)
    (hf : (o.value v).failure = none) : ∃ w, o.value v = placeholder w := by
  obtain ⟨w, hw⟩ := converted_of_value hf
  refine ⟨w, ?_⟩
  rw [value_of_ok hw]
  exact placed_of_single hb (h.imp id fun hv => (converted_itemCount? hw).trans hv)

end SqlMapper.Options
