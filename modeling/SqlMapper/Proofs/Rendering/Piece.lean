import SqlMapper.Rendering.Piece
import SqlMapper.Text.Joined

/-!
# Laws of pieces

What a composed piece has written, bound and reported, from its parts. A piece fails with the first failure of its
parts (`append_failure`), and one that does not fail has the texts and the parameters of all of them
(`append_of_ok`).
-/

namespace SqlMapper

theorem Text.commaSeparated_singleton (s : String) : commaSeparated [s] = s := String.intercalate_singleton

theorem Text.commaSeparated_cons_cons (s t : String) (items : List String) :
    commaSeparated (s :: t :: items) = s ++ ", " ++ commaSeparated (t :: items) :=
  String.intercalate_cons_cons

namespace Piece

variable {a b : Piece}

@[simp] theorem ofText_text (s : String) : (ofText s).text = s := rfl

@[simp] theorem ofText_params (s : String) : (ofText s).params = [] := rfl

@[simp] theorem ofText_failure (s : String) : (ofText s).failure = none := rfl

@[simp] theorem placeholder_text (v : Value) : (placeholder v).text = "%s" := rfl

@[simp] theorem inParens_text (p : Piece) : p.inParens.text = "(" ++ p.text ++ ")" := rfl

/-- Nothing follows an error. -/
theorem append_of_failed {e : Error} (h : a.failure = some e) : a ++ b = a := by
  show andThen a b = a
  simp [andThen, h]

/-- A piece is continued where no error cut it short. -/
theorem append_of_ok (h : a.failure = none) : a ++ b = ⟨a.text ++ b.text, a.params ++ b.params, b.failure⟩ := by
  show andThen a b = _
  simp [andThen, h]

/-- The first failure counts. -/
@[simp] theorem append_failure (a b : Piece) : (a ++ b).failure = a.failure.or b.failure := by
  cases h : a.failure with
  | none => simp [append_of_ok h]
  | some e => simp [append_of_failed h, h]

theorem append_failure_eq_none : (a ++ b).failure = none ↔ a.failure = none ∧ b.failure = none := by
  simp

/-- The text of two pieces that do not fail. -/
theorem append_text (h : (a ++ b).failure = none) : (a ++ b).text = a.text ++ b.text := by
  rw [append_of_ok (append_failure_eq_none.1 h).1]

/-- The parameters of two pieces that do not fail. -/
theorem append_params (h : (a ++ b).failure = none) : (a ++ b).params = a.params ++ b.params := by
  rw [append_of_ok (append_failure_eq_none.1 h).1]

theorem append_assoc (a b c : Piece) : a ++ b ++ c = a ++ (b ++ c) := by
  cases ha : a.failure with
  | some e => rw [append_of_failed (a := a) ha, append_of_failed ha, append_of_failed ha]
  | none =>
    cases hb : b.failure with
    | some e =>
      have hab : (a ++ b).failure = some e := by simp [ha, hb]
      rw [append_of_failed hab, append_of_failed hb]
    | none =>
      have hab : (a ++ b).failure = none := append_failure_eq_none.2 ⟨ha, hb⟩
      rw [append_of_ok hab, append_of_ok ha, append_of_ok ha, append_of_ok hb, String.append_assoc, List.append_assoc]

theorem append_nothing (p : Piece) : p ++ nothing = p := by
  cases h : p.failure with
  | some e => exact append_of_failed h
  | none =>
    rw [append_of_ok h]
    cases p
    simp_all [nothing]

@[simp] theorem separated_singleton (p : Piece) : separated [p] = p := rfl

theorem separated_cons_cons (p q : Piece) (ps : List Piece) :
    separated (p :: q :: ps) = p ++ ofText ", " ++ separated (q :: ps) := rfl

theorem separated_failure_eq_none : ∀ {ps : List Piece}, (separated ps).failure = none ↔ ∀ p ∈ ps, p.failure = none
  | [] => iff_of_true rfl fun _ hp => absurd hp List.not_mem_nil
  | [p] => by simp
  | p :: q :: ps => by
    rw [separated_cons_cons, append_failure_eq_none, append_failure_eq_none, separated_failure_eq_none,
      List.forall_mem_cons (l := q :: ps)]
    exact and_congr_left' (and_iff_left rfl)

/-- Pieces that do not fail are written with commas between them, and bind their parameters one after the other. -/
theorem separated_of_ok : ∀ {ps : List Piece}, (∀ p ∈ ps, p.failure = none) →
    separated ps = ⟨Text.commaSeparated (ps.map text), ps.flatMap params, none⟩
  | [], _ => rfl
  | [p], h => by
    rw [separated_singleton, List.map_singleton, List.flatMap_singleton, Text.commaSeparated_singleton,
      ← h p List.mem_cons_self]
  | p :: q :: ps, h => by
    obtain ⟨hp, hps⟩ := List.forall_mem_cons.1 h
    have htext : Text.commaSeparated ((p :: q :: ps).map text) =
        p.text ++ ", " ++ Text.commaSeparated ((q :: ps).map text) := Text.commaSeparated_cons_cons _ _ _
    rw [separated_cons_cons, separated_of_ok hps, htext, append_of_ok (append_failure_eq_none.2 ⟨hp, rfl⟩),
      append_of_ok hp]
    simp

theorem separated_ofText (items : List String) : separated (items.map ofText) = ofText (Text.commaSeparated items) := by
  rw [separated_of_ok (by simp)]
  simp [ofText, Function.comp_def]

/-- Placeholders with commas between them stand for the values one after the other. -/
theorem separated_placeholders (items : List Value) :
    separated (items.map placeholder) = ⟨Text.commaSeparated (items.map fun _ => "%s"), items, none⟩ := by
  rw [separated_of_ok (by simp [placeholder])]
  simp [placeholder, Function.comp_def, List.flatMap_map]

end Piece

end SqlMapper
