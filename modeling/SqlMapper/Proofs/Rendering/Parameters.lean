import SqlMapper.Proofs.Connection.Placeholder
import SqlMapper.Proofs.Rendering.Invariant

/-!
# Placeholders and parameters of pieces

A piece is balanced if its text marks as many parameters as it has, and can be read whatever follows it. Where no
percent sign is spelled, the pieces that rendering composes are balanced and so is what it composes them to, also
where an error cuts it short (`balanced_invariant`).
-/

namespace SqlMapper

open Placeholder

/-! ## Texts without placeholders -/

/-- No percent sign is spelled. -/
def Spelling.percentFree : Spelling := ⟨fun s => '%' ∉ s.toList, fun s => '%' ∉ s.toList⟩

/-- Quotes bring no percent sign. -/
theorem percent_notMem_identifier {s : String} (h : '%' ∉ s.toList) : '%' ∉ (Literal.identifier s).toList := by
  simp only [Literal.identifier, String.toList_ofList, List.cons_append, List.mem_cons, List.mem_append,
    List.mem_flatMap, List.not_mem_nil, or_false, not_or, not_exists, not_and]
  refine ⟨by decide, fun c hc => ?_, by decide⟩
  unfold Literal.escapeIdentifier
  split
  · decide
  · rw [List.mem_singleton]
    intro e
    exact h (e ▸ hc)

theorem marks_identifier {s : String} (h : '%' ∉ s.toList) : Marks (Literal.identifier s) 0 :=
  marks_zero_of_no_percent (percent_notMem_identifier h)

/-- The remainder is the one fixed text with a percent sign, and a space follows it. -/
theorem marks_keyword {s : String} (h : s ∈ Piece.keywords) : Marks s 0 := by
  rcases List.mem_append.1 h with h | h
  · have hfree : ∀ s ∈ Piece.clauseTexts, '%' ∉ s.toList := by decide
    exact marks_zero_of_no_percent (hfree s h)
  · obtain ⟨op, -, rfl⟩ := List.mem_map.1 h
    cases op with
    | remainder => exact ⟨closed_remainder, marked_remainder⟩
    | _ => exact marks_zero_of_no_percent (by decide)

theorem marks_repr (n : Nat) : Marks (Nat.repr n) 0 := by
  apply marks_zero_of_no_percent
  intro h
  rw [Nat.repr, String.toList_ofList] at h
  have := Nat.isDigit_of_mem_toDigits (by decide) (by decide) h
  exact absurd this (by decide)

/-- Items that mark a parameter each. -/
theorem marks_commaSeparated : ∀ {items : List String}, (∀ s ∈ items, Marks s 1) →
    Marks (Text.commaSeparated items) items.length
  | [], _ => marks_zero_of_no_percent (s := "") (by decide)
  | [s], h => by
    rw [Text.commaSeparated_singleton]
    exact h s List.mem_cons_self
  | s :: t :: items, h => by
    have ih := marks_commaSeparated fun u hu => h u (List.mem_cons_of_mem _ hu)
    have hs := (h s List.mem_cons_self).append (marks_zero_of_no_percent (s := ", ") (by decide))
    rw [Text.commaSeparated_cons_cons, List.length_cons, Nat.add_comm]
    exact hs.append ih

theorem marks_joinedBy {separator : String} (hsep : Marks separator 0) : ∀ {items : List String},
    (∀ s ∈ items, Marks s 0) → Marks (Text.joinedBy separator items) 0
  | [], _ => marks_zero_of_no_percent (s := "") (by decide)
  | [s], h => h s List.mem_cons_self
  | s :: t :: items, h => by
    have ih := marks_joinedBy hsep fun u hu => h u (List.mem_cons_of_mem _ hu)
    rw [Text.joinedBy]
    · refine ((h s List.mem_cons_self).append_zero ?_).append_zero ih
      split
      · exact marks_zero_of_no_percent (by decide)
      · exact hsep
    · simp

/-! ## Balanced pieces -/

/-- The text marks as many parameters as the piece has. -/
def Piece.Balanced (p : Piece) : Prop := Marks p.text p.params.length

namespace Piece

theorem Balanced.append {a b : Piece} (ha : a.Balanced) (hb : b.Balanced) : (a ++ b).Balanced := by
  cases h : a.failure with
  | some e => rwa [append_of_failed h]
  | none =>
    rw [append_of_ok h]
    show Marks (a.text ++ b.text) (a.params ++ b.params).length
    rw [List.length_append]
    exact Marks.append ha hb

theorem Balanced.inParens {p : Piece} (h : p.Balanced) : p.inParens.Balanced := by
  refine Marks.append_zero (Marks.zero_append ?_ h) ?_ <;> exact marks_zero_of_no_percent (by decide)

end Piece

/-- **Placeholders and parameters stay balanced** in whatever rendering composes. -/
theorem balanced_invariant : Piece.Invariant .percentFree Piece.Balanced where
  append := Piece.Balanced.append
  inParens := Piece.Balanced.inParens
  call distinct hf hargs := by
    refine Piece.Balanced.append (Piece.Balanced.append ?_ hargs) (marks_zero_of_no_percent (by decide))
    refine ((marks_zero_of_no_percent hf).append_zero (marks_zero_of_no_percent (by decide))).append_zero ?_
    cases distinct <;> exact marks_zero_of_no_percent (by decide)
  placeholder _ := marks_placeholder
  failed _ := marks_zero_of_no_percent (s := "") (by decide)
  keyword := marks_keyword
  identifier := marks_identifier
  verbatim := marks_zero_of_no_percent
  number := marks_repr

end SqlMapper
