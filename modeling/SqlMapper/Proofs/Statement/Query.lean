import SqlMapper.Statement.Change

/-!
# Statements of pieces

A statement that is rendered at all is the statement of its piece, and the piece does not fail. A semicolon ends the
text (`Query.terminated_append`).
-/

namespace SqlMapper

/-- The statement of a piece, if the piece does not fail. -/
theorem Query.ofPiece_eq_ok_iff {p : Piece} {q : Query} :
    Query.ofPiece p = .ok q ↔ p.failure = none ∧ q = ⟨terminated p.text, .single p.params⟩ := by
  unfold ofPiece Piece.outcome
  cases p.failure with
  | some e =>
    show (Except.error e : Result Query) = .ok q ↔ _
    simp
  | none =>
    show (Except.ok (⟨terminated p.text, .single p.params⟩ : Query) : Result Query) = .ok q ↔ _
    simp [eq_comm]

theorem Update.piece_eq (u : Update) : u.piece = .ofText ("UPDATE " ++ u.table.ref.text ++ " SET ") ++
    Piece.separated (u.assignments.map fun a => assignment a.1 a.2) ++ Expr.clause {} " WHERE " u.filter := rfl

/-- An update assigns something. -/
theorem Update.render_eq_ok {u : Update} {q : Query} (h : u.render = .ok q) : Query.ofPiece u.piece = .ok q := by
  unfold render at h
  split at h
  · cases h
  · exact h

/-- A delete has a condition or is confirmed. -/
theorem Delete.render_eq_ok {d : Delete} {q : Query} (h : d.render = .ok q) : Query.ofPiece d.piece = .ok q := by
  unfold render at h
  split at h
  · cases h
  · exact h

/-- A statement that ends with something else gets its semicolon. -/
theorem Query.terminated_append {s u : String} {c : Char} (hu : u.toList.getLast? = some c) (hc : c ≠ ';') :
    terminated (s ++ u) = s ++ (u ++ ";") := by
  have hlast : (s ++ u).toList.getLast? ≠ some ';' := by
    rw [String.toList_append, List.getLast?_append, hu]
    simpa using hc
  unfold terminated
  rw [if_neg hlast, String.append_assoc]

/-- A statement that ends with a parenthesis. -/
theorem Query.terminated_paren (s : String) : terminated (s ++ ")") = s ++ ");" :=
  terminated_append rfl (by decide)

/-- A statement that ends with a condition on a column. -/
theorem Query.terminated_condition (s column : String) :
    terminated (s ++ (" WHERE (" ++ column ++ " = %s)")) = s ++ " WHERE (" ++ column ++ " = %s);" := by
  have hparen : s ++ (" WHERE (" ++ column ++ " = %s)") = s ++ " WHERE (" ++ column ++ " = %s" ++ ")" := by
    apply String.toList_injective
    simp
  rw [hparen, terminated_paren, String.append_assoc]
  rfl

/-- A statement that ends with a condition on a column and takes one row. -/
theorem Query.terminated_limited_condition (s column : String) :
    terminated (s ++ (" WHERE (" ++ column ++ " = %s)") ++ " LIMIT 1") =
      s ++ " WHERE (" ++ column ++ " = %s) LIMIT 1;" := by
  rw [terminated_append (c := '1') rfl (by decide)]
  apply String.toList_injective
  simp

end SqlMapper
