import SqlMapper.Proofs.Field.RoundTrip
import SqlMapper.Proofs.Ordered
import SqlMapper.Proofs.Rendering.Options
import SqlMapper.Proofs.Table.WellFormed
import SqlMapper.Proofs.Value.Same
import SqlMapper.Record.Saving

/-!
# Keys of records

A numbered key that a record has is not given up: a write either leaves it or puts an equal value in its place
(`Record.key?_of_set`), and equal values are bound as one number (`Field.toWire_of_same`). The condition on a key
compares its column with that number (`Record.clause_keyIs`).
-/

namespace SqlMapper

/-! ## Equal keys -/

namespace Field

variable {f : Field} {a b c w : Value}

theorem take_eq_ok_iff {α : Type} {expected : String} {reading : Option α} {x : α} :
    f.take a expected reading = .ok x ↔ reading = some x := by
  constructor
  · exact take_eq_ok
  · rintro rfl
    rfl

/-- A column of integers takes the integers that values denote. -/
theorem toWire_of_integer (hi : f.kind.isInteger = true) (hn : a.isNull = false) (hl : a.isList = false) :
    f.toWire a = f.wireInteger a := by
  rw [toWire_of_scalar hn hl]
  unfold scalarToWire
  cases hk : f.kind with
  | integer => rfl
  | _ =>
    rw [hk] at hi
    cases hi

/-- A column of integers binds equal values as one number. -/
theorem toWire_of_same (hi : f.kind.isInteger = true) (hl : a.isList = false) (h : a.same b = true) :
    f.toWire a = .ok w ↔ f.toWire b = .ok w := by
  have hinteger := Value.integer?_of_same h
  let number (n : Int) : Option Value := ((Value.int64? n).map Value.int).or ((Value.uint64? n).map Value.uint)
  have hread {v : Value} (hn : v.isNull = false) (hl : v.isList = false)
      (hv : f.wireInteger v = f.take v "an integer" (v.integer?.bind number)) :
      f.toWire v = .ok w ↔ v.integer?.bind number = some w := by
    rw [toWire_of_integer hi hn hl, hv, take_eq_ok_iff]
  rcases Value.same_cases h with rfl | ⟨_, _, rfl, rfl, -⟩ | ⟨_, _, rfl, rfl, -⟩ | ⟨_, _, rfl, rfl, -⟩ | ⟨_, _, rfl, -⟩
  · rfl
  · rw [hread rfl rfl rfl, hread rfl rfl rfl, hinteger]
  · rw [hread rfl rfl rfl, hread rfl rfl rfl, hinteger]
  · rw [hread rfl rfl rfl, hread rfl rfl rfl, hinteger]
  · cases hl

/-- The key is the one that it was: an equal value, which is bound as the same number. -/
structure SameKey (f : Field) (key key' : Value) : Prop where
  equal : key' = key ∨ key.same key' = true
  bound : ∀ w, f.toWire key = .ok w ↔ f.toWire key' = .ok w

theorem SameKey.rfl : f.SameKey a a := ⟨.inl (Eq.refl a), fun _ => Iff.rfl⟩

theorem SameKey.of_same (hi : f.kind.isInteger = true) (hl : a.isList = false) (h : a.same b = true) : f.SameKey a b :=
  ⟨.inr h, fun _ => toWire_of_same hi hl h⟩

theorem SameKey.trans (hl : a.isList = false) (h : f.SameKey a b) (h' : f.SameKey b c) : f.SameKey a c := by
  refine ⟨?_, fun w => (h.bound w).trans (h'.bound w)⟩
  rcases h.equal with rfl | hab
  · exact h'.equal
  · rcases h'.equal with rfl | hbc
    · exact .inr hab
    · exact .inr (Value.same_trans hl hab hbc)

end Field

/-! ## The key of a record -/

/-- The field of the key is found under its attribute. -/
theorem Table.WellFormed.field_key {t : Table} (ht : t.WellFormed) :
    t.field t.primaryKey.attr = .ok t.primaryKey.field := by
  rw [Table.field, Ordered.mem_pairs_iff.1 ht.key_mem.1]

/-- A table that numbers its rows has a key of integers. -/
theorem Table.WellFormed.isInteger_key {t : Table} (ht : t.WellFormed) (ha : t.primaryKey.isAutoIncrement = true) :
    t.primaryKey.field.kind.isInteger = true :=
  (ht.numbered _ ht.key_mem.1 (ht.key_numbered.symm.trans ha)).2.1

namespace Record

variable {r r' : Record} {attr : String} {v key : Value}

theorem key?_eq_some : r.key? = some key ↔ r.get? r.table.primaryKey.attr = some key ∧ key.isNull = false := by
  simp [key?, Option.filter_eq_some_iff]

theorem key?_load_self (hn : v.isNull = false) : (r.load r.table.primaryKey.attr v).key? = some v :=
  key?_eq_some.2 ⟨Ordered.get?_insert_self, hn⟩

theorem key?_load_of_ne (h : r.table.primaryKey.attr ≠ attr) : (r.load attr v).key? = r.key? := by
  have hget : (r.load attr v).get? r.table.primaryKey.attr = r.get? r.table.primaryKey.attr :=
    Ordered.get?_insert_of_ne h
  unfold key?
  rw [← hget]
  rfl

theorem set_eq_ok (h : r.set attr v = .ok r') :
    ∃ f, r.table.field attr = .ok f ∧ r.changesKey f attr v = false ∧ r' = r.load attr v := by
  unfold set at h
  obtain ⟨f, hf, h⟩ := Result.bind_eq_ok.1 h
  cases hc : r.changesKey f attr v with
  | true =>
    rw [hc, if_pos rfl] at h
    cases h
  | false =>
    rw [hc, if_neg (by decide)] at h
    exact ⟨f, hf, hc, (Except.ok.inj h).symm⟩

/-- A write keeps the key that a record has. -/
theorem key?_of_set (ht : r.table.WellFormed) (ha : r.table.primaryKey.isAutoIncrement = true)
    (h : r.set attr v = .ok r') (hk : r.key? = some key) (hl : key.isList = false) :
    ∃ key', r'.key? = some key' ∧ r.table.primaryKey.field.SameKey key key' := by
  obtain ⟨f, hf, hc, rfl⟩ := set_eq_ok h
  by_cases hattr : r.table.primaryKey.attr = attr
  · subst hattr
    obtain ⟨hget, hn⟩ := key?_eq_some.1 hk
    rw [ht.field_key] at hf
    obtain rfl := Except.ok.inj hf
    have hsame : key.same v = true := by
      simpa [changesKey, ← ht.key_numbered, ha, hget, hn] using hc
    exact ⟨v, key?_load_self ((Value.isNull_of_same hsame).trans hn), .of_same (ht.isInteger_key ha) hl hsame⟩
  · exact ⟨key, (key?_load_of_ne hattr).trans hk, .rfl⟩

/-! ## The condition on a key -/

variable {t : Table} {w : Value}

theorem clause_keyIs_eq (hn : key.isNull = false) : Expr.clause {} " WHERE " (some (keyIs t key)) =
    .ofText " WHERE " ++ (Piece.ofText (Literal.identifier t.primaryKey.field.name) ++ .ofText " = " ++
      Options.value { converter := some t.primaryKey.field } key).inParens := by
  have hop : keyIs t key = .binary .equal (.expr (.column t.primaryKeyColumn)) (.value key) := by
    have hnull : (Operand.value key).isNull = false := hn
    rw [keyIs, Expr.equal, hnull]
    rfl
  have hconverter : Expr.field? (.binary .equal (.expr (.column t.primaryKeyColumn)) (.value key)) =
      some t.primaryKey.field := rfl
  have hcolumn : Operand.piece { converter := some t.primaryKey.field } (.expr (.column t.primaryKeyColumn)) =
      .ofText (Literal.identifier t.primaryKey.field.name) := by
    simp [Operand.piece, Expr.piece, Column.written, Column.name, Table.primaryKeyColumn]
  rw [hop, Expr.clause, Expr.piece, hconverter]
  dsimp only
  rw [hcolumn, if_neg (by decide), if_neg (by simp [BinaryOp.isNullTest]), Operand.piece]
  rfl

/-- The condition on a key compares its column with the number that is bound for it. -/
theorem clause_keyIs (hn : key.isNull = false) (hl : key.itemCount? = none)
    (hw : t.primaryKey.field.toWire key = .ok w) : Expr.clause {} " WHERE " (some (keyIs t key)) =
      ⟨" WHERE (" ++ Literal.identifier t.primaryKey.field.name ++ " = %s)", [w], none⟩ := by
  have hv : Options.value { converter := some t.primaryKey.field } key = .placeholder w :=
    Options.value_of_toWire rfl rfl hw hl
  have htext : " WHERE " ++ ("(" ++ (Literal.identifier t.primaryKey.field.name ++ " = " ++ "%s") ++ ")") =
      " WHERE (" ++ Literal.identifier t.primaryKey.field.name ++ " = %s)" := by
    apply String.toList_injective
    simp
  rw [clause_keyIs_eq hn, hv, ← htext]
  rfl

/-- A condition on a key that does not fail binds a number for it. -/
theorem exists_toWire_of_clause_keyIs (hn : key.isNull = false)
    (h : (Expr.clause {} " WHERE " (some (keyIs t key))).failure = none) :
    ∃ w, t.primaryKey.field.toWire key = .ok w := by
  rw [clause_keyIs_eq hn, Piece.append_failure_eq_none] at h
  have hvalue := (Piece.append_failure_eq_none.1 h.2).2
  exact Options.converted_of_value hvalue

end Record

end SqlMapper
