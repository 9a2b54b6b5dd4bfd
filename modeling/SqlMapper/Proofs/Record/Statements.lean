import SqlMapper.Proofs.Record.Key
import SqlMapper.Proofs.Statement.Insert
import SqlMapper.Proofs.Statement.Query

/-!
# Statements of records

The statements by which a record is written: one that inserts a row into its table, one that assigns columns in the row
with its key, and one that deletes that row. An update or a deletion on the key that is rendered at all is such a
statement, and the value that it compares the key with is what the key's column binds (`Update.render_keyIs`,
`Delete.render_keyIs`).
-/

namespace SqlMapper

/-- A row is inserted. -/
def Query.IsInsert (q : Query) : Prop := ∃ rest, q.sql = "INSERT " ++ rest

/-- A row is inserted into the table. -/
def Table.Inserts (t : Table) (q : Query) : Prop := ∃ rest, q.sql = "INSERT INTO " ++ t.ref.text ++ " (" ++ rest

/-- The assignment to a column, with a placeholder for each value that is bound for it. -/
def assignmentText (a : String × List Value) : String :=
  Literal.identifier a.1 ++ "=" ++ Text.commaSeparated (a.2.map fun _ => "%s")

/-- The statement that assigns columns, in the row with a key. -/
def Table.updateOf (t : Table) (assigned : List (String × List Value)) (key : Value) : Query :=
  ⟨"UPDATE " ++ t.ref.text ++ " SET " ++ Text.commaSeparated (assigned.map assignmentText) ++
      " WHERE (" ++ Literal.identifier t.primaryKey.field.name ++ " = %s);",
    .single (assigned.flatMap Prod.snd ++ [key])⟩

/-- The statement that deletes the row with a key. -/
def Table.deleteOf (t : Table) (key : Value) : Query :=
  ⟨"DELETE FROM " ++ t.ref.text ++ " WHERE (" ++ Literal.identifier t.primaryKey.field.name ++ " = %s) LIMIT 1;",
    .single [key]⟩

variable {t : Table} {q : Query} {key w : Value}

theorem head?_toList_append {s u : String} {c : Char} (h : s.toList.head? = some c) :
    (s ++ u).toList.head? = some c := by
  rw [String.toList_append, List.head?_append, h]
  rfl

theorem Query.IsInsert.head? (h : q.IsInsert) : q.sql.toList.head? = some 'I' := by
  obtain ⟨rest, hq⟩ := h
  rw [hq]
  exact head?_toList_append (by decide +kernel)

theorem Table.not_isInsert_updateOf {assigned : List (String × List Value)} : ¬ (t.updateOf assigned w).IsInsert := by
  intro h
  have hhead : (t.updateOf assigned w).sql.toList.head? = some 'U' := by
    unfold updateOf
    iterate 6 apply head?_toList_append
    decide +kernel
  exact absurd (hhead.symm.trans h.head?) (by decide)

theorem Table.not_isInsert_deleteOf : ¬ (t.deleteOf w).IsInsert := by
  intro h
  have hhead : (t.deleteOf w).sql.toList.head? = some 'D' := by
    unfold deleteOf
    iterate 4 apply head?_toList_append
    decide +kernel
  exact absurd (hhead.symm.trans h.head?) (by decide)

theorem Query.exists_terminated (s : String) : ∃ rest, terminated s = s ++ rest := by
  unfold terminated
  split
  · exact ⟨"", String.append_empty.symm⟩
  · exact ⟨";", rfl⟩

theorem Insert.inserts_of_render {i : Insert} {s s' : Supply} (h : i.render.Gives s q s') (hr : i.isReplace = false) :
    i.table.Inserts q := by
  obtain ⟨_, _, bound, _, -, -, hq, -⟩ := render_gives h
  obtain ⟨rest, hrest⟩ := Query.exists_terminated (i.text (bound.map (·.1.name)))
  rw [hrest, text, hr] at hq
  rw [String.append_assoc, String.append_assoc, String.append_assoc, String.append_assoc] at hq
  exact ⟨_, hq⟩

/-! ## Assigned columns -/

theorem Update.assignment_text {f : Field} {v : Value} (h : (assignment f (.value v)).failure = none) :
    (assignment f (.value v)).text = assignmentText (f.name, (assignment f (.value v)).params) := by
  obtain ⟨items, hitems⟩ := Options.exists_items_of_value rfl rfl (Piece.append_failure_eq_none.1 h).2
  unfold assignment Operand.piece
  rw [hitems]
  rfl

theorem Update.mem_assigned {f : Field} {value : Operand} {a : Field × Operand} :
    ∀ {assignments : List (Field × Operand)}, a ∈ assigned f value assignments → a.2 = value ∨ a ∈ assignments
  | [], h => .inl (by rw [List.mem_singleton.1 h])
  | (g, old) :: rest, h => by
    unfold assigned at h
    split at h
    · rcases List.mem_cons.1 h with rfl | h
      · exact .inl rfl
      · exact .inr (List.mem_cons_of_mem _ h)
    · rcases List.mem_cons.1 h with rfl | h
      · exact .inr List.mem_cons_self
      · exact (mem_assigned h).imp id (List.mem_cons_of_mem _)

theorem Update.assign_eq_ok {u u' : Update} {attr : String} {value : Operand} (h : u.assign attr value = .ok u') :
    ∃ f, u' = { u with assignments := assigned f value u.assignments } := by
  obtain ⟨f, -, h⟩ := Result.bind_eq_ok.1 h
  split at h
  · cases h
  · exact ⟨f, (Except.ok.inj h).symm⟩

/-- Assigning values gives an update of the same table that assigns nothing but values. -/
theorem Update.setAll_eq_ok : ∀ {pairs : List (String × Value)} {u u' : Update}, u.setAll pairs = .ok u' →
    (∀ a ∈ u.assignments, ∃ v, a.2 = .value v) → u'.table = u.table ∧ ∀ a ∈ u'.assignments, ∃ v, a.2 = .value v
  | [], _, _, h, hu => by
    obtain rfl := Except.ok.inj h
    exact ⟨rfl, hu⟩
  | (attr, v) :: pairs, u, u', h, hu => by
    obtain ⟨_, hset, h⟩ := Result.bind_eq_ok.1 h
    obtain ⟨f, rfl⟩ := assign_eq_ok hset
    have hassigned : ∀ a ∈ assigned f (.value v) u.assignments, ∃ v, a.2 = .value v := fun a ha =>
      (mem_assigned ha).elim (fun hv => ⟨v, hv⟩) (hu a)
    exact ⟨(setAll_eq_ok h hassigned).1, (setAll_eq_ok h hassigned).2⟩

/-- The columns of an update with the values that are bound for each. -/
def Update.boundColumns (u : Update) : List (String × List Value) :=
  u.assignments.map fun a => (a.1.name, (assignment a.1 a.2).params)

/-- The assignments of an update of values that does not fail. -/
theorem Update.separated_assignments {u : Update} (hu : ∀ a ∈ u.assignments, ∃ v, a.2 = .value v)
    (h : (Piece.separated (u.assignments.map fun a => assignment a.1 a.2)).failure = none) :
    Piece.separated (u.assignments.map fun a => assignment a.1 a.2) =
      ⟨Text.commaSeparated (u.boundColumns.map assignmentText), u.boundColumns.flatMap Prod.snd, none⟩ := by
  have hassigned := Piece.separated_failure_eq_none.1 h
  have htexts : (u.assignments.map fun a => (assignment a.1 a.2).text) = u.boundColumns.map assignmentText := by
    rw [boundColumns, List.map_map]
    refine List.map_congr_left fun a ha => ?_
    obtain ⟨v, hv⟩ := hu a ha
    have hok := hassigned _ (List.mem_map_of_mem ha)
    rw [hv] at hok
    show (assignment a.1 a.2).text = assignmentText (a.1.name, (assignment a.1 a.2).params)
    rw [hv]
    exact assignment_text hok
  rw [Piece.separated_of_ok hassigned, List.map_map, List.flatMap_map, boundColumns, List.flatMap_map, ← boundColumns,
    ← htexts]
  rfl

/-! ## The row with a key -/

/-- The statement of an update in the row with a key, where neither the assignments nor the key fail. -/
theorem Update.ofPiece_keyIs {u : Update} {texts : List String} {params : List Value}
    (hset : Piece.separated (u.assignments.map fun a => assignment a.1 a.2) =
      ⟨Text.commaSeparated texts, params, none⟩)
    (hf : u.filter = some (Record.keyIs u.table key)) (hn : key.isNull = false) (hl : key.itemCount? = none)
    (hw : u.table.primaryKey.field.toWire key = .ok w) :
    Query.ofPiece u.piece = .ok ⟨"UPDATE " ++ u.table.ref.text ++ " SET " ++ Text.commaSeparated texts ++
      " WHERE (" ++ Literal.identifier u.table.primaryKey.field.name ++ " = %s);", .single (params ++ [w])⟩ := by
  have hpiece : u.piece = ⟨"UPDATE " ++ u.table.ref.text ++ " SET " ++ Text.commaSeparated texts ++
      (" WHERE (" ++ Literal.identifier u.table.primaryKey.field.name ++ " = %s)"), params ++ [w], none⟩ := by
    rw [piece_eq, hset, hf, Record.clause_keyIs hn hl hw]
    rfl
  rw [hpiece]
  refine Query.ofPiece_eq_ok_iff.2 ⟨rfl, ?_⟩
  rw [Query.terminated_condition]

/-- An update in the row with a key, if it can be made at all. -/
theorem Update.render_keyIs {u : Update} (h : u.render = .ok q) (ht : u.table = t)
    (hf : u.filter = some (Record.keyIs t key)) (hu : ∀ a ∈ u.assignments, ∃ v, a.2 = .value v)
    (hn : key.isNull = false) (hl : key.isList = false) :
    ∃ assigned w, t.primaryKey.field.toWire key = .ok w ∧ q = t.updateOf assigned w := by
  subst ht
  have hok := (Query.ofPiece_eq_ok_iff.1 (render_eq_ok h)).1
  rw [piece_eq, hf] at hok
  obtain ⟨hset, hclause⟩ := Piece.append_failure_eq_none.1 hok
  obtain ⟨w, hw⟩ := Record.exists_toWire_of_clause_keyIs hn hclause
  have hassignments := separated_assignments hu (Piece.append_failure_eq_none.1 hset).2
  have hq := ofPiece_keyIs hassignments hf hn (Value.itemCount?_eq_none hl) hw
  exact ⟨u.boundColumns, w, hw, Except.ok.inj ((render_eq_ok h).symm.trans hq)⟩

/-- A deletion of the row with a key, if it can be made at all. -/
theorem Delete.render_keyIs
    (h : ({ table := t, filter := some (Record.keyIs t key), limit := some 1 } : Delete).render = .ok q)
    (hn : key.isNull = false) (hl : key.isList = false) :
    ∃ w, t.primaryKey.field.toWire key = .ok w ∧ q = t.deleteOf w := by
  obtain ⟨hok, rfl⟩ := Query.ofPiece_eq_ok_iff.1 (render_eq_ok h)
  unfold piece at hok ⊢
  obtain ⟨w, hw⟩ := Record.exists_toWire_of_clause_keyIs hn
    (Piece.append_failure_eq_none.1 (Piece.append_failure_eq_none.1 hok).1).2
  refine ⟨w, hw, ?_⟩
  dsimp only
  rw [Record.clause_keyIs hn (Value.itemCount?_eq_none hl) hw]
  exact congrArg (fun sql => (⟨sql, _⟩ : Query)) (Query.terminated_limited_condition _ _)

end SqlMapper
