import SqlMapper.Proofs.Record.Loading
import SqlMapper.Proofs.Record.Statements
import SqlMapper.Proofs.Rendering.Piece
import SqlMapper.Proofs.Value.Literal
import SqlMapper.Record.Saving

/-!
# Saving loaded rows

A record that was loaded from a stored row holds an application value for each column, and each of them is bound as
the stored value again. So replacing the row sends the values that were stored, in order (`Insert.render_cells`), and
so does updating the columns apart from the key, in the row with the stored number (`Update.render_cells`). Neither
draws a default value, and the executor is asked to run that statement and nothing else (`Record.save_of_load`).
-/

namespace SqlMapper

variable {t : Table} {ws : List Value}

/-- Work that draws nothing, whatever the supply. -/
theorem Action.drawing_of_gives {σ α : Type} {d : Drawing α} {a : α} (h : ∀ s, d.Gives s a s) :
    (Action.drawing d : Action σ α) = pure a := by
  refine ExceptT.ext (StateT.ext fun w => ?_)
  have hd : d.run w.supply = (.ok a, w.supply) := h w.supply
  show ((d.run w.supply).1, { w with supply := (d.run w.supply).2 }) = (Except.ok a, w)
  rw [hd]

/-! ## Replacing the row -/

namespace Insert

open Drawing

variable {i : Insert} {row : Values} {s : Supply}

/-- A cell gives the value that its column reads, and the stored value is bound for that. -/
def Given.ofCell (c : Column × Value) : Given := ⟨c.1.attr, c.1.field, c.1.field.loaded c.2, c.2⟩

theorem fits_ofCell {c : Column × Value} {isReplace : Bool} (hrecalls : c.1.field.Recalls c.2)
    (ha : c.1.field.isAutoIncrement = false) : (Given.ofCell c).Fits isReplace where
  bound := hrecalls.toWire_loaded
  nullable hn := hrecalls.stores.nullable (hrecalls.isNull_loaded ▸ hn)
  numbered hf := by
    rw [Given.ofCell, ha] at hf
    cases hf

/-- A single row with the read values of all cells makes a statement with their stored values. -/
theorem render_cells (hc : i.columns = none) (hrows : i.rows = [row]) {cells : List (Column × Value)}
    (hfields : (cells.map fun c => (c.1.attr, c.1.field)) = i.table.fields.pairs)
    (hrow : row.pairs = loadedValues cells)
    (h : ∀ c ∈ cells, c.1.field.Recalls c.2 ∧ c.1.field.isAutoIncrement = false) :
    i.render.Gives s ⟨Query.terminated (i.text (cells.map fun c => c.1.name)), .single (cells.map Prod.snd)⟩ s := by
  have hfields' : ((cells.map Given.ofCell).map fun g => (g.attr, g.field)) = i.table.fields.pairs :=
    List.map_map.trans hfields
  have hrow' : row.pairs = (cells.map Given.ofCell).map fun g => (g.attr, g.value) := by
    rw [List.map_map]
    exact hrow
  have hfits : ∀ g ∈ cells.map Given.ofCell, g.Fits i.isReplace := fun g hg => by
    obtain ⟨c, hc, rfl⟩ := List.mem_map.1 hg
    exact fits_ofCell (h c hc).1 (h c hc).2
  have hgiven : i.render.Gives s _ s := render_given hc hrows hfields' hrow' hfits
  rw [List.map_map, List.map_map] at hgiven
  exact hgiven

end Insert

/-! ## Texts -/

/-- Replaces a row: all columns in order, and a placeholder for each. -/
def Table.replaceText (t : Table) : String :=
  "REPLACE INTO " ++ t.ref.text ++ " (" ++ Text.commaSeparated (t.columns.map fun c => Literal.identifier c.name) ++
    ") VALUES (" ++ Text.commaSeparated (t.columns.map fun _ => "%s") ++ ");"

/-- Assigns placeholders to columns, in the row with a key. -/
def Table.updateText (t : Table) (columns : List Column) : String :=
  "UPDATE " ++ t.ref.text ++ " SET " ++ Text.commaSeparated (columns.map fun c => Literal.identifier c.name ++ "=%s") ++
    " WHERE (" ++ Literal.identifier t.primaryKey.field.name ++ " = %s);"

theorem Insert.terminated_text {i : Insert} (hr : i.isReplace = true) :
    Query.terminated (i.text (i.table.columns.map Column.name)) = i.table.replaceText := by
  have hnames : Text.joinedBy ", " ((i.table.columns.map Column.name).map Literal.identifier) =
      Text.commaSeparated (i.table.columns.map fun c => Literal.identifier c.name) := by
    rw [Literal.joinedBy_identifiers, List.map_map]
    rfl
  unfold text
  rw [Query.terminated_paren, hnames, hr, List.map_map]
  rfl

/-! ## Updating the other columns -/

/-- The assignments of the read values of some cells. -/
def loadedAssignments (cells : List (Column × Value)) : List (Field × Operand) :=
  cells.map fun c => (c.1.field, .value (c.1.field.loaded c.2))

theorem Update.assigned_of_notMem {f : Field} {value : Operand} : ∀ {assignments : List (Field × Operand)},
    f.name ∉ assignments.map (·.1.name) → assigned f value assignments = assignments ++ [(f, value)]
  | [], _ => rfl
  | (g, old) :: rest, h => by
    rw [List.map_cons, List.mem_cons, not_or] at h
    rw [assigned, if_neg (Ne.symm h.1), assigned_of_notMem h.2, List.cons_append]

/-- Columns that are not numbered are assigned in their order. -/
theorem Update.setAll_cells : ∀ {cells : List (Column × Value)} {u : Update},
    (∀ c ∈ cells, c.1 ∈ u.table.columns ∧ c.1.field.isAutoIncrement = false) →
    (u.assignments.map (·.1.name) ++ cells.map fun c => c.1.name).Nodup →
    u.setAll (loadedValues cells) = .ok { u with assignments := u.assignments ++ loadedAssignments cells }
  | [], u, _, _ => by simp [loadedValues, loadedAssignments, setAll]
  | ⟨c, w⟩ :: cells, u, hcells, hn => by
    obtain ⟨hc, ha⟩ := hcells _ List.mem_cons_self
    have hfresh : c.field.name ∉ u.assignments.map (·.1.name) := fun hm =>
      (List.nodup_append.1 hn).2.2 _ hm _ List.mem_cons_self rfl
    have hset : u.set c.attr (c.field.loaded w) =
        .ok { u with assignments := u.assignments ++ loadedAssignments [(c, w)] } := by
      refine Result.bind_eq_ok.2 ⟨c.field, Table.field_column hc, ?_⟩
      rw [ha, assigned_of_notMem hfresh]
      rfl
    have hrest : ((u.assignments ++ loadedAssignments [(c, w)]).map (·.1.name) ++
        cells.map fun c => c.1.name).Nodup := by
      rw [List.map_append, List.append_assoc]
      exact hn
    refine Result.bind_eq_ok.2 ⟨_, hset, ?_⟩
    have ih := setAll_cells (u := { u with assignments := u.assignments ++ loadedAssignments [(c, w)] })
      (fun c hm => hcells c (List.mem_cons_of_mem _ hm)) hrest
    rw [List.append_assoc] at ih
    exact ih

/-- A read value is bound as it was stored. -/
theorem Options.value_of_recalls {o : Options} {f : Field} {w : Value} (hw : f.Recalls w) (hb : o.bind = true)
    (hf : o.converter = some f) : o.value (f.loaded w) = .placeholder w :=
  value_of_toWire hb hf hw.toWire_loaded hw.itemCount?_loaded

theorem Update.assignment_of_recalls {f : Field} {w : Value} (hw : f.Recalls w) :
    assignment f (.value (f.loaded w)) = ⟨Literal.identifier f.name ++ "=%s", [w], none⟩ := by
  have hv : Operand.piece { converter := some f } (.value (f.loaded w)) = .placeholder w :=
    Options.value_of_recalls hw rfl rfl
  have htext : Literal.identifier f.name ++ "=" ++ "%s" = Literal.identifier f.name ++ "=%s" := String.append_assoc
  rw [assignment, hv, ← htext]
  rfl

/-- The statement that assigns the read values of some cells, one at least, in the row with the read key. -/
theorem Update.render_cells {u : Update} {cells : List (Column × Value)} (hne : cells ≠ [])
    (hcells : ∀ c ∈ cells, c.1.field.Recalls c.2) {key : Value} (hkey : u.table.primaryKey.field.Recalls key)
    (hn : key.isNull = false) (ha : u.assignments = loadedAssignments cells)
    (hf : u.filter = some (Record.keyIs u.table (u.table.primaryKey.field.loaded key))) :
    u.render = .ok ⟨u.table.updateText (cells.map Prod.fst), .single (cells.map Prod.snd ++ [key])⟩ := by
  have hassigned : u.assignments.isEmpty = false := by
    rw [ha, loadedAssignments, List.isEmpty_eq_false_iff]
    exact fun h => hne (List.map_eq_nil_iff.1 h)
  have hpieces : (u.assignments.map fun a => assignment a.1 a.2) =
      cells.map fun c => ⟨Literal.identifier c.1.name ++ "=%s", [c.2], none⟩ := by
    rw [ha, loadedAssignments, List.map_map]
    exact List.map_congr_left fun c hc => assignment_of_recalls (hcells c hc)
  have hset : Piece.separated (u.assignments.map fun a => assignment a.1 a.2) =
      ⟨Text.commaSeparated (cells.map fun c => Literal.identifier c.1.name ++ "=%s"), cells.map Prod.snd, none⟩ := by
    rw [hpieces, Piece.separated_of_ok (List.forall_mem_map.2 fun _ _ => rfl), List.map_map, List.flatMap_map,
      ← List.map_eq_flatMap]
    rfl
  unfold render
  rw [hassigned, if_neg (by decide), Table.updateText, List.map_map]
  exact ofPiece_keyIs hset hf (hkey.isNull_loaded.trans hn) hkey.itemCount?_loaded hkey.toWire_loaded

/-! ## Saving -/

/-- The cells of a row apart from that of the key. -/
def Table.others (t : Table) (ws : List Value) : List (Column × Value) :=
  (t.cells ws).filter fun c => c.1.attr ≠ t.primaryKey.attr

/-- Only the key of a table may be numbered. -/
theorem Table.WellFormed.numbered_column (ht : t.WellFormed) {c : Column} (hc : c ∈ t.columns)
    (ha : c.field.isAutoIncrement = true) : c.attr = t.primaryKey.attr ∧ t.primaryKey.isAutoIncrement = true := by
  have hm : (c.attr, c.field) ∈ t.fields.pairs := Ordered.mem_pairs_iff.2 (mem_columns_iff.1 hc).2
  obtain ⟨he, -, -⟩ := ht.numbered _ hm ha
  obtain ⟨hattr, hfield⟩ := Prod.mk.inj he
  exact ⟨hattr, by rw [ht.key_numbered, ← hfield, ha]⟩

theorem Table.WellFormed.nodup_names (ht : t.WellFormed) : (t.columns.map Column.name).Nodup := by
  have hn := ht.columns
  rw [← t.fields_columns, List.map_map] at hn
  exact hn

/-- The columns apart from the key have no numbers. -/
theorem Table.WellFormed.not_numbered_others (ht : t.WellFormed) :
    ∀ c ∈ t.others ws, c.1 ∈ t.columns ∧ c.1.field.isAutoIncrement = false := by
  intro c hc
  obtain ⟨hm, hattr⟩ := List.mem_filter.1 hc
  have hcol := column_of_mem_cells hm
  refine ⟨hcol, Bool.eq_false_iff.2 fun hf => ?_⟩
  exact (of_decide_eq_true hattr) (ht.numbered_column hcol hf).1

theorem Table.Stores.nodup_others (hws : t.Stores ws) (ht : t.WellFormed) :
    ((t.others ws).map fun c => c.1.name).Nodup := by
  have hsub : ((t.others ws).map fun c => c.1.name).Sublist (t.columns.map Column.name) := by
    rw [← hws.map_cells Column.name]
    exact List.filter_sublist.map _
  exact ht.nodup_names.sublist hsub

variable {r : Record}

/-- The key of a record with loaded values is the read number, where the row has one. -/
theorem Record.key?_of_cells (hvalues : r.values.pairs = loadedValues (r.table.cells ws)) {key : Value}
    (hkey : (r.table.primaryKeyColumn, key) ∈ r.table.cells ws) (hrecalled : r.table.primaryKey.field.Recalls key)
    (hn : key.isNull = false) : r.key? = some (r.table.primaryKey.field.loaded key) := by
  have hm : (r.table.primaryKey.attr, r.table.primaryKey.field.loaded key) ∈ r.values.pairs := by
    rw [hvalues]
    exact List.mem_map_of_mem (f := fun c : Column × Value => (c.1.attr, c.1.field.loaded c.2)) hkey
  have hv : r.get? r.table.primaryKey.attr = some (r.table.primaryKey.field.loaded key) := Ordered.mem_pairs_iff.1 hm
  rw [key?, hv, Option.filter_some, hrecalled.isNull_loaded, hn]
  rfl

theorem Record.otherValues_of_cells (hvalues : r.values.pairs = loadedValues (r.table.cells ws)) :
    r.otherValues = loadedValues (r.table.others ws) := by
  rw [otherValues, hvalues, loadedValues, List.filter_map]
  rfl

/-- A table without numbers: saving replaces the row. -/
theorem Record.save_of_replacing (ht : r.table.WellFormed) (hws : r.table.Stores ws) (hshows : r.table.Shows ws)
    (hvalues : r.values.pairs = loadedValues (r.table.cells ws)) (ha : r.table.primaryKey.isAutoIncrement = false)
    {σ : Type} (e : Executor σ) : r.save e = (·, r) <$> e.execute ⟨r.table.replaceText, .single ws⟩ := by
  have hcells : ∀ c ∈ r.table.cells ws, c.1.field.Recalls c.2 ∧ c.1.field.isAutoIncrement = false := by
    refine fun c hc => ⟨hws.recalls hshows c hc, Bool.eq_false_iff.2 fun hf => ?_⟩
    have := (ht.numbered_column (Table.column_of_mem_cells hc) hf).2
    rw [ha] at this
    cases this
  have hfields : ((r.table.cells ws).map fun c => (c.1.attr, c.1.field)) = r.table.fields.pairs := by
    rw [hws.map_cells fun c => (c.attr, c.field), r.table.fields_columns]
  have hnames : ((r.table.cells ws).map fun c => c.1.name) = r.table.columns.map Column.name :=
    hws.map_cells Column.name
  have hrender (s : Supply) :
      ({ table := r.table, rows := [r.values], isReplace := true } : Insert).render.Gives s
        ⟨r.table.replaceText, .single ws⟩ s := by
    have hgives := Insert.render_cells (i := { table := r.table, rows := [r.values], isReplace := true }) (s := s)
      rfl rfl hfields hvalues hcells
    rwa [hnames, Insert.terminated_text rfl, hws.snd_cells] at hgives
  have hrun : ({ table := r.table, rows := [r.values], isReplace := true } : Insert).run e =
      e.execute ⟨r.table.replaceText, .single ws⟩ := by
    rw [Insert.run, Action.drawing_of_gives hrender, pure_bind]
  unfold save
  dsimp only
  rw [ha, hrun, map_eq_pure_bind]
  rfl

/-- A record with the number of its row: saving updates the other columns, if there are any. -/
theorem Record.save_of_numbered (ht : r.table.WellFormed) (hws : r.table.Stores ws) (hshows : r.table.Shows ws)
    (hvalues : r.values.pairs = loadedValues (r.table.cells ws)) (ha : r.table.primaryKey.isAutoIncrement = true)
    {key : Value} (hkey : (r.table.primaryKeyColumn, key) ∈ r.table.cells ws) (hn : key.isNull = false)
    {σ : Type} (e : Executor σ) :
    (r.table.others ws = [] → r.save e = pure (.zero, r)) ∧
      (r.table.others ws ≠ [] → r.save e = (·, r) <$> e.execute ⟨r.table.updateText ((r.table.others ws).map Prod.fst),
        .single ((r.table.others ws).map Prod.snd ++ [key])⟩) := by
  have hrecalled : r.table.primaryKey.field.Recalls key := hws.recalls hshows _ hkey
  have hget := key?_of_cells hvalues hkey hrecalled hn
  have hothers := otherValues_of_cells hvalues
  unfold save
  dsimp only
  rw [ha, hget, hothers]
  constructor
  · intro hnone
    rw [hnone]
    rfl
  · intro hsome
    have hset : ({ table := r.table } : Update).setAll (loadedValues (r.table.others ws)) =
        .ok { table := r.table, assignments := loadedAssignments (r.table.others ws) } :=
      Update.setAll_cells (u := { table := r.table }) ht.not_numbered_others (hws.nodup_others ht)
    have hempty : (loadedValues (r.table.others ws)).isEmpty = false := by
      rw [loadedValues, List.isEmpty_eq_false_iff]
      exact fun h => hsome (List.map_eq_nil_iff.1 h)
    have hrender := Update.render_cells (u := { table := r.table, assignments := loadedAssignments (r.table.others ws)
                                                filter := some (keyIs r.table (r.table.primaryKey.field.loaded key)) })
      hsome (fun c hc => hws.recalls hshows c (List.mem_filter.1 hc).1) hrecalled hn rfl rfl
    have hrun : ({ table := r.table, assignments := loadedAssignments (r.table.others ws)
                   filter := some (keyIs r.table (r.table.primaryKey.field.loaded key)) } : Update).run e =
        e.execute ⟨r.table.updateText ((r.table.others ws).map Prod.fst),
          .single ((r.table.others ws).map Prod.snd ++ [key])⟩ := by
      rw [Update.run, hrender]
      rfl
    rw [if_neg (by decide)]
    dsimp only
    rw [hempty, if_neg (by decide), hset, map_eq_pure_bind, ← hrun]
    rfl

namespace Sample

/-- Wares with a code, a rounded price and two instants, in columns some of which have names of their own. -/
def ware : Declaration :=
  { className := "Ware", name := some "ware"
    fields := [("id", .auto), ("code", named "ware_code" .uuid),
      ("price", (Field.decimal 10 2).withRounding .midpointAwayFromZero),
      ("made", { Field.timestamp with nullable := true }),
      ("sold", { Field.timestamp with nullable := true, name := "sold_at" })] }

/-- The table of wares. -/
def wareTable : Table :=
  { ref := ⟨none, "ware"⟩
    fields := ⟨[("id", named "id" .auto), ("code", named "ware_code" .uuid),
      ("price", named "price" ((Field.decimal 10 2).withRounding .midpointAwayFromZero)),
      ("made", { Field.timestamp with nullable := true, name := "made" }),
      ("sold", { Field.timestamp with nullable := true, name := "sold_at" })], by decide⟩
    primaryKey := ⟨"id", named "id" .auto, true, 1⟩
    indexes := []
    engine := "InnoDB"
    charset := "utf8mb4"
    comment := "" }

theorem ware_compile : ware.compile = .ok wareTable := rfl

theorem ware_compiled : wareTable.Compiled := .of_declaration (by simp [ware]) trivial ware_compile

/-- A ware for 1.50 that was made at the end of February in 2000 and is not sold. -/
def wareRow : List Value :=
  [.int 7, .text "000000000000000000000000000000ff", .decimal ⟨150, 2, false, by decide, by decide⟩, .int 951782400,
    .null]

theorem stores_wareRow : wareTable.Stores wareRow where
  length := rfl
  cells := by
    intro c hc
    simp only [Table.cells, Table.columns, wareTable, wareRow, List.map_cons, List.map_nil, List.zip_cons_cons,
      List.zip_nil_left, List.mem_cons, List.not_mem_nil, or_false] at hc
    rcases hc with rfl | rfl | rfl | rfl | rfl
    · exact ⟨⟨.int 7, rfl, rfl⟩, fun h => (by cases h), fun _ h => (by cases h)⟩
    · exact ⟨⟨.uuid ⟨255⟩, rfl, rfl⟩, fun h => (by cases h), fun _ h => (by cases h)⟩
    · exact ⟨⟨.decimal ⟨150, 2, false, by decide, by decide⟩, rfl, rfl⟩, fun h => (by cases h), fun _ h => (by cases h)⟩
    · exact ⟨⟨.int 951782400, rfl, rfl⟩, fun h => (by cases h), fun _ _ _ => ⟨951782400, _, rfl, rfl⟩⟩
    · exact ⟨⟨.null, rfl, rfl⟩, fun _ => rfl, fun _ _ h => (by cases h)⟩

end Sample

end SqlMapper
