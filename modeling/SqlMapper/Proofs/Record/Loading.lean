import SqlMapper.Proofs.Field.RoundTrip
import SqlMapper.Proofs.Table.WellFormed
import SqlMapper.Record.Row

/-!
# Loading stored rows

A row that a table can store has a value for each column, in the order of declaration, and each column can store its
value (`Table.Stores`). Such a row loads as a record, whose values are what the columns read (`Row.load_of_stores`), if
the clocks of the columns show its instants (`Table.Shows`), and otherwise loading it is a panic (`Row.load_eq_panic`).
-/

namespace SqlMapper

/-! ## Cells -/

/-- The columns of a table with the values of a row. -/
def Table.cells (t : Table) (ws : List Value) : List (Column × Value) := t.columns.zip ws

/-- The table can store the row. -/
structure Table.Stores (t : Table) (ws : List Value) : Prop where
  length : ws.length = t.columns.length
  cells : ∀ c ∈ t.cells ws, c.1.field.Stores c.2

/-- The clocks of the columns show the row. -/
def Table.Shows (t : Table) (ws : List Value) : Prop := ∀ c ∈ t.cells ws, c.1.field.Shows c.2

/-- Instants in the table are shown on clocks of universal time. -/
def Table.IsUniversal (t : Table) : Prop := ∀ c ∈ t.columns, c.field.IsUniversal

instance (t : Table) : Decidable t.IsUniversal := inferInstanceAs (Decidable (∀ c ∈ t.columns, c.field.IsUniversal))

/-- The row as an executor delivers it, in the order of the columns. -/
def Table.delivered (t : Table) (ws : List Value) : FetchedRow := ⟨t.columns.map Column.name, ws⟩

/-- What a column reads from a value. -/
def Field.loaded (f : Field) (w : Value) : Value := (f.toApp w).toOption.getD .null

/-- The column can store the value, and reads it back. -/
structure Field.Recalls (f : Field) (w : Value) : Prop where
  stores : f.Stores w
  isShown : f.Shows w

section

variable {f : Field} {w : Value}

theorem Field.Recalls.toApp_eq (h : f.Recalls w) : f.toApp w = .ok (f.loaded w) := by
  obtain ⟨a, ha, -⟩ := Field.toWire_toApp h.stores h.isShown
  rw [loaded, ha]
  rfl

theorem Field.Recalls.toWire_loaded (h : f.Recalls w) : f.toWire (f.loaded w) = .ok w := by
  obtain ⟨a, ha, hw, -⟩ := Field.toWire_toApp h.stores h.isShown
  rw [loaded, ha]
  exact hw

/-- No list is stored. -/
theorem Field.Stores.itemCount? (h : f.Stores w) : w.itemCount? = none := by
  obtain ⟨v, hl, hv⟩ := h.bound
  exact (Field.toWire_itemCount? hv).trans (Value.itemCount?_eq_none hl)

theorem Field.Recalls.itemCount?_loaded (h : f.Recalls w) : (f.loaded w).itemCount? = none :=
  (Field.toWire_itemCount? h.toWire_loaded).symm.trans h.stores.itemCount?

theorem Field.Recalls.isNull_loaded (h : f.Recalls w) : (f.loaded w).isNull = w.isNull := by
  obtain ⟨a, ha, -, hn, -⟩ := Field.toWire_toApp h.stores h.isShown
  rw [loaded, ha]
  exact hn

end

variable {t : Table} {ws : List Value}

/-- A column of a table belongs to an attribute with its field. -/
theorem Table.mem_columns_iff {c : Column} :
    c ∈ t.columns ↔ c.table = t.ref ∧ t.fields.get? c.attr = some c.field := by
  unfold columns
  rw [List.mem_map, ← Ordered.mem_pairs_iff]
  constructor
  · rintro ⟨⟨attr, f⟩, hp, rfl⟩
    exact ⟨rfl, hp⟩
  · rintro ⟨ht, hp⟩
    exact ⟨_, hp, by rw [← ht]⟩

theorem Table.field_column {c : Column} (h : c ∈ t.columns) : t.field c.attr = .ok c.field := by
  rw [field, (mem_columns_iff.1 h).2]

theorem Table.WellFormed.attributeOf_column (ht : t.WellFormed) {c : Column} (h : c ∈ t.columns) :
    t.attributeOf c.name = some c.attr :=
  (ht.attributeOf _ _).2 ⟨c.field, (mem_columns_iff.1 h).2, rfl⟩

theorem Table.attrs_columns (t : Table) : t.columns.map Column.attr = t.fields.keys := by
  rw [columns, List.map_map]
  rfl

theorem Table.fields_columns (t : Table) : (t.columns.map fun c => (c.attr, c.field)) = t.fields.pairs := by
  rw [columns, List.map_map]
  exact List.map_id _

namespace Table.Stores

theorem fst_cells (h : t.Stores ws) : (t.cells ws).map Prod.fst = t.columns :=
  List.map_fst_zip (Nat.le_of_eq h.length.symm)

theorem snd_cells (h : t.Stores ws) : (t.cells ws).map Prod.snd = ws := List.map_snd_zip (Nat.le_of_eq h.length)

/-- Every column reads its value back if its clocks show it. -/
theorem recalls (h : t.Stores ws) (hshows : t.Shows ws) : ∀ c ∈ t.cells ws, c.1.field.Recalls c.2 :=
  fun c hc => ⟨h.cells c hc, hshows c hc⟩

/-- Clocks of universal time show what a table stores. -/
theorem shows (h : t.Stores ws) (ht : t.IsUniversal) : t.Shows ws :=
  fun c hc => (h.cells c hc).shows (ht c.1 (List.of_mem_zip hc).1)

/-- Each column has a cell, in the order of the columns. -/
theorem map_cells (h : t.Stores ws) {β : Type} (g : Column → β) :
    ((t.cells ws).map fun c => g c.1) = t.columns.map g := by
  rw [← h.fst_cells, List.map_map]
  rfl

end Table.Stores

/-- A cell belongs to a column of its table. -/
theorem Table.column_of_mem_cells {c : Column × Value} (h : c ∈ t.cells ws) : c.1 ∈ t.columns :=
  (List.of_mem_zip h).1

/-! ## Loading -/

/-- The values of a record that is loaded from cells. -/
def loadedValues (cells : List (Column × Value)) : List (String × Value) :=
  cells.map fun c => (c.1.attr, c.1.field.loaded c.2)

/-- Cells fill a record in their order, each one a new attribute. -/
theorem Row.fill_cells (ht : t.WellFormed) : ∀ {cells : List (Column × Value)} {r : Record}, r.table = t →
    (∀ c ∈ cells, c.1 ∈ t.columns ∧ c.1.field.Recalls c.2) → (r.values.keys ++ cells.map fun c => c.1.attr).Nodup →
    ∃ r', Row.fill r (cells.map fun c => (c.1.name, c.2)) = .ok r' ∧ r'.table = t ∧
      r'.values.pairs = r.values.pairs ++ loadedValues cells
  | [], r, hr, _, _ => ⟨r, rfl, hr, by simp [loadedValues]⟩
  | ⟨col, w⟩ :: cells, r, hr, hcells, hn => by
    obtain ⟨hcol, hw⟩ := hcells _ List.mem_cons_self
    have hfresh : col.attr ∉ r.values.keys := by
      intro hm
      exact (List.nodup_append.1 hn).2.2 _ hm _ List.mem_cons_self rfl
    have hpairs : (r.load col.attr (col.field.loaded w)).values.pairs =
        r.values.pairs ++ [(col.attr, col.field.loaded w)] := Ordered.pairs_insert_of_notMem hfresh
    have hrest : ((r.load col.attr (col.field.loaded w)).values.keys ++ cells.map fun c => c.1.attr).Nodup := by
      rw [Ordered.keys, hpairs, List.map_append, List.append_assoc]
      exact hn
    have htable : (r.load col.attr (col.field.loaded w)).table = t := hr
    obtain ⟨r', hfill, ht', hr'⟩ := Row.fill_cells ht htable (fun c hc => hcells c (List.mem_cons_of_mem _ hc)) hrest
    refine ⟨r', ?_, ht', ?_⟩
    · simp only [List.map_cons, fill, hr, ht.attributeOf_column hcol]
      exact Result.bind_eq_ok.2 ⟨_, Table.field_column hcol, Result.bind_eq_ok.2 ⟨_, hw.toApp_eq, hfill⟩⟩
    · rw [hr', hpairs, List.append_assoc]
      rfl

/-- The first cell that clocks do not show is a panic. -/
theorem Row.fill_eq_panic (ht : t.WellFormed) : ∀ {cells : List (Column × Value)} {r : Record}, r.table = t →
    (∀ c ∈ cells, c.1 ∈ t.columns ∧ c.1.field.Stores c.2) → (∃ c ∈ cells, ¬ c.1.field.Shows c.2) →
    Row.fill r (cells.map fun c => (c.1.name, c.2)) = .error .outOfCalendar
  | [], _, _, _, ⟨_, hc, _⟩ => absurd hc List.not_mem_nil
  | ⟨col, w⟩ :: cells, r, hr, hcells, ⟨c, hc, hout⟩ => by
    obtain ⟨hcol, hw⟩ := hcells _ List.mem_cons_self
    simp only [List.map_cons, fill, hr, ht.attributeOf_column hcol, Table.field_column hcol, Result.ok_bind]
    by_cases hshows : col.field.Shows w
    · obtain ⟨a, ha, -⟩ := Field.toWire_toApp hw hshows
      rw [ha]
      refine Row.fill_eq_panic ht (r := r.load col.attr a) hr (fun c hc => hcells c (List.mem_cons_of_mem _ hc)) ?_
      rcases List.mem_cons.1 hc with rfl | hc
      · exact absurd hshows hout
      · exact ⟨c, hc, hout⟩
    · rw [Field.toApp_eq_panic hw hshows]
      rfl

theorem Table.pairs_delivered (t : Table) (ws : List Value) :
    (t.delivered ws).pairs = (t.cells ws).map fun c => (c.1.name, c.2) :=
  List.zip_map_left

/-- Each column of a delivered row belongs to the table. -/
theorem Row.fits_delivered (ht : t.WellFormed) (ws : List Value) : Row.fits t (t.delivered ws) = true := by
  refine List.all_eq_true.2 fun label hlabel => ?_
  obtain ⟨c, hc, rfl⟩ := List.mem_map.1 hlabel
  rw [ht.attributeOf_column hc]
  rfl

/-- **A stored row loads as a record** of the values that the columns read. -/
theorem Row.load_of_stores (ht : t.WellFormed) (hws : t.Stores ws) (hshows : t.Shows ws) :
    ∃ r, Row.load t (t.delivered ws) .model = .ok (.record r) ∧ r.table = t ∧
      r.values.pairs = loadedValues (t.cells ws) := by
  have hcells : ∀ c ∈ t.cells ws, c.1 ∈ t.columns ∧ c.1.field.Recalls c.2 := fun c hc =>
    ⟨Table.column_of_mem_cells hc, hws.recalls hshows c hc⟩
  have hattrs : ((t.cells ws).map fun c => c.1.attr) = t.fields.keys := by
    rw [hws.map_cells Column.attr, t.attrs_columns]
  have hn : ((Record.ofTable t).values.keys ++ (t.cells ws).map fun c => c.1.attr).Nodup := by
    rw [hattrs]
    exact t.fields.nodup
  obtain ⟨r, hfill, hr, hvalues⟩ := Row.fill_cells ht rfl hcells hn
  refine ⟨r, ?_, hr, hvalues⟩
  rw [Row.load, if_pos (fits_delivered ht ws), t.pairs_delivered, hfill]
  rfl

/-- **A stored row that clocks do not show is a panic.** -/
theorem Row.load_eq_panic (ht : t.WellFormed) (hws : t.Stores ws) (hshows : ¬ t.Shows ws) :
    Row.load t (t.delivered ws) .model = .error .outOfCalendar := by
  simp only [Table.Shows, not_forall] at hshows
  obtain ⟨c, hc, hout⟩ := hshows
  have hfill := Row.fill_eq_panic ht (r := .ofTable t) rfl
    (fun c hc => ⟨Table.column_of_mem_cells hc, hws.cells c hc⟩) ⟨c, hc, hout⟩
  rw [Row.load, if_pos (fits_delivered ht ws), t.pairs_delivered, hfill]
  rfl

end SqlMapper
