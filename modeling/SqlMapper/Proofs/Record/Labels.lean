import Mathlib.Data.List.Nodup
import Mathlib.Data.List.Perm.Subperm
import SqlMapper.Proofs.Record.Saving

/-!
# The columns of loaded rows

Columns of a table get names of their own in a loaded row, since no two attributes share a column. A column that is
none of the table's keeps its label, and this label may be the attribute of another fetched column
(`Row.Clashes`). Then the map has one value for both. So a map has an entry for each fetched column, in the order of
the row, exactly where no label clashes (`Row.keepsColumns_named`), and a record, which has columns of its table alone,
always has an attribute for each of them (`Row.fill_loads`).
-/

namespace SqlMapper.Row

variable {t : Table} {row : FetchedRow} {labels : List String}

/-! ## Names of columns -/

/-- The label of a column that is not one of the table's is the attribute of another fetched column. -/
def Clashes (t : Table) (labels : List String) : Prop :=
  ∃ label ∈ labels, ∃ other ∈ labels, t.attributeOf label = none ∧ t.attributeOf other = some label

/-- The map has one entry for each column of the row, under the name of the column and in the order of the row. -/
structure KeepsColumns (t : Table) (row : FetchedRow) (values : Values) : Prop where
  names : values.keys = row.labels.map (columnName t)
  entries : (Row.map values).toTuple = row.values

theorem columnName_of_some {label attr : String} (h : t.attributeOf label = some attr) : columnName t label = attr := by
  rw [columnName, h, Option.getD_some]

theorem columnName_of_none {label : String} (h : t.attributeOf label = none) : columnName t label = label := by
  rw [columnName, h, Option.getD_none]

/-- An attribute belongs to one column. -/
theorem label_unique (ht : t.WellFormed) {label other attr : String} (h : t.attributeOf label = some attr)
    (ho : t.attributeOf other = some attr) : label = other := by
  obtain ⟨f, hf, hlabel⟩ := (ht.attributeOf _ _).1 h
  obtain ⟨g, hg, hother⟩ := (ht.attributeOf _ _).1 ho
  cases hf.symm.trans hg
  exact hlabel.symm.trans hother

/-- Two columns meet under one name only where the label of one is the attribute of the other. -/
theorem label_eq_or_clashes (ht : t.WellFormed) {label other : String} (hl : label ∈ labels) (ho : other ∈ labels)
    (h : columnName t label = columnName t other) : label = other ∨ Clashes t labels := by
  cases ha : t.attributeOf label with
  | none =>
    cases hb : t.attributeOf other with
    | none => exact .inl (by rwa [columnName_of_none ha, columnName_of_none hb] at h)
    | some attr =>
      rw [columnName_of_none ha, columnName_of_some hb] at h
      exact .inr ⟨label, hl, other, ho, ha, h ▸ hb⟩
  | some attr =>
    cases hb : t.attributeOf other with
    | none =>
      rw [columnName_of_some ha, columnName_of_none hb] at h
      exact .inr ⟨other, ho, label, hl, hb, h ▸ ha⟩
    | some attr' =>
      rw [columnName_of_some ha, columnName_of_some hb] at h
      exact .inl (label_unique ht ha (h ▸ hb))

/-- The names of columns with different labels differ exactly where no label clashes. -/
theorem nodup_names_iff (ht : t.WellFormed) (hlabels : labels.Nodup) :
    (labels.map (columnName t)).Nodup ↔ ¬ Clashes t labels := by
  rw [List.nodup_map_iff_inj_on hlabels]
  constructor
  · rintro hinj ⟨label, hl, other, ho, hnone, hsome⟩
    have hname : columnName t label = columnName t other := by
      rw [columnName_of_none hnone, columnName_of_some hsome]
    rw [← hinj _ hl _ ho hname, hnone] at hsome
    cases hsome
  · exact fun hclash _ hl _ ho hname => (label_eq_or_clashes ht hl ho hname).resolve_right hclash

/-! ## Maps -/

section

variable (hlen : row.values.length = row.labels.length)
include hlen

theorem names_named (t : Table) :
    (row.pairs.map fun (label, v) => (columnName t label, v)).map Prod.fst = row.labels.map (columnName t) := by
  have hlabels : row.pairs.map Prod.fst = row.labels := List.map_fst_zip hlen.ge
  rw [← hlabels, List.map_map, List.map_map]
  rfl

/-- Where the names differ, the values stand in the map as they stand in the row. -/
theorem keepsColumns_named (ht : t.WellFormed) (hlabels : row.labels.Nodup) :
    KeepsColumns t row (named t row) ↔ ¬ Clashes t row.labels := by
  rw [← nodup_names_iff ht hlabels]
  constructor
  · exact fun h => h.names ▸ (named t row).nodup
  · intro hn
    have hpairs : (named t row).pairs = row.pairs.map fun (label, v) => (columnName t label, v) :=
      Ordered.pairs_ofList ((names_named hlen t).symm ▸ hn)
    refine ⟨by rw [Ordered.keys, hpairs, names_named hlen], ?_⟩
    have hvalues : row.pairs.map Prod.snd = row.values := List.map_snd_zip hlen.le
    rw [toTuple, Ordered.values, hpairs, List.map_map, ← hvalues]
    rfl

/-- Where a label clashes, the map has fewer entries than the row has columns. -/
theorem length_named_lt (ht : t.WellFormed) (hlabels : row.labels.Nodup) (h : Clashes t row.labels) :
    (named t row).keys.length < row.labels.length := by
  have hkeys : (named t row).keys = (row.labels.map (columnName t)).eraseDups := by
    rw [named, Ordered.keys_ofList, names_named hlen]
  have hsub : List.Subperm (named t row).keys (row.labels.map (columnName t)) :=
    List.subperm_of_subset (named t row).nodup fun name hm => List.mem_eraseDups.1 (hkeys ▸ hm)
  refine Nat.lt_of_not_le fun hle => ?_
  -- As many entries as columns would be all names, and no two of them would be the same.
  have hall := hsub.perm_of_length_le ((List.length_map (columnName t)).trans_le hle)
  have hnodup : (row.labels.map (columnName t)).Nodup := hall.nodup_iff.1 (named t row).nodup
  exact (nodup_names_iff ht hlabels).1 hnodup h

end

/-! ## Records -/

/-- A cell of a fetched row is read by the field of the attribute that it is loaded as. -/
def Loads (t : Table) (cell loaded : String × Value) : Prop :=
  t.attributeOf cell.1 = some loaded.1 ∧ ∃ f, t.field loaded.1 = .ok f ∧ f.toApp cell.2 = .ok loaded.2

/-- Cells of different columns of a table fill a record in their order, each one a new attribute. -/
theorem fill_loads (ht : t.WellFormed) : ∀ {cells : List (String × Value)} {r r' : Record}, r.table = t →
    (∀ c ∈ cells, (t.attributeOf c.1).isSome = true) → (cells.map Prod.fst).Nodup →
    (∀ c ∈ cells, ∀ attr ∈ r.values.keys, t.attributeOf c.1 ≠ some attr) → fill r cells = .ok r' →
    ∃ loaded, List.Forall₂ (Loads t) cells loaded ∧ r'.values.pairs = r.values.pairs ++ loaded
  | [], r, r', _, _, _, _, hfill => by
    cases hfill
    exact ⟨[], .nil, (List.append_nil _).symm⟩
  | (label, w) :: cells, r, r', hr, hknown, hn, hfresh, hfill => by
    obtain ⟨attr, hattr⟩ := Option.isSome_iff_exists.1 (hknown _ List.mem_cons_self)
    simp only [fill, hr, hattr] at hfill
    obtain ⟨f, hf, hfill⟩ := Result.bind_eq_ok.1 hfill
    obtain ⟨v, hv, hfill⟩ := Result.bind_eq_ok.1 hfill
    obtain ⟨hlabel, hn⟩ := List.nodup_cons.1 hn
    have hnew : attr ∉ r.values.keys := fun hm => hfresh _ List.mem_cons_self _ hm hattr
    have hpairs : (r.load attr v).values.pairs = r.values.pairs ++ [(attr, v)] := Ordered.pairs_insert_of_notMem hnew
    have hrest : ∀ c ∈ cells, ∀ a ∈ (r.load attr v).values.keys, t.attributeOf c.1 ≠ some a := by
      intro c hc a ha hca
      rw [Ordered.keys, hpairs, List.map_append, List.mem_append] at ha
      rcases ha with ha | ha
      · exact hfresh c (List.mem_cons_of_mem _ hc) a ha hca
      · obtain rfl : a = attr := by simpa using ha
        exact hlabel (label_unique ht hattr hca ▸ List.mem_map_of_mem hc)
    obtain ⟨loaded, hloads, hr'⟩ := fill_loads ht (show (r.load attr v).table = t from hr)
      (fun c hc => hknown c (List.mem_cons_of_mem _ hc)) hn hrest hfill
    exact ⟨(attr, v) :: loaded, .cons ⟨hattr, f, hf, hv⟩ hloads, by rw [hr', hpairs, List.append_assoc]; rfl⟩

/-! ## Loading -/

theorem fits_eq_false : fits t row = false ↔ ∃ label ∈ row.labels, t.attributeOf label = none := by
  simp [fits]

/-- A record comes out of the shape of a model, and is filled with the cells of the row. -/
theorem load_eq_record {shape : Shape} {r : Record} : load t row shape = .ok (.record r) ↔
    shape = .model ∧ fits t row = true ∧ fill (.ofTable t) row.pairs = .ok r := by
  cases shape with
  | tuple | map => simp [load]
  | model =>
    cases hfits : fits t row with
    | false => simp [load, hfits]
    | true => cases hfill : fill (.ofTable t) row.pairs <;> simp [load, hfits, hfill, Except.map]

/-- A map comes out of the shape of a map, or of that of a model for a row that fits no record. -/
theorem load_eq_map {shape : Shape} {values : Values} : load t row shape = .ok (.map values) ↔
    named t row = values ∧ (shape = .map ∨ shape = .model ∧ fits t row = false) := by
  cases shape with
  | tuple | map => simp [load]
  | model =>
    cases hfits : fits t row with
    | false => simp [load, hfits]
    | true => cases hfill : fill (.ofTable t) row.pairs <;> simp [load, hfits, hfill, Except.map]

/-- A row of columns of the table alone is loaded as a record or not at all. -/
theorem load_model_eq_map_iff :
    (∃ values, load t row .model = .ok (.map values)) ↔ ∃ label ∈ row.labels, t.attributeOf label = none := by
  simp [load_eq_map, fits_eq_false]

/-- A loaded record has an attribute for each column, in the order of the row. -/
theorem loads_of_load (ht : t.WellFormed) (hlen : row.values.length = row.labels.length) (hlabels : row.labels.Nodup)
    {shape : Shape} {r : Record} (h : load t row shape = .ok (.record r)) :
    List.Forall₂ (Loads t) row.pairs r.values.pairs := by
  obtain ⟨-, hfits, hfill⟩ := load_eq_record.1 h
  have hkeys : row.pairs.map Prod.fst = row.labels := List.map_fst_zip hlen.ge
  have hknown : ∀ c ∈ row.pairs, (t.attributeOf c.1).isSome = true := fun c hc =>
    List.all_eq_true.1 hfits _ (hkeys ▸ List.mem_map_of_mem hc)
  obtain ⟨loaded, hloads, hpairs⟩ :=
    fill_loads ht rfl hknown (hkeys.symm ▸ hlabels) (fun _ _ _ hm => (List.not_mem_nil hm).elim) hfill
  rw [hpairs]
  exact hloads

/-- **What becomes of the columns of a row**, of a compiled table and with different labels: a map always comes out of
the shape of a map, and out of the shape of a model exactly where a column is none of the table's. It has an entry for
each column, in the order of the row, exactly where no label clashes, and fewer entries than columns elsewhere. A
record has an attribute for each column, read by the field of that column. -/
theorem load_columns (ht : t.Compiled) (hlen : row.values.length = row.labels.length) (hlabels : row.labels.Nodup) :
    (∃ values, load t row .map = .ok (.map values)) ∧
    ((∃ values, load t row .model = .ok (.map values)) ↔ ∃ label ∈ row.labels, t.attributeOf label = none) ∧
    (∀ shape values, load t row shape = .ok (.map values) →
      (KeepsColumns t row values ↔ ¬ Clashes t row.labels) ∧
      (values.keys.length < row.labels.length ↔ Clashes t row.labels)) ∧
    ∀ shape r, load t row shape = .ok (.record r) → List.Forall₂ (Loads t) row.pairs r.values.pairs := by
  have hw : t.WellFormed := ht.wellFormed
  refine ⟨⟨_, rfl⟩, load_model_eq_map_iff, fun shape values h => ?_, fun _ _ => loads_of_load hw hlen hlabels⟩
  obtain ⟨rfl, -⟩ := load_eq_map.1 h
  refine ⟨keepsColumns_named hlen hw hlabels, fun hlt => ?_, length_named_lt hlen hw hlabels⟩
  refine by_contra fun hclash => ?_
  have hkeeps := (keepsColumns_named hlen hw hlabels).2 hclash
  rw [hkeeps.names, List.length_map] at hlt
  exact Nat.lt_irrefl _ hlt

/-! ## A label that is an attribute -/

/-- The code of a ware beside a column that is called like its attribute. -/
def codes : FetchedRow := .ofPairs [("ware_code", .text "00ff"), ("code", .int 3)]

theorem load_columns_codes :
    (Sample.wareTable.Compiled ∧ codes.values.length = codes.labels.length ∧ codes.labels.Nodup) ∧
    Clashes Sample.wareTable codes.labels ∧
    ∃ values, load Sample.wareTable codes .model = .ok (.map values) ∧ values.keys.length < codes.labels.length := by
  have hclash : Clashes Sample.wareTable codes.labels :=
    ⟨"code", by decide, "ware_code", by decide, rfl, rfl⟩
  have hlen : codes.values.length = codes.labels.length := rfl
  obtain ⟨-, hmap, hkeeps, -⟩ := load_columns Sample.ware_compiled hlen (by decide)
  obtain ⟨values, h⟩ := hmap.2 ⟨"code", by decide, rfl⟩
  exact ⟨⟨Sample.ware_compiled, hlen, by decide⟩, hclash, values, h, (hkeeps _ _ h).2.2 hclash⟩

/-- Of two columns with different labels, one is lost in a map of either shape. -/
theorem column_lost : ∃ (t : Table) (row : FetchedRow) (values : Values), t.Compiled ∧
    row.values.length = row.labels.length ∧ row.labels.Nodup ∧ load t row .map = .ok (.map values) ∧
    load t row .model = .ok (.map values) ∧ row.labels.length = 2 ∧ values.pairs = [("code", .int 3)] ∧
    ¬ (values.keys.length = row.labels.length ∧ (Row.map values).toTuple = row.values) :=
  ⟨Sample.wareTable, codes, named Sample.wareTable codes, Sample.ware_compiled, rfl, by decide, rfl, rfl, rfl, rfl,
    fun h => absurd h.1 (by decide)⟩

end SqlMapper.Row
