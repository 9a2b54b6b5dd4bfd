import SqlMapper.Proofs.Sample
import SqlMapper.Proofs.Table.Compile

/-!
# Well-formed tables

A compiled table comes out of a declaration, and so does the table that it extends (`Table.CompiledUnder`). What the
passes of compiling check is checked for the declared fields and indexes alone, while the inherited ones were checked
when their own table was compiled; so the table is well formed if its base is (`Declaration.wellFormed_of_base`), and
by induction every compiled table is (`Table.CompiledUnder.wellFormed`).
-/

namespace SqlMapper

/-- A table that a declaration under a rule describes, on top of such a table or of none. -/
inductive Table.CompiledUnder (rule : Declaration → Prop) : Table → Prop
  | of_declaration {d : Declaration} {t : Table} : (∀ b ∈ d.base, CompiledUnder rule b) → rule d → d.compile = .ok t →
      CompiledUnder rule t

/-- A table that some declaration describes. -/
def Table.Compiled : Table → Prop := Table.CompiledUnder fun _ => True

/-- What the parts of a table have to do with each other. -/
structure Table.WellFormed (t : Table) : Prop where
  /-- Exactly one field is flagged as key, and it is the key of the table. -/
  key : t.fields.pairs.filter (·.2.isPrimaryKey) = [(t.primaryKey.attr, t.primaryKey.field)]
  key_numbered : t.primaryKey.isAutoIncrement = t.primaryKey.field.isAutoIncrement
  /-- Every column has a name of its own. -/
  columns : (t.fields.pairs.map (·.2.name)).Nodup
  /-- A column belongs to the attribute whose field has its name. -/
  attributeOf : ∀ column attr, t.attributeOf column = some attr ↔ ∃ f, t.fields.get? attr = some f ∧ f.name = column
  /-- Only an integer key without default is numbered. -/
  numbered : ∀ p ∈ t.fields.pairs, p.2.isAutoIncrement = true →
    p = (t.primaryKey.attr, t.primaryKey.field) ∧ p.2.kind.isInteger = true ∧ p.2.default = .none
  /-- Every default value fits its column. -/
  fitting : ∀ p ∈ t.fields.pairs, ∀ v, p.2.default = .value v → ∃ w, p.2.toWire v = .ok w
  index_names : (t.indexes.map Index.name).Nodup
  index_columns : ∀ i ∈ t.indexes, i.columns ≠ []

/-- The fields of a table are those of its base, in their places and with the declared ones in the places of those that
they override, and behind them the other declared ones in the order of declaration. -/
structure Declaration.Merges (d : Declaration) (t : Table) : Prop where
  keys : t.fields.keys =
    d.inheritedFields.keys ++ (d.fields.map Prod.fst).filter fun attr => attr ∉ d.inheritedFields.keys
  declared : ∀ attr f, (attr, f) ∈ d.fields → t.fields.get? attr = some (named attr f)
  inherited : ∀ attr ∉ d.fields.map Prod.fst, t.fields.get? attr = d.inheritedFields.get? attr

namespace Table.WellFormed

variable {t : Table}

/-- The key is one of the fields, and is flagged. -/
theorem key_mem (h : t.WellFormed) :
    (t.primaryKey.attr, t.primaryKey.field) ∈ t.fields.pairs ∧ t.primaryKey.field.isPrimaryKey = true :=
  List.mem_filter.1 (h.key ▸ List.mem_singleton_self _)

theorem sound (h : t.WellFormed) {p : String × Field} (hp : p ∈ t.fields.pairs) : p.2.Sound where
  numbered ha := by
    obtain ⟨rfl, hi, hd⟩ := h.numbered p hp ha
    exact ⟨h.key_mem.2, hi, hd⟩
  fitting := h.fitting p hp

end Table.WellFormed

/-- Where column names differ, a column belongs to the attribute whose field has its name. -/
theorem Table.attributeOf_eq_some {t : Table} (h : (t.fields.pairs.map (·.2.name)).Nodup) {column attr : String} :
    t.attributeOf column = some attr ↔ ∃ f, t.fields.get? attr = some f ∧ f.name = column := by
  rw [attributeOf, Option.map_eq_some_iff]
  constructor
  · rintro ⟨⟨attr, f⟩, hp, rfl⟩
    obtain ⟨hp, hf⟩ := (find?_eq_some_iff_of_nodup h).1 hp
    exact ⟨f, Ordered.mem_pairs_iff.1 hp, hf⟩
  · rintro ⟨f, hf, rfl⟩
    exact ⟨(attr, f), (find?_eq_some_iff_of_nodup h).2 ⟨Ordered.mem_pairs_iff.2 hf, rfl⟩, rfl⟩

namespace Declaration

variable {d : Declaration} {t : Table}

/-- An inherited field is one of the base. -/
theorem exists_base_of_mem_inherited {p : String × Field} (h : p ∈ d.inheritedFields.pairs) :
    ∃ b, d.base = some b ∧ p ∈ b.fields.pairs := by
  unfold inheritedFields at h
  cases hb : d.base with
  | none =>
    rw [hb] at h
    cases h
  | some b =>
    rw [hb] at h
    exact ⟨b, rfl, h⟩

/-- An inherited index is one of the base. -/
theorem exists_base_of_mem_inheritedIndexes {i : Index} (h : i ∈ d.inheritedIndexes) :
    ∃ b, d.base = some b ∧ i ∈ b.indexes := by
  unfold inheritedIndexes at h
  cases hb : d.base with
  | none =>
    rw [hb] at h
    cases h
  | some b =>
    rw [hb] at h
    exact ⟨b, rfl, h⟩

theorem merges_of_compile (h : d.compile = .ok t) : d.Merges t := by
  obtain ⟨hfields, -⟩ := compile_eq_ok h
  refine ⟨keys_addFields hfields, fun attr f hf => ?_, fun attr hattr => ?_⟩
  · exact Ordered.mem_pairs_iff.1 ((mem_pairs_addFields hfields).2 (.inl ⟨f, hf, rfl⟩))
  · refine Option.ext fun f => ?_
    rw [← Ordered.mem_pairs_iff, ← Ordered.mem_pairs_iff, mem_pairs_addFields hfields]
    constructor
    · rintro (⟨g, hg, -⟩ | hf)
      · exact absurd (List.mem_map_of_mem hg) hattr
      · exact hf.1
    · exact fun hf => .inr ⟨hf, hattr⟩

/-- Every field is sound: a declared one was checked, and an inherited one belongs to a well-formed table. -/
theorem sound_of_base (hbase : ∀ b ∈ d.base, b.WellFormed) (h : d.compile = .ok t) {p : String × Field}
    (hp : p ∈ t.fields.pairs) : p.2.Sound := by
  obtain ⟨hfields, -⟩ := compile_eq_ok h
  rcases (mem_pairs_addFields hfields).1 hp with ⟨f, hf, he⟩ | ⟨hp, -⟩
  · rw [he]
    exact ((addFields_fresh hfields).2 _ hf).2
  · obtain ⟨b, hb, hp⟩ := exists_base_of_mem_inherited hp
    exact (hbase b hb).sound hp

/-- A table on a well-formed base is well formed. -/
theorem wellFormed_of_base (hbase : ∀ b ∈ d.base, b.WellFormed) (h : d.compile = .ok t) : t.WellFormed := by
  obtain ⟨-, hkey, hnumbered, hindexes⟩ := compile_eq_ok h
  obtain ⟨hcolumns, -, hkey⟩ := findKey_eq_ok hkey
  have hkey : t.fields.pairs.filter (·.2.isPrimaryKey) = [(t.primaryKey.attr, t.primaryKey.field)] := by
    simpa using hkey.symm
  have hsound : ∀ p ∈ t.fields.pairs, p.2.Sound := fun p hp => sound_of_base hbase h hp
  refine ⟨hkey, hnumbered, hcolumns, fun _ _ => Table.attributeOf_eq_some hcolumns, ?_, ?_, ?_, ?_⟩
  · intro p hp ha
    obtain ⟨hk, hi, hd⟩ := (hsound p hp).numbered ha
    have hm : p ∈ t.fields.pairs.filter (·.2.isPrimaryKey) := List.mem_filter.2 ⟨hp, hk⟩
    rw [hkey, List.mem_singleton] at hm
    exact ⟨hm, hi, hd⟩
  · exact fun p hp => (hsound p hp).fitting
  · refine nodup_addIndexes hindexes ?_
    unfold inheritedIndexes
    cases hb : d.base with
    | none => exact List.nodup_nil
    | some b => exact (hbase b hb).index_names
  · intro i hi
    rcases mem_addIndexes hindexes hi with ⟨-, hi⟩ | ⟨hi, -⟩
    · exact hi.nonempty
    · obtain ⟨b, hb, hi⟩ := exists_base_of_mem_inheritedIndexes hi
      exact (hbase b hb).index_columns i hi

end Declaration

/-- By induction over the tables that it extends, every compiled table is well formed. -/
theorem Table.CompiledUnder.wellFormed {rule : Declaration → Prop} {t : Table} (h : t.CompiledUnder rule) :
    t.WellFormed := by
  induction h with
  | of_declaration _ _ hc ih => exact Declaration.wellFormed_of_base ih hc

/-- **What compiling gives**, on top of any chain of compiled tables: a well-formed table whose fields are those of
its base with the declared ones merged into them. -/
theorem Declaration.wellFormed_and_merges_of_compile {d : Declaration} {t : Table} (hbase : ∀ b ∈ d.base, b.Compiled)
    (h : d.compile = .ok t) : t.WellFormed ∧ d.Merges t :=
  ⟨wellFormed_of_base (fun b hb => (hbase b hb).wellFormed) h, merges_of_compile h⟩

/-! ## A table on another one -/

namespace Sample

/-- Things with a title, which are found by it. -/
def titled : Declaration :=
  { className := "Titled", name := some "titled"
    fields := [("id", .auto), ("title", .varchar 80)]
    indexes := [.ofColumns "by_title" ["title"]] }

/-- The table of things with a title. -/
def titledTable : Table :=
  { ref := ⟨none, "titled"⟩
    fields := ⟨[("id", named "id" .auto), ("title", named "title" (.varchar 80))], by decide⟩
    primaryKey := ⟨"id", named "id" .auto, true, 1⟩
    indexes := [.ofColumns "by_title" ["title"]]
    engine := "InnoDB"
    charset := "utf8mb4"
    comment := "" }

theorem titled_compile : titled.compile = .ok titledTable := rfl

theorem titled_compiled : titledTable.Compiled := .of_declaration (by simp [titled]) trivial titled_compile

/-- Posts have stars and a longer title, and no two of them have one title. -/
def post : Declaration :=
  { className := "Post", name := some "post", base := some titledTable
    fields := [("stars", { Field.integer .int with default := .value (.int 0) }), ("title", .varchar 200)]
    indexes := [.unique "by_title" ["title"]] }

end Sample

theorem wellFormed_and_merges_post :
    ∃ t, Sample.post.compile = .ok t ∧ (t.WellFormed ∧ Sample.post.Merges t) ∧
      t.fields.keys = ["id", "title", "stars"] := by
  have hbase : ∀ b ∈ Sample.post.base, b.Compiled := by
    intro b hb
    obtain rfl := Option.some.inj hb
    exact .of_declaration (by simp [Sample.titled]) trivial Sample.titled_compile
  exact ⟨_, rfl, Declaration.wellFormed_and_merges_of_compile hbase rfl, rfl⟩

end SqlMapper
