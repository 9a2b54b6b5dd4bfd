import SqlMapper.Proofs.Table.WellFormed

/-!
# Columns of indexes

A declared index lists columns of its own table, none of them a long text (`Declaration.Resolved`). An inherited index
keeps the columns that it was given for the base, although a declaration may override the fields behind them: an
override with another column name or with a long text leaves the index without its column
(`exists_compiled_not_indexesResolve`). The columns of all indexes resolve exactly where declarations keep the columns
of the indexes that they inherit (`Declaration.indexesResolve_iff_keepsIndexed`).
-/

namespace SqlMapper

/-- Every column of every index is a column of the table that can be indexed. -/
def Table.IndexesResolve (t : Table) : Prop := ∀ i ∈ t.indexes, ∀ c ∈ i.columns, Declaration.Indexable t.fields c

/-- Where the declaration overrides the field behind a column of an index that it takes over, one of its fields has the
column and can be indexed. -/
def Declaration.KeepsIndexed (d : Declaration) : Prop :=
  ∀ b ∈ d.base, ∀ i ∈ b.indexes, i.name ∉ d.indexes.map Index.name →
    ∀ c ∈ i.columns, ∀ attr ∈ d.fields.map Prod.fst, b.attributeOf c = some attr →
      ∃ p ∈ d.fields, (named p.1 p.2).name = c ∧ (named p.1 p.2).kind.isText = false

namespace Declaration

variable {d : Declaration} {t : Table}

/-- A declared field that has the column makes it indexable. -/
theorem indexable_of_declared (h : d.compile = .ok t) {p : String × Field} (hp : p ∈ d.fields)
    (ht : (named p.1 p.2).kind.isText = false) : Indexable t.fields (named p.1 p.2).name :=
  ⟨(p.1, named p.1 p.2), (mem_pairs_addFields (compile_eq_ok h).1).2 (.inl ⟨p.2, hp, rfl⟩), rfl, ht⟩

/-- An inherited field that is not overridden keeps its column indexable. -/
theorem indexable_of_inherited (h : d.compile = .ok t) {b : Table} (hb : d.base = some b) {p : String × Field}
    (hp : p ∈ b.fields.pairs) (hattr : p.1 ∉ d.fields.map Prod.fst) (ht : p.2.kind.isText = false) :
    Indexable t.fields p.2.name := by
  have hinherited : p ∈ d.inheritedFields.pairs := by
    rw [inheritedFields, hb]
    exact hp
  exact ⟨p, (mem_pairs_addFields (compile_eq_ok h).1).2 (.inr ⟨hinherited, hattr⟩), rfl, ht⟩

/-- The declared indexes resolve, so that the inherited ones alone count. -/
theorem indexesResolve_iff_inherited (h : d.compile = .ok t) : t.IndexesResolve ↔
    ∀ b ∈ d.base, ∀ i ∈ b.indexes, i.name ∉ d.indexes.map Index.name → ∀ c ∈ i.columns, Indexable t.fields c := by
  obtain ⟨-, -, -, hindexes⟩ := compile_eq_ok h
  constructor
  · intro hr b hb i hi hname
    have hinherited : i ∈ d.inheritedIndexes := by
      rw [inheritedIndexes, show d.base = some b from hb]
      exact hi
    exact hr i (mem_addIndexes_of_inherited hindexes hinherited hname)
  · intro hr i hi
    rcases mem_addIndexes hindexes hi with ⟨-, hres⟩ | ⟨hinherited, hname⟩
    · exact hres.indexable
    · obtain ⟨b, hb, hib⟩ := exists_base_of_mem_inheritedIndexes hinherited
      exact hr b hb i hib hname

/-- On a base whose indexes resolve, the indexes resolve exactly if the declaration keeps the indexed columns. -/
theorem indexesResolve_iff_of_base (hwell : ∀ b ∈ d.base, b.WellFormed) (hbase : ∀ b ∈ d.base, b.IndexesResolve)
    (h : d.compile = .ok t) : t.IndexesResolve ↔ d.KeepsIndexed := by
  rw [indexesResolve_iff_inherited h]
  constructor
  · intro hr b hb i hi hname c hc attr hattr hcolumn
    obtain ⟨p, hp, hpc, ht⟩ := hr b hb i hi hname c hc
    rcases (mem_pairs_addFields (compile_eq_ok h).1).1 hp with ⟨f, hf, he⟩ | ⟨hp, hpattr⟩
    · exact ⟨(p.1, f), hf, he ▸ hpc, he ▸ ht⟩
    · -- the base has the column once, under the attribute that is overridden
      obtain ⟨b', hb', hp⟩ := exists_base_of_mem_inherited hp
      obtain rfl := Option.some.inj (hb'.symm.trans hb)
      have hsome : b'.attributeOf c = some p.1 :=
        ((hwell b' hb).attributeOf c p.1).2 ⟨p.2, Ordered.mem_pairs_iff.1 hp, hpc⟩
      exact absurd (Option.some.inj (hcolumn.symm.trans hsome) ▸ hattr) hpattr
  · intro hk b hb i hi hname c hc
    obtain ⟨p, hp, rfl, ht⟩ := hbase b hb i hi c hc
    by_cases hattr : p.1 ∈ d.fields.map Prod.fst
    · have hsome : b.attributeOf p.2.name = some p.1 :=
        ((hwell b hb).attributeOf _ _).2 ⟨p.2, Ordered.mem_pairs_iff.1 hp, rfl⟩
      obtain ⟨q, hq, hqc, hqt⟩ := hk b hb i hi hname _ hc p.1 hattr hsome
      rw [← hqc]
      exact indexable_of_declared h hq hqt
    · exact indexable_of_inherited h hb hp hattr ht

end Declaration

/-- By induction over the tables that it extends: where every declaration keeps the indexed columns, the indexes
resolve. -/
theorem Table.CompiledUnder.indexesResolve {t : Table} (h : t.CompiledUnder Declaration.KeepsIndexed) :
    t.IndexesResolve := by
  induction h with
  | of_declaration hbase hd hc ih =>
    exact (Declaration.indexesResolve_iff_of_base (fun b hb => (hbase b hb).wellFormed) ih hc).2 hd

/-- **Where the columns of indexes resolve**: on top of any chain of tables whose declarations keep the indexed columns,
the indexes of a table resolve exactly if its own declaration keeps them too. -/
theorem Declaration.indexesResolve_iff_keepsIndexed {d : Declaration} {t : Table}
    (hbase : ∀ b ∈ d.base, b.CompiledUnder KeepsIndexed) (h : d.compile = .ok t) : t.IndexesResolve ↔ d.KeepsIndexed :=
  indexesResolve_iff_of_base (fun b hb => (hbase b hb).wellFormed) (fun b hb => (hbase b hb).indexesResolve) h

/-! ## Overridden columns -/

namespace Sample

theorem titledTable_keepsIndexed : titledTable.CompiledUnder Declaration.KeepsIndexed :=
  .of_declaration (by simp [titled]) (by simp [titled, Declaration.KeepsIndexed]) titled_compile

/-- Things with a title of another type under the index that they inherit. -/
def retitled (className : String) (title : Field) : Declaration :=
  { className := className, name := some className, base := some titledTable, fields := [("title", title)] }

theorem compiled_of_retitled (className : String) (title : Field) {t : Table}
    (h : (retitled className title).compile = .ok t) : t.Compiled := by
  refine .of_declaration (fun b hb => ?_) trivial h
  obtain rfl := Option.some.inj hb
  exact .of_declaration (by simp [titled]) trivial titled_compile

end Sample

/-- A longer title can still be found. -/
theorem indexesResolve_longer : ∃ t, (Sample.retitled "book" (.varchar 200)).compile = .ok t ∧
    (t.IndexesResolve ↔ (Sample.retitled "book" (.varchar 200)).KeepsIndexed) ∧
    (Sample.retitled "book" (.varchar 200)).KeepsIndexed := by
  have hbase : ∀ b ∈ (Sample.retitled "book" (.varchar 200)).base, b.CompiledUnder Declaration.KeepsIndexed := by
    intro b hb
    obtain rfl := Option.some.inj hb
    exact Sample.titledTable_keepsIndexed
  refine ⟨_, rfl, Declaration.indexesResolve_iff_keepsIndexed hbase rfl, ?_⟩
  intro b hb i hi _ c hc attr _ _
  obtain rfl := Option.some.inj hb
  obtain rfl := List.mem_singleton.1 hi
  obtain rfl := List.mem_singleton.1 hc
  exact ⟨_, List.mem_singleton_self _, rfl, rfl⟩

/-- An inherited index is not checked against the field that overrides its column: the title may become a long text, or
leave for a column of another name. -/
theorem exists_compiled_not_indexesResolve :
    (∃ t, (Sample.retitled "essay" .text).compile = .ok t ∧ t.Compiled ∧ ¬ t.IndexesResolve) ∧
      ∃ t, (Sample.retitled "article" (Sample.named "headline" (.varchar 80))).compile = .ok t ∧ t.Compiled ∧
        ¬ t.IndexesResolve := by
  have hessay := Sample.compiled_of_retitled "essay" .text rfl
  have harticle := Sample.compiled_of_retitled "article" (Sample.named "headline" (.varchar 80)) rfl
  refine ⟨⟨_, rfl, hessay, ?_⟩, ⟨_, rfl, harticle, ?_⟩⟩
  · intro h
    obtain ⟨p, hp, hname, ht⟩ := h (.ofColumns "by_title" ["title"]) List.mem_cons_self "title" List.mem_cons_self
    rcases List.mem_cons.1 hp with rfl | hp
    · exact absurd hname (by decide)
    · obtain rfl := List.mem_singleton.1 hp
      exact absurd ht (by decide)
  · intro h
    obtain ⟨p, hp, hname, -⟩ := h (.ofColumns "by_title" ["title"]) List.mem_cons_self "title" List.mem_cons_self
    rcases List.mem_cons.1 hp with rfl | hp
    · exact absurd hname (by decide)
    · obtain rfl := List.mem_singleton.1 hp
      exact absurd hname (by decide)

end SqlMapper
