import SqlMapper.Proofs.Field.RoundTrip
import SqlMapper.Proofs.Field.Setters
import SqlMapper.Proofs.Table.WellFormed
import SqlMapper.Proofs.Value.Reading
import SqlMapper.Statement.Definition

/-!
# Columns that do not take `NULL`

The server refuses a key that takes `NULL` and a default of `NULL` for a column that does not (`Table.Coherent`).
Neither is checked where a table is compiled, so a table is coherent exactly where its fields were built so
(`Field.Script.Sane`, `Table.coherent_iff_sane`): no setter behind those of a key allows `NULL`, and the last default of
a column that does not take `NULL` is not `NULL`, nor anything else whose text begins with that word
(`Field.defaultsToNull_iff`). A field is built once, in one of the declarations that the table comes from
(`Table.Declared`), so that this can be said of any chain of tables.
-/

namespace SqlMapper

open Number

/-! ## Defaults -/

/-- The default is written as `NULL` for a column of the kind, or begins with it. -/
def FieldDefault.IsNull (kind : FieldKind) : FieldDefault → Prop
  | .value v => v = .null ∨
      ∃ double precision x, kind = .float double precision ∧ v.float? = some x ∧ x.isFinite = false
  | .raw sql => BeginsWithNull sql.toList
  | .none | .generated .. => False

/-- The definition of the column has a default that begins with `NULL`, whatever else the default says. -/
def Field.DefaultsToNull (f : Field) : Prop :=
  ∃ s, f.defaultClause = some (" DEFAULT " ++ s) ∧ BeginsWithNull s.toList

namespace Field

variable {f : Field} {v w : Value}

/-- Only a column of floating point numbers is bound one, and then the number that the value denotes. -/
theorem scalarToWire_eq_float_iff (h : f.scalarToWire v = .ok w) {x : Float} :
    w = .float x ↔ (∃ double precision, f.kind = .float double precision) ∧ v.float? = some x := by
  constructor
  · rintro rfl
    have hbinds := scalarToWire_binds h
    generalize hk : f.kind = kind at hbinds
    cases hbinds
    unfold scalarToWire at h
    rw [hk] at h
    obtain ⟨y, hy, he⟩ := map_eq_ok h
    cases he
    exact ⟨⟨_, _, rfl⟩, take_eq_ok hy⟩
  · rintro ⟨⟨double, precision, hk⟩, hx⟩
    unfold scalarToWire at h
    rw [hk] at h
    obtain ⟨y, hy, rfl⟩ := map_eq_ok h
    rw [Option.some.inj (hx.symm.trans (take_eq_ok hy))]

/-- `NULL` and the numbers that have no literal are bound for values that are written as `NULL`. -/
theorem beginsWithNull_literal_iff (h : f.toWire v = .ok w) :
    (∃ s, w.literal = some s ∧ BeginsWithNull s.toList) ↔ FieldDefault.IsNull f.kind (.value v) := by
  rw [Value.beginsWithNull_literal_iff, FieldDefault.IsNull]
  cases hn : v.isNull with
  | true =>
    obtain rfl := Value.eq_null hn
    cases h
    exact iff_of_true (.inl rfl) (.inl rfl)
  | false =>
    have hv : v ≠ .null := fun he => by rw [he] at hn; cases hn
    have hw : w ≠ .null := fun he => by
      have := toWire_isNull h hn
      rw [he] at this
      cases this
    simp only [hv, hw, false_or]
    cases hl : v.isList with
    | true =>
      cases v with
      | list items =>
        rw [toWire] at h
        obtain ⟨ws, -, rfl⟩ := map_eq_ok h
        simp [Value.float?]
      | _ => cases hl
    | false =>
      rw [toWire_of_scalar hn hl] at h
      simp only [scalarToWire_eq_float_iff h]
      constructor
      · rintro ⟨x, ⟨⟨double, precision, hk⟩, hx⟩, hfinite⟩
        exact ⟨double, precision, x, hk, hx, hfinite⟩
      · rintro ⟨double, precision, x, hk, hx, hfinite⟩
        exact ⟨x, ⟨⟨double, precision, hk⟩, hx⟩, hfinite⟩

/-- What the definition of a column says of its default. -/
theorem defaultsToNull_iff_of_clause {text : Option String}
    (h : f.defaultClause = text.map fun s => " DEFAULT " ++ s) :
    f.DefaultsToNull ↔ ∃ s, text = some s ∧ BeginsWithNull s.toList := by
  constructor
  · rintro ⟨s, hs, hnull⟩
    obtain ⟨s', hs', he⟩ := Option.map_eq_some_iff.1 (h.symm.trans hs)
    rw [String.append_right_inj] at he
    exact ⟨s, he ▸ hs', hnull⟩
  · rintro ⟨s, rfl, hnull⟩
    exact ⟨s, h, hnull⟩

theorem not_beginsWithNull_implicitDefault {sql : String} (h : f.implicitDefault = some sql) :
    ¬ BeginsWithNull sql.toList := by
  unfold implicitDefault at h
  split at h
  · cases h
    decide
  · cases h
    decide
  · cases h

/-- **The definition of a column that does not take `NULL`** has that default exactly where the declared one is written
as `NULL`. -/
theorem defaultsToNull_iff (hn : f.nullable = false)
    (hfits : ∀ v, f.default = .value v → ∃ w, f.toWire v = .ok w) : f.DefaultsToNull ↔ f.default.IsNull f.kind := by
  cases hd : f.default with
  | none | generated =>
    refine iff_of_false ?_ id
    cases hi : f.implicitDefault with
    | none =>
      have hclause : f.defaultClause = some "" := by simp [defaultClause, hd, hn, hi]
      rintro ⟨s, hs, -⟩
      simpa using congrArg String.toList (Option.some.inj (hclause.symm.trans hs))
    | some sql =>
      have hclause : f.defaultClause = (some sql).map fun s => " DEFAULT " ++ s := by simp [defaultClause, hd, hn, hi]
      rw [defaultsToNull_iff_of_clause hclause]
      rintro ⟨s, ⟨⟩, hnull⟩
      exact not_beginsWithNull_implicitDefault hi hnull
  | raw sql =>
    have hclause : f.defaultClause = (some sql).map fun s => " DEFAULT " ++ s := by simp [defaultClause, hd]
    simp [defaultsToNull_iff_of_clause hclause, FieldDefault.IsNull]
  | value v =>
    obtain ⟨w, hw⟩ := hfits v hd
    have hclause : f.defaultClause = w.literal.map fun s => " DEFAULT " ++ s := by
      simp [defaultClause, hd, display, displayed, hw]
    exact (defaultsToNull_iff_of_clause hclause).trans (beginsWithNull_literal_iff hw)

/-- A column fits what it says of `NULL`: a key does not take it, and it is no default of a column that does not. -/
structure Coherent (f : Field) : Prop where
  key : f.isPrimaryKey = true → f.nullable = false
  default : f.nullable = false → ¬ f.DefaultsToNull

/-- The last word about `NULL` of the setters of a key is that it is not taken, and where that is the last word, the
last default is not written as `NULL`. -/
structure Script.Sane (s : Script) : Prop where
  key : s.makesKey = true → s.allowsNull = false
  default : s.allowsNull = false → ¬ s.lastDefault.IsNull s.field.kind

/-- A field whose default fits is coherent exactly where its setters are sane, under any name. -/
theorem Script.coherent_iff {s : Script} {attr : String} (hs : (Declaration.named attr s.field).Sound) :
    (Declaration.named attr s.field).Coherent ↔ s.Sane := by
  have hkey : (Declaration.named attr s.field).isPrimaryKey = s.makesKey :=
    Declaration.named_isPrimaryKey.trans s.isPrimaryKey_field
  have hnullable : (Declaration.named attr s.field).nullable = s.allowsNull :=
    Declaration.named_nullable.trans s.nullable_field
  have hclause (hn : s.allowsNull = false) : (Declaration.named attr s.field).DefaultsToNull ↔
      s.lastDefault.IsNull s.field.kind := by
    have hiff := defaultsToNull_iff (hnullable.trans hn) hs.fitting
    rwa [Declaration.named_default, Declaration.named_kind, s.default_field] at hiff
  constructor
  · rintro ⟨hk, hd⟩
    rw [hkey, hnullable] at hk
    rw [hnullable] at hd
    exact ⟨hk, fun hn hnull => hd hn ((hclause hn).2 hnull)⟩
  · rintro ⟨hk, hd⟩
    refine ⟨?_, ?_⟩
    · rwa [hkey, hnullable]
    · rw [hnullable]
      exact fun hn he => hd hn ((hclause hn).1 he)

end Field

/-! ## Tables -/

/-- The key of the table does not take `NULL`, and no default in the definition of a column that does not take it
begins with `NULL`. -/
structure Table.Coherent (t : Table) : Prop where
  key : t.primaryKey.field.nullable = false
  defaults : ∀ p ∈ t.fields.pairs, p.2.nullable = false → ¬ p.2.DefaultsToNull

/-- The scripts of a table: those of the declared fields, and for other attributes those of the table that is
extended. -/
def Declaration.scripts (d : Declaration) (own inherited : String → Field.Script) (attr : String) : Field.Script :=
  if attr ∈ d.fields.map Prod.fst then own attr else inherited attr

/-- A table that comes from declarations whose fields were built by scripts, one for each attribute. -/
inductive Table.Declared : Table → (String → Field.Script) → Prop
  | of_declaration {d : Declaration} {t : Table} {own inherited : String → Field.Script} :
      (∀ b ∈ d.base, Declared b inherited) → (∀ p ∈ d.fields, p.2 = (own p.1).field) → d.compile = .ok t →
      Declared t (d.scripts own inherited)

/-- A script for the declared field of an attribute. -/
def Declaration.script (d : Declaration) (attr : String) : Field.Script :=
  .of (((d.fields.find? (·.1 = attr)).map Prod.snd).getD default)

theorem Declaration.field_script {d : Declaration} (h : (d.fields.map Prod.fst).Nodup) {p : String × Field}
    (hp : p ∈ d.fields) : (d.script p.1).field = p.2 := by
  rw [script, (find?_eq_some_iff_of_nodup h).2 ⟨hp, rfl⟩, Field.Script.field_of]
  rfl

namespace Table

variable {t : Table} {scripts : String → Field.Script}

/-- The key is the one field that is flagged as key, so that a table is coherent where its fields are. -/
theorem WellFormed.coherent_iff (ht : t.WellFormed) : t.Coherent ↔ ∀ p ∈ t.fields.pairs, p.2.Coherent := by
  constructor
  · rintro ⟨hkey, hdefaults⟩ p hp
    refine ⟨fun hk => ?_, hdefaults p hp⟩
    have hm : p ∈ t.fields.pairs.filter (·.2.isPrimaryKey) := List.mem_filter.2 ⟨hp, hk⟩
    rw [ht.key, List.mem_singleton] at hm
    rw [hm]
    exact hkey
  · intro h
    obtain ⟨hmem, hk⟩ := ht.key_mem
    exact ⟨(h _ hmem).key hk, fun p hp => (h p hp).default⟩

theorem Declared.compiled (h : t.Declared scripts) : t.Compiled := by
  induction h with
  | of_declaration _ _ hc ih => exact .of_declaration ih trivial hc

/-- **Every field of a table is the one that its script builds**, through any chain of tables. -/
theorem Declared.field_eq (h : t.Declared scripts) :
    ∀ p ∈ t.fields.pairs, p.2 = Declaration.named p.1 (scripts p.1).field := by
  induction h with
  | of_declaration _ hown hc ih =>
    intro p hp
    obtain ⟨hfields, -⟩ := Declaration.compile_eq_ok hc
    unfold Declaration.scripts
    rcases (Declaration.mem_pairs_addFields hfields).1 hp with ⟨f, hf, he⟩ | ⟨hp, hnew⟩
    · rw [he, if_pos (List.mem_map_of_mem hf)]
      exact congrArg (Declaration.named p.1) (hown _ hf)
    · rw [if_neg hnew]
      obtain ⟨b, hb, hp⟩ := Declaration.exists_base_of_mem_inherited hp
      exact ih b hb p hp

/-- Every compiled table comes from such declarations. -/
theorem Compiled.exists_declared (h : t.Compiled) : ∃ scripts, t.Declared scripts := by
  induction h with
  | @of_declaration d _ _ _ hc ih =>
    obtain ⟨hfields, -⟩ := Declaration.compile_eq_ok hc
    have hown : ∀ p ∈ d.fields, p.2 = (d.script p.1).field := fun p hp =>
      (Declaration.field_script (Declaration.addFields_fresh hfields).1 hp).symm
    cases hb : d.base with
    | none =>
      have hnone : ∀ b ∈ d.base, Table.Declared b d.script := fun b he => nomatch hb.symm.trans he
      exact ⟨_, .of_declaration hnone hown hc⟩
    | some b =>
      obtain ⟨inherited, hbase⟩ := ih b hb
      exact ⟨_, .of_declaration (fun b' he => Option.some.inj (hb.symm.trans he) ▸ hbase) hown hc⟩

/-- **Nullability is coherent exactly where each field was built so.** -/
theorem coherent_iff_sane (ht : t.Compiled) : (∃ scripts, t.Declared scripts) ∧
    ∀ scripts, t.Declared scripts → (t.Coherent ↔ ∀ attr ∈ t.fields.keys, (scripts attr).Sane) := by
  refine ⟨ht.exists_declared, fun scripts h => ?_⟩
  have hw : t.WellFormed := ht.wellFormed
  have hfield : ∀ p ∈ t.fields.pairs, (p.2.Coherent ↔ (scripts p.1).Sane) := fun p hp => by
    have hs := hw.sound hp
    rw [h.field_eq p hp] at hs ⊢
    exact Field.Script.coherent_iff hs
  rw [hw.coherent_iff, Ordered.keys, List.forall_mem_map]
  exact forall₂_congr hfield

end Table

/-! ## Tables that the server refuses -/

namespace Sample

/-- A key whose last word about `NULL` is that it is taken, and a number that is `NULL` by default. -/
def loose (attr : String) : Field.Script :=
  if attr = "code" then ⟨.varchar 3, [.primaryKey, .nullable]⟩ else ⟨.integer .int none, [.default .null]⟩

/-- The same columns, with the setters of the key the other way round and zero for `NULL`. -/
def strict (attr : String) : Field.Script :=
  if attr = "code" then ⟨.varchar 3, [.nullable, .primaryKey]⟩ else ⟨.integer .int none, [.default (.int 0)]⟩

/-- Counts by code, with columns that are built by scripts. -/
def counts (scripts : String → Field.Script) : Declaration :=
  { className := "Counts", name := some "counts"
    fields := ["code", "n"].map fun attr => (attr, (scripts attr).field) }

theorem counts_declared (scripts : String → Field.Script) {t : Table} (h : (counts scripts).compile = .ok t) :
    t.Declared scripts := by
  have hscripts : (counts scripts).scripts scripts scripts = scripts := funext fun _ => ite_self _
  refine hscripts ▸ .of_declaration (by simp [counts]) (fun p hp => ?_) h
  obtain ⟨attr, -, rfl⟩ := List.mem_map.1 hp
  rfl

theorem strict_sane (attr : String) : (strict attr).Sane := by
  unfold strict
  split
  · exact ⟨fun _ => rfl, fun _ => id⟩
  · refine ⟨fun _ => rfl, fun _ hnull => ?_⟩
    rcases hnull with h | ⟨_, _, _, h, -⟩ <;> cases h

end Sample

theorem coherent_iff_sane_counts : ∃ t, (Sample.counts Sample.strict).compile = .ok t ∧ t.Compiled ∧ t.Coherent := by
  obtain ⟨t, ht⟩ : ∃ t, (Sample.counts Sample.strict).compile = .ok t := ⟨_, rfl⟩
  have hd := Sample.counts_declared Sample.strict ht
  exact ⟨t, ht, hd.compiled, ((Table.coherent_iff_sane hd.compiled).2 _ hd).2 fun attr _ => Sample.strict_sane attr⟩

/-- The compiler accepts a key that takes `NULL`, and `NULL` as the default of a column that does not. -/
theorem incoherent_accepted : ∃ t, (Sample.counts Sample.loose).compile = .ok t ∧ t.Compiled ∧
    t.primaryKey.field.nullable = true ∧
    CreateTable.columns t.fields.pairs =
      .ok ["`code` varchar(3) DEFAULT NULL", "`n` int(11) NOT NULL DEFAULT NULL"] ∧ ¬ t.Coherent :=
  ⟨_, rfl, (Sample.counts_declared Sample.loose rfl).compiled, rfl, rfl, fun h => nomatch h.key⟩

end SqlMapper
