import SqlMapper.Proofs.Ordered
import SqlMapper.Proofs.Result
import SqlMapper.Table.Declaration

/-!
# What compiling a declaration does

Each pass of compiling, taken apart once:

- every declared field is sound (`sound_of_checkField`), it is declared once (`addFields_fresh`), and it takes the place
  of the inherited field of its attribute or comes behind the inherited ones (`keys_addFields`, `mem_pairs_addFields`,
  `pairs_addFields`);
- the walk over the columns finds each name once, and the fields that are flagged as key (`findKey_eq_ok`);
- an index is an inherited one that no declared index replaces, or a declared one over columns of the table
  (`mem_addIndexes`, `mem_addIndexes_of_inherited`).

`compile_eq_ok` puts the passes together.
-/

namespace SqlMapper

/-- A numbered column is an integer key without default, and a default value fits its column. -/
structure Field.Sound (f : Field) : Prop where
  numbered : f.isAutoIncrement = true → f.isPrimaryKey = true ∧ f.kind.isInteger = true ∧ f.default = .none
  fitting : ∀ v, f.default = .value v → ∃ w, f.toWire v = .ok w

namespace Declaration

variable {table : String}

/-! ## Fields -/

section Named

variable {attr : String} {f : Field}

@[simp] theorem named_kind : (named attr f).kind = f.kind := by
  unfold named
  split <;> rfl

@[simp] theorem named_nullable : (named attr f).nullable = f.nullable := by
  unfold named
  split <;> rfl

@[simp] theorem named_default : (named attr f).default = f.default := by
  unfold named
  split <;> rfl

@[simp] theorem named_isPrimaryKey : (named attr f).isPrimaryKey = f.isPrimaryKey := by
  unfold named
  split <;> rfl

@[simp] theorem named_isAutoIncrement : (named attr f).isAutoIncrement = f.isAutoIncrement := by
  unfold named
  split <;> rfl

end Named

theorem sound_of_checkField {f : Field} (h : checkField table f = .ok ()) : f.Sound := by
  have hnumbered : f.isAutoIncrement = true → f.isPrimaryKey = true ∧ f.kind.isInteger = true ∧ f.default = .none := by
    intro ha
    cases hk : f.isPrimaryKey with
    | false => simp [checkField, ha, hk] at h
    | true =>
      cases hi : f.kind.isInteger with
      | false => simp [checkField, ha, hk, hi] at h
      | true =>
        cases hd : f.default with
        | none => exact ⟨rfl, rfl, rfl⟩
        | value _ | raw _ | generated _ _ => simp [checkField, ha, hk, hi, hd] at h
  refine ⟨hnumbered, fun v hd => ?_⟩
  have ha : f.isAutoIncrement = false := by
    cases ha : f.isAutoIncrement with
    | false => rfl
    | true => cases hd.symm.trans (hnumbered ha).2.2
  cases hw : f.toWire v with
  | ok w => exact ⟨w, rfl⟩
  | error e => cases hp : e.isPanic <;> simp [checkField, ha, hd, hw, hp] at h

section Fields

variable {declared : List String} {fields fields' : Ordered Field} {rest : List (String × Field)}

/-- One declared field: it is new, it is sound, and it is written into the map. -/
theorem addFields_cons {attr : String} {f : Field}
    (h : addFields table declared fields ((attr, f) :: rest) = .ok fields') :
    attr ∉ declared ∧ (named attr f).Sound ∧
      addFields table (attr :: declared) (fields.insert attr (named attr f)) rest = .ok fields' := by
  unfold addFields at h
  cases hd : declared.contains attr with
  | true => simp only [hd, if_true, Result.fail_ne_ok] at h
  | false =>
    simp only [hd, Bool.false_eq_true, if_false, Result.bind_eq_ok] at h
    obtain ⟨⟨⟩, hc, h⟩ := h
    have hattr : attr ∉ declared := fun hm => by simp [hm] at hd
    exact ⟨hattr, sound_of_checkField hc, h⟩

/-- An attribute is declared once, and every declared field is sound. -/
theorem addFields_fresh : ∀ {rest : List (String × Field)} {declared : List String} {fields : Ordered Field},
    addFields table declared fields rest = .ok fields' →
      (rest.map Prod.fst).Nodup ∧ ∀ p ∈ rest, p.1 ∉ declared ∧ (named p.1 p.2).Sound
  | [], _, _, _ => ⟨List.nodup_nil, fun _ hp => absurd hp List.not_mem_nil⟩
  | (attr, f) :: rest, declared, _, h => by
    obtain ⟨hattr, hf, h⟩ := addFields_cons h
    obtain ⟨hn, hrest⟩ := addFields_fresh h
    have hnew : attr ∉ rest.map Prod.fst := by
      intro hm
      obtain ⟨p, hp, rfl⟩ := List.mem_map.1 hm
      exact (hrest p hp).1 List.mem_cons_self
    refine ⟨List.nodup_cons.2 ⟨hnew, hn⟩, fun p hp => ?_⟩
    rcases List.mem_cons.1 hp with rfl | hp
    · exact ⟨hattr, hf⟩
    · exact ⟨fun hm => (hrest p hp).1 (List.mem_cons_of_mem _ hm), (hrest p hp).2⟩

/-- **Inherited attributes keep their places**, and new ones follow in the order of declaration. -/
theorem keys_addFields : ∀ {rest : List (String × Field)} {declared : List String} {fields : Ordered Field},
    addFields table declared fields rest = .ok fields' →
      fields'.keys = fields.keys ++ (rest.map Prod.fst).filter fun attr => attr ∉ fields.keys
  | [], _, fields, h => by
    cases h
    simp
  | (attr, f) :: rest, _, fields, h => by
    have hn := (addFields_fresh h).1
    rw [List.map_cons, List.nodup_cons] at hn
    rw [keys_addFields (addFields_cons h).2.2, Ordered.keys_insert, List.map_cons, List.filter_cons]
    by_cases hattr : attr ∈ fields.keys
    · simp [hattr]
    · -- the attribute itself is not declared again, so that the later ones are new with and without it
      have hrest : ((rest.map Prod.fst).filter fun a => a ∉ fields.keys ++ [attr]) =
          (rest.map Prod.fst).filter fun a => a ∉ fields.keys := by
        apply List.filter_congr
        intro a ha
        have hne : a ≠ attr := fun he => hn.1 (he ▸ ha)
        simp [hne]
      rw [if_neg hattr, hrest, if_pos (decide_eq_true hattr), List.append_assoc, List.singleton_append]

/-- Fields with new attributes come behind the inherited ones as they are declared. -/
theorem pairs_addFields : ∀ {rest : List (String × Field)} {declared : List String} {fields : Ordered Field},
    addFields table declared fields rest = .ok fields' → (∀ p ∈ rest, p.1 ∉ fields.keys) →
      fields'.pairs = fields.pairs ++ rest.map fun p => (p.1, named p.1 p.2)
  | [], _, fields, h, _ => by
    cases h
    simp
  | (attr, f) :: rest, _, fields, h, hnew => by
    have hinsert : (fields.insert attr (named attr f)).pairs = fields.pairs ++ [(attr, named attr f)] :=
      Ordered.pairs_insert_of_notMem (hnew _ List.mem_cons_self)
    have hn := (addFields_fresh h).1
    rw [List.map_cons, List.nodup_cons] at hn
    have hrest : ∀ p ∈ rest, p.1 ∉ (fields.insert attr (named attr f)).keys := by
      intro p hp
      rw [Ordered.keys, hinsert, List.map_append, List.mem_append, not_or]
      refine ⟨hnew p (List.mem_cons_of_mem _ hp), fun he => hn.1 ?_⟩
      rw [← List.mem_singleton.1 he]
      exact List.mem_map_of_mem hp
    rw [pairs_addFields (addFields_cons h).2.2 hrest, hinsert, List.append_assoc]
    rfl

/-- The fields of a table are the declared ones, and the inherited ones whose attributes are not declared. -/
theorem mem_pairs_addFields {p : String × Field} :
    ∀ {rest : List (String × Field)} {declared : List String} {fields : Ordered Field},
      addFields table declared fields rest = .ok fields' →
        (p ∈ fields'.pairs ↔ (∃ f, (p.1, f) ∈ rest ∧ p.2 = named p.1 f) ∨ p ∈ fields.pairs ∧ p.1 ∉ rest.map Prod.fst)
  | [], _, _, h => by
    cases h
    simp
  | (attr, f) :: rest, _, fields, h => by
    have hn := (addFields_fresh h).1
    rw [List.map_cons, List.nodup_cons] at hn
    rw [mem_pairs_addFields (addFields_cons h).2.2, Ordered.mem_pairs_insert, List.map_cons]
    obtain ⟨name, g⟩ := p
    by_cases hname : name = attr
    · subst hname
      have hrest : ∀ g, (name, g) ∉ rest := fun g hm => hn.1 (List.mem_map.2 ⟨_, hm, rfl⟩)
      simp [hrest, hn.1]
    · simp [hname]

end Fields

/-! ## Columns -/

/-- The walk over the columns meets each name once, and gives the field that is flagged as key. -/
theorem findKey_eq_ok : ∀ {pairs : List (String × Field)} {columns : List String} {key key' : Option (String × Field)},
    findKey table columns key pairs = .ok key' →
      (pairs.map (·.2.name)).Nodup ∧ (∀ p ∈ pairs, p.2.name ∉ columns) ∧
        key'.toList = key.toList ++ pairs.filter (·.2.isPrimaryKey)
  | [], _, _, _, h => by
    cases h
    simp
  | (attr, f) :: rest, columns, key, key', h => by
    unfold findKey at h
    cases hc : columns.contains f.name with
    | true => simp only [hc, if_true, Result.fail_ne_ok] at h
    | false =>
      have hname : f.name ∉ columns := fun hm => by simp [hm] at hc
      have hstep : ∃ next, findKey table (f.name :: columns) next rest = .ok key' ∧
          next.toList = key.toList ++ [(attr, f)].filter (·.2.isPrimaryKey) := by
        simp only [hc, Bool.false_eq_true, if_false] at h
        cases hk : f.isPrimaryKey with
        | false => exact ⟨key, by simpa [hk] using h, by simp [hk]⟩
        | true =>
          cases key with
          | some first => simp [hk] at h
          | none => exact ⟨some (attr, f), by simpa [hk] using h, by simp [hk]⟩
      obtain ⟨next, h, hnext⟩ := hstep
      obtain ⟨hn, hcolumns, hkey⟩ := findKey_eq_ok h
      refine ⟨?_, ?_, ?_⟩
      · refine List.nodup_cons.2 ⟨fun hm => ?_, hn⟩
        obtain ⟨p, hp, he⟩ := List.mem_map.1 hm
        exact hcolumns p hp (he ▸ List.mem_cons_self)
      · intro p hp
        rcases List.mem_cons.1 hp with rfl | hp
        · exact hname
        · exact fun hm => hcolumns p hp (List.mem_cons_of_mem _ hm)
      · rw [hkey, hnext, List.append_assoc, ← List.filter_append, List.singleton_append]

/-! ## Indexes -/

/-- The column is one of the fields, and not of the kind that cannot be indexed. -/
def Indexable (fields : Ordered Field) (column : String) : Prop :=
  ∃ p ∈ fields.pairs, p.2.name = column ∧ p.2.kind.isText = false

section Indexes

variable {fields : Ordered Field}

/-- An index means fields of the table. -/
theorem exists_mem_of_indexedField {name : String} {f : Field} (h : indexedField fields name = some f) :
    ∃ attr, (attr, f) ∈ fields.pairs := by
  unfold indexedField at h
  rcases Option.or_eq_some_iff.1 h with h | ⟨-, h⟩
  · exact ⟨name, Ordered.mem_pairs_iff.2 h⟩
  · obtain ⟨⟨attr, f⟩, hp, rfl⟩ := Option.map_eq_some_iff.1 h
    exact ⟨attr, List.mem_of_find?_eq_some hp⟩

/-- A resolved index lists as many columns as were named, all of them indexable. -/
theorem indexColumns_eq_ok {index : String} : ∀ {names columns : List String},
    indexColumns table fields index names = .ok columns →
      columns.length = names.length ∧ ∀ c ∈ columns, Indexable fields c
  | [], _, h => by
    cases h
    exact ⟨rfl, fun _ hc => absurd hc List.not_mem_nil⟩
  | name :: names, columns, h => by
    unfold indexColumns at h
    cases hf : indexedField fields name with
    | none => simp only [hf, Result.fail_ne_ok] at h
    | some f =>
      simp only [hf] at h
      cases ht : f.kind.isText with
      | true => simp only [ht, if_true, Result.fail_ne_ok] at h
      | false =>
        simp only [ht, Bool.false_eq_true, if_false, Result.bind_eq_ok, Result.pure_eq_ok] at h
        obtain ⟨rest, hrest, rfl⟩ := h
        obtain ⟨hlength, hall⟩ := indexColumns_eq_ok hrest
        obtain ⟨attr, hattr⟩ := exists_mem_of_indexedField hf
        refine ⟨by rw [List.length_cons, List.length_cons, hlength], fun c hc => ?_⟩
        rcases List.mem_cons.1 hc with rfl | hc
        · exact ⟨(attr, f), hattr, rfl, ht⟩
        · exact hall c hc

/-- The index lists columns of the table, at least one. -/
structure Resolved (fields : Ordered Field) (i : Index) : Prop where
  nonempty : i.columns ≠ []
  indexable : ∀ c ∈ i.columns, Indexable fields c

/-- One declared index: it is resolved, and it replaces the index of its name. -/
theorem addIndexes_cons {indexes indexes' rest : List Index} {index : Index}
    (h : addIndexes table fields indexes (index :: rest) = .ok indexes') :
    ∃ i, i.name = index.name ∧ Resolved fields i ∧
      addIndexes table fields (indexes.filter (·.name ≠ index.name) ++ [i]) rest = .ok indexes' := by
  unfold addIndexes at h
  cases he : index.columns.isEmpty with
  | true => simp only [he, if_true, Result.fail_ne_ok] at h
  | false =>
    simp only [he, Bool.false_eq_true, if_false, Result.bind_eq_ok] at h
    obtain ⟨columns, hcolumns, h⟩ := h
    obtain ⟨hlength, hall⟩ := indexColumns_eq_ok hcolumns
    refine ⟨{ index with columns := columns }, rfl, ⟨?_, hall⟩, h⟩
    rintro rfl
    cases hc : index.columns with
    | nil => simp [hc] at he
    | cons c cs => simp [hc] at hlength

/-- Every index is a declared one, or an inherited one that no declared index replaces. -/
theorem mem_addIndexes {i : Index} : ∀ {rest indexes indexes' : List Index},
    addIndexes table fields indexes rest = .ok indexes' → i ∈ indexes' →
      (i.name ∈ rest.map Index.name ∧ Resolved fields i) ∨ (i ∈ indexes ∧ i.name ∉ rest.map Index.name)
  | [], _, _, h, hi => by
    cases h
    exact .inr ⟨hi, List.not_mem_nil⟩
  | index :: rest, indexes, _, h, hi => by
    obtain ⟨j, hj, hres, h⟩ := addIndexes_cons h
    rw [List.map_cons]
    rcases mem_addIndexes h hi with ⟨hname, hri⟩ | ⟨hmem, hname⟩
    · exact .inl ⟨List.mem_cons_of_mem _ hname, hri⟩
    · rcases List.mem_append.1 hmem with hmem | hmem
      · obtain ⟨hmem, hne⟩ := List.mem_filter.1 hmem
        have hne : i.name ≠ index.name := of_decide_eq_true hne
        refine .inr ⟨hmem, fun hm => ?_⟩
        rcases List.mem_cons.1 hm with he | hm
        · exact hne he
        · exact hname hm
      · obtain rfl := List.mem_singleton.1 hmem
        exact .inl ⟨hj ▸ List.mem_cons_self, hres⟩

/-- An inherited index that no declared index replaces stays as it is. -/
theorem mem_addIndexes_of_inherited {i : Index} : ∀ {rest indexes indexes' : List Index},
    addIndexes table fields indexes rest = .ok indexes' → i ∈ indexes → i.name ∉ rest.map Index.name → i ∈ indexes'
  | [], _, _, h, hi, _ => by
    cases h
    exact hi
  | index :: rest, indexes, _, h, hi, hname => by
    obtain ⟨j, -, -, h⟩ := addIndexes_cons h
    rw [List.map_cons, List.mem_cons, not_or] at hname
    refine mem_addIndexes_of_inherited h (List.mem_append_left _ (List.mem_filter.2 ⟨hi, ?_⟩)) hname.2
    exact decide_eq_true hname.1

/-- Indexes with different names stay so. -/
theorem nodup_addIndexes : ∀ {rest indexes indexes' : List Index},
    addIndexes table fields indexes rest = .ok indexes' → (indexes.map Index.name).Nodup →
      (indexes'.map Index.name).Nodup
  | [], _, _, h, hn => by
    cases h
    exact hn
  | index :: rest, indexes, _, h, hn => by
    obtain ⟨j, hj, -, h⟩ := addIndexes_cons h
    refine nodup_addIndexes h ?_
    rw [List.map_append, List.map_cons, List.map_nil, hj, List.nodup_append]
    refine ⟨hn.sublist (List.filter_sublist.map _), by simp, ?_⟩
    intro name hm other ho
    obtain ⟨i, hi, rfl⟩ := List.mem_map.1 hm
    rw [List.mem_singleton.1 ho]
    exact of_decide_eq_true (List.mem_filter.1 hi).2

end Indexes

/-! ## All passes -/

/-- The inherited indexes, before the declared ones. -/
def inheritedIndexes (d : Declaration) : List Index := (d.base.map (·.indexes)).getD []

/-- Compiling is the passes one after the other. -/
theorem compile_eq_ok {d : Declaration} {t : Table} (h : d.compile = .ok t) :
    addFields d.tableName [] d.inheritedFields d.fields = .ok t.fields ∧
      findKey d.tableName [] none t.fields.pairs = .ok (some (t.primaryKey.attr, t.primaryKey.field)) ∧
      t.primaryKey.isAutoIncrement = t.primaryKey.field.isAutoIncrement ∧
      addIndexes d.tableName t.fields d.inheritedIndexes d.indexes = .ok t.indexes := by
  unfold compile at h
  obtain ⟨fields, hfields, h⟩ := Result.bind_eq_ok.1 h
  obtain ⟨key, hkey, h⟩ := Result.bind_eq_ok.1 h
  cases key with
  | none => simp only [Result.fail_ne_ok] at h
  | some key =>
    obtain ⟨indexes, hindexes, h⟩ := Result.bind_eq_ok.1 h
    cases h
    exact ⟨hfields, hkey, rfl, hindexes⟩

end Declaration

end SqlMapper
