import SqlMapper.Proofs.Struct.Model

/-!
# The key of a struct

A struct with a table has exactly one column that is flagged as key (`StructTable.exists_key`). The calls that define a
field hand its flags on, in whatever order the settings came: the field of the key, and no other, is the primary key
and takes no `NULL`, and only an integer key is numbered (`Column.flags_of_chain`). A declaration with such fields is
never refused for its key (`Declaration.compile_keepsKey`). So the table of a struct compiles with the key of the
struct, or has another fault (`StructTable.key_of_chain`).
-/

namespace SqlMapper

/-! ## Declarations -/

/-- The cause is about which column is the key, or whether it can be numbered. -/
def Cause.isAboutKey : Cause → Bool
  | .duplicatePrimaryKey .. | .missingPrimaryKey _ => true
  | .schema _ (.autoIncrementNotKey _) | .schema _ (.autoIncrementNotInteger _) => true
  | _ => false

/-- The error has another cause than the key. -/
def Error.KeepsKey (e : Error) : Prop := e.cause.isAboutKey = false

open Result

theorem failsWith_keepsKey {α : Type} {cause : Cause} (h : cause.isAboutKey = false) :
    (fail cause : Result α).FailsWith Error.KeepsKey :=
  .error fun _ => h

/-- A panic is not about the key. -/
theorem Error.keepsKey_of_isPanic {e : Error} (h : e.isPanic = true) : e.KeepsKey := by
  unfold isPanic at h
  unfold KeepsKey
  cases hc : e.cause with
  | panic => rfl
  | _ =>
    rw [hc] at h
    cases h

namespace Declaration

variable {table attr : String} {f : Field}

/-- Where only an integer key is numbered, a field is refused for its default alone. -/
theorem checkField_keepsKey (h : f.isAutoIncrement = true → f.isPrimaryKey = true ∧ f.kind.isInteger = true) :
    (checkField table f).FailsWith Error.KeepsKey := by
  unfold checkField
  extract_lets checkDefault
  have hdefault : ∀ u, (checkDefault u).FailsWith Error.KeepsKey := by
    intro u
    unfold checkDefault
    split
    · split
      · exact .ok _
      · split
        · next hp => exact .error fun _ => Error.keepsKey_of_isPanic hp
        · exact failsWith_keepsKey rfl
    · exact .ok _
  split
  · next ha =>
    obtain ⟨hk, hi⟩ := h ha
    simp only [hk, hi, Bool.not_true, Bool.false_eq_true, if_false]
    split
    · exact hdefault ()
    · exact (failsWith_keepsKey rfl).bind fun _ _ => hdefault ()
  · exact hdefault ()

theorem addFields_keepsKey : ∀ {rest : List (String × Field)} {declared : List String} {fields : Ordered Field},
    (∀ p ∈ rest, p.2.isAutoIncrement = true → p.2.isPrimaryKey = true ∧ p.2.kind.isInteger = true) →
      (addFields table declared fields rest).FailsWith Error.KeepsKey
  | [], _, _, _ => .ok _
  | (attr, f) :: rest, declared, fields, h => by
    obtain ⟨hf, hrest⟩ := List.forall_mem_cons.1 h
    unfold addFields
    split
    · exact failsWith_keepsKey rfl
    · have hcheck : (checkField table (named attr f)).FailsWith Error.KeepsKey :=
        checkField_keepsKey (by simpa using hf)
      exact hcheck.bind fun _ _ => addFields_keepsKey hrest

/-- The walk over the columns does not refuse a single key. -/
theorem findKey_keepsKey : ∀ {rest : List (String × Field)} {columns : List String} {key : Option (String × Field)},
    (key.toList ++ rest.filter (·.2.isPrimaryKey)).length ≤ 1 →
      (findKey table columns key rest).FailsWith Error.KeepsKey
  | [], _, _, _ => .ok _
  | (attr, f) :: rest, columns, key, h => by
    unfold findKey
    split
    · exact failsWith_keepsKey rfl
    · split
      · next hk =>
        rw [List.filter_cons_of_pos (by simp [hk])] at h
        cases key with
        | some first => simp at h
        | none => exact findKey_keepsKey (by simpa using h)
      · next hk =>
        rw [List.filter_cons_of_neg (by simp [hk])] at h
        exact findKey_keepsKey h

theorem indexColumns_keepsKey {fields : Ordered Field} {index : String} : ∀ {names : List String},
    (indexColumns table fields index names).FailsWith Error.KeepsKey
  | [] => .ok _
  | name :: rest => by
    unfold indexColumns
    split
    · exact failsWith_keepsKey rfl
    · split
      · exact failsWith_keepsKey rfl
      · exact indexColumns_keepsKey.bind fun _ _ => .ok _

theorem addIndexes_keepsKey {fields : Ordered Field} : ∀ {rest indexes : List Index},
    (addIndexes table fields indexes rest).FailsWith Error.KeepsKey
  | [], _ => .ok _
  | index :: rest, indexes => by
    unfold addIndexes
    split
    · exact failsWith_keepsKey rfl
    · exact indexColumns_keepsKey.bind fun _ _ => addIndexes_keepsKey

/-- The fields of a table on no other one are the declared fields with their names. -/
theorem pairs_of_addFields {d : Declaration} (hbase : d.base = none) {fields : Ordered Field}
    (h : addFields table [] d.inheritedFields d.fields = .ok fields) :
    fields.pairs = d.fields.map fun p => (p.1, named p.1 p.2) := by
  have hinherited : d.inheritedFields = .empty := by
    unfold inheritedFields
    rw [hbase]
    rfl
  rw [hinherited] at h
  exact pairs_addFields h fun _ _ => List.not_mem_nil

/-- A declaration on no other table is not refused for its key, if there is one and only an integer key is numbered. -/
theorem compile_keepsKey {d : Declaration} (hbase : d.base = none)
    (hkey : (d.fields.filter (·.2.isPrimaryKey)).length = 1)
    (hnumbered : ∀ p ∈ d.fields, p.2.isAutoIncrement = true → p.2.isPrimaryKey = true ∧ p.2.kind.isInteger = true) :
    d.compile.FailsWith Error.KeepsKey := by
  unfold compile
  refine (addFields_keepsKey hnumbered).bind fun fields hfields => ?_
  have hsingle : (fields.pairs.filter (·.2.isPrimaryKey)).length = 1 := by
    rw [pairs_of_addFields hbase hfields, List.filter_map, List.length_map, ← hkey]
    simp [Function.comp_def]
  refine (findKey_keepsKey (by simp [hsingle])).bind fun key hfound => ?_
  cases key with
  | none =>
    obtain ⟨-, -, hnone⟩ := findKey_eq_ok hfound
    rw [Option.toList_none, List.nil_append] at hnone
    rw [← hnone] at hsingle
    cases hsingle
  | some p => exact addIndexes_keepsKey.bind fun _ _ => .ok _

end Declaration

namespace Struct

/-! ## Columns -/

/-- The call makes the column the key. -/
def FieldCall.makesKey : FieldCall → Bool
  | primaryKey => true
  | _ => false

theorem FieldType.isPrimaryKey_field (d : Denotation) (type : FieldType) : (type.field d).isPrimaryKey = false := by
  cases type <;> rfl

section Calls

variable {d : Denotation} {f : Field} {call : FieldCall} {calls : List FieldCall}

theorem FieldCall.isPrimaryKey_apply : (call.apply d f).isPrimaryKey = (f.isPrimaryKey || call.makesKey) := by
  cases call with
  | primaryKey => exact (Bool.or_true _).symm
  | length l => exact (Field.property_withLength Field.isPrimaryKey (fun _ => rfl) _).trans (Bool.or_false _).symm
  | utc l => exact (Field.property_withUtc Field.isPrimaryKey (fun _ => rfl) _ _).trans (Bool.or_false _).symm
  | _ => exact (Bool.or_false _).symm

/-- A call that does not allow `NULL` keeps a column that does not take it. -/
theorem FieldCall.nullable_apply_of_false (h : call.allowsNull = false) (hf : f.nullable = false) :
    (call.apply d f).nullable = false := by
  cases hr : call.refusesNull with
  | true => cases call <;> first | rfl | cases hr
  | false => rw [FieldCall.nullable_apply hr, hf, h, Bool.or_false]

/-- A field is a key if one of the calls makes it so. -/
theorem isPrimaryKey_foldl :
    (calls.foldl (FieldCall.apply d) f).isPrimaryKey = (f.isPrimaryKey || calls.any FieldCall.makesKey) := by
  refine Field.any_foldl (fun call f => ?_) calls f
  exact FieldCall.isPrimaryKey_apply

/-- A field takes no `NULL` unless one of the calls allows that. -/
theorem nullable_foldl_of_false (h : calls.any FieldCall.allowsNull = false) (hf : f.nullable = false) :
    (calls.foldl (FieldCall.apply d) f).nullable = false := by
  induction calls generalizing f with
  | nil => exact hf
  | cons call calls ih =>
    rw [List.any_cons, Bool.or_eq_false_iff] at h
    exact ih h.2 (FieldCall.nullable_apply_of_false h.1 hf)

end Calls

namespace Column

variable {d : Denotation} {c : Column} {isUnsigned : Bool} {definition : FieldChain}

theorem any_makesKey_calls : (c.calls isUnsigned).any FieldCall.makesKey = c.isKey := by
  simp [calls, any_callIf, any_callFor, FieldCall.makesKey]

/-- The field has the flags of the column: it is the key if the column is, and then it takes no `NULL`, and it is
numbered if the column is, which is an integer key then. -/
structure Flags (c : Column) (f : Field) : Prop where
  isPrimaryKey : f.isPrimaryKey = c.isKey
  isAutoIncrement : f.isAutoIncrement = c.isAuto
  nullable : c.isKey = true → f.nullable = false
  numbered : c.isAuto = true → c.isKey = true ∧ f.kind.isInteger = true

/-- The attribute has the name and the flags of the column. -/
def Yields (c : Column) (p : String × Field) : Prop := p.1 = c.attr ∧ c.Flags p.2

/-- A name for the column does not change the flags. -/
theorem Yields.named {p : String × Field} (h : c.Yields p) : c.Yields (p.1, Declaration.named p.1 p.2) := by
  obtain ⟨hattr, hk, ha, hnull, hnumbered⟩ := h
  exact ⟨hattr, by simpa using hk, by simpa using ha, by simpa using hnull, by simpa using hnumbered⟩

/-- The flagged fields are those of the flagged columns. -/
theorem Yields.filter {columns : List Column} {fields : List (String × Field)}
    (h : List.Forall₂ Yields columns fields) :
    List.Forall₂ Yields (columns.filter (·.isKey)) (fields.filter (·.2.isPrimaryKey)) := by
  refine List.rel_filter (fun c p hp => ?_) h
  show c.isKey = true ↔ p.2.isPrimaryKey = true
  rw [hp.2.isPrimaryKey]

/-- A type of integers is stored in a column of integers. -/
theorem isInteger_of_storedAs {base : String} (hbase : base ∈ integerTypes) {t : NativeType}
    (ht : nativeTypes.lookup base = some t) {k : FieldKind} (h : t.StoredAs k) : k.isInteger = true := by
  have hinteger : ∀ base ∈ integerTypes, ∃ n, nativeTypes.lookup base = some (.integer n) := by
    intro base hbase
    simp only [integerTypes, List.mem_cons, List.not_mem_nil, or_false] at hbase
    rcases hbase with rfl | rfl | rfl | rfl | rfl | rfl | rfl | rfl | rfl | rfl
    all_goals exact ⟨_, rfl⟩
  obtain ⟨n, hn⟩ := hinteger base hbase
  obtain rfl : t = .integer n := Option.some.inj (ht.symm.trans hn)
  cases h
  rfl

/-- A numbered column with a definition is of a type of integers. -/
theorem mem_integerTypes_of_chain (h : c.chain = .ok definition) (ha : c.isAuto = true) : c.base ∈ integerTypes := by
  obtain ⟨⟨type, isUnsigned⟩, -, h⟩ := Result.bind_eq_ok.1 h
  dsimp only at h
  split at h
  · cases h
  · next hinteger =>
    rw [ha, Bool.true_and, Bool.not_eq_true, Bool.or_eq_false_iff] at hinteger
    simpa using hinteger.2

/-- **The definition of a field hands on the flags of its column**, in whatever order the settings came. -/
theorem flags_of_chain {f : FieldItem} (hc : ofItem f = .ok c) (h : c.chain = .ok definition) (d : Denotation) :
    c.Flags (definition.field d) := by
  obtain ⟨hdeclares, hoption⟩ := declares_of_ofItem hc
  obtain ⟨⟨t, ht, hstored⟩, hnumbered, -⟩ := defines_of_chain d h
  have hinteger : c.isAuto = true → (definition.field d).kind.isInteger = true := fun ha =>
    isInteger_of_storedAs (mem_integerTypes_of_chain h ha) ht hstored
  obtain ⟨⟨type, isUnsigned⟩, -, h⟩ := Result.bind_eq_ok.1 h
  dsimp only at h
  split at h
  · cases h
  · cases h
    refine ⟨?_, hnumbered, fun hk => ?_, fun ha => ⟨hdeclares.numbered ha, hinteger ha⟩⟩
    · rw [FieldChain.field, isPrimaryKey_foldl, any_makesKey_calls, FieldType.isPrimaryKey_field,
        Bool.false_or]
    · refine nullable_foldl_of_false ?_ (field_fieldType d type).2
      rw [any_allowsNull_calls, hoption hk]

end Column

/-! ## Tables -/

namespace StructTable

variable {d : Denotation} {i : Item} {t : StructTable} {definition : TableChain}

/-- A struct with a table has one column that is flagged as key. -/
theorem exists_key (h : ofItem i = .ok t) : ∃ c, t.columns.filter (·.isKey) = [c] := by
  unfold ofItem at h
  cases hgeneric : i.isGeneric with
  | true =>
    rw [hgeneric] at h
    cases h
  | false =>
    rw [hgeneric] at h
    cases hfields : i.fields with
    | none =>
      rw [hfields] at h
      cases h
    | some fields =>
      rw [hfields] at h
      obtain ⟨columns, -, h⟩ := bind_eq_ok.1 h
      obtain ⟨t', -, h⟩ := bind_eq_ok.1 h
      split at h
      · next c hkey =>
        cases h
        exact ⟨c, hkey⟩
      · cases h
      · cases h

/-- Columns that have definitions have attributes with their flags. -/
theorem exists_members {columns : List Column} {calls : List TableCall}
    (hcalls : List.Forall₂ (fun c call => (do return TableCall.field c.attr (← c.chain)) = Except.ok call)
      columns calls)
    (hcolumns : ∀ c ∈ columns, ∃ f, Column.ofItem f = .ok c) :
    ∃ members, List.Forall₂ (fun c member => c.member d = .ok member) columns members ∧
      List.Forall₂ Column.Yields columns (members.map fun member => (member.attr, member.field)) := by
  induction hcalls with
  | nil => exact ⟨[], .nil, .nil⟩
  | @cons c _ columns _ hcall _ ih =>
    obtain ⟨⟨f, hf⟩, hcolumns⟩ := List.forall_mem_cons.1 hcolumns
    obtain ⟨members, hmembers, hyields⟩ := ih hcolumns
    obtain ⟨definition, hchain, -⟩ := bind_eq_ok.1 hcall
    obtain ⟨type, htype, -⟩ := (Column.defines_of_chain d hchain).stored
    obtain ⟨member, hmember⟩ : ∃ member, c.member d = .ok member := by
      unfold Column.member Column.nativeType?
      rw [hchain, htype]
      exact ⟨_, rfl⟩
    obtain ⟨definition', hchain', -, hfield⟩ := Column.member_eq_ok hmember
    have hmemberYields : c.Yields (member.attr, member.field) := by
      rw [hfield]
      exact ⟨rfl, Column.flags_of_chain hf hchain' d⟩
    exact ⟨member :: members, .cons hmember hmembers, .cons hmemberYields hyields⟩

/-- The declaration of a struct is on no other table, and its fields have the flags of the columns. -/
theorem yields_of_chain (hi : ofItem i = .ok t) (h : t.chain = .ok definition) (d : Denotation) :
    (definition.declaration d).base = none ∧
      List.Forall₂ Column.Yields t.columns (definition.declaration d).fields := by
  obtain ⟨calls, hcalls, -⟩ := bind_eq_ok.1 (id h)
  obtain ⟨members, hmembers, hyields⟩ := exists_members (d := d) (forall₂_of_mapM hcalls)
    fun c hc => exists_ofItem_of_mem hi hc
  obtain ⟨hbase, hfields⟩ := fields_of_chain h hmembers
  exact ⟨hbase, hfields ▸ hyields⟩

/-- **The table of a struct has the key of the struct.** Of every struct with a table and a definition of it, one column
is the key, and the fields have the flags of the columns: the one of the key is the primary key and takes no `NULL`,
and only an integer key is numbered. So building the table is refused for something else, if at all, and else the key of
the table is that column. -/
theorem key_of_chain (hi : ofItem i = .ok t) (h : t.chain = .ok definition) (d : Denotation) :
    ∃ c, t.columns.filter (·.isKey) = [c] ∧
      List.Forall₂ Column.Yields t.columns (definition.declaration d).fields ∧
      (∀ e, (definition.declaration d).compile = .error e → e.cause.isAboutKey = false) ∧
      ∀ table, (definition.declaration d).compile = .ok table →
        table.fields.pairs.filter (·.2.isPrimaryKey) = [(table.primaryKey.attr, table.primaryKey.field)] ∧
          table.primaryKey.attr = c.attr ∧ table.primaryKey.field.nullable = false ∧
          table.primaryKey.isAutoIncrement = c.isAuto := by
  obtain ⟨c, hc⟩ := exists_key hi
  obtain ⟨hbase, hyields⟩ := yields_of_chain hi h d
  refine ⟨c, hc, hyields, ?_, fun table htable => ?_⟩
  · have hkeeps : (definition.declaration d).compile.FailsWith Error.KeepsKey := by
      refine Declaration.compile_keepsKey hbase ?_ fun p hp ha => ?_
      · rw [← (Column.Yields.filter hyields).length_eq, hc, List.length_singleton]
      · obtain ⟨c', -, -, hflags⟩ := exists_of_mem hyields hp
        rw [hflags.isAutoIncrement] at ha
        exact ⟨hflags.isPrimaryKey.trans (hflags.numbered ha).1, (hflags.numbered ha).2⟩
    intro e he
    cases hp : e.isPanic with
    | true => exact Error.keepsKey_of_isPanic hp
    | false => exact hkeeps e he hp
  · have hwell : table.WellFormed := Declaration.wellFormed_of_base (by simp [hbase]) htable
    have hnamed : List.Forall₂ Column.Yields t.columns table.fields.pairs := by
      rw [Declaration.pairs_of_addFields hbase (Declaration.compile_eq_ok htable).1, List.forall₂_map_right_iff]
      exact hyields.imp fun _ _ hp => hp.named
    have hkeys := Column.Yields.filter hnamed
    rw [hc, hwell.key] at hkeys
    obtain ⟨hattr, hflags⟩ := (List.forall₂_cons.1 hkeys).1
    have hkey : c.isKey = true := (List.mem_filter.1 (hc ▸ List.mem_singleton_self c)).2
    exact ⟨hwell.key, hattr, hflags.nullable hkey, hwell.key_numbered.trans hflags.isAutoIncrement⟩

end StructTable

/-- The numbered key of visits. -/
theorem key_of_chain_visit : StructTable.ofItem Sample.visit = .ok Sample.visits ∧
    ∃ definition table, Sample.visits.chain = .ok definition ∧
      (definition.declaration Sample.denotation).compile = .ok table ∧ table.primaryKey.attr = "id" ∧
      table.primaryKey.field.nullable = false ∧ table.primaryKey.isAutoIncrement = true := by
  have hchain : ∃ definition, Sample.visits.chain = .ok definition := ⟨_, rfl⟩
  obtain ⟨definition, hdefinition⟩ := hchain
  have htable : ∃ table, (definition.declaration Sample.denotation).compile = .ok table := by
    cases hdefinition
    exact ⟨_, rfl⟩
  obtain ⟨table, htable⟩ := htable
  obtain ⟨c, hc, -, -, hall⟩ := StructTable.key_of_chain Sample.ofItem_visit hdefinition Sample.denotation
  obtain rfl : _ = c := List.head_eq_of_cons_eq hc
  obtain ⟨-, hattr, hnull, hnumbered⟩ := hall table htable
  exact ⟨Sample.ofItem_visit, definition, table, hdefinition, htable, hattr, hnull, hnumbered⟩

end Struct

end SqlMapper
