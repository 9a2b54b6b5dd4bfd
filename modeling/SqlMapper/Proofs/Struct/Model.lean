import SqlMapper.Proofs.Model.Replacing
import SqlMapper.Proofs.Struct.Column

/-!
# Models of structs are faithful

The chain of calls of a struct builds a declaration on no other table, whose fields are those of the attributes in
their order (`StructTable.fields_of_chain`). Each attribute is faithful, since its column came from a field of the
struct and its settings (`Column.faithful_member`). So the model of a struct is faithful (`StructTable.faithful_model`),
and a replaced instance of the struct is read back (`StructTable.model_fromRecord_of_replace`).
-/

namespace SqlMapper.Struct

variable {d : Denotation}

/-! ## Attributes -/

namespace Column

variable {c : Column} {m : Member}

theorem member_eq_ok (h : c.member d = .ok m) : ∃ definition, c.chain = .ok definition ∧ c.nativeType? = some m.type ∧
    (m.attr, m.field) = (c.attr, definition.field d) := by
  obtain ⟨definition, hchain, h⟩ := Result.bind_eq_ok.1 h
  cases ht : c.nativeType? with
  | none =>
    rw [ht] at h
    cases h
  | some type =>
    rw [ht] at h
    cases h
    exact ⟨definition, hchain, rfl, rfl⟩

/-- **The attribute of a column is faithful**, whatever its settings are. -/
theorem faithful_member {f : FieldItem} (hc : ofItem f = .ok c) (hm : c.member d = .ok m) : m.Faithful := by
  obtain ⟨hdeclares, hkey⟩ := declares_of_ofItem hc
  obtain ⟨definition, hchain, htype, hfield⟩ := member_eq_ok hm
  have hdefines := defines_of_chain d hchain
  obtain ⟨-, hfield⟩ := Prod.mk.inj hfield
  obtain ⟨t, ht, hstored⟩ := hdefines.stored
  rw [nativeType?, ht, Option.map_some, Option.some.injEq] at htype
  rw [← hfield] at hstored
  have hplain : t.isOption = false := by
    have hall : ∀ p ∈ nativeTypes, p.2.isOption = false := by decide
    exact hall _ (mem_of_lookup ht)
  have hoption : m.type.isOption = c.isOption := by
    rw [← htype]
    cases c.isOption with
    | true => rfl
    | false => exact hplain
  refine ⟨?_, fun ho => ?_, fun ha => ?_⟩
  · rw [← htype]
    split
    · exact .option hstored
    · exact hstored
  · rw [hoption] at ho
    have hk : c.isKey = false := by
      refine Bool.eq_false_iff.2 fun hk => ?_
      rw [hkey hk] at ho
      cases ho
    have ha : c.isAuto = false := Bool.eq_false_iff.2 fun ha => by
      rw [hdeclares.numbered ha] at hk
      cases hk
    rw [hfield, hdefines.nullable hk ha, ho]
  · rw [hfield, hdefines.isAutoIncrement] at ha
    rw [hoption, hkey (hdeclares.numbered ha)]

end Column

/-! ## Declarations -/

/-- The field that a call adds to a declaration. -/
def TableCall.field? (d : Denotation) : TableCall → Option (String × Field)
  | field attr definition => some (attr, definition.field d)
  | _ => none

section Calls

variable {t : Declaration} {call : TableCall}

theorem TableCall.fields_apply : (call.apply d t).fields = t.fields ++ (call.field? d).toList := by
  cases call with
  | field attr definition => rfl
  | _ => exact (List.append_nil _).symm

theorem TableCall.base_apply : (call.apply d t).base = t.base := by
  cases call <;> rfl

/-- Calls add their fields in order, and no call extends another table. -/
theorem foldl_apply (calls : List TableCall) : (calls.foldl (TableCall.apply d) t).base = t.base ∧
    (calls.foldl (TableCall.apply d) t).fields = t.fields ++ calls.filterMap (TableCall.field? d) := by
  induction calls generalizing t with
  | nil => exact ⟨rfl, (List.append_nil _).symm⟩
  | cons call calls ih =>
    obtain ⟨hbase, hfields⟩ := ih (t := call.apply d t)
    rw [List.foldl_cons, hbase, hfields, TableCall.base_apply, TableCall.fields_apply, List.append_assoc]
    refine ⟨rfl, congrArg (t.fields ++ ·) ?_⟩
    cases h : call.field? d with
    | none => rw [List.filterMap_cons_none h]; rfl
    | some p => rw [List.filterMap_cons_some h]; rfl

end Calls

namespace StructTable

variable {t : StructTable} {m : Model}

theorem filterMap_callFor {call : String → TableCall} {setting : Option String}
    (h : ∀ l, (call l).field? d = none) : (callFor call setting).filterMap (TableCall.field? d) = [] := by
  cases setting with
  | none => rfl
  | some l => simp [callFor, h]

theorem filterMap_index (indexes : List StructIndex) :
    (indexes.map fun i => TableCall.index i.isUnique i.name i.columns).filterMap (TableCall.field? d) = [] := by
  refine List.filterMap_eq_nil_iff.2 fun call hcall => ?_
  obtain ⟨i, -, rfl⟩ := List.mem_map.1 hcall
  rfl

/-- The calls for the columns add the fields of the attributes. -/
theorem filterMap_calls {columns : List Column} {calls : List TableCall} {members : List Member}
    (hcalls : List.Forall₂ (fun c call => (do return TableCall.field c.attr (← c.chain)) = Except.ok call)
      columns calls)
    (hmembers : List.Forall₂ (fun c member => c.member d = .ok member) columns members) :
    calls.filterMap (TableCall.field? d) = members.map fun member => (member.attr, member.field) := by
  induction hcalls generalizing members with
  | nil =>
    cases hmembers
    rfl
  | cons hcall _ ih =>
    cases hmembers with
    | cons hmember hmembers =>
      obtain ⟨definition, hchain, hcall⟩ := Result.bind_eq_ok.1 hcall
      obtain ⟨definition', hchain', -, hfield⟩ := Column.member_eq_ok hmember
      obtain rfl : definition = definition' := Except.ok.inj (hchain.symm.trans hchain')
      obtain rfl := Result.pure_eq_ok.1 hcall
      rw [List.map_cons, hfield, ← ih hmembers]
      exact List.filterMap_cons_some rfl

/-- The declaration of a struct is on no other table, and has the fields of the attributes in their order. -/
theorem fields_of_chain {definition : TableChain} {members : List Member} (h : t.chain = .ok definition)
    (hmembers : List.Forall₂ (fun c member => c.member d = .ok member) t.columns members) :
    (definition.declaration d).base = none ∧
      (definition.declaration d).fields = members.map fun member => (member.attr, member.field) := by
  obtain ⟨calls, hcalls, h⟩ := Result.bind_eq_ok.1 h
  cases h
  obtain ⟨hbase, hfields⟩ := foldl_apply (d := d) (t := { className := t.name })
    (callFor .name t.tableName ++ callFor .db t.db ++ callFor .engine t.engine ++ callFor .charset t.charset ++
      callFor .comment t.comment ++ callFor .autoIncrement t.autoIncrement ++ calls ++
      t.indexes.map fun i => .index i.isUnique i.name i.columns)
  refine ⟨hbase, hfields.trans ?_⟩
  have hnone : ∀ (call : String → TableCall) (setting : Option String), (∀ l, (call l).field? d = none) →
      (callFor call setting).filterMap (TableCall.field? d) = [] := fun _ _ => filterMap_callFor
  simp only [List.filterMap_append, hnone .name _ fun _ => rfl, hnone .db _ fun _ => rfl,
    hnone .engine _ fun _ => rfl, hnone .charset _ fun _ => rfl, hnone .comment _ fun _ => rfl,
    hnone .autoIncrement _ fun _ => rfl, filterMap_index, filterMap_calls (Result.forall₂_of_mapM hcalls) hmembers,
    List.nil_append, List.append_nil]

/-- The settings of a table leave its columns alone. -/
theorem columns_take {t' : StructTable} {setting : String} {rest rest' : List Source.Token}
    (h : t.take setting rest = .ok (t', rest')) : t'.columns = t.columns := by
  unfold take at h
  split at h
  case h_7 | h_8 =>
    obtain ⟨_, rfl⟩ := inspected_eq_ok h
    rfl
  case h_9 => cases h
  all_goals
    obtain ⟨_, rfl⟩ := valued_eq_ok h
    rfl

theorem ofItem_eq_ok {i : Item} (h : ofItem i = .ok t) :
    ∃ fields columns, i.fields = some fields ∧ fields.mapM Column.ofItem = .ok columns ∧
      readGroups take { name := i.name, columns := columns } i.groups = .ok t := by
  unfold ofItem at h
  cases hgeneric : i.isGeneric with
  | true =>
    rw [hgeneric] at h
    cases h
  | false =>
    rw [hgeneric] at h
    cases hfields : i.fields with
    | none =>
      rw [hfields] at h
      cases h
    | some fields =>
      rw [hfields] at h
      obtain ⟨columns, hcolumns, h⟩ := Result.bind_eq_ok.1 h
      obtain ⟨t', hread, h⟩ := Result.bind_eq_ok.1 h
      split at h
      · cases h
        exact ⟨fields, columns, rfl, hcolumns, hread⟩
      · cases h
      · cases h

/-- The columns of a table came from the fields of its struct, in their order. -/
theorem forall₂_ofItem {i : Item} {fields : List FieldItem} (h : ofItem i = .ok t) (hfields : i.fields = some fields) :
    List.Forall₂ (fun f c => Column.ofItem f = .ok c) fields t.columns := by
  obtain ⟨fields', columns, hfields', hcolumns, hread⟩ := ofItem_eq_ok h
  obtain rfl : fields = fields' := Option.some.inj (hfields.symm.trans hfields')
  have hkept : t.columns = columns :=
    readGroups_keeps (P := fun t => t.columns = columns) (fun ht h => (columns_take h).trans ht) rfl hread
  exact hkept ▸ Result.forall₂_of_mapM hcolumns

theorem exists_ofItem_of_mem {i : Item} {c : Column} (h : ofItem i = .ok t) (hc : c ∈ t.columns) :
    ∃ f, Column.ofItem f = .ok c := by
  obtain ⟨fields, columns, hfields, -⟩ := ofItem_eq_ok h
  obtain ⟨f, -, hf⟩ := Result.exists_of_mem (forall₂_ofItem h hfields) hc
  exact ⟨f, hf⟩

/-- **The model of a struct is faithful.** -/
theorem faithful_model {i : Item} (hi : ofItem i = .ok t) (hm : t.model d = .ok (.ok m)) : m.Faithful := by
  obtain ⟨members, hmembers, hm⟩ := Result.bind_eq_ok.1 hm
  obtain ⟨definition, hchain, hm⟩ := Result.bind_eq_ok.1 hm
  obtain ⟨table, htable, rfl⟩ := Field.map_eq_ok (Result.pure_eq_ok.1 hm)
  have hmembers := Result.forall₂_of_mapM hmembers
  obtain ⟨hbase, hfields⟩ := fields_of_chain hchain hmembers
  refine Model.faithful_of_compile hbase hfields htable fun member hmember => ?_
  obtain ⟨c, hc, hmember⟩ := Result.exists_of_mem hmembers hmember
  obtain ⟨f, hf⟩ := exists_ofItem_of_mem hi hc
  exact Column.faithful_member hf hmember

end StructTable

/-! ## A struct with an instance -/

namespace Sample

/-- A numbered visit with an instant on the clocks of the process, and a note that the server provides if there is
none. -/
def visit : Item :=
  { name := "Visit", isGeneric := false, groups := []
    fields := some [⟨"id", ⟨some "i64", false⟩, [[.word "auto"]]⟩,
      ⟨"at", ⟨some "OffsetDateTime", false⟩, [[.word "utc", .mark '=' false, .word "false"]]⟩,
      ⟨"note", ⟨some "String", true⟩, [[.word "default_raw", .mark '=' false, .literal "\"'none'\""]]⟩] }

/-- Literals without their quotes, in a process that is an hour ahead of universal time. -/
def denotation : Denotation where
  text literal := String.ofList (literal.toList.filter (· ≠ '"'))
  number literal := literal.toList.foldl (fun n c => 10 * n + (c.toNat - 48)) 0
  switch literal := literal = "true"
  value expression := .text (String.ofList (Source.textOf expression))
  ahead := 3600

/-- What the struct says about the table of visits. -/
def visits : StructTable :=
  { name := "Visit"
    columns := [{ attr := "id", base := "i64", isOption := false, isKey := true, isAuto := true },
      { attr := "at", base := "OffsetDateTime", isOption := false, utc := some "false" },
      { attr := "note", base := "String", isOption := true, defaultRaw := some "\"'none'\"" }] }

/-- The third visit, at the noon of a leap day. -/
def thirdVisit : Instance :=
  [("id", .int 3), ("at", .timestamp SqlMapper.Sample.leapNoon), ("note", .text "on time")]

theorem ofItem_visit : StructTable.ofItem visit = .ok visits := by
  cbv

/-- The attributes of visits. -/
def visitMembers : List Member :=
  [.auto "id" .i64, .ofType "at" .timestamp fun f => f.withUtc false 3600,
    .ofType "note" (.option .string) fun f => { f with default := .raw "'none'" }]

/-- The model is the one that is declared with these attributes. -/
theorem model_visits : visits.model denotation = .ok (Model.declare { className := "Visit" } visitMembers) := rfl

theorem declare_visits : ∃ m, Model.declare { className := "Visit" } visitMembers = .ok m ∧ m.members = visitMembers :=
  ⟨_, rfl, rfl⟩

theorem given_thirdVisit : List.Forall₂ Member.Given visitMembers thirdVisit := by
  have hleap : Calendar.InExtent SqlMapper.Sample.leapNoon.unixSeconds := by decide
  exact .cons ⟨rfl, .integer (n := 3) (by decide), fun _ => rfl, fun h => (by cases h)⟩
    (.cons ⟨rfl, .timestamp _ rfl hleap, fun h => (by cases h), fun h => (by cases h)⟩
      (.cons ⟨rfl, .some (.string "on time"), fun h => (by cases h), fun _ _ => rfl⟩ .nil))

/-- The clocks of the process show the noon of a leap day. -/
theorem shows_thirdVisit : ∀ q ∈ visitMembers.zip thirdVisit, q.1.field.Shows q.2.2 := by
  simp only [visitMembers, thirdVisit, List.zip_cons_cons, List.zip_nil_left, List.forall_mem_cons]
  refine ⟨fun _ h => (by cases h), ?_, fun _ h => (by cases h), fun _ h => (by cases h)⟩
  rintro _ ⟨⟩ _ ⟨⟩
  decide

end Sample

end SqlMapper.Struct
