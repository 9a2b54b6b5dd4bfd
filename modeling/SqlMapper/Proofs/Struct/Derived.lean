import SqlMapper.Proofs.Source.TypeName
import SqlMapper.Proofs.Struct.Naming

/-!
# Fields of derived tables

The table of a struct has a field for each field of the struct, in their order (`StructTable.fields_of_derive`). What
becomes of a single one is `FieldText.Derives`: its attribute is the word that it is declared with, its column has the
name that is given last, or else that of the attribute, and the column takes no `NULL` exactly if the type is no option.
A raw identifier is declared with its mark, so the mark gets into the attribute and into the name of the column; the
attributes are the identifiers of the struct exactly if none of them is raw.
-/

namespace SqlMapper.Struct

open Source

/-! ## Derived columns -/

/-- The name of a column: the one that it is given, unless that is empty, or else that of its attribute. -/
def columnName (attr : String) (given : Option String) : String := (given.filter fun name => !name.isEmpty).getD attr

theorem columnName_named {attr : String} {f : Field} {given : Option String} (h : f.name = given.getD "") :
    (Declaration.named attr f).name = columnName attr given := by
  unfold Declaration.named columnName
  cases given with
  | none =>
    rw [h]
    rfl
  | some name =>
    rw [h, Option.getD_some, Option.filter_some]
    cases hempty : name.isEmpty with
    | true => rfl
    | false => exact h

/-- The word that the text of the name of a field consists of. -/
def FieldText.word? (f : FieldText) : Option String :=
  match tokens f.name with
  | some [.word word] => some word
  | _ => none

/-- The identifier has the mark of a raw one. -/
def isRaw (word : String) : Bool := ['r', '#'].isPrefixOf word.toList

/-- The identifier that a word stands for, without the mark of a raw one. -/
def identifier (word : String) : String := if isRaw word then .ofList (word.toList.drop 2) else word

theorem identifier_eq_self_iff {word : String} : identifier word = word ↔ isRaw word = false := by
  unfold identifier
  split
  · next h =>
    refine iff_of_false (fun he => ?_) (by simp [h])
    have hlength := congrArg (fun s => s.toList.length) he
    rw [String.toList_ofList, List.length_drop] at hlength
    obtain ⟨rest, hrest⟩ := List.isPrefixOf_iff_prefix.1 h
    rw [← hrest, List.length_append, List.length_cons, List.length_singleton] at hlength
    omega
  · next h => exact iff_of_true rfl (Bool.eq_false_iff.2 h)

/-- The settings of a field, as they are given. -/
def FieldText.settings (f : FieldText) : Reading (List Setting) := do (← f.read).settings

/-- What the text of a field makes of a field of the table. -/
structure FieldText.Derives (d : Denotation) (f : FieldText) (p : String × Field) : Prop where
  /-- The attribute is the identifier as it is written. -/
  attr : f.word? = some p.1
  /-- The column has the name that is given last. -/
  name : ∃ settings, f.settings = .ok settings ∧
    (Declaration.named p.1 p.2).name = columnName p.1 ((givenName settings).map d.text)
  /-- The column takes no `NULL` exactly if the type is no option. -/
  notNull : ∃ type, tokens f.type = some type ∧ (p.2.nullable = false ↔ ¬ IsOption type)

/-! ## Reading a declaration -/

section Reading

variable {text name : String} {ts : List Token}

theorem readTokens_eq_ok : readTokens text = .ok ts ↔ tokens text = some ts := by
  unfold readTokens
  cases tokens text with
  | none => exact iff_of_false (fun h => nomatch h) (fun h => nomatch h)
  | some ts' => simp

/-- A name is the only token of its text. -/
theorem tokens_of_readName (h : readName text = .ok name) : tokens text = some [.word name] := by
  obtain ⟨ts, hts, h⟩ := Result.bind_eq_ok.1 h
  rw [readTokens_eq_ok.1 hts]
  split at h
  · split at h
    · cases h
    · cases h
      rfl
  · cases h

theorem readType_eq_ok {type : TypeName} (h : readType text = .ok type) :
    ∃ ts, tokens text = some ts ∧ type = .ofTokens ts := by
  obtain ⟨ts, hts, h⟩ := Result.bind_eq_ok.1 h
  split at h
  · cases h
    exact ⟨ts, readTokens_eq_ok.1 hts, rfl⟩
  · cases h

theorem FieldText.read_eq_ok {f : FieldText} {item : FieldItem} (h : f.read = .ok item) :
    f.word? = some item.attr ∧ ∃ type, tokens f.type = some type ∧ item.type = .ofTokens type := by
  obtain ⟨groups, -, h⟩ := Result.bind_eq_ok.1 h
  obtain ⟨name, hname, h⟩ := Result.bind_eq_ok.1 h
  obtain ⟨type, htype, h⟩ := Result.bind_eq_ok.1 h
  cases h
  refine ⟨?_, readType_eq_ok htype⟩
  rw [word?, tokens_of_readName hname]

/-- The fields of a declaration are read one by one. -/
theorem ItemText.mapM_read {i : ItemText} {item : Item} {fields : List FieldItem} (h : i.read = .ok item)
    (hfields : item.fields = some fields) : i.fields.mapM FieldText.read = .ok fields := by
  obtain ⟨groups, -, h⟩ := Result.bind_eq_ok.1 h
  obtain ⟨name, -, h⟩ := Result.bind_eq_ok.1 h
  obtain ⟨generics, -, h⟩ := Result.bind_eq_ok.1 h
  dsimp only at h
  split at h
  · obtain ⟨fields', hread, h⟩ := Result.bind_eq_ok.1 h
    cases h
    obtain rfl : fields' = some fields := hfields
    cases hm : i.fields.mapM FieldText.read with
    | error e =>
      rw [hm] at hread
      cases hread
    | ok fields' =>
      rw [hm] at hread
      cases hread
      rfl
  · cases h
    cases hfields

end Reading

namespace StructTable

variable {d : Denotation} {i : Item} {t : StructTable} {definition : TableChain}

/-- The fields of the declaration of a struct are those that the columns define, in order. -/
theorem forall₂_chain (hi : ofItem i = .ok t) (h : t.chain = .ok definition) (d : Denotation) :
    List.Forall₂ (fun c p => ∃ chain, c.chain = .ok chain ∧ p = (c.attr, chain.field d)) t.columns
      (definition.declaration d).fields := by
  obtain ⟨calls, hcalls, -⟩ := Result.bind_eq_ok.1 (id h)
  obtain ⟨members, hmembers, -⟩ := exists_members (d := d) (Result.forall₂_of_mapM hcalls)
    fun c hc => exists_ofItem_of_mem hi hc
  rw [(fields_of_chain h hmembers).2, List.forall₂_map_right_iff]
  refine hmembers.imp fun c m hm => ?_
  obtain ⟨chain, hchain, -, hfield⟩ := Column.member_eq_ok hm
  exact ⟨chain, hchain, hfield⟩

end StructTable

/-! ## The fields of a table -/

/-- The column of a field derives a field of the table. -/
theorem FieldText.derives {d : Denotation} {f : FieldText} {item : FieldItem} {c : Column} {chain : FieldChain}
    (hread : f.read = .ok item) (hc : Column.ofItem item = .ok c) (hchain : c.chain = .ok chain) :
    f.Derives d (c.attr, chain.field d) := by
  obtain ⟨hattr, type, htype, htypeName⟩ := read_eq_ok hread
  obtain ⟨settings, hsettings, hname⟩ := Column.exists_settings hc
  refine ⟨?_, ⟨settings, ?_, ?_⟩, type, htype, ?_⟩
  · rw [(Column.declares_of_ofItem hc).1.attr]
    exact hattr
  · exact Result.bind_eq_ok.2 ⟨item, hread, hsettings⟩
  · rw [← hname]
    refine columnName_named ?_
    exact Column.name_of_chain hchain d
  · rw [Column.nullable_of_chain hc hchain d, htypeName, ← TypeName.isOption_ofTokens, Bool.not_eq_true]

/-- The attributes are the plain identifiers of the fields exactly if no field has a raw one. -/
theorem FieldText.map_identifier_iff {d : Denotation} {texts : List FieldText} {fields : List (String × Field)}
    (h : List.Forall₂ (Derives d) texts fields) :
    fields.map (fun p => some p.1) = texts.map (fun f => f.word?.map identifier) ↔
      ∀ f ∈ texts, f.word?.any isRaw = false := by
  induction h with
  | nil => simp
  | @cons f p texts fields hf _ ih =>
    rw [List.map_cons, List.map_cons, List.cons.injEq, ih, List.forall_mem_cons, hf.attr, Option.map_some,
      Option.some.injEq, Option.any_some, ← identifier_eq_self_iff, eq_comm]

/-- **Derived fields match the struct.** Every declaration with a definition of its table derives a field from each of
its fields, in their order, named and nullable as the field says. The attributes are the identifiers of the struct
exactly if none of them is raw. A table that compiles has these fields and no others. -/
theorem StructTable.fields_of_derive {i : ItemText} {definition : TableChain} (h : derive i = .ok definition)
    (d : Denotation) :
    List.Forall₂ (FieldText.Derives d) i.fields (definition.declaration d).fields ∧
      ((definition.declaration d).fields.map (fun p => some p.1) = i.fields.map (fun f => f.word?.map identifier) ↔
        ∀ f ∈ i.fields, f.word?.any isRaw = false) ∧
      ∀ table, (definition.declaration d).compile = .ok table →
        table.fields.pairs = (definition.declaration d).fields.map fun p => (p.1, Declaration.named p.1 p.2) := by
  obtain ⟨item, hread, h⟩ := Result.bind_eq_ok.1 h
  obtain ⟨t, ht, h⟩ := Result.bind_eq_ok.1 h
  obtain ⟨fields, columns, hfields, -⟩ := ofItem_eq_ok ht
  have hderives : List.Forall₂ (FieldText.Derives d) i.fields (definition.declaration d).fields := by
    -- From the texts to the items, from these to the columns, and from these to the fields of the table.
    have hitems := Result.forall₂_of_mapM (ItemText.mapM_read hread hfields)
    have hcolumns := Result.forall₂_comp hitems (forall₂_ofItem ht hfields)
    refine (Result.forall₂_comp hcolumns (forall₂_chain ht h d)).imp ?_
    rintro f _ ⟨c, ⟨item, hitem, hc⟩, chain, hchain, rfl⟩
    exact FieldText.derives hitem hc hchain
  refine ⟨hderives, FieldText.map_identifier_iff hderives, fun table htable => ?_⟩
  exact Declaration.pairs_of_addFields (yields_of_chain ht h d).1 (Declaration.compile_eq_ok htable).1

/-! ## A struct with a raw name -/

namespace Sample

section Lexing

open Lexeme

variable {text : String} {cs rest : List Char} {t : Token} {l : Option Lexeme} {ls : List Lexeme}

theorem all_nil : all [] = some [] := by
  rw [all]
  rfl

theorem all_of_first (h : first cs = some (l, rest)) (hlt : rest.length < cs.length) (hrest : all rest = some ls) :
    all cs = some (l.toList ++ ls) := by
  have hcs : cs.isEmpty = false := by
    cases cs with
    | nil => cases hlt
    | cons c cs => rfl
  rw [all, hcs, if_neg Bool.false_ne_true]
  simp only [h, dif_pos hlt, hrest, Option.map_some]

/-- A text that one token fills. -/
theorem tokens_of_first (h : first text.toList = some (some (.token t), [])) : tokens text = some [t] := by
  have hlt : ([] : List Char).length < text.toList.length := by
    cases htext : text.toList with
    | nil =>
      rw [htext] at h
      cases h
    | cons c cs => exact Nat.succ_pos _
  rw [tokens, all_of_first h hlt all_nil]
  rfl

theorem readTokens_of_first (h : first text.toList = some (some (.token t), [])) : readTokens text = .ok [t] :=
  readTokens_eq_ok.2 (tokens_of_first h)

theorem first_angle {c : Char} (h : c = '<' ∨ c = '>') :
    first (c :: rest) = some (some (.token (.mark c (marksNext rest))), rest) := by
  have hmark : isMark c = true := by
    rcases h with rfl | rfl <;> cbv
  have hfirst : first (c :: rest) =
      if isMark c then some (some (.token (.mark c (marksNext rest))), rest) else none := by
    rcases h with rfl | rfl <;> rfl
  rw [hfirst, hmark]
  rfl

set_option maxRecDepth 4000 in
theorem readTokens_optionString : readTokens "Option<String>" =
    .ok [.word "Option", .mark '<' false, .word "String", .mark '>' false] := by
  have hoption : first "Option<String>".toList =
      some (some (.token (.word "Option")), ['<', 'S', 't', 'r', 'i', 'n', 'g', '>']) := rfl
  have hopening : first ['<', 'S', 't', 'r', 'i', 'n', 'g', '>'] =
      some (some (.token (.mark '<' false)), ['S', 't', 'r', 'i', 'n', 'g', '>']) := by
    have hnext : marksNext ['S', 't', 'r', 'i', 'n', 'g', '>'] = false := by cbv
    rw [first_angle (.inl rfl), hnext]
  have hstring : first ['S', 't', 'r', 'i', 'n', 'g', '>'] = some (some (.token (.word "String")), ['>']) := rfl
  have hclosing : first ['>'] = some (some (.token (.mark '>' false)), []) := first_angle (.inr rfl)
  rw [readTokens_eq_ok, tokens, all_of_first hoption (by decide) <| all_of_first hopening (by decide) <|
    all_of_first hstring (by decide) <| all_of_first hclosing (by decide) all_nil]
  rfl

end Lexing

/-- A numbered message with a raw name for its kind, and a subject that is named twice. -/
def message : ItemText :=
  { name := "Message", kind := .struct, generics := "", groups := []
    fields := [⟨"id", "i64", [[⟨"auto", none⟩]]⟩, ⟨"r#type", "i32", []⟩,
      ⟨"subject", "Option<String>", [[⟨"name", some "\"title\""⟩], [⟨"name", some "\"headline\""⟩]]⟩] }

/-- The tokens of the declaration. -/
def messageItem : Item :=
  { name := "Message", isGeneric := false, groups := []
    fields := some [⟨"id", ⟨some "i64", false⟩, [[.word "auto"]]⟩, ⟨"r#type", ⟨some "i32", false⟩, []⟩,
      ⟨"subject", ⟨some "String", true⟩, [[.word "name", .mark '=' false, .literal "\"title\""],
        [.word "name", .mark '=' false, .literal "\"headline\""]]⟩] }

/-- What the declaration says about the table of messages. -/
def messages : StructTable :=
  { name := "Message"
    columns := [{ attr := "id", base := "i64", isOption := false, isKey := true, isAuto := true },
      { attr := "r#type", base := "i32", isOption := false },
      { attr := "subject", base := "String", isOption := true, name := some "\"headline\"" }] }

/-- The definition of the table of messages. -/
def messageChain : TableChain :=
  ⟨"Message", [.field "id" ⟨.bigint, [.primaryKey, .autoIncrement]⟩, .field "r#type" ⟨.int, []⟩,
    .field "subject" ⟨.varchar "255", [.name "\"headline\"", .nullable]⟩]⟩

theorem read_message : message.read = .ok messageItem := by
  have hempty : readTokens "" = .ok [] := by
    rw [readTokens_eq_ok, tokens, String.toList_empty, all_nil]
    rfl
  have hmessage : readTokens "Message" = .ok [.word "Message"] := readTokens_of_first rfl
  have hid : readTokens "id" = .ok [.word "id"] := readTokens_of_first rfl
  have hi64 : readTokens "i64" = .ok [.word "i64"] := readTokens_of_first rfl
  have hauto : readTokens "auto" = .ok [.word "auto"] := readTokens_of_first rfl
  have htype : readTokens "r#type" = .ok [.word "r#type"] := readTokens_of_first rfl
  have hi32 : readTokens "i32" = .ok [.word "i32"] := readTokens_of_first rfl
  have hsubject : readTokens "subject" = .ok [.word "subject"] := readTokens_of_first rfl
  have hname : readTokens "name" = .ok [.word "name"] := readTokens_of_first rfl
  have htitle : readTokens "\"title\"" = .ok [.literal "\"title\""] := readTokens_of_first rfl
  have hheadline : readTokens "\"headline\"" = .ok [.literal "\"headline\""] := readTokens_of_first rfl
  simp only [message, ItemText.read, FieldText.read, List.mapM_cons, List.mapM_nil, readGroup, SettingText.read,
    readName, readType, hempty, hmessage, hid, hi64, hauto, htype, hi32, hsubject, hname, htitle, hheadline,
    readTokens_optionString, Result.ok_bind]
  rfl

theorem ofItem_message : StructTable.ofItem messageItem = .ok messages := by
  cbv

theorem derive_message : StructTable.derive message = .ok messageChain := by
  rw [StructTable.derive, read_message, Result.ok_bind, ofItem_message]
  rfl

end Sample

/-- The derived fields of messages: the one with a raw name is not named as its identifier, and the last name that the
subject is given holds. -/
theorem fields_of_derive_message : StructTable.derive Sample.message = .ok Sample.messageChain ∧
    List.Forall₂ (FieldText.Derives Sample.denotation) Sample.message.fields
      (Sample.messageChain.declaration Sample.denotation).fields ∧
    ∃ table, (Sample.messageChain.declaration Sample.denotation).compile = .ok table ∧
      table.fields.pairs.map (fun p => (p.1, p.2.name, p.2.nullable)) =
        [("id", "id", false), ("r#type", "r#type", false), ("subject", "headline", true)] := by
  obtain ⟨hfields, -, htables⟩ := StructTable.fields_of_derive Sample.derive_message Sample.denotation
  have htable : ∃ table, (Sample.messageChain.declaration Sample.denotation).compile = .ok table := ⟨_, rfl⟩
  obtain ⟨table, htable⟩ := htable
  refine ⟨Sample.derive_message, hfields, table, htable, ?_⟩
  rw [htables table htable]
  rfl

/-- The mark of a raw identifier is kept in the attribute and in the name of the column. -/
theorem raw_mark_kept : StructTable.derive Sample.message = .ok Sample.messageChain ∧
    Sample.message.fields.map (fun f => f.word?.map identifier) = [some "id", some "type", some "subject"] ∧
    ∃ table, (Sample.messageChain.declaration Sample.denotation).compile = .ok table ∧
      table.fields.pairs.map (fun p => (p.1, p.2.name)) =
        [("id", "id"), ("r#type", "r#type"), ("subject", "headline")] := by
  have hid : tokens "id" = some [.word "id"] := Sample.tokens_of_first rfl
  have htype : tokens "r#type" = some [.word "r#type"] := Sample.tokens_of_first rfl
  have hsubject : tokens "subject" = some [.word "subject"] := Sample.tokens_of_first rfl
  refine ⟨Sample.derive_message, ?_, _, rfl, rfl⟩
  simp only [Sample.message, List.map_cons, List.map_nil, FieldText.word?, hid, htype, hsubject, Option.map_some]
  rfl

end SqlMapper.Struct
