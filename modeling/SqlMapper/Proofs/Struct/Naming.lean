import SqlMapper.Proofs.Struct.Key

/-!
# Names of derived columns

A column is named by the settings of its field. They are a list, since whatever reads a setting can keep it as it is
given (`readGroups_recorded`), and the name of the column is the literal of the last one that gives a name
(`Column.exists_settings`). Of the calls that define the field, only the first one can give a name. So the definition
has the name of the column (`Column.name_of_chain`), and it takes `NULL` exactly if the type of the field is an option
(`Column.nullable_of_chain`).
-/

namespace SqlMapper.Struct

open Source

/-! ## Settings as they are given -/

/-- A setting as it is given: its word, and what stands behind the word in its group. -/
structure Setting where
  word : String
  behind : List Token

/-- The literal that the setting is given. -/
def Setting.literal? (s : Setting) : Option String :=
  match s.behind with
  | .mark '=' _ :: .literal text :: _ => some text
  | _ => none

/-- The name that some settings give: the literal of the last one that gives a name. -/
def givenName (settings : List Setting) : Option String :=
  (settings.filter (·.word = "name")).getLast?.bind Setting.literal?

/-- Takes up a setting and keeps it as it is given. -/
def recorded {σ : Type} (take : σ → String → List Token → Reading (σ × List Token)) (s : σ × List Setting)
    (word : String) (behind : List Token) : Reading ((σ × List Setting) × List Token) := do
  let (s', rest) ← take s.1 word behind
  return ((s', s.2 ++ [⟨word, behind⟩]), rest)

/-- The settings of a field, in the order in which they are read. -/
def FieldItem.settings (f : FieldItem) : Reading (List Setting) :=
  (readGroups (recorded Column.take)
    ({ attr := f.attr, base := f.type.base.getD "", isOption := f.type.isOption }, []) f.groups).map Prod.snd

section Recording

variable {σ : Type} {take : σ → String → List Token → Reading (σ × List Token)} {s s' : σ} {word : String}
  {behind rest tokens : List Token}

theorem recorded_of_ok (h : take s word behind = .ok (s', rest)) (settings : List Setting) :
    recorded take (s, settings) word behind = .ok ((s', settings ++ [⟨word, behind⟩]), rest) := by
  unfold recorded
  rw [h]
  rfl

theorem recorded_eq_ok {r r' : σ × List Setting} (h : recorded take r word behind = .ok (r', rest)) :
    take r.1 word behind = .ok (r'.1, rest) ∧ r'.2 = r.2 ++ [⟨word, behind⟩] := by
  obtain ⟨⟨s', rest'⟩, htake, h⟩ := Result.bind_eq_ok.1 h
  cases h
  exact ⟨htake, rfl⟩

/-- The settings of a group can be kept wherever the group can be read. -/
theorem readSettings_recorded (h : readSettings take s tokens = .ok s') (settings : List Setting) :
    ∃ settings', readSettings (recorded take) (s, settings) tokens = .ok (s', settings') := by
  fun_induction readSettings take s tokens generalizing settings with
  | case1 s tokens hempty =>
    cases h
    exact ⟨settings, by rw [readSettings, if_pos hempty]⟩
  | case2 s tokens hempty fault hword => cases h
  | case3 s tokens hempty name rest hword fault hfault => cases h
  | case4 s tokens hempty name rest hword t ht =>
    cases h
    refine ⟨settings ++ [⟨name, rest⟩], ?_⟩
    rw [readSettings, if_neg hempty, hword]
    simp only [recorded_of_ok ht]
  | case5 s tokens hempty name rest hword t joined rest' ht hlt ih =>
    obtain ⟨settings', hread⟩ := ih h (settings ++ [⟨name, rest⟩])
    refine ⟨settings', ?_⟩
    rw [readSettings, if_neg hempty, hword]
    simp only [recorded_of_ok ht, dif_pos hlt]
    exact hread
  | case6 s tokens hempty name rest hword t joined rest' ht hlt =>
    cases h
    refine ⟨settings ++ [⟨name, rest⟩], ?_⟩
    rw [readSettings, if_neg hempty, hword]
    simp only [recorded_of_ok ht, dif_neg hlt]
  | case7 => cases h

theorem readGroups_recorded : ∀ {groups : List (List Token)} {s : σ}, readGroups take s groups = .ok s' →
    ∀ settings, ∃ settings', readGroups (recorded take) (s, settings) groups = .ok (s', settings')
  | [], s, h, settings => by
    cases h
    exact ⟨settings, rfl⟩
  | tokens :: groups, s, h, settings => by
    obtain ⟨t, ht, h⟩ := Result.bind_eq_ok.1 h
    obtain ⟨settings', hsettings⟩ := readSettings_recorded ht settings
    obtain ⟨settings'', hgroups⟩ := readGroups_recorded h settings'
    exact ⟨settings'', Result.bind_eq_ok.2 ⟨_, hsettings, hgroups⟩⟩

end Recording

/-! ## The name of a column -/

theorem givenName_concat_of_ne {settings : List Setting} {s : Setting} (h : s.word ≠ "name") :
    givenName (settings ++ [s]) = givenName settings := by
  rw [givenName, List.filter_append, List.filter_cons_of_neg (by simpa using h), List.filter_nil, List.append_nil]
  rfl

theorem givenName_concat_name (settings : List Setting) (behind : List Token) :
    givenName (settings ++ [⟨"name", behind⟩]) = Setting.literal? ⟨"name", behind⟩ := by
  rw [givenName, List.filter_append, List.filter_cons_of_pos (by simp), List.filter_nil, List.getLast?_concat]
  rfl

theorem ofSource_eq_ok {α : Type} {r : Except SourceFault α} {a : α} : ofSource r = .ok a ↔ r = .ok a := by
  cases r <;> simp [ofSource, Except.mapError]

theorem textLiteral_eq_ok {tokens rest : List Token} {text : String} (h : textLiteral tokens = .ok (text, rest)) :
    tokens = .literal text :: rest := by
  unfold textLiteral at h
  split at h
  · split at h
    · cases h
      rfl
    · cases h
  · cases h

namespace Column

variable {f : FieldItem} {c c' : Column} {word : String} {behind rest : List Token}

/-- Only a setting of the name changes the name, to the literal that it is given. -/
theorem name_take (h : c.take word behind = .ok (c', rest)) :
    c'.name = if word = "name" then Setting.literal? ⟨word, behind⟩ else c.name := by
  unfold Column.take at h
  split at h
  case h_1 | h_2 | h_3 | h_4 | h_5 =>
    obtain rfl := flag_eq_ok h
    exact (if_neg (by decide)).symm
  case h_6 =>
    split at h
    · obtain ⟨_, rfl⟩ := valued_eq_ok h
      exact (if_neg (by decide)).symm
    · cases h
      exact (if_neg (by decide)).symm
  case h_7 =>
    rw [if_pos rfl]
    unfold valued at h
    split at h
    · obtain ⟨⟨text, rest⟩, hread, h⟩ := Result.bind_eq_ok.1 h
      cases h
      rw [textLiteral_eq_ok (ofSource_eq_ok.1 hread)]
      rfl
    · cases h
  case h_10 =>
    obtain ⟨_, rfl⟩ := inspected_eq_ok h
    exact (if_neg (by decide)).symm
  case h_16 => cases h
  all_goals
    obtain ⟨_, rfl⟩ := valued_eq_ok h
    exact (if_neg (by decide)).symm

/-- The column of a field has the name that its settings give. -/
theorem exists_settings (h : ofItem f = .ok c) :
    ∃ settings, f.settings = .ok settings ∧ c.name = givenName settings := by
  unfold ofItem at h
  cases hb : f.type.base with
  | none =>
    rw [hb] at h
    cases h
  | some base =>
    rw [hb] at h
    obtain ⟨c', hread, h⟩ := Result.bind_eq_ok.1 h
    obtain ⟨settings, hsettings⟩ := readGroups_recorded hread []
    have hname : c'.name = givenName settings := by
      refine readGroups_keeps (P := fun s => s.1.name = givenName s.2) (fun {s word behind s' rest} hs ht => ?_) rfl
        hsettings
      obtain ⟨htake, hkept⟩ := recorded_eq_ok ht
      rw [name_take htake, hkept]
      by_cases hword : word = "name"
      · rw [if_pos hword, hword, givenName_concat_name]
      · rw [if_neg hword, hs, givenName_concat_of_ne hword]
    have hc : c' = c := by
      split at h
      · cases h
      split at h
      · cases h
      · cases h
        rfl
    refine ⟨settings, ?_, hc ▸ hname⟩
    rw [FieldItem.settings, hb, Option.getD_some, hsettings]
    rfl

end Column

/-! ## The definition of a field -/

/-- The setter that a call is. -/
def FieldCall.setter (d : Denotation) : FieldCall → Field.Setter
  | name literal => .name (d.text literal)
  | nullable => .nullable
  | primaryKey => .primaryKey
  | autoIncrement => .autoIncrement
  | unsigned => .unsigned
  | zerofill => .zerofill
  | length literal => .length (d.number literal)
  | utc literal => .utc (d.switch literal) d.ahead
  | charset literal => .charset (d.text literal)
  | comment literal => .comment (d.text literal)
  | default expression => .default (d.value expression)
  | defaultRaw literal => .defaultRaw (d.text literal)

section Calls

variable {d : Denotation} {f : Field} {calls : List FieldCall}

theorem foldl_setter :
    calls.foldl (FieldCall.apply d) f = (calls.map (FieldCall.setter d)).foldl Field.Setter.apply f := by
  rw [List.foldl_map]
  congr 1
  funext f call
  cases call <;> rfl

/-- The type of a field gives no name. -/
theorem FieldType.name_field (type : FieldType) : (type.field d).name = "" := by
  cases type <;> rfl

end Calls

namespace Column

variable {d : Denotation} {f : FieldItem} {c : Column} {isUnsigned : Bool} {definition : FieldChain}

/-- Of the calls for a column, only the first one can give a name. -/
theorem exists_calls_eq (d : Denotation) (c : Column) (isUnsigned : Bool) :
    ∃ others, c.calls isUnsigned = callFor FieldCall.name c.name ++ others ∧
      others.any (fun call => (call.setter d).name?.isSome) = false := by
  refine ⟨_, by simp only [calls, List.append_assoc]; rfl, ?_⟩
  simp only [List.any_append, any_callFor, any_callIf]
  simp [FieldCall.setter, Field.Setter.name?]

theorem findSome?_calls : ((c.calls isUnsigned).map (FieldCall.setter d)).reverse.findSome? Field.Setter.name? =
    c.name.map d.text := by
  obtain ⟨others, hcalls, hothers⟩ := exists_calls_eq d c isUnsigned
  have hnone : (others.map (FieldCall.setter d)).reverse.findSome? Field.Setter.name? = none := by
    refine List.findSome?_eq_none_iff.2 fun setter hsetter => ?_
    obtain ⟨call, hcall, rfl⟩ := List.mem_map.1 (List.mem_reverse.1 hsetter)
    simpa using List.any_eq_false.1 hothers call hcall
  rw [hcalls, List.map_append, List.reverse_append, List.findSome?_append, hnone, Option.none_or]
  cases c.name <;> rfl

/-- The definition of the field of a column has the name of the column, if it has one. -/
theorem name_of_chain (h : c.chain = .ok definition) (d : Denotation) :
    (definition.field d).name = (c.name.map d.text).getD "" := by
  obtain ⟨⟨type, isUnsigned⟩, -, h⟩ := Result.bind_eq_ok.1 h
  dsimp only at h
  split at h
  · cases h
  · cases h
    rw [FieldChain.field, foldl_setter, Field.last_wins_foldl Field.name_apply, findSome?_calls, FieldType.name_field]

/-- The definition of the field of a column takes `NULL` exactly if the type of the field is an option. -/
theorem nullable_of_chain (hc : ofItem f = .ok c) (h : c.chain = .ok definition) (d : Denotation) :
    (definition.field d).nullable = f.type.isOption := by
  obtain ⟨hdeclares, hoption⟩ := declares_of_ofItem hc
  rw [← hdeclares.isOption]
  cases hk : c.isKey with
  | true => rw [(flags_of_chain hc h d).nullable hk, hoption hk]
  | false =>
    have ha : c.isAuto = false := Bool.eq_false_iff.2 fun ha => by
      rw [hdeclares.numbered ha] at hk
      cases hk
    exact (defines_of_chain d h).nullable hk ha

end Column

end SqlMapper.Struct
