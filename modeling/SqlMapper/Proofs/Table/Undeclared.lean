import SqlMapper.Proofs.Record.Statements
import SqlMapper.Proofs.Statement.Batch
import SqlMapper.Proofs.Table.WellFormed

/-!
# Names that a table does not declare

An attribute name that a table does not declare is refused by what reads it: when the field or column is looked up,
when a record or an update is given a value for it, and when a row that has it is rendered (`Table.Rejects`). Where
several names are given, the first one that is not declared is the one reported, and what was accepted before it does
not matter (`Record.withValues_eq`, `Insert.answer_render_of_undeclared`). The names of a selection are not read as
attributes of the table: they only say which values of the rows count, so that an undeclared name among them changes
nothing (`Insert.render_of_columns`).
-/

namespace SqlMapper

variable {t : Table} {attr : String} {names : List String}

/-! ## The first undeclared name -/

/-- The first of some names that the table does not declare. -/
def Table.undeclared? (t : Table) (names : List String) : Option String :=
  names.find? fun attr => !t.fields.contains attr

namespace Table

theorem undeclared?_cons_of_mem (h : attr ∈ t.fields.keys) : t.undeclared? (attr :: names) = t.undeclared? names :=
  List.find?_cons_of_neg (by simp [Ordered.contains_eq_true.2 h])

theorem undeclared?_cons_of_notMem (h : attr ∉ t.fields.keys) : t.undeclared? (attr :: names) = some attr :=
  List.find?_cons_of_pos (by simpa [← Ordered.contains_eq_true] using h)

/-- One of several names is the first that is not declared. -/
theorem exists_undeclared (h : attr ∉ t.fields.keys) (hm : attr ∈ names) :
    ∃ other, t.undeclared? names = some other := by
  refine Option.isSome_iff_exists.1 (List.find?_isSome.2 ⟨attr, hm, ?_⟩)
  simpa [← Ordered.contains_eq_true] using h

/-- What reads the attributes of a table refuses the name, also where it reads it among others. -/
structure Rejects (t : Table) (attr : String) : Prop where
  field : t.field attr = fail (.unknownColumn t.name attr)
  column : t.column attr = fail (.unknownColumn t.name attr)
  /-- No record is given a value under the name. -/
  set : ∀ (r : Record) v, r.table = t → r.set attr v = fail (.unknownColumn t.name attr)
  /-- No record is made of values one of which has the name. -/
  withValues : ∀ values : Values, attr ∈ values.keys → ∃ other, t.undeclared? values.keys = some other ∧
    Record.withValues t values = fail (.unknownColumn t.name other)
  /-- No update assigns the name, neither a value nor an expression. -/
  assign : ∀ (u : Update) operand, u.table = t → u.assign attr operand = fail (.unknownColumn t.name attr)
  /-- No update assigns values one of which has the name, and the name is reported if those before it are assigned. -/
  setAll : ∀ (u : Update) before v after, u.table = t → (∀ u', u.setAll (before ++ (attr, v) :: after) ≠ .ok u') ∧
    ∀ u', u.setAll before = .ok u' → u.setAll (before ++ (attr, v) :: after) = fail (.unknownColumn t.name attr)
  /-- No row with the name is rendered, and a name is reported if the rows before it are rendered. -/
  row : ∀ (i : Insert) before row after σ, i.table = t → i.rows = before ++ row :: after → attr ∈ row.keys →
    (∀ q, i.render.answer σ ≠ .ok q) ∧ ∃ other, t.undeclared? row.keys = some other ∧
      (before = [] ∨ (∃ q, ({ i with rows := before } : Insert).render.answer σ = .ok q) →
        i.render.answer σ = fail (.unknownColumn t.name other))

theorem field_of_notMem (h : attr ∉ t.fields.keys) : t.field attr = fail (.unknownColumn t.name attr) := by
  unfold field
  rw [Ordered.get?_eq_none_iff.2 h]

theorem column_of_notMem (h : attr ∉ t.fields.keys) : t.column attr = fail (.unknownColumn t.name attr) := by
  unfold column
  rw [field_of_notMem h]
  rfl

end Table

/-! ## Records -/

namespace Record

variable {r : Record} {v : Value}

theorem set_of_notMem (h : attr ∉ r.table.fields.keys) : r.set attr v = fail (.unknownColumn r.table.name attr) := by
  unfold set
  rw [Table.field_of_notMem h]
  rfl

/-- A first value of an attribute is accepted, also for the key. -/
theorem set_of_mem (h : attr ∈ r.table.fields.keys) (hnew : attr ∉ r.values.keys) :
    r.set attr v = .ok (r.load attr v) := by
  obtain ⟨f, hf⟩ := Option.ne_none_iff_exists'.1 (mt Ordered.get?_eq_none_iff.1 (not_not.2 h))
  have hkey : r.changesKey f attr v = false := by
    unfold changesKey get?
    rw [Ordered.get?_eq_none_iff.2 hnew, Bool.and_false]
  unfold set Table.field
  rw [hf]
  simp only [Result.ok_bind, hkey, Bool.false_eq_true, if_false]
  rfl

/-- New values are accepted up to the first one whose name is not declared. -/
theorem setAll_eq : ∀ {pairs : List (String × Value)} {r : Record}, (r.values.keys ++ pairs.map Prod.fst).Nodup →
    r.setAll pairs = match r.table.undeclared? (pairs.map Prod.fst) with
      | some attr => fail (.unknownColumn r.table.name attr)
      | none => .ok ⟨r.table, r.values.insertAll pairs⟩
  | [], _, _ => rfl
  | (attr, v) :: pairs, r, hn => by
    rw [setAll, List.map_cons]
    by_cases hm : attr ∈ r.table.fields.keys
    · have hnew : attr ∉ r.values.keys := fun hk => (List.nodup_append.1 hn).2.2 _ hk _ List.mem_cons_self rfl
      have hrest : ((r.load attr v).values.keys ++ pairs.map Prod.fst).Nodup := by
        rw [show (r.load attr v).values.keys = r.values.keys ++ [attr] from Ordered.keys_insert.trans (if_neg hnew),
          List.append_assoc]
        exact hn
      rw [set_of_mem hm hnew, Result.ok_bind, setAll_eq hrest, Table.undeclared?_cons_of_mem hm]
      rfl
    · rw [set_of_notMem hm, Table.undeclared?_cons_of_notMem hm]
      rfl

/-- A record is made of values if the table declares all their names, and else the first one that it does not declare is
reported. -/
theorem withValues_eq (t : Table) (values : Values) : withValues t values = match t.undeclared? values.keys with
    | some attr => fail (.unknownColumn t.name attr)
    | none => .ok ⟨t, values⟩ := by
  have hvalues : (ofTable t).values.insertAll values.pairs = values := Ordered.ofList_pairs values
  unfold withValues
  rw [setAll_eq (r := ofTable t) values.nodup, hvalues]
  rfl

end Record

/-! ## Updates -/

namespace Update

variable {u u' : Update}

theorem assign_of_notMem {operand : Operand} (h : attr ∉ u.table.fields.keys) :
    u.assign attr operand = fail (.unknownColumn u.table.name attr) := by
  unfold assign
  rw [Table.field_of_notMem h]
  rfl

/-- Further values are assigned after the first ones, if those are. -/
theorem setAll_append : ∀ {before after : List (String × Value)} {u : Update},
    u.setAll (before ++ after) = u.setAll before >>= fun u => u.setAll after
  | [], _, _ => rfl
  | (attr, v) :: before, after, u => by
    rw [List.cons_append, setAll, setAll]
    cases u.set attr v with
    | error e => rfl
    | ok u => exact setAll_append

theorem table_of_setAll : ∀ {pairs : List (String × Value)} {u u' : Update}, u.setAll pairs = .ok u' →
    u'.table = u.table
  | [], _, _, h => by rw [← Except.ok.inj h]
  | (attr, v) :: pairs, u, u', h => by
    obtain ⟨_, hset, h⟩ := Result.bind_eq_ok.1 h
    obtain ⟨f, rfl⟩ := assign_eq_ok hset
    have htable := table_of_setAll h
    exact htable

/-- The name is reported after values that are assigned. -/
theorem setAll_of_notMem {before after : List (String × Value)} {v : Value} (h : attr ∉ u.table.fields.keys)
    (hb : u.setAll before = .ok u') :
    u.setAll (before ++ (attr, v) :: after) = fail (.unknownColumn u.table.name attr) := by
  rw [← table_of_setAll hb] at h ⊢
  rw [setAll_append, hb, Result.ok_bind, setAll, set, assign_of_notMem h]
  rfl

theorem setAll_ne_ok {before after : List (String × Value)} {v : Value} (h : attr ∉ u.table.fields.keys) :
    u.setAll (before ++ (attr, v) :: after) ≠ .ok u' := by
  intro hok
  have hsplit := hok
  rw [setAll_append] at hsplit
  obtain ⟨u₁, hb, -⟩ := Result.bind_eq_ok.1 hsplit
  rw [setAll_of_notMem h hb] at hok
  exact Result.fail_ne_ok hok

end Update

/-! ## Inserts -/

namespace Insert

open Drawing

variable {i : Insert} {row : Values} {σ τ : Supply}

theorem normalize_of_undeclared (h : i.table.undeclared? row.keys = some attr) :
    i.normalize row = Drawing.fail (.unknownColumn i.table.name attr) := by
  unfold normalize
  rw [show (row.keys.find? fun attr => !i.table.fields.contains attr) = some attr from h]

/-- The rows of a statement are normalized one after the other. -/
theorem exists_batch_of_render {first : Values} {rest : List Values} {q : Query} (h : i.render.Gives σ q τ)
    (hrows : i.rows = first :: rest) :
    ∃ bound υ sets, (i.normalize first).Gives σ bound υ ∧ (i.batch (bound.map (·.1.name)) rest).Gives υ sets τ := by
  unfold render at h
  rw [hrows] at h
  obtain ⟨bound, υ, hb, h⟩ := gives_bind.1 h
  cases rest with
  | nil => exact ⟨bound, υ, [], hb, gives_pure.2 ⟨rfl, (gives_pure.1 h).2⟩⟩
  | cons second rest =>
    obtain ⟨sets, υ', hsets, h⟩ := gives_bind.1 h
    obtain ⟨-, rfl⟩ := gives_pure.1 h
    exact ⟨bound, υ, sets, hb, hsets⟩

/-- A row that fails in a batch is reached if the rows before it do not fail. -/
theorem answer_batch_append {columns : List String} {rows : List Values} {e : Error} : ∀ {before : List Values}
    {σ τ : Supply} {sets : List (List Value)}, (i.batch columns before).Gives σ sets τ →
      (i.batch columns rows).answer τ = .error e → (i.batch columns (before ++ rows)).answer σ = .error e
  | [], _, _, _, hb, h => by
    obtain ⟨-, rfl⟩ := gives_pure.1 hb
    exact h
  | first :: before, _, _, _, hb, h => by
    rw [List.cons_append, batch] at *
    obtain ⟨bound, υ, hfirst, hb⟩ := gives_bind.1 hb
    rw [answer_bind_of_gives hfirst]
    split at hb
    · obtain ⟨_, _, hb, -⟩ := gives_bind.1 hb
      exact absurd hb not_gives_fail
    · next hc =>
      obtain ⟨sets, _, hsets, hb⟩ := gives_bind.1 hb
      obtain ⟨-, rfl⟩ := gives_pure.1 hb
      rw [if_neg hc]
      exact answer_bind_of_error (answer_batch_append hsets h)

/-- Every row of a batch comes to some columns. -/
theorem exists_normalize_of_batch {columns : List String} : ∀ {rows : List Values} {σ τ : Supply}
    {sets : List (List Value)}, (i.batch columns rows).Gives σ sets τ →
      ∀ row ∈ rows, ∃ bound υ υ', (i.normalize row).Gives υ bound υ'
  | [], _, _, _, _, _, hr => absurd hr List.not_mem_nil
  | first :: rows, _, _, _, h, row, hr => by
    unfold batch at h
    obtain ⟨bound, υ, hb, h⟩ := gives_bind.1 h
    rcases List.mem_cons.1 hr with rfl | hr
    · exact ⟨bound, _, υ, hb⟩
    · split at h
      · obtain ⟨_, _, h, -⟩ := gives_bind.1 h
        exact absurd h not_gives_fail
      · obtain ⟨_, _, h, -⟩ := gives_bind.1 h
        exact exists_normalize_of_batch h row hr

/-- The names of all rows of a statement are declared. -/
theorem mem_keys_of_render {q : Query} (h : i.render.Gives σ q τ) (hr : row ∈ i.rows) (ha : attr ∈ row.keys) :
    attr ∈ i.table.fields.keys := by
  obtain ⟨first, rest, hrows⟩ := List.exists_cons_of_ne_nil (List.ne_nil_of_mem hr)
  obtain ⟨bound, υ, sets, hfirst, hrest⟩ := exists_batch_of_render h hrows
  obtain ⟨_, _, _, hrow⟩ : ∃ bound υ υ', (i.normalize row).Gives υ bound υ' := by
    rw [hrows] at hr
    rcases List.mem_cons.1 hr with rfl | hr
    · exact ⟨bound, _, υ, hfirst⟩
    · exact exists_normalize_of_batch hrest row hr
  exact Ordered.contains_eq_true.1 ((normalize_gives hrow).1 attr ha)

/-- The first name of a row that is not declared is reported if the rows before it do not fail. -/
theorem answer_render_of_undeclared {before after : List Values} (hrows : i.rows = before ++ row :: after)
    (h : i.table.undeclared? row.keys = some attr)
    (hb : before = [] ∨ ∃ q, ({ i with rows := before } : Insert).render.answer σ = .ok q) :
    i.render.answer σ = fail (.unknownColumn i.table.name attr) := by
  have hrow : ∀ υ, (i.normalize row).answer υ = fail (.unknownColumn i.table.name attr) := by
    intro υ
    rw [normalize_of_undeclared h, answer_fail]
  cases before with
  | nil =>
    unfold render
    rw [hrows]
    exact answer_bind_of_error (hrow σ)
  | cons first before =>
    obtain ⟨q, hq⟩ := hb.resolve_left (List.cons_ne_nil _ _)
    obtain ⟨τ, hq⟩ := answer_eq_ok.1 hq
    have hlike : ReadsLike { i with rows := first :: before } i := ⟨rfl, rfl, fun _ _ => rfl⟩
    obtain ⟨bound, υ, sets, hfirst, hrest⟩ := exists_batch_of_render hq rfl
    rw [hlike.normalize] at hfirst
    rw [hlike.batch] at hrest
    have hbatch : ∀ columns, (i.batch columns (row :: after)).answer τ = fail (.unknownColumn i.table.name attr) :=
      fun columns => answer_bind_of_error (hrow τ)
    unfold render
    rw [hrows, List.cons_append]
    rw [answer_bind_of_gives hfirst, if_neg (by simp)]
    exact answer_bind_of_error (answer_batch_append hrest (hbatch _))

/-- An undeclared name in the selection changes nothing. -/
theorem render_of_columns (h : attr ∉ i.table.fields.keys) (hc : i.columns = some names) :
    i.render = ({ i with columns := some (names.filter (· ≠ attr)) } : Insert).render := by
  refine ReadsLike.render ⟨rfl, rfl, fun other ho => ?_⟩ rfl
  have hne : other ≠ attr := fun he => h (he ▸ ho)
  unfold selects
  rw [hc]
  simp [hne]

end Insert

/-! ## All operations -/

/-- **An undeclared name is refused** by everything that reads the attributes of a table, and counts for nothing in the
selection of an insert. -/
theorem Table.rejects_of_notMem (h : attr ∉ t.fields.keys) :
    t.Rejects attr ∧ ∀ (i : Insert) names, i.table = t → i.columns = some names →
      i.render = ({ i with columns := some (names.filter (· ≠ attr)) } : Insert).render := by
  constructor
  · constructor
    case field => exact field_of_notMem h
    case column => exact column_of_notMem h
    case set =>
      rintro r v rfl
      exact Record.set_of_notMem h
    case withValues =>
      intro values hm
      obtain ⟨other, ho⟩ := exists_undeclared h hm
      exact ⟨other, ho, by rw [Record.withValues_eq, ho]⟩
    case assign =>
      rintro u operand rfl
      exact Update.assign_of_notMem h
    case setAll =>
      rintro u before v after rfl
      exact ⟨fun _ => Update.setAll_ne_ok h, fun _ => Update.setAll_of_notMem h⟩
    case row =>
      rintro i before row after σ rfl hrows hm
      obtain ⟨other, ho⟩ := exists_undeclared h hm
      refine ⟨fun q hq => ?_, other, ho, Insert.answer_render_of_undeclared hrows ho⟩
      obtain ⟨τ, hq⟩ := Drawing.answer_eq_ok.1 hq
      exact h (Insert.mem_keys_of_render hq (by simp [hrows]) hm)
  · rintro i names rfl hc
    exact Insert.render_of_columns h hc

theorem rejects_of_notMem_person : "aeg" ∉ Sample.person.fields.keys ∧
    (Record.ofTable Sample.person).set "aeg" (.int 31) = fail (.unknownColumn "person" "aeg") ∧
    ∀ row : Values, "aeg" ∈ row.keys → ∀ q,
      ({ table := Sample.person, rows := [row] } : Insert).render.answer .start ≠ .ok q := by
  have h : "aeg" ∉ Sample.person.fields.keys := by decide
  have hrejects := (Table.rejects_of_notMem h).1
  exact ⟨h, hrejects.set _ _ rfl, fun row hm => (hrejects.row _ [] row [] .start rfl rfl hm).1⟩

namespace Sample

/-- The declaration of the table of people. -/
def people : Declaration :=
  { className := "Person", name := some "person"
    fields := [("id", .auto), ("name", .varchar 45), ("age", { Field.integer .int with nullable := true })] }

theorem person_compiled : person.Compiled := by
  have hcompile : people.compile = .ok person := rfl
  exact .of_declaration (by simp [people]) trivial hcompile

/-- A row with an age, of which only the name and a misspelt age are read. -/
def misspelt : Insert :=
  { table := person
    rows := [⟨[("name", .text "Ann"), ("age", .int 31)], by decide⟩]
    columns := some ["name", "aeg"] }

end Sample

/-- A misspelt name in the selection of an insert is not refused: the age of the row is dropped for a `NULL`. -/
theorem misspelt_accepted : Sample.misspelt.table.Compiled ∧ Sample.misspelt.columns = some ["name", "aeg"] ∧
    "aeg" ∉ Sample.misspelt.table.fields.keys ∧
    Sample.misspelt.render.answer .start =
      .ok ⟨"INSERT INTO `person` (`name`, `age`) VALUES (%s, %s);", .single [.text "Ann", .null]⟩ :=
  ⟨Sample.person_compiled, rfl, by decide, rfl⟩

end SqlMapper
