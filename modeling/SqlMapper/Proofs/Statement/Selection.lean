import SqlMapper.Proofs.Statement.Batch
import SqlMapper.Proofs.Statement.Resolution

/-!
# Attributes that are not read

An insert that reads some attributes only should do what it does for rows without the others (`Insert.restricted`).
Both resolve the columns of a row alike, since both see the same values. They differ in the key: a row names the row
that it replaces also by a key that is not read, and then loses columns that may not become `NULL`
(`Insert.binds_restricted_iff`). So the statement for the restricted rows is the one for the rows, unless a row that is
replaced by an unread key loses a column (`Insert.render_restricted_iff`).
-/

namespace SqlMapper

namespace Insert

open Drawing

variable {i : Insert} {row : Values} {rows : List Values} {attr : String} {columns : List String} {σ τ : Supply}

/-- The attributes of the row that are read. -/
def restrict (i : Insert) (row : Values) : Values :=
  ⟨row.pairs.filter fun p => i.selects p.1, row.nodup.sublist (List.filter_sublist.map Prod.fst)⟩

/-- The insert of the restricted rows, of which everything is read. -/
def restricted (i : Insert) : Insert := { i with rows := i.rows.map i.restrict, columns := none }

/-- The columns of the fields that the row does not leave out. -/
def listed (i : Insert) (row : Values) : List String :=
  (i.table.fields.pairs.filter fun p => !p.2.isLeftOut (i.provided row p.1)).map (·.2.name)

/-- The row replaces another one by a key that is not read. -/
def ReplacesUnread (i : Insert) (row : Values) : Prop :=
  i.isReplace = true ∧ i.selects i.table.primaryKey.attr = false ∧ i.hasKey row = true

/-! ## A restricted row -/

theorem get?_restrict : (i.restrict row).get? attr = i.provided row attr := by
  refine Option.ext fun v => ?_
  rw [← Ordered.mem_pairs_iff, restrict, List.mem_filter, Ordered.mem_pairs_iff, provided]
  cases i.selects attr <;> simp

/-- Both see the same values. -/
theorem provided_restricted : i.restricted.provided (i.restrict row) = i.provided row :=
  funext fun _ => get?_restrict

/-- A key that is not read is not seen. -/
theorem hasKey_restricted :
    i.restricted.hasKey (i.restrict row) = (i.selects i.table.primaryKey.attr && i.hasKey row) := by
  unfold hasKey
  rw [show i.restricted.table = i.table from rfl, get?_restrict, provided]
  cases i.selects i.table.primaryKey.attr with
  | false => rw [if_neg Bool.false_ne_true, Bool.false_and]
  | true => rw [if_pos rfl, Bool.true_and]

theorem declares_restrict (h : i.table.Declares row) : i.table.Declares (i.restrict row) := by
  intro attr ha
  obtain ⟨p, hp, rfl⟩ := List.mem_map.1 ha
  exact h p.1 (List.mem_map_of_mem (List.mem_filter.1 hp).1)

/-- The columns that take values are the listed ones. -/
theorem map_name_resolution :
    (resolution (i.provided row) i.table.fields.pairs σ).1.map (·.1.name) = i.listed row := by
  have hfields : (resolution (i.provided row) i.table.fields.pairs σ).1.map Prod.fst = _ := fields_resolution
  have hnames := congrArg (List.map Field.name) hfields
  rw [List.map_map, List.map_map] at hnames
  exact hnames

/-- The restricted row is bound to the columns that the row is bound to, if no column is lost by an unread key. -/
theorem binds_restricted_iff {r : List (Field × Value)} :
    i.restricted.Binds (i.restrict row) i.table.fields.pairs σ r τ ↔
      i.Binds row i.table.fields.pairs σ r τ ∧ (i.ReplacesUnread row → r.map (·.1.name) = i.listed row) := by
  constructor
  · intro h
    have hbinds : i.Binds row i.table.fields.pairs σ r τ := by
      obtain ⟨hn, hm, hb, hτ⟩ := h
      rw [provided_restricted] at hn hm hb hτ
      refine ⟨hn, fun p hp hmiss => ?_, hb, hτ⟩
      have hkey := hm p hp hmiss
      rw [hasKey_restricted, Bool.and_eq_true, Bool.and_eq_true] at hkey
      exact Bool.and_eq_true_iff.2 ⟨hkey.1, hkey.2.2⟩
    refine ⟨hbinds, fun hlost => ?_⟩
    obtain ⟨-, hunread, -⟩ := hlost
    -- without a key no column is missed
    have hnone : ∀ p ∈ (resolution (i.provided row) i.table.fields.pairs σ).1, p.1.misses p.2 = false := by
      intro p hp
      rw [← provided_restricted] at hp
      refine Bool.eq_false_iff.2 fun hmiss => ?_
      have hkey := h.missed p hp hmiss
      simp [hasKey_restricted, hunread] at hkey
    rw [hbinds.map_name, List.filter_eq_self.2 fun p hp => by simp [hnone p hp], map_name_resolution]
  · rintro ⟨h, hall⟩
    obtain ⟨hn, hm, hb, hτ⟩ := id h
    rw [← provided_restricted] at hn hm hb hτ
    refine ⟨hn, fun p hp hmiss => ?_, hb, hτ⟩
    have hkey := hm p hp hmiss
    rw [Bool.and_eq_true] at hkey
    rw [hasKey_restricted, Bool.and_eq_true, Bool.and_eq_true]
    refine ⟨hkey.1, ?_, hkey.2⟩
    by_contra hunread
    -- the missed column is listed, but not bound
    have hnames := hall ⟨hkey.1, by simpa using hunread, hkey.2⟩
    rw [h.map_name, ← map_name_resolution (σ := σ)] at hnames
    have hlength := congrArg List.length hnames
    rw [List.length_map, List.length_map] at hlength
    rw [provided_restricted] at hp
    have hkept := List.length_filter_eq_length_iff.1 hlength p hp
    simp [hmiss] at hkept

/-- What a restricted row comes to. -/
theorem normalize_restricted_gives_iff (h : i.table.Declares row) {r : List (Field × Value)} :
    (i.restricted.normalize (i.restrict row)).Gives σ r τ ↔
      (i.normalize row).Gives σ r τ ∧ (i.ReplacesUnread row → r.map (·.1.name) = i.listed row) := by
  rw [normalize_gives_iff, normalize_gives_iff, and_iff_right h]
  exact (and_iff_right (declares_restrict h)).trans binds_restricted_iff

/-! ## All rows -/

theorem batch_cons_gives_iff {sets : List (List Value)} :
    (i.batch columns (row :: rows)).Gives σ sets τ ↔ ∃ bound υ rest, (i.normalize row).Gives σ bound υ ∧
      bound.map (·.1.name) = columns ∧ (i.batch columns rows).Gives υ rest τ ∧ sets = bound.map (·.2) :: rest := by
  rw [batch, gives_bind]
  constructor
  · rintro ⟨bound, υ, hb, h⟩
    by_cases hc : bound.map (·.1.name) = columns
    · simp only [hc, ne_eq, not_true_eq_false, if_false, gives_bind, gives_pure] at h
      obtain ⟨rest, _, hrest, rfl, rfl⟩ := h
      exact ⟨bound, υ, rest, hb, hc, hrest, rfl⟩
    · simp [hc] at h
  · rintro ⟨bound, υ, rest, hb, hc, hrest, rfl⟩
    refine ⟨bound, υ, hb, ?_⟩
    simp only [hc, ne_eq, not_true_eq_false, if_false, gives_bind, gives_pure]
    exact ⟨rest, τ, hrest, rfl, rfl⟩

/-- The rows of a batch are bound to its columns. -/
theorem batch_restricted_gives_iff : ∀ {rows : List Values} {σ : Supply} {sets : List (List Value)},
    (∀ row ∈ rows, i.table.Declares row) →
      ((i.restricted.batch columns (rows.map i.restrict)).Gives σ sets τ ↔ (i.batch columns rows).Gives σ sets τ ∧
        ∀ row ∈ rows, i.ReplacesUnread row → columns = i.listed row)
  | [], σ, sets, _ => by simp [batch]
  | row :: rows, σ, sets, hrows => by
    obtain ⟨hrow, hrows⟩ := List.forall_mem_cons.1 hrows
    rw [List.map_cons, batch_cons_gives_iff, batch_cons_gives_iff, List.forall_mem_cons]
    constructor
    · rintro ⟨bound, υ, rest, hb, hc, hrest, rfl⟩
      obtain ⟨hb, hall⟩ := (normalize_restricted_gives_iff hrow).1 hb
      obtain ⟨hrest, halls⟩ := (batch_restricted_gives_iff hrows).1 hrest
      exact ⟨⟨bound, υ, rest, hb, hc, hrest, rfl⟩, fun h => hc.symm.trans (hall h), halls⟩
    · rintro ⟨⟨bound, υ, rest, hb, hc, hrest, rfl⟩, hall, halls⟩
      exact ⟨bound, υ, rest, (normalize_restricted_gives_iff hrow).2 ⟨hb, fun h => hc.trans (hall h)⟩, hc,
        (batch_restricted_gives_iff hrows).2 ⟨hrest, halls⟩, rfl⟩

/-- The parameters of a first row and of the others. -/
def params (first : List Value) (rest : List Values) (sets : List (List Value)) : Params :=
  if rest.isEmpty then .single first else .many (first :: sets)

/-- The first row decides the columns, and the others follow. -/
theorem render_cons_gives_iff {first : Values} {rest : List Values} (h : i.rows = first :: rest) {q : Query} :
    i.render.Gives σ q τ ↔ ∃ bound υ sets, (i.normalize first).Gives σ bound υ ∧
      (i.batch (bound.map (·.1.name)) rest).Gives υ sets τ ∧
      q = ⟨Query.terminated (i.text (bound.map (·.1.name))), params (bound.map (·.2)) rest sets⟩ := by
  unfold render
  rw [h]
  simp only [gives_bind]
  refine exists_congr fun bound => exists_congr fun υ => ?_
  cases rest with
  | nil =>
    rw [if_pos List.isEmpty_nil]
    simp only [gives_pure, batch]
    constructor
    · rintro ⟨hb, rfl, rfl⟩
      exact ⟨[], hb, ⟨rfl, rfl⟩, rfl⟩
    · rintro ⟨sets, hb, ⟨rfl, rfl⟩, rfl⟩
      exact ⟨hb, rfl, rfl⟩
  | cons second rest =>
    rw [if_neg (by simp)]
    simp only [gives_bind, gives_pure]
    constructor
    · rintro ⟨hb, sets, _, hsets, rfl, rfl⟩
      exact ⟨sets, hb, hsets, rfl⟩
    · rintro ⟨sets, hb, hsets, rfl⟩
      exact ⟨hb, sets, τ, hsets, rfl, rfl⟩

/-- The statement has all columns that the row does not leave out. -/
def Shows (i : Insert) (q : Query) (row : Values) : Prop := q.sql = Query.terminated (i.text (i.listed row))

/-- **What is not read is as good as left out, but for the key.** The statement for the restricted rows is the one for
the rows, from the same supply, if no row is replaced by a key that is not read. In general it is so exactly if the
statement has all columns of each such row; it has lost those that miss a value. -/
theorem render_restricted_iff (hrows : ∀ row ∈ i.rows, i.table.Declares row) (σ τ : Supply) (q : Query) :
    ((∀ row ∈ i.rows, ¬ i.ReplacesUnread row) → (i.restricted.render.Gives σ q τ ↔ i.render.Gives σ q τ)) ∧
    (i.restricted.render.Gives σ q τ ↔
      i.render.Gives σ q τ ∧ ∀ row ∈ i.rows, i.ReplacesUnread row → i.Shows q row) := by
  have hgives : i.restricted.render.Gives σ q τ ↔
      i.render.Gives σ q τ ∧ ∀ row ∈ i.rows, i.ReplacesUnread row → i.Shows q row := by
    cases hr : i.rows with
    | nil =>
      have hr' : i.restricted.rows = [] := by rw [restricted, hr, List.map_nil]
      simp [render, hr, hr']
    | cons first rest =>
      rw [hr] at hrows
      obtain ⟨hfirst, hrest⟩ := List.forall_mem_cons.1 hrows
      have hr' : i.restricted.rows = i.restrict first :: rest.map i.restrict := by rw [restricted, hr, List.map_cons]
      rw [render_cons_gives_iff hr, render_cons_gives_iff hr', List.forall_mem_cons]
      constructor
      · rintro ⟨bound, υ, sets, hb, hsets, rfl⟩
        obtain ⟨hb, hall⟩ := (normalize_restricted_gives_iff hfirst).1 hb
        obtain ⟨hsets, halls⟩ := (batch_restricted_gives_iff hrest).1 hsets
        refine ⟨⟨bound, υ, sets, hb, hsets, ?_⟩, fun h => ?_, fun row hrow h => ?_⟩
        · rw [params, params, List.isEmpty_map]
          rfl
        · exact congrArg (fun names => Query.terminated (i.text names)) (hall h)
        · exact congrArg (fun names => Query.terminated (i.text names)) (halls row hrow h)
      · rintro ⟨⟨bound, υ, sets, hb, hsets, rfl⟩, hall, halls⟩
        refine ⟨bound, υ, sets, (normalize_restricted_gives_iff hfirst).2 ⟨hb, fun h => ?_⟩,
          (batch_restricted_gives_iff hrest).2 ⟨hsets, fun row hrow h => ?_⟩, ?_⟩
        · exact columns_eq_of_text_eq (hall h)
        · exact columns_eq_of_text_eq (halls row hrow h)
        · rw [params, params, List.isEmpty_map]
          rfl
  refine ⟨fun hnone => hgives.trans (and_iff_left fun row hrow h => ?_), hgives⟩
  exact absurd h (hnone row hrow)

end Insert

/-! ## A key that is not read -/

namespace Sample

/-- A person with a number and an age, of whom the given attributes are read. -/
def replacing (row : Values) (columns : List String) : Insert :=
  { table := person, rows := [row], columns := some columns, isReplace := true }

/-- The person with the number 5, who has got a name and an age. -/
def eve : Values := ⟨[("id", .int 5), ("name", .text "Eve"), ("age", .int 31)], by decide⟩

end Sample

theorem Sample.declares_eve : person.Declares eve := by
  unfold Table.Declares
  decide

/-- The number of the row is not read, so that the row with an age alone is refused for its name; but the statement is
made, without the name. -/
theorem unread_key_loses_name : Sample.person.Declares Sample.eve ∧
    (Sample.replacing Sample.eve ["age"]).render.answer .start =
      .ok ⟨"REPLACE INTO `person` (`age`) VALUES (%s);", .single [.int 31]⟩ ∧
    (Sample.replacing Sample.eve ["age"]).restricted.render.answer .start =
      .error ⟨.data "name" (.null "name" "person"), []⟩ :=
  ⟨Sample.declares_eve, rfl, rfl⟩

theorem render_restricted_iff_eve :
    (∀ row ∈ (Sample.replacing Sample.eve ["name", "age"]).rows, Sample.person.Declares row) ∧
    ∃ q, (Sample.replacing Sample.eve ["name", "age"]).restricted.render.Gives .start q .start ∧
      (Sample.replacing Sample.eve ["name", "age"]).render.Gives .start q .start ∧
      q.sql = "REPLACE INTO `person` (`name`, `age`) VALUES (%s, %s);" := by
  have hrows : ∀ row ∈ (Sample.replacing Sample.eve ["name", "age"]).rows, Sample.person.Declares row := by
    rintro row hrow
    obtain rfl := List.mem_singleton.1 hrow
    exact Sample.declares_eve
  have hgives : (Sample.replacing Sample.eve ["name", "age"]).render.Gives .start
      ⟨"REPLACE INTO `person` (`name`, `age`) VALUES (%s, %s);", .single [.text "Eve", .int 31]⟩ .start := rfl
  refine ⟨hrows, _, (Insert.render_restricted_iff hrows .start .start _).2.2 ⟨hgives, fun row hrow _ => ?_⟩,
    hgives, rfl⟩
  obtain rfl := List.mem_singleton.1 hrow
  rfl

end SqlMapper
