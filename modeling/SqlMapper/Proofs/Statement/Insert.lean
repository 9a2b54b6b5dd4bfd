import SqlMapper.Proofs.Ordered
import SqlMapper.Proofs.Statement.Drawing

/-!
# Normalized rows

What a row comes to when it is normalized against a table: the value of each column (`resolved_gives`), whether the
column is listed (`bound_gives`), and the columns in the order of declaration (`boundFields_sublist`). The columns of
a statement are those of its first row (`render_gives`), and each set of a batch has one value for each of them
(`batch_gives`). A row that gives a value to every column is bound value by value, without a look at the defaults
(`render_given`).
-/

namespace SqlMapper.Insert

open Drawing

variable {i : Insert} {row : Values} {attr : String} {f : Field} {σ τ : Supply}

/-! ## One column -/

/-- A numbered key without a number is left out. Otherwise the row provides the value, or else the default does. -/
theorem resolved_gives {r : Option Value} (h : (i.resolved row attr f).Gives σ r τ) :
    (f.isAutoIncrement = true ∧ (i.provided row attr).all Value.isNull ∧ r = none ∧ τ = σ) ∨
    (∃ v, i.provided row attr = some v ∧ r = some v ∧ τ = σ ∧
      (f.isAutoIncrement = true → v.isNull = false ∧ i.isReplace = true)) ∨
    (i.provided row attr = none ∧ f.isAutoIncrement = false ∧ f.resolveDefault σ = (r, τ)) := by
  unfold resolved at h
  cases hp : i.provided row attr with
  | none =>
    cases ha : f.isAutoIncrement with
    | true =>
      simp [hp, ha] at h
      exact .inl ⟨rfl, rfl, h.1.symm, h.2.symm⟩
    | false =>
      simp [hp, ha] at h
      exact .inr (.inr ⟨rfl, rfl, Prod.ext h.2 h.1⟩)
  | some v =>
    cases ha : f.isAutoIncrement with
    | false =>
      simp [hp, ha] at h
      exact .inr (.inl ⟨v, rfl, h.1.symm, h.2.symm, by simp⟩)
    | true =>
      cases hv : v.isNull with
      | true =>
        simp [hp, ha, hv] at h
        exact .inl ⟨rfl, by simp [hv], h.1.symm, h.2.symm⟩
      | false =>
        cases hr : i.isReplace with
        | false => simp [hp, ha, hv, hr] at h
        | true =>
          simp [hp, ha, hv, hr] at h
          exact .inr (.inl ⟨v, rfl, h.1.symm, h.2.symm, fun _ => ⟨hv, rfl⟩⟩)

/-- A column is left out if nothing is resolved for it, or `NULL` where the replaced row keeps its value. -/
theorem bound_gives {r : Option Value} (h : (i.bound row attr f).Gives σ r τ) :
    ((i.resolved row attr f).Gives σ none τ ∧ r = none) ∨
    (∃ v, (i.resolved row attr f).Gives σ (some v) τ ∧ (v.isNull && !f.nullable) = true ∧
      (i.isReplace && i.hasKey row) = true ∧ r = none) ∨
    (∃ v w, (i.resolved row attr f).Gives σ (some v) τ ∧ (v.isNull && !f.nullable) = false ∧
      f.toWire v = .ok w ∧ r = some w) := by
  unfold bound at h
  obtain ⟨resolved, υ, hv, h⟩ := gives_bind.1 h
  cases resolved with
  | none =>
    obtain ⟨rfl, rfl⟩ := gives_pure.1 h
    exact .inl ⟨hv, rfl⟩
  | some v =>
    cases hn : v.isNull && !f.nullable with
    | true =>
      cases hk : i.isReplace && i.hasKey row with
      | true =>
        simp only [hn, hk, if_true, gives_pure] at h
        obtain ⟨rfl, rfl⟩ := h
        exact .inr (.inl ⟨v, hv, hn, rfl, rfl⟩)
      | false => simp [hn, hk] at h
    | false =>
      simp only [hn, Bool.false_eq_true, if_false, gives_bind, gives_lift, gives_pure] at h
      obtain ⟨w, _, ⟨hw, rfl⟩, rfl, rfl⟩ := h
      exact .inr (.inr ⟨v, w, hv, hn, hw, rfl⟩)

/-! ## All columns -/

/-- The columns of a row are those that are listed among the fields. -/
theorem boundFields_cons_gives {fs : List (String × Field)} {r : List (Field × Value)}
    (h : (i.boundFields row ((attr, f) :: fs)).Gives σ r τ) :
    ∃ w υ rest, (i.bound row attr f).Gives σ w υ ∧ (i.boundFields row fs).Gives υ rest τ ∧
      r = (w.map fun w => (f, w)).toList ++ rest := by
  unfold boundFields at h
  obtain ⟨w, υ, hw, h⟩ := gives_bind.1 h
  cases w with
  | none => exact ⟨none, υ, r, hw, h, rfl⟩
  | some w =>
    simp only [gives_bind, gives_pure] at h
    obtain ⟨rest, _, hrest, rfl, rfl⟩ := h
    exact ⟨some w, υ, rest, hw, hrest, rfl⟩

/-- The columns of a row stand in the order of declaration. -/
theorem boundFields_sublist : ∀ {fs : List (String × Field)} {σ τ : Supply} {r : List (Field × Value)},
    (i.boundFields row fs).Gives σ r τ → (r.map Prod.fst).Sublist (fs.map Prod.snd)
  | [], _, _, _, h => by
    unfold boundFields at h
    obtain ⟨rfl, -⟩ := gives_pure.1 h
    exact List.Sublist.slnil
  | (_, f) :: fs, _, _, _, h => by
    obtain ⟨w, υ, rest, -, hrest, rfl⟩ := boundFields_cons_gives h
    have ih := boundFields_sublist hrest
    cases w with
    | none => exact ih.cons f
    | some w => exact ih.cons_cons f

theorem normalize_gives {r : List (Field × Value)} (h : (i.normalize row).Gives σ r τ) :
    (∀ attr ∈ row.keys, i.table.fields.contains attr = true) ∧
      (i.boundFields row i.table.fields.pairs).Gives σ r τ := by
  unfold normalize at h
  cases hk : row.keys.find? fun attr => !i.table.fields.contains attr with
  | some attr => simp [hk] at h
  | none =>
    simp only [hk] at h
    refine ⟨fun attr ha => ?_, h⟩
    have := List.find?_eq_none.1 hk attr ha
    simpa using this

/-! ## Statements -/

/-- All rows of a batch have the same columns, so each set has one value for each of them. -/
theorem batch_gives {columns : List String} : ∀ {rows : List Values} {σ τ : Supply} {sets : List (List Value)},
    (i.batch columns rows).Gives σ sets τ → ∀ set ∈ sets, set.length = columns.length
  | [], _, _, _, h, _, hs => by
    unfold batch at h
    obtain ⟨rfl, -⟩ := gives_pure.1 h
    exact absurd hs List.not_mem_nil
  | _ :: _, _, _, _, h, set, hs => by
    unfold batch at h
    obtain ⟨bound, _, -, h⟩ := gives_bind.1 h
    by_cases hc : bound.map (·.1.name) = columns
    · simp only [hc, ne_eq, not_true_eq_false, if_false, gives_bind, gives_pure] at h
      obtain ⟨sets, _, hsets, rfl, rfl⟩ := h
      rcases List.mem_cons.1 hs with rfl | hs
      · rw [← hc, List.length_map, List.length_map]
      · exact batch_gives hsets set hs
    · simp [hc] at h

/-- The columns of a statement are those of its first row. -/
theorem render_gives {q : Query} (h : i.render.Gives σ q τ) :
    ∃ first rest bound υ, i.rows = first :: rest ∧ (i.normalize first).Gives σ bound υ ∧
      q.sql = Query.terminated (i.text (bound.map (·.1.name))) ∧
      (q.params = .single (bound.map (·.2)) ∨
        ∃ sets, (i.batch (bound.map (·.1.name)) rest).Gives υ sets τ ∧ q.params = .many (bound.map (·.2) :: sets)) := by
  unfold render at h
  cases hr : i.rows with
  | nil => simp [hr] at h
  | cons first rest =>
    simp only [hr] at h
    obtain ⟨bound, υ, hb, h⟩ := gives_bind.1 h
    refine ⟨first, rest, bound, υ, rfl, hb, ?_⟩
    split at h
    · obtain ⟨rfl, -⟩ := gives_pure.1 h
      exact ⟨rfl, .inl rfl⟩
    · simp only [gives_bind, gives_pure] at h
      obtain ⟨sets, _, hs, rfl, rfl⟩ := h
      exact ⟨rfl, .inr ⟨sets, hs, rfl⟩⟩

/-! ## Inserts that read the same -/

/-- The inserts read the same attributes of the table from a row. -/
structure ReadsLike (i j : Insert) : Prop where
  table : i.table = j.table
  isReplace : i.isReplace = j.isReplace
  selects : ∀ attr ∈ i.table.fields.keys, i.selects attr = j.selects attr

namespace ReadsLike

variable {j : Insert}

theorem bound (h : i.ReadsLike j) (ha : attr ∈ i.table.fields.keys) : i.bound row attr f = j.bound row attr f := by
  unfold Insert.bound resolved provided hasKey
  rw [h.selects attr ha, h.table, h.isReplace]

theorem boundFields (h : i.ReadsLike j) : ∀ {fs : List (String × Field)}, (∀ p ∈ fs, p.1 ∈ i.table.fields.keys) →
    i.boundFields row fs = j.boundFields row fs
  | [], _ => rfl
  | (attr, f) :: fs, hfs => by
    unfold Insert.boundFields
    rw [h.bound (hfs (attr, f) List.mem_cons_self), h.boundFields fun p hp => hfs p (List.mem_cons_of_mem _ hp)]

/-- A row comes to the same columns with the same values. -/
theorem normalize (h : i.ReadsLike j) : i.normalize row = j.normalize row := by
  unfold Insert.normalize
  rw [h.boundFields fun _ => List.mem_map_of_mem, h.table]

theorem batch (h : i.ReadsLike j) {columns : List String} : ∀ {rows : List Values},
    i.batch columns rows = j.batch columns rows
  | [] => rfl
  | row :: rows => by
    unfold Insert.batch
    rw [h.normalize, h.batch, h.table]

/-- The same rows make the same statement. -/
theorem render (h : i.ReadsLike j) (hrows : i.rows = j.rows) : i.render = j.render := by
  have htext : i.text = j.text := by
    funext columns
    unfold Insert.text
    rw [h.table, h.isReplace]
  unfold Insert.render
  rw [hrows]
  simp only [h.normalize, h.batch, htext, h.table]

end ReadsLike

/-! ## Rows with all values -/

/-- A column with the value that a row gives to it, and the value that is bound for that. -/
structure Given where
  attr : String
  field : Field
  value : Value
  wire : Value

/-- The column takes the value: it is bound, it is `NULL` only where the column takes that, and the number of a row is
given only to replace the row. -/
structure Given.Fits (g : Given) (isReplace : Bool) : Prop where
  bound : g.field.toWire g.value = .ok g.wire
  nullable : g.value.isNull = true → g.field.nullable = true
  numbered : g.field.isAutoIncrement = true → g.value.isNull = false ∧ isReplace = true

/-- A value that is given is bound. -/
theorem bound_of_given {g : Given} (hc : i.columns = none) (hrow : row.get? g.attr = some g.value)
    (h : g.Fits i.isReplace) : (i.bound row g.attr g.field).Gives σ (some g.wire) σ := by
  have hp : i.provided row g.attr = some g.value := by
    simp [provided, selects, hc, hrow]
  have hnull : (g.value.isNull && !g.field.nullable) = false := by
    cases hn : g.value.isNull with
    | false => rfl
    | true => rw [h.nullable hn]; rfl
  have hresolved : (i.resolved row g.attr g.field).Gives σ (some g.value) σ := by
    cases ha : g.field.isAutoIncrement with
    | false => simp [resolved, hp, ha]
    | true =>
      obtain ⟨hn, hr⟩ := h.numbered ha
      simp [resolved, hp, ha, hn, hr]
  unfold bound
  refine gives_bind.2 ⟨_, σ, hresolved, ?_⟩
  simp only [hnull, Bool.false_eq_true, if_false, gives_bind, gives_lift, gives_pure]
  exact ⟨g.wire, σ, ⟨h.bound, rfl⟩, rfl, rfl⟩

/-- All values that are given are bound, in the order of their columns. -/
theorem boundFields_given (hc : i.columns = none) : ∀ {gs : List Given},
    (∀ g ∈ gs, row.get? g.attr = some g.value ∧ g.Fits i.isReplace) →
    (i.boundFields row (gs.map fun g => (g.attr, g.field))).Gives σ (gs.map fun g => (g.field, g.wire)) σ
  | [], _ => gives_pure.2 ⟨rfl, rfl⟩
  | g :: gs, h => by
    obtain ⟨hrow, hg⟩ := h g List.mem_cons_self
    have ih := boundFields_given hc fun g' hm => h g' (List.mem_cons_of_mem g hm)
    rw [List.map_cons, boundFields]
    refine gives_bind.2 ⟨some g.wire, σ, bound_of_given hc hrow hg, ?_⟩
    simp only [gives_bind, gives_pure]
    exact ⟨_, σ, ih, rfl, rfl⟩

/-- A row with all attributes and no others is normalized without a look at the defaults. -/
theorem normalize_given (hc : i.columns = none) {gs : List Given}
    (hfields : (gs.map fun g => (g.attr, g.field)) = i.table.fields.pairs)
    (hrow : row.pairs = gs.map fun g => (g.attr, g.value)) (h : ∀ g ∈ gs, g.Fits i.isReplace) :
    (i.normalize row).Gives σ (gs.map fun g => (g.field, g.wire)) σ := by
  have hknown : (row.keys.find? fun attr => !i.table.fields.contains attr) = none := by
    refine List.find?_eq_none.2 fun attr ha => ?_
    obtain ⟨g, hg, rfl⟩ : ∃ g ∈ gs, g.attr = attr := by
      rw [Ordered.keys, hrow, List.map_map] at ha
      exact List.mem_map.1 ha
    have hm : (g.attr, g.field) ∈ i.table.fields.pairs := hfields ▸ List.mem_map_of_mem hg
    have hcontains : i.table.fields.contains g.attr = true := Ordered.contains_eq_true.2 (List.mem_map_of_mem hm)
    simp [hcontains]
  unfold normalize
  rw [hknown]
  dsimp only
  rw [← hfields]
  refine boundFields_given hc fun g hg => ⟨?_, h g hg⟩
  rw [← Ordered.mem_pairs_iff, hrow]
  exact List.mem_map_of_mem hg

/-- A single row with all attributes makes a statement with all columns and the bound values. -/
theorem render_given (hc : i.columns = none) (hrows : i.rows = [row]) {gs : List Given}
    (hfields : (gs.map fun g => (g.attr, g.field)) = i.table.fields.pairs)
    (hrow : row.pairs = gs.map fun g => (g.attr, g.value)) (h : ∀ g ∈ gs, g.Fits i.isReplace) :
    i.render.Gives σ ⟨Query.terminated (i.text (gs.map (·.field.name))), .single (gs.map Given.wire)⟩ σ := by
  unfold render
  rw [hrows]
  refine gives_bind.2 ⟨_, σ, normalize_given hc hfields hrow h, ?_⟩
  rw [if_pos List.isEmpty_nil, gives_pure, List.map_map, List.map_map]
  exact ⟨rfl, rfl⟩

end SqlMapper.Insert
