import SqlMapper.Proofs.Field.RoundTrip
import SqlMapper.Proofs.Statement.Batch
import SqlMapper.Proofs.Statement.Resolution
import SqlMapper.Proofs.Table.WellFormed

/-!
# Statements of a single row

A row is inserted or replaced with all attributes read. Which rows make a statement, and which statement a row makes,
is said by the values that its columns take (`Insert.render_row`): an insert refuses a number for a numbered key and a
value that a column does not take; a replacement has the given number for its key, and leaves a column out that is to
become `NULL` and may not, if the row names the row that it replaces.
-/

namespace SqlMapper

/-- The column takes the value: `NULL` if it is nullable, and any other value that it converts. -/
def Field.Takes (f : Field) (v : Value) : Prop :=
  v.isNull = true ∧ f.nullable = true ∨ v.isNull = false ∧ ∃ w, f.toWire v = .ok w

namespace Field

variable {f : Field} {v : Value}

theorem toWire_of_isNull (h : v.isNull = true) : f.toWire v = .ok .null := by
  cases v with
  | null => rw [toWire]
  | _ => cases h

/-- A column takes a value exactly if it does not miss one and converts it. -/
theorem takes_iff : f.Takes v ↔ f.misses v = false ∧ ∃ w, f.toWire v = .ok w := by
  unfold Takes misses
  cases hv : v.isNull with
  | false => simp
  | true =>
    have hwire : ∃ w, f.toWire v = .ok w := ⟨.null, toWire_of_isNull hv⟩
    simp [hwire]

end Field

namespace Table

/-- The columns that a row fills from a supply, in the order of declaration and with their values. -/
def filled (t : Table) (row : Values) (σ : Supply) : List (Field × Value) :=
  (resolution row.get? t.fields.pairs σ).1

/-- The row inserted. -/
def insertion (t : Table) (row : Values) : Insert := { table := t, rows := [row] }

/-- The row replaced. -/
def replacement (t : Table) (row : Values) : Insert := { table := t, rows := [row], isReplace := true }

end Table

namespace Insert

open Drawing

variable {i : Insert} {row : Values} {fs : List (String × Field)} {σ τ : Supply}

/-- The statement has these columns, each once, and binds the converted value of each in its place, which is not `NULL`
where the column may not be. -/
structure Writes (i : Insert) (columns : List (Field × Value)) (q : Query) : Prop where
  text : q.sql = Query.terminated (i.text (columns.map (·.1.name)))
  values : ∃ ws, q.params = .single ws ∧
    List.Forall₂ (fun c w => c.1.toWire c.2 = .ok w ∧ (c.1.nullable = false → w.isNull = false)) columns ws
  once : i.table.Compiled → (columns.map (·.1.name)).Nodup

/-- The values of some columns are converted all together exactly if each of them is. -/
theorem exists_wires_iff : ∀ {columns : List (Field × Value)},
    (∃ r : List (Field × Value), List.Forall₂ (fun c b => b.1 = c.1 ∧ c.1.toWire c.2 = .ok b.2) columns r) ↔
      ∀ c ∈ columns, ∃ w, c.1.toWire c.2 = .ok w
  | [] => by simp
  | c :: columns => by
    rw [List.forall_mem_cons, ← exists_wires_iff]
    constructor
    · rintro ⟨r, h⟩
      obtain ⟨b, rest, ⟨-, hb⟩, hrest, -⟩ := List.forall₂_cons_left_iff.1 h
      exact ⟨⟨b.2, hb⟩, rest, hrest⟩
    · rintro ⟨⟨w, hw⟩, rest, hrest⟩
      exact ⟨(c.1, w) :: rest, .cons ⟨rfl, hw⟩ hrest⟩

/-- A row is bound exactly if no number is given where only a replacement may, and every column takes its value or is
left out. -/
theorem exists_binds_iff : (∃ r τ, i.Binds row fs σ r τ) ↔ (∀ p ∈ fs, i.MayNumber p.2 (i.provided row p.1)) ∧
    ∀ c ∈ (resolution (i.provided row) fs σ).1,
      c.1.Takes c.2 ∨ (i.isReplace && i.hasKey row) = true ∧ c.1.misses c.2 = true := by
  constructor
  · rintro ⟨r, τ, h⟩
    refine ⟨h.numbered, fun c hc => ?_⟩
    cases hm : c.1.misses c.2 with
    | true => exact .inr ⟨h.missed c hc hm, rfl⟩
    | false =>
      have hwire := exists_wires_iff.1 ⟨r, h.bound⟩ c (List.mem_filter.2 ⟨hc, by simp [hm]⟩)
      exact .inl (Field.takes_iff.2 ⟨hm, hwire⟩)
  · rintro ⟨hnumbered, h⟩
    obtain ⟨r, hr⟩ : ∃ r : List (Field × Value), List.Forall₂ (fun c b => b.1 = c.1 ∧ c.1.toWire c.2 = .ok b.2)
        ((resolution (i.provided row) fs σ).1.filter fun c => !c.1.misses c.2) r := by
      refine exists_wires_iff.2 fun c hc => ?_
      obtain ⟨hc, hm⟩ := List.mem_filter.1 hc
      rcases h c hc with ht | ⟨-, hm'⟩
      · exact (Field.takes_iff.1 ht).2
      · simp [hm'] at hm
    refine ⟨r, _, hnumbered, fun c hc hm => ?_, hr, rfl⟩
    rcases h c hc with ht | ⟨hk, -⟩
    · exact absurd (hm.symm.trans (Field.takes_iff.1 ht).1) nofun
    · exact hk

/-- A row alone is rendered exactly if it is normalized. -/
theorem answer_alone_eq_ok {q : Query} : (i.alone row).render.answer σ = .ok q ↔
    ∃ r τ, (i.normalize row).Gives σ r τ ∧
      q = ⟨Query.terminated (i.text (r.map (·.1.name))), .single (r.map (·.2))⟩ := by
  rw [answer_eq_ok, exists_comm]
  refine exists_congr fun τ => render_alone_gives.trans (exists_congr fun r => and_congr_right fun _ => ?_)
  rw [ofPiece_written, Except.ok.injEq, eq_comm]

/-- Without a selection, what a row gives to an attribute is what stands there. -/
theorem provided_eq (hc : i.columns = none) : i.provided row = row.get? := by
  funext attr
  simp [provided, selects, hc]

/-- The columns of a row without the missed ones are bound in order. -/
theorem Binds.writes (hc : i.columns = none) {r : List (Field × Value)}
    (h : i.Binds row i.table.fields.pairs σ r τ) :
    i.Writes ((i.table.filled row σ).filter fun c => !c.1.misses c.2)
      ⟨Query.terminated (i.text (r.map (·.1.name))), .single (r.map (·.2))⟩ := by
  have hbound := h.bound
  have hnames := h.map_name
  rw [provided_eq hc] at hbound hnames
  refine ⟨by rw [hnames, Table.filled], ⟨r.map (·.2), rfl, ?_⟩, fun ht => ?_⟩
  · rw [List.forall₂_map_right_iff]
    have hkept := (List.forall₂_and_left _ _).2 ⟨fun c hc => (List.mem_filter.1 hc).2, hbound⟩
    refine hkept.imp ?_
    rintro c b ⟨hm, -, hb⟩
    refine ⟨hb, fun hn => Field.toWire_isNull hb ?_⟩
    simpa [Field.misses, hn] using hm
  · have hsub : (((i.table.filled row σ).filter fun c => !c.1.misses c.2).map Prod.fst).Sublist
        (i.table.fields.pairs.map Prod.snd) := by
      refine (List.filter_sublist.map Prod.fst).trans ?_
      rw [Table.filled, fields_resolution]
      exact List.filter_sublist.map Prod.snd
    have hnames := hsub.map Field.name
    rw [List.map_map, List.map_map] at hnames
    exact ht.wellFormed.columns.sublist hnames

/-- A row alone, with all attributes read: when it is rendered, and to what. -/
theorem answer_row (hc : i.columns = none) :
    ((∃ q, (i.alone row).render.answer σ = .ok q) ↔ i.table.Declares row ∧
      (∀ p ∈ i.table.fields.pairs, i.MayNumber p.2 (row.get? p.1)) ∧
      ∀ c ∈ i.table.filled row σ, c.1.Takes c.2 ∨ (i.isReplace && i.hasKey row) = true ∧ c.1.misses c.2 = true) ∧
    ∀ q, (i.alone row).render.answer σ = .ok q →
      i.Writes ((i.table.filled row σ).filter fun c => !c.1.misses c.2) q := by
  have hbinds : (∃ r τ, i.Binds row i.table.fields.pairs σ r τ) ↔ _ := exists_binds_iff
  rw [provided_eq hc] at hbinds
  unfold Table.filled
  rw [← hbinds]
  refine ⟨⟨?_, ?_⟩, fun q hq => ?_⟩
  · rintro ⟨q, hq⟩
    obtain ⟨r, τ, hr, -⟩ := answer_alone_eq_ok.1 hq
    obtain ⟨hkeys, hr⟩ := normalize_gives_iff.1 hr
    exact ⟨hkeys, r, τ, hr⟩
  · rintro ⟨hkeys, r, τ, hr⟩
    exact ⟨_, answer_alone_eq_ok.2 ⟨r, τ, normalize_gives_iff.2 ⟨hkeys, hr⟩, rfl⟩⟩
  · obtain ⟨r, τ, hr, rfl⟩ := answer_alone_eq_ok.1 hq
    exact (normalize_gives_iff.1 hr).2.writes hc

/-- A row may be inserted without a number only. -/
theorem mayNumber_insertion {t : Table} {f : Field} {given : Option Value} :
    (t.insertion row).MayNumber f given ↔ (f.isAutoIncrement = true → given.all Value.isNull = true) :=
  ⟨fun h hf => h hf rfl, fun h hf _ => h hf⟩

/-- **What a single row is rendered to.** It is inserted exactly if it uses attributes of the table, gives no number,
and every column takes its value; the statement has the fields that the server neither numbers nor, where the row says
nothing, evaluates. It is replaced with its number, and if it names the row that it replaces, the columns that miss a
value are left out. -/
theorem render_row (t : Table) (row : Values) (σ : Supply) :
    ((∃ q, (t.insertion row).render.answer σ = .ok q) ↔ t.Declares row ∧
      (∀ p ∈ t.fields.pairs, p.2.isAutoIncrement = true → (row.get? p.1).all Value.isNull = true) ∧
      ∀ c ∈ t.filled row σ, c.1.Takes c.2) ∧
    (∀ q, (t.insertion row).render.answer σ = .ok q → (t.insertion row).Writes (t.filled row σ) q ∧
      (t.filled row σ).map Prod.fst = (t.fields.pairs.filter fun p =>
        !p.2.isAutoIncrement && !((row.get? p.1).isNone && p.2.default.isRaw)).map Prod.snd) ∧
    ((∃ q, (t.replacement row).render.answer σ = .ok q) ↔ t.Declares row ∧ ∀ c ∈ t.filled row σ,
      c.1.Takes c.2 ∨ (t.replacement row).hasKey row = true ∧ c.1.misses c.2 = true) ∧
    (∀ q, (t.replacement row).render.answer σ = .ok q →
      (t.replacement row).Writes ((t.filled row σ).filter fun c => !c.1.misses c.2) q) ∧
    (t.filled row σ).map Prod.fst = (t.fields.pairs.filter fun p =>
      if p.2.isAutoIncrement then (row.get? p.1).any (!Value.isNull ·)
      else !((row.get? p.1).isNone && p.2.default.isRaw)).map Prod.snd := by
  have hinsert : (∃ q, (t.insertion row).render.answer σ = .ok q) ↔ t.Declares row ∧
      (∀ p ∈ t.fields.pairs, p.2.isAutoIncrement = true → (row.get? p.1).all Value.isNull = true) ∧
      ∀ c ∈ t.filled row σ, c.1.Takes c.2 := by
    refine (answer_row (i := t.insertion row) rfl).1.trans ?_
    simp only [mayNumber_insertion]
    simp [Table.insertion]
  refine ⟨hinsert, fun q hq => ⟨?_, ?_⟩, ?_, ?_, ?_⟩
  · obtain ⟨-, -, htakes⟩ := hinsert.1 ⟨q, hq⟩
    have hwrites := (answer_row (i := t.insertion row) rfl).2 q hq
    rwa [List.filter_eq_self.2 fun c hc => by simp [(Field.takes_iff.1 (htakes c hc)).1]] at hwrites
  · obtain ⟨-, hnumbers, -⟩ := hinsert.1 ⟨q, hq⟩
    rw [Table.filled, fields_resolution]
    refine congrArg _ (List.filter_congr fun p hp => ?_)
    cases ha : p.2.isAutoIncrement with
    | false => simp [Field.isLeftOut, ha]
    | true => simp [Field.isLeftOut, ha, hnumbers p hp ha]
  · refine (answer_row (i := t.replacement row) rfl).1.trans ?_
    simp [MayNumber, Table.replacement]
  · exact (answer_row (i := t.replacement row) rfl).2
  · rw [Table.filled, fields_resolution]
    refine congrArg _ (List.filter_congr fun p _ => ?_)
    unfold Field.isLeftOut
    cases row.get? p.1 <;> cases p.2.isAutoIncrement <;> simp

end Insert

/-! ## A table with all kinds of defaults -/

namespace Sample

/-- What was ordered: under a number and a reference, with a state, a position in the queue, the time at the server and
perhaps a note. -/
def order : Table :=
  { ref := ⟨none, "order"⟩
    fields := ⟨[("id", named "id" .auto), ("reference", named "ref" (.varchar 8)),
      ("state", { named "state" (.varchar 8) with default := .value (.text "new") }),
      ("position", { named "position" (.integer .int) with default := .generated 0 (.counting 10 5) }),
      ("placed", { named "placed" .datetime with default := .raw "NOW()" }),
      ("note", { named "note" .text with nullable := true })], by decide⟩
    primaryKey := ⟨"id", named "id" .auto, true, 1⟩
    indexes := []
    engine := "InnoDB"
    charset := "utf8mb4"
    comment := "" }

/-- A reference only. -/
def referenced : Values := ⟨[("reference", .text "A-7")], by decide⟩

/-- A number, and no reference. -/
def numbered : Values := ⟨[("note", .text "late"), ("reference", .null), ("id", .int 3)], by decide⟩

end Sample

theorem render_row_order :
    ((Sample.order.insertion Sample.referenced).render.answer .start = .ok
        ⟨"INSERT INTO `order` (`ref`, `state`, `position`, `note`) VALUES (%s, %s, %s, %s);",
          .single [.text "A-7", .text "new", .int 10, .null]⟩ ∧
      (∀ c ∈ Sample.order.filled Sample.referenced .start, c.1.Takes c.2)) ∧
    (¬ ∃ q, (Sample.order.insertion Sample.numbered).render.answer .start = .ok q) ∧
    ∃ q, (Sample.order.replacement Sample.numbered).render.answer .start = .ok q ∧
      (Sample.order.replacement Sample.numbered).Writes
        ((Sample.order.filled Sample.numbered .start).filter fun c => !c.1.misses c.2) q ∧
      q.sql = "REPLACE INTO `order` (`id`, `state`, `position`, `note`) VALUES (%s, %s, %s, %s);" := by
  obtain ⟨hinsert, -⟩ := Insert.render_row Sample.order Sample.referenced .start
  obtain ⟨hnumbered, -, -, hreplace, -⟩ := Insert.render_row Sample.order Sample.numbered .start
  have hq : (Sample.order.insertion Sample.referenced).render.answer .start = .ok
      ⟨"INSERT INTO `order` (`ref`, `state`, `position`, `note`) VALUES (%s, %s, %s, %s);",
        .single [.text "A-7", .text "new", .int 10, .null]⟩ := rfl
  refine ⟨⟨hq, (hinsert.1 ⟨_, hq⟩).2.2⟩, fun h => ?_, _, rfl, hreplace _ rfl, rfl⟩
  have hnull := (hnumbered.1 h).2.1 ("id", Sample.named "id" .auto) (.head _) rfl
  cases hnull

end SqlMapper
