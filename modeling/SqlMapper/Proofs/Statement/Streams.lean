import Mathlib.Data.List.Nodup
import SqlMapper.Proofs.Result
import SqlMapper.Proofs.Statement.Parameters
import SqlMapper.Proofs.Statement.Selection
import SqlMapper.Proofs.Table.WellFormed

/-!
# Streams of default values

A row that leaves out an attribute with a generated default draws one value for it, and a row that provides the
attribute draws none (`Insert.normalize_stream`). By induction over the rows, those that leave the attribute out take
the values of its stream one after the other, from the next unread one on, and what other streams hold plays no part
(`Insert.render_streams`). A value that was drawn may still find no place: where it is `NULL`, a replacement may leave
its column out of the statement (`drawn_null_lost`).
-/

namespace SqlMapper

/-! ## Drawing for one field -/

/-- A row that leaves the field out draws from the stream with the identity. -/
def Field.DrawsFrom (f : Field) (source : Nat) : Prop := ∃ generator, f.default = .generated source generator

/-- No two fields of the table draw from one stream. -/
def Table.StreamsApart (t : Table) : Prop :=
  t.fields.pairs.Pairwise fun p q => ∀ source, p.2.DrawsFrom source → ¬ q.2.DrawsFrom source

variable {given : String → Option Value} {attr : String} {f : Field} {fs : List (String × Field)} {source : Nat}
  {g : Generator} {σ τ : Supply}

namespace Field

theorem filling_now (f : Field) (v : Option Value) (σ : Supply) : (f.filling v σ).2.now = σ.now := by
  unfold filling
  split <;> rfl

/-- Other streams are left as they are. -/
theorem filling_drawn_of_not (h : ¬ f.DrawsFrom source) (v : Option Value) (σ : Supply) :
    (f.filling v σ).2.drawn source = σ.drawn source := by
  unfold filling
  split
  · rfl
  · rfl
  · next other g hd =>
    refine if_neg fun heq => h ?_
    subst heq
    exact ⟨g, hd⟩
  · rfl

/-- The value is what the row gives, or else the next one of the stream, which is drawn then. -/
theorem filling_of_generated (h : f.default = .generated source g) (v : Option Value) (σ : Supply) :
    (f.filling v σ).1 = v.getD (g.value σ.now (σ.drawn source)) ∧
      (f.filling v σ).2.drawn source = σ.drawn source + if v.isNone then 1 else 0 := by
  unfold filling
  rw [h]
  cases v with
  | some v => exact ⟨rfl, rfl⟩
  | none => exact ⟨rfl, if_pos rfl⟩

end Field

/-! ## Drawing for one row -/

theorem resolution_now : ∀ {fs : List (String × Field)} {σ : Supply}, (resolution given fs σ).2.now = σ.now
  | [], _ => rfl
  | (attr, f) :: fs, σ => by
    cases h : f.isLeftOut (given attr) with
    | true => rw [resolution_of_leftOut h, resolution_now]
    | false => rw [resolution_of_listed h, resolution_now, Field.filling_now]

theorem resolution_drawn_of_not : ∀ {fs : List (String × Field)} {σ : Supply}, (∀ p ∈ fs, ¬ p.2.DrawsFrom source) →
    (resolution given fs σ).2.drawn source = σ.drawn source
  | [], _, _ => rfl
  | (attr, f) :: fs, σ, hfs => by
    obtain ⟨hf, hfs⟩ := List.forall_mem_cons.1 hfs
    cases h : f.isLeftOut (given attr) with
    | true => rw [resolution_of_leftOut h, resolution_drawn_of_not hfs]
    | false => rw [resolution_of_listed h, resolution_drawn_of_not hfs, Field.filling_drawn_of_not hf]

/-- A field with a stream of its own takes the next value of it, unless the row gives another one. -/
theorem resolution_stream (ha : f.isAutoIncrement = false) (hd : f.default = .generated source g) :
    ∀ {fs : List (String × Field)} {σ : Supply}, (attr, f) ∈ fs →
      (fs.Pairwise fun p q => ∀ source, p.2.DrawsFrom source → ¬ q.2.DrawsFrom source) →
      (f, (given attr).getD (g.value σ.now (σ.drawn source))) ∈ (resolution given fs σ).1 ∧
        (resolution given fs σ).2.drawn source = σ.drawn source + if (given attr).isNone then 1 else 0
  | [], _, hm, _ => absurd hm List.not_mem_nil
  | (attr', f') :: fs, σ, hm, hapart => by
    obtain ⟨hhead, hapart⟩ := List.pairwise_cons.1 hapart
    rcases List.mem_cons.1 hm with heq | hm
    · obtain ⟨rfl, rfl⟩ := Prod.mk.inj heq
      have hlisted : f.isLeftOut (given attr) = false := by simp [Field.isLeftOut, ha, hd, FieldDefault.isRaw]
      obtain ⟨hvalue, hdrawn⟩ := Field.filling_of_generated hd (given attr) σ
      rw [resolution_of_listed hlisted, hvalue]
      refine ⟨List.mem_cons_self, ?_⟩
      rw [resolution_drawn_of_not fun p hp => hhead p hp source ⟨g, hd⟩, hdrawn]
    · have hother : ¬ f'.DrawsFrom source := fun hf' => hhead _ hm source hf' ⟨g, hd⟩
      cases h : f'.isLeftOut (given attr') with
      | true =>
        rw [resolution_of_leftOut h]
        exact resolution_stream ha hd hm hapart
      | false =>
        have ih := resolution_stream (σ := (f'.filling (given attr') σ).2) ha hd hm hapart
        rw [Field.filling_now, Field.filling_drawn_of_not hother] at ih
        rw [resolution_of_listed h]
        exact ⟨List.mem_cons_of_mem _ ih.1, ih.2⟩

namespace Insert

open Drawing

variable {i : Insert} {row : Values} {bound : List (Field × Value)} {columns : List String}

/-- The row does not provide the attribute. -/
def omits (i : Insert) (attr : String) (row : Values) : Bool := (i.provided row attr).isNone

/-- What becomes of a value of the row: its conversion stands in the set in the place of its column, or it is `NULL` in
a column that may not be, and the column is left out, as the row names the row that it replaces. -/
def Receives (i : Insert) (columns : List String) (row : Values) (set : List Value) (f : Field) (v : Value) : Prop :=
  (f.misses v = false ∧ ∃ w, f.toWire v = .ok w ∧ (f.name, w) ∈ columns.zip set) ∨
    (f.misses v = true ∧ (i.isReplace && i.hasKey row) = true ∧ f.name ∉ columns)

/-- No two columns of a row have one name. -/
theorem nodup_resolution (ht : i.table.WellFormed) :
    ((resolution (i.provided row) i.table.fields.pairs σ).1.map (·.1.name)).Nodup := by
  rw [map_name_resolution]
  exact ht.columns.sublist (List.filter_sublist.map _)

/-- A value that a row resolves to is bound, or missed by its column. -/
theorem receives_of_mem (ht : i.table.WellFormed) (h : i.Binds row i.table.fields.pairs σ bound τ) {v : Value}
    (hv : (f, v) ∈ (resolution (i.provided row) i.table.fields.pairs σ).1) :
    i.Receives (bound.map (·.1.name)) row (bound.map (·.2)) f v := by
  cases hmiss : f.misses v with
  | true =>
    refine .inr ⟨hmiss, h.missed _ hv hmiss, fun hm => ?_⟩
    rw [h.map_name] at hm
    obtain ⟨p, hp, hname⟩ := List.mem_map.1 hm
    obtain ⟨hp, hkept⟩ := List.mem_filter.1 hp
    obtain rfl := List.inj_on_of_nodup_map (nodup_resolution ht) hp hv hname
    rw [hmiss] at hkept
    cases hkept
  | false =>
    have hkept : (f, v) ∈ (resolution (i.provided row) i.table.fields.pairs σ).1.filter fun p => !p.1.misses p.2 :=
      List.mem_filter.2 ⟨hv, by rw [hmiss]; rfl⟩
    obtain ⟨b, hb, hfield, hw⟩ := Result.exists_of_mem (List.Forall₂.flip h.bound) hkept
    have hname : b.1.name = f.name := congrArg Field.name hfield
    refine .inl ⟨hmiss, b.2, hw, ?_⟩
    rw [List.zip_map', ← hname]
    exact List.mem_map_of_mem (f := fun b : Field × Value => (b.1.name, b.2)) hb

/-- **One row draws once** for an attribute that it does not provide, and not at all for one that it provides. -/
theorem normalize_stream (ht : i.table.WellFormed) (hs : i.table.StreamsApart) (hf : (attr, f) ∈ i.table.fields.pairs)
    (hd : f.default = .generated source g) (h : (i.normalize row).Gives σ bound τ) :
    i.Receives (bound.map (·.1.name)) row (bound.map (·.2)) f
        ((i.provided row attr).getD (g.value σ.now (σ.drawn source))) ∧
      τ.drawn source = σ.drawn source + if i.omits attr row then 1 else 0 := by
  have ha : f.isAutoIncrement = false := by
    refine Bool.eq_false_iff.2 fun ha => ?_
    rw [(ht.numbered _ hf ha).2.2] at hd
    cases hd
  obtain ⟨-, hbinds⟩ := normalize_gives_iff.1 h
  obtain ⟨hm, hdrawn⟩ := @resolution_stream (i.provided row) attr f source g ha hd _ σ hf hs
  exact ⟨receives_of_mem ht hbinds hm, hbinds.left ▸ hdrawn⟩

/-- A row leaves the clock alone, and the streams of no field. -/
theorem normalize_supply (h : (i.normalize row).Gives σ bound τ) : τ.now = σ.now ∧
    ∀ source, (∀ p ∈ i.table.fields.pairs, ¬ p.2.DrawsFrom source) → τ.drawn source = σ.drawn source := by
  rw [(normalize_gives_iff.1 h).2.left]
  exact ⟨resolution_now, fun _ => resolution_drawn_of_not⟩

/-! ## Drawing for all rows -/

theorem batch_supply : ∀ {rows : List Values} {σ τ : Supply} {sets : List (List Value)},
    (i.batch columns rows).Gives σ sets τ → sets.length = rows.length ∧ τ.now = σ.now ∧
      ∀ source, (∀ p ∈ i.table.fields.pairs, ¬ p.2.DrawsFrom source) → τ.drawn source = σ.drawn source
  | [], _, _, _, h => by
    unfold batch at h
    obtain ⟨rfl, rfl⟩ := gives_pure.1 h
    exact ⟨rfl, rfl, fun _ _ => rfl⟩
  | row :: rows, _, _, _, h => by
    obtain ⟨bound, υ, sets, hb, -, hsets, rfl⟩ := batch_cons_gives_iff.1 h
    obtain ⟨hnow, hdrawn⟩ := normalize_supply hb
    obtain ⟨hlength, hnow', hdrawn'⟩ := batch_supply hsets
    exact ⟨congrArg (· + 1) hlength, hnow'.trans hnow, fun source hf => (hdrawn' source hf).trans (hdrawn source hf)⟩

/-- By induction over the rows: each of them takes the value that stands behind those for the rows in front of it. -/
theorem batch_stream (ht : i.table.WellFormed) (hs : i.table.StreamsApart) (hf : (attr, f) ∈ i.table.fields.pairs)
    (hd : f.default = .generated source g) : ∀ {rows : List Values} {σ τ : Supply} {sets : List (List Value)},
    (i.batch columns rows).Gives σ sets τ → τ.drawn source = σ.drawn source + rows.countP (i.omits attr) ∧
      ∀ k row, rows[k]? = some row → ∃ set, sets[k]? = some set ∧ i.Receives columns row set f
        ((i.provided row attr).getD (g.value σ.now (σ.drawn source + (rows.take k).countP (i.omits attr))))
  | [], _, _, _, h => by
    unfold batch at h
    obtain ⟨-, rfl⟩ := gives_pure.1 h
    refine ⟨rfl, fun k row hrow => ?_⟩
    rw [List.getElem?_nil] at hrow
    cases hrow
  | first :: rows, σ, τ, _, h => by
    obtain ⟨bound, υ, sets, hb, hcolumns, hsets, rfl⟩ := batch_cons_gives_iff.1 h
    obtain ⟨hreceives, hdrawn⟩ := normalize_stream ht hs hf hd hb
    rw [hcolumns] at hreceives
    obtain ⟨hcount, hrest⟩ := batch_stream ht hs hf hd hsets
    have hstep (n : Nat) : υ.drawn source + n = σ.drawn source + (n + if i.omits attr first then 1 else 0) := by
      rw [hdrawn]
      omega
    refine ⟨by rw [hcount, hstep, List.countP_cons], fun k row hrow => ?_⟩
    cases k with
    | zero =>
      obtain rfl := Option.some.inj hrow
      exact ⟨_, rfl, hreceives⟩
    | succ k =>
      obtain ⟨set, hset, h⟩ := hrest k row hrow
      rw [(normalize_supply hb).1, hstep, ← List.countP_cons] at h
      exact ⟨set, hset, h⟩

/-- A statement is a batch of all its rows. -/
theorem batch_of_render {q : Query} (h : i.render.Gives σ q τ) : ∃ columns row bound υ,
    (i.normalize row).Gives σ bound υ ∧ bound.map (·.1.name) = columns ∧ q.sql = Query.terminated (i.text columns) ∧
      (i.batch columns i.rows).Gives σ q.params.sets τ := by
  cases hrows : i.rows with
  | nil => simp [render, hrows] at h
  | cons first rest =>
    obtain ⟨bound, υ, sets, hb, hsets, rfl⟩ := (render_cons_gives_iff hrows).1 h
    have hparams : (params (bound.map (·.2)) rest sets).sets = bound.map (·.2) :: sets := by
      cases rest with
      | nil =>
        unfold batch at hsets
        obtain ⟨rfl, -⟩ := gives_pure.1 hsets
        rfl
      | cons => rfl
    refine ⟨_, first, bound, υ, hb, rfl, rfl, ?_⟩
    rw [hparams]
    exact batch_cons_gives_iff.2 ⟨bound, υ, sets, hb, rfl, hsets, rfl⟩

/-- **Streams are drawn once for each value that is left out.** In the statement for some rows of a table whose
generated defaults have streams of their own, a row that does not provide an attribute takes the value of its stream
that stands behind those for the rows in front of it, and a row that provides it takes what it provides. As many values
are drawn as rows leave the attribute out, and the streams of no field stay as they are. -/
theorem render_streams (ht : i.table.Compiled) (hs : i.table.StreamsApart) {q : Query} (h : i.render.Gives σ q τ) :
    ∃ columns, q.sql = Query.terminated (i.text columns) ∧ columns.Nodup ∧ q.params.sets.length = i.rows.length ∧
      τ.now = σ.now ∧
      (∀ source, (∀ p ∈ i.table.fields.pairs, ¬ p.2.DrawsFrom source) → τ.drawn source = σ.drawn source) ∧
      ∀ attr f source g, i.table.fields.get? attr = some f → f.default = .generated source g →
        τ.drawn source = σ.drawn source + i.rows.countP (i.omits attr) ∧
        ∀ k row, i.rows[k]? = some row → ∃ set, q.params.sets[k]? = some set ∧ i.Receives columns row set f
          ((i.provided row attr).getD (g.value σ.now (σ.drawn source + (i.rows.take k).countP (i.omits attr)))) := by
  obtain ⟨columns, row, bound, υ, hb, rfl, hsql, hbatch⟩ := batch_of_render h
  obtain ⟨hlength, hnow, hdrawn⟩ := batch_supply hbatch
  have hnodup : (bound.map (·.1.name)).Nodup := by
    rw [(normalize_gives_iff.1 hb).2.map_name]
    exact (nodup_resolution ht.wellFormed).sublist (List.filter_sublist.map _)
  refine ⟨_, hsql, hnodup, hlength, hnow, hdrawn, fun attr f source g hf hd => ?_⟩
  exact batch_stream ht.wellFormed hs (Ordered.mem_pairs_iff.2 hf) hd hbatch

end Insert

/-! ## Tickets and readings -/

namespace Sample

/-- Integers from a stream. -/
def streamed (source : Nat) (g : Generator) : Field := { Field.integer .int with default := .generated source g }

/-- Tickets with a seat and a turn, each from a stream of its own. -/
def ticket : Declaration :=
  { className := "Ticket", name := some "ticket"
    fields := [("id", .auto), ("seat", streamed 0 (.counting 10 5)), ("turn", streamed 1 (.counting 100 1))] }

/-- The table of tickets. -/
def ticketTable : Table :=
  { ref := ⟨none, "ticket"⟩
    fields := ⟨[("id", named "id" .auto), ("seat", named "seat" (streamed 0 (.counting 10 5))),
      ("turn", named "turn" (streamed 1 (.counting 100 1)))], by decide⟩
    primaryKey := ⟨"id", named "id" .auto, true, 1⟩
    indexes := []
    engine := "InnoDB"
    charset := "utf8mb4"
    comment := "" }

/-- A ticket, one for a given seat, and one for a given turn. -/
def tickets : Insert :=
  { table := ticketTable
    rows := [⟨[], by decide⟩, ⟨[("seat", .int 7)], by decide⟩, ⟨[("turn", .int 3)], by decide⟩] }

/-- Readings of a gauge that shows nothing. -/
def reading : Declaration :=
  { className := "Reading", name := some "reading"
    fields := [("id", .auto), ("level", streamed 0 (.constant .null))] }

/-- The table of readings. -/
def readingTable : Table :=
  { ref := ⟨none, "reading"⟩
    fields := ⟨[("id", named "id" .auto), ("level", named "level" (streamed 0 (.constant .null)))], by decide⟩
    primaryKey := ⟨"id", named "id" .auto, true, 1⟩
    indexes := []
    engine := "InnoDB"
    charset := "utf8mb4"
    comment := "" }

/-- The row of a reading. -/
def fifth : Values := ⟨[("id", .int 5)], by decide⟩

theorem ticket_compiled : ticketTable.Compiled := .of_declaration (d := ticket) (by simp [ticket]) trivial rfl

theorem reading_compiled : readingTable.Compiled := .of_declaration (d := reading) (by simp [reading]) trivial rfl

theorem ticket_streamsApart : ticketTable.StreamsApart := by
  simp [Table.StreamsApart, ticketTable, Field.DrawsFrom, named, streamed, Field.auto, Field.integer, Field.ofKind,
    Field.primaryKey, Field.autoIncrement]

theorem reading_streamsApart : readingTable.StreamsApart := by
  simp [Table.StreamsApart, readingTable, Field.DrawsFrom, named, streamed, Field.auto, Field.integer, Field.ofKind,
    Field.primaryKey, Field.autoIncrement]

end Sample

/-- The seat of the third ticket is the second one of its stream. -/
theorem render_streams_tickets : Sample.ticketTable.Compiled ∧ Sample.ticketTable.StreamsApart ∧
    ∃ τ, Sample.tickets.render.Gives .start ⟨"INSERT INTO `ticket` (`seat`, `turn`) VALUES (%s, %s);",
        .many [[.int 10, .int 100], [.int 7, .int 101], [.int 15, .int 3]]⟩ τ ∧
      τ.drawn 0 = 2 ∧ τ.drawn 1 = 2 ∧ Sample.tickets.Receives ["seat", "turn"] ⟨[("turn", .int 3)], by decide⟩
        [.int 15, .int 3] (Sample.named "seat" (Sample.streamed 0 (.counting 10 5))) (.int 15) := by
  refine ⟨Sample.ticket_compiled, Sample.ticket_streamsApart, _, rfl, ?_⟩
  obtain ⟨columns, hsql, -, -, -, -, hstreams⟩ :=
    Insert.render_streams (i := Sample.tickets) (σ := .start) Sample.ticket_compiled Sample.ticket_streamsApart rfl
  obtain rfl : columns = ["seat", "turn"] := Insert.columns_eq_of_text_eq hsql.symm
  obtain ⟨hseats, hseat⟩ := hstreams "seat" _ 0 _ rfl rfl
  obtain ⟨set, hset, hreceives⟩ := hseat 2 _ rfl
  obtain rfl := Option.some.inj hset
  exact ⟨hseats, (hstreams "turn" _ 1 _ rfl rfl).1, hreceives⟩

/-- A level is drawn for the reading that is replaced, and `NULL` is what is bound for it, but its column is left out. -/
theorem drawn_null_lost : Sample.readingTable.Compiled ∧ Sample.readingTable.StreamsApart ∧
    (Sample.named "level" (Sample.streamed 0 (.constant .null))).toWire .null = .ok .null ∧
    ∃ (i : Insert) (τ : Supply), i.table = Sample.readingTable ∧ i.rows = [Sample.fifth] ∧
      i.omits "level" Sample.fifth = true ∧
      i.render.Gives .start ⟨"REPLACE INTO `reading` (`id`) VALUES (%s);", .single [.int 5]⟩ τ ∧ τ.drawn 0 = 1 :=
  ⟨Sample.reading_compiled, Sample.reading_streamsApart, rfl,
    { table := Sample.readingTable, rows := [Sample.fifth], isReplace := true }, _, rfl, rfl, rfl, rfl, rfl⟩

end SqlMapper
