import SqlMapper.Proofs.Calendar.Extent
import SqlMapper.Proofs.Field.Normal
import SqlMapper.Proofs.Record.Saving

/-!
# What is written can be read

A column refuses what it could not read back, with one exception: a column of instants is bound numbers as they are,
and an instant by its seconds, wherever the clocks of universal time stand then. It reads only the seconds of the
calendar, and shows them on its own clocks. So a value that was accepted is read back exactly where these seconds lie
inside of the calendar and those clocks have a date for them (`Field.exists_toApp_iff`), and a row of accepted values
loads exactly where all of its values are read back (`Row.exists_load_iff`). Seconds outside of the calendar are
refused, and a date outside of it is a panic.
-/

namespace SqlMapper

open Calendar

/-- The seconds that a column of instants is bound for the value lie inside of the calendar. -/
def Field.Counts (f : Field) (v : Value) : Prop :=
  ∀ clocks, f.kind = .timestamp clocks → ∀ n ∈ v.epochSeconds? clocks, InExtent n

/-- The column reads back what it is bound for the value: the seconds in a column of instants lie inside of the
calendar, and its clocks show them. -/
structure Field.Keeps (f : Field) (v : Value) : Prop where
  counts : f.Counts v
  isShown : f.Shows v

/-! ## Values -/

namespace Value

theorem int64?_eq_some_iff {n : Int} {k : Int64} : int64? n = some k ↔ k.toInt = n := by
  constructor
  · unfold int64?
    split
    · next h =>
      rintro ⟨⟩
      exact Int64.toInt_ofInt_of_le h.1 h.2
    · exact fun h => nomatch h
  · rintro rfl
    exact int64?_toInt k

/-- Seconds of the calendar fit into 64 bits. -/
theorem exists_int64?_of_inExtent {n : Int} (h : InExtent n) : ∃ k, int64? n = some k := by
  obtain ⟨m, hm⟩ := Moment.exists_ofUnixSeconds?_iff.2 h
  exact ⟨_, if_pos (Moment.bounds_of_ofUnixSeconds? hm)⟩

end Value

namespace Field

variable {f : Field} {v w : Value}

section Seconds

variable {clocks : Clocks} {n : Int}

/-- What is said of the clocks and the seconds of a column of instants is said of its clocks and one number. -/
theorem forall_epochSeconds_iff {P : Clocks → Int → Prop} (hk : f.kind = .timestamp clocks)
    (hn : v.epochSeconds? clocks = some n) :
    (∀ clocks, f.kind = .timestamp clocks → ∀ n ∈ v.epochSeconds? clocks, P clocks n) ↔ P clocks n := by
  refine ⟨fun h => h clocks hk n hn, fun h clocks' hk' n' hn' => ?_⟩
  cases hk.symm.trans hk'
  cases hn.symm.trans hn'
  exact h

theorem counts_iff (hk : f.kind = .timestamp clocks) (hn : v.epochSeconds? clocks = some n) :
    f.Counts v ↔ InExtent n := forall_epochSeconds_iff hk hn

theorem shows_iff (hk : f.kind = .timestamp clocks) (hn : v.epochSeconds? clocks = some n) :
    f.Shows v ↔ InExtent (n + clocks.ahead) := forall_epochSeconds_iff hk hn

theorem keeps_iff (hk : f.kind = .timestamp clocks) (hn : v.epochSeconds? clocks = some n) :
    f.Keeps v ↔ InExtent n ∧ InExtent (n + clocks.ahead) := by
  rw [← counts_iff hk hn, ← shows_iff hk hn]
  exact ⟨fun h => ⟨h.counts, h.isShown⟩, fun h => ⟨h.1, h.2⟩⟩

/-- Clocks of universal time show a date and time. -/
theorem keeps_datetime (hk : f.kind = .timestamp clocks) (hc : clocks.ahead = 0) (d : DateTime) :
    f.Keeps (.datetime d) := by
  rw [keeps_iff hk rfl, hc, Int.sub_zero, Int.add_zero, Int64.toInt_ofInt_of_le d.seconds_bounds.1 d.seconds_bounds.2]
  exact ⟨d.inExtent, d.inExtent⟩

/-- They show a moment of their own. -/
theorem keeps_timestamp (hk : f.kind = .timestamp clocks) (hc : clocks.ahead = 0) {m : Moment} (hm : m.offset = 0) :
    f.Keeps (.timestamp m) := by
  have hseconds : m.unixSeconds = m.wall.seconds - clocks.ahead := by rw [Moment.unixSeconds, hm, hc]
  have hwall := keeps_datetime hk hc m.wall
  rw [keeps_iff hk rfl] at hwall ⊢
  rwa [hseconds]

end Seconds

/-- A value without seconds is kept. -/
theorem keeps_of_no_seconds (h : ∀ clocks, f.kind = .timestamp clocks → v.epochSeconds? clocks = none) : f.Keeps v := by
  have hnone (clocks : Clocks) (hk : f.kind = .timestamp clocks) (n : Int) (hn : n ∈ v.epochSeconds? clocks) :
      False := by
    cases (h clocks hk).symm.trans hn
  exact ⟨fun clocks hk n hn => (hnone clocks hk n hn).elim, fun clocks hk n hn => (hnone clocks hk n hn).elim⟩

/-- Only numbers, instants on clocks other than those of universal time, and dates on such clocks may be lost, and only
in columns of instants. -/
theorem of_not_keeps (h : ¬ f.Keeps v) : ∃ clocks, f.kind = .timestamp clocks ∧
    ((∃ n, v = .int n) ∨ (∃ n, v = .uint n) ∨ (∃ m, v = .timestamp m ∧ (m.offset ≠ 0 ∨ clocks.ahead ≠ 0)) ∨
      ∃ d, v = .datetime d ∧ clocks.ahead ≠ 0) := by
  obtain ⟨clocks, hk⟩ : ∃ clocks, f.kind = .timestamp clocks :=
    by_contra fun hk => h (keeps_of_no_seconds fun clocks he => absurd ⟨clocks, he⟩ hk)
  refine ⟨clocks, hk, ?_⟩
  cases v with
  | int n => exact .inl ⟨n, rfl⟩
  | uint n => exact .inr (.inl ⟨n, rfl⟩)
  | timestamp m =>
    refine .inr (.inr (.inl ⟨m, rfl, ?_⟩))
    by_cases hc : clocks.ahead = 0
    · exact .inl fun hm => h (keeps_timestamp hk hc hm)
    · exact .inr hc
  | datetime d => exact .inr (.inr (.inr ⟨d, rfl, fun hc => h (keeps_datetime hk hc d)⟩))
  | _ => exact absurd (keeps_of_no_seconds fun _ _ => rfl) h

section Instants

variable {n : Int}

/-- A number is an instant where the calendar has its seconds. -/
theorem exists_instant (h : w.integer? = some n) (hn : InExtent n) : ∃ m, f.instant w = .ok m ∧ m.unixSeconds = n := by
  obtain ⟨k, hk⟩ := Value.exists_int64?_of_inExtent hn
  obtain ⟨m, hm⟩ := Moment.exists_ofUnixSeconds?_iff.2 hn
  refine ⟨m, ?_, Moment.unixSeconds_of_ofUnixSeconds? hm⟩
  unfold instant
  split
  · cases h
  · cases h
  · rw [h, Option.bind_some, hk]
    refine Result.bind_eq_ok.2 ⟨k, rfl, ?_⟩
    rw [Value.int64?_eq_some_iff.1 hk, hm]

/-- Any other number is refused. -/
theorem instant_refused (h : w.integer? = some n) (hn : ¬ InExtent n) :
    ∃ fault, f.instant w = fail (.data f.name fault) := by
  unfold instant
  split
  · cases h
  · cases h
  · rw [h, Option.bind_some]
    cases hk : Value.int64? n with
    | none => exact ⟨_, rfl⟩
    | some k =>
      have hm : Moment.ofUnixSeconds? k.toInt = none := by
        rw [Value.int64?_eq_some_iff.1 hk]
        exact Option.eq_none_iff_forall_ne_some.2 fun m hm => hn (Moment.exists_ofUnixSeconds?_iff.1 ⟨m, hm⟩)
      have hseconds : f.take w "epoch seconds" (some k) = .ok k := rfl
      exact ⟨.timestampRange, by rw [hseconds, Result.ok_bind, hm]⟩

end Instants

/-- In a column of instants, a bound value is the seconds of what it was bound for. -/
theorem integer?_of_scalarToWire {clocks : Clocks} (hk : f.kind = .timestamp clocks) (h : f.scalarToWire v = .ok w) :
    ∃ n, w.integer? = some n ∧ v.epochSeconds? clocks = some n := by
  unfold scalarToWire at h
  rw [hk] at h
  cases v with
  | timestamp | datetime | int | uint =>
    cases h
    exact ⟨_, rfl, rfl⟩
  | _ => cases h

/-- **How an accepted value is read back**: as a value where the calendar has its seconds and the clocks of the column
show them, with a panic where only the calendar does, and with a refusal otherwise. -/
theorem toApp_of_toWire (hl : v.isList = false) (h : f.toWire v = .ok w) :
    (f.Keeps v → ∃ a, f.toApp w = .ok a) ∧ (¬ f.Counts v → ∃ fault, f.toApp w = fail (.data f.name fault)) ∧
      (f.Counts v → ¬ f.Shows v → f.toApp w = .error .outOfCalendar) := by
  cases hn : v.isNull with
  | true =>
    obtain rfl := Value.eq_null hn
    cases h
    have hkeeps : f.Keeps .null := keeps_of_no_seconds fun _ _ => rfl
    exact ⟨fun _ => ⟨.null, rfl⟩, fun hc => absurd hkeeps.counts hc, fun _ hs => absurd hkeeps.isShown hs⟩
  | false =>
    rw [toWire_of_scalar hn hl] at h
    have hbinds := scalarToWire_binds h
    rw [toApp_of_not_null hbinds.isNull]
    by_cases hk : ∃ clocks, f.kind = .timestamp clocks
    · obtain ⟨clocks, hk⟩ := hk
      obtain ⟨n, hw, hv⟩ := integer?_of_scalarToWire hk h
      have happ : f.scalarToApp w = (f.appTimestamp clocks w).map .timestamp := by
        rw [scalarToApp, hk]
      rw [happ, appTimestamp, keeps_iff hk hv, counts_iff hk hv, shows_iff hk hv]
      refine ⟨fun hin => ?_, fun hout => ?_, fun hin hout => ?_⟩
      · obtain ⟨m, hm, rfl⟩ := exists_instant (f := f) hw hin.1
        obtain ⟨m', hm'⟩ := Moment.exists_at?_iff.2 hin.2
        rw [hm, Result.ok_bind, hm']
        exact ⟨_, rfl⟩
      · obtain ⟨fault, hfault⟩ := instant_refused (f := f) hw hout
        rw [hfault]
        exact ⟨fault, rfl⟩
      · obtain ⟨m, hm, rfl⟩ := exists_instant (f := f) hw hin
        rw [hm, Result.ok_bind, Moment.at?_eq_none_iff.2 hout]
        rfl
    · have hnone : ∀ clocks, f.kind ≠ .timestamp clocks := fun clocks he => hk ⟨clocks, he⟩
      have hkeeps (x : Value) : f.Keeps x := keeps_of_no_seconds fun clocks he => absurd he (hnone clocks)
      obtain ⟨a, ha, -⟩ := scalarToApp_of_binds hbinds (fun clocks he => absurd he (hnone clocks)) (hkeeps w).isShown
      exact ⟨fun _ => ⟨a, ha⟩, fun hc => absurd (hkeeps v).counts hc, fun _ hs => absurd (hkeeps v).isShown hs⟩

/-- **An accepted value is read back** exactly where the column keeps it. -/
theorem exists_toApp_iff (hl : v.isList = false) (h : f.toWire v = .ok w) : (∃ a, f.toApp w = .ok a) ↔ f.Keeps v := by
  obtain ⟨hread, hrefused, hpanic⟩ := toApp_of_toWire hl h
  refine ⟨fun ⟨a, ha⟩ => ?_, hread⟩
  by_cases hc : f.Counts v
  · refine ⟨hc, by_contra fun hs => ?_⟩
    cases ha.symm.trans (hpanic hc hs)
  · obtain ⟨fault, hfault⟩ := hrefused hc
    cases ha.symm.trans hfault

end Field

/-! ## Rows -/

namespace Row

variable {t : Table} {vs ws : List Value}

/-- Cells of a table fill a record exactly where each column reads its value. -/
theorem exists_fill_iff (ht : t.WellFormed) : ∀ {cells : List (Column × Value)} {r : Record}, r.table = t →
    (∀ c ∈ cells, c.1 ∈ t.columns) →
    ((∃ r', fill r (cells.map fun c => (c.1.name, c.2)) = .ok r') ↔ ∀ c ∈ cells, ∃ a, c.1.field.toApp c.2 = .ok a)
  | [], r, _, _ => iff_of_true ⟨r, rfl⟩ fun _ hc => absurd hc List.not_mem_nil
  | (col, w) :: cells, r, hr, hcols => by
    have hcol : col ∈ t.columns := hcols _ List.mem_cons_self
    rw [List.forall_mem_cons]
    simp only [List.map_cons, fill, hr, ht.attributeOf_column hcol, Table.field_column hcol, Result.ok_bind]
    have hrest (a : Value) :
        (∃ r', fill (r.load col.attr a) (cells.map fun c => (c.1.name, c.2)) = .ok r') ↔
          ∀ c ∈ cells, ∃ a, c.1.field.toApp c.2 = .ok a :=
      exists_fill_iff ht hr fun c hc => hcols c (List.mem_cons_of_mem _ hc)
    constructor
    · rintro ⟨r', h⟩
      obtain ⟨a, ha, h⟩ := Result.bind_eq_ok.1 h
      exact ⟨⟨a, ha⟩, (hrest a).1 ⟨r', h⟩⟩
    · rintro ⟨⟨a, ha⟩, h⟩
      obtain ⟨r', h⟩ := (hrest a).2 h
      exact ⟨r', Result.bind_eq_ok.2 ⟨a, ha, h⟩⟩

/-- A delivered row is loaded exactly where each column reads its value. -/
theorem exists_load_delivered_iff (ht : t.WellFormed) :
    (∃ r, load t (t.delivered ws) .model = .ok (.record r)) ↔ ∀ c ∈ t.cells ws, ∃ a, c.1.field.toApp c.2 = .ok a := by
  rw [← exists_fill_iff ht (r := .ofTable t) rfl fun c hc => Table.column_of_mem_cells hc, ← t.pairs_delivered, load,
    if_pos (fits_delivered ht ws)]
  constructor
  · rintro ⟨r, h⟩
    obtain ⟨r', h, -⟩ := Field.map_eq_ok h
    exact ⟨r', h⟩
  · rintro ⟨r, h⟩
    exact ⟨r, congrArg (Except.map record) h⟩

/-- Columns read what they are bound for the values that they keep. -/
theorem exists_toApp_cells_iff : ∀ {columns : List Column} {vs ws : List Value}, (∀ v ∈ vs, v.isList = false) →
    List.Forall₂ (fun c w => c.1.field.toWire c.2 = .ok w) (columns.zip vs) ws →
    ((∀ c ∈ columns.zip ws, ∃ a, c.1.field.toApp c.2 = .ok a) ↔ ∀ c ∈ columns.zip vs, c.1.field.Keeps c.2)
  | [], vs, ws, _, _ => iff_of_true (fun _ hc => nomatch hc) fun _ hc => nomatch hc
  | _ :: _, [], ws, _, h => by
    cases h
    exact iff_of_true (fun _ hc => nomatch hc) fun _ hc => nomatch hc
  | col :: columns, v :: vs, _, hl, .cons hw h => by
    rw [List.zip_cons_cons, List.zip_cons_cons, List.forall_mem_cons, List.forall_mem_cons,
      Field.exists_toApp_iff (hl v List.mem_cons_self) hw,
      exists_toApp_cells_iff (fun v hv => hl v (List.mem_cons_of_mem _ hv)) h]

/-- **A row of accepted values loads** exactly where the columns keep them. -/
theorem exists_load_iff (ht : t.WellFormed) (hl : ∀ v ∈ vs, v.isList = false)
    (h : (t.cells vs).mapM (fun c => c.1.field.toWire c.2) = .ok ws) :
    (∃ r, load t (t.delivered ws) .model = .ok (.record r)) ↔ ∀ c ∈ t.cells vs, c.1.field.Keeps c.2 :=
  (exists_load_delivered_iff ht).trans (exists_toApp_cells_iff hl (Result.forall₂_of_mapM h))

end Row

/-- **What is accepted is read back, apart from seconds outside of the calendar**: by a field exactly what it keeps.
What is not kept was given to a column of instants: as a number, as an instant, or as a date and time on clocks that are
not those of universal time. Seconds that the calendar does not have are refused, and seconds that the clocks of the
column cannot show are a panic. A row that was accepted by a compiled table is read back exactly where all columns keep
their values. -/
theorem readable_iff (f : Field) (v : Value) :
    (∀ w, v.isList = false → f.toWire v = .ok w → ((∃ a, f.toApp w = .ok a) ↔ f.Keeps v) ∧
      (¬ f.Counts v → ∃ fault, f.toApp w = fail (.data f.name fault)) ∧
      (f.Counts v → ¬ f.Shows v → f.toApp w = .error .outOfCalendar)) ∧
    (¬ f.Keeps v → ∃ clocks, f.kind = .timestamp clocks ∧
      ((∃ n, v = .int n) ∨ (∃ n, v = .uint n) ∨ (∃ m, v = .timestamp m ∧ (m.offset ≠ 0 ∨ clocks.ahead ≠ 0)) ∨
        ∃ d, v = .datetime d ∧ clocks.ahead ≠ 0)) ∧
    ∀ (t : Table) (vs ws : List Value), t.Compiled → (∀ v ∈ vs, v.isList = false) →
      (t.cells vs).mapM (fun c => c.1.field.toWire c.2) = .ok ws →
      ((∃ r, Row.load t (t.delivered ws) .model = .ok (.record r)) ↔ ∀ c ∈ t.cells vs, c.1.field.Keeps c.2) :=
  ⟨fun _ hl h => ⟨Field.exists_toApp_iff hl h, (Field.toApp_of_toWire hl h).2⟩, Field.of_not_keeps,
    fun _ _ _ ht => Row.exists_load_iff ht.wellFormed⟩

theorem readable_iff_ware :
    (∃ a, (Sample.named "made" Field.timestamp).toApp (.int 951782400) = .ok a) ∧
    (∃ r, Row.load Sample.wareTable (Sample.wareTable.delivered Sample.wareRow) .model = .ok (.record r)) ∧
    (∃ clocks, (Sample.named "made" Field.timestamp).kind = .timestamp clocks) ∧
    Sample.localTimestamp.toWire (.int 253402300799) = .ok (.int 253402300799) ∧
    Sample.localTimestamp.toApp (.int 253402300799) = .error .outOfCalendar := by
  have hkeeps : (Sample.named "made" Field.timestamp).Keeps (.int 951782400) :=
    (Field.keeps_iff rfl rfl).2 ⟨by decide, by decide⟩
  have hcells : ∀ c ∈ Sample.wareTable.cells Sample.wareRow, c.1.field.Keeps c.2 := by
    simp only [Table.cells, Table.columns, Sample.wareTable, Sample.wareRow, List.map_cons, List.map_nil,
      List.zip_cons_cons, List.zip_nil_left, List.forall_mem_cons]
    exact ⟨Field.keeps_of_no_seconds fun _ h => (by cases h), Field.keeps_of_no_seconds fun _ h => (by cases h),
      Field.keeps_of_no_seconds fun _ h => (by cases h), (Field.keeps_iff rfl rfl).2 ⟨by decide, by decide⟩,
      Field.keeps_of_no_seconds fun _ _ => rfl, fun _ h => (by cases h)⟩
  have hlost : ¬ (Sample.named "made" Field.timestamp).Keeps (.uint 18446744073709551615) := by
    rw [Field.keeps_iff rfl rfl]
    decide
  have hcounts : Sample.localTimestamp.Counts (.int 253402300799) := (Field.counts_iff rfl rfl).2 (by decide)
  have hunseen : ¬ Sample.localTimestamp.Shows (.int 253402300799) := by
    rw [Field.shows_iff rfl rfl]
    decide
  obtain ⟨clocks, hclocks, -⟩ := (readable_iff _ _).2.1 hlost
  exact ⟨((readable_iff _ (.int 951782400)).1 _ rfl rfl).1.2 hkeeps,
    ((readable_iff default .null).2.2 Sample.wareTable Sample.wareRow Sample.wareRow Sample.ware_compiled (by decide)
      rfl).2 hcells,
    ⟨clocks, hclocks⟩, rfl, ((readable_iff Sample.localTimestamp _).1 _ rfl rfl).2.2 hcounts hunseen⟩

/-- The last hour of the calendar begins, on clocks that are an hour behind universal time. -/
def Sample.lastHour : Moment := ⟨⟨Date.last, { Time.midnight with hour := ⟨23, by decide⟩ }⟩, -3600⟩

/-- A column of instants accepts a number that it refuses to read, and an instant too. -/
theorem unreadable_seconds : ∃ f : Field, f.kind = .timestamp .universal ∧
    ∀ v ∈ [.int 9223372036854775807, .timestamp Sample.lastHour], v.isList = false ∧
      ∃ w, f.toWire v = .ok w ∧ f.toApp w = fail (.data f.name .timestampRange) ∧ ¬ ∃ a, f.toApp w = .ok a := by
  have hint : (Sample.named "ts" Field.timestamp).toApp (.int 9223372036854775807) =
      fail (.data "ts" .timestampRange) := rfl
  have hmoment : (Sample.named "ts" Field.timestamp).toApp (.int 253402300800) =
      fail (.data "ts" .timestampRange) := rfl
  refine ⟨Sample.named "ts" Field.timestamp, rfl, ?_⟩
  rw [List.forall_mem_cons, List.forall_mem_singleton]
  refine ⟨⟨rfl, _, rfl, hint, fun ⟨a, ha⟩ => ?_⟩, ⟨rfl, _, rfl, hmoment, fun ⟨a, ha⟩ => ?_⟩⟩
  · exact Result.fail_ne_ok (hint.symm.trans ha)
  · exact Result.fail_ne_ok (hmoment.symm.trans ha)

end SqlMapper
