import SqlMapper.Proofs.Calendar.Extent
import SqlMapper.Proofs.Field.Wire
import SqlMapper.Proofs.Result
import SqlMapper.Proofs.Text.Hex

/-!
# Bound values are read back

What a column is bound has one form for each kind of the column (`FieldKind.Binds`): a decimal is rounded already, an
identifier is written with its digits. A value of that form is read back as an application value that is bound as the
same value again (`Field.toWire_toApp`), so a value that was stored by a column can be read and stored again without a
change. A column of instants needs a date for them on its own clocks, and panics without one
(`Field.toApp_eq_panic`); clocks of universal time have one for everything that is stored (`Field.Stores.shows`).
-/

namespace SqlMapper

open Number Calendar

/-! ## Rounding -/

namespace Number.Decimal

variable {d e : Decimal} {mode : Rounding} {places : Nat}

theorem ofParts?_self (d : Decimal) : ofParts? d.mantissa d.scale d.negative = some d :=
  dif_pos ⟨d.mantissa_lt, d.scale_le⟩

theorem scale_of_ofParts? {mantissa scale : Nat} {negative : Bool} (h : ofParts? mantissa scale negative = some d) :
    d.scale = scale ∧ scale ≤ maxScale := by
  unfold ofParts? at h
  split at h
  · next hb =>
    cases h
    exact ⟨rfl, hb.2⟩
  · cases h

/-- A decimal with as many places as asked for stays as it is, and so does one with fewer places, unless it is zero. -/
theorem round_eq_self (hzero : d.mantissa = 0 → d.scale = min places maxScale) (hscale : d.scale ≤ places) :
    d.round mode places = d := by
  unfold round
  by_cases hm : d.mantissa = 0
  · have hd := ofParts?_self d
    rw [hm, hzero hm] at hd
    rw [if_pos hm, hd, Option.getD_some]
  · rw [if_neg hm, if_pos hscale]

/-- Rounding leaves a decimal alone or gives it the places asked for. -/
theorem round_eq_or_scale_eq (d : Decimal) (mode : Rounding) (places : Nat) :
    d.round mode places = d ∨ (d.round mode places).scale = min places maxScale := by
  have hor {mantissa scale : Nat} {negative : Bool} (hs : scale ≤ maxScale → scale = min places maxScale) :
      (ofParts? mantissa scale negative).getD d = d ∨
        ((ofParts? mantissa scale negative).getD d).scale = min places maxScale := by
    cases hp : ofParts? mantissa scale negative with
    | none => exact .inl rfl
    | some e =>
      obtain ⟨he, hb⟩ := scale_of_ofParts? hp
      exact .inr (he.trans (hs hb))
  unfold round
  split
  · exact hor fun _ => rfl
  · split
    · exact .inl rfl
    · exact hor fun h => (Nat.min_eq_left h).symm

/-- Rounding again changes nothing. -/
theorem round_round (d : Decimal) (mode : Rounding) (places : Nat) :
    (d.round mode places).round mode places = d.round mode places := by
  rcases round_eq_or_scale_eq d mode places with h | h
  · rw [h, h]
  · exact round_eq_self (fun _ => h) (h ▸ Nat.min_le_left places maxScale)

end Number.Decimal

/-! ## Integers -/

namespace Value

variable {n : Int}

/-- A number that fits into 64 bits is denoted by its value with a sign. -/
theorem integer?_int_ofInt (hl : -Int.pow 2 63 ≤ n) (hu : n < Int.pow 2 63) :
    (int (Int64.ofInt n)).integer? = some n := by
  rw [integer?, Int64.toInt_ofInt_of_le hl hu]

/-- A number that fits into 64 bits without a sign is denoted by its value without one. -/
theorem integer?_uint_ofNat (h0 : 0 ≤ n) (hu : n < Int.pow 2 64) : (uint (UInt64.ofNat n.toNat)).integer? = some n := by
  have hlt : n.toNat < 2 ^ 64 := (Int.toNat_lt h0).2 hu
  rw [integer?, UInt64.toNat_ofNat', Nat.mod_eq_of_lt hlt, Int.toNat_of_nonneg h0]

/-- A number of 64 bits is one of those that fit into 64 bits. -/
theorem int64?_toInt (n : Int64) : int64? n.toInt = some n := by
  unfold int64?
  rw [if_pos ⟨Int64.le_toInt n, Int64.toInt_lt n⟩, Int64.ofInt_toInt]

end Value

/-! ## The form of bound values -/

/-- The values that a column of a kind is bound, apart from `NULL`. -/
inductive FieldKind.Binds : FieldKind → Value → Prop
  | int {size length} (n : Int64) : Binds (.integer size length) (.int n)
  | uint {size length} (n : UInt64) : Binds (.integer size length) (.uint n)
  | boolean (b : Bool) : Binds .boolean (.boolean b)
  | float {double precision} (x : Float) : Binds (.float double precision) (.float x)
  | decimal {precision scale rounding} (d : Decimal) : (∀ mode ∈ rounding, d.round mode scale = d) →
      Binds (.decimal precision scale rounding) (.decimal d)
  | char {length} (s : String) : Binds (.char length) (.text s)
  | varchar {length} (s : String) : Binds (.varchar length) (.text s)
  | text (s : String) : Binds .text (.text s)
  | date {formats} (d : Date) : Binds (.date formats) (.date d)
  | time {formats} (t : Time) : Binds (.time formats) (.time t)
  | datetime {formats} (d : DateTime) : Binds (.datetime formats) (.datetime d)
  | seconds {clocks} (n : Int64) : Binds (.timestamp clocks) (.int n)
  | unsigned {clocks} (n : UInt64) : Binds (.timestamp clocks) (.uint n)
  | uuid (u : Uuid) : Binds .uuid (.text u.simple)

namespace Field

variable {f : Field} {v w : Value}

theorem wireInteger_binds {size : IntegerSize} {length : Option Nat} (h : f.wireInteger v = .ok w) :
    (FieldKind.integer size length).Binds w := by
  unfold wireInteger at h
  split at h
  · cases h
    exact .int _
  · cases h
    exact .uint _
  · obtain ⟨n, -, hn⟩ := Option.bind_eq_some_iff.1 (take_eq_ok h)
    rcases Option.or_eq_some_iff.1 hn with hn | ⟨-, hn⟩
    · obtain ⟨_, -, rfl⟩ := Option.map_eq_some_iff.1 hn
      exact .int _
    · obtain ⟨_, -, rfl⟩ := Option.map_eq_some_iff.1 hn
      exact .uint _

/-- A bound value has the form of its column. -/
theorem scalarToWire_binds (h : f.scalarToWire v = .ok w) : f.kind.Binds w := by
  unfold scalarToWire at h
  cases hk : f.kind with
  | integer size length =>
    rw [hk] at h
    exact wireInteger_binds h
  | boolean =>
    rw [hk] at h
    obtain ⟨b, -, rfl⟩ := map_eq_ok h
    exact .boolean b
  | float double precision =>
    rw [hk] at h
    obtain ⟨x, -, rfl⟩ := map_eq_ok h
    exact .float x
  | decimal precision scale rounding =>
    rw [hk] at h
    obtain ⟨d, -, rfl⟩ := map_eq_ok h
    refine .decimal _ fun mode hm => ?_
    rw [Option.mem_def.1 hm]
    exact Decimal.round_round d mode scale
  | uuid =>
    rw [hk] at h
    obtain ⟨u, -, rfl⟩ := map_eq_ok h
    exact .uuid u
  | char | varchar | text =>
    rw [hk] at h
    dsimp only at h
    split at h
    · cases h
      constructor
    · cases h
      constructor
    · cases h
  | date | time | datetime | timestamp =>
    rw [hk] at h
    dsimp only at h
    -- a value of the kind itself, one that is turned into it, a text that is read, or a refusal
    split at h
    all_goals first
      | (cases h; constructor)
      | (obtain ⟨_, -, rfl⟩ := map_eq_ok h; constructor)
      | cases h

end Field

/-- No value of that form is `NULL`. -/
theorem FieldKind.Binds.isNull {k : FieldKind} {w : Value} (h : k.Binds w) : w.isNull = false := by
  cases h <;> rfl

/-- Only `NULL` is bound as `NULL`. -/
theorem Field.toWire_isNull {f : Field} {v w : Value} (h : f.toWire v = .ok w) (hn : v.isNull = false) :
    w.isNull = false := by
  cases hl : v.isList with
  | false =>
    rw [toWire_of_scalar hn hl] at h
    exact (scalarToWire_binds h).isNull
  | true =>
    cases v with
    | list items =>
      rw [toWire] at h
      obtain ⟨_, -, rfl⟩ := map_eq_ok h
      rfl
    | _ => cases hl

theorem Field.toWireAll_isNull {f : Field} : ∀ {vs ws : List Value}, f.toWireAll vs = .ok ws →
    (∀ v ∈ vs, v.isNull = false) → ∀ w ∈ ws, w.isNull = false
  | [], _, h, _, _, hm => by
    rw [toWireAll] at h
    cases h
    exact absurd hm List.not_mem_nil
  | v :: vs, _, h, hn, w, hm => by
    rw [toWireAll] at h
    obtain ⟨w', hw, h⟩ := Result.bind_eq_ok.1 h
    obtain ⟨ws, hws, h⟩ := Result.bind_eq_ok.1 h
    cases h
    rcases List.mem_cons.1 hm with rfl | hm
    · exact toWire_isNull hw (hn v List.mem_cons_self)
    · exact toWireAll_isNull hws (fun u hu => hn u (List.mem_cons_of_mem _ hu)) w hm

/-- The column can store the value: it is bound for some value that is no list, it is `NULL` only where the column takes
that, and a number of seconds lies inside of the calendar. -/
structure Field.Stores (f : Field) (w : Value) : Prop where
  bound : ∃ v, v.isList = false ∧ f.toWire v = .ok w
  nullable : w.isNull = true → f.nullable = true
  dated : ∀ clocks, f.kind = .timestamp clocks → w.isNull = false →
    ∃ n m, w = .int n ∧ Moment.ofUnixSeconds? n.toInt = some m

/-! ## Clocks -/

/-- The seconds since the start of 1970 that a column of instants is bound for a value. Clocks that are ahead of
universal time show a date and time earlier. -/
def Value.epochSeconds? (clocks : Clocks) : Value → Option Int
  | timestamp m => some (Int64.ofInt m.unixSeconds).toInt
  | datetime d => some (Int64.ofInt (d.seconds - clocks.ahead)).toInt
  | int n => some n.toInt
  | uint n => some n.toNat
  | _ => none

theorem Value.isNull_of_mem_epochSeconds? {v : Value} {clocks : Clocks} {n : Int} (h : n ∈ v.epochSeconds? clocks) :
    v.isNull = false := by
  cases v with
  | null => cases h
  | _ => rfl

/-- The clocks of the column show the value: the calendar has a date for its seconds in a column of instants, when those
clocks show them. -/
def Field.Shows (f : Field) (v : Value) : Prop :=
  ∀ clocks, f.kind = .timestamp clocks → ∀ n ∈ v.epochSeconds? clocks, InExtent (n + clocks.ahead)

/-- Instants in the column are shown on clocks of universal time. -/
def Field.IsUniversal (f : Field) : Prop := ∀ clocks, f.kind = .timestamp clocks → clocks.ahead = 0

/-- The clocks of a column of instants. -/
def FieldKind.clocks? : FieldKind → Option Clocks
  | .timestamp clocks => some clocks
  | _ => none

theorem FieldKind.clocks?_eq_some_iff {k : FieldKind} {clocks : Clocks} :
    k.clocks? = some clocks ↔ k = .timestamp clocks := by
  cases k <;> simp [clocks?]

instance (f : Field) : Decidable f.IsUniversal :=
  decidable_of_iff (∀ clocks ∈ f.kind.clocks?, clocks.ahead = 0) <| forall_congr' fun _ =>
    imp_congr_left FieldKind.clocks?_eq_some_iff

namespace Field

variable {f : Field} {v w : Value}

/-- A column of instants is bound the seconds of a value, and the seconds are those of the bound value. -/
theorem epochSeconds?_of_scalarToWire {clocks : Clocks} (hk : f.kind = .timestamp clocks)
    (h : f.scalarToWire v = .ok w) : w.epochSeconds? clocks = v.epochSeconds? clocks := by
  unfold scalarToWire at h
  rw [hk] at h
  cases v with
  | timestamp | datetime | int | uint =>
    cases h
    rfl
  | _ => cases h

/-- Clocks show a bound value where they show the value that it is bound for. -/
theorem shows_iff_of_toWire (h : f.toWire v = .ok w) : f.Shows w ↔ f.Shows v := by
  cases hn : v.isNull with
  | true =>
    obtain rfl := Value.eq_null hn
    cases h
    rfl
  | false =>
    cases hl : v.isList with
    | true =>
      cases v with
      | list items =>
        obtain ⟨ws, -, rfl⟩ := map_eq_ok h
        exact iff_of_true (fun _ _ _ hm => nomatch hm) fun _ _ _ hm => nomatch hm
      | _ => cases hl
    | false =>
      rw [toWire_of_scalar hn hl] at h
      exact forall₂_congr fun clocks hk => by rw [epochSeconds?_of_scalarToWire hk h]

/-- Clocks of universal time show what a column stores. -/
theorem Stores.shows (h : f.Stores w) (hf : f.IsUniversal) : f.Shows w := by
  intro clocks hk n hn
  have hnull := Value.isNull_of_mem_epochSeconds? hn
  obtain ⟨k, m, rfl, hm⟩ := h.dated clocks hk hnull
  cases hn
  rw [hf clocks hk, Int.add_zero]
  exact Moment.exists_ofUnixSeconds?_iff.1 ⟨m, hm⟩

/-- An instant is read back from its seconds. -/
theorem appTimestamp_int {clocks : Clocks} {n : Int64} {m : Moment} (h : Moment.ofUnixSeconds? n.toInt = some m) :
    f.appTimestamp clocks (.int n) = orPanic (m.at? clocks.ahead) := by
  have hn : (Value.int n).integer?.bind Value.int64? = some n := Value.int64?_toInt n
  have hinstant : f.instant (.int n) = .ok m := by
    unfold instant
    dsimp only
    rw [hn]
    refine Result.bind_eq_ok.2 ⟨n, rfl, ?_⟩
    rw [h]
  rw [appTimestamp, hinstant, Result.ok_bind]

theorem scalarToApp_of_binds (h : f.kind.Binds w)
    (hdated : ∀ clocks, f.kind = .timestamp clocks → ∃ n m, w = .int n ∧ Moment.ofUnixSeconds? n.toInt = some m)
    (hshows : f.Shows w) :
    ∃ a, f.scalarToApp w = .ok a ∧ f.scalarToWire a = .ok w ∧ a.isNull = false ∧ a.isList = false := by
  unfold scalarToApp scalarToWire
  unfold Shows at hshows
  generalize f.kind = k at h hdated hshows
  cases h with
  | int n => exact ⟨.int n, rfl, rfl, rfl, rfl⟩
  | uint n => exact ⟨.uint n, rfl, rfl, rfl, rfl⟩
  | boolean b => exact ⟨.boolean b, rfl, rfl, rfl, rfl⟩
  | float x => exact ⟨.float x, rfl, rfl, rfl, rfl⟩
  | char s | varchar s | text s => exact ⟨.text s, rfl, rfl, rfl, rfl⟩
  | date d => exact ⟨.date d, rfl, rfl, rfl, rfl⟩
  | time t => exact ⟨.time t, rfl, rfl, rfl, rfl⟩
  | datetime d => exact ⟨.datetime d, rfl, rfl, rfl, rfl⟩
  | decimal d hd =>
    refine ⟨.decimal d, rfl, ?_, rfl, rfl⟩
    refine congrArg (fun e => Except.ok (Value.decimal e)) ?_
    split
    · next mode => exact hd mode rfl
    · rfl
  | @seconds clocks n =>
    obtain ⟨n, m, he, hm⟩ := hdated _ rfl
    cases he
    have hseconds := Moment.unixSeconds_of_ofUnixSeconds? hm
    obtain ⟨m', hm'⟩ := Moment.exists_at?_iff.2 (hseconds.symm ▸ hshows clocks rfl _ rfl)
    have happ : f.appTimestamp clocks (.int n) = .ok m' := by rw [appTimestamp_int hm, hm']; rfl
    refine ⟨.timestamp m', congrArg (Except.map Value.timestamp) happ, ?_, rfl, rfl⟩
    refine congrArg (fun s => Except.ok (Value.int s)) ?_
    rw [(Moment.of_at? hm').2.1, hseconds, Int64.ofInt_toInt]
  | unsigned n =>
    obtain ⟨_, _, he, -⟩ := hdated _ rfl
    cases he
  | uuid u =>
    refine ⟨.uuid u, ?_, rfl, rfl, rfl⟩
    have hu : (Value.text u.simple).uuid? = some u := Uuid.read_simple u
    dsimp only
    rw [hu]
    rfl

/-- **A stored value is read back**, and what is read is bound as the stored value again. -/
theorem toWire_toApp (h : f.Stores w) (hshows : f.Shows w) :
    ∃ a, f.toApp w = .ok a ∧ f.toWire a = .ok w ∧ a.isNull = w.isNull ∧ a.isList = false := by
  obtain ⟨v, hl, hv⟩ := h.bound
  cases hn : v.isNull with
  | true =>
    obtain rfl := Value.eq_null hn
    cases hv
    exact ⟨.null, rfl, rfl, rfl, rfl⟩
  | false =>
    rw [toWire_of_scalar hn hl] at hv
    have hbinds := scalarToWire_binds hv
    obtain ⟨a, ha, hw, hnull, hlist⟩ :=
      scalarToApp_of_binds hbinds (fun clocks hk => h.dated clocks hk hbinds.isNull) hshows
    exact ⟨a, (toApp_of_not_null hbinds.isNull).trans ha, (toWire_of_scalar hnull hlist).trans hw,
      hnull.trans hbinds.isNull.symm, hlist⟩

/-- **A stored value that the clocks of the column do not show is a panic.** -/
theorem toApp_eq_panic (h : f.Stores w) (hshows : ¬ f.Shows w) : f.toApp w = .error .outOfCalendar := by
  simp only [Shows, not_forall] at hshows
  obtain ⟨clocks, hk, n, hn, hout⟩ := hshows
  have hnull := Value.isNull_of_mem_epochSeconds? hn
  obtain ⟨k, m, rfl, hm⟩ := h.dated clocks hk hnull
  cases hn
  have hnone : m.at? clocks.ahead = none :=
    Moment.at?_eq_none_iff.2 (Moment.unixSeconds_of_ofUnixSeconds? hm ▸ hout)
  rw [toApp_of_not_null hnull, scalarToApp, hk]
  dsimp only
  rw [appTimestamp_int hm, hnone]
  rfl

end Field

end SqlMapper
