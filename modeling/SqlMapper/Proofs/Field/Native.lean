import SqlMapper.Proofs.Field.Normal
import SqlMapper.Proofs.Record.Loading

/-!
# Native values survive their columns

A column stores the values of a native type if its kind is one that the type may have (`NativeType.StoredAs`). A value
of the type is then bound, and what the column reads from the bound value is read as the value again
(`Field.exists_stores_of_keeps`): an integer of any width and sign as the same number, an identifier from its digits,
an instant from its seconds, where the clocks of the column show it. Floating point numbers are left out, since their
narrow type rounds.
-/

namespace SqlMapper

open Number Calendar

/-! ## Kinds of columns for native types -/

/-- The kinds of columns that store values of a type. -/
inductive NativeType.StoredAs : NativeType → FieldKind → Prop
  | bool : StoredAs .bool .boolean
  | integer {t size length} : StoredAs (.integer t) (.integer size length)
  | f32 {double precision} : StoredAs .f32 (.float double precision)
  | f64 {double precision} : StoredAs .f64 (.float double precision)
  | decimal {precision scale} : StoredAs .decimal (.decimal precision scale none)
  | char {length} : StoredAs .string (.char length)
  | varchar {length} : StoredAs .string (.varchar length)
  | text : StoredAs .string .text
  | uuid : StoredAs .uuid .uuid
  | date {formats} : StoredAs .date (.date formats)
  | time {formats} : StoredAs .time (.time formats)
  | datetime {formats} : StoredAs .datetime (.datetime formats)
  | timestamp {clocks} : StoredAs .timestamp (.timestamp clocks)
  | option {t k} : StoredAs t k → StoredAs (.option t) k

/-- Whether a kind of columns stores values of a type. -/
def NativeType.stores : NativeType → FieldKind → Bool
  | .bool, .boolean | .integer _, .integer .. | .f32, .float .. | .f64, .float .. | .decimal, .decimal _ _ none => true
  | .string, .char _ | .string, .varchar _ | .string, .text | .uuid, .uuid => true
  | .date, .date _ | .time, .time _ | .datetime, .datetime _ | .timestamp, .timestamp _ => true
  | .option t, k => stores t k
  | _, _ => false

theorem NativeType.stores_iff {t : NativeType} {k : FieldKind} : t.stores k = true ↔ t.StoredAs k := by
  constructor
  · intro h
    induction t with
    | option t ih => exact .option (ih h)
    | decimal =>
      cases k with
      | decimal _ _ rounding =>
        cases rounding with
        | none => exact .decimal
        | some _ => cases h
      | _ => cases h
    | _ => cases k <;> first | constructor | cases h
  · intro h
    induction h with
    | option _ ih => exact ih
    | _ => rfl

instance (t : NativeType) (k : FieldKind) : Decidable (t.StoredAs k) := decidable_of_iff _ t.stores_iff

/-- The values of a type that a column keeps: all but floating point numbers and raw bytes, and instants of whole
seconds inside of the calendar. -/
inductive NativeType.Keeps : NativeType → Value → Prop
  | bool (b : Bool) : Keeps .bool (.boolean b)
  | integer {t : IntegerType} {n : Int} : t.holds n = true → Keeps (.integer t) (t.value n)
  | decimal (d : Decimal) : Keeps .decimal (.decimal d)
  | string (s : String) : Keeps .string (.text s)
  | uuid (u : Uuid) : Keeps .uuid (.uuid u)
  | date (d : Date) : Keeps .date (.date d)
  | time (t : Time) : Keeps .time (.time t)
  | datetime (d : DateTime) : Keeps .datetime (.datetime d)
  | timestamp (m : Moment) : m.wall.time.nanosecond = 0 → InExtent m.unixSeconds → Keeps .timestamp (.timestamp m)
  | none (t : NativeType) : Keeps (.option t) .null
  | some {t : NativeType} {v : Value} : Keeps t v → Keeps (.option t) v

/-- Both are one value, or they are moments of one instant. -/
def Value.Matches (v w : Value) : Prop := v = w ∨ ∃ m n, v = .timestamp m ∧ w = .timestamp n ∧ m.same n = true

/-! ## Integers -/

namespace IntegerType

variable {t : IntegerType} {n : Int}

/-- A number of a type is read back from the value that the type writes for it. -/
theorem integer?_value (h : t.holds n = true) : (t.value n).integer? = some n := by
  unfold holds at h
  unfold value
  split
  · next hsigned =>
    have hpow : Int.pow 2 (t.bits - 1) ≤ Int.pow 2 63 := by cases t <;> decide
    rw [if_pos hsigned, Bool.and_eq_true, decide_eq_true_eq, decide_eq_true_eq] at h
    exact Value.integer?_int_ofInt (by omega) (by omega)
  · next hunsigned =>
    have hpow : Int.pow 2 t.bits ≤ Int.pow 2 64 := by cases t <;> decide
    rw [if_neg hunsigned, Bool.and_eq_true, decide_eq_true_eq, decide_eq_true_eq] at h
    exact Value.integer?_uint_ofNat h.1 (Int.lt_of_lt_of_le h.2 hpow)

/-- The value is one of the two that a column of integers binds. -/
theorem value_eq (t : IntegerType) (n : Int) : (∃ k, t.value n = .int k) ∨ ∃ k, t.value n = .uint k := by
  unfold value
  split
  · exact .inl ⟨_, rfl⟩
  · exact .inr ⟨_, rfl⟩

theorem readAs_value (h : t.holds n = true) : Value.readAs (.integer t) (t.value n) = .ok (t.value n) := by
  rw [Value.readAs, Value.readInteger, integer?_value h]
  dsimp only
  rw [if_pos h]
  rfl

theorem isNull_value (t : IntegerType) (n : Int) : (t.value n).isNull = false ∧ (t.value n).isList = false := by
  rcases t.value_eq n with ⟨k, hk⟩ | ⟨k, hk⟩
  · rw [hk]
    exact ⟨rfl, rfl⟩
  · rw [hk]
    exact ⟨rfl, rfl⟩

end IntegerType

/-! ## Values of all types -/

namespace NativeType.Keeps

variable {t : NativeType} {v : Value}

theorem isList (h : t.Keeps v) : v.isList = false := by
  induction h with
  | @integer i n _ => exact (i.isNull_value n).2
  | some _ ih => exact ih
  | _ => rfl

/-- Only an option allows the absence of a value. -/
theorem exists_option (h : t.Keeps v) (hn : v.isNull = true) : ∃ u, t = .option u := by
  cases h with
  | @integer i n _ =>
    rw [(i.isNull_value n).1] at hn
    cases hn
  | none u => exact ⟨u, rfl⟩
  | @some u _ _ => exact ⟨u, rfl⟩
  | _ => cases hn

end NativeType.Keeps

namespace Field

variable {f : Field} {t : NativeType} {v w a : Value}

theorem loaded_eq (h : f.toApp w = .ok a) : f.loaded w = a := by
  rw [loaded, h]
  rfl

/-- An instant of whole seconds is found by its seconds, and shown on any clocks that can. -/
theorem same_of_at? {m m' m'' : Moment} {offset : Int} (hm : m.wall.time.nanosecond = 0)
    (h : Moment.ofUnixSeconds? m.unixSeconds = some m') (h' : m'.at? offset = some m'') : m.same m'' = true := by
  have hzero : m'.wall.time.nanosecond = 0 := by
    obtain ⟨wall, hwall, rfl⟩ := Option.map_eq_some_iff.1 h
    exact DateTime.nanosecond_of_ofSeconds? hwall
  obtain ⟨-, hseconds, hnanosecond⟩ := Moment.of_at? h'
  unfold Moment.same
  rw [hseconds, hnanosecond, Moment.unixSeconds_of_ofUnixSeconds? h, hm, hzero]
  simp

/-- An option of a value that is there is read as the value. -/
theorem readAs_option (h : v.isNull = false) : Value.readAs (.option t) v = Value.readAs t v := by
  cases v with
  | null => cases h
  | _ => rfl

/-- A value of a type, unless it is absent, is bound and read back. -/
theorem exists_scalar_of_keeps (hk : t.StoredAs f.kind) (hv : t.Keeps v) (hn : v.isNull = false) :
    ∃ w, f.scalarToWire v = .ok w ∧ (∀ clocks, f.kind = .timestamp clocks → v.InCalendar clocks) ∧
      (f.Shows v → ∃ a b, f.scalarToApp w = .ok a ∧ a.isNull = false ∧ Value.readAs t a = .ok b ∧ v.Matches b) := by
  unfold scalarToWire scalarToApp Shows
  generalize f.kind = k at hk
  induction hk with
  | bool | decimal | char | varchar | text | date | time | datetime =>
    cases hv
    exact ⟨_, rfl, fun _ h => (by cases h), fun _ => ⟨_, _, rfl, rfl, rfl, .inl rfl⟩⟩
  | f32 => cases hv
  | f64 => cases hv
  | @integer i size length =>
    cases hv with
    | @integer _ n hholds =>
      have hread := IntegerType.readAs_value hholds
      rcases i.value_eq n with ⟨k, hk⟩ | ⟨k, hk⟩
      · rw [hk] at hread ⊢
        exact ⟨_, rfl, fun _ h => (by cases h), fun _ => ⟨_, _, rfl, rfl, hread, .inl rfl⟩⟩
      · rw [hk] at hread ⊢
        exact ⟨_, rfl, fun _ h => (by cases h), fun _ => ⟨_, _, rfl, rfl, hread, .inl rfl⟩⟩
  | uuid =>
    cases hv with
    | uuid u =>
      have hu : (Value.text u.simple).uuid? = some u := Uuid.read_simple u
      refine ⟨.text u.simple, rfl, fun _ h => (by cases h), fun _ => ⟨.uuid u, .uuid u, ?_, rfl, rfl, .inl rfl⟩⟩
      dsimp only
      rw [hu]
      rfl
  | @timestamp clocks =>
    cases hv with
    | timestamp m hm hd =>
      obtain ⟨m', hm'⟩ := Moment.exists_ofUnixSeconds?_iff.2 hd
      have hint := toInt_ofInt_of_ofUnixSeconds? hm'
      refine ⟨_, rfl, fun _ _ => ⟨_, m', rfl, hm'⟩, fun hshows => ?_⟩
      have hseconds : m'.unixSeconds = (Int64.ofInt m.unixSeconds).toInt :=
        (Moment.unixSeconds_of_ofUnixSeconds? hm').trans hint.symm
      obtain ⟨m'', hm''⟩ := Moment.exists_at?_iff.2 (hseconds.symm ▸ hshows clocks rfl _ rfl)
      have happ : f.appTimestamp clocks (.int (Int64.ofInt m.unixSeconds)) = .ok m'' := by
        rw [appTimestamp_int (hint.symm ▸ hm'), hm'']
        rfl
      exact ⟨.timestamp m'', .timestamp m'', congrArg (Except.map Value.timestamp) happ, rfl, rfl,
        .inr ⟨m, m'', rfl, rfl, same_of_at? hm hm' hm''⟩⟩
  | option _ ih =>
    cases hv with
    | none => cases hn
    | some hv =>
      obtain ⟨w, hw, hd, hread⟩ := ih hv
      refine ⟨w, hw, hd, fun hshows => ?_⟩
      obtain ⟨a, b, ha, hnull, hb, hmatch⟩ := hread hshows
      exact ⟨a, b, ha, hnull, (readAs_option hnull).trans hb, hmatch⟩

/-- **A column keeps the values of a type that it stores**: a value is bound, and what the column reads from the bound
value, if its clocks show it, is read as the value again. -/
theorem exists_stores_of_keeps (hk : t.StoredAs f.kind) (hv : t.Keeps v) (hn : v.isNull = true → f.nullable = true) :
    ∃ w, f.toWire v = .ok w ∧ f.Stores w ∧
      (f.Shows v → ∃ b, Value.readAs t (f.loaded w) = .ok b ∧ v.Matches b) := by
  cases hnull : v.isNull with
  | true =>
    obtain ⟨u, rfl⟩ := hv.exists_option hnull
    obtain rfl := Value.eq_null hnull
    have hstores : f.Stores .null := ⟨⟨.null, rfl, rfl⟩, fun _ => hn hnull, fun _ _ h => (by cases h)⟩
    refine ⟨.null, rfl, hstores, fun _ => ⟨.null, ?_, .inl rfl⟩⟩
    rw [loaded_eq (f := f) (w := .null) (a := .null) rfl]
    rfl
  | false =>
    obtain ⟨w, hw, hd, hread⟩ := exists_scalar_of_keeps hk hv hnull
    have hwire : f.toWire v = .ok w := (toWire_of_scalar hnull hv.isList).trans hw
    refine ⟨w, hwire, stores_of_toWire hnull hv.isList hwire hd, fun hshows => ?_⟩
    obtain ⟨a, b, ha, -, hb, hmatch⟩ := hread hshows
    have happ : f.toApp w = .ok a := (toApp_of_not_null (scalarToWire_binds hw).isNull).trans ha
    exact ⟨b, by rw [loaded_eq happ, hb], hmatch⟩

end Field

end SqlMapper
