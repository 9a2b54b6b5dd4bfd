import SqlMapper.Connection.Wire
import SqlMapper.Proofs.Field.RoundTrip
import SqlMapper.Proofs.Number.Decimal
import SqlMapper.Proofs.Sample

/-!
# Values survive the wire

The protocol of the server forgets types: a truth value arrives as an integer, a date as a date and time, a decimal and
an identifier as their texts (`Value.delivered`). Every value that the protocol can carry has a form that is read as
what is delivered for it (`WireValue.exists_ofValue`), and a field reads from that what it reads from the bound value
itself (`Field.agree_delivered`). So a bound value survives the way to the server and back
(`Field.agree_of_toWire`). Moments are left out, since no column binds one.

An integer arrives in more than one form, as text or as a number with or without sign (`WireValue.Delivers`). Columns
of truth values and of instants read all of them alike, and so does a column of integers with a number that has no form
with a sign. But a number that fits into both forms is passed on in the one that it came in
(`Field.received_agree_iff`).
-/

namespace SqlMapper

open Number Calendar

/-! ## Outcomes -/

/-- Both are faults, or both are values that are equal. -/
def Result.Agree : Result Value → Result Value → Prop
  | .ok a, .ok b => a = b ∨ a.same b = true
  | .error _, .error _ => True
  | _, _ => False

theorem Result.Agree.refl (r : Result Value) : r.Agree r := by
  cases r with
  | ok a => exact .inl (Eq.refl a)
  | error e => trivial

/-- Outcomes that differ in nothing but a fault. -/
theorem Result.agree_of_toOption_eq {r s : Result Value} (h : r.toOption = s.toOption) : r.Agree s := by
  cases r with
  | ok a =>
    cases s with
    | ok b => exact .inl (Option.some.inj h)
    | error e => cases h
  | error e =>
    cases s with
    | ok b => cases h
    | error e => trivial

/-! ## Values on the wire -/

namespace Value

/-- The date part of a value. -/
def date? : Value → Option Date
  | date d => some d
  | datetime d => some d.date
  | _ => none

/-- The time part of a value. -/
def time? : Value → Option Time
  | time t => some t
  | datetime d => some d.time
  | _ => none

/-- The protocol can carry the value: it is no list, its year has four digits and no sign, and its fraction of a second
is one of microseconds. -/
structure Carried (v : Value) : Prop where
  scalar : v.isList = false
  dated : ∀ d ∈ v.date?, 0 ≤ d.year ∧ d.year ≤ 9999
  timed : ∀ t ∈ v.time?, t.nanosecond.val % 1000 = 0

/-- What the protocol delivers for a value. -/
def delivered : Value → Value
  | boolean b => int (if b then 1 else 0)
  | decimal d => bytes (Text.Utf8.encode d.text)
  | text s => bytes (Text.Utf8.encode s)
  | date d => datetime (.startOf d)
  | uuid u => bytes (Text.Utf8.encode u.simple)
  | v => v

end Value

namespace Calendar

theorem Date.of?_self (d : Date) : of? d.year d.month d.day = some d := dif_pos d.isDate

theorem Time.of?_self (t : Time) : of? t.hour.val t.minute.val t.second.val t.nanosecond.val = some t :=
  dif_pos ⟨t.hour.isLt, t.minute.isLt, t.second.isLt, t.nanosecond.isLt⟩

end Calendar

namespace WireValue

/-- A time of whole microseconds is read back from its microseconds. -/
theorem of?_microsecond {t : Time} (h : t.nanosecond.val % 1000 = 0) :
    Time.of? t.hour.val t.minute.val t.second.val (t.microsecond * 1000) = some t := by
  have hns : t.microsecond * 1000 = t.nanosecond.val := Nat.div_mul_cancel (Nat.dvd_of_mod_eq_zero h)
  rw [hns, Time.of?_self]

theorem exists_ofDateTime {d : DateTime} (hd : 0 ≤ d.date.year) (ht : d.time.nanosecond.val % 1000 = 0) :
    ∃ x, ofDateTime d = .ok x ∧ x.toValue = .ok (.datetime d) := by
  have hrange : ¬ (d.date.year < 0 ∨ 65535 < d.date.year) := by
    have := d.date.isDate.2.1
    omega
  refine ⟨_, if_neg hrange, ?_⟩
  rw [toValue, Int.toNat_of_nonneg hd, Date.of?_self, of?_microsecond ht]

/-- **A value that the protocol can carry has a form in it**, and the form is read as what is delivered for the
value. -/
theorem exists_ofValue {v : Value} (h : v.Carried) (hm : ∀ m, v ≠ .timestamp m) :
    ∃ x, ofValue v = .ok x ∧ x.toValue = .ok v.delivered := by
  cases v with
  | null => exact ⟨null, rfl, rfl⟩
  | boolean b => exact ⟨int _, rfl, rfl⟩
  | int n => exact ⟨int n, rfl, rfl⟩
  | uint n => exact ⟨uint n, rfl, rfl⟩
  | float x => exact ⟨double x, rfl, rfl⟩
  | decimal d => exact ⟨bytes _, rfl, rfl⟩
  | text s => exact ⟨bytes _, rfl, rfl⟩
  | bytes bs => exact ⟨bytes bs, rfl, rfl⟩
  | uuid u => exact ⟨bytes _, rfl, rfl⟩
  | date d => exact exists_ofDateTime (d := .startOf d) (h.dated d rfl).1 rfl
  | datetime d => exact exists_ofDateTime (h.dated d.date rfl).1 (h.timed d.time rfl)
  | timestamp m => exact absurd rfl (hm m)
  | time t =>
    refine ⟨_, rfl, ?_⟩
    rw [toValue, of?_microsecond (h.timed t rfl)]
    rfl
  | list items => cases h.scalar

end WireValue

/-! ## What fields read -/

namespace Uuid

/-- An identifier has 32 digits, so its text is not taken for its 16 bytes. -/
theorem length_encode_simple (u : Uuid) : (Text.Utf8.encode u.simple).length = 32 := by
  have hascii : ∀ c ∈ u.digits, c.toNat < 0x80 := by
    intro c hc
    obtain ⟨d, hd, rfl⟩ := Text.Hex.mem_digits hc
    exact (by decide : ∀ d < 16, (Text.Hex.digit d).toNat < 0x80) d hd
  rw [simple, Text.Utf8.encode_ofList_ascii hascii, List.length_map]
  exact Text.Hex.length_digits 32 _

end Uuid

namespace Value

theorem isNull_delivered (v : Value) : v.delivered.isNull = v.isNull := by
  cases v <;> rfl

theorem readBoolean_delivered (b : Bool) : (boolean b).delivered.readBoolean = .ok b := by
  cases b <;> rfl

theorem readString_delivered (s : String) : (text s).delivered.readString = .ok s := by
  rw [delivered, readString, Text.Utf8.decode_encode]

theorem decimal?_delivered (d : Decimal) : (decimal d).delivered.decimal? = Decimal.read d.text := by
  rw [delivered, decimal?, Text.Utf8.decode?_encode, Option.bind_some]

theorem uuid?_delivered (u : Uuid) : (text u.simple).delivered.uuid? = some u := by
  have hlength : ¬ (Text.Utf8.encode u.simple).length = 16 := by
    rw [u.length_encode_simple]
    decide
  rw [delivered, uuid?, if_neg hlength, Text.Utf8.decode?_encode, Option.bind_some, Uuid.read_simple]

end Value

namespace Field

variable {f : Field} {v w : Value}

/-- A field reads what is delivered for a bound value as it reads the bound value. -/
theorem agree_delivered (h : f.kind.Binds w) : (f.toApp w.delivered).Agree (f.toApp w) := by
  have hw : f.toApp w = f.scalarToApp w := toApp_of_not_null h.isNull
  have hd : f.toApp w.delivered = f.scalarToApp w.delivered :=
    toApp_of_not_null (w.isNull_delivered.trans h.isNull)
  generalize hk : f.kind = k at h
  cases h with
  -- these arrive as what they are
  | int n | uint n | float x | time t | datetime d | seconds n | unsigned n => exact Result.Agree.refl _
  | boolean b =>
    rw [hw, hd, scalarToApp, scalarToApp, hk]
    dsimp only
    rw [Value.readBoolean_delivered]
    exact Result.Agree.refl _
  | char s | varchar s | text s =>
    rw [hw, hd, scalarToApp, scalarToApp, hk]
    dsimp only
    rw [Value.readString_delivered]
    exact Result.Agree.refl _
  | date d =>
    rw [hw, hd, scalarToApp, scalarToApp, hk]
    exact Result.Agree.refl _
  | decimal d _ =>
    obtain ⟨e, he, hsame⟩ := d.exists_read_text
    rw [hw, hd, scalarToApp, scalarToApp, hk]
    dsimp only
    rw [Value.decimal?_delivered, he]
    exact .inr hsame
  | uuid u =>
    have hu : (Value.text u.simple).uuid? = some u := Uuid.read_simple u
    rw [hw, hd, scalarToApp, scalarToApp, hk]
    dsimp only
    rw [Value.uuid?_delivered, hu]
    exact Result.Agree.refl _

/-- No column binds a moment. -/
theorem ne_timestamp_of_binds {k : FieldKind} (h : k.Binds w) (m : Moment) : w ≠ .timestamp m := by
  rintro rfl
  cases h

/-- **Bound values survive the wire.** A value that a field binds, and that the protocol can carry, has a form in the
protocol that is read back, and the field reads from that what it reads from the bound value. -/
theorem agree_of_toWire (hv : f.toWire v = .ok w) (hw : w.Carried) :
    ∃ x r, WireValue.ofValue w = .ok x ∧ x.toValue = .ok r ∧ (f.toApp r).Agree (f.toApp w) := by
  have hlist : v.isList = false := by
    cases v with
    | list items =>
      obtain ⟨ws, -, rfl⟩ := map_eq_ok hv
      exact hw.scalar
    | _ => rfl
  cases hn : v.isNull with
  | true =>
    obtain rfl := Value.eq_null hn
    cases hv
    exact ⟨.null, .null, rfl, rfl, Result.Agree.refl _⟩
  | false =>
    rw [toWire_of_scalar hn hlist] at hv
    have hbinds := scalarToWire_binds hv
    obtain ⟨x, hx, hr⟩ := WireValue.exists_ofValue hw (ne_timestamp_of_binds hbinds)
    exact ⟨x, w.delivered, hx, hr, agree_delivered hbinds⟩

end Field

/-! ## Integers in more than one form -/

/-- The forms in which an integer arrives: its digits as text, or a number of 64 bits with or without sign. -/
inductive WireValue.Delivers (n : Int) : WireValue → Prop
  | digits : Delivers n (.bytes (Text.Utf8.encode (integerText n)))
  | signed (k : Int64) : k.toInt = n → Delivers n (.int k)
  | unsigned (k : UInt64) : (k.toNat : Int) = n → Delivers n (.uint k)

/-- A number without sign. -/
def WireValue.isUnsigned : WireValue → Bool
  | uint _ => true
  | _ => false

/-- The column holds integers, or values that are read from integers. -/
def FieldKind.readsIntegers : FieldKind → Bool
  | integer .. | boolean | timestamp _ => true
  | _ => false

/-- What a field reads from a form of the protocol. -/
def Field.received (f : Field) (x : WireValue) : Result Value := x.toValue >>= f.toApp

section Forms

variable {f : Field} {v w : Value} {n : Int} {x y : WireValue}

theorem isWide_of_bounds (hl : -Int.pow 2 63 ≤ n) (hu : n < Int.pow 2 64) : isWide n = true := by
  have h63 : Int.pow 2 63 = 9223372036854775808 := by decide
  have h64 : Int.pow 2 64 = 18446744073709551616 := by decide
  have h127 : Int.pow 2 127 = 170141183460469231731687303715884105728 := by decide
  rw [h63] at hl
  rw [h64] at hu
  rw [isWide, h127, Bool.and_eq_true, decide_eq_true_eq, decide_eq_true_eq]
  omega

/-- Each form is read as a value that denotes the integer. -/
theorem WireValue.Delivers.exists_toValue (h : x.Delivers n) (hl : -Int.pow 2 63 ≤ n) (hu : n < Int.pow 2 64) :
    ∃ v, x.toValue = .ok v ∧ v.integer? = some n := by
  cases h with
  | digits => exact ⟨_, rfl, readInteger_integerText (isWide_of_bounds hl hu)⟩
  | signed k hk => exact ⟨_, rfl, congrArg some hk⟩
  | unsigned k hk => exact ⟨_, rfl, congrArg some hk⟩

/-- A truth value is read from the integer that a value denotes. -/
theorem Value.toOption_readBoolean (h : v.integer? = some n) :
    v.readBoolean.toOption = if n = 0 then some false else if n = 1 then some true else none := by
  cases v with
  | boolean b =>
    cases b
    · cases h
      rfl
    · cases h
      rfl
  | _ =>
    unfold readBoolean
    dsimp only
    rw [h]
    by_cases h0 : n = 0
    · rw [h0]
      rfl
    by_cases h1 : n = 1
    · rw [h1]
      rfl
    rw [if_neg h0, if_neg h1]
    split
    · next heq => exact absurd (Option.some.inj heq) h0
    · next heq => exact absurd (Option.some.inj heq) h1
    · rfl

/-- The moment that clocks show for a number of seconds. -/
def Clocks.moment? (clocks : Clocks) (n : Int) : Option Moment := do
  let seconds ← Value.int64? n
  let m ← Moment.ofUnixSeconds? seconds.toInt
  m.at? clocks.ahead

/-- An instant is read from the integer that a value denotes. -/
theorem Field.toOption_appTimestamp (clocks : Clocks) (h : v.integer? = some n) :
    (f.appTimestamp clocks v).toOption = clocks.moment? n := by
  unfold appTimestamp instant Clocks.moment?
  cases v with
  -- neither an instant nor a date and time denotes an integer
  | timestamp | datetime => cases h
  | _ =>
    dsimp only
    rw [h, Option.bind_some]
    cases Value.int64? n with
    | none => rfl
    | some k =>
      rw [take, Result.ok_bind]
      show _ = Moment.ofUnixSeconds? k.toInt >>= fun m => m.at? clocks.ahead
      cases Moment.ofUnixSeconds? k.toInt with
      | none => rfl
      | some m =>
        show (orPanic (m.at? clocks.ahead)).toOption = m.at? clocks.ahead
        cases m.at? clocks.ahead <;> rfl

/-- A column of truth values or of instants reads a value by the integer that it denotes. -/
theorem Field.agree_of_integer? (hk : f.kind.readsIntegers = true) (hi : f.kind.isInteger = false)
    (hv : v.integer? = some n) (hw : w.integer? = some n) : (f.toApp v).Agree (f.toApp w) := by
  have hboolean {v : Value} (h : v.integer? = some n) (hb : f.kind = .boolean) : (f.toApp v).toOption =
      (if n = 0 then some false else if n = 1 then some true else none).map Value.boolean := by
    rw [toApp_of_not_null (Value.isNull_of_integer? h), scalarToApp, hb, ← Value.toOption_readBoolean h]
    dsimp only
    cases v.readBoolean <;> rfl
  have htimestamp {v : Value} {clocks : Clocks} (h : v.integer? = some n) (ht : f.kind = .timestamp clocks) :
      (f.toApp v).toOption = (clocks.moment? n).map Value.timestamp := by
    rw [toApp_of_not_null (Value.isNull_of_integer? h), scalarToApp, ht, ← toOption_appTimestamp (f := f) clocks h]
    dsimp only
    cases f.appTimestamp clocks v <;> rfl
  refine Result.agree_of_toOption_eq ?_
  cases hkind : f.kind with
  | boolean => rw [hboolean hv hkind, hboolean hw hkind]
  | timestamp clocks => rw [htimestamp hv hkind, htimestamp hw hkind]
  | integer size length =>
    rw [hkind] at hi
    cases hi
  | _ =>
    rw [hkind] at hk
    cases hk

/-- The value that a column of integers reads: without sign if the number came so or has no other form. -/
def Value.ofInteger (isUnsigned : Bool) (n : Int) : Value :=
  if isUnsigned = true ∨ Int.pow 2 63 ≤ n then uint (UInt64.ofNat n.toNat) else int (Int64.ofInt n)

theorem Value.ofInteger_unsigned (n : Int) : ofInteger true n = uint (UInt64.ofNat n.toNat) := if_pos (.inl rfl)

theorem Value.ofInteger_of_le (h : Int.pow 2 63 ≤ n) (isUnsigned : Bool) :
    ofInteger isUnsigned n = uint (UInt64.ofNat n.toNat) := if_pos (.inr h)

theorem Value.ofInteger_of_lt (h : n < Int.pow 2 63) : ofInteger false n = int (Int64.ofInt n) := by
  refine if_neg fun hform => ?_
  rcases hform with hu | hle
  · cases hu
  · exact absurd h (Int.not_lt.2 hle)

/-- A number with a sign is not equal to one without. -/
theorem Result.not_agree_int_uint (m : Int64) (k : UInt64) :
    ¬ Result.Agree (.ok (.int m)) (.ok (.uint k)) ∧ ¬ Result.Agree (.ok (.uint k)) (.ok (.int m)) := by
  constructor
  all_goals
    rintro (h | h)
    · cases h
    · simp [Value.same] at h

theorem Value.int64?_of_lt (hl : -Int.pow 2 63 ≤ n) (h : n < Int.pow 2 63) : int64? n = some (Int64.ofInt n) :=
  if_pos ⟨hl, h⟩

theorem Value.int64?_of_le (h : Int.pow 2 63 ≤ n) : int64? n = none := if_neg fun hb => absurd hb.2 (Int.not_lt.2 h)

theorem Value.uint64?_of_lt (h0 : 0 ≤ n) (h : n < Int.pow 2 64) : uint64? n = some (UInt64.ofNat n.toNat) :=
  if_pos ⟨h0, h⟩

/-- Digits are read as a number with a sign, or as one without if it is too large. -/
theorem Field.appInteger_digits (h : isWide n = true) : f.appInteger (.bytes (Text.Utf8.encode (integerText n))) =
    f.take (.bytes (Text.Utf8.encode (integerText n))) "an integer"
      (((Value.int64? n).map Value.int).or ((Value.uint64? n).map Value.uint)) := by
  have htext : (Value.bytes (Text.Utf8.encode (integerText n))).asText? = some (integerText n) :=
    Text.Utf8.decode?_encode _
  unfold appInteger
  dsimp only
  rw [htext, Option.bind_some, readInteger_integerText h]

/-- A column of integers passes a number on in the form that it came in, and reads digits with a sign if it can. -/
theorem Field.received_integer (hk : f.kind.isInteger = true) (hl : -Int.pow 2 63 ≤ n) (hu : n < Int.pow 2 64)
    (hx : x.Delivers n) : f.received x = .ok (Value.ofInteger x.isUnsigned n) := by
  cases hx with
  | digits =>
    show f.toApp (.bytes (Text.Utf8.encode (integerText n))) = .ok (Value.ofInteger false n)
    rw [toApp_of_integer hk rfl, appInteger_digits (isWide_of_bounds hl hu)]
    by_cases hn : n < Int.pow 2 63
    · rw [Value.int64?_of_lt hl hn, Value.ofInteger_of_lt hn]
      rfl
    · have hn' : Int.pow 2 63 ≤ n := Int.not_lt.1 hn
      have h0 : 0 ≤ n := Int.le_trans (by decide) hn'
      rw [Value.int64?_of_le hn', Value.uint64?_of_lt h0 hu, Value.ofInteger_of_le hn']
      rfl
  | signed k hkn =>
    have hn : n < Int.pow 2 63 := hkn ▸ k.toInt_lt
    show f.toApp (.int k) = .ok (Value.ofInteger false n)
    rw [toApp_of_integer hk rfl, Value.ofInteger_of_lt hn, ← hkn, Int64.ofInt_toInt]
    rfl
  | unsigned k hkn =>
    show f.toApp (.uint k) = .ok (Value.ofInteger true n)
    rw [toApp_of_integer hk rfl, Value.ofInteger_unsigned, ← hkn, Int.toNat_natCast, UInt64.ofNat_toNat]
    rfl

theorem WireValue.Delivers.nonneg (h : x.Delivers n) (hx : x.isUnsigned = true) : 0 ≤ n := by
  cases h with
  | digits => cases hx
  | signed k hk => cases hx
  | unsigned k hk =>
    rw [← hk]
    exact Int.natCast_nonneg _

/-- Both forms are of the number. -/
theorem Value.integer?_ofInteger {isUnsigned : Bool} (hl : -Int.pow 2 63 ≤ n) (hu : n < Int.pow 2 64)
    (h : isUnsigned = true → 0 ≤ n) : (ofInteger isUnsigned n).integer? = some n := by
  unfold ofInteger
  split
  · next hform =>
    exact integer?_uint_ofNat (hform.elim h (Int.le_trans (by decide))) hu
  · next hform =>
    exact integer?_int_ofInt hl (Int.not_le.1 fun hn => hform (.inr hn))

/-- **Forms of one integer and what columns read from them.** Whatever forms an integer of 64 bits arrives in, a column
of truth values or of instants reads the same. A column of integers reads the number in each of them, but as equal
values only if both forms are without sign or neither is, or the number is too large for a sign. -/
theorem Field.received_agree_iff (hk : f.kind.readsIntegers = true) (hl : -Int.pow 2 63 ≤ n) (hu : n < Int.pow 2 64)
    (hx : x.Delivers n) (hy : y.Delivers n) :
    ((f.received x).Agree (f.received y) ↔
      (f.kind.isInteger = true → n < Int.pow 2 63 → x.isUnsigned = y.isUnsigned)) ∧
    (f.kind.isInteger = true → ∃ a, f.received x = .ok a ∧ a.integer? = some n) := by
  cases hi : f.kind.isInteger with
  | false =>
    obtain ⟨v, hv, hvn⟩ := hx.exists_toValue hl hu
    obtain ⟨w, hw, hwn⟩ := hy.exists_toValue hl hu
    have hagree : (f.received x).Agree (f.received y) := by
      rw [received, received, hv, hw]
      exact agree_of_integer? hk hi hvn hwn
    exact ⟨⟨fun _ h => (by cases h), fun _ => hagree⟩, fun h => (by cases h)⟩
  | true =>
    rw [received_integer hi hl hu hx, received_integer hi hl hu hy]
    refine ⟨⟨fun hagree _ hn => ?_, fun h => ?_⟩, fun _ => ⟨_, rfl, Value.integer?_ofInteger hl hu hx.nonneg⟩⟩
    · cases hux : x.isUnsigned <;> cases huy : y.isUnsigned
      · rfl
      · rw [hux, huy, Value.ofInteger_of_lt hn, Value.ofInteger_unsigned] at hagree
        exact absurd hagree (Result.not_agree_int_uint _ _).1
      · rw [hux, huy, Value.ofInteger_of_lt hn, Value.ofInteger_unsigned] at hagree
        exact absurd hagree (Result.not_agree_int_uint _ _).2
      · rfl
    · by_cases hn : n < Int.pow 2 63
      · rw [h rfl hn]
        exact Result.Agree.refl _
      · have hn' : Int.pow 2 63 ≤ n := Int.not_lt.1 hn
        rw [Value.ofInteger_of_le hn', Value.ofInteger_of_le hn']
        exact Result.Agree.refl _

end Forms

namespace Sample

/-- A number of 64 bits without sign. -/
def total : Field := named "total" (Field.integer .big).unsigned

end Sample

/-- A day arrives as a date and time, and is read as the day. -/
theorem agree_of_toWire_leapDay : Field.date.toWire (.date Sample.leapDay) = .ok (.date Sample.leapDay) ∧
    (Value.date Sample.leapDay).Carried ∧
    ∃ x r, WireValue.ofValue (.date Sample.leapDay) = .ok x ∧ x.toValue = .ok r ∧
      (Field.date.toApp r).Agree (Field.date.toApp (.date Sample.leapDay)) := by
  have hcarried : (Value.date Sample.leapDay).Carried := by
    refine ⟨rfl, fun d hd => ?_, fun t ht => (by cases ht)⟩
    cases hd
    decide
  exact ⟨rfl, hcarried, Field.agree_of_toWire (v := .date Sample.leapDay) rfl hcarried⟩

/-- The largest number of 64 bits is read alike from its digits and without a sign. -/
theorem received_agree_total :
    (WireValue.bytes (Text.Utf8.encode "18446744073709551615")).Delivers 18446744073709551615 ∧
    (WireValue.uint 18446744073709551615).Delivers 18446744073709551615 ∧
    (Sample.total.received (.bytes (Text.Utf8.encode "18446744073709551615"))).Agree
      (Sample.total.received (.uint 18446744073709551615)) := by
  have htext : integerText 18446744073709551615 = "18446744073709551615" := by decide
  have hdigits := htext ▸ WireValue.Delivers.digits (n := 18446744073709551615)
  have hunsigned := WireValue.Delivers.unsigned (n := 18446744073709551615) 18446744073709551615 rfl
  have hagree := (Field.received_agree_iff (f := Sample.total) rfl (by decide) (by decide) hdigits hunsigned).1
  exact ⟨hdigits, hunsigned, hagree.2 fun _ h => absurd h (by decide)⟩

/-- Five as text is a number with a sign, and so it is not the five that came without one. -/
theorem not_agree_total : (WireValue.bytes [0x35]).Delivers 5 ∧ (WireValue.uint 5).Delivers 5 ∧
    ¬ (Sample.total.received (.bytes [0x35])).Agree (Sample.total.received (.uint 5)) := by
  have hfive : Text.Utf8.encode (integerText 5) = [0x35] := by decide
  have hdigits : (WireValue.bytes [0x35]).Delivers 5 := hfive ▸ .digits
  have hunsigned : (WireValue.uint 5).Delivers 5 := .unsigned 5 rfl
  refine ⟨hdigits, hunsigned, ?_⟩
  rw [Field.received_integer rfl (by decide) (by decide) hdigits,
    Field.received_integer rfl (by decide) (by decide) hunsigned]
  exact (Result.not_agree_int_uint _ _).1

end SqlMapper
