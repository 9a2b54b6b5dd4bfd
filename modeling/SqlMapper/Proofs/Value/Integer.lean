import Mathlib.Data.Nat.Digits.Lemmas
import SqlMapper.Proofs.Number.Integer
import SqlMapper.Proofs.Result
import SqlMapper.Value.Conversion

/-!
# Integers in text

The text of an integer is a sign or none and then digits, one at least, and denotes the number that the digits have by
their places (`Number.Denotes`). The reader builds the number up from the left and comes to the same
(`readDigits_eq_some_iff`). It reads whatever is the text of a number of 128 bits, and besides a sign alone and the
empty text, as zero (`readInteger_eq_some_iff`). Every native type has fewer bits, so that its own range decides which
texts are read (`Value.readInteger_eq_ok_iff`).
-/

namespace SqlMapper.Number

variable {b : UInt8} {bs digits : List UInt8} {m d : Nat} {n : Int}

/-! ## Digits -/

/-- A decimal digit. -/
def IsDigit (b : UInt8) : Prop := 48 ≤ b.toNat ∧ b.toNat ≤ 57

/-- The number that digits denote by their places, the last one for units. -/
def positional (digits : List UInt8) : Nat := Nat.ofDigits 10 (digits.reverse.map fun b => b.toNat - 48)

theorem positional_cons : positional (b :: digits) = (b.toNat - 48) * 10 ^ digits.length + positional digits := by
  rw [positional, List.reverse_cons, List.map_append, Nat.ofDigits_append, List.length_map, List.length_reverse,
    List.map_singleton, Nat.ofDigits_singleton, Nat.mul_comm, Nat.add_comm]
  rfl

theorem digitValue?_eq_some_iff : digitValue? b = some d ↔ IsDigit b ∧ d = b.toNat - 48 := by
  have hdigit : (decide ((48 : UInt8) ≤ b) && decide (b ≤ 57)) = true ↔ IsDigit b := by
    rw [Bool.and_eq_true, decide_eq_true_eq, decide_eq_true_eq, UInt8.le_iff_toNat_le, UInt8.le_iff_toNat_le]
    rfl
  unfold digitValue?
  split
  · next h =>
    rw [Option.some.injEq, eq_comm]
    exact (and_iff_right (hdigit.1 h)).symm
  · next h => exact ⟨nofun, fun hb => absurd (hdigit.2 hb.1) h⟩

/-- The digits that continue a number move it to the left by one place each. -/
theorem readDigits_eq_some_iff : ∀ {digits : List UInt8} {m : Nat}, readDigits m digits = some d ↔
    (∀ b ∈ digits, IsDigit b) ∧ d = m * 10 ^ digits.length + positional digits
  | [], m => by
    have hvalue : m * 10 ^ ([] : List UInt8).length + positional [] = m := Nat.mul_one m
    rw [readDigits, Option.some.injEq, hvalue, eq_comm]
    exact (and_iff_right fun _ hb => absurd hb List.not_mem_nil).symm
  | b :: digits, m => by
    have hvalue : (m * 10 + (b.toNat - 48)) * 10 ^ digits.length + positional digits =
        m * 10 ^ (b :: digits).length + positional (b :: digits) := by
      rw [positional_cons, List.length_cons, pow_succ]
      ring
    rw [readDigits, Option.bind_eq_some_iff, List.forall_mem_cons, ← hvalue]
    constructor
    · rintro ⟨e, he, h⟩
      obtain ⟨hb, rfl⟩ := digitValue?_eq_some_iff.1 he
      obtain ⟨hdigits, hd⟩ := readDigits_eq_some_iff.1 h
      exact ⟨⟨hb, hdigits⟩, hd⟩
    · rintro ⟨⟨hb, hdigits⟩, hd⟩
      exact ⟨_, digitValue?_eq_some_iff.2 ⟨hb, rfl⟩, readDigits_eq_some_iff.2 ⟨hdigits, hd⟩⟩

/-! ## Signs -/

/-- What may stand in front of digits. -/
inductive Sign where
  | none
  | plus
  | minus
deriving DecidableEq, Repr

namespace Sign

/-- The sign as it is written. -/
def bytes : Sign → List UInt8
  | none => []
  | plus => [0x2b]
  | minus => [0x2d]

/-- The integer with the sign. -/
def applied : Sign → Nat → Int
  | minus, n => -(n : Int)
  | none, n | plus, n => n

end Sign

/-- The bytes are a sign or none and then digits, one at least, and denote the integer. -/
def Denotes (bs : List UInt8) (n : Int) : Prop :=
  ∃ (sign : Sign) (digits : List UInt8), digits ≠ [] ∧ (∀ b ∈ digits, IsDigit b) ∧ bs = sign.bytes ++ digits ∧
    n = sign.applied (positional digits)

/-- The bytes are a sign or none, and nothing else. -/
def Digitless (bs : List UInt8) : Prop := ∃ sign : Sign, bs = sign.bytes

/-! ## Reading -/

/-- No digit is a sign. -/
theorem IsDigit.ne_sign (h : IsDigit b) : b ≠ 0x2d ∧ b ≠ 0x2b := by
  constructor
  all_goals
    rintro rfl
    exact absurd h.1 (by decide)

/-- A sign and the digits behind it are read as the number with the sign, if it is not too large. -/
theorem readInteger_sign_append (sign : Sign) (h : ∀ b ∈ digits, IsDigit b) :
    readInteger (sign.bytes ++ digits) = (some (sign.applied (positional digits))).filter isWide := by
  have hread : readDigits 0 digits = some (positional digits) :=
    readDigits_eq_some_iff.2 ⟨h, by rw [Nat.zero_mul, Nat.zero_add]⟩
  cases sign with
  | none => exact readInteger_of_digits hread
  | plus | minus =>
    rw [Sign.bytes, List.singleton_append, readInteger, hread]
    rfl

/-- What stands behind the sign of a text is read as digits, whatever the text is. -/
theorem exists_readInteger_eq (bs : List UInt8) : ∃ (sign : Sign) (digits : List UInt8),
    bs = sign.bytes ++ digits ∧ readInteger bs = ((readDigits 0 digits).map sign.applied).filter isWide := by
  unfold readInteger
  split
  · next digits => exact ⟨.minus, digits, rfl, by cases readDigits 0 digits <;> rfl⟩
  · exact ⟨.plus, _, rfl, rfl⟩
  · exact ⟨.none, _, rfl, rfl⟩

/-- What is read is a sign or none and then digits. -/
theorem exists_sign_of_readInteger (h : readInteger bs = some n) :
    ∃ (sign : Sign) (digits : List UInt8), (∀ b ∈ digits, IsDigit b) ∧ bs = sign.bytes ++ digits := by
  obtain ⟨sign, digits, rfl, hread⟩ := exists_readInteger_eq bs
  rw [hread, Option.filter_eq_some_iff, Option.map_eq_some_iff] at h
  obtain ⟨⟨d, hd, -⟩, -⟩ := h
  exact ⟨sign, digits, (readDigits_eq_some_iff.1 hd).1, rfl⟩

/-- **What is read as an integer**: the text of a number of 128 bits, and zero where there is no digit. -/
theorem readInteger_eq_some_iff : readInteger bs = some n ↔
    Denotes bs n ∧ isWide n = true ∨ Digitless bs ∧ n = 0 := by
  have hzero (sign : Sign) : (some (sign.applied (positional []))).filter isWide = some 0 := by cases sign <;> decide
  constructor
  · intro h
    obtain ⟨sign, digits, hdigits, rfl⟩ := exists_sign_of_readInteger h
    rw [readInteger_sign_append sign hdigits] at h
    by_cases hnil : digits = []
    · subst hnil
      rw [hzero, Option.some.injEq] at h
      exact .inr ⟨⟨sign, List.append_nil _⟩, h.symm⟩
    · obtain ⟨hn, hwide⟩ := Option.filter_eq_some_iff.1 h
      exact .inl ⟨⟨sign, digits, hnil, hdigits, rfl, (Option.some.inj hn).symm⟩, hwide⟩
  · rintro (⟨⟨sign, digits, -, hdigits, rfl, rfl⟩, hwide⟩ | ⟨⟨sign, rfl⟩, rfl⟩)
    · rw [readInteger_sign_append sign hdigits, Option.filter_some, if_pos hwide]
    · rw [← List.append_nil sign.bytes, readInteger_sign_append sign fun _ hb => absurd hb List.not_mem_nil, hzero]

end SqlMapper.Number

namespace SqlMapper

open Number

/-- The numbers of every native type fit into 128 bits. -/
theorem IntegerType.isWide_of_holds {t : IntegerType} {n : Int} (h : t.holds n = true) : isWide n = true := by
  have h127 : Int.pow 2 127 = 170141183460469231731687303715884105728 := by decide
  have hpow {k : Nat} (hk : k ≤ 64) : Int.pow 2 k ≤ 18446744073709551616 := by
    have hle : (2 : Int) ^ k ≤ 2 ^ 64 := pow_le_pow_right₀ (by decide) hk
    exact hle
  have hbits : t.bits ≤ 64 := by cases t <;> decide
  have hlow := hpow hbits
  have hhalf := hpow ((Nat.sub_le t.bits 1).trans hbits)
  rw [isWide, h127, Bool.and_eq_true, decide_eq_true_eq, decide_eq_true_eq]
  unfold holds at h
  split at h
  · rw [Bool.and_eq_true, decide_eq_true_eq, decide_eq_true_eq] at h
    omega
  · rw [Bool.and_eq_true, decide_eq_true_eq, decide_eq_true_eq] at h
    omega

/-- Zero is a number of every native type. -/
theorem IntegerType.holds_zero (t : IntegerType) : t.holds 0 = true := by cases t <;> decide

namespace Value

/-- A native type is read exactly from the values that denote one of its numbers. -/
theorem readInteger_eq_ok {t : IntegerType} {v : Value} {n : Int} :
    v.readInteger t = .ok n ↔ v.integer? = some n ∧ t.holds n = true := by
  unfold readInteger
  cases hv : v.integer? with
  | none => exact ⟨nofun, nofun⟩
  | some m =>
    dsimp only
    rw [Option.some.injEq]
    cases hm : t.holds m with
    | true =>
      rw [if_pos rfl, Except.ok.injEq]
      exact ⟨fun h => ⟨h, h ▸ hm⟩, And.left⟩
    | false =>
      rw [if_neg Bool.false_ne_true]
      refine ⟨fun h => absurd h Result.fail_ne_ok, ?_⟩
      rintro ⟨rfl, h⟩
      exact absurd (hm.symm.trans h) Bool.false_ne_true

/-- **Native integers are read exactly** from bytes and from text: a sign or none, digits, one at least, and nothing
else, is read as the number that it denotes, if the type has it. The empty text and a sign alone are read as zero.
Nothing else is read. -/
theorem readInteger_eq_ok_iff (t : IntegerType) (n : Int) :
    (∀ bs : List UInt8, (bytes bs).readInteger t = .ok n ↔
      Denotes bs n ∧ t.holds n = true ∨ Digitless bs ∧ n = 0) ∧
    ∀ s : String, (text s).readInteger t = .ok n ↔
      Denotes (Text.Utf8.encode s) n ∧ t.holds n = true ∨ Digitless (Text.Utf8.encode s) ∧ n = 0 := by
  have hread {v : Value} {bs : List UInt8} (hv : v.integer? = Number.readInteger bs) :
      v.readInteger t = .ok n ↔ Denotes bs n ∧ t.holds n = true ∨ Digitless bs ∧ n = 0 := by
    rw [readInteger_eq_ok, hv, readInteger_eq_some_iff]
    constructor
    · rintro ⟨⟨hn, -⟩ | h, ht⟩
      · exact .inl ⟨hn, ht⟩
      · exact .inr h
    · rintro (⟨hn, ht⟩ | ⟨hbs, rfl⟩)
      · exact ⟨.inl ⟨hn, t.isWide_of_holds ht⟩, ht⟩
      · exact ⟨.inr ⟨hbs, rfl⟩, t.holds_zero⟩
  exact ⟨fun _ => hread rfl, fun _ => hread rfl⟩

/-- No integer is written without a digit, but the empty text and a sign alone are read. -/
theorem digitless_read : (¬ ∃ n, Denotes (Text.Utf8.encode "") n) ∧ (¬ ∃ n, Denotes (Text.Utf8.encode "-") n) ∧
    (text "").readInteger .i32 = .ok 0 ∧ (text "-").readInteger .u8 = .ok 0 := by
  refine ⟨?_, ?_, rfl, rfl⟩
  · rintro ⟨n, sign, digits, hne, -, h, -⟩
    exact hne (List.append_eq_nil_iff.1 h.symm).2
  · rintro ⟨n, sign, digits, hne, hdigits, h, -⟩
    cases sign with
    | none =>
      have hmem : (0x2d : UInt8) ∈ digits := by
        rw [show digits = [0x2d] from h.symm]
        exact List.mem_cons_self
      exact (hdigits _ hmem).ne_sign.1 rfl
    | plus => cases h
    | minus => exact hne (List.cons.inj h).2.symm

end Value

end SqlMapper
