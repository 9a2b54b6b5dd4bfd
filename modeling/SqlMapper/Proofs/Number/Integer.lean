import Mathlib.Data.Nat.Digits.Defs
import SqlMapper.Number.Integer
import SqlMapper.Proofs.Text.Utf8

/-!
# Integers are read back from their text

Decimal digits have the value that they are read as (`readDigits_map`), the digits of a number have its value
(`readDigits_encode_repr`), and an integer that 128 bits hold is read back from its text (`readInteger_integerText`).
Zeros in front of a number do not change it (`ofDigitChars_paddedDigits`).
-/

namespace SqlMapper.Number

/-- A character as the byte that stands for it in a text of ASCII characters. -/
def asciiByte (c : Char) : UInt8 := UInt8.ofNat c.toNat

theorem toNat_of_isDigit {c : Char} (h : c.isDigit = true) : 48 ≤ c.toNat ∧ c.toNat ≤ 57 := Char.isDigit_iff_toNat.1 h

theorem digitValue?_asciiByte {c : Char} (h : c.isDigit = true) : digitValue? (asciiByte c) = some (c.toNat - 48) := by
  obtain ⟨hl, hu⟩ := toNat_of_isDigit h
  have hrange : (decide ((48 : UInt8) ≤ asciiByte c) && decide (asciiByte c ≤ 57)) = true :=
    Text.Utf8.byte_between (m := 48) (n := 57) hl hu (by decide)
  rw [digitValue?, if_pos hrange, asciiByte, Text.Utf8.toNat_byte (by omega)]

/-- Digits continue a number by their value. -/
theorem readDigits_map : ∀ {cs : List Char} (value : Nat), (∀ c ∈ cs, c.isDigit = true) →
    readDigits value (cs.map asciiByte) = some (Nat.ofDigitChars 10 cs value)
  | [], _, _ => rfl
  | c :: cs, value, h => by
    have ih := readDigits_map (value * 10 + (c.toNat - 48)) fun d hd => h d (List.mem_cons_of_mem c hd)
    rw [List.map_cons, readDigits, digitValue?_asciiByte (h c List.mem_cons_self), Option.bind_some, ih,
      Nat.ofDigitChars_cons, Nat.mul_comm]
    rfl

/-- The digits of a number are ASCII characters. -/
theorem encode_repr (n : Nat) : Text.Utf8.encode (Nat.repr n) = (Nat.toDigits 10 n).map asciiByte := by
  have hascii : ∀ c ∈ Nat.toDigits 10 n, c.toNat < 0x80 := fun c hc => by
    have := toNat_of_isDigit (Nat.isDigit_of_mem_toDigits (by decide) (by decide) hc)
    omega
  exact Text.Utf8.encode_ofList_ascii hascii

theorem readDigits_encode_repr (n : Nat) : readDigits 0 (Text.Utf8.encode (Nat.repr n)) = some n := by
  rw [encode_repr, readDigits_map 0 fun c hc => Nat.isDigit_of_mem_toDigits (by decide) (by decide) hc,
    Nat.ofDigitChars_ten_toDigits]

/-- The text of a number begins with a digit, not with a sign. -/
theorem readInteger_of_digits {bs : List UInt8} {n : Nat} (h : readDigits 0 bs = some n) :
    readInteger bs = (some (n : Int)).filter isWide := by
  unfold readInteger
  split
  · cases h
  · cases h
  · rw [h]
    rfl

/-- **An integer is read back from its text.** -/
theorem readInteger_integerText {n : Int} (h : isWide n = true) :
    readInteger (Text.Utf8.encode (integerText n)) = some n := by
  unfold integerText
  split
  · next hneg =>
    have hminus : Text.Utf8.encode "-" = [0x2d] := by decide
    have hn : -(n.natAbs : Int) = n := by omega
    rw [Text.Utf8.encode_append, hminus, List.singleton_append, readInteger,
      readDigits_encode_repr]
    show (some (-(n.natAbs : Int))).filter isWide = some n
    rw [hn, Option.filter_some, if_pos h]
  · next hpos =>
    have hn : (n.natAbs : Int) = n := by omega
    rw [readInteger_of_digits (readDigits_encode_repr n.natAbs), hn, Option.filter_some, if_pos h]

/-! ## Numbers of a fixed width -/

/-- The digits of a number, behind zeros up to a width. -/
def paddedDigits (width n : Nat) : List Char :=
  List.replicate (width - (Nat.toDigits 10 n).length) '0' ++ Nat.toDigits 10 n

variable {width n : Nat}

theorem padded_eq (width n : Nat) : padded width n = String.ofList (paddedDigits width n) := by
  simp [padded, paddedDigits, Nat.repr]

theorem isDigit_of_mem_paddedDigits {c : Char} (h : c ∈ paddedDigits width n) : c.isDigit = true := by
  rcases List.mem_append.1 h with h | h
  · rw [List.eq_of_mem_replicate h]
    rfl
  · exact Nat.isDigit_of_mem_toDigits (by decide) (by decide) h

theorem encode_padded (width n : Nat) : Text.Utf8.encode (padded width n) = (paddedDigits width n).map asciiByte := by
  have hascii : ∀ c ∈ paddedDigits width n, c.toNat < 0x80 := fun c hc => by
    have := toNat_of_isDigit (isDigit_of_mem_paddedDigits hc)
    omega
  rw [padded_eq]
  exact Text.Utf8.encode_ofList_ascii hascii

theorem ofDigitChars_paddedDigits (width n : Nat) : Nat.ofDigitChars 10 (paddedDigits width n) 0 = n := by
  rw [paddedDigits, Nat.ofDigitChars_append, Nat.ofDigitChars_replicate_zero, Nat.mul_zero,
    Nat.ofDigitChars_ten_toDigits]

/-- A number that is not too long for the width fills it. -/
theorem length_paddedDigits (hw : 0 < width) (hn : n < 10 ^ width) : (paddedDigits width n).length = width := by
  have hlength : (Nat.toDigits 10 n).length ≤ width := Nat.toDigits_length 10 n width hw hn
  rw [paddedDigits, List.length_append, List.length_replicate]
  omega

theorem paddedDigits_ne_nil (width n : Nat) : paddedDigits width n ≠ [] := by
  simp [paddedDigits, Nat.toDigits_ne_nil]

end SqlMapper.Number
