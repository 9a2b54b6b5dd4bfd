import SqlMapper.Uuid

/-!
# Hexadecimal digits are read back

The digits of a number have its value (`Hex.value?_digits`), as far as there are enough of them, and an identifier is
read back from its 32 digits (`Uuid.read_simple`).
-/

namespace SqlMapper

namespace Text.Hex

theorem digitValue?_digit : ∀ n < 16, digitValue? (digit n) = some n := by decide

theorem mem_digits {c : Char} : ∀ {count n : Nat}, c ∈ digits count n → ∃ d < 16, c = digit d
  | 0, _, h => absurd h List.not_mem_nil
  | count + 1, n, h => by
    rcases List.mem_append.1 h with h | h
    · exact mem_digits h
    · exact ⟨n % 16, Nat.mod_lt n (by decide), List.mem_singleton.1 h⟩

@[simp] theorem length_digits (count n : Nat) : (digits count n).length = count := by
  induction count generalizing n with
  | zero => rfl
  | succ count ih => rw [digits, List.length_append, ih, List.length_singleton]

/-- One more digit behind the others. -/
theorem value?_append_digit (cs : List Char) {d : Nat} (hd : d < 16) :
    value? (cs ++ [digit d]) = (value? cs).map fun n => n * 16 + d := by
  rw [value?, List.foldl_append, List.foldl_cons, List.foldl_nil, digitValue?_digit d hd]
  exact Option.map_eq_bind.symm

/-- The last digits of a number have its value up to a multiple of a power. -/
theorem value?_digits (count n : Nat) : value? (digits count n) = some (n % Nat.pow 16 count) := by
  induction count generalizing n with
  | zero => exact congrArg some (Nat.mod_one n).symm
  | succ count ih =>
    have hsplit : n % (Nat.pow 16 count * 16) = n / 16 % Nat.pow 16 count * 16 + n % 16 := by
      rw [Nat.mul_comm, Nat.mod_mul, Nat.add_comm, Nat.mul_comm]
    rw [digits, value?_append_digit _ (Nat.mod_lt n (by decide)), ih, Option.map_some, ← hsplit]
    rfl

end Text.Hex

namespace Uuid

/-- An identifier is read back from its digits. -/
theorem read_simple (u : Uuid) : read u.simple = some u := by
  have hlength : u.digits.length = 32 := Text.Hex.length_digits 32 _
  have hlt : u.bits.toNat < Nat.pow 16 32 := u.bits.isLt
  have hvalue : Text.Hex.value? u.digits = some u.bits.toNat := by
    rw [digits, Text.Hex.value?_digits, Nat.mod_eq_of_lt hlt]
  unfold read simple
  rw [String.toList_ofList]
  dsimp only
  rw [if_pos hlength, ofDigits?, if_pos hlength, hvalue, Option.map_some, BitVec.ofNat_toNat, BitVec.setWidth_eq]

end Uuid

end SqlMapper
