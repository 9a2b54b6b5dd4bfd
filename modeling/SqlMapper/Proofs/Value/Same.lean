import Mathlib.Tactic.Ring
import SqlMapper.Field.Wire
import SqlMapper.Value.Conversion

/-!
# Values that compare equal

Values that compare equal are one value, or they are of one kind that compares by what it denotes (`Value.same_cases`):
floating point numbers, decimals and moments. So equal scalars are transitively equal (`Value.same_trans`) and denote
one integer, if any (`Value.integer?_of_same`).
-/

namespace SqlMapper

open Number Calendar

/-! ## Numbers -/

section Floats

open Float.Model

variable {a b c : UnpackedFloat}

/-- Exponents are compared before mantissas. -/
theorem eq_of_then_compare {e e' : Int} {m m' : Nat} (h : (compare e e').then (compare m m') = .eq) :
    e = e' ∧ m = m' := by
  rw [Ordering.then_eq_eq] at h
  exact ⟨Std.LawfulEqOrd.eq_of_compare h.1, Std.LawfulEqOrd.eq_of_compare h.2⟩

/-- Numbers that compare equal are one number, or both are zero. -/
theorem eq_or_zero_of_compare (h : a.compare b = some .eq) : a = b ∨ ∃ s s', a = .zero s ∧ b = .zero s' := by
  cases a with
  | notANumber => cases b <;> cases h
  | zero s =>
    cases b with
    | zero s' => exact .inr ⟨s, s', rfl, rfl⟩
    | notANumber => cases h
    | infinity s' | finite s' => cases s' <;> cases h
  | infinity s =>
    cases b with
    | infinity s' =>
      cases s <;> cases s'
      · exact .inl rfl
      · cases h
      · cases h
      · exact .inl rfl
    | notANumber => cases s <;> cases h
    | zero s' | finite s' => cases s <;> cases h
  | finite s m e hm =>
    cases b with
    | finite s' m' e' hm' =>
      cases s <;> cases s'
      · obtain ⟨rfl, rfl⟩ := eq_of_then_compare (Ordering.swap_eq_eq.1 (Option.some.inj h))
        exact .inl rfl
      · cases h
      · cases h
      · obtain ⟨rfl, rfl⟩ := eq_of_then_compare (Option.some.inj h)
        exact .inl rfl
    | notANumber => cases s <;> cases h
    | zero s' => cases s <;> cases h
    | infinity s' => cases s <;> cases s' <;> cases h

theorem compare_eq_trans (h : a.compare b = some .eq) (h' : b.compare c = some .eq) : a.compare c = some .eq := by
  rcases eq_or_zero_of_compare h with rfl | ⟨s, s', rfl, rfl⟩
  · exact h'
  · rcases eq_or_zero_of_compare h' with rfl | ⟨_, s'', -, rfl⟩
    · exact h
    · rfl

theorem float_beq_trans {x y z : Float} (h : (x == y) = true) (h' : (y == z) = true) : (x == z) = true := by
  have hcompare {x y : Float} : (x == y) = true ↔ x.toModel.unpack.compare y.toModel.unpack = some .eq := by
    show (x.toModel.unpack.compare y.toModel.unpack == some .eq) = true ↔ _
    exact beq_iff_eq
  exact hcompare.2 (compare_eq_trans (hcompare.1 h) (hcompare.1 h'))

end Floats

namespace Number.Decimal

variable {d e f : Decimal}

theorem same_iff : d.same e = true ↔ d.signed * 10 ^ e.scale = e.signed * 10 ^ d.scale := decide_eq_true_iff

theorem pow_scale_ne_zero (d : Decimal) : (10 : Int) ^ d.scale ≠ 0 := Int.pow_ne_zero (by decide)

theorem same_trans (h : d.same e = true) (h' : e.same f = true) : d.same f = true := by
  rw [same_iff] at h h' ⊢
  apply Int.eq_of_mul_eq_mul_right (pow_scale_ne_zero e)
  calc d.signed * 10 ^ f.scale * 10 ^ e.scale = d.signed * 10 ^ e.scale * 10 ^ f.scale := by ring
    _ = e.signed * 10 ^ f.scale * 10 ^ d.scale := by rw [h]; ring
    _ = f.signed * 10 ^ d.scale * 10 ^ e.scale := by rw [h']; ring

/-- A decimal equals an integer if its mantissa is that many times the power of ten. -/
theorem toInt?_eq_some {n : Int} : d.toInt? = some n ↔ d.signed = n * 10 ^ d.scale := by
  have hdvd : d.mantissa % Nat.pow 10 d.scale = 0 ↔ (10 : Int) ^ d.scale ∣ d.signed := by
    rw [← Nat.dvd_iff_mod_eq_zero, ← Int.natCast_dvd_natCast]
    unfold signed
    cases d.negative
    · rfl
    · exact (Int.dvd_neg).symm
  unfold toInt?
  rw [if_congr hdvd rfl rfl]
  constructor
  · intro h
    split at h
    · next hd =>
      rw [← Option.some.inj h]
      exact (Int.ediv_mul_cancel hd).symm
    · cases h
  · intro h
    rw [if_pos ⟨n, h.trans (mul_comm _ _)⟩, h]
    exact congrArg some (Int.mul_ediv_cancel _ (pow_scale_ne_zero d))

theorem toInt?_of_same (h : d.same e = true) : d.toInt? = e.toInt? := by
  rw [same_iff] at h
  refine Option.ext fun n => ?_
  rw [toInt?_eq_some, toInt?_eq_some]
  constructor
  · intro hd
    apply Int.eq_of_mul_eq_mul_right (pow_scale_ne_zero d)
    rw [← h, hd]
    ring
  · intro he
    apply Int.eq_of_mul_eq_mul_right (pow_scale_ne_zero e)
    rw [h, he]
    ring

end Number.Decimal

theorem Calendar.Moment.same_trans {l m n : Moment} (h : l.same m = true) (h' : m.same n = true) : l.same n = true := by
  simp only [Moment.same, Bool.and_eq_true, decide_eq_true_eq] at h h' ⊢
  exact ⟨h.1.trans h'.1, h.2.trans h'.2⟩

/-! ## Values -/

namespace Value

variable {a b c : Value}

/-- Equal values are one value, or denote one number, instant or list. -/
theorem same_cases (h : a.same b = true) : a = b ∨ (∃ x y, a = .float x ∧ b = .float y ∧ (x == y) = true) ∨
    (∃ d e, a = .decimal d ∧ b = .decimal e ∧ d.same e = true) ∨
    (∃ m n, a = .timestamp m ∧ b = .timestamp n ∧ m.same n = true) ∨ ∃ as bs, a = .list as ∧ b = .list bs := by
  unfold same at h
  split at h
  · exact .inl rfl
  · exact .inl (congrArg boolean (beq_iff_eq.1 h))
  · exact .inl (congrArg int (beq_iff_eq.1 h))
  · exact .inl (congrArg uint (beq_iff_eq.1 h))
  · exact .inr (.inl ⟨_, _, rfl, rfl, h⟩)
  · exact .inr (.inr (.inl ⟨_, _, rfl, rfl, h⟩))
  · exact .inl (congrArg text (beq_iff_eq.1 h))
  · exact .inl (congrArg bytes (beq_iff_eq.1 h))
  · exact .inl (congrArg date (beq_iff_eq.1 h))
  · exact .inl (congrArg time (beq_iff_eq.1 h))
  · exact .inl (congrArg datetime (beq_iff_eq.1 h))
  · exact .inr (.inr (.inr (.inl ⟨_, _, rfl, rfl, h⟩)))
  · exact .inl (congrArg uuid (beq_iff_eq.1 h))
  · exact .inr (.inr (.inr (.inr ⟨_, _, rfl, rfl⟩)))
  · cases h

theorem isNull_of_same (h : a.same b = true) : b.isNull = a.isNull := by
  rcases same_cases h with rfl | ⟨_, _, rfl, rfl, -⟩ | ⟨_, _, rfl, rfl, -⟩ | ⟨_, _, rfl, rfl, -⟩ | ⟨_, _, rfl, rfl⟩
  all_goals rfl

/-- Equal values denote one integer, or none. -/
theorem integer?_of_same (h : a.same b = true) : a.integer? = b.integer? := by
  rcases same_cases h with rfl | ⟨_, _, rfl, rfl, -⟩ | ⟨d, e, rfl, rfl, hd⟩ | ⟨_, _, rfl, rfl, -⟩ | ⟨_, _, rfl, rfl⟩
  · rfl
  · rfl
  · exact Decimal.toInt?_of_same hd
  · rfl
  · rfl

/-- Values equal to one scalar are equal. -/
theorem same_trans (hl : a.isList = false) (h : a.same b = true) (h' : b.same c = true) : a.same c = true := by
  rcases same_cases h with rfl | ⟨x, y, rfl, rfl, hxy⟩ | ⟨d, e, rfl, rfl, hde⟩ | ⟨m, n, rfl, rfl, hmn⟩ |
    ⟨_, _, rfl, rfl⟩
  · exact h'
  · cases c with
    | float z => exact float_beq_trans hxy h'
    | _ => cases h'
  · cases c with
    | decimal f => exact Decimal.same_trans hde h'
    | _ => cases h'
  · cases c with
    | timestamp k => exact Moment.same_trans hmn h'
    | _ => cases h'
  · cases hl

end Value

end SqlMapper
