import SqlMapper.Number.Decimal
import SqlMapper.Proofs.Number.Integer

/-!
# Decimals are read back from their text

The text of a decimal has the digits of its mantissa, at least one of them before the point and as many behind it as the
scale says. Digits take the reader from one state to the next (`Reading.continue_append`), and never beyond the bounds
of a decimal, since the text has no more digits than the decimal. So a decimal is read back with its mantissa and its
scale; only the sign of a zero is lost (`read_text`).
-/

namespace SqlMapper.Number.Decimal

variable {d e : Decimal} {cs rest : List Char} {value : Nat}

/-! ## Digits -/

theorem le_ofDigitChars (cs : List Char) (value : Nat) : value ≤ Nat.ofDigitChars 10 cs value := by
  have hpos : 0 < 10 ^ cs.length := Nat.pow_pos (by decide)
  rw [Nat.ofDigitChars_eq_ofDigitChars_zero]
  calc value ≤ 10 ^ cs.length * value := Nat.le_mul_of_pos_left value hpos
    _ ≤ _ := Nat.le_add_right _ _

theorem digits_eq (d : Decimal) : d.digits = paddedDigits (d.scale + 1) d.mantissa := rfl

theorem isDigit_of_mem_digits {c : Char} (h : c ∈ d.digits) : c.isDigit = true := isDigit_of_mem_paddedDigits h

/-- The digits of a decimal have the value of its mantissa. -/
theorem ofDigitChars_digits (d : Decimal) : Nat.ofDigitChars 10 d.digits 0 = d.mantissa := by
  rw [digits_eq, ofDigitChars_paddedDigits]

/-- There is a digit in front of the point. -/
theorem scale_lt_length_digits (d : Decimal) : d.scale < d.digits.length := by
  unfold digits
  rw [List.length_append, List.length_replicate]
  omega

/-- The digits in front of the point. -/
def whole (d : Decimal) : List Char := d.digits.take (d.digits.length - d.scale)

/-- The digits behind the point. -/
def places (d : Decimal) : List Char := d.digits.drop (d.digits.length - d.scale)

theorem whole_append_places (d : Decimal) : d.whole ++ d.places = d.digits := List.take_append_drop _ _

theorem length_places (d : Decimal) : d.places.length = d.scale := by
  have := d.scale_lt_length_digits
  rw [places, List.length_drop]
  omega

theorem whole_ne_nil (d : Decimal) : d.whole ≠ [] := by
  have := d.scale_lt_length_digits
  refine List.ne_nil_of_length_pos ?_
  rw [whole, List.length_take]
  omega

theorem toList_text (d : Decimal) : d.text.toList =
    (if d.negative then ['-'] else []) ++ d.whole ++ if d.places.isEmpty then [] else '.' :: d.places :=
  String.toList_ofList

/-! ## Reading -/

/-- What is known after some more digits. Behind the point each of them is a place. -/
def Reading.after (r : Reading) (cs : List Char) : Reading :=
  { r with
    value := Nat.ofDigitChars 10 cs r.value
    scale := if r.seenPoint then r.scale + cs.length else 0
    seenDigit := r.seenDigit || !cs.isEmpty }

/-- Digits take the reader to the next state, unless there are more than fit. -/
theorem Reading.continue_append {r : Reading} (hdigits : ∀ c ∈ cs, c.isDigit = true)
    (hvalue : Nat.ofDigitChars 10 cs r.value < mantissaBound)
    (hscale : r.seenPoint = true → r.scale + cs.length ≤ maxScale) (hwhole : r.seenPoint = false → r.scale = 0) :
    r.continue (cs ++ rest) = (r.after cs).continue rest := by
  obtain ⟨value, scale, negative, seenPoint, seenDigit⟩ := r
  dsimp only at hvalue hscale hwhole
  induction cs generalizing value scale seenDigit with
  | nil =>
    cases seenPoint with
    | false =>
      rw [hwhole rfl]
      simp [after, Nat.ofDigitChars_nil]
    | true => simp [after, Nat.ofDigitChars_nil]
  | cons c cs ih =>
    have hroom : ¬ (seenDigit && seenPoint && decide (maxScale ≤ scale)) = true := fun h => by
      rw [Bool.and_eq_true, Bool.and_eq_true, decide_eq_true_eq] at h
      have := hscale h.1.2
      rw [List.length_cons] at this
      omega
    have hcons : Nat.ofDigitChars 10 (c :: cs) value = Nat.ofDigitChars 10 cs (value * 10 + (c.toNat - 48)) := by
      rw [Nat.ofDigitChars_cons, Nat.mul_comm]
      rfl
    rw [hcons] at hvalue
    have hbound : value * 10 + (c.toNat - 48) < mantissaBound := Nat.lt_of_le_of_lt (le_ofDigitChars cs _) hvalue
    have hnext := ih (fun d hd => hdigits d (List.mem_cons_of_mem c hd)) (value * 10 + (c.toNat - 48))
      (if seenPoint = true then scale + 1 else 0) true hvalue
      (fun hpoint => by
        have := hscale hpoint
        rw [List.length_cons] at this
        rw [if_pos hpoint]
        omega)
      (fun hpoint => by rw [hpoint]; rfl)
    rw [List.cons_append, Reading.continue, if_neg hroom, if_pos (hdigits c List.mem_cons_self)]
    dsimp only
    rw [if_pos hbound, hnext, after, after, hcons]
    cases seenPoint <;> simp [Nat.add_comm, Nat.add_left_comm]

/-- The reader at the start of a number, behind its sign. -/
def Reading.start (negative : Bool) : Reading := ⟨0, 0, negative, false, false⟩

/-- A number that begins with a digit has no sign in front of it. -/
theorem readPlain_of_isDigit {c : Char} (h : c.isDigit = true) :
    readPlain (c :: cs) = (Reading.start false).continue (c :: cs) := by
  unfold readPlain
  split
  · next heq => cases heq
  · next heq =>
    cases heq
    cases h
  · next heq =>
    cases heq
    cases h
  · rfl

/-- The text of a decimal behind its sign is read to its end. -/
theorem continue_text (d : Decimal) :
    (Reading.start d.negative).continue (d.whole ++ if d.places.isEmpty then [] else '.' :: d.places) =
      ofSigned? d.mantissa d.scale d.negative := by
  have hvalue : Nat.ofDigitChars 10 d.places (Nat.ofDigitChars 10 d.whole 0) = d.mantissa := by
    rw [← Nat.ofDigitChars_append, d.whole_append_places, d.ofDigitChars_digits]
  have hwhole : ∀ c ∈ d.whole, c.isDigit = true := fun c hc => isDigit_of_mem_digits (List.mem_of_mem_take hc)
  have hplaces : ∀ c ∈ d.places, c.isDigit = true := fun c hc => isDigit_of_mem_digits (List.mem_of_mem_drop hc)
  have hbound : Nat.ofDigitChars 10 d.whole 0 < mantissaBound := by
    have hle := le_ofDigitChars d.places (Nat.ofDigitChars 10 d.whole 0)
    rw [hvalue] at hle
    exact Nat.lt_of_le_of_lt hle d.mantissa_lt
  have hdigit : (!d.whole.isEmpty) = true := by simp [d.whole_ne_nil]
  have hscale := d.length_places
  rw [Reading.continue_append hwhole hbound (fun h => by cases h) fun _ => rfl]
  split
  · next hnil =>
    rw [List.isEmpty_iff.1 hnil] at hvalue hscale
    show Reading.finish _ = _
    rw [Reading.finish, Reading.after, Reading.start, Bool.false_or, if_pos hdigit]
    rw [← hvalue, ← hscale]
    rfl
  · have hpoint : ((Reading.start d.negative).after d.whole).continue ('.' :: d.places) =
        Reading.continue ⟨Nat.ofDigitChars 10 d.whole 0, 0, d.negative, true, true⟩ (d.places ++ []) := by
      rw [Reading.after, Reading.start, Bool.false_or, hdigit, List.append_nil]
      rfl
    have hroom : 0 + d.places.length ≤ maxScale := by
      rw [hscale, Nat.zero_add]
      exact d.scale_le
    rw [hpoint, Reading.continue_append hplaces (hvalue ▸ d.mantissa_lt) (fun _ => hroom) fun h => by cases h]
    show ofSigned? (Nat.ofDigitChars 10 d.places (Nat.ofDigitChars 10 d.whole 0)) (0 + d.places.length) d.negative = _
    rw [hvalue, hscale, Nat.zero_add]

/-- No character of a decimal begins an exponent. -/
theorem not_mark_of_mem_text {c : Char} (h : c ∈ d.text.toList) : c ≠ 'e' ∧ c ≠ 'E' := by
  have hdigit {c : Char} (hc : c.isDigit = true) : c ≠ 'e' ∧ c ≠ 'E' := by
    constructor
    all_goals
      rintro rfl
      cases hc
  rw [toList_text] at h
  rcases List.mem_append.1 h with h | h
  · rcases List.mem_append.1 h with h | h
    · split at h
      · rw [List.mem_singleton.1 h]
        decide
      · cases h
    · exact hdigit (isDigit_of_mem_digits (List.mem_of_mem_take h))
  · split at h
    · cases h
    · rcases List.mem_cons.1 h with rfl | h
      · decide
      · exact hdigit (isDigit_of_mem_digits (List.mem_of_mem_drop h))

/-- **A decimal is read back from its text**, apart from the sign of a zero. -/
theorem read_text (d : Decimal) : read d.text = ofSigned? d.mantissa d.scale d.negative := by
  have hmark : d.text.toList.any (fun c => decide (c = 'e') || decide (c = 'E')) = false := by
    rw [List.any_eq_false]
    intro c hc
    simp [not_mark_of_mem_text hc]
  have hplain : read d.text = readPlain d.text.toList := by
    unfold read
    dsimp only
    rw [hmark]
    rfl
  obtain ⟨c, cs, hcs⟩ := List.exists_cons_of_ne_nil d.whole_ne_nil
  have hc : c.isDigit = true := isDigit_of_mem_digits (List.mem_of_mem_take (hcs ▸ List.mem_cons_self))
  have hbody := d.continue_text
  rw [hplain, toList_text, List.append_assoc]
  rw [hcs, List.cons_append] at hbody ⊢
  cases hneg : d.negative with
  | false =>
    rw [hneg] at hbody
    exact (readPlain_of_isDigit hc).trans hbody
  | true =>
    rw [hneg] at hbody
    exact hbody

/-- What is read denotes the same number. -/
theorem exists_read_text (d : Decimal) : ∃ e, read d.text = some e ∧ e.same d = true := by
  have hparts : read d.text =
      some ⟨d.mantissa, d.scale, d.negative && decide (d.mantissa ≠ 0), d.mantissa_lt, d.scale_le⟩ := by
    rw [read_text, ofSigned?, ofParts?, dif_pos ⟨d.mantissa_lt, d.scale_le⟩]
  refine ⟨_, hparts, decide_eq_true ?_⟩
  refine congrArg (· * Int.pow 10 d.scale) ?_
  by_cases hzero : d.mantissa = 0
  · simp [signed, hzero]
  · simp [signed, hzero]

end SqlMapper.Number.Decimal
