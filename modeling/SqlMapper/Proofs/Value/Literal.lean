import SqlMapper.Proofs.Calendar.Extent
import SqlMapper.Proofs.Number.Integer
import SqlMapper.Proofs.Text.Hex
import SqlMapper.Proofs.Text.Scan

/-!
# Literals under a scan

The literal of a value is neutral, whatever the value is (`Value.neutral_literal`). Texts are quoted; all other literals
consist of letters, digits and the marks of numbers, dates and times, with or without quotes around them; and the
literals of a list stand in parentheses. A value has a literal where clocks of universal time show all moments in it
(`Value.isSome_literal_iff`). A list of names has a comma between any two (`Literal.joinedBy_identifiers`), since no
name in backticks is empty.
-/

namespace SqlMapper

open Number Calendar

variable {doubles : Bool} {cs : List Char}

/-! ## Numbers -/

/-- Marks that stand beside the digits of a number, or in the name of one that has no digits. -/
def numeralMarks : List Char := ['-', '.', 'e', 'i', 'n', 'f', 'N', 'a']

/-- A character of numbers. -/
def isNumeral (c : Char) : Bool := c.isDigit || numeralMarks.contains c

/-- Only such characters. -/
def Numeral (cs : List Char) : Prop := ∀ c ∈ cs, isNumeral c = true

instance (cs : List Char) : Decidable (Numeral cs) :=
  decidable_of_iff (cs.all isNumeral = true) List.all_eq_true

theorem isNumeral_of_isDigit {c : Char} (h : c.isDigit = true) : isNumeral c = true := by
  simp [isNumeral, h]

theorem Numeral.harmless (h : Numeral cs) : Harmless doubles cs := by
  have hmarks : Harmless doubles numeralMarks := .of_doubles (by decide)
  intro c hc
  rcases Bool.or_eq_true_iff.1 (h c hc) with hd | hm
  · exact isHarmless_of_isAlphanum (by simp [Char.isAlphanum, hd])
  · exact hmarks c (List.contains_iff_mem.1 hm)

theorem Numeral.append {ds : List Char} (hc : Numeral cs) (hd : Numeral ds) : Numeral (cs ++ ds) := by
  intro c hm
  rcases List.mem_append.1 hm with hm | hm
  · exact hc c hm
  · exact hd c hm

theorem Numeral.text {s t : String} (hs : Numeral s.toList) (ht : Numeral t.toList) : Numeral (s ++ t).toList := by
  rw [String.toList_append]
  exact hs.append ht

theorem numeral_toDigits (n : Nat) : Numeral (Nat.toDigits 10 n) := fun _ hc =>
  isNumeral_of_isDigit (Nat.isDigit_of_mem_toDigits (by decide) (by decide) hc)

theorem numeral_repr (n : Nat) : Numeral (Nat.repr n).toList := by
  rw [Nat.repr, String.toList_ofList]
  exact numeral_toDigits n

theorem numeral_zeros (n : Nat) : Numeral (List.replicate n '0') := by
  intro c hc
  rw [List.eq_of_mem_replicate hc]
  exact isNumeral_of_isDigit rfl

theorem numeral_paddedDigits (width n : Nat) : Numeral (paddedDigits width n) := fun _ hc =>
  isNumeral_of_isDigit (isDigit_of_mem_paddedDigits hc)

theorem numeral_padded (width n : Nat) : Numeral (padded width n).toList := by
  rw [padded_eq, String.toList_ofList]
  exact numeral_paddedDigits width n

theorem numeral_integerText (n : Int) : Numeral (integerText n).toList := by
  unfold integerText
  split
  · exact Numeral.text (by decide) (numeral_repr _)
  · exact numeral_repr _

/-- The point moves between the digits. -/
theorem numeral_write (layout : FloatLayout) (p : Int) (h : Numeral cs) : Numeral (layout.write cs p) := by
  have htake (n : Nat) : Numeral (cs.take n) := fun c hc => h c (List.mem_of_mem_take hc)
  have hdrop (n : Nat) : Numeral (cs.drop n) := fun c hc => h c (List.mem_of_mem_drop hc)
  have hpoint : Numeral ['.'] := by decide
  unfold FloatLayout.write
  dsimp only
  split
  · split
    · exact (h.append (numeral_zeros _)).append (by decide)
    · split
      · exact (htake _).append (hpoint.append (hdrop _))
      · have hwhole : Numeral ['0', '.'] := by decide
        exact hwhole.append ((numeral_zeros _).append h)
  · have hmark : Numeral ['e'] := by decide
    refine ((htake 1).append ?_).append (hmark.append (numeral_integerText _))
    split
    · decide
    · exact hpoint.append (hdrop 1)

theorem numeral_floatText (layout : FloatLayout) (x : Float) : Numeral (floatText layout x).toList := by
  unfold floatText
  dsimp only
  split
  · decide
  · split
    · refine Numeral.text ?_ (by decide)
      split <;> decide
    · split
      · refine Numeral.text ?_ (by decide)
        split <;> decide
      · refine Numeral.text ?_ ?_
        · split <;> decide
        · rw [String.toList_ofList]
          exact numeral_write _ _ (numeral_toDigits _)

theorem numeral_decimal (d : Decimal) : Numeral d.text.toList := by
  have hds : Numeral d.digits := numeral_paddedDigits (d.scale + 1) d.mantissa
  unfold Decimal.text
  rw [String.toList_ofList]
  refine Numeral.append (Numeral.append ?_ ?_) ?_
  · split <;> decide
  · exact fun c hc => hds c (List.mem_of_mem_take hc)
  · split
    · decide
    · have hpoint : Numeral ['.'] := by decide
      exact hpoint.append fun c hc => hds c (List.mem_of_mem_drop hc)

theorem harmless_repr (n : Nat) : Harmless doubles (Nat.repr n).toList := (numeral_repr n).harmless

theorem harmless_padded (width n : Nat) : Harmless doubles (padded width n).toList := (numeral_padded width n).harmless

/-! ## Hexadecimal digits -/

theorem isAlphanum_digit : ∀ n < 16, (Text.Hex.digit n).isAlphanum ∧ (Text.Hex.digit n).toUpper.isAlphanum := by decide

theorem harmless_hexDigits (count n : Nat) : Harmless doubles (Text.Hex.digits count n) := by
  intro c hc
  obtain ⟨d, hd, rfl⟩ := Text.Hex.mem_digits hc
  exact isHarmless_of_isAlphanum (isAlphanum_digit d hd).1

theorem harmless_encodeUpper (bs : List UInt8) : Harmless doubles (Text.Hex.encodeUpper bs) := by
  intro c hc
  obtain ⟨b, -, hb⟩ := List.mem_flatMap.1 hc
  obtain ⟨e, he, rfl⟩ := List.mem_map.1 hb
  obtain ⟨d, hd, rfl⟩ := Text.Hex.mem_digits he
  exact isHarmless_of_isAlphanum (isAlphanum_digit d hd).2

/-! ## Dates and times -/

theorem harmless_date (d : Date) : Harmless doubles d.literal.toList := by
  have hdash : Harmless doubles "-".toList := .of_doubles (by decide)
  unfold Date.literal
  refine Harmless.text (Harmless.text (Harmless.text (Harmless.text ?_ hdash) (harmless_padded 2 _)) hdash)
    (harmless_padded 2 _)
  split
  · exact hdash.text (harmless_padded 3 _)
  · exact harmless_padded 4 _

theorem harmless_time (t : Time) : Harmless doubles t.literal.toList := by
  have hcolon : Harmless doubles ":".toList := .of_doubles (by decide)
  unfold Time.literal
  refine Harmless.text (Harmless.text (Harmless.text (Harmless.text (Harmless.text (harmless_padded 2 _) hcolon)
    (harmless_padded 2 _)) hcolon) (harmless_padded 2 _)) ?_
  split
  · exact .of_doubles (by decide)
  · exact Harmless.text (.of_doubles (by decide)) (harmless_padded 6 _)

theorem harmless_datetime (d : DateTime) : Harmless doubles d.literal.toList :=
  Harmless.text (Harmless.text (harmless_date d.date) (.of_doubles (by decide))) (harmless_time d.time)

/-! ## Values -/

theorem Value.literals_cons_eq_some {v : Value} {vs : List Value} {ls : List String} :
    literals (v :: vs) = some ls ↔ ∃ s rest, v.literal = some s ∧ literals vs = some rest ∧ s :: rest = ls := by
  simp [literals, Option.bind_eq_some_iff]

mutual

/-- The moments in a value. -/
def Value.moments : Value → List Moment
  | timestamp m => [m]
  | list items => momentsAll items
  | _ => []

/-- The moments in some values. -/
def Value.momentsAll : List Value → List Moment
  | [] => []
  | v :: vs => moments v ++ momentsAll vs

end

theorem Calendar.Moment.isSome_utc?_iff {m : Moment} : m.utc?.isSome = true ↔ InExtent m.unixSeconds := by
  rw [utc?, Option.isSome_map, Option.isSome_iff_exists, exists_at?_iff, Int.add_zero]

theorem Value.isSome_literals_cons (v : Value) (vs : List Value) :
    (literals (v :: vs)).isSome = (v.literal.isSome && (literals vs).isSome) := by
  rw [literals]
  cases v.literal <;> cases literals vs <;> rfl

mutual

/-- **A value has a literal** exactly where its moments are inside of the calendar. -/
theorem Value.isSome_literal_iff : ∀ v : Value, v.literal.isSome = true ↔ ∀ m ∈ v.moments, InExtent m.unixSeconds
  | .timestamp m => by
    rw [moments, List.forall_mem_singleton, literal, Option.isSome_map, Moment.isSome_utc?_iff]
  | .list items => by
    rw [moments, literal, Option.isSome_map, isSome_literals_iff items]
  | .null | .boolean _ | .int _ | .uint _ | .float _ | .decimal _ | .text _ | .bytes _ | .date _ | .time _ | .datetime _
  | .uuid _ => iff_of_true rfl fun _ h => absurd h List.not_mem_nil

theorem Value.isSome_literals_iff (vs : List Value) :
    (literals vs).isSome = true ↔ ∀ m ∈ momentsAll vs, InExtent m.unixSeconds := by
  cases vs with
  | nil => exact iff_of_true rfl fun _ h => absurd h List.not_mem_nil
  | cons v vs =>
    rw [momentsAll, List.forall_mem_append, isSome_literals_cons, Bool.and_eq_true, isSome_literal_iff v,
      isSome_literals_iff vs]

end

theorem Value.literals_append (vs ws : List Value) :
    literals (vs ++ ws) = (literals vs).bind fun ls => (literals ws).map (ls ++ ·) := by
  induction vs with
  | nil => simp [literals]
  | cons v vs ih =>
    rw [List.cons_append, literals, literals, ih]
    cases v.literal with
    | none => rfl
    | some s =>
      cases literals vs with
      | none => rfl
      | some ls => cases literals ws <;> rfl

/-- A harmless text between single quotes. -/
theorem neutral_between_quotes {s : String} (h : Harmless doubles s.toList) : Neutral doubles ("'" ++ s ++ "'") := by
  have he : "'" ++ s ++ "'" = String.ofList (Quote.single.mark :: s.toList ++ [Quote.single.mark]) := by
    apply String.toList_injective
    simp [Quote.mark]
  rw [he]
  exact neutral_between (by decide) (enclosed_of_harmless (by decide) h)

mutual

/-- **A literal is neutral**: a scan outside of quoted texts comes out of it as it went in. -/
theorem Value.neutral_literal : ∀ v : Value, ∀ s ∈ v.literal, Neutral doubles s
  | .null, _, rfl => neutral_fixed (by decide)
  | .boolean true, _, rfl => neutral_fixed (by decide)
  | .boolean false, _, rfl => neutral_fixed (by decide)
  | .int n, _, rfl => neutral_of_harmless (numeral_integerText _).harmless
  | .uint n, _, rfl => neutral_of_harmless (harmless_repr _)
  | .float x, _, rfl => by
    split
    · exact neutral_of_harmless (numeral_floatText _ x).harmless
    · exact neutral_fixed (by decide)
  | .decimal d, _, rfl => neutral_of_harmless (numeral_decimal d).harmless
  | .text s, _, rfl => neutral_quoted s
  | .bytes bs, _, rfl => by
    have he : "X'" ++ String.ofList (Text.Hex.encodeUpper bs) ++ "'" =
        "X" ++ ("'" ++ String.ofList (Text.Hex.encodeUpper bs) ++ "'") := by
      apply String.toList_injective
      simp
    rw [he]
    refine (neutral_fixed (by decide)).append (neutral_between_quotes ?_)
    rw [String.toList_ofList]
    exact harmless_encodeUpper bs
  | .date d, _, rfl => neutral_between_quotes (harmless_date d)
  | .time t, _, rfl => neutral_between_quotes (harmless_time t)
  | .datetime d, _, rfl => neutral_between_quotes (harmless_datetime d)
  | .timestamp m, s, h => by
    obtain ⟨d, -, rfl⟩ := Option.map_eq_some_iff.1 h
    exact neutral_between_quotes (harmless_datetime d)
  | .uuid u, _, rfl => by
    apply neutral_between_quotes
    rw [Uuid.simple, String.toList_ofList]
    exact harmless_hexDigits 32 _
  | .list items, s, h => by
    obtain ⟨ls, hls, rfl⟩ := Option.map_eq_some_iff.1 h
    exact Neutral.inParens (neutral_joinedBy (neutral_fixed (by decide)) (neutral_literals items ls hls))

theorem Value.neutral_literals : ∀ vs : List Value, ∀ ls ∈ literals vs, ∀ s ∈ ls, Neutral doubles s
  | [], _, rfl, _, h => absurd h List.not_mem_nil
  | v :: vs, ls, hls, s, h => by
    obtain ⟨l, rest, hl, hrest, rfl⟩ := literals_cons_eq_some.1 hls
    rcases List.mem_cons.1 h with rfl | h
    · exact neutral_literal v s hl
    · exact neutral_literals vs rest hrest s h

end

/-! ## Names -/

theorem Literal.identifier_ne_empty (s : String) : (identifier s).isEmpty = false := by
  rw [String.isEmpty_eq_false_iff]
  intro h
  have := congrArg String.toList h
  simp [identifier] at this

theorem Text.joinedBy_eq_commaSeparated : ∀ {items : List String}, (∀ s ∈ items, s.isEmpty = false) →
    Text.joinedBy ", " items = Text.commaSeparated items
  | [], _ => rfl
  | [s], _ => by
    show s = String.intercalate ", " [s]
    rw [String.intercalate_singleton]
  | s :: t :: items, h => by
    have ih := joinedBy_eq_commaSeparated fun u hu => h u (List.mem_cons_of_mem _ hu)
    show _ = String.intercalate ", " (s :: t :: items)
    rw [Text.joinedBy, ih, h s List.mem_cons_self, String.intercalate_cons_cons]
    · rfl
    · simp

/-- Names with commas between them. -/
theorem Literal.joinedBy_identifiers (names : List String) :
    Text.joinedBy ", " (names.map identifier) = Text.commaSeparated (names.map identifier) := by
  apply Text.joinedBy_eq_commaSeparated
  intro s hs
  obtain ⟨name, -, rfl⟩ := List.mem_map.1 hs
  exact identifier_ne_empty name

end SqlMapper
