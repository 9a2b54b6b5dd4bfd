import SqlMapper.Proofs.Value.Literal

/-!
# Literals are read back

A server reads a literal from the front of a text and leaves the rest (`readLiteral`). Of the literal of a value it
reads the datum that the value stands for (`Value.datum?`) up to the end of the literal, also where the literal stands
in a list, at any depth (`Value.readLiteral_append`). A name in backticks is read back as it is (`readName_identifier`).
The word `NULL` begins no other literals than those of `NULL` and of floating point numbers that have none
(`Value.beginsWithNull_literal_iff`).
-/

namespace SqlMapper

/-! ## Reading literals -/

/-- What a literal stands for to the server. -/
inductive Datum where
  | null
  | number (n : Int)
  | text (s : String)
  | bytes (bs : List UInt8)
  | list (items : List Datum)

/-- What a character stands for behind a backslash. The wild cards of patterns keep the backslash. -/
def unescaped : Char → List Char
  | '0' => ['\x00']
  | 'b' => ['\x08']
  | 'n' => ['\n']
  | 'r' => ['\r']
  | 't' => ['\t']
  | 'Z' => ['\x1a']
  | '%' => ['\x5c', '%']
  | '_' => ['\x5c', '_']
  | c => [c]

/-- The content of a text between quotes, behind the first of them, and what follows the last one. -/
def readQuoted : List Char → Option (List Char × List Char)
  | '\x27' :: '\x27' :: cs => (readQuoted cs).map fun r => ('\x27' :: r.1, r.2)
  | '\x27' :: cs => some ([], cs)
  | '\x5c' :: c :: cs => (readQuoted cs).map fun r => (unescaped c ++ r.1, r.2)
  | c :: cs => (readQuoted cs).map fun r => (c :: r.1, r.2)
  | [] => none

/-- The bytes of a hexadecimal literal, behind the quote, and what follows the last one. -/
def readBytes : List Char → Option (List UInt8 × List Char)
  | '\x27' :: cs => some ([], cs)
  | a :: b :: cs => do
    let high ← Text.Hex.digitValue? a
    let low ← Text.Hex.digitValue? b
    let (bs, rest) ← readBytes cs
    return (UInt8.ofNat (high * 16 + low) :: bs, rest)
  | _ => none

/-- No word or number goes on with the text. -/
def endsWord (cs : List Char) : Bool :=
  match cs.head? with
  | some c => !c.isAlphanum && !(['_', '$', '.'] : List Char).contains c
  | none => true

/-- The text begins with the word `NULL`, in capitals or not. -/
def BeginsWithNull (cs : List Char) : Prop :=
  (cs.take 4).map Char.toUpper = ['N', 'U', 'L', 'L'] ∧ endsWord (cs.drop 4) = true

instance (cs : List Char) : Decidable (BeginsWithNull cs) := inferInstanceAs (Decidable (_ ∧ _))

example : BeginsWithNull "null ON UPDATE NOW()".toList ∧ ¬ BeginsWithNull "NULLIF(1, 2)".toList := by decide

/-- A number in decimal digits. -/
def readNumber (cs : List Char) : Option (Nat × List Char) :=
  let digits := cs.takeWhile Char.isDigit
  let rest := cs.dropWhile Char.isDigit
  if digits ≠ [] ∧ endsWord rest then some (Nat.ofDigitChars 10 digits 0, rest) else none

/-- A literal that is no list. -/
def readScalar : List Char → Option (Datum × List Char)
  | 'N' :: 'U' :: 'L' :: 'L' :: cs => if endsWord cs then some (.null, cs) else none
  | '\x27' :: cs => (readQuoted cs).map fun r => (.text (String.ofList r.1), r.2)
  | 'X' :: '\x27' :: cs => (readBytes cs).map fun r => (.bytes r.1, r.2)
  | '-' :: cs => (readNumber cs).map fun r => (.number (-r.1), r.2)
  | cs => (readNumber cs).map fun r => (.number r.1, r.2)

/-- The text behind its leading blanks. -/
def skipBlanks (cs : List Char) : List Char := cs.dropWhile (· = ' ')

theorem length_skipBlanks_le (cs : List Char) : (skipBlanks cs).length ≤ cs.length :=
  (List.dropWhile_suffix _).length_le

mutual

/-- A literal at the front of a text, and what follows it. -/
def readLiteral (cs : List Char) : Option (Datum × List Char) :=
  match cs with
  | '(' :: cs =>
    match skipBlanks cs with
    | ')' :: rest => some (.list [], rest)
    | _ => (readItems (skipBlanks cs)).map fun r => (.list r.1, r.2)
  | cs => readScalar cs
termination_by (cs.length, 0)
decreasing_by
  have := length_skipBlanks_le cs
  simp only [Prod.lex_def, List.length_cons]
  omega

/-- The items of a list, up to the parenthesis that ends it, and what follows that. -/
def readItems (cs : List Char) : Option (List Datum × List Char) :=
  match readLiteral cs with
  | some (item, rest) =>
    match skipBlanks rest with
    | ')' :: rest => some ([item], rest)
    | ',' :: rest =>
      -- an item has a character, so less is left than there was
      if (skipBlanks rest).length < cs.length then
        (readItems (skipBlanks rest)).map fun r => (item :: r.1, r.2)
      else none
    | _ => none
  | none => none
termination_by (cs.length, 1)

end

/-- A name between backticks, where a doubled one stands for itself, and what follows it. -/
def readNameChars : List Char → Option (List Char × List Char)
  | '\x60' :: '\x60' :: cs => (readNameChars cs).map fun r => ('\x60' :: r.1, r.2)
  | '\x60' :: cs => some ([], cs)
  | c :: cs => (readNameChars cs).map fun r => (c :: r.1, r.2)
  | [] => none

/-- A name in backticks at the front of a text, and what follows it. -/
def readName : List Char → Option (String × List Char)
  | '\x60' :: cs => (readNameChars cs).map fun r => (String.ofList r.1, r.2)
  | _ => none

namespace Value

mutual

/-- What the literal of a value stands for. Truth values are numbers, and so are integers whether they have a sign or
not; dates, times and identifiers of 128 bits are their texts. Other numbers are left out. -/
def datum? : Value → Option Datum
  | null => some .null
  | boolean b => some (.number (if b then 1 else 0))
  | int n => some (.number n.toInt)
  | uint n => some (.number n.toNat)
  | float _ | decimal _ => none
  | text s => some (.text s)
  | bytes bs => some (.bytes bs)
  | date d => some (.text d.literal)
  | time t => some (.text t.literal)
  | datetime d => some (.text d.literal)
  | timestamp m => m.utc?.map fun d => .text d.literal
  | uuid u => some (.text u.simple)
  | list items => (data? items).map .list

/-- What the literals of some values stand for. -/
def data? : List Value → Option (List Datum)
  | [] => some []
  | v :: vs => do return (← datum? v) :: (← data? vs)

end

end Value

/-! ## Texts -/

section Texts

variable {cs rest : List Char}

/-- A character without meaning inside of quotes is read as itself. -/
theorem readQuoted_cons {c : Char} (hm : c ≠ '\x27') (hb : c ≠ '\x5c') (cs : List Char) :
    readQuoted (c :: cs) = (readQuoted cs).map fun r => (c :: r.1, r.2) := by
  rw [readQuoted]
  · exact fun _ h _ => hm h
  · exact hm
  · exact fun _ _ h _ => hb h

/-- A text is read back up to the quote that ends it, unless another quote follows. -/
theorem readQuoted_escaped (hrest : rest.head? ≠ some '\x27') :
    ∀ cs : List Char, readQuoted (cs.flatMap Literal.escape ++ '\x27' :: rest) = some (cs, rest)
  | [] => by
    rw [List.flatMap_nil, List.nil_append, readQuoted]
    rintro cs rfl
    exact hrest rfl
  | c :: cs => by
    have ih := readQuoted_escaped hrest cs
    rw [List.flatMap_cons, List.append_assoc]
    by_cases hm : c = '\x27'
    · subst hm
      show readQuoted ('\x27' :: '\x27' :: (cs.flatMap Literal.escape ++ '\x27' :: rest)) = _
      rw [readQuoted, ih]
      rfl
    · by_cases hb : c = '\x5c'
      · subst hb
        show readQuoted ('\x5c' :: '\x5c' :: (cs.flatMap Literal.escape ++ '\x27' :: rest)) = _
        rw [readQuoted, ih]
        rfl
      · have hescape : Literal.escape c = [c] := by rw [Literal.escape, if_neg hm, if_neg hb]
        rw [hescape, List.singleton_append, readQuoted_cons hm hb, ih]
        rfl

theorem toList_quoted (s : String) :
    (Literal.quoted s).toList = '\x27' :: (s.toList.flatMap Literal.escape ++ ['\x27']) := by
  simp [Literal.quoted, Literal.escaped]

theorem readScalar_quoted (s : String) (hrest : rest.head? ≠ some '\x27') :
    readScalar ((Literal.quoted s).toList ++ rest) = some (.text s, rest) := by
  rw [toList_quoted, List.cons_append, List.append_assoc, List.singleton_append, readScalar, readQuoted_escaped hrest,
    Option.map_some, String.ofList_toList]

/-- Between quotes, characters without meaning stand for themselves. -/
theorem Literal.quoted_of_harmless {s : String} (h : Harmless true s.toList) : "'" ++ s ++ "'" = quoted s := by
  have hescape : ∀ c ∈ s.toList, escape c = [c] := by
    intro c hc
    obtain ⟨hq, hb, -⟩ := isHarmless_iff.1 (h c hc)
    rw [escape, if_neg ?_, if_neg hb]
    rintro rfl
    cases hq
  have hescaped : s.toList.flatMap escape = s.toList := by
    rw [List.flatMap_def, List.map_congr_left hescape, ← List.flatMap_def, List.flatMap_singleton']
  rw [quoted, escaped, hescaped, String.ofList_toList]

/-! ## Bytes -/

theorem digitValue?_toUpper_digit : ∀ n < 16, Text.Hex.digitValue? (Text.Hex.digit n).toUpper = some n := by decide

theorem toUpper_digit_ne_quote : ∀ n < 16, (Text.Hex.digit n).toUpper ≠ '\x27' := by decide

theorem encodeUpper_cons (b : UInt8) (bs : List UInt8) : Text.Hex.encodeUpper (b :: bs) =
    (Text.Hex.digit (b.toNat / 16)).toUpper :: (Text.Hex.digit (b.toNat % 16)).toUpper :: Text.Hex.encodeUpper bs := by
  have hhigh : b.toNat / 16 % 16 = b.toNat / 16 := Nat.mod_eq_of_lt (by have := b.toNat_lt; omega)
  rw [Text.Hex.encodeUpper, List.flatMap_cons, Text.Hex.digits, Text.Hex.digits, Text.Hex.digits, hhigh]
  rfl

theorem readBytes_encodeUpper : ∀ bs : List UInt8,
    readBytes (Text.Hex.encodeUpper bs ++ '\x27' :: rest) = some (bs, rest)
  | [] => rfl
  | b :: bs => by
    have ih := readBytes_encodeUpper bs
    have hhigh : b.toNat / 16 < 16 := by have := b.toNat_lt; omega
    have hlow : b.toNat % 16 < 16 := Nat.mod_lt _ (by decide)
    have hbyte : UInt8.ofNat (b.toNat / 16 * 16 + b.toNat % 16) = b := by
      rw [Nat.div_add_mod', UInt8.ofNat_toNat]
    rw [encodeUpper_cons, List.cons_append, List.cons_append, readBytes, digitValue?_toUpper_digit _ hhigh,
      digitValue?_toUpper_digit _ hlow, ih]
    · show some (UInt8.ofNat (b.toNat / 16 * 16 + b.toNat % 16) :: bs, rest) = _
      rw [hbyte]
    · exact toUpper_digit_ne_quote _ hhigh

/-! ## Numbers -/

/-- No digit goes on with the text. -/
theorem takeWhile_isDigit_of_endsWord (h : endsWord rest = true) :
    rest.takeWhile Char.isDigit = [] ∧ rest.dropWhile Char.isDigit = rest := by
  cases rest with
  | nil => exact ⟨rfl, rfl⟩
  | cons c rest =>
    have hc : ¬ c.isDigit = true := by
      intro hd
      simp [endsWord, Char.isAlphanum, hd] at h
    exact ⟨List.takeWhile_cons_of_neg hc, List.dropWhile_cons_of_neg hc⟩

/-- The digits of a number are read up to the end of the word. -/
theorem readNumber_toDigits (n : Nat) (hrest : endsWord rest = true) :
    readNumber (Nat.toDigits 10 n ++ rest) = some (n, rest) := by
  have hdigits : ∀ c ∈ Nat.toDigits 10 n, c.isDigit = true := fun c hc =>
    Nat.isDigit_of_mem_toDigits (by decide) (by decide) hc
  obtain ⟨htake, hdrop⟩ := takeWhile_isDigit_of_endsWord hrest
  unfold readNumber
  rw [List.takeWhile_append_of_pos hdigits, List.dropWhile_append_of_pos hdigits, htake, hdrop, List.append_nil,
    if_pos ⟨Nat.toDigits_ne_nil, hrest⟩, Nat.ofDigitChars_ten_toDigits]

/-- A number begins with a digit, and no other literal does. -/
theorem readScalar_of_isDigit {c : Char} (hc : c.isDigit = true) (cs : List Char) :
    readScalar (c :: cs) = (readNumber (c :: cs)).map fun r => (.number r.1, r.2) := by
  have hne {d : Char} {ds : List Char} (hd : d.isDigit = false) : c :: cs ≠ d :: ds := by
    intro h
    rw [(List.cons.inj h).1, hd] at hc
    cases hc
  rw [readScalar]
  · exact fun _ => hne rfl
  · exact fun _ => hne rfl
  · exact fun _ => hne rfl
  · exact fun _ => hne rfl

theorem readScalar_repr (n : Nat) (hrest : endsWord rest = true) :
    readScalar ((Nat.repr n).toList ++ rest) = some (.number n, rest) := by
  rw [Nat.repr, String.toList_ofList]
  obtain ⟨c, cs, hcs⟩ := List.exists_cons_of_ne_nil (Nat.toDigits_ne_nil (n := n) (b := 10))
  have hc : c.isDigit = true := Nat.isDigit_of_mem_toDigits (by decide) (by decide) (hcs ▸ List.mem_cons_self)
  have hnumber := readNumber_toDigits n hrest
  rw [hcs, List.cons_append] at hnumber ⊢
  rw [readScalar_of_isDigit hc, hnumber, Option.map_some]

/-- An integer has its sign in front of its digits. -/
theorem readScalar_integerText (n : Int) (hrest : endsWord rest = true) :
    readScalar ((Number.integerText n).toList ++ rest) = some (.number n, rest) := by
  unfold Number.integerText
  split
  · next hneg =>
    have hn : -(n.natAbs : Int) = n := by omega
    rw [String.toList_append, List.append_assoc]
    show readScalar ('-' :: ((Nat.repr n.natAbs).toList ++ rest)) = _
    rw [readScalar, Nat.repr, String.toList_ofList, readNumber_toDigits _ hrest, Option.map_some, hn]
  · next hpos =>
    have hn : (n.natAbs : Int) = n := by omega
    rw [readScalar_repr _ hrest, hn]

end Texts

/-! ## The word `NULL` -/

theorem BeginsWithNull.exists_head {cs : List Char} (h : BeginsWithNull cs) :
    ∃ c d ds, cs = c :: d :: ds ∧ c.toUpper = 'N' ∧ d.toUpper = 'U' := by
  obtain ⟨h, -⟩ := h
  match cs with
  | [] | [_] => simp at h
  | c :: d :: ds =>
    simp only [List.take_succ_cons, List.map_cons, List.cons.injEq] at h
    exact ⟨c, d, ds, rfl, h.1, h.2.1⟩

/-- What begins with another letter is another word. -/
theorem not_beginsWithNull_cons {c : Char} (hc : c.toUpper ≠ 'N') (cs : List Char) : ¬ BeginsWithNull (c :: cs) := by
  intro h
  obtain ⟨d, _, _, he, hd, -⟩ := h.exists_head
  exact hc ((List.cons.inj he).1 ▸ hd)

theorem toUpper_ne_of_isNumeral {c : Char} (h : isNumeral c = true) : c.toUpper ≠ 'U' := by
  rcases Bool.or_eq_true_iff.1 h with hd | hm
  · have hupper : c.toUpper = c := by
      simp only [Char.isDigit, Bool.and_eq_true, decide_eq_true_eq] at hd
      exact dif_neg fun hlower => UInt32.not_le.2 (UInt32.lt_of_le_of_lt hd.2 (by decide)) hlower.1
    rw [hupper]
    rintro rfl
    cases hd
  · have hmarks : (numeralMarks.all fun c => c.toUpper ≠ 'U') = true := by decide
    exact of_decide_eq_true (List.all_eq_true.1 hmarks c (List.contains_iff_mem.1 hm))

/-- A number may have the first letter of the word in it, but never the second one. -/
theorem Numeral.not_beginsWithNull {cs : List Char} (h : Numeral cs) : ¬ BeginsWithNull cs := by
  intro hnull
  obtain ⟨_, d, _, rfl, -, hd⟩ := hnull.exists_head
  exact toUpper_ne_of_isNumeral (h d (by simp)) hd

theorem not_beginsWithNull_between_quotes (s : String) : ¬ BeginsWithNull ("'" ++ s ++ "'").toList := by
  rw [String.append_assoc, String.toList_append]
  exact not_beginsWithNull_cons (by decide) _

/-- **`NULL` is written for `NULL` alone**, and for the floating point numbers that have no literal. -/
theorem Value.beginsWithNull_literal_iff {v : Value} : (∃ s, v.literal = some s ∧ BeginsWithNull s.toList) ↔
    v = .null ∨ ∃ x, v = .float x ∧ x.isFinite = false := by
  constructor
  · rintro ⟨s, hs, h⟩
    cases v with
    | null => exact .inl rfl
    | boolean b =>
      cases hs
      cases b <;> exact absurd h (by decide)
    | int n =>
      cases hs
      exact absurd h (numeral_integerText _).not_beginsWithNull
    | uint n =>
      cases hs
      exact absurd h (numeral_repr _).not_beginsWithNull
    | float x =>
      refine .inr ⟨x, rfl, ?_⟩
      cases hx : x.isFinite with
      | false => rfl
      | true =>
        rw [literal, if_pos hx] at hs
        cases hs
        exact absurd h (numeral_floatText _ x).not_beginsWithNull
    | decimal d =>
      cases hs
      exact absurd h (numeral_decimal d).not_beginsWithNull
    | text | date | time | datetime | uuid =>
      cases hs
      exact absurd h (not_beginsWithNull_between_quotes _)
    | timestamp m =>
      obtain ⟨d, -, rfl⟩ := Option.map_eq_some_iff.1 hs
      exact absurd h (not_beginsWithNull_between_quotes _)
    | bytes bs =>
      cases hs
      rw [String.append_assoc, String.toList_append] at h
      exact absurd h (not_beginsWithNull_cons (by decide) _)
    | list items =>
      obtain ⟨ls, -, rfl⟩ := Option.map_eq_some_iff.1 hs
      rw [String.append_assoc, String.toList_append] at h
      exact absurd h (not_beginsWithNull_cons (by decide) _)
  · rintro (rfl | ⟨x, rfl, hx⟩)
    · exact ⟨"NULL", rfl, by decide⟩
    · refine ⟨"NULL", ?_, by decide⟩
      rw [literal, hx, if_neg Bool.false_ne_true]

/-! ## Values -/

/-- The characters that stand behind a literal in a statement. -/
def closers : List Char := [',', ')', ';', ' ']

theorem endsWord_of_mem_closers {c : Char} (hc : c ∈ closers) (cs : List Char) : endsWord (c :: cs) = true := by
  have hall : (closers.all fun c => endsWord [c]) = true := by decide
  exact List.all_eq_true.1 hall c hc

theorem head?_ne_quote_of_mem_closers {c : Char} (hc : c ∈ closers) (cs : List Char) :
    (c :: cs).head? ≠ some '\x27' := by
  have hquote : '\x27' ∉ closers := by decide
  exact fun h => hquote (Option.some.inj h ▸ hc)

/-- What begins with another character than a parenthesis is no list. -/
theorem readLiteral_of_head? {cs : List Char} (h : cs.head? ≠ some '(') : readLiteral cs = readScalar cs := by
  rw [readLiteral]
  rintro cs rfl
  exact h rfl

/-- Neither a parenthesis nor a closer begins a literal that is no list. -/
theorem readScalar_eq_none {c : Char} (hc : c ∈ '(' :: closers) (cs : List Char) : readScalar (c :: cs) = none := by
  have hstart : (('(' :: closers).all fun c => c ∉ ['N', '\x27', 'X', '-'] ∧ c.isDigit = false) = true := by decide
  obtain ⟨hmark, hdigit⟩ := of_decide_eq_true (List.all_eq_true.1 hstart c hc)
  have hne {d : Char} {ds : List Char} (hd : d ∈ ['N', '\x27', 'X', '-']) : c :: cs ≠ d :: ds := by
    intro h
    rw [(List.cons.inj h).1] at hmark
    exact hmark hd
  have hnumber : readNumber (c :: cs) = none := by
    unfold readNumber
    rw [List.takeWhile_cons_of_neg (by simp [hdigit])]
    exact if_neg fun h => h.1 rfl
  rw [readScalar, hnumber]
  · rfl
  · exact fun _ => hne (by decide)
  · exact fun _ => hne (by decide)
  · exact fun _ => hne (by decide)
  · exact fun _ => hne (by decide)

namespace Value

variable {v : Value} {d : Datum} {s : String}

theorem readScalar_append (h : v.datum? = some d) (hs : v.literal = some s) (hv : v.isList = false) {c : Char}
    (hc : c ∈ closers) (cs : List Char) : readScalar (s.toList ++ c :: cs) = some (d, c :: cs) := by
  have hword := endsWord_of_mem_closers hc cs
  have hquote := head?_ne_quote_of_mem_closers hc cs
  have htext {s : String} (hs : Harmless true s.toList) :
      readScalar (("'" ++ s ++ "'").toList ++ c :: cs) = some (.text s, c :: cs) := by
    rw [Literal.quoted_of_harmless hs, readScalar_quoted s hquote]
  cases v with
  | null =>
    cases h
    cases hs
    show readScalar ('N' :: 'U' :: 'L' :: 'L' :: c :: cs) = _
    rw [readScalar, if_pos hword]
  | boolean b =>
    cases h
    cases hs
    cases b
    · exact readScalar_repr 0 hword
    · exact readScalar_repr 1 hword
  | int n =>
    cases h
    cases hs
    exact readScalar_integerText n.toInt hword
  | uint n =>
    cases h
    cases hs
    exact readScalar_repr n.toNat hword
  | float x => cases h
  | decimal d => cases h
  | text s =>
    cases h
    cases hs
    exact readScalar_quoted s hquote
  | bytes bs =>
    cases h
    cases hs
    have hliteral : ("X'" ++ String.ofList (Text.Hex.encodeUpper bs) ++ "'").toList =
        'X' :: '\x27' :: (Text.Hex.encodeUpper bs ++ ['\x27']) := by
      simp
    rw [hliteral, List.cons_append, List.cons_append, List.append_assoc, List.singleton_append, readScalar,
      readBytes_encodeUpper, Option.map_some]
  | date d =>
    cases h
    cases hs
    exact htext (harmless_date d)
  | time t =>
    cases h
    cases hs
    exact htext (harmless_time t)
  | datetime d =>
    cases h
    cases hs
    exact htext (harmless_datetime d)
  | timestamp m =>
    obtain ⟨clock, hclock, rfl⟩ := Option.map_eq_some_iff.1 h
    rw [literal, hclock] at hs
    cases hs
    exact htext (harmless_datetime clock)
  | uuid u =>
    cases h
    cases hs
    apply htext
    rw [Uuid.simple, String.toList_ofList]
    exact harmless_hexDigits 32 _
  | list items => cases hv

/-- A literal begins with a character that neither is skipped nor ends a list, and only that of a list with a
parenthesis. -/
theorem exists_literal_eq (h : v.datum? = some d) (hs : v.literal = some s) :
    ∃ c cs, s.toList = c :: cs ∧ c ∉ closers ∧ (c = '(' → v.isList = true) := by
  cases hv : v.isList with
  | true =>
    cases v with
    | list items =>
      obtain ⟨ls, -, rfl⟩ := Option.map_eq_some_iff.1 hs
      exact ⟨'(', _, by rw [String.toList_append, String.toList_append]; rfl, by decide, fun _ => rfl⟩
    | _ => cases hv
  | false =>
    have hread := readScalar_append h hs hv (c := ',') (by decide) []
    cases hcs : s.toList with
    | nil =>
      rw [hcs, List.nil_append, readScalar_eq_none (by decide)] at hread
      cases hread
    | cons c cs =>
      have hc : c ∉ '(' :: closers := by
        intro hc
        rw [hcs, List.cons_append, readScalar_eq_none hc] at hread
        cases hread
      rw [List.mem_cons, not_or] at hc
      exact ⟨c, cs, rfl, hc.2, fun h => absurd h hc.1⟩

theorem head?_literal_append (h : v.datum? = some d) (hs : v.literal = some s) {c : Char} (hc : c ∈ closers)
    (cs : List Char) : (s.toList ++ cs).head? ≠ some c := by
  obtain ⟨b, bs, hbs, hb, -⟩ := exists_literal_eq h hs
  rw [hbs]
  rintro h
  obtain rfl := Option.some.inj h
  exact hb hc

theorem skipBlanks_of_head? {cs : List Char} (h : cs.head? ≠ some ' ') : skipBlanks cs = cs := by
  cases cs with
  | nil => rfl
  | cons c cs => exact List.dropWhile_cons_of_neg (by simpa using h)

/-- The literals of a list that is not empty, up to the parenthesis that ends it. -/
def itemChars (s : String) (ls : List String) (rest : List Char) : List Char :=
  (Text.joinedBy ", " (s :: ls)).toList ++ ')' :: rest

theorem itemChars_cons (h : v.datum? = some d) (hs : v.literal = some s) (l : String) (ls : List String)
    (rest : List Char) :
    itemChars s (l :: ls) rest = s.toList ++ ',' :: ' ' :: itemChars l ls rest := by
  obtain ⟨c, cs, hcs, -⟩ := exists_literal_eq h hs
  have hne : s.isEmpty = false := by
    rw [String.isEmpty_eq_false_iff]
    intro he
    rw [he] at hcs
    cases hcs
  unfold itemChars
  rw [Text.joinedBy, hne, String.toList_append, String.toList_append, List.append_assoc, List.append_assoc]
  · rfl
  · exact List.cons_ne_nil _ _

/-- The first literal is not skipped, and does not end the list. -/
theorem head?_itemChars (h : v.datum? = some d) (hs : v.literal = some s) {c : Char} (hc : c ∈ closers)
    (ls : List String) (rest : List Char) : (itemChars s ls rest).head? ≠ some c := by
  cases ls with
  | nil => exact head?_literal_append h hs hc _
  | cons l ls =>
    rw [itemChars_cons h hs]
    exact head?_literal_append h hs hc _

theorem data?_cons_eq_some {vs : List Value} {ds : List Datum} :
    data? (v :: vs) = some ds ↔ ∃ d ds', v.datum? = some d ∧ data? vs = some ds' ∧ d :: ds' = ds := by
  simp [data?, Option.bind_eq_some_iff]

/-- A parenthesis begins a list, which has an item unless it ends at once. -/
theorem readLiteral_open {cs : List Char} (h : cs.head? ≠ some ')') (hs : skipBlanks cs = cs) :
    readLiteral ('(' :: cs) = (readItems cs).map fun r => (.list r.1, r.2) := by
  rw [readLiteral, hs]
  split
  · exact absurd rfl h
  · rfl

theorem readLiteral_scalar (h : v.datum? = some d) (hs : v.literal = some s) (hv : v.isList = false) {c : Char}
    (hc : c ∈ closers) (cs : List Char) : readLiteral (s.toList ++ c :: cs) = some (d, c :: cs) := by
  obtain ⟨b, bs, hbs, -, hlist⟩ := exists_literal_eq h hs
  have hhead : (s.toList ++ c :: cs).head? ≠ some '(' := by
    rw [hbs]
    intro h
    rw [hlist (Option.some.inj h)] at hv
    cases hv
  rw [readLiteral_of_head? hhead, readScalar_append h hs hv hc]

/-- The last item of a list. -/
theorem readItems_last {cs rest : List Char} (h : readLiteral cs = some (d, ')' :: rest)) :
    readItems cs = some ([d], rest) := by
  rw [readItems, h]
  rfl

/-- An item with another one behind it. -/
theorem readItems_next {cs rest : List Char} (h : readLiteral cs = some (d, ',' :: ' ' :: rest))
    (hrest : skipBlanks rest = rest) (hlength : rest.length < cs.length) :
    readItems cs = (readItems rest).map fun r => (d :: r.1, r.2) := by
  have hskip : skipBlanks (' ' :: rest) = rest := hrest
  rw [readItems, h]
  show (if (skipBlanks (' ' :: rest)).length < cs.length then _ else _) = _
  rw [hskip, if_pos hlength]

mutual

/-- **A literal is read back**, and nothing of what stands behind it. -/
theorem readLiteral_append (v : Value) {d : Datum} {s : String} {c : Char} {cs : List Char} (h : v.datum? = some d)
    (hs : v.literal = some s) (hc : c ∈ closers) : readLiteral (s.toList ++ c :: cs) = some (d, c :: cs) := by
  cases v with
  | list items =>
    obtain ⟨ds, hds, rfl⟩ := Option.map_eq_some_iff.1 h
    obtain ⟨ls, hls, rfl⟩ := Option.map_eq_some_iff.1 hs
    cases items with
    | nil =>
      cases hds
      cases hls
      show readLiteral ('(' :: ')' :: c :: cs) = _
      rw [readLiteral]
      rfl
    | cons w ws =>
      obtain ⟨e, -, he, -⟩ := data?_cons_eq_some.1 hds
      obtain ⟨l, rest, hl, hrest, rfl⟩ := literals_cons_eq_some.1 hls
      have hitems : readItems (itemChars l rest (c :: cs)) = some (ds, c :: cs) := readItems_append w ws hds hl hrest
      have hblank := skipBlanks_of_head? (head?_itemChars he hl (c := ' ') (by decide) rest (c :: cs))
      have hliteral : ("(" ++ Text.joinedBy ", " (l :: rest) ++ ")").toList ++ c :: cs =
          '(' :: itemChars l rest (c :: cs) := by
        rw [String.toList_append, String.toList_append, List.append_assoc, List.append_assoc]
        rfl
      rw [hliteral, readLiteral_open (head?_itemChars he hl (by decide) rest _) hblank, hitems]
      rfl
  | _ => exact readLiteral_scalar h hs rfl hc cs

theorem readItems_append (v : Value) (vs : List Value) {ds : List Datum} {s : String} {ls : List String}
    {rest : List Char} (h : data? (v :: vs) = some ds) (hs : v.literal = some s) (hls : literals vs = some ls) :
    readItems (itemChars s ls rest) = some (ds, rest) := by
  obtain ⟨d, ds', hd, hds', rfl⟩ := data?_cons_eq_some.1 h
  cases vs with
  | nil =>
    cases hds'
    cases hls
    exact readItems_last (readLiteral_append v hd hs (by decide))
  | cons w ws =>
    obtain ⟨e, -, he, -⟩ := data?_cons_eq_some.1 hds'
    obtain ⟨l, ls', hl, hls', rfl⟩ := literals_cons_eq_some.1 hls
    have hread : readLiteral (s.toList ++ ',' :: ' ' :: itemChars l ls' rest) =
        some (d, ',' :: ' ' :: itemChars l ls' rest) := readLiteral_append v hd hs (by decide)
    have hblank := skipBlanks_of_head? (head?_itemChars he hl (c := ' ') (by decide) ls' rest)
    have hrest : readItems (itemChars l ls' rest) = some (ds', rest) := readItems_append w ws hds' hl hls'
    -- what is left behind the comma is shorter, so the reader goes on with it
    have hlength : (itemChars l ls' rest).length < (itemChars s (l :: ls') rest).length := by
      rw [itemChars_cons hd hs, List.length_append, List.length_cons, List.length_cons]
      omega
    rw [← itemChars_cons hd hs] at hread
    rw [readItems_next hread hblank hlength, hrest]
    rfl

end

end Value

/-! ## Names -/

/-- The characters of a name are read back up to the backtick that ends it, unless another one follows. -/
theorem readNameChars_escaped {rest : List Char} (hrest : rest.head? ≠ some '\x60') : ∀ cs : List Char,
    readNameChars (cs.flatMap Literal.escapeIdentifier ++ '\x60' :: rest) = some (cs, rest)
  | [] => by
    rw [List.flatMap_nil, List.nil_append, readNameChars]
    rintro cs rfl
    exact hrest rfl
  | c :: cs => by
    have ih := readNameChars_escaped hrest cs
    rw [List.flatMap_cons, List.append_assoc]
    by_cases hc : c = '\x60'
    · subst hc
      show readNameChars ('\x60' :: '\x60' :: (cs.flatMap Literal.escapeIdentifier ++ '\x60' :: rest)) = _
      rw [readNameChars, ih]
      rfl
    · rw [Literal.escapeIdentifier, if_neg hc, List.singleton_append, readNameChars, ih]
      · rfl
      · exact fun _ h _ => hc h
      · exact hc

theorem readName_identifier (s : String) {rest : List Char} (hrest : rest.head? ≠ some '\x60') :
    readName ((Literal.identifier s).toList ++ rest) = some (s, rest) := by
  have happend : (Literal.identifier s).toList ++ rest =
      '\x60' :: (s.toList.flatMap Literal.escapeIdentifier ++ '\x60' :: rest) := by
    simp [Literal.identifier]
  rw [happend, readName, readNameChars_escaped hrest, Option.map_some, String.ofList_toList]

/-! ## Literals and names -/

/-- A value without floating point numbers and decimals in it, and without moments that clocks of universal time cannot
show, which have no literal. -/
inductive Value.IsExact : Value → Prop
  | null : IsExact .null
  | boolean (b : Bool) : IsExact (.boolean b)
  | int (n : Int64) : IsExact (.int n)
  | uint (n : UInt64) : IsExact (.uint n)
  | text (s : String) : IsExact (.text s)
  | bytes (bs : List UInt8) : IsExact (.bytes bs)
  | date (d : Calendar.Date) : IsExact (.date d)
  | time (t : Calendar.Time) : IsExact (.time t)
  | datetime (d : Calendar.DateTime) : IsExact (.datetime d)
  | timestamp {m : Calendar.Moment} {d : Calendar.DateTime} : m.utc? = some d → IsExact (.timestamp m)
  | uuid (u : Uuid) : IsExact (.uuid u)
  | list {items : List Value} : (∀ v ∈ items, IsExact v) → IsExact (.list items)

/-- What has a literal and stands for something, in a list that has both for each item. -/
theorem Value.exists_data? : ∀ {vs : List Value}, (∀ v ∈ vs, ∃ d s, v.datum? = some d ∧ v.literal = some s) →
    ∃ ds ls, data? vs = some ds ∧ literals vs = some ls
  | [], _ => ⟨[], [], rfl, rfl⟩
  | v :: vs, h => by
    obtain ⟨d, s, hd, hs⟩ := h v List.mem_cons_self
    obtain ⟨ds, ls, hds, hls⟩ := exists_data? fun w hw => h w (List.mem_cons_of_mem _ hw)
    exact ⟨d :: ds, s :: ls, data?_cons_eq_some.2 ⟨d, ds, hd, hds, rfl⟩, literals_cons_eq_some.2 ⟨s, ls, hs, hls, rfl⟩⟩

theorem Value.IsExact.exists_datum? {v : Value} (h : v.IsExact) : ∃ d s, v.datum? = some d ∧ v.literal = some s := by
  induction h with
  | timestamp hm => exact ⟨_, _, by rw [datum?, hm]; rfl, by rw [literal, hm]; rfl⟩
  | list _ ih =>
    obtain ⟨ds, ls, hds, hls⟩ := exists_data? ih
    exact ⟨.list ds, _, by rw [datum?, hds, Option.map_some], by rw [literal, hls, Option.map_some]⟩
  | _ => exact ⟨_, _, rfl, rfl⟩

/-- **Literals and names are read back.** Of the literal of a value that is built from integers, truth values, texts,
bytes, dates, times, identifiers and lists of these, a server reads what the value stands for, and leaves what follows
from a comma, a parenthesis, a semicolon or a blank on. Of a name in backticks it reads the name. -/
theorem literals_readBack :
    (∀ v : Value, v.IsExact → ∃ d s, v.datum? = some d ∧ v.literal = some s ∧
      ∀ c ∈ closers, ∀ cs, readLiteral (s.toList ++ c :: cs) = some (d, c :: cs)) ∧
    ∀ (name : String) (cs : List Char), cs.head? ≠ some '\x60' →
      readName ((Literal.identifier name).toList ++ cs) = some (name, cs) := by
  refine ⟨fun v hv => ?_, fun name cs h => readName_identifier name h⟩
  obtain ⟨d, s, hd, hs⟩ := hv.exists_datum?
  exact ⟨d, s, hd, hs, fun c hc cs => Value.readLiteral_append v hd hs hc⟩

/-- A list with quotes and parentheses in a text, and with lists in it. -/
def Sample.mixedList : Value := .list [.text "it's (a \\), ", .list [], .bytes [0x27, 0xff], .list [.int (-5), .null]]

/-- A list is read to its end, and so is a name with a backtick. -/
theorem literals_readBack_list :
    (∃ d, Sample.mixedList.datum? = some d ∧
      readLiteral ("('it''s (a \\\\), ', (), X'27FF', (-5, NULL))".toList ++ ", 1".toList) = some (d, ", 1".toList)) ∧
    readName "`a``;b`.c".toList = some ("a`;b", ".c".toList) := by
  have hexact : Sample.mixedList.IsExact := by
    refine .list (List.forall_mem_cons.2 ⟨.text _, List.forall_mem_cons.2 ⟨.list (List.forall_mem_nil _),
      List.forall_mem_cons.2 ⟨.bytes _, List.forall_mem_cons.2 ⟨.list ?_, List.forall_mem_nil _⟩⟩⟩⟩)
    exact List.forall_mem_cons.2 ⟨.int _, List.forall_mem_cons.2 ⟨.null, List.forall_mem_nil _⟩⟩
  obtain ⟨d, s, hd, hs, hread⟩ := literals_readBack.1 _ hexact
  cases hs
  exact ⟨⟨d, hd, hread ',' (by decide) " 1".toList⟩, literals_readBack.2 "a`;b" ".c".toList (by decide)⟩

end SqlMapper
