import Mathlib.Data.List.TakeWhile
import SqlMapper.Calendar.Reading
import SqlMapper.Field.Basic
import SqlMapper.Proofs.Connection.Wire
import SqlMapper.Proofs.Number.Integer

/-!
# Dates and times are read back from their literals

A number with leading zeros is read by a component of its width, whatever follows it (`takePadded_padded`), and so the
parts of a pattern take the parts of a literal one after the other (`Takes.append`). The fraction of a second is the one
part that takes all digits there are. A pattern with other separators does not take a literal, and one with a part too
many or too few does not end where the literal does: each pattern of a date, a time or both reads from a literal what it
was written for, or nothing at all (`Date.reads_literal`, `Time.reads_literal`, `DateTime.reads_literal`).
-/

namespace SqlMapper

namespace Calendar

open Number Text.Utf8

namespace Reading

variable {width n : Nat} {rest : List UInt8}

/-- Where as many digits are wanted as there are in front of the text, they are taken. -/
theorem takeNumber_digits : ∀ {cs : List Char} (value : Nat) (rest : List UInt8), (∀ c ∈ cs, c.isDigit = true) →
    takeNumber cs.length cs.length value (cs.map asciiByte ++ rest) = some (Nat.ofDigitChars 10 cs value, rest)
  | [], _, _, _ => rfl
  | c :: cs, value, rest, h => by
    obtain ⟨hc, hcs⟩ := List.forall_mem_cons.1 h
    have ih := takeNumber_digits (value * 10 + (c.toNat - 48)) rest hcs
    simp only [List.length_cons, List.map_cons, List.cons_append, takeNumber, digitValue?_asciiByte hc,
      Nat.add_sub_cancel, ih, Nat.ofDigitChars_cons, Nat.mul_comm]
    rfl

/-- The digits of a number that fills its width. -/
theorem takeNumber_padded (width n : Nat) (hw : 0 < width) (hn : n < 10 ^ width) (rest : List UInt8) :
    takeNumber width width 0 (encode (padded width n) ++ rest) = some (n, rest) := by
  have hdigits : ∀ c ∈ paddedDigits width n, c.isDigit = true := fun _ => isDigit_of_mem_paddedDigits
  have htake := takeNumber_digits 0 rest hdigits
  rw [length_paddedDigits hw hn, ofDigitChars_paddedDigits] at htake
  rw [encode_padded]
  exact htake

/-- **A number with leading zeros is read back**, whatever follows it. -/
theorem takePadded_padded (width n : Nat) (hw : 0 < width) (hn : n < 10 ^ width) (rest : List UInt8) :
    takePadded .zero width (encode (padded width n) ++ rest) = some (n, rest) := takeNumber_padded width n hw hn rest

/-- A digit is no sign. -/
theorem takeSign_padded (width n : Nat) (rest : List UInt8) :
    takeSign (encode (padded width n) ++ rest) = (none, encode (padded width n) ++ rest) := by
  obtain ⟨c, cs, hcs⟩ := List.exists_cons_of_ne_nil (paddedDigits_ne_nil width n)
  have hc := toNat_of_isDigit (isDigit_of_mem_paddedDigits (hcs ▸ List.mem_cons_self))
  have hne {m : Nat} (hm : m < 48) : asciiByte c ≠ UInt8.ofNat m := by
    unfold asciiByte
    rw [Ne, byte_eq_byte (by omega) (by omega)]
    omega
  rw [encode_padded, hcs, List.map_cons, List.cons_append, takeSign]
  · exact fun _ h => hne (m := 0x2d) (by decide) (List.cons.inj h).1
  · exact fun _ h => hne (m := 0x2b) (by decide) (List.cons.inj h).1

/-! ## Parts of a pattern -/

/-- The items take the text, whatever follows it, and note what it tells. -/
def Takes (items : List PatternItem) (s : String) (noted : Noted → Noted) : Prop :=
  ∀ items' rest n, takeItems (items ++ items') (encode s ++ rest) n = takeItems items' rest (noted n)

variable {items items' : List PatternItem} {s t : String} {noted noted' : Noted → Noted}

theorem Takes.append (h : Takes items s noted) (h' : Takes items' t noted') :
    Takes (items ++ items') (s ++ t) (noted' ∘ noted) := by
  intro more rest n
  rw [List.append_assoc, encode_append, List.append_assoc, h, h']
  rfl

/-- A fixed text takes itself. -/
theorem takes_literal (s : String) : Takes [.literal (encode s)] s id := by
  intro items' rest n
  rw [List.singleton_append, takeItems, List.take_left', List.drop_left', if_pos rfl]
  · rfl
  · rfl
  · rfl

theorem takes_component {c : Component} (h : ∀ rest n, takeComponent c (encode s ++ rest) n = some (noted n, rest)) :
    Takes [.component c] s noted := by
  intro items' rest n
  rw [List.singleton_append, takeItems, h]
  rfl

theorem takes_year (h : n < 10000) : Takes [.component (.year .zero .full false false)] (padded 4 n)
    fun told => { told with year := some (n : Int) } := by
  apply takes_component
  intro rest told
  simp [takeComponent, takeYear, takeSign_padded, takePadded_padded 4 n (by decide) h]

/-- A component that takes two digits and checks the number. -/
theorem takes_two_digits {c : Component} (valid : Nat → Prop) [DecidablePred valid] (noted : Nat → Noted → Noted)
    (hc : ∀ bytes told, takeComponent c bytes told = (do
      let (m, bytes) ← takePadded .zero 2 bytes
      guard (valid m)
      return (noted m told, bytes)))
    (hn : n < 100) (h : valid n) : Takes [.component c] (padded 2 n) (noted n) := by
  apply takes_component
  intro rest told
  rw [hc, takePadded_padded 2 n (by decide) hn]
  simp [h]

theorem takes_month (h : 1 ≤ n ∧ n ≤ 12) : Takes [.component (.month .zero .numerical true)] (padded 2 n)
    fun told => { told with month := some n } :=
  takes_two_digits (fun m => 1 ≤ m ∧ m ≤ 12) (fun m told => { told with month := some m }) (fun _ _ => rfl) (by omega) h

theorem takes_day (h : 1 ≤ n ∧ n ≤ 31) : Takes [.component (.day .zero)] (padded 2 n)
    fun told => { told with day := some n } :=
  takes_two_digits (fun d => 1 ≤ d ∧ d ≤ 31) (fun d told => { told with day := some d }) (fun _ _ => rfl) (by omega) h

theorem takes_hour (h : n < 24) : Takes [.component (.hour .zero false)] (padded 2 n)
    fun told => { told with hour := some n } :=
  takes_two_digits (· ≤ 23) (fun m told => { told with hour := some m }) (fun _ _ => rfl) (by omega) (by omega)

theorem takes_minute (h : n < 60) : Takes [.component (.minute .zero)] (padded 2 n)
    fun told => { told with minute := some n } :=
  takes_two_digits (· ≤ 59) (fun m told => { told with minute := some m }) (fun _ _ => rfl) (by omega) (by omega)

theorem takes_second (h : n < 60) : Takes [.component (.second .zero)] (padded 2 n)
    fun told => { told with second := some n } :=
  takes_two_digits (· ≤ 60) (fun m told => { told with second := some m }) (fun _ _ => rfl) (by omega) (by omega)

/-- A fraction of six digits counts thousands. It is taken up to its end. -/
theorem takeComponent_subsecond (h : n < 1000000) (told : Noted) :
    takeComponent (.subsecond none) (encode (padded 6 n)) told =
      some ({ told with subsecond := some (n * 1000) }, []) := by
  have hlength : (encode (padded 6 n)).length = 6 := by
    rw [encode_padded, List.length_map, length_paddedDigits (by decide) h]
  have hdigits : (encode (padded 6 n)).takeWhile (fun b => (digitValue? b).isSome) = encode (padded 6 n) := by
    rw [List.takeWhile_eq_self_iff, encode_padded]
    intro b hb
    obtain ⟨c, hc, rfl⟩ := List.mem_map.1 hb
    rw [digitValue?_asciiByte (isDigit_of_mem_paddedDigits hc)]
    rfl
  have htake := takeNumber_padded 6 n (by decide) h []
  rw [List.append_nil] at htake
  generalize encode (padded 6 n) = bytes at hlength hdigits htake
  have hne : bytes ≠ [] := List.ne_nil_of_length_pos (by omega)
  have hdrop : bytes.drop 6 = [] := List.drop_eq_nil_of_le hlength.le
  simp [takeComponent, hdigits, hlength, hne, htake, hdrop]

/-! ## Texts that end too early or too late -/

/-- What is left behind the last item is noted nowhere. -/
theorem note_of_takes (h : Takes items s noted) : note items s = some (noted {}) := by
  have htake := h [] [] {}
  rw [List.append_nil, List.append_nil] at htake
  simp [note, htake, takeItems]

theorem note_of_takes_append (h : Takes items s noted) (ht : encode t ≠ []) : note items (s ++ t) = none := by
  have htake := h [] (encode t) {}
  rw [List.append_nil] at htake
  simp [note, encode_append, htake, takeItems, ht]

/-- The text does not go on with the literal of the pattern. -/
theorem note_of_takes_ne (h : Takes items s noted) {l : List UInt8} (hl : (encode t).take l.length ≠ l) :
    note (items ++ .literal l :: items') (s ++ t) = none := by
  have htake := h (.literal l :: items') (encode t) {}
  rw [takeItems, if_neg hl] at htake
  simp [note, encode_append, htake]

/-! ## Literals -/

/-- The items of a date with a text between its parts. -/
def dateItems (separator : String) : List PatternItem :=
  [.component (.year .zero .full false false), .literal (encode separator),
    .component (.month .zero .numerical true), .literal (encode separator), .component (.day .zero)]

/-- The items of an hour with a minute. -/
def minuteItems : List PatternItem :=
  [.component (.hour .zero false), .literal (encode ":"), .component (.minute .zero)]

/-- The items of a second behind a minute. -/
def secondItems : List PatternItem := [.literal (encode ":"), .component (.second .zero)]

/-- The items of a fraction behind a second. -/
def fractionItems : List PatternItem := [.literal (encode "."), .component (.subsecond none)]

/-- What the literal of a date tells. -/
def tellDate (d : Date) (told : Noted) : Noted :=
  { told with year := some d.year, month := some d.month, day := some d.day }

/-- What the hour and the minute of a literal tell. -/
def tellMinute (t : Time) (told : Noted) : Noted := { told with hour := some t.hour.val, minute := some t.minute.val }

/-- What the second of a literal tells. -/
def tellSecond (t : Time) (told : Noted) : Noted := { told with second := some t.second.val }

/-- What the fraction of a literal tells. -/
def tellFraction (t : Time) (told : Noted) : Noted := { told with subsecond := some (t.microsecond * 1000) }

variable {d : Date} {t : Time}

theorem takes_date (h : 0 ≤ d.year) : Takes (dateItems "-") d.literal (tellDate d) := by
  obtain ⟨-, hyear, hm1, hm12, hd1, hd⟩ := d.isDate
  have hday : d.day ≤ 31 := by
    unfold daysInMonth at hd
    split at hd
    · split at hd <;> omega
    · split at hd <;> omega
  have hnat : (d.year.natAbs : Int) = d.year := by omega
  have hparts := ((((takes_year (n := d.year.natAbs) (by omega)).append (takes_literal "-")).append
    (takes_month ⟨hm1, hm12⟩)).append (takes_literal "-")).append (takes_day ⟨hd1, hday⟩)
  rw [hnat] at hparts
  rw [Date.literal, if_neg (by omega)]
  exact hparts

theorem takes_minutes (t : Time) :
    Takes minuteItems (padded 2 t.hour.val ++ ":" ++ padded 2 t.minute.val) (tellMinute t) :=
  ((takes_hour t.hour.isLt).append (takes_literal ":")).append (takes_minute t.minute.isLt)

theorem takes_seconds (t : Time) : Takes secondItems (":" ++ padded 2 t.second.val) (tellSecond t) :=
  (takes_literal ":").append (takes_second t.second.isLt)

/-- A literal has its parts in the order of a pattern. -/
theorem literal_eq (t : Time) : t.literal = padded 2 t.hour.val ++ ":" ++ padded 2 t.minute.val ++
    (":" ++ padded 2 t.second.val) ++ if t.microsecond = 0 then "" else "." ++ padded 6 t.microsecond := by
  simp only [Time.literal, String.append_assoc]

section Behind

variable {front : List PatternItem} (h : Takes front s noted) (t : Time)

include h

theorem takes_to_second : Takes (front ++ minuteItems ++ secondItems)
    (s ++ (padded 2 t.hour.val ++ ":" ++ padded 2 t.minute.val) ++ (":" ++ padded 2 t.second.val))
    (tellSecond t ∘ tellMinute t ∘ noted) := (h.append (takes_minutes t)).append (takes_seconds t)

/-- A pattern that ends with the minute does not end where the literal of a time does. -/
theorem note_minute : note (front ++ minuteItems) (s ++ t.literal) = none := by
  have hsplit : s ++ t.literal = s ++ (padded 2 t.hour.val ++ ":" ++ padded 2 t.minute.val) ++
      (":" ++ (padded 2 t.second.val ++ if t.microsecond = 0 then "" else "." ++ padded 6 t.microsecond)) := by
    simp only [literal_eq, String.append_assoc]
  rw [hsplit]
  refine note_of_takes_append (h.append (takes_minutes t)) ?_
  rw [encode_append]
  exact List.append_ne_nil_of_left_ne_nil (by decide) _

/-- A pattern that ends with the second reads the literal of a time without fraction. -/
theorem note_second : note (front ++ minuteItems ++ secondItems) (s ++ t.literal) =
    if t.microsecond = 0 then some (tellSecond t (tellMinute t (noted {}))) else none := by
  rw [literal_eq, ← String.append_assoc, ← String.append_assoc]
  split
  · rw [String.append_empty]
    exact note_of_takes (takes_to_second h t)
  · refine note_of_takes_append (takes_to_second h t) ?_
    rw [encode_append]
    exact List.append_ne_nil_of_left_ne_nil (by decide) _

/-- A pattern with a fraction reads the literal of a time with one. -/
theorem note_fraction : note (front ++ minuteItems ++ secondItems ++ fractionItems) (s ++ t.literal) =
    if t.microsecond = 0 then none
    else some (tellFraction t (tellSecond t (tellMinute t (noted {})))) := by
  rw [literal_eq, ← String.append_assoc, ← String.append_assoc]
  split
  · exact note_of_takes_ne (takes_to_second h t) (by decide)
  · have hmicro : t.microsecond < 1000000 := by
      have := t.nanosecond.isLt
      unfold Time.microsecond
      omega
    have htake := ((takes_to_second h t).append (takes_literal ".")) [.component (.subsecond none)]
      (encode (padded 6 t.microsecond)) {}
    rw [← encode_append, String.append_assoc] at htake
    unfold note fractionItems
    rw [← List.singleton_append, ← List.append_assoc, htake, takeItems, takeComponent_subsecond hmicro]
    rfl

end Behind

/-! ## Values that are told -/

theorem date?_of_told {told : Noted} (hy : told.year = some d.year) (hm : told.month = some d.month)
    (hd : told.day = some d.day) (ho : told.ordinal = none) : told.date? = some d := by
  unfold Noted.date?
  rw [hy, hm, hd, ho]
  exact d.of?_self

theorem time?_tellSecond {told : Noted} (hs : told.subsecond = none) (h : t.nanosecond.val % 1000 = 0)
    (h0 : t.microsecond = 0) : (tellSecond t (tellMinute t told)).time? = some t := by
  have htime := WireValue.of?_microsecond h
  rw [h0] at htime
  unfold Noted.time? tellSecond tellMinute
  rw [hs]
  exact htime

theorem time?_tellFraction (told : Noted) (h : t.nanosecond.val % 1000 = 0) :
    (tellFraction t (tellSecond t (tellMinute t told))).time? = some t := WireValue.of?_microsecond h

end Reading

open Reading

/-! ## Formats -/

/-- Each pattern reads the value from the text or nothing at all, and one of them reads it. -/
structure Reads {α : Type} (read : List PatternItem → String → Option α) (formats : List String) (s : String) (a : α) :
    Prop where
  none_or : ∀ format ∈ formats, ∃ items, readPattern format = .ok items ∧
    (read items s = none ∨ read items s = some a)
  found : ∃ format ∈ formats, ∃ items, readPattern format = .ok items ∧ read items s = some a

theorem Reads.of_patterns {α : Type} {read : List PatternItem → String → Option α} {formats : List String}
    {patterns : List (List PatternItem)} {s : String} {a : α} (h : formats.map readPattern = patterns.map .ok)
    (hnone : ∀ items ∈ patterns, read items s = none ∨ read items s = some a)
    (hfound : ∃ items ∈ patterns, read items s = some a) : Reads read formats s a := by
  constructor
  · intro format hf
    have hmem : readPattern format ∈ patterns.map .ok := h ▸ List.mem_map_of_mem hf
    obtain ⟨items, hi, heq⟩ := List.mem_map.1 hmem
    exact ⟨items, heq.symm, hnone items hi⟩
  · obtain ⟨items, hi, hread⟩ := hfound
    have hmem : .ok items ∈ formats.map readPattern := h ▸ List.mem_map_of_mem hi
    obtain ⟨format, hf, heq⟩ := List.mem_map.1 hmem
    exact ⟨format, hf, items, heq, hread⟩

/-- Of two patterns one reads the text, and which one a condition decides. The others read nothing. -/
theorem Reads.of_either {α : Type} {read : List PatternItem → String → Option α} {formats : List String}
    {patterns : List (List PatternItem)} {s : String} {a : α} (h : formats.map readPattern = patterns.map .ok)
    {p q : List PatternItem} {b : Prop} [Decidable b] (hp : p ∈ patterns) (hq : q ∈ patterns)
    (hreadp : read p s = if b then some a else none) (hreadq : read q s = if b then none else some a)
    (hnone : ∀ items ∈ patterns, items = p ∨ items = q ∨ read items s = none) : Reads read formats s a := by
  refine .of_patterns h (fun items hi => ?_) ?_
  · rcases hnone items hi with rfl | rfl | hread
    · rw [hreadp]
      split <;> simp
    · rw [hreadq]
      split <;> simp
    · exact .inl hread
  · by_cases hb : b
    · exact ⟨p, hp, by rw [hreadp, if_pos hb]⟩
    · exact ⟨q, hq, by rw [hreadq, if_neg hb]⟩

theorem readPattern_dateFormats :
    FieldKind.dateFormats.map readPattern = [dateItems "-", dateItems "/"].map .ok := rfl

theorem readPattern_timeFormats : FieldKind.timeFormats.map readPattern =
    [minuteItems ++ secondItems ++ fractionItems, minuteItems ++ secondItems, minuteItems].map .ok := rfl

/-- The items of a date and what stands between it and a time. -/
def frontItems (separator : String) : List PatternItem := dateItems "-" ++ [.literal (encode separator)]

theorem readPattern_datetimeFormats : FieldKind.datetimeFormats.map readPattern =
    [frontItems " " ++ minuteItems ++ secondItems ++ fractionItems, frontItems " " ++ minuteItems ++ secondItems,
      frontItems "T" ++ (minuteItems ++ secondItems ++ fractionItems),
      frontItems "T" ++ (minuteItems ++ secondItems)].map .ok := rfl

/-- Characters of one byte that stand at the front of a text and in a pattern. -/
theorem take_encode_ne {t u : String} {a b : UInt8} (ht : encode t = [a]) (hu : encode u = [b]) (hne : a ≠ b)
    (rest : String) : (encode (t ++ rest)).take (encode u).length ≠ encode u := by
  rw [encode_append, ht, hu]
  simpa using hne

/-- **The literal of a date** is read as the date by the patterns of dates. -/
theorem Date.reads_literal {d : Date} (h : 0 ≤ d.year) : Reads Date.read FieldKind.dateFormats d.literal d := by
  have hread : Date.read (dateItems "-") d.literal = some d := by
    unfold Date.read
    rw [note_of_takes (takes_date h)]
    show (tellDate d {}).date? = some d
    exact date?_of_told rfl rfl rfl rfl
  have hother : Date.read (dateItems "/") d.literal = none := by
    have hyear : d.year.natAbs < 10000 := by
      have := d.isDate.2.1
      omega
    have hsplit : d.literal = padded 4 d.year.natAbs ++ ("-" ++ (padded 2 d.month ++ ("-" ++ padded 2 d.day))) := by
      rw [Date.literal, if_neg (by omega)]
      simp only [String.append_assoc]
    have hne := take_encode_ne (t := "-") (u := "/") rfl rfl (by decide) (padded 2 d.month ++ ("-" ++ padded 2 d.day))
    unfold Date.read
    rw [hsplit]
    exact congrArg (Option.bind · Noted.date?) (note_of_takes_ne (takes_year hyear) hne)
  refine .of_patterns readPattern_dateFormats ?_ ⟨_, List.mem_cons_self, hread⟩
  simp [hread, hother]

/-- **The literal of a time** of whole microseconds is read as the time by the patterns of times. -/
theorem Time.reads_literal {t : Time} (h : t.nanosecond.val % 1000 = 0) :
    Reads Time.read FieldKind.timeFormats t.literal t := by
  have hnothing : Takes [] "" id := fun _ _ _ => rfl
  have hminute := note_minute hnothing t
  have hsecond := note_second hnothing t
  have hfraction := note_fraction hnothing t
  simp only [List.nil_append, String.empty_append] at hminute hsecond hfraction
  refine .of_either readPattern_timeFormats (p := minuteItems ++ secondItems)
    (q := minuteItems ++ secondItems ++ fractionItems) (b := t.microsecond = 0) (by simp) (by simp) ?_ ?_ ?_
  · rw [Time.read, hsecond]
    split
    · next h0 =>
      show (tellSecond t (tellMinute t {})).time? = some t
      exact time?_tellSecond rfl h h0
    · rfl
  · rw [Time.read, hfraction]
    split
    · rfl
    · exact time?_tellFraction {} h
  · have hread : Time.read minuteItems t.literal = none := by rw [Time.read, hminute]; rfl
    simp [hread]

/-- **The literal of a date with a time** of whole microseconds is read as both by the patterns of both. -/
theorem DateTime.reads_literal {d : DateTime} (hd : 0 ≤ d.date.year) (ht : d.time.nanosecond.val % 1000 = 0) :
    Reads DateTime.read FieldKind.datetimeFormats d.literal d := by
  have hfront : Takes (frontItems " ") (d.date.literal ++ " ") (tellDate d.date) :=
    (takes_date hd).append (takes_literal " ")
  have hother (items : List PatternItem) : DateTime.read (frontItems "T" ++ items) d.literal = none := by
    have hne := take_encode_ne (t := " ") (u := "T") rfl rfl (by decide) d.time.literal
    have hnote : note (frontItems "T" ++ items) d.literal = none := by
      rw [DateTime.literal, String.append_assoc, frontItems, List.append_assoc]
      exact note_of_takes_ne (takes_date hd) hne
    rw [DateTime.read, hnote]
    rfl
  refine .of_either readPattern_datetimeFormats (p := frontItems " " ++ minuteItems ++ secondItems)
    (q := frontItems " " ++ minuteItems ++ secondItems ++ fractionItems) (b := d.time.microsecond = 0)
    (by simp) (by simp) ?_ ?_ ?_
  · rw [DateTime.read, DateTime.literal, note_second hfront]
    split
    · next h0 =>
      have hdate : (tellSecond d.time (tellMinute d.time (tellDate d.date {}))).date? = some d.date :=
        date?_of_told rfl rfl rfl rfl
      have htime : (tellSecond d.time (tellMinute d.time (tellDate d.date {}))).time? = some d.time :=
        time?_tellSecond rfl ht h0
      simp [hdate, htime]
    · rfl
  · rw [DateTime.read, DateTime.literal, note_fraction hfront]
    split
    · rfl
    · have hdate : (tellFraction d.time (tellSecond d.time (tellMinute d.time (tellDate d.date {})))).date? =
          some d.date :=
        date?_of_told rfl rfl rfl rfl
      simp [hdate, time?_tellFraction _ ht]
  · simp [hother]

end Calendar

end SqlMapper
