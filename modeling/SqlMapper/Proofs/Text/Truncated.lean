import Mathlib.Data.List.DropRight
import Mathlib.Data.Nat.Find
import SqlMapper.Proofs.Text.Utf8
import SqlMapper.Text.Truncated

/-!
# Long texts are cut between characters

The bytes of a character are one that begins it and others that continue it (`exists_bytes`), so that the boundaries of
a text are the lengths of its beginnings (`isBoundary_iff`). The longest beginning within a limit therefore ends where a
search for a boundary stops that goes down from the limit byte by byte (`findGreatest_isBoundary`); it stops at the
beginning of the text at the latest. What a log line shows of a long text is that beginning without the blanks at its
end (`truncated_cut`).
-/

namespace SqlMapper.Text

open Utf8

/-! ## Boundaries -/

/-- The bytes of some characters. -/
def bytesOf (cs : List Char) : List UInt8 := cs.flatMap String.utf8EncodeChar

theorem bytesOf_cons (c : Char) (cs : List Char) : bytesOf (c :: cs) = String.utf8EncodeChar c ++ bytesOf cs :=
  List.flatMap_cons

theorem bytesOf_append (cs ds : List Char) : bytesOf (cs ++ ds) = bytesOf cs ++ bytesOf ds := List.flatMap_append

theorem length_bytesOf (cs : List Char) : (bytesOf cs).length = (String.ofList cs).utf8ByteSize := by
  rw [bytesOf, ← encode_ofList, encode, Array.length_toList]
  exact String.size_toByteArray

/-- A character begins at the byte, or the text begins or ends there. -/
def IsBoundary (bytes : List UInt8) (i : Nat) : Prop :=
  i = 0 ∨ i = bytes.length ∨ (bytes[i]?.any fun b => !isContinuation b) = true

instance (bytes : List UInt8) : DecidablePred (IsBoundary bytes) := fun i =>
  inferInstanceAs (Decidable (i = 0 ∨ i = bytes.length ∨ _))

/-- The first byte of a character begins it, and the others continue it. -/
theorem exists_bytes (c : Char) : ∃ b bs, String.utf8EncodeChar c = b :: bs ∧ isContinuation b = false ∧
    ∀ b' ∈ bs, isContinuation b' = true := by
  have hlead {n : Nat} (hn : 0xbf < n) (hn' : n < 256) : isContinuation (UInt8.ofNat n) = false :=
    Bool.eq_false_iff.2 (byte_not_between (l := 0x80) hn hn')
  have hlow {n : Nat} (hn : n < 0x40) : isContinuation (UInt8.ofNat (n + 0x80)) = true := isContinuation_byte hn
  unfold String.utf8EncodeChar
  dsimp only
  split
  · next h =>
    refine ⟨_, [], rfl, ?_, fun _ h => (List.not_mem_nil h).elim⟩
    have hlt : ¬ 0x80 ≤ UInt8.ofNat c.val.toNat := fun hle => by
      have := (byte_le_byte (m := 0x80) (by omega) (by omega)).1 hle
      omega
    rw [isContinuation, decide_eq_false hlt, Bool.false_and]
  split
  · refine ⟨_, _, rfl, hlead (by omega) (by omega), ?_⟩
    simp only [List.mem_singleton, forall_eq]
    exact hlow (by omega)
  split
  · refine ⟨_, _, rfl, hlead (by omega) (by omega), ?_⟩
    simp only [List.mem_cons, List.not_mem_nil, or_false, forall_eq_or_imp, forall_eq]
    exact ⟨hlow (by omega), hlow (by omega)⟩
  · refine ⟨_, _, rfl, hlead (by omega) (by omega), ?_⟩
    simp only [List.mem_cons, List.not_mem_nil, or_false, forall_eq_or_imp, forall_eq]
    exact ⟨hlow (by omega), hlow (by omega), hlow (by omega)⟩

variable {c : Char} {cs : List Char} {i n : Nat}

/-- There is no boundary inside the first character. -/
theorem not_isBoundary_inside (h : 0 < i) (hc : i < (String.utf8EncodeChar c).length) :
    ¬ IsBoundary (bytesOf (c :: cs)) i := by
  obtain ⟨b, bs, hbytes, -, hbs⟩ := exists_bytes c
  rw [bytesOf_cons, hbytes]
  rw [hbytes, List.length_cons] at hc
  rintro (h0 | hlength | hany)
  · omega
  · rw [List.length_append, List.length_cons] at hlength
    omega
  · obtain ⟨j, rfl⟩ := Nat.exists_eq_add_one_of_ne_zero h.ne'
    have hj : j < bs.length := by omega
    rw [List.cons_append, List.getElem?_cons_succ, List.getElem?_append_left hj, List.getElem?_eq_getElem hj,
      Option.any_some, hbs _ (List.getElem_mem hj)] at hany
    cases hany

/-- Behind the first character there are the boundaries of the other ones. -/
theorem isBoundary_behind : IsBoundary (bytesOf (c :: cs)) ((String.utf8EncodeChar c).length + i) ↔
    IsBoundary (bytesOf cs) i := by
  obtain ⟨b, bs, hbytes, -⟩ := exists_bytes c
  have hpos : 0 < (String.utf8EncodeChar c).length := by
    rw [hbytes]
    exact Nat.succ_pos _
  have hbegins : i = 0 → i = (bytesOf cs).length ∨ ((bytesOf cs)[i]?.any fun b => !isContinuation b) = true := by
    rintro rfl
    cases cs with
    | nil => exact .inl rfl
    | cons c' cs =>
      obtain ⟨b, bs, hbytes, hb, -⟩ := exists_bytes c'
      right
      rw [bytesOf_cons, hbytes, List.cons_append, List.getElem?_cons_zero, Option.any_some, hb]
      rfl
  unfold IsBoundary
  rw [bytesOf_cons, List.length_append, List.getElem?_append_right (Nat.le_add_right _ _), Nat.add_sub_cancel_left,
    Nat.add_left_cancel_iff]
  constructor
  · rintro (h | h)
    · omega
    · exact .inr h
  · rintro (h | h)
    · exact .inr (hbegins h)
    · exact .inr h

/-- **The boundaries of a text are the lengths of its beginnings.** -/
theorem isBoundary_iff : IsBoundary (bytesOf cs) i ↔ ∃ read, read <+: cs ∧ i = (bytesOf read).length := by
  induction cs generalizing i with
  | nil => simp [IsBoundary, bytesOf]
  | cons c cs ih =>
    constructor
    · intro h
      rcases Nat.eq_zero_or_pos i with rfl | hi
      · exact ⟨[], List.nil_prefix, rfl⟩
      rcases Nat.lt_or_ge i (String.utf8EncodeChar c).length with hlt | hge
      · exact absurd h (not_isBoundary_inside hi hlt)
      · obtain ⟨j, rfl⟩ := Nat.exists_eq_add_of_le hge
        obtain ⟨read, hread, rfl⟩ := ih.1 (isBoundary_behind.1 h)
        exact ⟨c :: read, (List.prefix_cons_inj c).2 hread, by rw [bytesOf_cons, List.length_append]⟩
    · rintro ⟨read, hread, rfl⟩
      rcases List.prefix_cons_iff.1 hread with rfl | ⟨read, rfl, hrest⟩
      · exact .inl rfl
      · rw [bytesOf_cons c read, List.length_append]
        exact isBoundary_behind.2 (ih.2 ⟨read, hrest, rfl⟩)

/-! ## The longest beginning within a limit -/

/-- The characters within the limit, and the first one that does not fit. -/
theorem exists_fitting (n : Nat) (cs : List Char) : ∃ rest, cs = fitting n cs ++ rest ∧
    (bytesOf (fitting n cs)).length ≤ n ∧
    ∀ c ∈ rest.head?, n < (bytesOf (fitting n cs)).length + (String.utf8EncodeChar c).length := by
  induction cs generalizing n with
  | nil => exact ⟨[], rfl, Nat.zero_le n, fun _ h => nomatch h⟩
  | cons c cs ih =>
    unfold fitting
    split
    · next hc =>
      obtain ⟨rest, hcs, hle, hnext⟩ := ih (n - c.utf8Size)
      refine ⟨rest, congrArg (c :: ·) hcs, ?_, fun c' hc' => ?_⟩
      · rw [bytesOf_cons, List.length_append, String.length_utf8EncodeChar]
        omega
      · have := hnext c' hc'
        rw [bytesOf_cons, List.length_append, String.length_utf8EncodeChar c]
        omega
    · next hc =>
      refine ⟨c :: cs, rfl, Nat.zero_le n, fun c' hc' => ?_⟩
      obtain rfl : c = c' := Option.some.inj hc'
      rw [String.length_utf8EncodeChar]
      show n < 0 + _
      omega

/-- **The search for a boundary stops where the longest beginning within the limit ends.** -/
theorem findGreatest_isBoundary (n : Nat) (cs : List Char) :
    Nat.findGreatest (IsBoundary (bytesOf cs)) n = (bytesOf (fitting n cs)).length := by
  obtain ⟨rest, hcs, hle, hnext⟩ := exists_fitting n cs
  have hfits : fitting n cs <+: cs := ⟨rest, hcs.symm⟩
  refine Nat.findGreatest_eq_iff.2 ⟨hle, fun _ => isBoundary_iff.2 ⟨_, hfits, rfl⟩, fun j hlt hj hboundary => ?_⟩
  obtain ⟨read, hread, rfl⟩ := isBoundary_iff.1 hboundary
  rcases List.prefix_or_prefix_of_prefix hread hfits with ⟨more, hmore⟩ | ⟨more, hmore⟩
  · rw [← hmore, bytesOf_append, List.length_append] at hlt
    omega
  · cases more with
    | nil =>
      rw [List.append_nil] at hmore
      rw [hmore] at hlt
      omega
    | cons c more =>
      -- a longer beginning has the character that does not fit
      have hhead : c ∈ rest.head? := by
        obtain ⟨behind, hbehind⟩ := hread
        rw [← hmore, List.append_assoc] at hbehind
        rw [← List.append_cancel_left (hbehind.trans hcs)]
        rfl
      have := hnext c hhead
      rw [← hmore, bytesOf_append, bytesOf_cons, List.length_append, List.length_append] at hj
      omega

/-! ## What is shown of a long text -/

/-- The blanks at the end are left out, and nothing else is. -/
theorem exists_trailing (cs : List Char) : ∃ blanks, cs = withoutTrailingBlanks cs ++ blanks ∧
    (∀ c ∈ blanks, isBlank c = true) ∧ ∀ c ∈ (withoutTrailingBlanks cs).getLast?, isBlank c = false := by
  refine ⟨cs.rtakeWhile isBlank, ?_, fun c hc => List.mem_rtakeWhile_imp hc, fun c hc => ?_⟩
  · have h := congrArg List.reverse (List.takeWhile_append_dropWhile (p := isBlank) (l := cs.reverse))
    rw [List.reverse_append, List.reverse_reverse] at h
    exact h.symm
  · obtain ⟨hne, rfl⟩ := List.mem_getLast?_eq_getLast hc
    exact Bool.eq_false_iff.2 (List.rdropWhile_last_not isBlank cs hne)

/-- How a long text is cut: its first 497 bytes are those of the text `p` that is shown, those of the blanks behind it,
and what they have of the character that the limit falls into. -/
structure Cut (s p blanks : String) (split : List UInt8) : Prop where
  bytes : (encode s).take 497 = encode p ++ encode blanks ++ split
  blank : ∀ c ∈ blanks.toList, isBlank c = true
  trimmed : ∀ c ∈ p.toList.getLast?, isBlank c = false
  size : p.utf8ByteSize ≤ 497
  boundary : IsBoundary (encode s) p.utf8ByteSize
  /-- The character that the limit falls into is left out whole, and the limit leaves at most three bytes of it. -/
  next : ∃ c rest, s = p ++ blanks ++ String.singleton c ++ rest ∧
    ∃ others, others ≠ [] ∧ encode (String.singleton c) = split ++ others
  split : split.length ≤ 3
  /-- The search for a boundary, from the limit downwards, stops behind the blanks. -/
  search : Nat.findGreatest (IsBoundary (encode s)) 497 = (p ++ blanks).utf8ByteSize

/-- A text is cut so before a character that does not fit any more. -/
theorem cut_of_toList {s : String} {p blanks rest : List Char} {c : Char} (hs : s.toList = p ++ blanks ++ c :: rest)
    (hle : (bytesOf (p ++ blanks)).length ≤ 497)
    (hnext : 497 < (bytesOf (p ++ blanks)).length + (String.utf8EncodeChar c).length)
    (hsearch : Nat.findGreatest (IsBoundary (bytesOf s.toList)) 497 = (bytesOf (p ++ blanks)).length)
    (hblank : ∀ c ∈ blanks, isBlank c = true) (htrimmed : ∀ c ∈ p.getLast?, isBlank c = false) :
    Cut s (.ofList p) (.ofList blanks)
      ((String.utf8EncodeChar c).take (497 - (bytesOf (p ++ blanks)).length)) := by
  have hbytes : encode s = bytesOf (p ++ blanks) ++ (String.utf8EncodeChar c ++ bytesOf rest) := by
    rw [encode_eq_flatMap, hs, ← bytesOf, bytesOf_append, bytesOf_cons]
  have hfour : (String.utf8EncodeChar c).length ≤ 4 := by
    rw [String.length_utf8EncodeChar]
    exact c.utf8Size_le_four
  constructor
  case bytes =>
    rw [hbytes, List.take_append, List.take_of_length_le hle, List.take_append_of_le_length (by omega), encode_ofList,
      encode_ofList, bytesOf_append]
    rfl
  case blank =>
    rwa [String.toList_ofList]
  case trimmed =>
    rwa [String.toList_ofList]
  case size =>
    rw [← length_bytesOf]
    rw [bytesOf_append, List.length_append] at hle
    omega
  case boundary =>
    rw [← length_bytesOf, encode_eq_flatMap]
    exact isBoundary_iff.2 ⟨p, ⟨blanks ++ c :: rest, by rw [hs, List.append_assoc]⟩, rfl⟩
  case next =>
    refine ⟨c, .ofList rest, ?_, (String.utf8EncodeChar c).drop (497 - (bytesOf (p ++ blanks)).length), ?_, ?_⟩
    · rw [← String.toList_inj]
      simp [hs]
    · intro h
      have := List.drop_eq_nil_iff.1 h
      omega
    · rw [List.take_append_drop, String.singleton_eq_ofList, encode_ofList]
      exact List.flatMap_singleton _ _
  case split =>
    rw [List.length_take]
    omega
  case search =>
    rw [encode_eq_flatMap, ← String.ofList_append, ← length_bytesOf]
    exact hsearch

/-- **A text is shown whole up to 497 bytes, and a longer one is cut between characters.** -/
theorem truncated_cut (s : String) :
    (s.utf8ByteSize ≤ 497 → truncated s = s) ∧
      (497 < s.utf8ByteSize → ∃ p blanks split, Cut s p blanks split ∧ truncated s = p ++ "...") := by
  refine ⟨fun h => if_pos h, fun h => ?_⟩
  obtain ⟨rest, hs, hle, hnext⟩ := exists_fitting 497 s.toList
  obtain ⟨blanks, hread, hblank, htrimmed⟩ := exists_trailing (fitting 497 s.toList)
  have hsearch := findGreatest_isBoundary 497 s.toList
  cases rest with
  | nil =>
    -- all characters would fit
    rw [List.append_nil] at hs
    rw [← hs, length_bytesOf, String.ofList_toList] at hle
    omega
  | cons c rest =>
    have hnext := hnext c rfl
    rw [hread] at hs hle hnext hsearch
    exact ⟨_, _, _, cut_of_toList hs hle hnext hsearch hblank htrimmed, if_neg (Nat.not_le.2 h)⟩

/-- A text whose limit falls into a character of four bytes behind a blank. -/
def Sample.longText : String := .ofList (List.replicate 494 'x' ++ [' ', '😀', 'y'])

/-- It is cut before the character, and the blank is left out. -/
theorem truncated_cut_longText : 497 < Sample.longText.utf8ByteSize ∧
    ∃ p blanks split, Cut Sample.longText p blanks split ∧ truncated Sample.longText = p ++ "..." := by
  have h : 497 < Sample.longText.utf8ByteSize := by decide +kernel
  exact ⟨h, (truncated_cut Sample.longText).2 h⟩

end SqlMapper.Text
