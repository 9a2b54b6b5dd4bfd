import SqlMapper.Text.Utf8

/-!
# Text is read back from its bytes

The bytes of a character are those that the reader of UTF-8 takes for it, with one case for each number of bytes
(`decodeFrom_one` to `decodeFrom_four`), and so every text is read back from its bytes (`decode_encode`). A text of
ASCII characters has one byte for each (`encode_ofList_ascii`).
-/

namespace SqlMapper.Text.Utf8

theorem encode_ofList (cs : List Char) : encode (String.ofList cs) = cs.flatMap String.utf8EncodeChar := by
  unfold encode
  rw [String.toUTF8_eq_toByteArray, String.toByteArray_ofList, List.utf8Encode, List.toList_data_toByteArray]

theorem encode_eq_flatMap (s : String) : encode s = s.toList.flatMap String.utf8EncodeChar := by
  rw [← encode_ofList, String.ofList_toList]

theorem encode_append (s t : String) : encode (s ++ t) = encode s ++ encode t := by
  rw [encode_eq_flatMap, String.toList_append, List.flatMap_append, ← encode_eq_flatMap, ← encode_eq_flatMap]

/-- A text of ASCII characters has one byte for each. -/
theorem encode_ofList_ascii : ∀ {cs : List Char}, (∀ c ∈ cs, c.toNat < 0x80) →
    encode (String.ofList cs) = cs.map fun c => UInt8.ofNat c.toNat
  | [], _ => encode_ofList []
  | c :: cs, h => by
    have hc : c.val.toNat ≤ 0x7f := Nat.le_of_lt_succ (h c List.mem_cons_self)
    have ih := encode_ofList_ascii fun d hd => h d (List.mem_cons_of_mem c hd)
    rw [encode_ofList] at ih ⊢
    rw [List.flatMap_cons, ih, List.map_cons, String.utf8EncodeChar, if_pos hc]
    rfl

/-! ## Bytes as numbers -/

section Bytes

variable {m n : Nat}

theorem toNat_byte (h : n < 256) : (UInt8.ofNat n).toNat = n := by
  rw [UInt8.toNat_ofNat', Nat.mod_eq_of_lt h]

theorem byte_le_byte (hm : m < 256) (hn : n < 256) : UInt8.ofNat m ≤ UInt8.ofNat n ↔ m ≤ n := by
  rw [UInt8.le_iff_toNat_le, toNat_byte hm, toNat_byte hn]

theorem byte_lt_byte (hm : m < 256) (hn : n < 256) : UInt8.ofNat m < UInt8.ofNat n ↔ m < n := by
  rw [UInt8.lt_iff_toNat_lt, toNat_byte hm, toNat_byte hn]

theorem byte_eq_byte (hm : m < 256) (hn : n < 256) : UInt8.ofNat m = UInt8.ofNat n ↔ m = n := by
  rw [← UInt8.toNat_inj, toNat_byte hm, toNat_byte hn]

/-- A range of bytes. -/
theorem byte_between {b : Nat} (hm : m ≤ b) (hn : b ≤ n) (hn' : n < 256) :
    (decide (UInt8.ofNat m ≤ UInt8.ofNat b) && decide (UInt8.ofNat b ≤ UInt8.ofNat n)) = true := by
  rw [Bool.and_eq_true, decide_eq_true_eq, decide_eq_true_eq, byte_le_byte (by omega) (by omega),
    byte_le_byte (by omega) hn']
  exact ⟨hm, hn⟩

/-- A byte behind a range. -/
theorem byte_not_between {l b : Nat} (hn : n < b) (hb : b < 256) :
    ¬ (decide (UInt8.ofNat l ≤ UInt8.ofNat b) && decide (UInt8.ofNat b ≤ UInt8.ofNat n)) = true := by
  rw [Bool.and_eq_true, decide_eq_true_eq, decide_eq_true_eq, byte_le_byte hb (by omega)]
  exact fun h => absurd h.2 (by omega)

/-- A byte that is not ASCII. -/
theorem not_byte_lt {b : Nat} (hn : n ≤ b) (hb : b < 256) : ¬ UInt8.ofNat b < UInt8.ofNat n := by
  rw [byte_lt_byte hb (by omega)]
  omega

end Bytes

theorem isContinuation_byte {b : Nat} (hb : b < 64) : isContinuation (UInt8.ofNat (b + 0x80)) = true :=
  byte_between (m := 0x80) (n := 0xbf) (by omega) (by omega) (by decide)

/-- The second byte of a character that is not written longer than it has to be, is no surrogate, and is not beyond all
characters. -/
theorem secondAllowed_byte {a b : Nat} (ha : a < 256) (hb : b < 64) (he0 : a = 0xe0 → 0x20 ≤ b)
    (hed : a = 0xed → b < 0x20) (hf0 : a = 0xf0 → 0x10 ≤ b) (hf4 : a = 0xf4 → b < 0x10) :
    secondAllowed (UInt8.ofNat a) (UInt8.ofNat (b + 0x80)) = true := by
  have heq {n : Nat} (hn : n < 256) : UInt8.ofNat a = UInt8.ofNat n ↔ a = n := byte_eq_byte ha hn
  unfold secondAllowed
  split
  · next h =>
    have := he0 ((heq (n := 0xe0) (by decide)).1 h)
    exact byte_between (m := 0xa0) (n := 0xbf) (by omega) (by omega) (by decide)
  split
  · next h =>
    have := hed ((heq (n := 0xed) (by decide)).1 h)
    exact byte_between (m := 0x80) (n := 0x9f) (by omega) (by omega) (by decide)
  split
  · next h =>
    have := hf0 ((heq (n := 0xf0) (by decide)).1 h)
    exact byte_between (m := 0x90) (n := 0xbf) (by omega) (by omega) (by decide)
  split
  · next h =>
    have := hf4 ((heq (n := 0xf4) (by decide)).1 h)
    exact byte_between (m := 0x80) (n := 0x8f) (by omega) (by omega) (by decide)
  · exact isContinuation_byte hb

/-! ## Characters -/

/-- The places of a character are its number, so that they make the character again. -/
theorem assemble_eq {lead : Nat} {bs : List UInt8} {c : Char}
    (h : bs.foldl (fun n b => n * 64 + b.toNat % 64) lead = c.toNat) : assemble lead bs = c := by
  rw [assemble, h, Char.ofNat_toNat]

variable {index v b : Nat} {rest : List UInt8}

theorem decodeFrom_one (hv : v < 0x80) :
    decodeFrom index (UInt8.ofNat v :: rest) = (decodeFrom (index + 1) rest).map (assemble v [] :: ·) := by
  have h : UInt8.ofNat v < 0x80 := (byte_lt_byte (n := 0x80) (by omega) (by decide)).2 hv
  rw [decodeFrom.eq_def]
  dsimp only
  rw [if_pos h, toNat_byte (by omega)]

theorem decodeFrom_two {a b : Nat} (ha : 2 ≤ a ∧ a < 0x20) (hb : b < 0x40) :
    decodeFrom index (UInt8.ofNat (a + 0xc0) :: UInt8.ofNat (b + 0x80) :: rest) =
      (decodeFrom (index + 2) rest).map (assemble a [UInt8.ofNat (b + 0x80)] :: ·) := by
  have h1 : ¬ UInt8.ofNat (a + 0xc0) < 0x80 := not_byte_lt (n := 0x80) (by omega) (by omega)
  have h2 : (decide (0xc2 ≤ UInt8.ofNat (a + 0xc0)) && decide (UInt8.ofNat (a + 0xc0) ≤ 0xdf)) = true :=
    byte_between (m := 0xc2) (n := 0xdf) (by omega) (by omega) (by decide)
  have hlead : (UInt8.ofNat (a + 0xc0)).toNat % 32 = a := by
    rw [toNat_byte (by omega)]
    omega
  rw [decodeFrom.eq_def]
  dsimp only
  rw [if_neg h1, if_pos h2, if_pos (isContinuation_byte hb), hlead]

theorem decodeFrom_three {a b c : Nat} (ha : a < 0x10) (hb : b < 0x40) (hc : c < 0x40) (h0 : a = 0 → 0x20 ≤ b)
    (hd : a = 0xd → b < 0x20) :
    decodeFrom index (UInt8.ofNat (a + 0xe0) :: UInt8.ofNat (b + 0x80) :: UInt8.ofNat (c + 0x80) :: rest) =
      (decodeFrom (index + 3) rest).map (assemble a [UInt8.ofNat (b + 0x80), UInt8.ofNat (c + 0x80)] :: ·) := by
  have h1 : ¬ UInt8.ofNat (a + 0xe0) < 0x80 := not_byte_lt (n := 0x80) (by omega) (by omega)
  have h2 : ¬ (decide (0xc2 ≤ UInt8.ofNat (a + 0xe0)) && decide (UInt8.ofNat (a + 0xe0) ≤ 0xdf)) = true :=
    byte_not_between (l := 0xc2) (n := 0xdf) (by omega) (by omega)
  have h3 : (decide (0xe0 ≤ UInt8.ofNat (a + 0xe0)) && decide (UInt8.ofNat (a + 0xe0) ≤ 0xef)) = true :=
    byte_between (m := 0xe0) (n := 0xef) (by omega) (by omega) (by decide)
  have hsecond : secondAllowed (UInt8.ofNat (a + 0xe0)) (UInt8.ofNat (b + 0x80)) = true :=
    secondAllowed_byte (by omega) hb (by omega) (by omega) (by omega) (by omega)
  have hlead : (UInt8.ofNat (a + 0xe0)).toNat % 16 = a := by
    rw [toNat_byte (by omega)]
    omega
  rw [decodeFrom.eq_def]
  dsimp only
  rw [if_neg h1, if_neg h2, if_pos h3, hsecond, isContinuation_byte hc, hlead]
  rfl

theorem decodeFrom_four {a b c d : Nat} (ha : a ≤ 4) (hb : b < 0x40) (hc : c < 0x40) (hd : d < 0x40)
    (h0 : a = 0 → 0x10 ≤ b) (h4 : a = 4 → b < 0x10) :
    decodeFrom index (UInt8.ofNat (a + 0xf0) :: UInt8.ofNat (b + 0x80) :: UInt8.ofNat (c + 0x80) ::
      UInt8.ofNat (d + 0x80) :: rest) = (decodeFrom (index + 4) rest).map
        (assemble a [UInt8.ofNat (b + 0x80), UInt8.ofNat (c + 0x80), UInt8.ofNat (d + 0x80)] :: ·) := by
  have h1 : ¬ UInt8.ofNat (a + 0xf0) < 0x80 := not_byte_lt (n := 0x80) (by omega) (by omega)
  have h2 : ¬ (decide (0xc2 ≤ UInt8.ofNat (a + 0xf0)) && decide (UInt8.ofNat (a + 0xf0) ≤ 0xdf)) = true :=
    byte_not_between (l := 0xc2) (n := 0xdf) (by omega) (by omega)
  have h3 : ¬ (decide (0xe0 ≤ UInt8.ofNat (a + 0xf0)) && decide (UInt8.ofNat (a + 0xf0) ≤ 0xef)) = true :=
    byte_not_between (l := 0xe0) (n := 0xef) (by omega) (by omega)
  have h4' : (decide (0xf0 ≤ UInt8.ofNat (a + 0xf0)) && decide (UInt8.ofNat (a + 0xf0) ≤ 0xf4)) = true :=
    byte_between (m := 0xf0) (n := 0xf4) (by omega) (by omega) (by decide)
  have hsecond : secondAllowed (UInt8.ofNat (a + 0xf0)) (UInt8.ofNat (b + 0x80)) = true :=
    secondAllowed_byte (by omega) hb (by omega) (by omega) (by omega) (by omega)
  have hlead : (UInt8.ofNat (a + 0xf0)).toNat % 8 = a := by
    rw [toNat_byte (by omega)]
    omega
  rw [decodeFrom.eq_def]
  dsimp only
  rw [if_neg h1, if_neg h2, if_neg h3, if_pos h4', hsecond, isContinuation_byte hc, isContinuation_byte hd, hlead]
  rfl

/-- The bytes of a character are read as that character. -/
theorem decodeFrom_encodeChar (index : Nat) (c : Char) (rest : List UInt8) :
    ∃ next, decodeFrom index (String.utf8EncodeChar c ++ rest) = (decodeFrom next rest).map (c :: ·) := by
  have hvalid : c.toNat < 0xd800 ∨ 0xdfff < c.toNat ∧ c.toNat < 0x110000 := c.valid
  have hlow {b : Nat} (hb : b < 0x40) : (UInt8.ofNat (b + 0x80)).toNat % 64 = b := by
    rw [toNat_byte (by omega)]
    omega
  unfold String.utf8EncodeChar
  dsimp only
  rw [show c.val.toNat = c.toNat from rfl]
  generalize hv : c.toNat = v at hvalid
  split
  · refine ⟨index + 1, (decodeFrom_one (by omega)).trans ?_⟩
    rw [assemble_eq (c := c) (by exact hv.symm)]
    rfl
  split
  · refine ⟨index + 2, (decodeFrom_two (by omega) (by omega)).trans ?_⟩
    rw [assemble_eq (c := c)]
    · rfl
    · rw [List.foldl_cons, List.foldl_nil, hlow (by omega), hv]
      omega
  split
  · refine ⟨index + 3, (decodeFrom_three (by omega) (by omega) (by omega) (by omega) (by omega)).trans ?_⟩
    rw [assemble_eq (c := c)]
    · rfl
    · rw [List.foldl_cons, List.foldl_cons, List.foldl_nil, hlow (by omega), hlow (by omega), hv]
      omega
  · refine ⟨index + 4, (decodeFrom_four (by omega) (by omega) (by omega) (by omega) (by omega) (by omega)).trans ?_⟩
    rw [assemble_eq (c := c)]
    · rfl
    · rw [List.foldl_cons, List.foldl_cons, List.foldl_cons, List.foldl_nil, hlow (by omega), hlow (by omega),
        hlow (by omega), hv]
      omega

theorem decodeFrom_encodeChars (index : Nat) (cs : List Char) :
    decodeFrom index (cs.flatMap String.utf8EncodeChar) = .ok cs := by
  induction cs generalizing index with
  | nil => exact decodeFrom.eq_def _ _
  | cons c cs ih =>
    obtain ⟨next, h⟩ := decodeFrom_encodeChar index c (cs.flatMap String.utf8EncodeChar)
    rw [List.flatMap_cons, h, ih]
    rfl

/-- **A text is read back from its bytes.** -/
theorem decode_encode (s : String) : decode (encode s) = .ok s := by
  rw [decode, encode_eq_flatMap, decodeFrom_encodeChars]
  exact congrArg Except.ok String.ofList_toList

theorem decode?_encode (s : String) : decode? (encode s) = some s := by
  rw [decode?, decode_encode]
  rfl

end SqlMapper.Text.Utf8
