/-!
# UTF-8

Reading bytes as text. A byte string that is not UTF-8 is refused with the place of the first fault and the
number of bytes that the fault spans, or with the note that the text ends inside a character.
-/

namespace SqlMapper.Text.Utf8

/-- Where and how a byte string stops being UTF-8. -/
structure Fault where
  /-- Bytes of good text before the fault. -/
  index : Nat
  /-- Bytes that the fault spans, none when the text ends inside a character. -/
  length : Option Nat
deriving DecidableEq, Repr

/-- The fault in words. -/
def Fault.message : Fault → String
  | ⟨index, some length⟩ => s!"invalid utf-8 sequence of {length} bytes from index {index}"
  | ⟨index, none⟩ => s!"incomplete utf-8 byte sequence from index {index}"

/-- The bytes of a text. -/
def encode (s : String) : List UInt8 := s.toUTF8.data.toList

/-- A byte that continues a character. -/
def isContinuation (b : UInt8) : Bool := 0x80 ≤ b && b ≤ 0xbf

/-- The second bytes that may follow the first byte of a character of three or four bytes. -/
def secondAllowed (first second : UInt8) : Bool :=
  if first = 0xe0 then 0xa0 ≤ second && second ≤ 0xbf
  else if first = 0xed then 0x80 ≤ second && second ≤ 0x9f
  else if first = 0xf0 then 0x90 ≤ second && second ≤ 0xbf
  else if first = 0xf4 then 0x80 ≤ second && second ≤ 0x8f
  else isContinuation second

/-- The character with the given leading bits and continuation bytes. -/
def assemble (lead : Nat) (continuations : List UInt8) : Char :=
  Char.ofNat (continuations.foldl (fun n b => n * 64 + b.toNat % 64) lead)

/-- Reads all bytes as characters; `index` counts the bytes read so far. -/
def decodeFrom (index : Nat) : List UInt8 → Except Fault (List Char)
  | [] => .ok []
  | a :: rest =>
    if a < 0x80 then (decodeFrom (index + 1) rest).map (assemble a.toNat [] :: ·)
    else if 0xc2 ≤ a && a ≤ 0xdf then
      match rest with
      | [] => .error ⟨index, none⟩
      | b :: rest =>
        if isContinuation b then (decodeFrom (index + 2) rest).map (assemble (a.toNat % 32) [b] :: ·)
        else .error ⟨index, some 1⟩
    else if 0xe0 ≤ a && a ≤ 0xef then
      match rest with
      | [] => .error ⟨index, none⟩
      | [b] => .error ⟨index, if secondAllowed a b then none else some 1⟩
      | b :: c :: rest =>
        if !secondAllowed a b then .error ⟨index, some 1⟩
        else if !isContinuation c then .error ⟨index, some 2⟩
        else (decodeFrom (index + 3) rest).map (assemble (a.toNat % 16) [b, c] :: ·)
    else if 0xf0 ≤ a && a ≤ 0xf4 then
      match rest with
      | [] => .error ⟨index, none⟩
      | [b] => .error ⟨index, if secondAllowed a b then none else some 1⟩
      | [b, c] =>
        .error ⟨index, if !secondAllowed a b then some 1 else if isContinuation c then none else some 2⟩
      | b :: c :: d :: rest =>
        if !secondAllowed a b then .error ⟨index, some 1⟩
        else if !isContinuation c then .error ⟨index, some 2⟩
        else if !isContinuation d then .error ⟨index, some 3⟩
        else (decodeFrom (index + 4) rest).map (assemble (a.toNat % 8) [b, c, d] :: ·)
    else .error ⟨index, some 1⟩

/-- The text that the bytes spell. -/
def decode (bytes : List UInt8) : Except Fault String := (decodeFrom 0 bytes).map String.ofList

/-- The text that the bytes spell, if they are UTF-8. -/
def decode? (bytes : List UInt8) : Option String := (decode bytes).toOption

/-- The text that the bytes spell, each fault written as one replacement character. -/
def decodeLossyFrom : (fuel : Nat) → List UInt8 → List Char
  | 0, _ => []
  | fuel + 1, bytes =>
    match decodeFrom 0 bytes with
    | .ok cs => cs
    | .error fault =>
      let good := ((decodeFrom 0 (bytes.take fault.index)).toOption).getD []
      let bad := fault.length.getD (bytes.length - fault.index)
      good ++ '\ufffd' :: decodeLossyFrom fuel (bytes.drop (fault.index + max bad 1))

/-- The text that the bytes spell, with a replacement character for each fault. -/
def decodeLossy (bytes : List UInt8) : String := String.ofList (decodeLossyFrom (bytes.length + 1) bytes)

end SqlMapper.Text.Utf8
