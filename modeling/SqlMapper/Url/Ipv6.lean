import SqlMapper.Text.Hex

/-!
# Addresses of 128 bits

The host of an address between brackets: eight groups of hexadecimal digits. Two colons in a row stand for at least
one group of zeros, and the last two groups may be written as four decimal numbers. Written again, the longest run of
zero groups is left out.
-/

namespace SqlMapper.Url.Ipv6

/-- A group of up to four hexadecimal digits. -/
def group? (s : String) : Option Nat := if s.isEmpty ∨ 4 < s.length then none else Text.Hex.value? s.toList

/-- A decimal number below 256 without leading zeros. -/
def octet? (s : String) : Option Nat :=
  if s.isEmpty ∨ 3 < s.length ∨ (s.startsWith "0" ∧ s ≠ "0") ∨ !s.all Char.isDigit then none
  else s.toNat?.filter (· < 256)

/-- The two groups that four decimal numbers make. -/
def quad? (s : String) : Option (List Nat) :=
  match (s.splitOn ".").map octet? with
  | [some a, some b, some c, some d] => some [a * 256 + b, c * 256 + d]
  | _ => none

/-- The groups of pieces, the last of which may be four decimal numbers. -/
def groups? : List String → Option (List Nat)
  | [] => some []
  | [last] => if last.contains '.' then quad? last else (group? last).map ([·])
  | piece :: rest => do return (← group? piece) :: (← groups? rest)

/-- The pieces between colons. -/
def pieces (s : String) : List String := if s.isEmpty then [] else s.splitOn ":"

/-- The eight groups of an address. -/
def read? (s : String) : Option (List Nat) :=
  match s.splitOn "::" with
  | [whole] => (groups? (pieces whole)).filter (·.length = 8)
  | before :: rest => do
    let before ← (pieces before).mapM group?
    let after ← groups? (pieces (String.intercalate "::" rest))
    if before.length + after.length ≤ 7 then
      some (before ++ List.replicate (8 - before.length - after.length) 0 ++ after)
    else none
  | [] => none

/-- The number of zero groups in front. -/
def zeros (gs : List Nat) : Nat := (gs.takeWhile (· = 0)).length

/-- Where the first longest run of at least two zero groups begins, and how long it is. -/
def longestRun (gs : List Nat) : Option (Nat × Nat) :=
  (List.range gs.length).foldl (fun best i =>
    let run := zeros (gs.drop i)
    if (best.map Prod.snd).getD 1 < run then some (i, run) else best) none

/-- A group in hexadecimal digits without leading zeros. -/
def groupText (n : Nat) : String := String.ofList (Nat.toDigits 16 n)

/-- Groups with colons between them. -/
def groupsText (gs : List Nat) : String := String.intercalate ":" (gs.map groupText)

/-- The address in its shortest form, without brackets. -/
def text (gs : List Nat) : String :=
  match longestRun gs with
  | none => groupsText gs
  | some (start, run) => groupsText (gs.take start) ++ "::" ++ groupsText (gs.drop (start + run))

end SqlMapper.Url.Ipv6
