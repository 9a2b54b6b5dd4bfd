/-!
# Hexadecimal digits

Bytes and numbers as pairs of hexadecimal digits, in either case.
-/

namespace SqlMapper.Text.Hex

/-- The digit of a number below sixteen, in lower case. -/
def digit (n : Nat) : Char := if n < 10 then Char.ofNat (48 + n) else Char.ofNat (87 + n)

/-- The value of a hexadecimal digit in either case. -/
def digitValue? (c : Char) : Option Nat :=
  if '0' ≤ c ∧ c ≤ '9' then some (c.toNat - 48)
  else if 'a' ≤ c ∧ c ≤ 'f' then some (c.toNat - 87)
  else if 'A' ≤ c ∧ c ≤ 'F' then some (c.toNat - 55)
  else none

/-- The last `count` hexadecimal digits of a number, the most significant first. -/
def digits : (count n : Nat) → List Char
  | 0, _ => []
  | count + 1, n => digits count (n / 16) ++ [digit (n % 16)]

/-- The value of a run of hexadecimal digits. -/
def value? (cs : List Char) : Option Nat :=
  cs.foldl (fun acc c => acc.bind fun n => (digitValue? c).map (n * 16 + ·)) (some 0)

/-- Two upper case digits for each byte. -/
def encodeUpper (bytes : List UInt8) : List Char :=
  bytes.flatMap fun b => (digits 2 b.toNat).map Char.toUpper

/-- Two lower case digits for each byte. -/
def encodeLower (bytes : List UInt8) : List Char := bytes.flatMap fun b => digits 2 b.toNat

end SqlMapper.Text.Hex
