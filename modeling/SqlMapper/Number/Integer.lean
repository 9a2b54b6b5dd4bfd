/-!
# Integers in text

An integer as database text writes it: an optional sign and decimal digits, nothing else. A text without digits
reads as zero, and a number outside the signed range of 128 bits does not read at all.
-/

namespace SqlMapper.Number

/-- The value of a decimal digit. -/
def digitValue? (b : UInt8) : Option Nat := if 48 ≤ b && b ≤ 57 then some (b.toNat - 48) else none

/-- Continues a number with decimal digits; every byte has to be one. -/
def readDigits : (value : Nat) → List UInt8 → Option Nat
  | value, [] => some value
  | value, b :: rest => (digitValue? b).bind fun d => readDigits (value * 10 + d) rest

/-- Numbers that 128 bits hold with a sign. -/
def isWide (n : Int) : Bool := -Int.pow 2 127 ≤ n && n < Int.pow 2 127

/-- The integer that the whole byte string denotes. -/
def readInteger (bytes : List UInt8) : Option Int :=
  let value :=
    match bytes with
    | 0x2d :: digits => (readDigits 0 digits).map fun n => -(n : Int)
    | 0x2b :: digits => (readDigits 0 digits).map Int.ofNat
    | digits => (readDigits 0 digits).map Int.ofNat
  value.filter isWide

/-- Decimal digits of an integer, after a minus sign if it is negative. -/
def integerText (n : Int) : String := if n < 0 then "-" ++ Nat.repr n.natAbs else Nat.repr n.natAbs

/-- A number with leading zeros up to a width. -/
def padded (width n : Nat) : String :=
  let digits := Nat.repr n
  String.ofList (List.replicate (width - digits.length) '0') ++ digits

end SqlMapper.Number
