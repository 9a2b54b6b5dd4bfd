import SqlMapper.Number.Integer

/-!
# Sizes in text

A number without sign as settings write it, with an upper bound.
-/

namespace SqlMapper.Number

/-- Why a text is not a size. -/
inductive SizeFault where
  | empty
  | invalidDigit
  | tooLarge
deriving DecidableEq, Repr

/-- The fault in words. -/
def SizeFault.message : SizeFault → String
  | .empty => "cannot parse integer from empty string"
  | .invalidDigit => "invalid digit found in string"
  | .tooLarge => "number too large to fit in target type"

/-- Continues a number with decimal digits; it has to stay below a bound. -/
def readSizeDigits (bound : Nat) : (value : Nat) → List UInt8 → Except SizeFault Nat
  | value, [] => .ok value
  | value, b :: rest =>
    match digitValue? b with
    | none => .error .invalidDigit
    | some d => if value * 10 + d < bound then readSizeDigits bound (value * 10 + d) rest else .error .tooLarge

/-- The number below a bound that a text of digits denotes, possibly after a plus sign. -/
def readSize (bound : Nat) (bytes : List UInt8) : Except SizeFault Nat :=
  match bytes with
  | [] => .error .empty
  | [0x2b] => .error .invalidDigit
  | 0x2b :: digits => readSizeDigits bound 0 digits
  | digits => readSizeDigits bound 0 digits

end SqlMapper.Number
