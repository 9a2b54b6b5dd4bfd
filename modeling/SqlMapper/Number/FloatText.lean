import SqlMapper.Number.Shortest
import SqlMapper.Number.Integer

/-!
# Floating point numbers in text

Writing a number with its shortest digits, and reading one. Where positional notation gives way to an exponent
depends on what the text is for, so it is a parameter of the writer.
-/

namespace SqlMapper.Number

/-- Where positional notation begins and ends, by the place of the decimal point relative to the first digit. -/
structure FloatLayout where
  firstPoint : Int
  lastPoint : Int

/-- Numbers in statements are positional from 1e-5 up to, not including, 1e16. -/
def FloatLayout.statement : FloatLayout := ⟨-4, 16⟩

/-- Numbers in messages are positional from 1e-4 up to, not including, 1e16. -/
def FloatLayout.message : FloatLayout := ⟨-3, 16⟩

/-- Writes the decimal `digits · 10 ^ p`. -/
def FloatLayout.write (layout : FloatLayout) (digits : List Char) (p : Int) : List Char :=
  let point : Int := digits.length + p
  if layout.firstPoint ≤ point ∧ point ≤ layout.lastPoint then
    if 0 ≤ p then digits ++ List.replicate p.toNat '0' ++ ['.', '0']
    else if 0 < point then digits.take point.toNat ++ '.' :: digits.drop point.toNat
    else '0' :: '.' :: List.replicate (-point).toNat '0' ++ digits
  else
    let fraction := digits.drop 1
    digits.take 1 ++ (if fraction.isEmpty then [] else '.' :: fraction) ++ 'e' :: (integerText (point - 1)).toList

/-- A number in text. Infinities and undefined results have names. -/
def floatText (layout : FloatLayout) (x : Float) : String :=
  if x.isNaN then "NaN"
  else
    let parts := binaryParts x
    let sign := if parts.negative then "-" else ""
    if x.isInf then sign ++ "inf"
    else if parts.mantissa = 0 then sign ++ "0.0"
    else
      let (n, p) := shortestDecimal parts.mantissa parts.exponent parts.isPowerBoundary
      sign ++ String.ofList (layout.write (Nat.toDigits 10 n) p)

/-- Splits off the leading digits: their value, how many there are, and what follows. -/
def takeDigits : (value count : Nat) → List UInt8 → Nat × Nat × List UInt8
  | value, count, [] => (value, count, [])
  | value, count, b :: rest =>
    match digitValue? b with
    | some d => takeDigits (value * 10 + d) (count + 1) rest
    | none => (value, count, b :: rest)

/-- The number `n · 10 ^ p`, rounded to nearest. Exponents beyond all numbers are cut off. -/
def floatOfDecimal (n : Nat) (p : Int) : Float :=
  let magnitude : Int := (Nat.toDigits 10 n).length + p
  if n = 0 then 0.0
  else if 400 < magnitude then 1.0 / 0.0
  else if magnitude < -400 then 0.0
  else if 0 ≤ p then Float.ofScientific n false p.toNat
  else Float.ofScientific n true (-p).toNat

/-- Reads an exponent after its letter: a sign and at least one digit, up to the end. -/
def readExponent (bytes : List UInt8) : Option Int :=
  let magnitude (digits : List UInt8) : Option Int := do
    guard (!digits.isEmpty)
    return (← readDigits 0 digits : Nat)
  match bytes with
  | 0x2d :: digits => (magnitude digits).map (- ·)
  | 0x2b :: digits => magnitude digits
  | digits => magnitude digits

/-- Lower case of an ASCII byte. -/
def lowerByte (b : UInt8) : UInt8 := if 65 ≤ b && b ≤ 90 then b + 32 else b

/-- Names of numbers that have no digits, in any case. -/
def readFloatName (bytes : List UInt8) : Option Float :=
  let name := String.ofList ((bytes.map lowerByte).map fun b => Char.ofNat b.toNat)
  if name = "nan" then some (0.0 / 0.0)
  else if name = "inf" || name = "infinity" then some (1.0 / 0.0)
  else none

/-- Reads a number without sign: digits with at most one point among them, then possibly an exponent. -/
def readUnsignedFloat (bytes : List UInt8) : Option Float :=
  let (whole, wholeCount, rest) := takeDigits 0 0 bytes
  let (value, fractionCount, rest) :=
    match rest with
    | 0x2e :: rest => takeDigits whole 0 rest
    | rest => (whole, 0, rest)
  if wholeCount + fractionCount = 0 then readFloatName bytes
  else
    match rest with
    | [] => some (floatOfDecimal value (-(fractionCount : Int)))
    | b :: rest =>
      if lowerByte b = 0x65 then
        (readExponent rest).map fun e => floatOfDecimal value (e - fractionCount)
      else none

/-- The number that the whole byte string denotes. -/
def readFloat (bytes : List UInt8) : Option Float :=
  match bytes with
  | 0x2d :: rest => (readUnsignedFloat rest).map (- ·)
  | 0x2b :: rest => readUnsignedFloat rest
  | rest => readUnsignedFloat rest

/-- An integer as the nearest number. -/
def floatOfInt (n : Int) : Float :=
  if n < 0 then -(Float.ofScientific n.natAbs false 0) else Float.ofScientific n.natAbs false 0

end SqlMapper.Number
