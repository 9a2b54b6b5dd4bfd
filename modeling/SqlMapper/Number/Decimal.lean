import SqlMapper.Number.FloatText

/-!
# Decimal numbers with a scale

A decimal is a mantissa of 96 bits, a scale of at most 28 places and a sign. The scale is part of the value: `1.50`
and `1.5` are equal as numbers and differ in text. Rounding, and the exchange with integers and floating point
numbers, keep the number inside these bounds.
-/

namespace SqlMapper.Number

/-- The number of mantissas. -/
def mantissaBound : Nat := Nat.pow 2 96

/-- The most places after the point. -/
def maxScale : Nat := 28

/-- The number `mantissa / 10 ^ scale`, or its opposite. -/
structure Decimal where
  mantissa : Nat
  scale : Nat
  negative : Bool
  mantissa_lt : mantissa < mantissaBound
  scale_le : scale ≤ maxScale
deriving DecidableEq

namespace Decimal

/-- Zero without places. -/
def zero : Decimal := ⟨0, 0, false, by decide, by decide⟩

instance : Inhabited Decimal := ⟨zero⟩

/-- The decimal with the given parts, if they are in bounds. -/
def ofParts? (mantissa scale : Nat) (negative : Bool) : Option Decimal :=
  if h : mantissa < mantissaBound ∧ scale ≤ maxScale then some ⟨mantissa, scale, negative, h.1, h.2⟩ else none

/-- The decimal with the given parts, if they are in bounds; a zero has no sign. -/
def ofSigned? (mantissa scale : Nat) (negative : Bool) : Option Decimal :=
  ofParts? mantissa scale (negative && mantissa ≠ 0)

/-- The mantissa with its sign. -/
def signed (d : Decimal) : Int := if d.negative then -d.mantissa else d.mantissa

/-- Both denote the same number, whatever their scales. -/
def same (a b : Decimal) : Bool := a.signed * Int.pow 10 b.scale = b.signed * Int.pow 10 a.scale

/-- An integer of 64 bits as a decimal without places. -/
def ofInt64 (n : Int64) : Decimal := (ofParts? n.toInt.natAbs 0 (n.toInt < 0)).getD zero

/-- An unsigned integer of 64 bits as a decimal without places. -/
def ofUInt64 (n : UInt64) : Decimal := (ofParts? n.toNat 0 false).getD zero

/-- The integer that the decimal equals. -/
def toInt? (d : Decimal) : Option Int :=
  if d.mantissa % Nat.pow 10 d.scale = 0 then some (d.signed / Int.pow 10 d.scale) else none

/-! ## Text -/

/-- The digits of the mantissa, with zeros in front so that one digit stands before the point. -/
def digits (d : Decimal) : List Char :=
  let ds := Nat.toDigits 10 d.mantissa
  List.replicate (d.scale + 1 - ds.length) '0' ++ ds

/-- The number with all its places. -/
def text (d : Decimal) : String :=
  let ds := d.digits
  let whole := ds.take (ds.length - d.scale)
  let places := ds.drop (ds.length - d.scale)
  String.ofList ((if d.negative then ['-'] else []) ++ whole ++ if places.isEmpty then [] else '.' :: places)

/-- What is known after some characters of a number. -/
structure Reading where
  value : Nat
  scale : Nat
  negative : Bool
  seenPoint : Bool
  seenDigit : Bool

/-- The decimal read so far. -/
def Reading.finish (r : Reading) : Option Decimal :=
  if r.seenDigit then ofSigned? r.value r.scale r.negative else none

/-- Ends a number that has more places than fit. The next character rounds it, and nothing after it counts. -/
def Reading.round (r : Reading) (next : Char) : Option Decimal := do
  let digit ←
    if next.isDigit then some (next.toNat - 48)
    else if next = '_' ∨ next = '.' then some 0
    else none
  if digit < 5 then r.finish
  else if r.value + 1 < mantissaBound then Reading.finish { r with value := r.value + 1 }
  else if r.scale = 0 then none
  else Reading.finish { r with value := (r.value + 5) / 10, scale := r.scale - 1 }

/-- Reads digits with at most one point among them; underscores may follow digits. -/
def Reading.continue (r : Reading) : List Char → Option Decimal
  | [] => r.finish
  | c :: rest =>
    if r.seenDigit && r.seenPoint && maxScale ≤ r.scale then r.round c
    else if c.isDigit then
      let value := r.value * 10 + (c.toNat - 48)
      if value < mantissaBound then
        Reading.continue
          { r with value := value, scale := if r.seenPoint then r.scale + 1 else 0, seenDigit := true } rest
      else if r.seenPoint then r.round c
      else none
    else if c = '.' && !r.seenPoint then Reading.continue { r with seenPoint := true } rest
    else if c = '_' && r.seenDigit then Reading.continue r rest
    else none

/-- Reads a number without exponent. -/
def readPlain (cs : List Char) : Option Decimal :=
  let start : Reading := ⟨0, 0, false, false, false⟩
  match cs with
  | [] => none
  | '-' :: rest => Reading.continue { start with negative := true } rest
  | '+' :: rest => Reading.continue start rest
  | cs => Reading.continue start cs

/-- A run of digits, possibly after a plus sign, as a number of 32 bits. -/
def readPlaces (cs : List Char) : Option Nat := do
  let digits := match cs with
    | '+' :: rest => rest
    | cs => cs
  guard (!digits.isEmpty && digits.all Char.isDigit)
  let n : Nat := digits.foldl (fun n c => n * 10 + (c.toNat - 48)) 0
  guard (n < Nat.pow 2 32)
  return n

/-- Removes zeros at the end of the places. -/
def dropTrailingPlaces : (scale mantissa : Nat) → Nat × Nat
  | 0, mantissa => (mantissa, 0)
  | scale + 1, mantissa =>
    if mantissa % 10 = 0 then dropTrailingPlaces scale (mantissa / 10) else (mantissa, scale + 1)

/-- Moves the point of a number to the right. -/
def raise (d : Decimal) (places : Nat) : Option Decimal := do
  if places ≤ d.scale then ofParts? d.mantissa (d.scale - places) d.negative
  else
    guard (places ≤ maxScale)
    let (mantissa, scale) := dropTrailingPlaces d.scale (d.mantissa * Nat.pow 10 places)
    ofSigned? mantissa scale d.negative

/-- Reads a number, with an exponent of at most 28 places or without one. -/
def read (s : String) : Option Decimal :=
  let cs := s.toList
  let isMark (c : Char) : Bool := c = 'e' || c = 'E'
  if cs.any isMark then do
    let base ← readPlain (cs.takeWhile (!isMark ·))
    match (cs.dropWhile (!isMark ·)).drop 1 with
    | '-' :: places =>
      let places ← readPlaces places
      ofParts? base.mantissa (base.scale + places) base.negative
    | places => raise base (← readPlaces places)
  else readPlain cs

/-! ## Floating point numbers -/

/-- Turns halves into tenths one by one: an even mantissa is halved, an odd one multiplied by five while that fits into
the mantissa, and else halved with the loss of its last bit. -/
def absorbHalves : (fives : Nat) → (m : Nat) → (ten : Int) → Nat × Int
  | 0, m, ten => (m, ten)
  | fives + 1, m, ten =>
    if m % 2 = 0 then absorbHalves fives (m / 2) (ten + 1)
    else if m * 5 < mantissaBound then absorbHalves fives (m * 5) ten
    else absorbHalves fives (m / 2) (ten + 1)

/-- Divides by powers of five: by doubling and a power of ten while the mantissa has room, and else directly. -/
def absorbFives : (fives : Nat) → (m : Nat) → (ten : Int) → Nat × Int
  | 0, m, ten => (m, ten)
  | fives + 1, m, ten =>
    if m < mantissaBound / 2 then absorbFives fives (m * 2) (ten - 1)
    else absorbFives fives (m / 5) ten

/-- One place less, a half rounded up. -/
def dropPlace (m : Nat) : Nat := if 5 ≤ m % 10 then m / 10 + 1 else m / 10

/-- Drops places until at most `maxScale` are left. A mantissa that vanishes on the way is zero. -/
def fitScale : (excess : Nat) → (m : Nat) → Nat × Bool
  | 0, m => (m, false)
  | excess + 1, m => if m / 10 = 0 then (0, true) else fitScale excess (dropPlace m)

/-- Drops places while the mantissa has more bits than a floating point number. -/
def fitPrecision : (scale : Nat) → (m : Nat) → Nat × Nat
  | 0, m => (m, 0)
  | scale + 1, m => if Nat.pow 2 52 ≤ m then fitPrecision scale (dropPlace m) else (m, scale + 1)

/-- The decimal nearest to a floating point number at the precision that such a number has. -/
def ofFloat? (x : Float) : Option Decimal :=
  if x.isNaN || x.isInf then none
  else
    let parts := binaryParts x
    if parts.mantissa = 0 then ofParts? 0 0 parts.negative
    else
      let q := parts.exponent
      let (m, ten) :=
        if q < 0 then absorbHalves (-q).toNat parts.mantissa q else absorbFives q.toNat parts.mantissa q
      if 0 < ten then ofParts? (m * Nat.pow 10 ten.toNat) 0 parts.negative
      else
        let scale := (-ten).toNat
        let (m, vanished) := fitScale (scale - maxScale) m
        let scale := if vanished then 0 else min scale maxScale
        let (m, scale) := fitPrecision scale m
        let (m, scale) := dropTrailingPlaces scale m
        ofParts? m scale parts.negative

/-- A power by repeated squaring, each product rounded. -/
def floatPower : (fuel : Nat) → (result base : Float) → (n : Nat) → Float
  | 0, result, _, _ => result
  | fuel + 1, result, base, n =>
    let result := if n % 2 = 1 then result * base else result
    if n / 2 = 0 then result else floatPower fuel result (base * base) (n / 2)

/-- The floating point number near a decimal: whole part and places are converted apart, added, and rounded to the
places that the decimal has. -/
def toFloat (d : Decimal) : Float :=
  if d.scale = 0 then floatOfInt d.signed
  else
    let unit := Nat.pow 10 d.scale
    let whole := floatOfInt (d.mantissa / unit : Nat)
    let places := floatOfInt (d.mantissa % unit : Nat) / floatOfInt (unit : Nat)
    let magnitude :=
      if d.mantissa % unit = 0 then whole
      else
        let scaled := floatPower 6 1.0 10.0 d.scale
        ((whole + places) * scaled).round / scaled
    if d.negative then -magnitude else magnitude

/-! ## Rounding -/

/-- Which neighbour a number between two decimals goes to. -/
inductive Rounding where
  | midpointNearestEven
  | midpointAwayFromZero
  | midpointTowardZero
  | toZero
  | awayFromZero
  | toNegativeInfinity
  | toPositiveInfinity
deriving DecidableEq, Repr

/-- Every way to round. -/
def Rounding.all : List Rounding :=
  [.midpointNearestEven, .midpointAwayFromZero, .midpointTowardZero, .toZero, .awayFromZero, .toNegativeInfinity,
    .toPositiveInfinity]

/-- Whether the magnitude `below + rest / unit`, with `rest` not zero, goes to `below + 1`. -/
def Rounding.goesUp (mode : Rounding) (negative : Bool) (below rest unit : Nat) : Bool :=
  match mode with
  | .midpointNearestEven => unit < 2 * rest || (2 * rest = unit && below % 2 = 1)
  | .midpointAwayFromZero => unit ≤ 2 * rest
  | .midpointTowardZero => unit < 2 * rest
  | .toZero => false
  | .awayFromZero => 0 < rest
  | .toNegativeInfinity => negative && 0 < rest
  | .toPositiveInfinity => !negative && 0 < rest

/-- The decimal with at most `places` places. Zero takes the places asked for. -/
def round (d : Decimal) (mode : Rounding) (places : Nat) : Decimal :=
  if d.mantissa = 0 then (ofParts? 0 (min places maxScale) d.negative).getD d
  else if d.scale ≤ places then d
  else
    let unit := Nat.pow 10 (d.scale - places)
    let below := d.mantissa / unit
    let rounded := if mode.goesUp d.negative below (d.mantissa % unit) unit then below + 1 else below
    (ofSigned? rounded places d.negative).getD d

end Decimal

end SqlMapper.Number
