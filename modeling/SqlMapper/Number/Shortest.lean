/-!
# Shortest decimals

The shortest decimal that reads back as a binary floating point number, and among those of that length the nearest
to it. A finite number is `m · 2 ^ q`; the reals that round to it form an interval around it, whose ends belong to it
when `m` is even. On the grid of decimals with `k` digits the two neighbours of the number are tried for
`k = 1, 2, …`, and the first grid on which one of them lies in the interval gives the answer.
-/

namespace SqlMapper.Number

/-- The interval of reals that round to a number, over a common denominator. -/
structure RoundingInterval where
  /-- Numerator of the number itself. -/
  value : Nat
  /-- Numerator of the lower end. -/
  low : Nat
  /-- Numerator of the upper end. -/
  high : Nat
  /-- Common denominator. -/
  denominator : Nat
  /-- Both ends round to the number too. -/
  closed : Bool

/-- The interval around `m · 2 ^ q`; below a power of two the numbers lie half as far apart. -/
def RoundingInterval.around (m : Nat) (q : Int) (isPowerBoundary : Bool) : RoundingInterval :=
  let scale := Nat.pow 2 (q - 2).toNat
  { value := 4 * m * scale
    low := (4 * m - if isPowerBoundary then 1 else 2) * scale
    high := (4 * m + 2) * scale
    denominator := Nat.pow 2 (2 - q).toNat
    closed := m % 2 = 0 }

/-- The decimal `n · 10 ^ p` lies in the interval. -/
def RoundingInterval.holds (i : RoundingInterval) (n : Nat) (p : Int) : Bool :=
  let x := n * Nat.pow 10 p.toNat * i.denominator
  let unit := Nat.pow 10 (-p).toNat
  if i.closed then i.low * unit ≤ x && x ≤ i.high * unit else i.low * unit < x && x < i.high * unit

/-- The exponent of the leading decimal digit of a positive fraction. -/
def leadingExponent (numerator denominator : Nat) : Int :=
  let guess : Int := (Nat.toDigits 10 numerator).length - (Nat.toDigits 10 denominator).length
  if denominator * Nat.pow 10 guess.toNat ≤ numerator * Nat.pow 10 (-guess).toNat then guess else guess - 1

/-- The nearest of the two neighbours on the grid `10 ^ p` that lies in the interval, the even one of a tie. -/
def RoundingInterval.onGrid (i : RoundingInterval) (p : Int) : Option Nat :=
  let numerator := i.value * Nat.pow 10 (-p).toNat
  let denominator := i.denominator * Nat.pow 10 p.toNat
  let below := numerator / denominator
  let rest := numerator % denominator
  let lower := i.holds below p
  let upper := i.holds (below + 1) p
  if lower && upper then
    if 2 * rest < denominator || (2 * rest = denominator && below % 2 = 0) then some below else some (below + 1)
  else if lower then some below
  else if upper then some (below + 1)
  else none

/-- Tries grids with more and more digits; seventeen digits always suffice. -/
def RoundingInterval.search (i : RoundingInterval) (leading : Int) : (digits more : Nat) → Nat × Int
  | digits, 0 => ((i.onGrid (leading - digits + 1)).getD 0, leading - digits + 1)
  | digits, more + 1 =>
    match i.onGrid (leading - digits + 1) with
    | some n => (n, leading - digits + 1)
    | none => i.search leading (digits + 1) more

/-- Removes the zeros at the end of a decimal. -/
def dropTrailingZeros : (fuel n : Nat) → (p : Int) → Nat × Int
  | 0, n, p => (n, p)
  | fuel + 1, n, p => if n ≠ 0 ∧ n % 10 = 0 then dropTrailingZeros fuel (n / 10) (p + 1) else (n, p)

/-- The shortest decimal `n · 10 ^ p` that reads back as `m · 2 ^ q`. -/
def shortestDecimal (m : Nat) (q : Int) (isPowerBoundary : Bool) : Nat × Int :=
  let i := RoundingInterval.around m q isPowerBoundary
  let (n, p) := i.search (leadingExponent i.value i.denominator) 1 16
  dropTrailingZeros 20 n p

/-- Sign, mantissa and exponent of a finite number, and whether it is the least of its binade. -/
structure BinaryParts where
  negative : Bool
  mantissa : Nat
  exponent : Int
  isPowerBoundary : Bool

/-- Takes a finite number apart. -/
def binaryParts (x : Float) : BinaryParts :=
  let bits := x.toBits.toNat
  let biased : Nat := bits / Nat.pow 2 52 % Nat.pow 2 11
  let fraction := bits % Nat.pow 2 52
  { negative := bits / Nat.pow 2 63 = 1
    mantissa := if biased = 0 then fraction else fraction + Nat.pow 2 52
    exponent := Int.ofNat (max biased 1) - 1075
    isPowerBoundary := fraction = 0 && 1 < biased }

end SqlMapper.Number
