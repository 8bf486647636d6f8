/-!
# Binary floating point of 64 bits

A number is kept as its sign, an integer significand and a power of two, so every conversion
below is exact arithmetic on integers followed by one rounding.
-/
namespace DeclarationLint

/-- A value of the 64-bit binary format. A finite value is `significand * 2 ^ exponent`; both
zeros have significand 0. -/
inductive Binary64 where
  | nan
  | infinite (negative : Bool)
  | finite (negative : Bool) (significand : Nat) (exponent : Int)
deriving DecidableEq, Repr

namespace Binary64

/-- The exponent of the smallest positive value. -/
def leastExponent : Int := -1074

/-- The exponent of the largest finite values. -/
def greatestExponent : Int := 971

/-- The first significand that does not fit in the 53 bits of the format. -/
def significandBound : Nat := Nat.pow 2 53

/-- The quotient of two naturals rounded to nearest, a tie going to the even neighbour. -/
def divideToEven (numerator denominator : Nat) : Nat :=
  let quotient := numerator / denominator
  let twice := 2 * (numerator % denominator)
  if twice < denominator then quotient
  else if denominator < twice then quotient + 1
  else if quotient % 2 = 0 then quotient else quotient + 1

/-- Two naturals in the ratio `numerator / denominator` over `2 ^ exponent`. -/
def scaled (numerator denominator : Nat) (exponent : Int) : Nat × Nat :=
  if 0 ≤ exponent then (numerator, denominator * Nat.pow 2 exponent.toNat)
  else (numerator * Nat.pow 2 (-exponent).toNat, denominator)

/-- The exponent that leaves a positive ratio 53 significant bits, or the least exponent for
ratios too small for that. -/
def exponentFor (numerator denominator : Nat) : Int :=
  let estimate : Int := Int.ofNat numerator.log2 - Int.ofNat denominator.log2
  let (top, bottom) := scaled numerator denominator estimate
  max leastExponent (if bottom ≤ top then estimate - 52 else estimate - 53)

/-- The value nearest to a ratio of naturals, a tie going to the even significand; a ratio
beyond the largest finite value becomes infinite. -/
def ofRatio (negative : Bool) (numerator denominator : Nat) : Binary64 :=
  if numerator = 0 then .finite negative 0 leastExponent
  else
    let exponent := exponentFor numerator denominator
    let (top, bottom) := scaled numerator denominator exponent
    let rounded := divideToEven top bottom
    let (significand, exponent) :=
      if rounded = significandBound then (rounded / 2, exponent + 1) else (rounded, exponent)
    if greatestExponent < exponent then .infinite negative
    else .finite negative significand exponent

def ofInt (value : Int) : Binary64 :=
  ofRatio (value < 0) value.natAbs 1

/-- A decimal whose value is this power of ten or more is beyond the format. -/
def decimalCeiling : Int := 310

/-- A decimal whose value is below this power of ten rounds to zero. -/
def decimalFloor : Int := -330

/-- The value nearest to `digits * 10 ^ exponent`. The two bounds answer for exponents far
outside the format, whose powers of ten would not fit in memory. -/
def ofDecimal (negative : Bool) (digits : Nat) (exponent : Int) : Binary64 :=
  let magnitude : Int := (Nat.toDigits 10 digits).length + exponent
  if digits = 0 then .finite negative 0 leastExponent
  else if decimalCeiling < magnitude then .infinite negative
  else if magnitude < decimalFloor then .finite negative 0 leastExponent
  else if 0 ≤ exponent then ofRatio negative (digits * Nat.pow 10 exponent.toNat) 1
  else ofRatio negative digits (Nat.pow 10 (-exponent).toNat)

/-- The integer part, rounding toward zero. -/
def truncate? : Binary64 → Option Int
  | .nan => none
  | .infinite _ => none
  | .finite negative significand exponent =>
    let size :=
      if 0 ≤ exponent then significand * Nat.pow 2 exponent.toNat
      else significand / Nat.pow 2 (-exponent).toNat
    some (if negative then -(size : Int) else size)

/-- Whether a finite value has no fraction. -/
def isIntegral : Binary64 → Bool
  | .finite _ significand exponent =>
    0 ≤ exponent || significand % Nat.pow 2 (-exponent).toNat = 0
  | _ => false

end Binary64
end DeclarationLint
