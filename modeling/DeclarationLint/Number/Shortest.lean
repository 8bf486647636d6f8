import DeclarationLint.Number.Binary64

/-!
# Shortest decimals

Every finite value of the binary format is written with the fewest decimal digits that read
back to it, and among those with the decimal nearest to it. The digits come first, their
layout second.
-/
namespace DeclarationLint

/-- A decimal number `digits * 10 ^ exponent`. -/
structure Decimal where
  digits : Nat
  exponent : Int
deriving DecidableEq, Repr

namespace Shortest

/-- The decimals that read back to a positive binary value, as a range around it: all four
numbers are over the same denominator, and the ends belong to the range when `closed`. -/
structure Interval where
  lowest : Nat
  value : Nat
  highest : Nat
  denominator : Nat
  closed : Bool
deriving DecidableEq, Repr

/-- Half the gap to each neighbour is one quarter or one half of a unit of the significand:
below a power of two the values lie twice as close. Quarters make all ends integral. -/
def intervalOf (significand : Nat) (exponent : Int) : Interval :=
  let unit := Nat.pow 2 exponent.toNat
  let narrow := significand = Nat.pow 2 52 ∧ Binary64.leastExponent < exponent
  { lowest := (4 * significand - if narrow then 1 else 2) * unit
    value := 4 * significand * unit
    highest := (4 * significand + 2) * unit
    denominator := 4 * Nat.pow 2 (-exponent).toNat
    closed := significand % 2 = 0 }

/-- Two naturals in the ratio of a power of ten to one. -/
def power (exponent : Int) : Nat × Nat :=
  (Nat.pow 10 exponent.toNat, Nat.pow 10 (-exponent).toNat)

/-- Whether `digits * 10 ^ exponent` reads back to the value inside the interval. -/
def Interval.holds (range : Interval) (decimal : Decimal) : Bool :=
  let (top, bottom) := power decimal.exponent
  let scaled := decimal.digits * top * range.denominator
  if range.closed then range.lowest * bottom ≤ scaled && scaled ≤ range.highest * bottom
  else range.lowest * bottom < scaled && scaled < range.highest * bottom

/-- The two neighbours of the value on the grid of multiples of `10 ^ exponent`, and whether
the upper one is the nearer. -/
def Interval.neighbours (range : Interval) (exponent : Int) : Decimal × Decimal × Bool :=
  let (top, bottom) := power exponent
  let size := range.value * bottom
  let step := top * range.denominator
  let below := size / step
  (⟨below, exponent⟩, ⟨below + 1, exponent⟩, step < 2 * (size % step) ||
    (step = 2 * (size % step) && below % 2 = 1))

/-- The decimal on one grid that reads back and lies nearest, if any does. -/
def Interval.onGrid? (range : Interval) (exponent : Int) : Option Decimal :=
  let (below, above, upper) := range.neighbours exponent
  match range.holds below, range.holds above with
  | true, true => some (if upper then above else below)
  | true, false => some below
  | false, true => some above
  | false, false => none

/-- The least `k` for which the value of a ratio is below `10 ^ k`. -/
def scaleOf (numerator denominator : Nat) : Int :=
  if denominator ≤ numerator then (Nat.toDigits 10 (numerator / denominator)).length
  else
    let inverse := (denominator + numerator - 1) / numerator
    1 - ((Nat.toDigits 10 (inverse - 1)).length : Int)

/-- Takes trailing zeros from the digits into the exponent. -/
def stripZeros : Nat → Decimal → Decimal
  | 0, decimal => decimal
  | bound + 1, decimal =>
    if decimal.digits ≠ 0 ∧ decimal.digits % 10 = 0 then
      stripZeros bound ⟨decimal.digits / 10, decimal.exponent + 1⟩
    else decimal

/-- No binary value needs more digits. -/
def mostDigits : Nat := 17

/-- The first hit among the grids of one, two, … digits; the value itself if there were none. -/
def decimalOf (significand : Nat) (exponent : Int) : Decimal :=
  let range := intervalOf significand exponent
  let scale := scaleOf range.value range.denominator
  let hit := (List.range mostDigits).findSome? fun (digits : Nat) =>
    range.onGrid? (scale - (digits : Int) - 1)
  match hit with
  | some decimal => stripZeros mostDigits decimal
  | none =>
    ⟨significand * Nat.pow 2 exponent.toNat * Nat.pow 5 (-exponent).toNat, min exponent 0⟩

end Shortest

/-- How the digits of a number are laid out on the line. -/
structure DecimalStyle where
  /-- The least power of ten of the first digit that is written without an exponent. -/
  leastPlain : Int
  /-- The first power of ten that is written with an exponent again. -/
  firstScientific : Int
  /-- How many digits an exponent has at least. -/
  exponentWidth : Nat
deriving Repr

namespace DecimalStyle

def padded (width : Nat) (digits : String) : String :=
  String.ofList (List.replicate (width - digits.length) '0') ++ digits

/-- A point after the first digit, then the exponent with its sign. -/
def scientific (style : DecimalStyle) (digits : List Char) (power : Int) : String :=
  let mantissa := match digits with
    | first :: second :: rest => String.ofList (first :: '.' :: second :: rest)
    | short => String.ofList short
  mantissa ++ (if power < 0 then "e-" else "e+") ++
    padded style.exponentWidth (toString power.natAbs)

/-- All digits around the point, with at least one on either side. -/
def plain (digits : List Char) (power : Int) : String :=
  if power < 0 then
    "0." ++ String.ofList (List.replicate (-power - 1).toNat '0' ++ digits)
  else
    let whole := digits.take (power.toNat + 1)
    let fraction := digits.drop (power.toNat + 1)
    String.ofList (whole ++ List.replicate (power.toNat + 1 - whole.length) '0') ++ "." ++
      (if fraction.isEmpty then "0" else String.ofList fraction)

def layOut (style : DecimalStyle) (decimal : Decimal) : String :=
  let digits := Nat.toDigits 10 decimal.digits
  let power : Int := decimal.exponent + digits.length - 1
  if style.leastPlain ≤ power ∧ power < style.firstScientific then plain digits power
  else style.scientific digits power

end DecimalStyle

namespace Binary64

/-- Values are written positionally from one ten-thousandth up to ten quadrillion, and with a
signed exponent of two digits elsewhere. -/
def style : DecimalStyle := ⟨-4, 16, 2⟩

def render : Binary64 → String
  | .nan => "nan"
  | .infinite negative => if negative then "-inf" else "inf"
  | .finite negative significand exponent =>
    (if negative then "-" else "") ++
      if significand = 0 then "0.0"
      else style.layOut (Shortest.decimalOf significand exponent)

end Binary64
end DeclarationLint
