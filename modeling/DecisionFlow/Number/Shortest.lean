import DecisionFlow.Number.Binary64

/-!
# Shortest decimal digits

The shortest decimal of a positive double `m · 2 ^ q` is the one with the fewest digits among the
decimals that round to the double, and of those the nearest to it. The reals that round to the
double form an interval, whose ends belong to it when the mantissa is even; for each digit count
in turn the two neighbours of the double on the decimal grid are tried, in exact arithmetic.
-/
namespace DecisionFlow.Number

/-- A decimal number `coefficient · 10 ^ exponent`. -/
structure Decimal where
  /-- The digits as a natural number. -/
  coefficient : Nat
  /-- The power of ten. -/
  exponent : Int
deriving DecidableEq, Repr

/-- Which of two equally near decimals is taken. -/
inductive Tie where
  /-- The greater. -/
  | up
  /-- The one with an even last digit. -/
  | even
deriving DecidableEq, Repr

/-- A positive rational number by a numerator and a denominator. -/
structure Ratio where
  /-- The numerator. -/
  num : Nat
  /-- The denominator. -/
  den : Nat

namespace Ratio

/-- A natural number times a power of a base. -/
def ofScaled (value base : Nat) (exponent : Int) : Ratio :=
  if 0 ≤ exponent then ⟨value * base.pow exponent.toNat, 1⟩
  else ⟨value, base.pow (-exponent).toNat⟩

/-- Whether one ratio is less than another. -/
def lt (a b : Ratio) : Bool := a.num * b.den < b.num * a.den

/-- Whether one ratio is at most another. -/
def le (a b : Ratio) : Bool := a.num * b.den ≤ b.num * a.den

/-- The distance between two ratios. -/
def distance (a b : Ratio) : Ratio :=
  let left := a.num * b.den
  let right := b.num * a.den
  ⟨if left ≤ right then right - left else left - right, a.den * b.den⟩

/-- The quotient of two ratios, rounded down. -/
def floorDiv (a b : Ratio) : Nat := a.num * b.den / (a.den * b.num)

end Ratio

/-- The reals that round to a double, with the double itself. -/
structure Interval where
  /-- The lower end. -/
  low : Ratio
  /-- The double. -/
  value : Ratio
  /-- The upper end. -/
  high : Ratio
  /-- Whether the ends belong to the interval. -/
  closed : Bool

namespace Interval

/-- The interval of `mantissa · 2 ^ exponent`. The gap below a power of two is half as wide as
the gap above it, except at the least exponent. -/
def ofParts (mantissa : Nat) (exponent : Int) : Interval :=
  let below := if mantissa = 0x10000000000000 ∧ -1074 < exponent then 1 else 2
  { low := .ofScaled (4 * mantissa - below) 2 (exponent - 2)
    value := .ofScaled (4 * mantissa) 2 (exponent - 2)
    high := .ofScaled (4 * mantissa + 2) 2 (exponent - 2)
    closed := mantissa % 2 == 0 }

/-- Whether a ratio lies in the interval. -/
def contains (interval : Interval) (x : Ratio) : Bool :=
  if interval.closed then interval.low.le x && x.le interval.high
  else interval.low.lt x && x.lt interval.high

end Interval

/-- The least power of ten above `mantissa · 2 ^ exponent`, from an estimate by the binary
length that is at most two too small. -/
def decimalPoint (mantissa : Nat) (exponent : Int) : Int :=
  let estimate := Int.fdiv ((mantissa.log2 + exponent) * 30103) 100000
  let value := Ratio.ofScaled mantissa 2 exponent
  if value.lt (.ofScaled 1 10 estimate) then estimate
  else if value.lt (.ofScaled 1 10 (estimate + 1)) then estimate + 1
  else estimate + 2

/-- The neighbour of the interval's value on the grid of multiples of `10 ^ place` that lies in
the interval; of two the nearer, and of two equally near ones as the tie says. -/
def Interval.onGrid (interval : Interval) (tie : Tie) (place : Int) : Option Decimal :=
  let grid := Ratio.ofScaled 1 10 place
  let lower := interval.value.floorDiv grid
  let upper := lower + 1
  let lowerRatio := Ratio.ofScaled lower 10 place
  let upperRatio := Ratio.ofScaled upper 10 place
  if interval.contains lowerRatio then
    if interval.contains upperRatio then
      let down := interval.value.distance lowerRatio
      let up := interval.value.distance upperRatio
      if down.lt up then some ⟨lower, place⟩
      else if up.lt down then some ⟨upper, place⟩
      else match tie with
        | .up => some ⟨upper, place⟩
        | .even => some ⟨if lower % 2 = 0 then lower else upper, place⟩
    else some ⟨lower, place⟩
  else if interval.contains upperRatio then some ⟨upper, place⟩
  else none

/-- A decimal without trailing zeros in its coefficient, in at most `steps` steps. -/
def Decimal.strip (decimal : Decimal) : Nat → Decimal
  | 0 => decimal
  | steps + 1 =>
    if decimal.coefficient % 10 = 0 ∧ decimal.coefficient ≠ 0 then
      Decimal.strip ⟨decimal.coefficient / 10, decimal.exponent + 1⟩ steps
    else decimal

/-- The shortest decimal of the positive double `mantissa · 2 ^ exponent`; seventeen digits are
always enough. -/
def shortest (tie : Tie) (mantissa : Nat) (exponent : Int) : Decimal :=
  let interval := Interval.ofParts mantissa exponent
  let point := decimalPoint mantissa exponent
  let found := (List.range 17).findSome? fun places =>
    interval.onGrid tie (point - (places + 1 : Nat))
  (found.getD ⟨0, 0⟩).strip 20

end DecisionFlow.Number
