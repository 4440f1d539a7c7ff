import DecisionFlow.Json.Basic
import DecisionFlow.Text.Integer

/-!
# JSON numerals

A numeral without fraction and exponent is an integer as long as it fits 64 bits; every other
numeral is a double. A double is computed from as many leading digits as fit 64 bits, scaled by
one power of ten in floating-point arithmetic, so its last bit may differ from the nearest
double. A numeral past the range of doubles has no value; one too small for them is zero.
-/
namespace DecisionFlow.Json

/-- The parts of a numeral. -/
structure Numeral where
  /-- Whether there is a minus sign. -/
  negative : Bool
  /-- The digits before the point. -/
  whole : List Char
  /-- The digits after the point. -/
  fraction : List Char
  /-- The exponent: whether it is negative, and its digits. -/
  exponent : Option (Bool × List Char)

/-- A significand of at most 64 bits with a power of ten. -/
structure Scaled where
  /-- The significand. -/
  significand : Nat
  /-- The power of ten. -/
  exponent : Int
  /-- Whether a digit did not fit, so that no more are taken. -/
  full : Bool

namespace Scaled

/-- Take one more digit before the point; digits that do not fit count as zeros. -/
def pushWhole (scaled : Scaled) (c : Char) : Scaled :=
  let next := scaled.significand * 10 + Text.digitValue c
  if !scaled.full && next < 0x10000000000000000 then { scaled with significand := next }
  else { scaled with exponent := scaled.exponent + 1, full := true }

/-- Take one more digit after the point; digits from the first on that does not fit are
dropped. -/
def pushFraction (scaled : Scaled) (c : Char) : Scaled :=
  let next := scaled.significand * 10 + Text.digitValue c
  if !scaled.full && next < 0x10000000000000000 then
    { scaled with significand := next, exponent := scaled.exponent - 1 }
  else { scaled with full := true }

/-- Divide by powers of ten until the rest of the exponent is in the table of powers, for at
most the given number of steps. -/
def divideDown (x : Float) (exponent : Nat) : Nat → Float
  | 0 => x
  | steps + 1 =>
    if exponent ≤ 308 then x / Float.ofScientific 1 false exponent
    else if x == 0.0 then x
    else divideDown (x / Float.ofScientific 1 false 308) (exponent - 308) steps

/-- The double of a scaled significand, unless it is out of range. -/
def toFloat? (scaled : Scaled) : Option Float :=
  let x := Float.ofNat scaled.significand
  if 0 ≤ scaled.exponent then
    if scaled.exponent ≤ 308 then
      let scaledUp := x * Float.ofScientific 1 false scaled.exponent.toNat
      if scaledUp.isInf then none else some scaledUp
    else if x == 0.0 then some x else none
  else some (divideDown x (-scaled.exponent).toNat ((-scaled.exponent).toNat / 308 + 1))

end Scaled

namespace Numeral

/-- The double of a numeral, unless it is out of range. An exponent past 31 bits makes the
numeral zero or out of range. -/
def toFloat? (numeral : Numeral) : Option Float :=
  let whole := numeral.whole.foldl Scaled.pushWhole ⟨0, 0, false⟩
  let scaled := numeral.fraction.foldl Scaled.pushFraction { whole with full := false }
  let magnitude : Option Float :=
    match numeral.exponent with
    | none => scaled.toFloat?
    | some (down, digits) =>
      let power := Text.digitsValue digits
      if 0x80000000 ≤ power then
        if scaled.significand ≠ 0 && !down then none else some 0.0
      else Scaled.toFloat?
        { scaled with
          exponent := if down then scaled.exponent - power else scaled.exponent + power }
  magnitude.map fun x => if numeral.negative then -x else x

/-- The tree of a numeral; minus zero is a double. -/
def toJson (numeral : Numeral) : Json :=
  let value := Text.digitsValue numeral.whole
  let isInteger := numeral.fraction.isEmpty && numeral.exponent.isNone
  if isInteger && !numeral.negative && value < 0x10000000000000000 then .int value
  else if isInteger && numeral.negative && value ≠ 0 && value ≤ 0x8000000000000000 then
    .int (-value)
  else match numeral.toFloat? with
    | some x => .float x
    | none => .broken

end Numeral

end DecisionFlow.Json
