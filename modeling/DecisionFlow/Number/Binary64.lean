/-!
# Binary floating-point numbers

A finite double is a sign, a natural mantissa and a binary exponent. The remainder is exact: it
works on mantissas and exponents in natural numbers and rounds nowhere. An integer becomes the
double nearest to it.
-/
namespace DecisionFlow.Number

/-- A double taken apart. -/
inductive Parts where
  /-- Not a number. -/
  | nan
  /-- An infinity, with its sign. -/
  | infinite (negative : Bool)
  /-- The number `± mantissa · 2 ^ exponent`. -/
  | finite (negative : Bool) (mantissa : Nat) (exponent : Int)
deriving DecidableEq, Repr

/-- The parts of the double with the given bits: one sign bit, eleven exponent bits and
fifty-two fraction bits. -/
def Parts.ofBits (bits : Nat) : Parts :=
  let negative := bits / 0x8000000000000000 % 2 == 1
  let biased : Nat := bits / 0x10000000000000 % 0x800
  let fraction : Nat := bits % 0x10000000000000
  if biased = 2047 then if fraction = 0 then .infinite negative else .nan
  else if biased = 0 then .finite negative fraction (-1074)
  else .finite negative (0x10000000000000 + fraction) ((biased : Int) - 1075)

/-- The parts of a double. -/
def parts (x : Float) : Parts := Parts.ofBits x.toBits.toNat

/-- The double `± mantissa · 2 ^ exponent`, which must be representable. -/
def ofParts (negative : Bool) (mantissa : Nat) (exponent : Int) : Float :=
  let magnitude := (Float.ofNat mantissa).scaleB exponent
  if negative then -magnitude else magnitude

/-- The double nearest to an integer. -/
def ofInt64 (n : Int64) : Float := Float.ofInt n.toInt

/-- The double that is not a number. -/
def nan : Float := 0.0 / 0.0

/-- The remainder of the truncated division, with the sign of the dividend. It is exact: both
operands are brought to the smaller of their exponents and the mantissas divided. There is no
remainder by zero or of an infinity; an infinite divisor leaves the dividend. -/
def remainder (x y : Float) : Float :=
  match parts x, parts y with
  | .finite negative m e, .finite _ n f =>
    if n = 0 then nan
    else
      let least := min e f
      let scaled := m <<< (e - least).toNat
      let divisor := n <<< (f - least).toNat
      ofParts negative (scaled % divisor) least
  | .finite .., .infinite _ => x
  | _, _ => nan

/-- The lesser of two numbers; the other one when one is not a number. -/
def lesser (x y : Float) : Float :=
  if x.isNaN then y else if y.isNaN then x else if x ≤ y then x else y

/-- The greater of two numbers; the other one when one is not a number. -/
def greater (x y : Float) : Float :=
  if x.isNaN then y else if y.isNaN then x else if x ≥ y then x else y

/-- The distance between 1 and the next greater double. -/
def epsilon : Float := Float.ofBits 0x3CB0000000000000

/-- Equality of numbers up to rounding: they differ by less than `epsilon`. -/
def near (x y : Float) : Bool := (x - y).abs < epsilon

end DecisionFlow.Number
