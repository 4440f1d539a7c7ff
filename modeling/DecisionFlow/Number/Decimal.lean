import DecisionFlow.Number.Binary64
import DecisionFlow.Text.Integer

/-!
# Decimal numerals

A decimal numeral has digits with an optional point, at least one of them, and an optional
exponent. Its value is the double nearest to what it says.
-/
namespace DecisionFlow.Number

/-- The double nearest to `digits · 10 ^ exponent`. Numbers far beyond the largest double are
infinite and those far below the smallest are zero. -/
def ofDecimal (digits : Nat) (exponent : Int) : Float :=
  let magnitude := exponent + (Nat.toDigits 10 digits).length
  if digits = 0 ∨ magnitude < -400 then 0.0
  else if 400 < magnitude then 1.0 / 0.0
  else Float.ofScientific digits (exponent < 0) exponent.natAbs

/-- The exponent that a text spells; zero when it is empty. -/
def readExponent? : List Char → Option Int
  | [] => some 0
  | mark :: rest =>
    let (negative, digits) := match rest with
      | '-' :: digits => (true, digits)
      | '+' :: digits => (false, digits)
      | digits => (false, digits)
    if (mark == 'e' || mark == 'E') && !digits.isEmpty && digits.all Char.isDigit then
      some (if negative then -(Text.digitsValue digits : Int) else Text.digitsValue digits)
    else none

/-- The double that a numeral without sign spells. -/
def readMagnitude? (text : List Char) : Option Float := do
  let whole := text.takeWhile Char.isDigit
  let rest := text.dropWhile Char.isDigit
  let (fraction, rest) := match rest with
    | '.' :: rest => (rest.takeWhile Char.isDigit, rest.dropWhile Char.isDigit)
    | rest => ([], rest)
  guard !(whole.isEmpty && fraction.isEmpty)
  return ofDecimal (Text.digitsValue (whole ++ fraction)) ((← readExponent? rest) - fraction.length)

/-- The double that a numeral spells. -/
def readDecimal? : List Char → Option Float
  | '-' :: rest => (readMagnitude? rest).map (-·)
  | '+' :: rest => readMagnitude? rest
  | rest => readMagnitude? rest

end DecisionFlow.Number
