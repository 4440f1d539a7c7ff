import DecisionFlow.Number.Shortest
import DecisionFlow.Text.Integer

/-!
# Layouts of decimal text

A layout turns a double into text: which way an exact tie between shortest decimals goes, which
positions of the decimal point are written out, and whether a whole number keeps a fraction.
Three layouts are in use: `plain` for display, `tagged` inside nested values, and `json` in JSON
text.
-/
namespace DecisionFlow.Number

/-- The decisions of a decimal notation. -/
structure Layout where
  /-- Which of two equally near shortest decimals is written. -/
  tie : Tie
  /-- Whether a number `0.d… · 10 ^ point` is written without an exponent. -/
  positional : Int → Bool
  /-- Whether a whole number is written with `.0`. -/
  fraction : Bool

/-- Display: never an exponent, no fraction on whole numbers; a tie goes up. -/
def Layout.plain : Layout := ⟨.up, fun _ => true, false⟩

/-- Inside nested values: an exponent below `1e-4` and from `1e16` on, and a fraction on whole
numbers; a tie goes up. -/
def Layout.tagged : Layout := ⟨.up, fun point => -4 < point && point ≤ 16, true⟩

/-- In JSON text: an exponent below `1e-5` and from `1e16` on, and a fraction on whole numbers; a
tie goes to the even digit. -/
def Layout.json : Layout := ⟨.even, fun point => -5 < point && point ≤ 16, true⟩

namespace Layout

/-- Digits with the decimal point after the first `point` of them; zeros fill up on either
side. -/
def placePoint (layout : Layout) (digits : List Char) (point : Int) : List Char :=
  let whole := if layout.fraction then ['.', '0'] else []
  if point ≤ 0 then '0' :: '.' :: List.replicate (-point).toNat '0' ++ digits
  else
    let place := point.toNat
    if digits.length ≤ place then
      digits ++ List.replicate (place - digits.length) '0' ++ whole
    else digits.take place ++ '.' :: digits.drop place

/-- Digits in exponent form, one digit before the point. -/
def withExponent (digits : List Char) (point : Int) : List Char :=
  let mantissa := match digits with
    | [] => ['0']
    | [digit] => [digit]
    | digit :: rest => digit :: '.' :: rest
  mantissa ++ 'e' :: Text.writeInt (point - 1)

/-- The text of `mantissa · 2 ^ exponent`. -/
def magnitude (layout : Layout) (mantissa : Nat) (exponent : Int) : List Char :=
  if mantissa = 0 then '0' :: (if layout.fraction then ['.', '0'] else [])
  else
    let decimal := shortest layout.tie mantissa exponent
    let digits := Text.writeNat decimal.coefficient
    let point := digits.length + decimal.exponent
    if layout.positional point then layout.placePoint digits point
    else withExponent digits point

/-- The text of a double. -/
def write (layout : Layout) (x : Float) : List Char :=
  match parts x with
  | .nan => ['N', 'a', 'N']
  | .infinite negative => if negative then ['-', 'i', 'n', 'f'] else ['i', 'n', 'f']
  | .finite negative mantissa exponent =>
    let text := layout.magnitude mantissa exponent
    if negative then '-' :: text else text

/-- The text of a double as a string. -/
def text (layout : Layout) (x : Float) : String := String.ofList (layout.write x)

end Layout

end DecisionFlow.Number
