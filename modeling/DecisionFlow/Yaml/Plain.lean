import DecisionFlow.Number.Decimal
import DecisionFlow.Yaml.Tree

/-!
# Plain scalars

A plain scalar without a tag says what it looks like: null, a truth value, an integer in base 2,
8, 10 or 16, a double, or else a text. Decimal digits with a zero before them are a text.
-/
namespace DecisionFlow.Yaml.Plain

/-- Whether a text spells null. -/
def isNull (text : String) : Bool := ["null", "Null", "NULL", "~"].contains text

/-- The truth value that a text spells. -/
def bool? (text : String) : Option Bool :=
  if ["true", "True", "TRUE"].contains text then some true
  else if ["false", "False", "FALSE"].contains text then some false
  else none

/-- The number that a text without sign spells, with its base as a mark in front. -/
def magnitude? : List Char → Option Nat
  | '0' :: 'x' :: digits => Text.ofDigits? 16 digits
  | '0' :: 'o' :: digits => Text.ofDigits? 8 digits
  | '0' :: 'b' :: digits => Text.ofDigits? 2 digits
  | '0' :: _ :: _ => none
  | digits => Text.ofDigits? 10 digits

/-- The integer that a text spells. -/
def integer? : List Char → Option Int
  | '-' :: rest => (magnitude? rest).map fun magnitude => -(magnitude : Int)
  | '+' :: rest => (magnitude? rest).map fun magnitude => (magnitude : Int)
  | rest => (magnitude? rest).map fun magnitude => (magnitude : Int)

/-- The double that a text spells: the infinities and the number that is none have names, and
other numbers have to be finite. -/
def float? (text : String) : Option Float :=
  if [".inf", ".Inf", ".INF", "+.inf", "+.Inf", "+.INF"].contains text then some (1.0 / 0.0)
  else if ["-.inf", "-.Inf", "-.INF"].contains text then some (-1.0 / 0.0)
  else if [".nan", ".NaN", ".NAN"].contains text then some Number.nan
  else do
    let value ← Number.readDecimal? text.toList
    guard value.isFinite
    return value

/-- Whether a text has only digits after its sign, with a zero before others. -/
def isPadded (text : List Char) : Bool :=
  let digits := match text with
    | '-' :: rest => rest
    | '+' :: rest => rest
    | rest => rest
  digits.length > 1 && digits.head? == some '0' && digits.all Char.isDigit

/-- What becomes of a text that may spell an integer. -/
inductive Whole where
  /-- It is an integer. -/
  | integer (value : Int)
  /-- It spells an integer that is out of range. -/
  | outOfRange
  /-- It spells none, or one that only a double can hold. -/
  | none

/-- The integer that a text stands for: up to 64 bits it is one, up to 128 bits it is an error. -/
def whole (text : List Char) : Whole :=
  match integer? text with
  | some value =>
    if -0x8000000000000000 ≤ value ∧ value < 0x10000000000000000 then .integer value
    else if -0x80000000000000000000000000000000 ≤ value ∧
        value < 0x100000000000000000000000000000000 then .outOfRange
    else .none
  | Option.none => .none

/-- The tree of a plain scalar without a tag. -/
def tree? (text : String) : Option Tree :=
  if text.isEmpty || isNull text then some .null
  else match bool? text with
    | some value => some (.bool value)
    | none =>
      match whole text.toList with
      | .integer value => some (.int value)
      | .outOfRange => none
      | .none =>
        match if isPadded text.toList then none else float? text with
        | some value => some (.float value)
        | none => some (.string text)

end DecisionFlow.Yaml.Plain
