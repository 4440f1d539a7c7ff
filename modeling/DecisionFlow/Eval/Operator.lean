import DecisionFlow.Expr.Basic
import DecisionFlow.Eval.Error
import DecisionFlow.Number.Binary64
import DecisionFlow.Text.Search
import DecisionFlow.Value.Basic

/-!
# Operators on values

Integer arithmetic wraps at 64 bits and division truncates. When an integer meets a double, it
becomes one. Equality of numbers of which one is a double allows for rounding
(`Number.near`); everything else is compared strictly. Order is between numbers or between
texts, and nothing is ordered against what is not a number.
-/
namespace DecisionFlow.Eval

/-- A pair of numbers brought to a common kind. -/
inductive Numbers where
  /-- Two integers. -/
  | ints (left right : Int64)
  /-- Two doubles. -/
  | floats (left right : Float)

/-- Two values as numbers: integers stay integers only among themselves. -/
def numbers? : Value → Value → Option Numbers
  | .int a, .int b => some (.ints a b)
  | .float a, .float b => some (.floats a b)
  | .int a, .float b => some (.floats (Number.ofInt64 a) b)
  | .float a, .int b => some (.floats a (Number.ofInt64 b))
  | _, _ => none

/-- The negative of a number. -/
def negate : Value → Except EvalError Value
  | .int value => .ok (.int (-value))
  | .float value => .ok (.float (-value))
  | other => .error (.noNegation other.kind)

/-- A prefix operator on a value. -/
def applyUnary (op : UnaryOp) (value : Value) : Except EvalError Value :=
  match op with
  | .not => .ok (.bool (!value.truthy))
  | .neg => negate value

/-- The sum of two numbers, or one text after another. -/
def add (left right : Value) : Except EvalError Value :=
  match left, right with
  | .string a, .string b => .ok (.string (a ++ b))
  | left, right =>
    match numbers? left right with
    | some (.ints a b) => .ok (.int (a + b))
    | some (.floats a b) => .ok (.float (a + b))
    | none => .error (.noArithmetic .add left.kind right.kind)

/-- The difference of two numbers. -/
def subtract (left right : Value) : Except EvalError Value :=
  match numbers? left right with
  | some (.ints a b) => .ok (.int (a - b))
  | some (.floats a b) => .ok (.float (a - b))
  | none => .error (.noArithmetic .subtract left.kind right.kind)

/-- The product of two numbers. -/
def multiply (left right : Value) : Except EvalError Value :=
  match numbers? left right with
  | some (.ints a b) => .ok (.int (a * b))
  | some (.floats a b) => .ok (.float (a * b))
  | none => .error (.noArithmetic .multiply left.kind right.kind)

/-- The quotient of two numbers; dividing by zero is an error for integers and doubles. -/
def divide (left right : Value) : Except EvalError Value :=
  match numbers? left right with
  | some (.ints a b) => if b = 0 then .error .divisionByZero else .ok (.int (a / b))
  | some (.floats a b) => if b == 0.0 then .error .divisionByZero else .ok (.float (a / b))
  | none => .error (.noArithmetic .divide left.kind right.kind)

/-- The remainder of two numbers, with the sign of the dividend. Only between integers is a zero
divisor an error; a remainder of doubles by zero is not a number. -/
def modulo (left right : Value) : Except EvalError Value :=
  match numbers? left right with
  | some (.ints a b) => if b = 0 then .error .moduloByZero else .ok (.int (a % b))
  | some (.floats a b) => .ok (.float (Number.remainder a b))
  | none => .error (.noArithmetic .modulo left.kind right.kind)

/-- Equality as an operator: up to rounding when a double is involved, else strict. -/
def equal (left right : Value) : Bool :=
  match numbers? left right with
  | some (.floats a b) => Number.near a b
  | _ => left.same right

/-- The orders that can be asked for. -/
inductive Order where
  /-- Less. -/
  | lt
  /-- Less or equal. -/
  | le
  /-- Greater. -/
  | gt
  /-- Greater or equal. -/
  | ge

/-- Whether two integers are in an order. -/
def Order.ints : Order → Int64 → Int64 → Bool
  | .lt, a, b => a < b
  | .le, a, b => a ≤ b
  | .gt, a, b => b < a
  | .ge, a, b => b ≤ a

/-- Whether two doubles are in an order. -/
def Order.floats : Order → Float → Float → Bool
  | .lt, a, b => a < b
  | .le, a, b => a ≤ b
  | .gt, a, b => b < a
  | .ge, a, b => b ≤ a

/-- Whether two texts are in an order, by their code points. -/
def Order.strings : Order → String → String → Bool
  | .lt, a, b => a < b
  | .le, a, b => !(b < a)
  | .gt, a, b => b < a
  | .ge, a, b => !(a < b)

/-- Whether two values are in an order. -/
def compare (order : Order) (left right : Value) : Except EvalError Value :=
  match left, right with
  | .string a, .string b => .ok (.bool (order.strings a b))
  | left, right =>
    match numbers? left right with
    | some (.ints a b) => .ok (.bool (order.ints a b))
    | some (.floats a b) => .ok (.bool (order.floats a b))
    | none => .error (.noOrder left.kind right.kind)

/-- Whether a value is a member of a list, a key of a map or a part of a text. -/
def member (value collection : Value) : Except EvalError Value :=
  match collection with
  | .list items => .ok (.bool (items.any fun item => equal value item))
  | .map entries =>
    match value with
    | .string key => .ok (.bool (entries.lookup key).isSome)
    | other => .error (.keyNotText other.kind)
  | .string text =>
    match value with
    | .string part => .ok (.bool (Text.contains text part))
    | other => .error (.partNotText other.kind)
  | other => .error (.noMembers other.kind)

end DecisionFlow.Eval
