import DecisionFlow.Eval.Builtin
import DecisionFlow.Eval.Operator
import DecisionFlow.Expr.Basic
import DecisionFlow.Value.Access

/-!
# Evaluation

An expression is evaluated on a record. The name of the parameter stands for the whole record;
any other name stands for the value at that key of the record, which must be there. Operands,
items and arguments are evaluated from left to right, and the first failure is the failure of
the whole; conjunction, disjunction and the conditional evaluate only what they need. The matcher
of patterns and the enumeration of maps are parameters.
-/
namespace DecisionFlow

/-- What an expression is evaluated on. -/
structure Context where
  /-- The record. -/
  record : Value
  /-- The name that stands for the record. -/
  param : String

/-- The value of a name. -/
def Context.resolve (context : Context) (name : String) : Except EvalError Value :=
  if name == context.param then .ok context.record
  else match context.record.get? name with
    | some value => .ok value
    | none => .error (.undefinedVariable name)

namespace Eval

variable [Regex.Matcher] [Value.Enumeration]

/-- A pattern match as an operator. -/
def matchOperator (left right : Value) : Except EvalError Value :=
  match left, right with
  | .string text, .string pattern => matchText text pattern
  | left, right => .error (.noMatch left.kind right.kind)

/-- An operator on two values; conjunction and disjunction take the truth of both. -/
def applyBinary (op : BinaryOp) (left right : Value) : Except EvalError Value :=
  match op with
  | .add => add left right
  | .sub => subtract left right
  | .mul => multiply left right
  | .div => divide left right
  | .mod => modulo left right
  | .eq => .ok (.bool (equal left right))
  | .ne => .ok (.bool (!equal left right))
  | .lt => compare .lt left right
  | .le => compare .le left right
  | .gt => compare .gt left right
  | .ge => compare .ge left right
  | .and => .ok (.bool (left.truthy && right.truthy))
  | .or => .ok (.bool (left.truthy || right.truthy))
  | .contains => call "contains" [left, right]
  | .startsWith => call "starts_with" [left, right]
  | .endsWith => call "ends_with" [left, right]
  | .matchesPattern => matchOperator left right
  | .member => member left right

mutual

/-- The value of an expression on a record. -/
def eval (context : Context) : Expr → Except EvalError Value
  | .null => .ok .null
  | .bool value => .ok (.bool value)
  | .int value => .ok (.int value)
  | .float value => .ok (.float value)
  | .string value => .ok (.string value)
  | .list items => do return .list (← evalItems context items)
  | .map entries => do return Value.ofEntries (← evalEntries context entries)
  | .ident name => context.resolve name
  | .field base name => do (← eval context base).field name
  | .index base key => do
    let base ← eval context base
    let key ← eval context key
    base.index key
  | .unary op operand => do applyUnary op (← eval context operand)
  | .binary .and left right => do
    let left ← eval context left
    if left.truthy then return .bool (← eval context right).truthy else return .bool false
  | .binary .or left right => do
    let left ← eval context left
    if left.truthy then return .bool true else return .bool (← eval context right).truthy
  | .binary op left right => do
    let left ← eval context left
    let right ← eval context right
    applyBinary op left right
  | .ternary condition yes no => do
    let condition ← eval context condition
    if condition.truthy then eval context yes else eval context no
  | .call name arguments => do call name (← evalItems context arguments)

/-- The values of expressions from left to right. -/
def evalItems (context : Context) : List Expr → Except EvalError (List Value)
  | [] => .ok []
  | item :: rest => do
    let value ← eval context item
    return value :: (← evalItems context rest)

/-- The values of the expressions under some keys from left to right. -/
def evalEntries (context : Context) :
    List (String × Expr) → Except EvalError (List (String × Value))
  | [] => .ok []
  | (key, item) :: rest => do
    let value ← eval context item
    return (key, value) :: (← evalEntries context rest)

end

attribute [simp] eval evalItems evalEntries

end Eval

end DecisionFlow
