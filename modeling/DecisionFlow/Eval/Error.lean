import DecisionFlow.Regex.Error
import DecisionFlow.Text.Integer
import DecisionFlow.Value.Kind

/-!
# Evaluation errors

Why an expression has no value on a record. Each cause carries the kinds of the values or the
names that it is about, and `EvalError.message` gives its wording. The causes fall into five
classes (`EvalError.Class`).
-/
namespace DecisionFlow

/-- The arithmetic operations. -/
inductive Arithmetic where
  /-- Addition of numbers, or joining of texts. -/
  | add
  /-- Subtraction. -/
  | subtract
  /-- Multiplication. -/
  | multiply
  /-- Division. -/
  | divide
  /-- Remainder. -/
  | modulo
deriving DecidableEq, Repr

namespace Arithmetic

/-- The verb that names an operation. -/
def verb : Arithmetic → String
  | .add => "add"
  | .subtract => "subtract"
  | .multiply => "multiply"
  | .divide => "divide"
  | .modulo => "modulo"

/-- The word between the operands of an operation. -/
def joint : Arithmetic → String
  | .add | .subtract | .multiply => "and"
  | .divide | .modulo => "by"

end Arithmetic

/-- Why an expression has no value. -/
inductive EvalError where
  /-- A field of a value that is no map. -/
  | noField (name : String) (kind : Kind)
  /-- An index that does not suit the value. -/
  | noIndex (base index : Kind)
  /-- The negative of a value that is no number. -/
  | noNegation (kind : Kind)
  /-- Arithmetic on values that do not allow it. -/
  | noArithmetic (operation : Arithmetic) (left right : Kind)
  /-- An order between values that have none. -/
  | noOrder (left right : Kind)
  /-- A pattern match between values that are not texts. -/
  | noMatch (left right : Kind)
  /-- Membership of a value that is no text in a map. -/
  | keyNotText (kind : Kind)
  /-- Membership of a value that is no text in a text. -/
  | partNotText (kind : Kind)
  /-- Membership in a value that has no members. -/
  | noMembers (kind : Kind)
  /-- A function called with a wrong number of arguments. -/
  | arity (name : String) (expected given : Nat)
  /-- A function of one argument called with a value of a wrong kind. -/
  | argument (name expected : String) (given : Kind)
  /-- A function of two arguments called with values of wrong kinds. -/
  | arguments (name expected : String) (first second : Kind)
  /-- A template function called without its template. -/
  | noTemplate
  /-- A template that is no text. -/
  | templateNotText (kind : Kind)
  /-- A text that is no integer. -/
  | notInteger (text : String) (cause : Text.IntegerError)
  /-- A value that no integer stands for. -/
  | noInteger (kind : Kind)
  /-- A name that is neither the parameter nor a key of the record. -/
  | undefinedVariable (name : String)
  /-- A function that is not built in. -/
  | undefinedFunction (name : String)
  /-- Division by zero. -/
  | divisionByZero
  /-- Remainder by zero. -/
  | moduloByZero
  /-- A pattern that cannot be read. -/
  | invalidPattern (cause : Regex.Error)
  /-- A failure of a predicate that is not an expression. -/
  | failed (reason : String)
deriving DecidableEq, Repr

namespace EvalError

/-- The classes of evaluation errors. -/
inductive Class where
  /-- A value of a wrong kind. -/
  | type
  /-- An unknown name. -/
  | variable
  /-- An unknown function. -/
  | function
  /-- An operation without result. -/
  | evaluation
  /-- A pattern that cannot be read. -/
  | pattern
deriving DecidableEq, Repr

/-- The class of an error. -/
def category : EvalError → Class
  | .undefinedVariable _ => .variable
  | .undefinedFunction _ => .function
  | .divisionByZero | .moduloByZero | .failed _ => .evaluation
  | .invalidPattern _ => .pattern
  | _ => .type

/-- The words that open the message of a class. -/
def Class.opening : Class → String
  | .type => "type error: "
  | .variable => "undefined variable: "
  | .function => "undefined function: "
  | .evaluation => "evaluation error: "
  | .pattern => "invalid regex: "

/-- The wording of a cause. -/
def detail : EvalError → String
  | .noField name kind => s!"cannot access field '{name}' on {kind.name}"
  | .noIndex base index => s!"cannot index {base.name} with {index.name}"
  | .noNegation kind => s!"cannot negate {kind.name}"
  | .noArithmetic operation left right =>
    s!"cannot {operation.verb} {left.name} {operation.joint} {right.name}"
  | .noOrder left right => s!"cannot compare {left.name} and {right.name}"
  | .noMatch left right => s!"matches: unsupported types {left.name} and {right.name}"
  | .keyNotText kind => s!"in: map key must be string, got {kind.name}"
  | .partNotText kind => s!"in: cannot check {kind.name} membership in string"
  | .noMembers kind => s!"in: right-hand side must be list, map, or string, got {kind.name}"
  | .arity name expected given => s!"{name}() expects {expected} argument(s), got {given}"
  | .argument name expected given => s!"{name}() expects {expected}, got {given.name}"
  | .arguments name expected first second =>
    s!"{name}() expects {expected}, got ({first.name}, {second.name})"
  | .noTemplate => "format() requires at least 1 argument"
  | .templateNotText kind => s!"format() first argument must be string, got {kind.name}"
  | .notInteger text cause => s!"to_int() cannot parse '{text}': {cause.message}"
  | .noInteger kind => s!"to_int() cannot convert {kind.name} to int"
  | .undefinedVariable name => name
  | .undefinedFunction name => name
  | .divisionByZero => "division by zero"
  | .moduloByZero => "modulo by zero"
  | .invalidPattern cause => cause.message
  | .failed reason => reason

/-- The message of an error. -/
def message (error : EvalError) : String := error.category.opening ++ error.detail

end EvalError

end DecisionFlow
