/-!
# Expressions

The tree of a predicate: literals, names, access, operators, a conditional and calls. Trees are
built by the reader of predicate sources, rewritten by the simplifier and evaluated on records.
-/
namespace DecisionFlow

/-- The prefix operators. -/
inductive UnaryOp where
  /-- Logical negation. -/
  | not
  /-- Arithmetic negation. -/
  | neg
deriving DecidableEq, Repr

/-- The operators between two operands. -/
inductive BinaryOp where
  /-- Addition. -/
  | add
  /-- Subtraction. -/
  | sub
  /-- Multiplication. -/
  | mul
  /-- Division. -/
  | div
  /-- Remainder. -/
  | mod
  /-- Equality. -/
  | eq
  /-- Difference. -/
  | ne
  /-- Less. -/
  | lt
  /-- Less or equal. -/
  | le
  /-- Greater. -/
  | gt
  /-- Greater or equal. -/
  | ge
  /-- Conjunction; the right operand is evaluated only when it matters. -/
  | and
  /-- Disjunction; the right operand is evaluated only when it matters. -/
  | or
  /-- A text or list contains something. -/
  | contains
  /-- A text starts with another. -/
  | startsWith
  /-- A text ends with another. -/
  | endsWith
  /-- A text matches a pattern. -/
  | matchesPattern
  /-- Something is a member of a collection. -/
  | member
deriving DecidableEq, Repr

/-- The symbol of a prefix operator. -/
def UnaryOp.symbol : UnaryOp → String
  | .not => "!"
  | .neg => "-"

/-- The symbol of an operator. -/
def BinaryOp.symbol : BinaryOp → String
  | .add => "+"
  | .sub => "-"
  | .mul => "*"
  | .div => "/"
  | .mod => "%"
  | .eq => "=="
  | .ne => "!="
  | .lt => "<"
  | .le => "<="
  | .gt => ">"
  | .ge => ">="
  | .and => "&&"
  | .or => "||"
  | .contains => "contains"
  | .startsWith => "starts_with"
  | .endsWith => "ends_with"
  | .matchesPattern => "matches"
  | .member => "in"

/-- An expression. -/
inductive Expr where
  /-- The null literal. -/
  | null
  /-- A truth value. -/
  | bool (value : Bool)
  /-- An integer literal. -/
  | int (value : Int64)
  /-- A double literal. -/
  | float (value : Float)
  /-- A text literal. -/
  | string (value : String)
  /-- A list of expressions. -/
  | list (items : List Expr)
  /-- A map; keys may repeat. -/
  | map (entries : List (String × Expr))
  /-- A name. -/
  | ident (name : String)
  /-- A field of a base. -/
  | field (base : Expr) (name : String)
  /-- A base at an index. -/
  | index (base key : Expr)
  /-- A prefix operator and its operand. -/
  | unary (op : UnaryOp) (operand : Expr)
  /-- An operator between two operands. -/
  | binary (op : BinaryOp) (left right : Expr)
  /-- A condition and two branches. -/
  | ternary (condition yes no : Expr)
  /-- A function applied to arguments. -/
  | call (name : String) (arguments : List Expr)
deriving Inhabited

namespace Expr

/-- Whether an expression is a literal that stands for one value: neither list nor map. -/
def isConstant : Expr → Bool
  | .null | .bool _ | .int _ | .float _ | .string _ => true
  | _ => false

mutual

/-- Equality of trees, where doubles are compared as numbers. -/
def same : Expr → Expr → Bool
  | .null, .null => true
  | .bool a, .bool b => a == b
  | .int a, .int b => a == b
  | .float a, .float b => a == b
  | .string a, .string b => a == b
  | .list items, .list others => sameItems items others
  | .map entries, .map others => sameEntries entries others
  | .ident a, .ident b => a == b
  | .field base name, .field other otherName => same base other && name == otherName
  | .index base key, .index other otherKey => same base other && same key otherKey
  | .unary op operand, .unary otherOp other => op == otherOp && same operand other
  | .binary op left right, .binary otherOp otherLeft otherRight =>
    op == otherOp && same left otherLeft && same right otherRight
  | .ternary condition yes no, .ternary otherCondition otherYes otherNo =>
    same condition otherCondition && same yes otherYes && same no otherNo
  | .call name arguments, .call otherName others => name == otherName && sameItems arguments others
  | _, _ => false

/-- Equality of lists of trees. -/
def sameItems : List Expr → List Expr → Bool
  | [], [] => true
  | item :: rest, other :: others => same item other && sameItems rest others
  | _, _ => false

/-- Equality of lists of keys with trees. -/
def sameEntries : List (String × Expr) → List (String × Expr) → Bool
  | [], [] => true
  | (key, value) :: rest, (otherKey, other) :: others =>
    key == otherKey && same value other && sameEntries rest others
  | _, _ => false

end

end Expr

end DecisionFlow
