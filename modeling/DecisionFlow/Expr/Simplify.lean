import DecisionFlow.Expr.Basic
import DecisionFlow.Text.Search

/-!
# Simplifying expressions

Three passes, each once and in this order: operations on literals are computed, conditionals on
literals are replaced by a branch, and double negations are dropped where only truth counts. The
result of a predicate is only asked for its truth, so the root is such a place; everywhere else
the passes keep the exact value. An operation whose evaluation would fail is kept.
-/
namespace DecisionFlow.Expr

/-- The truth of a literal; nothing for any other expression. -/
def literalTruth : Expr → Option Bool
  | .null => some false
  | .bool value => some value
  | .int value => some (value != 0)
  | .float value => some (value != 0.0 && !value.isNaN)
  | .string value => some (!value.isEmpty)
  | _ => none

/-- The truth of an expression as an expression: a literal for a literal, else a double
negation. -/
def coerced (expr : Expr) : Expr :=
  match expr.literalTruth with
  | some truth => .bool truth
  | none => .unary .not (.unary .not expr)

/-- A prefix operator on an operand, computed when the operand is a suitable literal. -/
def foldUnary (op : UnaryOp) (operand : Expr) : Expr :=
  match op, operand with
  | .neg, .int value => .int (-value)
  | .neg, .float value => .float (-value)
  | .neg, operand => .unary .neg operand
  | .not, operand =>
    match operand.literalTruth with
    | some truth => .bool (!truth)
    | none => .unary .not operand

/-- An operator on two integer literals, computed unless it compares nothing or divides by
zero. -/
def foldInts (op : BinaryOp) (a b : Int64) : Option Expr :=
  match op with
  | .add => some (.int (a + b))
  | .sub => some (.int (a - b))
  | .mul => some (.int (a * b))
  | .div => if b = 0 then none else some (.int (a / b))
  | .mod => if b = 0 then none else some (.int (a % b))
  | .eq => some (.bool (a == b))
  | .ne => some (.bool (a != b))
  | .lt => some (.bool (a < b))
  | .le => some (.bool (a ≤ b))
  | .gt => some (.bool (b < a))
  | .ge => some (.bool (b ≤ a))
  | _ => none

/-- An operator on two double literals, computed when it is plain arithmetic. -/
def foldFloats (op : BinaryOp) (a b : Float) : Option Expr :=
  match op with
  | .add => some (.float (a + b))
  | .sub => some (.float (a - b))
  | .mul => some (.float (a * b))
  | .div => if b == 0.0 then none else some (.float (a / b))
  | _ => none

/-- An operator on two text literals, computed when it is a test of texts. -/
def foldStrings (op : BinaryOp) (a b : String) : Option Expr :=
  match op with
  | .eq => some (.bool (a == b))
  | .ne => some (.bool (a != b))
  | .contains => some (.bool (Text.contains a b))
  | .startsWith => some (.bool (Text.startsWith a b))
  | .endsWith => some (.bool (Text.endsWith a b))
  | _ => none

/-- An operator on two literals of one kind, computed where that is possible. -/
def foldLiterals (op : BinaryOp) (left right : Expr) : Option Expr :=
  match left, right with
  | .int a, .int b => foldInts op a b
  | .float a, .float b => foldFloats op a b
  | .string a, .string b => foldStrings op a b
  | _, _ => none

/-- A conjunction or disjunction whose left operand is a literal: either the literal decides, or
the truth of the right operand does. -/
def foldLogic (op : BinaryOp) (left right : Expr) : Option Expr :=
  match op, left.literalTruth with
  | .and, some true => some right.coerced
  | .and, some false => some (.bool false)
  | .or, some true => some (.bool true)
  | .or, some false => some right.coerced
  | _, _ => none

/-- An operator between two operands, computed when the operands are suitable literals. -/
def foldBinary (op : BinaryOp) (left right : Expr) : Expr :=
  ((foldLiterals op left right).or (foldLogic op left right)).getD (.binary op left right)

mutual

/-- Compute operations on literals, from the leaves up. -/
def foldConstants : Expr → Expr
  | .unary op operand => foldUnary op (foldConstants operand)
  | .binary op left right => foldBinary op (foldConstants left) (foldConstants right)
  | .ternary condition yes no =>
    .ternary (foldConstants condition) (foldConstants yes) (foldConstants no)
  | .call name arguments => .call name (foldItems arguments)
  | .list items => .list (foldItems items)
  | .map entries => .map (foldEntries entries)
  | .field base name => .field (foldConstants base) name
  | .index base key => .index (foldConstants base) (foldConstants key)
  | leaf => leaf

/-- Compute operations on literals in some expressions. -/
def foldItems : List Expr → List Expr
  | [] => []
  | item :: rest => foldConstants item :: foldItems rest

/-- Compute operations on literals in the expressions under some keys. -/
def foldEntries : List (String × Expr) → List (String × Expr)
  | [] => []
  | (key, value) :: rest => (key, foldConstants value) :: foldEntries rest

end

/-- A conditional, replaced by a branch when its condition is a literal. -/
def chooseBranch (condition yes no : Expr) : Expr :=
  match condition.literalTruth with
  | some true => yes
  | some false => no
  | none => .ternary condition yes no

mutual

/-- Replace conditionals on literals by their branches, from the leaves up. -/
def dropDeadBranches : Expr → Expr
  | .unary op operand => .unary op (dropDeadBranches operand)
  | .binary op left right => .binary op (dropDeadBranches left) (dropDeadBranches right)
  | .ternary condition yes no =>
    chooseBranch (dropDeadBranches condition) (dropDeadBranches yes) (dropDeadBranches no)
  | .call name arguments => .call name (dropDeadItems arguments)
  | .list items => .list (dropDeadItems items)
  | .map entries => .map (dropDeadEntries entries)
  | .field base name => .field (dropDeadBranches base) name
  | .index base key => .index (dropDeadBranches base) (dropDeadBranches key)
  | leaf => leaf

/-- Replace conditionals on literals in some expressions. -/
def dropDeadItems : List Expr → List Expr
  | [] => []
  | item :: rest => dropDeadBranches item :: dropDeadItems rest

/-- Replace conditionals on literals in the expressions under some keys. -/
def dropDeadEntries : List (String × Expr) → List (String × Expr)
  | [] => []
  | (key, value) :: rest => (key, dropDeadBranches value) :: dropDeadEntries rest

end

/-- A negation; where only truth counts, the negation of a negation is its operand. -/
def negated (boolean : Bool) (operand : Expr) : Expr :=
  match boolean, operand with
  | true, .unary .not inner => inner
  | _, operand => .unary .not operand

mutual

/-- Drop double negations where only truth counts; `boolean` says that the expression is in such
a place. The condition of a conditional and the operands of negation, conjunction and
disjunction always are, and the branches of a conditional are when it is. -/
def dropDoubleNegation (boolean : Bool) : Expr → Expr
  | .unary .not operand => negated boolean (dropDoubleNegation true operand)
  | .unary .neg operand => .unary .neg (dropDoubleNegation false operand)
  | .binary .and left right =>
    .binary .and (dropDoubleNegation true left) (dropDoubleNegation true right)
  | .binary .or left right =>
    .binary .or (dropDoubleNegation true left) (dropDoubleNegation true right)
  | .binary op left right =>
    .binary op (dropDoubleNegation false left) (dropDoubleNegation false right)
  | .ternary condition yes no =>
    .ternary (dropDoubleNegation true condition) (dropDoubleNegation boolean yes)
      (dropDoubleNegation boolean no)
  | .call name arguments => .call name (dropNegatedItems arguments)
  | .list items => .list (dropNegatedItems items)
  | .map entries => .map (dropNegatedEntries entries)
  | .field base name => .field (dropDoubleNegation false base) name
  | .index base key => .index (dropDoubleNegation false base) (dropDoubleNegation false key)
  | leaf => leaf

/-- Drop double negations in some expressions whose values count. -/
def dropNegatedItems : List Expr → List Expr
  | [] => []
  | item :: rest => dropDoubleNegation false item :: dropNegatedItems rest

/-- Drop double negations in expressions under some keys whose values count. -/
def dropNegatedEntries : List (String × Expr) → List (String × Expr)
  | [] => []
  | (key, value) :: rest => (key, dropDoubleNegation false value) :: dropNegatedEntries rest

end

/-- Simplify a predicate: fold literals, drop dead branches, drop double negations. -/
def simplify (expr : Expr) : Expr :=
  dropDoubleNegation true (dropDeadBranches (foldConstants expr))

end DecisionFlow.Expr
