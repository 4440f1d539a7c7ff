import DecisionFlow.Expr.Basic

/-!
# Depth of expressions

The depth of an expression counts the nodes on its longest path, 1 for a leaf. It is measured
with an explicit stack of pending subtrees, each with its distance from the root, so a tree of
any shape can be measured. `Expr.height` is the same number by recursion on the tree.
-/
namespace DecisionFlow.Expr

/-- The immediate subtrees of an expression. -/
def children : Expr → List Expr
  | .field base _ => [base]
  | .unary _ operand => [operand]
  | .index base key => [base, key]
  | .binary _ left right => [left, right]
  | .ternary condition yes no => [condition, yes, no]
  | .list items => items
  | .call _ arguments => arguments
  | .map entries => entries.map (·.2)
  | _ => []

mutual

/-- The number of nodes of an expression. -/
def size : Expr → Nat
  | .field base _ => size base + 1
  | .unary _ operand => size operand + 1
  | .index base key => size base + size key + 1
  | .binary _ left right => size left + size right + 1
  | .ternary condition yes no => size condition + size yes + size no + 1
  | .list items => itemsSize items + 1
  | .call _ arguments => itemsSize arguments + 1
  | .map entries => entriesSize entries + 1
  | _ => 1

/-- The number of nodes of some expressions. -/
def itemsSize : List Expr → Nat
  | [] => 0
  | item :: rest => size item + itemsSize rest

/-- The number of nodes of the expressions under some keys. -/
def entriesSize : List (String × Expr) → Nat
  | [] => 0
  | (_, value) :: rest => size value + entriesSize rest

end

/-- The nodes under some keys are the nodes of the expressions there. -/
theorem entriesSize_eq (entries : List (String × Expr)) :
    entriesSize entries = itemsSize (entries.map (·.2)) := by
  induction entries with
  | nil => simp [entriesSize, itemsSize]
  | cons entry rest ih => simp [entriesSize, itemsSize, ih]

/-- An expression has one node more than its subtrees. -/
theorem size_eq (expr : Expr) : expr.size = itemsSize expr.children + 1 := by
  cases expr <;> simp [size, children, itemsSize, entriesSize_eq]
  omega

/-- The nodes of two lists of expressions. -/
theorem itemsSize_append (items others : List Expr) :
    itemsSize (items ++ others) = itemsSize items + itemsSize others := by
  induction items with
  | nil => simp [itemsSize]
  | cons item rest ih => simp [itemsSize, ih]; omega

/-- The nodes of a list of expressions in reverse order. -/
theorem itemsSize_reverse (items : List Expr) : itemsSize items.reverse = itemsSize items := by
  induction items with
  | nil => rfl
  | cons item rest ih => simp [itemsSize_append, itemsSize, ih]; omega

/-- A subtree on top of a stack has one node more than the children that are put in its place. -/
theorem itemsSize_replaced (expr : Expr) (depth : Nat) (stack : List (Expr × Nat)) :
    itemsSize (((expr.children.map (·, depth)).reverse ++ stack).map (·.1)) + 1 =
      expr.size + itemsSize (stack.map (·.1)) := by
  have children : (expr.children.map (·, depth)).map (·.1) = expr.children := by
    simp [Function.comp_def]
  rw [List.map_append, List.map_reverse, children, itemsSize_append, itemsSize_reverse, size_eq]
  omega

/-- The greatest distance from the root among the nodes of pending subtrees, given the greatest
one so far. The subtree on top of the stack is replaced by its children, the last one on top. -/
def deepest (greatest : Nat) : List (Expr × Nat) → Nat
  | [] => greatest
  | (expr, depth) :: stack =>
    deepest (max greatest depth) ((expr.children.map (·, depth + 1)).reverse ++ stack)
termination_by stack => itemsSize (stack.map (·.1))
decreasing_by
  have replaced := itemsSize_replaced expr (depth + 1) stack
  simp only [List.map_cons, itemsSize]
  omega

/-- The depth of an expression. -/
def depth (expr : Expr) : Nat := deepest 0 [(expr, 1)]

mutual

/-- The height of an expression: one more than the greatest height among its subtrees. -/
def height : Expr → Nat
  | .field base _ => height base + 1
  | .unary _ operand => height operand + 1
  | .index base key => max (height base) (height key) + 1
  | .binary _ left right => max (height left) (height right) + 1
  | .ternary condition yes no => max (height condition) (max (height yes) (height no)) + 1
  | .list items => itemsHeight items + 1
  | .call _ arguments => itemsHeight arguments + 1
  | .map entries => entriesHeight entries + 1
  | _ => 1

/-- The greatest height among some expressions, 0 when there are none. -/
def itemsHeight : List Expr → Nat
  | [] => 0
  | item :: rest => max (height item) (itemsHeight rest)

/-- The greatest height among the expressions under some keys. -/
def entriesHeight : List (String × Expr) → Nat
  | [] => 0
  | (_, value) :: rest => max (height value) (entriesHeight rest)

end

end DecisionFlow.Expr
