import DecisionFlow.Expr.Depth
import Mathlib.Algebra.GroupWithZero.Nat

/-!
# Subtrees of expressions

What occurs in an expression is an expression within it: the expression itself, or one within an
immediate subtree. A property of everything that occurs in an expression passes to its subtrees, so
it goes along with induction on the tree. The conditionals that occur in an expression are counted.
-/
namespace DecisionFlow.Expr

/-- An expression within another one. -/
inductive Within : Expr → Expr → Prop where
  /-- An expression is within itself. -/
  | refl (expr : Expr) : Within expr expr
  /-- What is within an immediate subtree is within the expression. -/
  | deeper {node child expr : Expr} (member : child ∈ expr.children) (inside : Within node child) :
    Within node expr

/-- What is within an expression is the expression itself or is within an immediate subtree. -/
theorem within_iff {node expr : Expr} :
    node.Within expr ↔ node = expr ∨ ∃ child ∈ expr.children, node.Within child := by
  constructor
  · intro inside
    cases inside with
    | refl => exact .inl rfl
    | deeper member inside => exact .inr ⟨_, member, inside⟩
  · rintro (rfl | ⟨child, member, inside⟩)
    · exact .refl node
    · exact .deeper member inside

/-- What is within something within an expression is within the expression. -/
theorem Within.trans {node inner expr : Expr} (deep : node.Within inner)
    (inside : inner.Within expr) : node.Within expr := by
  induction inside with
  | refl => exact deep
  | deeper member _ ih => exact .deeper member ih

/-- Everything within an expression has a property when the expression has it and everything within
its immediate subtrees does. -/
theorem forall_within_iff {p : Expr → Prop} {expr : Expr} :
    (∀ node : Expr, node.Within expr → p node) ↔
      p expr ∧ ∀ child ∈ expr.children, ∀ node : Expr, node.Within child → p node := by
  constructor
  · intro all
    exact ⟨all expr (.refl expr), fun child member node inside => all node (.deeper member inside)⟩
  · rintro ⟨root, below⟩ node inside
    cases inside with
    | refl => exact root
    | deeper member inside => exact below _ member node inside

/-- Nothing is within a literal but the literal. -/
theorem eq_of_within_constant {node expr : Expr} (constant : expr.isConstant = true)
    (inside : node.Within expr) : node = expr := by
  rcases within_iff.mp inside with same | ⟨child, member, _⟩
  · exact same
  · cases expr <;> contradiction

/-- A subtree has fewer nodes. -/
theorem size_lt_of_mem_children {child expr : Expr} (member : child ∈ expr.children) :
    child.size < expr.size := by
  have bounded : child.size ≤ itemsSize expr.children := by
    generalize expr.children = items at member
    induction items with
    | nil => contradiction
    | cons item items ih =>
      rw [itemsSize]
      rcases List.mem_cons.mp member with rfl | later
      · omega
      · have rest := ih later
        omega
  rw [size_eq expr]
  omega

/-- What passes from the immediate subtrees to an expression, whatever its constructor, holds of all
expressions. -/
theorem induct_children {motive : Expr → Prop}
    (step : ∀ expr : Expr, (∀ child ∈ expr.children, motive child) → motive expr) (expr : Expr) :
    motive expr :=
  step expr fun child _ => induct_children step child
termination_by expr.size
decreasing_by exact size_lt_of_mem_children ‹_›

mutual

/-- The number of conditionals in an expression. -/
def conditionals : Expr → Nat
  | .field base _ => conditionals base
  | .unary _ operand => conditionals operand
  | .index base key => conditionals base + conditionals key
  | .binary _ left right => conditionals left + conditionals right
  | .ternary condition yes no => conditionals condition + conditionals yes + conditionals no + 1
  | .list items => itemsConditionals items
  | .call _ arguments => itemsConditionals arguments
  | .map entries => entriesConditionals entries
  | _ => 0

/-- The number of conditionals in some expressions. -/
def itemsConditionals : List Expr → Nat
  | [] => 0
  | item :: rest => conditionals item + itemsConditionals rest

/-- The number of conditionals in the expressions under some keys. -/
def entriesConditionals : List (String × Expr) → Nat
  | [] => 0
  | (_, value) :: rest => conditionals value + entriesConditionals rest

end

/-- The conditionals in some expressions are those of each. -/
theorem itemsConditionals_eq (items : List Expr) :
    itemsConditionals items = (items.map conditionals).sum := by
  induction items with
  | nil => rfl
  | cons item items ih => rw [itemsConditionals, ih, List.map_cons, List.sum_cons]

/-- The conditionals under some keys are those of each expression there. -/
theorem entriesConditionals_eq (entries : List (String × Expr)) :
    entriesConditionals entries = (entries.map fun entry => entry.2.conditionals).sum := by
  induction entries with
  | nil => rfl
  | cons entry entries ih => rw [entriesConditionals, ih, List.map_cons, List.sum_cons]

/-- There is no conditional in a literal. -/
theorem conditionals_of_isConstant {expr : Expr} (constant : expr.isConstant = true) :
    expr.conditionals = 0 := by
  cases expr with
  | null | bool | int | float | string => simp [conditionals]
  | _ => contradiction

end DecisionFlow.Expr
