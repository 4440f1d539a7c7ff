import DecisionFlow.Expr.Simplify
import DecisionFlow.Proofs.Expr.Depth

/-!
# How simplifying changes the height

Simplifying mostly makes trees lower. The one way for a tree to grow is a conjunction or
disjunction whose left operand folds to a literal that leaves the value to the right operand:
where the value counts and not only its truth, it becomes a double negation of the right operand,
which is one higher. So the height grows by no more than the number of such places on a path
(`height_simplify_le`).
-/
namespace DecisionFlow

/-- Whether an operator is a conjunction or a disjunction. -/
def BinaryOp.isLogical : BinaryOp → Bool
  | .and | .or => true
  | _ => false

namespace Expr

/-- Whether a left operand leaves the value of a logical operator to the truth of the right one. -/
def leavesRight (op : BinaryOp) (left : Expr) : Bool :=
  match op, left.literalTruth with
  | .and, some true => true
  | .or, some false => true
  | _, _ => false

mutual

/-- The greatest number of places on a path of an expression where a coercion to the truth of an
operand stands for its value; `boolean` says that only the truth of the expression counts. -/
def coercions (boolean : Bool) : Expr → Nat
  | .unary .not operand => coercions true operand
  | .unary .neg operand => coercions false operand
  | .binary op left right =>
    if leavesRight op (foldConstants left) then
      coercions true right + if boolean then 0 else 1
    else max (coercions op.isLogical left) (coercions op.isLogical right)
  | .ternary condition yes no =>
    max (coercions true condition) (max (coercions boolean yes) (coercions boolean no))
  | .call _ arguments => itemsCoercions arguments
  | .list items => itemsCoercions items
  | .map entries => entriesCoercions entries
  | .field base _ => coercions false base
  | .index base key => max (coercions false base) (coercions false key)
  | _ => 0

/-- The greatest number of coercions on a path of some expressions whose values count. -/
def itemsCoercions : List Expr → Nat
  | [] => 0
  | item :: rest => max (coercions false item) (itemsCoercions rest)

/-- The greatest number of coercions on a path of expressions under some keys. -/
def entriesCoercions : List (String × Expr) → Nat
  | [] => 0
  | (_, value) :: rest => max (coercions false value) (entriesCoercions rest)

end

/-- Expressions have coercions within a bound when each of them has. -/
theorem itemsCoercions_le {items : List Expr} {bound : Nat} :
    itemsCoercions items ≤ bound ↔ ∀ item ∈ items, item.coercions false ≤ bound :=
  forall_mem_of_cons (itemsCoercions · ≤ bound) (Nat.zero_le bound) (fun _ _ => Nat.max_le) items

/-- The coercions under some keys are those of the expressions there. -/
theorem entriesCoercions_eq (entries : List (String × Expr)) :
    entriesCoercions entries = itemsCoercions (entries.map (·.2)) :=
  eq_values_of_cons entriesCoercions itemsCoercions rfl (fun _ _ => rfl) (fun _ _ => rfl) entries

/-- Every expression has a height. -/
theorem one_le_height (expr : Expr) : 1 ≤ expr.height := by
  rw [height_eq]
  exact Nat.succ_le_succ (Nat.zero_le _)

/-! ## The passes after folding -/

/-- A folded expression after the passes that drop dead branches and double negations. -/
def settled (boolean : Bool) (expr : Expr) : Expr :=
  dropDoubleNegation boolean (dropDeadBranches expr)

/-- A literal has height one and stays. -/
theorem height_settled_constant {expr : Expr} (constant : expr.isConstant = true)
    (boolean : Bool) : (expr.settled boolean).height = 1 := by
  cases expr with
  | null | bool | int | float | string => rfl
  | _ => contradiction

/-- Operands are settled by themselves; those of logical operators count by their truth. -/
theorem settled_binary (boolean : Bool) (op : BinaryOp) (left right : Expr) :
    (binary op left right).settled boolean =
      .binary op (left.settled op.isLogical) (right.settled op.isLogical) := by
  cases op <;> rfl

/-- A negation is no higher than its operand and one. -/
theorem height_negated_le (boolean : Bool) (operand : Expr) :
    (negated boolean operand).height ≤ operand.height + 1 := by
  unfold negated
  split
  · rw [height]
    omega
  · exact Nat.le_refl _

/-- Where only truth counts, two negations add nothing. -/
theorem height_negated_negated_le (operand : Expr) :
    (negated true (negated true operand)).height ≤ operand.height := by
  cases operand with
  | unary op inner =>
    cases op with
    | not => exact height_negated_le true inner
    | neg => exact Nat.le_refl _
  | _ => exact Nat.le_refl _

/-- A folded prefix operator is no higher than its operand and one. -/
theorem height_settled_foldUnary (op : UnaryOp) (boolean : Bool) (operand : Expr) :
    ((foldUnary op operand).settled boolean).height ≤
      (operand.settled (op == .not)).height + 1 := by
  unfold foldUnary
  split
  · exact Nat.succ_le_succ (Nat.zero_le _)
  · exact Nat.succ_le_succ (Nat.zero_le _)
  · exact Nat.le_refl _
  · split
    · exact Nat.succ_le_succ (Nat.zero_le _)
    · exact height_negated_le boolean _

/-- A coercion is no higher than its operand where only truth counts, and two higher elsewhere. -/
theorem height_settled_coerced (boolean : Bool) (operand : Expr) :
    (operand.coerced.settled boolean).height ≤
      (operand.settled true).height + if boolean then 0 else 2 := by
  unfold coerced
  split
  · exact Nat.le_trans (one_le_height (operand.settled true)) (Nat.le_add_right _ _)
  · cases boolean with
    | true => exact height_negated_negated_le _
    | false => exact Nat.succ_le_succ (height_negated_le true _)

/-- What is computed from two literals is a literal. -/
theorem isConstant_foldLiterals {op : BinaryOp} {left right folded : Expr}
    (computed : foldLiterals op left right = some folded) : folded.isConstant = true := by
  unfold foldLiterals at computed
  split at computed
  · unfold foldInts at computed
    split at computed
    case h_4 | h_5 =>
      split at computed <;> cases computed
      rfl
    all_goals cases computed <;> rfl
  · unfold foldFloats at computed
    split at computed
    case h_4 =>
      split at computed <;> cases computed
      rfl
    all_goals cases computed <;> rfl
  · unfold foldStrings at computed
    split at computed <;> cases computed <;> rfl
  · contradiction

/-- A logical operator on a literal is folded to a literal or to a coercion of its right
operand. -/
theorem foldLogic_eq_some {op : BinaryOp} {left right folded : Expr}
    (computed : foldLogic op left right = some folded) :
    folded.isConstant = true ∨ leavesRight op left = true ∧ folded = right.coerced := by
  unfold foldLogic at computed
  unfold leavesRight
  split at computed
  · rename_i known
    cases computed
    rw [known]
    exact .inr ⟨rfl, rfl⟩
  · cases computed
    exact .inl rfl
  · cases computed
    exact .inl rfl
  · rename_i known
    cases computed
    rw [known]
    exact .inr ⟨rfl, rfl⟩
  · contradiction

/-- A logical operator that leaves its value to the right operand is folded. -/
theorem foldLogic_of_leavesRight {op : BinaryOp} {left : Expr} (leaves : leavesRight op left = true)
    (right : Expr) : foldLogic op left right = some right.coerced := by
  unfold leavesRight at leaves
  split at leaves
  · rename_i known
    simp only [foldLogic, known]
  · rename_i known
    simp only [foldLogic, known]
  · contradiction

/-- A folded operator is a literal, a coercion of its right operand, or stays. -/
theorem foldBinary_cases (op : BinaryOp) (left right : Expr) :
    (foldBinary op left right).isConstant = true ∨
      (leavesRight op left = true ∧ foldBinary op left right = right.coerced) ∨
      (leavesRight op left = false ∧ foldBinary op left right = .binary op left right) := by
  unfold foldBinary
  cases literals : foldLiterals op left right with
  | some folded => exact .inl (isConstant_foldLiterals literals)
  | none =>
    rw [Option.none_or]
    cases logic : foldLogic op left right with
    | some folded =>
      rcases foldLogic_eq_some logic with constant | ⟨leaves, same⟩
      · exact .inl constant
      · exact .inr (.inl ⟨leaves, same⟩)
    | none =>
      refine .inr (.inr ⟨Bool.eq_false_iff.mpr fun leaves => ?_, rfl⟩)
      rw [foldLogic_of_leavesRight leaves] at logic
      contradiction

/-- Some expressions are folded and settled one by one. -/
theorem settledItems_eq (items : List Expr) :
    dropNegatedItems (dropDeadItems (foldItems items)) =
      items.map fun item => item.foldConstants.settled false := by
  rw [eq_map_of_cons foldItems rfl fun _ _ => rfl, eq_map_of_cons dropDeadItems rfl fun _ _ => rfl,
    eq_map_of_cons dropNegatedItems rfl fun _ _ => rfl, List.map_map, List.map_map]
  rfl

/-- The expressions under some keys are folded and settled one by one. -/
theorem settledEntries_eq (entries : List (String × Expr)) :
    (dropNegatedEntries (dropDeadEntries (foldEntries entries))).map (·.2) =
      (entries.map (·.2)).map fun value => value.foldConstants.settled false := by
  rw [eq_map_of_cons foldEntries rfl fun _ _ => rfl,
    eq_map_of_cons dropDeadEntries rfl fun _ _ => rfl,
    eq_map_of_cons dropNegatedEntries rfl fun _ _ => rfl, List.map_map, List.map_map, List.map_map,
    List.map_map]
  rfl

/-- Expressions that are each higher by no more than their coercions are so together. -/
theorem height_settledItems_le {items : List Expr}
    (each : ∀ item ∈ items,
      (item.foldConstants.settled false).height ≤ item.height + item.coercions false) :
    itemsHeight (items.map fun item => item.foldConstants.settled false) ≤
      itemsHeight items + itemsCoercions items := by
  refine itemsHeight_le.mpr (List.forall_mem_map.mpr fun item listed => ?_)
  have within := each item listed
  have height := itemsHeight_le.mp (Nat.le_refl (itemsHeight items)) item listed
  have coerced := itemsCoercions_le.mp (Nat.le_refl (itemsCoercions items)) item listed
  omega

/-- A folded operator is higher than its operands by one, and by one more where it is a coercion
and its value counts. -/
theorem height_settled_foldBinary (op : BinaryOp) (boolean : Bool) (left right : Expr) :
    ((foldBinary op left right).settled boolean).height ≤
      if leavesRight op left then (right.settled true).height + if boolean then 0 else 2
      else max (left.settled op.isLogical).height (right.settled op.isLogical).height + 1 := by
  rcases foldBinary_cases op left right with constant | ⟨leaves, same⟩ | ⟨leaves, same⟩
  · rw [height_settled_constant constant]
    have positive := one_le_height (right.settled true)
    split <;> omega
  · rw [same, leaves, if_pos rfl]
    exact height_settled_coerced boolean right
  · rw [same, leaves, if_neg Bool.false_ne_true]
    exact Nat.le_of_eq (by rw [settled_binary, height])

/-- Where one branch is chosen, the conditional is no higher than it. -/
theorem height_settled_chooseBranch (boolean : Bool) (condition yes no : Expr) :
    (dropDoubleNegation boolean (chooseBranch condition yes no)).height ≤
      max (dropDoubleNegation true condition).height
        (max (dropDoubleNegation boolean yes).height
          (dropDoubleNegation boolean no).height) + 1 := by
  unfold chooseBranch
  split
  · omega
  · omega
  · exact Nat.le_refl _

/-- Folded and settled, an expression is higher by no more than its coercions. -/
theorem height_settled_le (expr : Expr) (boolean : Bool) :
    (expr.foldConstants.settled boolean).height ≤ expr.height + expr.coercions boolean := by
  induction expr generalizing boolean with
  | null | bool | int | float | string | ident => exact Nat.le_refl _
  | list items ih =>
    have within := height_settledItems_le fun item listed => ih item listed false
    rw [← settledItems_eq] at within
    simp only [foldConstants, settled, dropDeadBranches, dropDoubleNegation, height, coercions]
    omega
  | map entries ih =>
    have within := height_settledItems_le (List.forall_mem_map.mpr fun entry listed =>
      ih entry listed false)
    rw [← settledEntries_eq, ← entriesHeight_eq, ← entriesHeight_eq, ← entriesCoercions_eq]
      at within
    simp only [foldConstants, settled, dropDeadBranches, dropDoubleNegation, height, coercions]
    omega
  | field base name ih =>
    have within := ih false
    simp only [settled] at within
    simp only [foldConstants, settled, dropDeadBranches, dropDoubleNegation, height, coercions]
    omega
  | index base key ihBase ihKey =>
    have base := ihBase false
    have key := ihKey false
    simp only [settled] at base key
    simp only [foldConstants, settled, dropDeadBranches, dropDoubleNegation, height, coercions]
    omega
  | unary op operand ih =>
    have folded := height_settled_foldUnary op boolean operand.foldConstants
    have within := ih (op == .not)
    have same : coercions boolean (.unary op operand) = coercions (op == .not) operand := by
      cases op <;> rfl
    rw [foldConstants, height, same]
    omega
  | binary op left right ihLeft ihRight =>
    have folded := height_settled_foldBinary op boolean left.foldConstants right.foldConstants
    rw [foldConstants, height, coercions]
    split at folded
    · rename_i leaves
      have within := ihRight true
      rw [if_pos leaves]
      cases boolean <;> simp only [Bool.false_eq_true, ↓reduceIte] at folded ⊢ <;> omega
    · rename_i stays
      have first := ihLeft op.isLogical
      have second := ihRight op.isLogical
      rw [if_neg stays]
      omega
  | ternary condition yes no ihCondition ihYes ihNo =>
    have chosen := height_settled_chooseBranch boolean condition.foldConstants.dropDeadBranches
      yes.foldConstants.dropDeadBranches no.foldConstants.dropDeadBranches
    have first := ihCondition true
    have second := ihYes boolean
    have third := ihNo boolean
    simp only [settled] at first second third
    simp only [foldConstants, settled, dropDeadBranches, height, coercions]
    omega
  | call name arguments ih =>
    have within := height_settledItems_le fun argument listed => ih argument listed false
    rw [← settledItems_eq] at within
    simp only [foldConstants, settled, dropDeadBranches, dropDoubleNegation, height, coercions]
    omega

/-- A simplified expression is higher by no more than its coercions. -/
theorem height_simplify_le (expr : Expr) :
    expr.simplify.height ≤ expr.height + expr.coercions true :=
  height_settled_le expr true

end Expr

end DecisionFlow
