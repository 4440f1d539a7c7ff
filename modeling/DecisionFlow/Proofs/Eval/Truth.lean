import DecisionFlow.Eval.Basic

/-!
# The truth of expressions

Negation, conjunction, disjunction and the condition of a conditional ask an expression only for
its truth, and so does a walk. `Eval.test` is that truth, or the failure that comes in its place.
The equations say which operands matter by their truth alone; for all other operands, items and
arguments evaluation is a congruence, also between two records.
-/
namespace DecisionFlow

/-- A successful coercion comes from a value of that truth. -/
theorem map_truthy_ok {result : Except EvalError Value} {truth : Bool}
    (coerced : result.map Value.truthy = .ok truth) :
    ∃ value, result = .ok value ∧ value.truthy = truth := by
  cases result with
  | error cause => contradiction
  | ok value => exact ⟨value, rfl, Except.ok.inj coerced⟩

/-- A failure is not coerced. -/
theorem map_truthy_error {result : Except EvalError Value} {cause : EvalError}
    (failed : result.map Value.truthy = .error cause) : result = .error cause := by
  cases result with
  | error other => exact congrArg Except.error (Except.error.inj failed)
  | ok value => contradiction

namespace Eval

variable [Regex.Matcher] [Value.Enumeration] {context further : Context}

/-- The truth of an expression on a record, or the failure of its evaluation. -/
def test (context : Context) (expr : Expr) : Except EvalError Bool :=
  (eval context expr).map Value.truthy

/-- Expressions of one value have one truth. -/
theorem test_congr {expr other : Expr} (same : eval context expr = eval further other) :
    test context expr = test further other := by
  rw [test, same, test]

/-- Negation depends on the truth of its operand. -/
theorem eval_not (operand : Expr) :
    eval context (.unary .not operand) = (test context operand).map fun truth => .bool !truth := by
  rw [eval, test]
  cases eval context operand <;> rfl

/-- The truth of a negation is the opposite one. -/
theorem test_not (operand : Expr) :
    test context (.unary .not operand) = (test context operand).map not := by
  rw [test, eval_not]
  cases test context operand <;> rfl

/-- Negating twice keeps the truth. -/
theorem test_not_not (operand : Expr) :
    test context (.unary .not (.unary .not operand)) = test context operand := by
  rw [test_not, test_not]
  cases test context operand with
  | error cause => rfl
  | ok truth => exact congrArg Except.ok (Bool.not_not truth)

/-- Conjunction depends on the truth of its operands. -/
theorem eval_and (left right : Expr) :
    eval context (.binary .and left right) = (do
      if ← test context left then (test context right).map .bool else return .bool false) := by
  rw [eval, test, test]
  cases eval context left with
  | error cause => rfl
  | ok value =>
    cases truth : value.truthy <;> cases eval context right <;>
      simp [truth, bind, Except.bind, pure, Except.pure, Except.map]

/-- Disjunction depends on the truth of its operands. -/
theorem eval_or (left right : Expr) :
    eval context (.binary .or left right) = (do
      if ← test context left then return .bool true else (test context right).map .bool) := by
  rw [eval, test, test]
  cases eval context left with
  | error cause => rfl
  | ok value =>
    cases truth : value.truthy <;> cases eval context right <;>
      simp [truth, bind, Except.bind, pure, Except.pure, Except.map]

/-- A conditional depends on the truth of its condition. -/
theorem eval_ternary (condition yes no : Expr) :
    eval context (.ternary condition yes no) = (do
      if ← test context condition then eval context yes else eval context no) := by
  rw [eval, test]
  cases eval context condition <;> rfl

/-- The truth of a conditional is that of the branch taken. -/
theorem test_ternary (condition yes no : Expr) :
    test context (.ternary condition yes no) = (do
      if ← test context condition then test context yes else test context no) := by
  rw [test, eval_ternary]
  cases test context condition with
  | error cause => rfl
  | ok truth => cases truth <;> rfl

/-- Between operands that have values an operator is applied to these values. -/
theorem eval_binary_of_values {op : BinaryOp} {left right : Expr} {a b : Value}
    (leftValue : eval context left = .ok a) (rightValue : eval context right = .ok b) :
    eval context (.binary op left right) = applyBinary op a b := by
  cases op with
  | and | or =>
    rw [eval, leftValue, rightValue]
    cases truth : a.truthy <;> simp [truth, applyBinary, bind, Except.bind, pure, Except.pure]
  | _ =>
    simp only [eval, leftValue, rightValue]
    rfl

/-- Operands are exchanged for others of the same values. -/
theorem eval_binary_congr (op : BinaryOp) {left right other another : Expr}
    (leftSame : eval context left = eval further other)
    (rightSame : eval context right = eval further another) :
    eval context (.binary op left right) = eval further (.binary op other another) := by
  cases op <;> simp only [eval, leftSame, rightSame]

/-- Items are exchanged for others of the same values. -/
theorem evalItems_map {rewrite : Expr → Expr} {items : List Expr}
    (same : ∀ item ∈ items, eval context (rewrite item) = eval further item) :
    evalItems context (items.map rewrite) = evalItems further items := by
  induction items with
  | nil => rfl
  | cons item rest ih =>
    have first := same item List.mem_cons_self
    have others := ih fun other inside => same other (List.mem_cons_of_mem item inside)
    rw [List.map_cons, evalItems, evalItems, first, others]

/-- Expressions under keys are exchanged for others of the same values. -/
theorem evalEntries_map {rewrite : Expr → Expr} {entries : List (String × Expr)}
    (same : ∀ entry ∈ entries, eval context (rewrite entry.2) = eval further entry.2) :
    evalEntries context (entries.map fun entry => (entry.1, rewrite entry.2)) =
      evalEntries further entries := by
  induction entries with
  | nil => rfl
  | cons entry rest ih =>
    have first := same entry List.mem_cons_self
    have others := ih fun other inside => same other (List.mem_cons_of_mem entry inside)
    rw [List.map_cons, evalEntries, evalEntries, first, others]

end Eval

end DecisionFlow
