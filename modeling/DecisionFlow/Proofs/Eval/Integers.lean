import DecisionFlow.Proofs.Eval.Simplify
import DecisionFlow.Proofs.Number.Integers

/-!
# Integer arithmetic

Evaluation and folding compute the same integer from two integers, or both refuse the operation:
evaluation fails and folding keeps it. What a shape of expressions computes is known from its parts
(`Computes.binary`), so the law of division, that quotient and remainder recombine to the dividend,
is one about expressions too (`integer_arithmetic`).
-/
namespace DecisionFlow.Eval

open Number (Wrapped)

/-- A shape of expressions computes an integer from two integers. -/
structure Computes (shape : Expr → Expr → Expr) (a b result : Int64) : Prop where
  /-- Between operands of these values it has the result as value on every record. -/
  evaluated : ∀ [Regex.Matcher] [Value.Enumeration] (context : Context) (left right : Expr),
    eval context left = .ok (.int a) → eval context right = .ok (.int b) →
      eval context (shape left right) = .ok (.int result)
  /-- Between operands that fold to these literals it folds to the result. -/
  folded : ∀ left right : Expr, left.foldConstants = .int a → right.foldConstants = .int b →
    (shape left right).foldConstants = .int result
  /-- Between operands that fold to these literals it simplifies to the result. -/
  simplified : ∀ left right : Expr, left.foldConstants = .int a → right.foldConstants = .int b →
    (shape left right).simplify = .int result

/-- A shape of expressions is refused between two integers. -/
structure Refuses (shape : Expr → Expr → Expr) (a b : Int64) (cause : EvalError) : Prop where
  /-- The operation has no result. -/
  evaluation : cause.category = .evaluation
  /-- Between operands of these values evaluation fails on every record. -/
  failed : ∀ [Regex.Matcher] [Value.Enumeration] (context : Context) (left right : Expr),
    eval context left = .ok (.int a) → eval context right = .ok (.int b) →
      eval context (shape left right) = .error cause
  /-- Between operands that fold to these literals it is not folded. -/
  folded : ∀ left right : Expr, left.foldConstants = .int a → right.foldConstants = .int b →
    (shape left right).foldConstants = shape (.int a) (.int b)
  /-- Between operands that fold to these literals it is not simplified either. -/
  simplified : ∀ left right : Expr, left.foldConstants = .int a → right.foldConstants = .int b →
    (shape left right).simplify = shape (.int a) (.int b)

section Computes

variable {shape other : Expr → Expr → Expr} {a b p q result : Int64}

/-- What is evaluated and folded to a result is simplified to it. -/
theorem Computes.of_folded
    (evaluated : ∀ [Regex.Matcher] [Value.Enumeration] (context : Context) (left right : Expr),
      eval context left = .ok (.int a) → eval context right = .ok (.int b) →
        eval context (shape left right) = .ok (.int result))
    (folded : ∀ left right : Expr, left.foldConstants = .int a → right.foldConstants = .int b →
      (shape left right).foldConstants = .int result) : Computes shape a b result where
  evaluated := evaluated
  folded := folded
  simplified left right leftFolds rightFolds := by
    rw [Expr.simplify, folded left right leftFolds rightFolds]
    rfl

/-- The left operand computes itself. -/
theorem Computes.left (a b : Int64) : Computes (fun left _ => left) a b a :=
  .of_folded (fun _ _ _ value _ => value) fun _ _ folds _ => folds

/-- The right operand computes itself. -/
theorem Computes.right (a b : Int64) : Computes (fun _ right => right) a b b :=
  .of_folded (fun _ _ _ _ value => value) fun _ _ _ folds => folds

/-- An operator that folds between two results computes what it folds to. -/
theorem Computes.binary {op : BinaryOp} (first : Computes shape a b p)
    (second : Computes other a b q) (folds : Expr.foldInts op p q = some (.int result)) :
    Computes (fun left right => .binary op (shape left right) (other left right)) a b result := by
  apply Computes.of_folded
  · intro _ _ context left right leftValue rightValue
    rw [eval_binary_of_values (first.evaluated context left right leftValue rightValue)
      (second.evaluated context left right leftValue rightValue), ← eval_foldInts folds]
    · rfl
    · exact context
  · intro left right leftFolds rightFolds
    rw [Expr.foldConstants, first.folded left right leftFolds rightFolds,
      second.folded left right leftFolds rightFolds, Expr.foldBinary, Expr.foldLiterals, folds]
    rfl

/-- The negative of a result is computed. -/
theorem Computes.negative (first : Computes shape a b result) :
    Computes (fun left right => .unary .neg (shape left right)) a b (-result) := by
  apply Computes.of_folded
  · intro _ _ context left right leftValue rightValue
    rw [eval, first.evaluated context left right leftValue rightValue]
    rfl
  · intro left right leftFolds rightFolds
    rw [Expr.foldConstants, first.folded left right leftFolds rightFolds]
    rfl

/-- An operator that fails and does not fold is refused. -/
theorem Refuses.of_apply {op : BinaryOp} {cause : EvalError}
    (evaluation : cause.category = .evaluation)
    (failed : ∀ [Regex.Matcher] [Value.Enumeration],
      applyBinary op (.int a) (.int b) = .error cause)
    (kept : Expr.foldBinary op (.int a) (.int b) = .binary op (.int a) (.int b))
    (simple : ∀ boolean, (Expr.binary op (.int a) (.int b)).dropDoubleNegation boolean =
      .binary op (.int a) (.int b)) : Refuses (.binary op) a b cause where
  evaluation := evaluation
  failed context left right leftValue rightValue :=
    (eval_binary_of_values leftValue rightValue).trans failed
  folded left right leftFolds rightFolds := by
    rw [Expr.foldConstants, leftFolds, rightFolds, kept]
  simplified left right leftFolds rightFolds := by
    rw [Expr.simplify, Expr.foldConstants, leftFolds, rightFolds, kept]
    exact simple true

end Computes

/-- The quotient and the remainder of two integers as expressions compute them. -/
structure Divides (a b quotient remainder : Int64) : Prop where
  /-- Division computes the quotient. -/
  divided : Computes (.binary .div) a b quotient
  /-- The remainder is computed. -/
  reduced : Computes (.binary .mod) a b remainder
  /-- The quotient is the exact one truncated toward zero, and the least integer over -1 stays. -/
  truncated : quotient.toInt =
    if a = Int64.minValue ∧ b = -1 then Int64.minValue.toInt else a.toInt.tdiv b.toInt
  /-- The remainder is smaller than the divisor. -/
  bounded : |remainder.toInt| < |b.toInt|
  /-- The remainder is zero or has the sign of the dividend. -/
  signed : remainder = 0 ∨ remainder.toInt.sign = a.toInt.sign
  /-- The quotient times the divisor plus the remainder computes the dividend. -/
  recombined : Computes (fun left right => .binary .add
    (.binary .mul (.binary .div left right) right) (.binary .mod left right)) a b a

/-- By a divisor that is not zero there are a quotient and a remainder. -/
theorem divides_of_ne {a b : Int64} (nonzero : b ≠ 0) : Divides a b (a / b) (a % b) := by
  have quotient : Expr.foldInts .div a b = some (.int (a / b)) := if_neg nonzero
  have remainder : Expr.foldInts .mod a b = some (.int (a % b)) := if_neg nonzero
  have divided := (Computes.left a b).binary (.right a b) quotient
  have reduced := (Computes.left a b).binary (.right a b) remainder
  have multiplied := divided.binary (.right a b) (rfl : Expr.foldInts .mul (a / b) b = _)
  have dividend : Expr.foldInts .add (a / b * b) (a % b) = some (.int a) :=
    congrArg (some <| Expr.int ·) (Number.quotient_mul_add_remainder a b)
  exact {
    divided := divided
    reduced := reduced
    truncated := Number.toInt_quotient a b
    bounded := Number.abs_remainder_lt nonzero
    signed := Number.remainder_eq_zero_or_sign a b
    recombined := multiplied.binary reduced dividend }

/-- Between any two integers, sums, differences, products and negatives are computed exactly modulo
`2 ^ 64`; a quotient and a remainder are computed and recombine to the dividend unless the divisor
is zero, and then both are refused by evaluation and kept by folding. -/
theorem integer_arithmetic (a b : Int64) :
    (∃ sum, Computes (.binary .add) a b sum ∧ Wrapped (a.toInt + b.toInt) sum) ∧
    (∃ difference, Computes (.binary .sub) a b difference ∧
      Wrapped (a.toInt - b.toInt) difference) ∧
    (∃ product, Computes (.binary .mul) a b product ∧ Wrapped (a.toInt * b.toInt) product) ∧
    (∃ negative, Computes (fun operand _ => .unary .neg operand) a b negative ∧
      Wrapped (-a.toInt) negative) ∧
    (b ≠ 0 → ∃ quotient remainder, Divides a b quotient remainder) ∧
    (b = 0 → Refuses (.binary .div) a b .divisionByZero ∧
      Refuses (.binary .mod) a b .moduloByZero) := by
  have left := Computes.left a b
  have right := Computes.right a b
  refine ⟨⟨a + b, left.binary right rfl, Number.wrapped_add a b⟩,
    ⟨a - b, left.binary right rfl, Number.wrapped_sub a b⟩,
    ⟨a * b, left.binary right rfl, Number.wrapped_mul a b⟩,
    ⟨-a, left.negative, Number.wrapped_neg a⟩, ?_, ?_⟩
  · intro nonzero
    exact ⟨a / b, a % b, divides_of_ne nonzero⟩
  · rintro rfl
    constructor
    · exact .of_apply rfl rfl rfl fun _ => rfl
    · exact .of_apply rfl rfl rfl fun _ => rfl

/-- The least integer over -1 wraps to itself without remainder, recombines to itself, and over zero
is refused. -/
theorem integer_arithmetic_least :
    (-1 : Int64) ≠ 0 ∧
    (∃ quotient remainder, Divides Int64.minValue (-1) quotient remainder ∧
      quotient = Int64.minValue ∧ remainder = 0) ∧
    Refuses (.binary .div) Int64.minValue 0 .divisionByZero ∧
    Refuses (.binary .mod) Int64.minValue 0 .moduloByZero := by
  have nonzero : (-1 : Int64) ≠ 0 := by decide
  obtain ⟨quotient, remainder, divides⟩ :=
    (integer_arithmetic Int64.minValue (-1)).2.2.2.2.1 nonzero
  have wrapped : quotient = Int64.minValue :=
    Int64.toInt_inj.mp (divides.truncated.trans (if_pos ⟨rfl, rfl⟩))
  have bounded : |remainder.toInt| < 1 := divides.bounded
  have vanishes : remainder = 0 := Int64.toInt_inj.mp (Int.abs_lt_one_iff.mp bounded)
  exact ⟨nonzero, ⟨quotient, remainder, divides, wrapped, vanishes⟩,
    (integer_arithmetic Int64.minValue 0).2.2.2.2.2 rfl⟩

end DecisionFlow.Eval
