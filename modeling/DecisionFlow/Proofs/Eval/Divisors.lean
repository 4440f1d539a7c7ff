import DecisionFlow.Proofs.Eval.Simplify
import DecisionFlow.Proofs.Number.Zero

/-!
# Zero divisors

Division by zero is an error between all kinds of numbers, and any other division gives a number. A
remainder by zero is an error between integers only: with a double among the operands it is not a
number, which counts as false. Folding keeps both operations where the divisor is zero
(`divisorGuards_of_numbers`).
-/
namespace DecisionFlow

/-- Whether a value is a number. -/
def Value.isNumber : Value → Bool
  | .int _ | .float _ => true
  | _ => false

/-- Whether a value is zero, as a double of either sign. -/
def Value.isZero : Value → Bool
  | .int n => n == 0
  | .float x => x == 0.0
  | _ => false

namespace Eval

section Operators

variable {a b : Value}

/-- Numbers of which one is a double are two doubles, the second of them zero when the second
number is. -/
theorem numbers?_eq_floats (dividend : a.isNumber = true) (divisor : b.isNumber = true)
    (double : ¬∃ m n, a = .int m ∧ b = .int n) :
    ∃ x y, numbers? a b = some (.floats x y) ∧ (y == 0.0) = b.isZero := by
  cases a with
  | int m =>
    cases b with
    | int n => exact absurd ⟨m, n, rfl, rfl⟩ double
    | float y => exact ⟨_, y, rfl, rfl⟩
    | _ => contradiction
  | float x =>
    cases b with
    | int n => exact ⟨x, _, rfl, Number.ofInt64_beq_zero n⟩
    | float y => exact ⟨x, y, rfl, rfl⟩
    | _ => contradiction
  | _ => contradiction

/-- Division by zero is an error. -/
theorem divide_of_isZero (dividend : a.isNumber = true) (divisor : b.isNumber = true)
    (zero : b.isZero = true) : divide a b = .error .divisionByZero := by
  by_cases ints : ∃ m n, a = .int m ∧ b = .int n
  · obtain ⟨m, n, rfl, rfl⟩ := ints
    exact if_pos (beq_iff_eq.mp zero)
  · obtain ⟨x, y, numbers, same⟩ := numbers?_eq_floats dividend divisor ints
    rw [divide, numbers]
    exact if_pos (same.trans zero)

/-- Any other division gives a number. -/
theorem divide_of_not_isZero (dividend : a.isNumber = true) (divisor : b.isNumber = true)
    (nonzero : b.isZero = false) :
    ∃ value : Value, value.isNumber = true ∧ divide a b = .ok value := by
  by_cases ints : ∃ m n, a = .int m ∧ b = .int n
  · obtain ⟨m, n, rfl, rfl⟩ := ints
    exact ⟨.int (m / n), rfl, if_neg (beq_eq_false_iff_ne.mp nonzero)⟩
  · obtain ⟨x, y, numbers, same⟩ := numbers?_eq_floats dividend divisor ints
    refine ⟨.float (x / y), rfl, ?_⟩
    rw [divide, numbers]
    exact if_neg (Bool.eq_false_iff.mp (same.trans nonzero))

/-- A remainder with a double among the operands is a double, and it is not a number when the
divisor is zero. -/
theorem modulo_of_double (dividend : a.isNumber = true) (divisor : b.isNumber = true)
    (double : ¬∃ m n, a = .int m ∧ b = .int n) :
    ∃ x, modulo a b = .ok (.float x) ∧ (b.isZero = true → x.isNaN = true) := by
  obtain ⟨x, y, numbers, same⟩ := numbers?_eq_floats dividend divisor double
  refine ⟨Number.remainder x y, ?_, fun zero => Number.isNaN_remainder (same.trans zero) x⟩
  rw [modulo, numbers]

/-- A remainder by anything but zero is a number. -/
theorem modulo_of_not_isZero (dividend : a.isNumber = true) (divisor : b.isNumber = true)
    (nonzero : b.isZero = false) :
    ∃ value : Value, value.isNumber = true ∧ modulo a b = .ok value := by
  by_cases ints : ∃ m n, a = .int m ∧ b = .int n
  · obtain ⟨m, n, rfl, rfl⟩ := ints
    exact ⟨.int (m % n), rfl, if_neg (beq_eq_false_iff_ne.mp nonzero)⟩
  · obtain ⟨x, result, -⟩ := modulo_of_double dividend divisor ints
    exact ⟨.float x, rfl, result⟩

/-- What is not a number counts as false. -/
theorem truthy_of_isNaN {x : Float} (undefined : x.isNaN = true) :
    (Value.float x).truthy = false := by
  rw [Value.truthy, undefined, Bool.not_true, Bool.and_false]

end Operators

/-! ## Folding -/

section Folding

variable [Regex.Matcher] [Value.Enumeration] {context : Context} {op : BinaryOp} {left right : Expr}
  {b : Value}

/-- A division or a remainder is not computed from literals when the divisor is zero. -/
theorem foldLiterals_of_isZero (division : op = .div ∨ op = .mod)
    (rightValue : eval context right = .ok b) (zero : b.isZero = true) :
    Expr.foldLiterals op left right = none := by
  unfold Expr.foldLiterals
  split
  · rename_i m n
    obtain rfl := Except.ok.inj rightValue
    obtain rfl : n = 0 := beq_iff_eq.mp zero
    rcases division with rfl | rfl <;> rfl
  · rename_i x y
    obtain rfl := Except.ok.inj rightValue
    rcases division with rfl | rfl
    · exact if_pos zero
    · rfl
  · rcases division with rfl | rfl <;> rfl
  · rfl

/-- A division or a remainder by zero is kept by simplifying. -/
theorem simplify_of_isZero (division : op = .div ∨ op = .mod)
    (rightValue : eval context right = .ok b) (zero : b.isZero = true) :
    ∃ first second, (Expr.binary op left right).simplify = .binary op first second := by
  have literals : Expr.foldLiterals op left.foldConstants right.foldConstants = none :=
    foldLiterals_of_isZero division ((eval_foldConstants right).trans rightValue) zero
  have folded : (Expr.binary op left right).foldConstants =
      .binary op left.foldConstants right.foldConstants := by
    rw [Expr.foldConstants, Expr.foldBinary, literals]
    rcases division with rfl | rfl <;> rfl
  rw [Expr.simplify, folded]
  rcases division with rfl | rfl
  · exact ⟨_, _, rfl⟩
  · exact ⟨_, _, rfl⟩

end Folding

/-! ## Guards -/

/-- What is guarded against a zero divisor, and what is not. -/
structure DivisorGuards [Regex.Matcher] [Value.Enumeration] (context : Context) (left right : Expr)
    (a b : Value) : Prop where
  /-- Division by zero is an error. -/
  divided_zero : b.isZero = true →
    eval context (.binary .div left right) = .error .divisionByZero
  /-- Any other division gives a number. -/
  divided : b.isZero = false → ∃ value : Value, value.isNumber = true ∧
    eval context (.binary .div left right) = .ok value
  /-- The remainder of integers by zero is an error. -/
  reduced_zero : b.isZero = true → (∃ m n, a = .int m ∧ b = .int n) →
    eval context (.binary .mod left right) = .error .moduloByZero
  /-- With a double among the operands a remainder by zero is no error: it is not a number, and
  counts as false. -/
  reduced_double : b.isZero = true → (¬∃ m n, a = .int m ∧ b = .int n) →
    ∃ x, eval context (.binary .mod left right) = .ok (.float x) ∧ x.isNaN = true ∧
      (Value.float x).truthy = false
  /-- Any other remainder is a number. -/
  reduced : b.isZero = false → ∃ value : Value, value.isNumber = true ∧
    eval context (.binary .mod left right) = .ok value
  /-- Simplifying folds neither into a value when the divisor is zero. -/
  kept : b.isZero = true → ∀ op, op = .div ∨ op = .mod →
    ∃ first second, (Expr.binary op left right).simplify = .binary op first second

/-- Between all numbers, division is guarded against zero, the remainder is guarded between integers
only, and simplifying computes neither by zero. -/
theorem divisorGuards_of_numbers [Regex.Matcher] [Value.Enumeration] {context : Context}
    {left right : Expr} {a b : Value} (dividend : a.isNumber = true) (divisor : b.isNumber = true)
    (leftValue : eval context left = .ok a) (rightValue : eval context right = .ok b) :
    DivisorGuards context left right a b := by
  have quotient : eval context (.binary .div left right) = divide a b :=
    eval_binary_of_values leftValue rightValue
  have remainder : eval context (.binary .mod left right) = modulo a b :=
    eval_binary_of_values leftValue rightValue
  refine {
    divided_zero := fun zero => quotient.trans (divide_of_isZero dividend divisor zero)
    divided := ?_
    reduced_zero := ?_
    reduced_double := ?_
    reduced := ?_
    kept := fun zero op division => simplify_of_isZero division rightValue zero }
  · intro nonzero
    rw [quotient]
    exact divide_of_not_isZero dividend divisor nonzero
  · rintro zero ⟨m, n, rfl, rfl⟩
    rw [remainder]
    exact if_pos (beq_iff_eq.mp zero)
  · intro zero double
    obtain ⟨x, result, undefined⟩ := modulo_of_double dividend divisor double
    exact ⟨x, remainder.trans result, undefined zero, truthy_of_isNaN (undefined zero)⟩
  · intro nonzero
    rw [remainder]
    exact modulo_of_not_isZero dividend divisor nonzero

/-- A double divided by a zero fails, and its remainder by it does not. -/
theorem divisorGuards_of_numbers_half :
    let context : Context := ⟨.map [], "record"⟩
    (Value.float 5.5).isNumber = true ∧ (Value.float 0.0).isNumber = true ∧
      eval context (.float 5.5) = .ok (.float 5.5) ∧ eval context (.float 0.0) = .ok (.float 0.0) ∧
      eval context (.binary .div (.float 5.5) (.float 0.0)) = .error .divisionByZero ∧
      ∃ x, eval context (.binary .mod (.float 5.5) (.float 0.0)) = .ok (.float x) ∧
        x.isNaN = true ∧ (Value.float x).truthy = false := by
  intro context
  have guards : DivisorGuards context (.float 5.5) (.float 0.0) (.float 5.5) (.float 0.0) :=
    divisorGuards_of_numbers rfl rfl rfl rfl
  have zero : (Value.float 0.0).isZero = true := by decide +kernel
  exact ⟨rfl, rfl, rfl, rfl, guards.divided_zero zero,
    guards.reduced_double zero fun ⟨m, n, int, _⟩ => nomatch int⟩

/-- A remainder by zero does not fail where a double is among the operands. -/
theorem remainder_zero_passes :
    let context : Context := ⟨.map [], "record"⟩
    (Value.float 0.0).isZero = true ∧ (Value.int 0).isZero = true ∧
      (¬∃ cause, eval context (.binary .mod (.float 5.5) (.float 0.0)) = .error cause) ∧
      (¬∃ cause, eval context (.binary .mod (.int 7) (.float 0.0)) = .error cause) ∧
      (¬∃ cause, eval context (.binary .mod (.float 5.5) (.int 0)) = .error cause) ∧
      eval context (.binary .mod (.int 7) (.int 0)) = .error .moduloByZero := by
  intro context
  refine ⟨by decide +kernel, rfl, ?_, ?_, ?_, rfl⟩
  · rintro ⟨cause, failed⟩
    cases failed
  · rintro ⟨cause, failed⟩
    cases failed
  · rintro ⟨cause, failed⟩
    cases failed

end Eval

end DecisionFlow
