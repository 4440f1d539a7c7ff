import DecisionFlow.Expr.Simplify
import DecisionFlow.Proofs.Eval.Truth
import DecisionFlow.Proofs.Expr.Induction
import DecisionFlow.Proofs.Outcome

/-!
# Simplifying keeps the meaning

Folding literals and dropping dead branches keep the value or the failure of an expression on
every record (`eval_foldConstants`, `eval_dropDeadBranches`). Dropping double negations keeps it
where the value counts, and keeps the truth where only truth counts (`dropDoubleNegation_sound`).
The three together are `passes_sound`. A simplified predicate therefore has the truth, or the
failure, of the predicate it came from (`test_simplify`). No fact about the arithmetic of doubles is
needed: a folded operation is the one that evaluation would perform.
-/
namespace DecisionFlow.Eval

open DecisionFlow.Expr

variable [Regex.Matcher] [Value.Enumeration] {context : Context}

/-! ## Literals -/

/-- A literal has its truth on every record. -/
theorem test_of_literalTruth {expr : Expr} {truth : Bool} (known : expr.literalTruth = some truth) :
    test context expr = .ok truth := by
  cases expr with
  | null | bool | int | float | string =>
    obtain rfl := Option.some.inj known
    rfl
  | _ => contradiction

/-- The coercion of an expression has its truth as value. -/
theorem eval_coerced (expr : Expr) :
    eval context expr.coerced = (test context expr).map .bool := by
  unfold coerced
  split
  · rename_i known
    rw [test_of_literalTruth known]
    rfl
  · rw [eval_not, test_not]
    cases test context expr with
    | error cause => rfl
    | ok truth => simp only [Except.map, Bool.not_not]

/-! ## Folding -/

/-- A folded prefix operator has the value of the application. -/
theorem eval_foldUnary (op : UnaryOp) (operand : Expr) :
    eval context (foldUnary op operand) = eval context (.unary op operand) := by
  cases op with
  | neg => cases operand <;> rfl
  | not =>
    simp only [foldUnary]
    split
    · rename_i known
      rw [eval_not, test_of_literalTruth known]
      rfl
    · rfl

/-- A folded operation on integers is the one that evaluation performs. -/
theorem eval_foldInts {op : BinaryOp} {a b : Int64} {folded : Expr}
    (computed : foldInts op a b = some folded) :
    eval context folded = applyBinary op (.int a) (.int b) := by
  cases op with
  | div | mod =>
    simp only [foldInts] at computed
    split at computed
    · contradiction
    · rename_i nonzero
      obtain rfl := Option.some.inj computed
      simp [eval, applyBinary, divide, modulo, numbers?, nonzero]
  | add | sub | mul | eq | ne | lt | le | gt | ge =>
    obtain rfl := Option.some.inj computed
    rfl
  | _ => contradiction

/-- A folded operation on doubles is the one that evaluation performs. -/
theorem eval_foldFloats {op : BinaryOp} {a b : Float} {folded : Expr}
    (computed : foldFloats op a b = some folded) :
    eval context folded = applyBinary op (.float a) (.float b) := by
  cases op with
  | div =>
    simp only [foldFloats] at computed
    split at computed
    · contradiction
    · rename_i nonzero
      obtain rfl := Option.some.inj computed
      simp [eval, applyBinary, divide, numbers?, nonzero]
  | add | sub | mul =>
    obtain rfl := Option.some.inj computed
    rfl
  | _ => contradiction

/-- A folded test of texts is the one that evaluation performs. -/
theorem eval_foldStrings {op : BinaryOp} {a b : String} {folded : Expr}
    (computed : foldStrings op a b = some folded) :
    eval context folded = applyBinary op (.string a) (.string b) := by
  cases op with
  | eq | ne | contains | startsWith | endsWith =>
    obtain rfl := Option.some.inj computed
    rfl
  | _ => contradiction

/-- A folded operation on literals has the value of the operation. -/
theorem eval_foldLiterals {op : BinaryOp} {left right folded : Expr}
    (computed : foldLiterals op left right = some folded) :
    eval context folded = eval context (.binary op left right) := by
  unfold foldLiterals at computed
  split at computed
  · rw [eval_foldInts computed, eval_binary_of_values rfl rfl]
  · rw [eval_foldFloats computed, eval_binary_of_values rfl rfl]
  · rw [eval_foldStrings computed, eval_binary_of_values rfl rfl]
  · contradiction

/-- A conjunction or disjunction on a literal is decided by it, or by the right operand. -/
theorem eval_foldLogic {op : BinaryOp} {left right folded : Expr}
    (computed : foldLogic op left right = some folded) :
    eval context folded = eval context (.binary op left right) := by
  unfold foldLogic at computed
  split at computed
  · rename_i known
    obtain rfl := Option.some.inj computed
    rw [eval_coerced, eval_and, test_of_literalTruth known]
    rfl
  · rename_i known
    obtain rfl := Option.some.inj computed
    rw [eval_and, test_of_literalTruth known]
    rfl
  · rename_i known
    obtain rfl := Option.some.inj computed
    rw [eval_or, test_of_literalTruth known]
    rfl
  · rename_i known
    obtain rfl := Option.some.inj computed
    rw [eval_coerced, eval_or, test_of_literalTruth known]
    rfl
  · contradiction

/-- A folded operator has the value of the application. -/
theorem eval_foldBinary (op : BinaryOp) (left right : Expr) :
    eval context (foldBinary op left right) = eval context (.binary op left right) := by
  unfold foldBinary
  cases literals : foldLiterals op left right with
  | some folded => exact eval_foldLiterals literals
  | none =>
    cases logic : foldLogic op left right with
    | some folded => exact eval_foldLogic logic
    | none => rfl

/-- Folding constants keeps the value or the failure of an expression. -/
theorem eval_foldConstants (expr : Expr) : eval context expr.foldConstants = eval context expr := by
  induction expr with
  | null | bool | int | float | string | ident => rfl
  | list items ih =>
    rw [foldConstants, eq_map_of_cons foldItems rfl fun _ _ => rfl, eval, eval,
      evalItems_map ih]
  | map entries ih =>
    rw [foldConstants, eq_map_of_cons foldEntries rfl fun _ _ => rfl, eval, eval,
      evalEntries_map ih]
  | field base name ih => rw [foldConstants, eval, eval, ih]
  | index base key baseSame keySame => rw [foldConstants, eval, eval, baseSame, keySame]
  | unary op operand ih => rw [foldConstants, eval_foldUnary, eval, eval, ih]
  | binary op left right leftSame rightSame =>
    rw [foldConstants, eval_foldBinary, eval_binary_congr op leftSame rightSame]
  | ternary condition yes no conditionSame yesSame noSame =>
    rw [foldConstants, eval_ternary, eval_ternary, test_congr conditionSame, yesSame, noSame]
  | call name arguments ih =>
    rw [foldConstants, eq_map_of_cons foldItems rfl fun _ _ => rfl, eval, eval,
      evalItems_map ih]

/-! ## Dead branches -/

/-- A chosen branch has the value of the conditional. -/
theorem eval_chooseBranch (condition yes no : Expr) :
    eval context (chooseBranch condition yes no) = eval context (.ternary condition yes no) := by
  unfold chooseBranch
  split
  · rename_i known
    rw [eval_ternary, test_of_literalTruth known]
    rfl
  · rename_i known
    rw [eval_ternary, test_of_literalTruth known]
    rfl
  · rfl

/-- Dropping dead branches keeps the value or the failure of an expression. -/
theorem eval_dropDeadBranches (expr : Expr) :
    eval context expr.dropDeadBranches = eval context expr := by
  induction expr with
  | null | bool | int | float | string | ident => rfl
  | list items ih =>
    rw [dropDeadBranches, eq_map_of_cons dropDeadItems rfl fun _ _ => rfl, eval, eval,
      evalItems_map ih]
  | map entries ih =>
    rw [dropDeadBranches, eq_map_of_cons dropDeadEntries rfl fun _ _ => rfl, eval, eval,
      evalEntries_map ih]
  | field base name ih => rw [dropDeadBranches, eval, eval, ih]
  | index base key baseSame keySame => rw [dropDeadBranches, eval, eval, baseSame, keySame]
  | unary op operand ih => rw [dropDeadBranches, eval, eval, ih]
  | binary op left right leftSame rightSame =>
    rw [dropDeadBranches, eval_binary_congr op leftSame rightSame]
  | ternary condition yes no conditionSame yesSame noSame =>
    rw [dropDeadBranches, eval_chooseBranch, eval_ternary, eval_ternary, test_congr conditionSame,
      yesSame, noSame]
  | call name arguments ih =>
    rw [dropDeadBranches, eq_map_of_cons dropDeadItems rfl fun _ _ => rfl, eval, eval,
      evalItems_map ih]

/-! ## Double negations -/

/-- Where only truth counts, a negation may leave out the negation below it. -/
theorem test_negated (boolean : Bool) (operand : Expr) :
    test context (negated boolean operand) = test context (.unary .not operand) := by
  unfold negated
  split
  · rw [test_not_not]
  · rfl

/-- An expression that is rewritten to one of its value in either place keeps value and truth. -/
theorem dropDoubleNegation_of_same {expr : Expr}
    (same : ∀ boolean, eval context (expr.dropDoubleNegation boolean) = eval context expr) :
    eval context (expr.dropDoubleNegation false) = eval context expr ∧
      test context (expr.dropDoubleNegation true) = test context expr :=
  ⟨same false, test_congr (same true)⟩

/-- Dropping double negations keeps the value or the failure of an expression, and where only
truth counts its truth or the failure. -/
theorem dropDoubleNegation_sound (expr : Expr) :
    eval context (expr.dropDoubleNegation false) = eval context expr ∧
      test context (expr.dropDoubleNegation true) = test context expr := by
  induction expr with
  | null | bool | int | float | string | ident => exact ⟨rfl, rfl⟩
  | list items ih =>
    apply dropDoubleNegation_of_same
    intro boolean
    rw [dropDoubleNegation, eq_map_of_cons dropNegatedItems rfl fun _ _ => rfl, eval,
      eval, evalItems_map fun item inside => (ih item inside).1]
  | map entries ih =>
    apply dropDoubleNegation_of_same
    intro boolean
    rw [dropDoubleNegation, eq_map_of_cons dropNegatedEntries rfl fun _ _ => rfl,
      eval, eval, evalEntries_map fun entry inside => (ih entry inside).1]
  | field base name ih =>
    apply dropDoubleNegation_of_same
    intro boolean
    rw [dropDoubleNegation, eval, eval, ih.1]
  | index base key baseSame keySame =>
    apply dropDoubleNegation_of_same
    intro boolean
    rw [dropDoubleNegation, eval, eval, baseSame.1, keySame.1]
  | unary op operand ih =>
    cases op with
    | neg =>
      apply dropDoubleNegation_of_same
      intro boolean
      rw [dropDoubleNegation, eval, eval, ih.1]
    | not =>
      -- The value of a negation is a truth value, so its operand counts by truth in both places.
      constructor
      · rw [dropDoubleNegation, negated, eval_not, eval_not, ih.2]
        nofun
      · rw [dropDoubleNegation, test_negated, test_not, test_not, ih.2]
  | binary op left right leftSame rightSame =>
    apply dropDoubleNegation_of_same
    intro boolean
    cases op with
    | and => rw [dropDoubleNegation, eval_and, eval_and, leftSame.2, rightSame.2]
    | or => rw [dropDoubleNegation, eval_or, eval_or, leftSame.2, rightSame.2]
    | _ => exact eval_binary_congr _ leftSame.1 rightSame.1
  | ternary condition yes no conditionSame yesSame noSame =>
    constructor
    · rw [dropDoubleNegation, eval_ternary, eval_ternary, conditionSame.2, yesSame.1, noSame.1]
    · rw [dropDoubleNegation, test_ternary, test_ternary, conditionSame.2, yesSame.2, noSame.2]
  | call name arguments ih =>
    apply dropDoubleNegation_of_same
    intro boolean
    rw [dropDoubleNegation, eq_map_of_cons dropNegatedItems rfl fun _ _ => rfl, eval,
      eval, evalItems_map fun argument inside => (ih argument inside).1]

/-- Expressions of one truth fail in the same way or have values of the same truth. -/
theorem sameOutcome_of_test {expr other : Expr} (same : test context expr = test context other) :
    SameOutcome (fun value image => value.truthy = image.truthy) (eval context expr)
      (eval context other) := by
  unfold test at same
  cases first : eval context expr with
  | error cause =>
    rw [first] at same
    rw [map_truthy_error same.symm]
    exact .error cause
  | ok value =>
    rw [first] at same
    obtain ⟨image, second, truth⟩ := map_truthy_ok same.symm
    rw [second]
    exact .ok truth.symm

/-- A simplified predicate has the truth, or the failure, of the predicate. -/
theorem test_simplify (expr : Expr) : test context expr.simplify = test context expr := by
  calc
    test context expr.simplify
    _ = test context expr.foldConstants.dropDeadBranches := (dropDoubleNegation_sound _).2
    _ = test context expr.foldConstants := test_congr (eval_dropDeadBranches _)
    _ = test context expr := test_congr (eval_foldConstants expr)

/-- Every pass keeps exactly what counts where it is used. Folding literals and dropping dead
branches keep the value or the failure of every expression on every record, and so does dropping
double negations where the value counts. Where only truth counts, an expression without its double
negations fails as it did, or has a value of the same truth. -/
theorem passes_sound (context : Context) (expr : Expr) :
    eval context expr.foldConstants = eval context expr ∧
      eval context expr.dropDeadBranches = eval context expr ∧
      eval context (expr.dropDoubleNegation false) = eval context expr ∧
      SameOutcome (fun value image => value.truthy = image.truthy)
        (eval context (expr.dropDoubleNegation true)) (eval context expr) := by
  have kept : eval context (expr.dropDoubleNegation false) = eval context expr ∧
      test context (expr.dropDoubleNegation true) = test context expr :=
    dropDoubleNegation_sound expr
  obtain ⟨value, truth⟩ := kept
  exact ⟨eval_foldConstants expr, eval_dropDeadBranches expr, value, sameOutcome_of_test truth⟩

end DecisionFlow.Eval
