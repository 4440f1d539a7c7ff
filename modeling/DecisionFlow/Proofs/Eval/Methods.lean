import DecisionFlow.Proofs.Eval.Causes
import DecisionFlow.Proofs.Expr.Growth
import DecisionFlow.Source.Lexeme

/-!
# Methods and functions

A method call in a source becomes an operator where there is one for the method and it has one
argument, and else a call with the receiver as first argument; a function call stays a call.
Operators and calls evaluate their operands in the same order (`eval_operator_eq_call`), and what
they then do with the values is the same but for the wording of a pattern match on values that are
not texts (`matchOperator_or_reworded`). So the two forms mean the same
(`methodCall_eq_functionCall`).
-/
namespace DecisionFlow.Eval

/-- Two failures for the kinds of the values, whatever their wording. -/
def BothMistyped (first second : Except EvalError Value) : Prop :=
  ∃ cause other, first = .error cause ∧ second = .error other ∧ Mistyped cause ∧ Mistyped other

/-- A pattern match is the same as an operator and as a function, unless both refuse the kinds of
the values. -/
theorem matchOperator_or_reworded [Regex.Matcher] (a b : Value) :
    matchOperator a b = matchCall a b ∨ BothMistyped (matchOperator a b) (matchCall a b) := by
  cases a with
  | string text =>
    cases b with
    | string pattern => exact .inl rfl
    | _ => exact .inr ⟨_, _, rfl, rfl, rfl, rfl⟩
  | _ => exact .inr ⟨_, _, rfl, rfl, rfl, rfl⟩

section Forms

variable [Regex.Matcher] [Value.Enumeration] {context : Context} {op : BinaryOp} {name : String}
  {left right : Expr}

/-- An operator other than conjunction and disjunction evaluates both operands. -/
theorem eval_binary_strict (strict : op.isLogical = false) :
    eval context (.binary op left right) = (do
      let a ← eval context left
      let b ← eval context right
      applyBinary op a b) := by
  cases op with
  | and | or => contradiction
  | _ => rfl

/-- A call evaluates its two arguments in the same order. -/
theorem eval_call_two :
    eval context (.call name [left, right]) = (do
      let a ← eval context left
      let b ← eval context right
      call name [a, b]) := by
  rw [eval, evalItems, evalItems, evalItems]
  cases eval context left with
  | error cause => rfl
  | ok a => cases eval context right <;> rfl

/-- An operator that does the same with two values as a function is the same as a call of it. -/
theorem eval_operator_eq_call (strict : op.isLogical = false)
    (same : ∀ a b, applyBinary op a b = call name [a, b]) :
    eval context (.binary op left right) = eval context (.call name [left, right]) := by
  rw [eval_binary_strict strict, eval_call_two]
  simp only [same]

/-- A pattern match of two expressions has the same outcome as an operator and as a function, unless
both refuse the kinds of the values. -/
theorem eval_match_or_reworded (context : Context) (left right : Expr) :
    let operator := eval context (.binary .matchesPattern left right)
    let function := eval context (.call "matches" [left, right])
    operator = function ∨ BothMistyped operator function := by
  intro operator function
  have ordered : operator = _ := eval_binary_strict rfl
  have called : function = _ := eval_call_two
  rw [ordered, called]
  cases eval context left with
  | error cause => exact .inl rfl
  | ok a =>
    cases eval context right with
    | error cause => exact .inl rfl
    | ok b => exact matchOperator_or_reworded a b

/-- A method call means what the call of the function of its name means, with the receiver as first
argument. For every method but two, whatever the number of arguments, both forms have the same value
or the same failure, except that a pattern match on values of wrong kinds is refused by both but not
in the same words. The two others are written in another way as functions; with one argument they
mean exactly what these functions mean. -/
theorem methodCall_eq_functionCall (context : Context) (receiver : Expr) (arguments : List Expr)
    (starts : name ≠ "startsWith") (ends : name ≠ "endsWith") :
    let method := eval context (Source.methodCall receiver name arguments)
    let function := eval context (.call (Source.functionName name) (receiver :: arguments))
    (method = function ∨ name = "matches" ∧ BothMistyped method function) ∧
      ∀ argument,
        eval context (Source.methodCall receiver "startsWith" [argument]) =
          eval context (.call "starts_with" [receiver, argument]) ∧
        eval context (Source.methodCall receiver "endsWith" [argument]) =
          eval context (.call "ends_with" [receiver, argument]) := by
  constructor
  · unfold Source.methodCall
    split
    · rename_i op argument method
      unfold Source.methodOperator at method
      split at method
      · obtain rfl := Option.some.inj method
        exact .inl (eval_operator_eq_call rfl fun _ _ => rfl)
      · contradiction
      · contradiction
      · obtain rfl := Option.some.inj method
        rcases eval_match_or_reworded context receiver argument with same | refused
        · exact .inl same
        · exact .inr ⟨rfl, refused⟩
      · contradiction
    · exact .inl rfl
  · intro argument
    have starting : eval context (.binary .startsWith receiver argument) =
        eval context (.call "starts_with" [receiver, argument]) :=
      eval_operator_eq_call rfl fun _ _ => rfl
    have ending : eval context (.binary .endsWith receiver argument) =
        eval context (.call "ends_with" [receiver, argument]) :=
      eval_operator_eq_call rfl fun _ _ => rfl
    exact ⟨starting, ending⟩

end Forms

/-- A number is matched against a pattern: both forms refuse it, and each in its own words. -/
theorem methodCall_eq_functionCall_number :
    let context : Context := ⟨.map [("size", .int 4)], "record"⟩
    let method := eval context (Source.methodCall (.ident "size") "matches" [.string "^4"])
    let function :=
      eval context (.call (Source.functionName "matches") [.ident "size", .string "^4"])
    "matches" ≠ "startsWith" ∧ "matches" ≠ "endsWith" ∧ BothMistyped method function ∧
      method = .error (.noMatch .int .string) ∧
      function = .error (.arguments "matches" "(string, string)" .int .string) := by
  intro context method function
  have starts : "matches" ≠ "startsWith" := by decide
  have ends : "matches" ≠ "endsWith" := by decide
  have operator : method = .error (.noMatch .int .string) := rfl
  have called : function = .error (.arguments "matches" "(string, string)" .int .string) := rfl
  obtain ⟨same | ⟨-, refused⟩, -⟩ :=
    methodCall_eq_functionCall context (.ident "size") [.string "^4"] starts ends
  · cases operator.symm.trans (same.trans called)
  · exact ⟨starts, ends, refused, operator, called⟩

end DecisionFlow.Eval
