import DecisionFlow.Proofs.Eval.Truth
import DecisionFlow.Proofs.Expr.Subtrees
import DecisionFlow.Proofs.Outcome

/-!
# The causes of failures

A failure travels up from an expression that fails by itself: the expressions immediately below it
all have values (`exists_origin`). What such an expression can fail with is known from its operator
or function: a value of a wrong kind, a name that is neither the parameter nor in the record, a
function that is not built in, a zero divisor or a pattern that cannot be read (`blamed_of_values`).
-/
namespace DecisionFlow.Eval

/-! ## The expression that fails -/

section Origin

variable [Regex.Matcher] [Value.Enumeration] {context : Context} {cause : EvalError}

/-- A list of expressions is evaluated item by item. -/
theorem evalItems_eq_mapM (items : List Expr) :
    evalItems context items = items.mapM (eval context) := by
  induction items with
  | nil => rfl
  | cons item rest ih => rw [evalItems, List.mapM_cons, ih]

/-- Expressions under some keys are evaluated one by one. -/
theorem evalEntries_eq_mapM (entries : List (String × Expr)) :
    evalEntries context entries =
      entries.mapM fun entry => (eval context entry.2).map (entry.1, ·) := by
  induction entries with
  | nil => rfl
  | cons entry rest ih =>
    rw [evalEntries, List.mapM_cons, ih]
    cases eval context entry.2 <;> rfl

/-- A list of expressions fails with one of them. -/
theorem exists_of_evalItems_error {items : List Expr}
    (failed : evalItems context items = .error cause) :
    ∃ item ∈ items, eval context item = .error cause := by
  rw [evalItems_eq_mapM] at failed
  obtain ⟨before, item, after, rfl, -, fails⟩ := mapM_eq_error_iff.mp failed
  exact ⟨item, by simp, fails⟩

/-- Expressions under some keys fail with one of them. -/
theorem exists_of_evalEntries_error {entries : List (String × Expr)}
    (failed : evalEntries context entries = .error cause) :
    ∃ item ∈ entries.map (·.2), eval context item = .error cause := by
  rw [evalEntries_eq_mapM] at failed
  obtain ⟨before, entry, after, rfl, -, fails⟩ := mapM_eq_error_iff.mp failed
  refine ⟨entry.2, by simp, ?_⟩
  cases evaluated : eval context entry.2 with
  | ok value =>
    rw [evaluated] at fails
    contradiction
  | error other =>
    rw [evaluated] at fails
    exact congrArg Except.error (Except.error.inj fails)

/-- An operator fails with its left operand, or else with its right one, or both have values. -/
theorem binary_error {op : BinaryOp} {left right : Expr}
    (failed : eval context (.binary op left right) = .error cause) :
    eval context left = .error cause ∨
      ∃ a, eval context left = .ok a ∧
        (eval context right = .error cause ∨ ∃ b, eval context right = .ok b) := by
  cases op with
  | and =>
    rw [eval] at failed
    rcases bind_eq_error_iff.mp failed with first | ⟨a, first, failed⟩
    · exact .inl first
    split at failed
    · exact .inr ⟨a, first, error_or_ok_of_bind failed⟩
    · contradiction
  | or =>
    rw [eval] at failed
    rcases bind_eq_error_iff.mp failed with first | ⟨a, first, failed⟩
    · exact .inl first
    split at failed
    · contradiction
    · exact .inr ⟨a, first, error_or_ok_of_bind failed⟩
  | _ =>
    simp only [eval] at failed
    rcases bind_eq_error_iff.mp failed with first | ⟨a, first, failed⟩
    · exact .inl first
    · exact .inr ⟨a, first, error_or_ok_of_bind failed⟩

/-- An expression that fails does so with an immediate subtree, or all immediate subtrees have
values. -/
theorem child_error_or_values {expr : Expr} (failed : eval context expr = .error cause) :
    (∃ child ∈ expr.children, eval context child = .error cause) ∨
      ∀ child ∈ expr.children, ∃ value, eval context child = .ok value := by
  cases expr with
  | null | bool | int | float | string | ident => exact .inr nofun
  | list items =>
    rw [eval] at failed
    rcases bind_eq_error_iff.mp failed with items | ⟨values, -, failed⟩
    · exact .inl (exists_of_evalItems_error items)
    · contradiction
  | map entries =>
    rw [eval] at failed
    rcases bind_eq_error_iff.mp failed with items | ⟨values, -, failed⟩
    · exact .inl (exists_of_evalEntries_error items)
    · contradiction
  | call name arguments =>
    rw [eval] at failed
    rcases error_or_ok_of_bind failed with items | ⟨values, items⟩
    · exact .inl (exists_of_evalItems_error items)
    · rw [evalItems_eq_mapM] at items
      exact .inr (exists_mapM_eq_ok_iff.mp ⟨values, items⟩)
  | field base name =>
    rw [eval] at failed
    rcases error_or_ok_of_bind failed with first | ⟨value, first⟩
    · exact .inl ⟨base, .head _, first⟩
    · exact .inr (List.forall_mem_singleton.mpr ⟨value, first⟩)
  | unary op operand =>
    rw [eval] at failed
    rcases error_or_ok_of_bind failed with first | ⟨value, first⟩
    · exact .inl ⟨operand, .head _, first⟩
    · exact .inr (List.forall_mem_singleton.mpr ⟨value, first⟩)
  | index base key =>
    rw [eval] at failed
    rcases bind_eq_error_iff.mp failed with first | ⟨value, first, failed⟩
    · exact .inl ⟨base, .head _, first⟩
    rcases error_or_ok_of_bind failed with second | ⟨other, second⟩
    · exact .inl ⟨key, .tail _ (.head _), second⟩
    · exact .inr (by simp [Expr.children, first, second])
  | binary op left right =>
    rcases binary_error failed with first | ⟨a, first, second | ⟨b, second⟩⟩
    · exact .inl ⟨left, .head _, first⟩
    · exact .inl ⟨right, .tail _ (.head _), second⟩
    · exact .inr (by simp [Expr.children, first, second])
  | ternary condition yes no =>
    rw [eval] at failed
    rcases bind_eq_error_iff.mp failed with first | ⟨value, first, failed⟩
    · exact .inl ⟨condition, .head _, first⟩
    · split at failed
      · exact .inl ⟨yes, .tail _ (.head _), failed⟩
      · exact .inl ⟨no, .tail _ (.tail _ (.head _)), failed⟩

/-- A failure comes from an expression within that fails by itself: all its immediate subtrees have
values. -/
theorem exists_origin {expr : Expr} (failed : eval context expr = .error cause) :
    ∃ node : Expr, node.Within expr ∧ eval context node = .error cause ∧
      ∀ child ∈ node.children, ∃ value, eval context child = .ok value := by
  induction expr using Expr.induct_children with
  | step expr ih =>
    rcases child_error_or_values failed with ⟨child, member, fails⟩ | values
    · obtain ⟨node, inside, origin⟩ := ih child member fails
      exact ⟨node, .deeper member inside, origin⟩
    · exact ⟨expr, .refl expr, failed, values⟩

end Origin

/-! ## Failures of operators and functions -/

/-- Computations whose failure, when there is one, is among some. -/
def FailsOnly {α : Type} (among : EvalError → Prop) (result : Except EvalError α) : Prop :=
  ∀ cause, result = .error cause → among cause

/-- The failures that are about the kind of a value. -/
def Mistyped (cause : EvalError) : Prop := cause.category = .type

section Operations

variable {α : Type} {among : EvalError → Prop}

/-- A result is no failure. -/
@[simp] theorem failsOnly_ok {value : α} : FailsOnly among (.ok value) := nofun

/-- A failure is among those that it should be among. -/
@[simp] theorem failsOnly_error {cause : EvalError} :
    @FailsOnly α among (.error cause) ↔ among cause := by
  simp [FailsOnly]

/-- What goes on with the result of a computation fails like it, or like the continuation. -/
theorem failsOnly_bind {β : Type} {first : Except EvalError β} {next : β → Except EvalError α}
    (before : FailsOnly among first) (after : ∀ result, FailsOnly among (next result)) :
    FailsOnly among (first >>= next) := by
  intro cause failed
  rcases bind_eq_error_iff.mp failed with here | ⟨result, -, there⟩
  · exact before cause here
  · exact after result cause there

/-- Failures among some are among more. -/
theorem FailsOnly.mono {more : EvalError → Prop} {result : Except EvalError α}
    (fails : FailsOnly among result) (larger : ∀ cause, among cause → more cause) :
    FailsOnly more result :=
  fun cause failed => larger cause (fails cause failed)

variable (first second : Value) (name : String)

/-- A prefix operator asks for the kind of its operand only. -/
theorem mistyped_applyUnary (op : UnaryOp) : FailsOnly Mistyped (applyUnary op first) := by
  unfold applyUnary negate
  repeat' split
  all_goals simp [Mistyped, EvalError.category]

/-- A field is refused for the kind of the base only. -/
theorem mistyped_field : FailsOnly Mistyped (first.field name) := by
  unfold Value.field
  split <;> simp [Mistyped, EvalError.category]

/-- An index is refused for the kinds of the base and the index only. -/
theorem mistyped_index : FailsOnly Mistyped (first.index second) := by
  unfold Value.index
  split
  · dsimp only
    split <;> exact failsOnly_ok
  · exact failsOnly_ok
  · exact failsOnly_error.mpr rfl

/-- A sum is refused for the kinds of the operands only. -/
theorem mistyped_add : FailsOnly Mistyped (add first second) := by
  unfold add
  repeat' split
  all_goals simp [Mistyped, EvalError.category]

/-- A difference is refused for the kinds of the operands only. -/
theorem mistyped_subtract : FailsOnly Mistyped (subtract first second) := by
  unfold subtract
  split <;> simp [Mistyped, EvalError.category]

/-- A product is refused for the kinds of the operands only. -/
theorem mistyped_multiply : FailsOnly Mistyped (multiply first second) := by
  unfold multiply
  split <;> simp [Mistyped, EvalError.category]

/-- An order is refused for the kinds of the operands only. -/
theorem mistyped_compare (order : Order) : FailsOnly Mistyped (compare order first second) := by
  unfold compare
  repeat' split
  all_goals simp [Mistyped, EvalError.category]

/-- Membership is refused for the kinds of the operands only. -/
theorem mistyped_member : FailsOnly Mistyped (member first second) := by
  unfold member
  repeat' split
  all_goals simp [Mistyped, EvalError.category]

/-- A quotient is refused for the kinds of the operands or for a zero divisor. -/
theorem failsOnly_divide :
    FailsOnly (fun cause => Mistyped cause ∨ cause = .divisionByZero) (divide first second) := by
  unfold divide
  repeat' split
  all_goals simp [Mistyped, EvalError.category]

/-- A remainder is refused for the kinds of the operands or for a zero divisor. -/
theorem failsOnly_modulo :
    FailsOnly (fun cause => Mistyped cause ∨ cause = .moduloByZero) (modulo first second) := by
  unfold modulo
  repeat' split
  all_goals simp [Mistyped, EvalError.category]

/-- A wrong number of arguments is refused like a wrong kind. -/
theorem mistyped_one (arguments : List Value) : FailsOnly Mistyped (one name arguments) := by
  unfold one
  split <;> simp [Mistyped, EvalError.category]

/-- A wrong number of arguments is refused like a wrong kind. -/
theorem mistyped_two (arguments : List Value) : FailsOnly Mistyped (two name arguments) := by
  unfold two
  split <;> simp [Mistyped, EvalError.category]

/-- A length is refused for the kind of the argument only. -/
theorem mistyped_length : FailsOnly Mistyped (length first) := by
  unfold length
  split <;> simp [Mistyped, EvalError.category]

/-- A function from texts to texts is refused for the kind of the argument only. -/
theorem mistyped_onText (image : String → String) :
    FailsOnly Mistyped (onText name image first) := by
  unfold onText
  split <;> simp [Mistyped, EvalError.category]

/-- A search in a collection is refused for the kinds of the arguments only. -/
theorem mistyped_contains : FailsOnly Mistyped (contains first second) := by
  unfold contains
  split <;> simp [Mistyped, EvalError.category]

/-- A test of two texts is refused for the kinds of the arguments only. -/
theorem mistyped_onTexts (test : String → String → Bool) :
    FailsOnly Mistyped (onTexts name test first second) := by
  unfold onTexts
  split <;> simp [Mistyped, EvalError.category]

/-- A template is refused for its absence or its kind only. -/
theorem mistyped_format [Value.Enumeration] (arguments : List Value) :
    FailsOnly Mistyped (format arguments) := by
  unfold format
  split <;> simp [Mistyped, EvalError.category]

/-- A magnitude is refused for the kind of the argument only. -/
theorem mistyped_magnitude : FailsOnly Mistyped (magnitude first) := by
  unfold magnitude
  split <;> simp [Mistyped, EvalError.category]

/-- A choice between two numbers is refused for the kinds of the arguments only. -/
theorem mistyped_choose (ints : Int64 → Int64 → Int64) (floats : Float → Float → Float) :
    FailsOnly Mistyped (choose name ints floats first second) := by
  unfold choose
  split <;> simp [Mistyped, EvalError.category]

/-- A text that is no integer is refused like a wrong kind. -/
theorem mistyped_toInteger : FailsOnly Mistyped (toInteger first) := by
  unfold toInteger
  repeat' split
  all_goals simp [Mistyped, EvalError.category]

variable [Regex.Matcher]

/-- The failures of a pattern match: the kinds of the values, or a pattern that cannot be read. -/
def Unmatched (cause : EvalError) : Prop :=
  Mistyped cause ∨ ∃ reason, cause = .invalidPattern reason

/-- A pattern match between texts is refused for the pattern only. -/
theorem unmatched_matchText (text pattern : String) :
    FailsOnly Unmatched (matchText text pattern) := by
  unfold matchText
  split <;> simp [Unmatched]

/-- A pattern match as a function is refused for the kinds of the arguments or the pattern. -/
theorem unmatched_matchCall : FailsOnly Unmatched (matchCall first second) := by
  unfold matchCall
  split
  · exact unmatched_matchText _ _
  · exact failsOnly_error.mpr (.inl rfl)

/-- A pattern match as an operator is refused for the kinds of the operands or the pattern. -/
theorem unmatched_matchOperator : FailsOnly Unmatched (matchOperator first second) := by
  unfold matchOperator
  split
  · exact unmatched_matchText _ _
  · exact failsOnly_error.mpr (.inl rfl)

end Operations

/-! ## Failures of expressions -/

/-- The functions that are built in. -/
def builtinNames : List String :=
  ["len", "lower", "upper", "contains", "starts_with", "ends_with", "matches", "format", "abs",
    "min", "max", "to_string", "to_int", "to_bool"]

/-- What an expression may be blamed for when everything immediately below it has a value. -/
inductive Blamed (context : Context) : Expr → EvalError → Prop where
  /-- A value of a wrong kind. -/
  | mistyped {node : Expr} {cause : EvalError} (kinds : Mistyped cause) : Blamed context node cause
  /-- A name that is neither the parameter nor in the record. -/
  | undefinedVariable {name : String} (apart : name ≠ context.param)
    (absent : context.record.get? name = none) :
    Blamed context (.ident name) (.undefinedVariable name)
  /-- A function that is not built in. -/
  | undefinedFunction {name : String} (arguments : List Expr) (unknown : name ∉ builtinNames) :
    Blamed context (.call name arguments) (.undefinedFunction name)
  /-- A division by zero. -/
  | divisionByZero (left right : Expr) : Blamed context (.binary .div left right) .divisionByZero
  /-- A remainder by zero. -/
  | moduloByZero (left right : Expr) : Blamed context (.binary .mod left right) .moduloByZero
  /-- A pattern that an operator cannot read. -/
  | matchOperator (left right : Expr) (reason : Regex.Error) :
    Blamed context (.binary .matchesPattern left right) (.invalidPattern reason)
  /-- A pattern that a function cannot read. -/
  | matchCall (arguments : List Expr) (reason : Regex.Error) :
    Blamed context (.call "matches" arguments) (.invalidPattern reason)

section Blamed

variable {context : Context}

/-- Any expression may be blamed for a value of a wrong kind. -/
theorem Blamed.of_mistyped {node : Expr} {result : Except EvalError Value}
    (fails : FailsOnly Mistyped result) : FailsOnly (Blamed context node) result :=
  fails.mono fun _ => .mistyped

/-- A name is blamed where it stands for nothing. -/
theorem blamed_resolve (name : String) :
    FailsOnly (Blamed context (.ident name)) (context.resolve name) := by
  unfold Context.resolve
  split
  · exact failsOnly_ok
  · rename_i apart
    cases found : context.record.get? name with
    | some value => exact failsOnly_ok
    | none =>
      have other : name ≠ context.param := fun same => apart (beq_iff_eq.mpr same)
      exact failsOnly_error.mpr (.undefinedVariable other found)

variable [Regex.Matcher] [Value.Enumeration]

/-- A call is blamed for the kinds of its arguments, its pattern, or its name. -/
theorem blamed_call (name : String) (arguments : List Expr) (values : List Value) :
    FailsOnly (Blamed context (.call name arguments)) (call name values) := by
  have unary {image : Value → Except EvalError Value}
      (each : ∀ value, FailsOnly Mistyped (image value)) :
      FailsOnly (Blamed context (.call name arguments)) (one name values >>= image) :=
    .of_mistyped (failsOnly_bind (mistyped_one name values) each)
  have binary {image : Value × Value → Except EvalError Value}
      (each : ∀ pair, FailsOnly Mistyped (image pair)) :
      FailsOnly (Blamed context (.call name arguments)) (two name values >>= image) :=
    .of_mistyped (failsOnly_bind (mistyped_two name values) each)
  unfold call
  split
  · exact unary mistyped_length
  · exact unary fun value => mistyped_onText value _ _
  · exact unary fun value => mistyped_onText value _ _
  · exact binary fun pair => mistyped_contains pair.1 pair.2
  · exact binary fun pair => mistyped_onTexts pair.1 pair.2 _ _
  · exact binary fun pair => mistyped_onTexts pair.1 pair.2 _ _
  · have arity : FailsOnly Unmatched (two "matches" values) :=
      (mistyped_two "matches" values).mono fun _ => .inl
    have unmatched := failsOnly_bind arity fun pair => unmatched_matchCall pair.1 pair.2
    refine unmatched.mono ?_
    rintro cause (kinds | ⟨reason, rfl⟩)
    · exact .mistyped kinds
    · exact .matchCall arguments reason
  · exact .of_mistyped (mistyped_format values)
  · exact unary mistyped_magnitude
  · exact binary fun pair => mistyped_choose pair.1 pair.2 _ _ _
  · exact binary fun pair => mistyped_choose pair.1 pair.2 _ _ _
  · exact unary fun value => failsOnly_ok
  · exact unary mistyped_toInteger
  · exact unary fun value => failsOnly_ok
  · refine failsOnly_error.mpr (.undefinedFunction arguments ?_)
    simp_all [builtinNames]

/-- The functions that are not built in are those that no call finds. -/
theorem call_undefined_iff (name : String) (values : List Value) :
    call name values = .error (.undefinedFunction name) ↔ name ∉ builtinNames := by
  constructor
  · intro undefined
    have blamed : Blamed ⟨.null, ""⟩ (.call name []) (.undefinedFunction name) :=
      blamed_call name [] values _ undefined
    cases blamed with
    | mistyped kinds => cases kinds
    | undefinedFunction _ unknown => exact unknown
  · intro unknown
    unfold call
    split
    all_goals first
      | rfl
      | exact absurd (by decide) unknown

/-- An operator between values is blamed for their kinds, a zero divisor or a pattern. -/
theorem blamed_applyBinary (op : BinaryOp) (left right : Expr) (a b : Value) :
    FailsOnly (Blamed context (.binary op left right)) (applyBinary op a b) := by
  cases op with
  | add => exact .of_mistyped (mistyped_add a b)
  | sub => exact .of_mistyped (mistyped_subtract a b)
  | mul => exact .of_mistyped (mistyped_multiply a b)
  | div =>
    refine (failsOnly_divide a b).mono ?_
    rintro cause (kinds | rfl)
    · exact .mistyped kinds
    · exact .divisionByZero left right
  | mod =>
    refine (failsOnly_modulo a b).mono ?_
    rintro cause (kinds | rfl)
    · exact .mistyped kinds
    · exact .moduloByZero left right
  | eq | ne | and | or => exact failsOnly_ok
  | lt | le | gt | ge => exact .of_mistyped (mistyped_compare a b _)
  | contains =>
    exact .of_mistyped (failsOnly_bind failsOnly_ok fun pair : Value × Value =>
      mistyped_contains pair.1 pair.2)
  | startsWith | endsWith =>
    exact .of_mistyped (failsOnly_bind failsOnly_ok fun pair : Value × Value =>
      mistyped_onTexts pair.1 pair.2 _ _)
  | matchesPattern =>
    refine (unmatched_matchOperator a b).mono ?_
    rintro cause (kinds | ⟨reason, rfl⟩)
    · exact .mistyped kinds
    · exact .matchOperator left right reason
  | member => exact .of_mistyped (mistyped_member a b)

/-- An expression whose immediate subtrees all have values fails with what it may be blamed for. -/
theorem blamed_of_values {node : Expr}
    (values : ∀ child ∈ node.children, ∃ value, eval context child = .ok value) :
    FailsOnly (Blamed context node) (eval context node) := by
  cases node with
  | null | bool | int | float | string => rw [eval]; exact failsOnly_ok
  | ident name => rw [eval]; exact blamed_resolve name
  | list items =>
    rw [eval]
    cases evaluated : evalItems context items with
    | ok results => exact failsOnly_ok
    | error cause =>
      obtain ⟨item, member, failed⟩ := exists_of_evalItems_error evaluated
      obtain ⟨value, found⟩ := values item member
      cases failed.symm.trans found
  | map entries =>
    rw [eval]
    cases evaluated : evalEntries context entries with
    | ok results => exact failsOnly_ok
    | error cause =>
      obtain ⟨item, member, failed⟩ := exists_of_evalEntries_error evaluated
      obtain ⟨value, found⟩ := values item member
      cases failed.symm.trans found
  | field base name =>
    obtain ⟨value, evaluated⟩ := values base (.head _)
    rw [eval, evaluated]
    exact .of_mistyped (mistyped_field value name)
  | index base key =>
    obtain ⟨value, evaluated⟩ := values base (.head _)
    obtain ⟨other, evaluatedKey⟩ := values key (.tail _ (.head _))
    rw [eval, evaluated, evaluatedKey]
    exact .of_mistyped (mistyped_index value other)
  | unary op operand =>
    obtain ⟨value, evaluated⟩ := values operand (.head _)
    rw [eval, evaluated]
    exact .of_mistyped (mistyped_applyUnary value op)
  | binary op left right =>
    obtain ⟨a, first⟩ := values left (.head _)
    obtain ⟨b, second⟩ := values right (.tail _ (.head _))
    rw [eval_binary_of_values first second]
    exact blamed_applyBinary op left right a b
  | ternary condition yes no =>
    obtain ⟨value, evaluated⟩ := values condition (.head _)
    obtain ⟨a, first⟩ := values yes (.tail _ (.head _))
    obtain ⟨b, second⟩ := values no (.tail _ (.tail _ (.head _)))
    rw [eval, evaluated, first, second]
    show FailsOnly _ (if value.truthy then .ok a else .ok b)
    split <;> exact failsOnly_ok
  | call name arguments =>
    obtain ⟨results, evaluated⟩ := exists_mapM_eq_ok_iff.mpr values
    rw [Expr.children, ← evalItems_eq_mapM] at evaluated
    rw [eval, evaluated]
    exact blamed_call name arguments results

end Blamed

end DecisionFlow.Eval
