import DecisionFlow.Eval.Basic
import DecisionFlow.Proofs.Expr.Induction
import DecisionFlow.Proofs.Outcome
import DecisionFlow.Proofs.Value.Formed

/-!
# Evaluation makes well-formed values

Operators and functions make numbers, texts and truth values; lists and maps come from the record or
from literals, and a map literal keeps one value for each key. So on a record with distinct keys
throughout, every value of an expression has distinct keys throughout (`forms_eval`).
-/
namespace DecisionFlow.Eval

/-- Computations whose result, when there is one, is well-formed. -/
def Forms (result : Except EvalError Value) : Prop :=
  ∀ value, result = .ok value → value.WellFormed

/-- A result is formed when it is well-formed. -/
@[simp] theorem forms_ok {value : Value} : Forms (.ok value) ↔ value.WellFormed := by
  simp [Forms]

/-- A failure has no result. -/
@[simp] theorem forms_error {cause : EvalError} : Forms (.error cause) := nofun

/-- A computation forms its result when it does from every result of the one before. -/
theorem forms_bind {α : Type} {first : Except EvalError α} {next : α → Except EvalError Value}
    (each : ∀ result, first = .ok result → Forms (next result)) : Forms (first >>= next) := by
  intro value found
  obtain ⟨result, passed, made⟩ := bind_eq_ok_iff.mp found
  exact each result passed value made

attribute [simp] Value.WellFormed.null Value.WellFormed.bool Value.WellFormed.int
  Value.WellFormed.float Value.WellFormed.string

/-! ## Operators and functions -/

section Operations

variable (first second : Value)

/-- A sum is a number or a text. -/
theorem forms_add : Forms (add first second) := by
  unfold add
  repeat' split
  all_goals simp

/-- A difference is a number. -/
theorem forms_subtract : Forms (subtract first second) := by
  unfold subtract
  split <;> simp

/-- A product is a number. -/
theorem forms_multiply : Forms (multiply first second) := by
  unfold multiply
  split <;> simp

/-- A quotient is a number. -/
theorem forms_divide : Forms (divide first second) := by
  unfold divide
  repeat' split
  all_goals simp

/-- A remainder is a number. -/
theorem forms_modulo : Forms (modulo first second) := by
  unfold modulo
  repeat' split
  all_goals simp

/-- An order is true or not. -/
theorem forms_compare (order : Order) : Forms (compare order first second) := by
  unfold compare
  repeat' split
  all_goals simp

/-- Membership is true or not. -/
theorem forms_member : Forms (member first second) := by
  unfold member
  repeat' split
  all_goals simp

/-- A prefix operator makes a truth value or a number. -/
theorem forms_applyUnary (op : UnaryOp) : Forms (applyUnary op first) := by
  unfold applyUnary negate
  repeat' split
  all_goals simp

/-- A number of characters, items or entries is a number. -/
theorem forms_length : Forms (length first) := by
  unfold length
  split <;> simp

/-- A function from texts to texts makes a text. -/
theorem forms_onText (name : String) (image : String → String) :
    Forms (onText name image first) := by
  unfold onText
  split <;> simp

/-- What a collection contains is true or not. -/
theorem forms_contains : Forms (contains first second) := by
  unfold contains
  split <;> simp

/-- A test of two texts is true or not. -/
theorem forms_onTexts (name : String) (test : String → String → Bool) :
    Forms (onTexts name test first second) := by
  unfold onTexts
  split <;> simp

/-- A filled template is a text. -/
theorem forms_format [Value.Enumeration] (arguments : List Value) : Forms (format arguments) := by
  unfold format
  split <;> simp

/-- A magnitude is a number. -/
theorem forms_magnitude : Forms (magnitude first) := by
  unfold magnitude
  split <;> simp

/-- A choice between two numbers is a number. -/
theorem forms_choose (name : String) (ints : Int64 → Int64 → Int64)
    (floats : Float → Float → Float) : Forms (choose name ints floats first second) := by
  unfold choose
  split <;> simp

/-- The integer that a value stands for is a number. -/
theorem forms_toInteger : Forms (toInteger first) := by
  unfold toInteger
  repeat' split
  all_goals simp

variable [Regex.Matcher]

/-- A pattern matches or not. -/
theorem forms_matchText (text pattern : String) : Forms (matchText text pattern) := by
  unfold matchText
  split <;> simp

/-- A pattern match as a function is true or not. -/
theorem forms_matchCall : Forms (matchCall first second) := by
  unfold matchCall
  split
  · exact forms_matchText _ _
  · exact forms_error

/-- A pattern match as an operator is true or not. -/
theorem forms_matchOperator : Forms (matchOperator first second) := by
  unfold matchOperator
  split
  · exact forms_matchText _ _
  · exact forms_error

variable [Value.Enumeration]

/-- A function makes a number, a text or a truth value. -/
theorem forms_call (name : String) (arguments : List Value) : Forms (call name arguments) := by
  unfold call
  split
  · exact forms_bind fun value _ => forms_length value
  · exact forms_bind fun value _ => forms_onText value _ _
  · exact forms_bind fun value _ => forms_onText value _ _
  · exact forms_bind fun pair _ => forms_contains pair.1 pair.2
  · exact forms_bind fun pair _ => forms_onTexts pair.1 pair.2 _ _
  · exact forms_bind fun pair _ => forms_onTexts pair.1 pair.2 _ _
  · exact forms_bind fun pair _ => forms_matchCall pair.1 pair.2
  · exact forms_format arguments
  · exact forms_bind fun value _ => forms_magnitude value
  · exact forms_bind fun pair _ => forms_choose pair.1 pair.2 _ _ _
  · exact forms_bind fun pair _ => forms_choose pair.1 pair.2 _ _ _
  · exact forms_bind fun value _ => forms_ok.mpr (.string value.display)
  · exact forms_bind fun value _ => forms_toInteger value
  · exact forms_bind fun value _ => forms_ok.mpr (.bool value.truthy)
  · exact forms_error

/-- An operator makes a number, a text or a truth value. -/
theorem forms_applyBinary (op : BinaryOp) : Forms (applyBinary op first second) := by
  cases op with
  | add => exact forms_add first second
  | sub => exact forms_subtract first second
  | mul => exact forms_multiply first second
  | div => exact forms_divide first second
  | mod => exact forms_modulo first second
  | eq | ne | and | or => exact forms_ok.mpr (.bool _)
  | lt | le | gt | ge => exact forms_compare first second _
  | contains => exact forms_call "contains" [first, second]
  | startsWith => exact forms_call "starts_with" [first, second]
  | endsWith => exact forms_call "ends_with" [first, second]
  | matchesPattern => exact forms_matchOperator first second
  | member => exact forms_member first second

end Operations

/-! ## Expressions -/

variable {context : Context}

/-- A name stands for a well-formed value on a well-formed record. -/
theorem forms_resolve (formed : context.record.WellFormed) (name : String) :
    Forms (context.resolve name) := by
  unfold Context.resolve
  split
  · exact forms_ok.mpr formed
  · cases record : context.record with
    | map entries =>
      rw [record] at formed
      cases found : entries.lookup name with
      | none => simp [Value.get?, found]
      | some value => simpa [Value.get?, found] using formed.lookup found
    | _ => simp [Value.get?]

variable [Regex.Matcher] [Value.Enumeration]

/-- Expressions with well-formed values have well-formed lists of values. -/
theorem wellFormed_of_evalItems {items : List Expr} {values : List Value}
    (each : ∀ item ∈ items, Forms (eval context item))
    (evaluated : evalItems context items = .ok values) : ∀ value ∈ values, value.WellFormed := by
  induction items generalizing values with
  | nil => exact Except.ok.inj evaluated ▸ nofun
  | cons item rest ih =>
    obtain ⟨first, others⟩ := List.forall_mem_cons.mp each
    rw [evalItems] at evaluated
    obtain ⟨value, here, evaluated⟩ := bind_eq_ok_iff.mp evaluated
    obtain ⟨values, there, evaluated⟩ := bind_eq_ok_iff.mp evaluated
    rw [← Except.ok.inj evaluated]
    exact List.forall_mem_cons.mpr ⟨first value here, ih others there⟩

/-- Expressions with well-formed values under some keys have well-formed values under those keys. -/
theorem wellFormed_of_evalEntries {entries : List (String × Expr)}
    {values : List (String × Value)} (each : ∀ entry ∈ entries, Forms (eval context entry.2))
    (evaluated : evalEntries context entries = .ok values) :
    ∀ entry ∈ values, entry.2.WellFormed := by
  induction entries generalizing values with
  | nil => exact Except.ok.inj evaluated ▸ nofun
  | cons entry rest ih =>
    obtain ⟨first, others⟩ := List.forall_mem_cons.mp each
    rw [evalEntries] at evaluated
    obtain ⟨value, here, evaluated⟩ := bind_eq_ok_iff.mp evaluated
    obtain ⟨values, there, evaluated⟩ := bind_eq_ok_iff.mp evaluated
    rw [← Except.ok.inj evaluated]
    exact List.forall_mem_cons.mpr ⟨first value here, ih others there⟩

/-- An expression forms its value on a well-formed record. -/
theorem forms_eval (formed : context.record.WellFormed) (expr : Expr) :
    Forms (eval context expr) := by
  induction expr with
  | null | bool | int | float | string => simp
  | list items ih =>
    rw [eval]
    exact forms_bind fun values evaluated =>
      forms_ok.mpr (.list (wellFormed_of_evalItems ih evaluated))
  | map entries ih =>
    rw [eval]
    exact forms_bind fun values evaluated =>
      forms_ok.mpr (.ofEntries (wellFormed_of_evalEntries ih evaluated))
  | ident name =>
    rw [eval]
    exact forms_resolve formed name
  | field base name ih =>
    rw [eval]
    exact forms_bind fun value evaluated _ found => (ih value evaluated).field found
  | index base key ih _ =>
    rw [eval]
    exact forms_bind fun value evaluated => forms_bind fun _ _ _ found =>
      (ih value evaluated).index found
  | unary op operand ih =>
    rw [eval]
    exact forms_bind fun value _ => forms_applyUnary value op
  | binary op left right =>
    cases op with
    | and =>
      rw [eval]
      refine forms_bind fun value _ => ?_
      split
      · exact forms_bind fun other _ => forms_ok.mpr (.bool other.truthy)
      · exact forms_ok.mpr (.bool false)
    | or =>
      rw [eval]
      refine forms_bind fun value _ => ?_
      split
      · exact forms_ok.mpr (.bool true)
      · exact forms_bind fun other _ => forms_ok.mpr (.bool other.truthy)
    | _ =>
      simp only [eval]
      exact forms_bind fun value _ => forms_bind fun other _ => forms_applyBinary value other _
  | ternary condition yes no _ ih_yes ih_no =>
    rw [eval]
    refine forms_bind fun value _ => ?_
    split
    · exact ih_yes
    · exact ih_no
  | call name arguments =>
    rw [eval]
    exact forms_bind fun values _ => forms_call name values

end DecisionFlow.Eval
