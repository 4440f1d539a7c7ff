import DecisionFlow.Proofs.Eval.Blind
import DecisionFlow.Proofs.Expr.Induction
import DecisionFlow.Proofs.Expr.Subtrees

/-!
# Evaluation does not depend on the order of entries

An expression shows nothing when it calls neither of the two functions that show a whole value as a
text. On reordered records it has the same failure, or reordered values, and maps may be enumerated
in another way for each of the two (`eval_reordered`).
-/
namespace DecisionFlow

namespace Expr

/-- Expressions that show no value as a text: they call neither `to_string` nor `format`. -/
def ShowsNothing (expr : Expr) : Prop :=
  ∀ name arguments, (call name arguments).Within expr → name ≠ "to_string" ∧ name ≠ "format"

/-- The immediate subtrees of such an expression show no value either. -/
theorem ShowsNothing.child {expr child : Expr} (quiet : expr.ShowsNothing)
    (member : child ∈ expr.children) : child.ShowsNothing :=
  fun name arguments inside => quiet name arguments (.deeper member inside)

end Expr

namespace Eval

variable {param : String} {record other : Value}

/-- A name stands for reordered values on reordered records, or for none on both. -/
theorem resolve_reordered (reordered : record.Reordered other) (name : String) :
    SameOutcome Value.Reordered (Context.resolve ⟨record, param⟩ name)
      (Context.resolve ⟨other, param⟩ name) := by
  unfold Context.resolve
  split
  · exact .ok reordered
  · have found := reordered.get? name
    dsimp only
    generalize record.get? name = value at found ⊢
    generalize other.get? name = counterpart at found ⊢
    cases found with
    | none => exact .error _
    | some same => exact .ok same

variable [Regex.Matcher] {enumeration alternative : Value.Enumeration}

/-- Expressions with reordered values have reordered lists of values. -/
theorem evalItems_reordered {context counterpart : Context} {items : List Expr}
    (each : ∀ item ∈ items,
      SameOutcome Value.Reordered (@eval _ enumeration context item)
        (@eval _ alternative counterpart item)) :
    SameOutcome (List.Forall₂ Value.Reordered) (@evalItems _ enumeration context items)
      (@evalItems _ alternative counterpart items) := by
  induction items with
  | nil => exact .ok .nil
  | cons item rest ih =>
    obtain ⟨first, others⟩ := List.forall_mem_cons.mp each
    unfold evalItems
    exact first.bind fun _ _ value => (ih others).bind fun _ _ values => .ok (.cons value values)

/-- Expressions with reordered values under some keys have reordered values under those keys. -/
theorem evalEntries_reordered {context counterpart : Context} {entries : List (String × Expr)}
    (each : ∀ entry ∈ entries,
      SameOutcome Value.Reordered (@eval _ enumeration context entry.2)
        (@eval _ alternative counterpart entry.2)) :
    SameOutcome (List.Forall₂ Value.Reordered.Entry) (@evalEntries _ enumeration context entries)
      (@evalEntries _ alternative counterpart entries) := by
  induction entries with
  | nil => exact .ok .nil
  | cons entry rest ih =>
    obtain ⟨first, others⟩ := List.forall_mem_cons.mp each
    unfold evalEntries
    exact first.bind fun _ _ value => (ih others).bind fun _ _ values =>
      .ok (.cons ⟨rfl, value⟩ values)

/-- An expression that shows no value has on reordered records the same failure, or reordered
values, however maps are enumerated. -/
theorem eval_reordered (reordered : record.Reordered other) {expr : Expr}
    (quiet : expr.ShowsNothing) :
    SameOutcome Value.Reordered (@eval _ enumeration ⟨record, param⟩ expr)
      (@eval _ alternative ⟨other, param⟩ expr) := by
  induction expr with
  | null | bool | int | float | string => exact .ok (.refl _)
  | ident name =>
    unfold eval
    exact resolve_reordered reordered name
  | field base name ih =>
    unfold eval
    exact (ih (quiet.child (.head _))).bind fun _ _ value => value.field name
  | index base key base_ih key_ih =>
    unfold eval
    exact (base_ih (quiet.child (.head _))).bind fun _ _ value =>
      (key_ih (quiet.child (.tail _ (.head _)))).bind fun _ _ place => value.index place
  | unary op operand ih =>
    unfold eval
    refine (ih (quiet.child (.head _))).bind fun _ _ value => ?_
    cases op with
    | not => exact .reordered (by rw [applyUnary, applyUnary, value.truthy_eq])
    | neg => exact .reordered (eq_of_bare (fun value => by cases value <;> rfl) value)
  | binary op left right left_ih right_ih =>
    have lefts := left_ih (quiet.child (.head _))
    have rights := right_ih (quiet.child (.tail _ (.head _)))
    cases op with
    | and =>
      unfold eval
      refine lefts.bind fun _ _ value => ?_
      rw [value.truthy_eq]
      split
      · exact rights.bind fun _ _ value => .reordered (by rw [value.truthy_eq])
      · exact .reordered rfl
    | or =>
      unfold eval
      refine lefts.bind fun _ _ value => ?_
      rw [value.truthy_eq]
      split
      · exact .reordered rfl
      · exact rights.bind fun _ _ value => .reordered (by rw [value.truthy_eq])
    | _ =>
      unfold eval
      exact lefts.bind fun _ _ value => rights.bind fun _ _ operand =>
        applyBinary_reordered _ value operand
  | ternary condition yes no condition_ih yes_ih no_ih =>
    unfold eval
    refine (condition_ih (quiet.child (.head _))).bind fun _ _ value => ?_
    rw [value.truthy_eq]
    split
    · exact yes_ih (quiet.child (.tail _ (.head _)))
    · exact no_ih (quiet.child (.tail _ (.tail _ (.head _))))
  | list items ih =>
    unfold eval
    exact (evalItems_reordered fun item member => ih item member (quiet.child member)).bind
      fun _ _ values => .ok (.ofItems values)
  | map members ih =>
    unfold eval
    exact (evalEntries_reordered fun entry member =>
      ih entry member (quiet.child (List.mem_map_of_mem member))).bind
        fun _ _ values => .ok (.ofEntries values)
  | call name arguments ih =>
    unfold eval
    obtain ⟨shown, filled⟩ := quiet name arguments (.refl _)
    exact (evalItems_reordered fun argument member =>
      ih argument member (quiet.child member)).bind
        fun _ _ values => call_reordered shown filled values

end Eval

end DecisionFlow
