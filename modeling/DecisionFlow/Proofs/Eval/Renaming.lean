import DecisionFlow.Proofs.Eval.Truth
import DecisionFlow.Proofs.Expr.Growth
import DecisionFlow.Proofs.Expr.Induction
import DecisionFlow.Proofs.Expr.Subtrees

/-!
# Renaming what stands for the record

A name in an expression means the record or one of its fields; the names of fields, functions and
keys mean nothing by themselves. No pass of the simplifier looks at a name, so simplifying and
renaming can change places (`simplify_rename`). An expression has the value that it had when every
name that occurs in it means the same after renaming (`eval_rename`). The parameter may therefore
have any name that the expression does not use otherwise, whatever keys the record has
(`rename_parameter`).
-/
namespace DecisionFlow

namespace Expr

mutual

/-- An expression with other names in it; the names of fields, functions and keys stay. -/
def rename (image : String → String) : Expr → Expr
  | .ident name => .ident (image name)
  | .list items => .list (renameItems image items)
  | .map entries => .map (renameEntries image entries)
  | .field base name => .field (rename image base) name
  | .index base key => .index (rename image base) (rename image key)
  | .unary op operand => .unary op (rename image operand)
  | .binary op left right => .binary op (rename image left) (rename image right)
  | .ternary condition yes no =>
    .ternary (rename image condition) (rename image yes) (rename image no)
  | .call name arguments => .call name (renameItems image arguments)
  | literal => literal

/-- Some expressions with other names in them. -/
def renameItems (image : String → String) : List Expr → List Expr
  | [] => []
  | item :: rest => rename image item :: renameItems image rest

/-- The expressions under some keys with other names in them. -/
def renameEntries (image : String → String) : List (String × Expr) → List (String × Expr)
  | [] => []
  | (key, value) :: rest => (key, rename image value) :: renameEntries image rest

end

/-- One name in the place of another. -/
def replacing (name other : String) : String → String := fun given =>
  if given = name then other else given

variable {image : String → String}

/-- Expressions are renamed one by one. -/
theorem renameItems_eq (items : List Expr) :
    renameItems image items = items.map (rename image) :=
  eq_map_of_cons (renameItems image) rfl (fun _ _ => rfl) items

/-- The expressions under some keys are renamed one by one. -/
theorem renameEntries_eq (entries : List (String × Expr)) :
    renameEntries image entries = entries.map fun entry => (entry.1, rename image entry.2) :=
  eq_map_of_cons (renameEntries image) rfl (fun _ _ => rfl) entries

/-! ## Renaming and simplifying -/

section Passes

variable {pass : Expr → Expr}

/-- A pass that changes places with renaming in each of some expressions does so in all of them. -/
theorem map_renameItems {items : List Expr}
    (each : ∀ item ∈ items, pass (item.rename image) = (pass item).rename image) :
    (renameItems image items).map pass = renameItems image (items.map pass) := by
  rw [renameItems_eq, renameItems_eq, List.map_map, List.map_map]
  exact List.map_congr_left each

/-- A pass that changes places with renaming in the expression under each of some keys does so under
all of them. -/
theorem map_renameEntries {entries : List (String × Expr)}
    (each : ∀ entry ∈ entries, pass (entry.2.rename image) = (pass entry.2).rename image) :
    ((renameEntries image entries).map fun entry => (entry.1, pass entry.2)) =
      renameEntries image (entries.map fun entry => (entry.1, pass entry.2)) := by
  rw [renameEntries_eq, renameEntries_eq, List.map_map, List.map_map]
  apply List.map_congr_left
  intro entry inside
  exact congrArg (Prod.mk entry.1) (each entry inside)

end Passes

/-- There are no names in a literal. -/
theorem rename_of_isConstant {expr : Expr} (constant : expr.isConstant = true) :
    expr.rename image = expr := by
  cases expr with
  | null | bool | int | float | string => rfl
  | _ => contradiction

/-- A renamed expression is a literal when the expression is, and the same one. -/
theorem literalTruth_rename (expr : Expr) :
    (expr.rename image).literalTruth = expr.literalTruth := by
  cases expr <;> rfl

/-- The coercion of a renamed expression is the renamed coercion. -/
theorem coerced_rename (expr : Expr) :
    (expr.rename image).coerced = expr.coerced.rename image := by
  unfold coerced
  rw [literalTruth_rename]
  split <;> rfl

/-- A prefix operator is folded on a renamed operand as on the operand. -/
theorem foldUnary_rename (op : UnaryOp) (operand : Expr) :
    foldUnary op (operand.rename image) = (foldUnary op operand).rename image := by
  cases op with
  | neg => cases operand <;> rfl
  | not =>
    simp only [foldUnary]
    rw [literalTruth_rename]
    split <;> rfl

/-- Two literals are the same literals after renaming. -/
theorem foldLiterals_rename (op : BinaryOp) (left right : Expr) :
    foldLiterals op (left.rename image) (right.rename image) = foldLiterals op left right := by
  cases left with
  | int | float | string => cases right <;> rfl
  | _ => rfl

/-- A conjunction or disjunction is decided by a renamed left operand as by the operand. -/
theorem foldLogic_rename (op : BinaryOp) (left right : Expr) :
    foldLogic op (left.rename image) (right.rename image) =
      (foldLogic op left right).map (rename image) := by
  unfold foldLogic
  rw [literalTruth_rename, coerced_rename]
  split <;> rfl

/-- An operator is folded on renamed operands as on the operands. -/
theorem foldBinary_rename (op : BinaryOp) (left right : Expr) :
    foldBinary op (left.rename image) (right.rename image) =
      (foldBinary op left right).rename image := by
  unfold foldBinary
  rw [foldLiterals_rename, foldLogic_rename]
  cases literals : foldLiterals op left right with
  | some folded => exact (rename_of_isConstant (isConstant_foldLiterals literals)).symm
  | none =>
    cases foldLogic op left right with
    | some folded => rfl
    | none => rfl

/-- Folding literals and renaming change places. -/
theorem foldConstants_rename (expr : Expr) :
    (expr.rename image).foldConstants = expr.foldConstants.rename image := by
  induction expr with
  | null | bool | int | float | string | ident => rfl
  | list items ih =>
    simp only [rename, foldConstants, eq_map_of_cons foldItems rfl fun _ _ => rfl]
    rw [map_renameItems ih]
  | map entries ih =>
    simp only [rename, foldConstants, eq_map_of_cons foldEntries rfl fun _ _ => rfl]
    rw [map_renameEntries ih]
  | field base name ih => simp only [rename, foldConstants, ih]
  | index base key baseSame keySame => simp only [rename, foldConstants, baseSame, keySame]
  | unary op operand ih => rw [rename, foldConstants, foldConstants, ih, foldUnary_rename]
  | binary op left right leftSame rightSame =>
    rw [rename, foldConstants, foldConstants, leftSame, rightSame, foldBinary_rename]
  | ternary condition yes no conditionSame yesSame noSame =>
    simp only [rename, foldConstants, conditionSame, yesSame, noSame]
  | call name arguments ih =>
    simp only [rename, foldConstants, eq_map_of_cons foldItems rfl fun _ _ => rfl]
    rw [map_renameItems ih]

/-- The branch chosen by a renamed condition is the one chosen by the condition. -/
theorem chooseBranch_rename (condition yes no : Expr) :
    chooseBranch (condition.rename image) (yes.rename image) (no.rename image) =
      (chooseBranch condition yes no).rename image := by
  unfold chooseBranch
  rw [literalTruth_rename]
  split <;> rfl

/-- Dropping dead branches and renaming change places. -/
theorem dropDeadBranches_rename (expr : Expr) :
    (expr.rename image).dropDeadBranches = expr.dropDeadBranches.rename image := by
  induction expr with
  | null | bool | int | float | string | ident => rfl
  | list items ih =>
    simp only [rename, dropDeadBranches, eq_map_of_cons dropDeadItems rfl fun _ _ => rfl]
    rw [map_renameItems ih]
  | map entries ih =>
    simp only [rename, dropDeadBranches, eq_map_of_cons dropDeadEntries rfl fun _ _ => rfl]
    rw [map_renameEntries ih]
  | field base name ih => simp only [rename, dropDeadBranches, ih]
  | index base key baseSame keySame => simp only [rename, dropDeadBranches, baseSame, keySame]
  | unary op operand ih => simp only [rename, dropDeadBranches, ih]
  | binary op left right leftSame rightSame =>
    simp only [rename, dropDeadBranches, leftSame, rightSame]
  | ternary condition yes no conditionSame yesSame noSame =>
    rw [rename, dropDeadBranches, dropDeadBranches, conditionSame, yesSame, noSame,
      chooseBranch_rename]
  | call name arguments ih =>
    simp only [rename, dropDeadBranches, eq_map_of_cons dropDeadItems rfl fun _ _ => rfl]
    rw [map_renameItems ih]

/-- A negation is dropped below a renamed one as below the negation. -/
theorem negated_rename (boolean : Bool) (operand : Expr) :
    negated boolean (operand.rename image) = (negated boolean operand).rename image := by
  cases boolean with
  | false => rfl
  | true =>
    cases operand with
    | unary op inner => cases op <;> rfl
    | _ => rfl

/-- Dropping double negations and renaming change places. -/
theorem dropDoubleNegation_rename (boolean : Bool) (expr : Expr) :
    (expr.rename image).dropDoubleNegation boolean =
      (expr.dropDoubleNegation boolean).rename image := by
  induction expr generalizing boolean with
  | null | bool | int | float | string | ident => rfl
  | list items ih =>
    simp only [rename, dropDoubleNegation, eq_map_of_cons dropNegatedItems rfl fun _ _ => rfl]
    rw [map_renameItems fun item inside => ih item inside false]
  | map entries ih =>
    simp only [rename, dropDoubleNegation, eq_map_of_cons dropNegatedEntries rfl fun _ _ => rfl]
    rw [map_renameEntries fun entry inside => ih entry inside false]
  | field base name ih => simp only [rename, dropDoubleNegation, ih]
  | index base key baseSame keySame => simp only [rename, dropDoubleNegation, baseSame, keySame]
  | unary op operand ih =>
    cases op with
    | neg => simp only [rename, dropDoubleNegation, ih]
    | not => rw [rename, dropDoubleNegation, dropDoubleNegation, ih, negated_rename]
  | binary op left right leftSame rightSame =>
    cases op <;> simp only [rename, dropDoubleNegation, leftSame, rightSame]
  | ternary condition yes no conditionSame yesSame noSame =>
    simp only [rename, dropDoubleNegation, conditionSame, yesSame, noSame]
  | call name arguments ih =>
    simp only [rename, dropDoubleNegation, eq_map_of_cons dropNegatedItems rfl fun _ _ => rfl]
    rw [map_renameItems fun argument inside => ih argument inside false]

/-- Simplifying and renaming change places, whatever the new names are. -/
theorem simplify_rename (image : String → String) (expr : Expr) :
    (expr.rename image).simplify = expr.simplify.rename image := by
  unfold simplify
  rw [foldConstants_rename, dropDeadBranches_rename, dropDoubleNegation_rename]

end Expr

/-! ## Renaming and evaluating -/

namespace Eval

/-- Under a new name for the record the parameter means the record still, and every other name what
it meant, unless it is the new name. -/
theorem resolve_replacing {record : Value} {param other name : String} (apart : name ≠ other) :
    Context.resolve ⟨record, other⟩ (Expr.replacing param other name) =
      Context.resolve ⟨record, param⟩ name := by
  by_cases parameter : name = param
  · have stands : Expr.replacing param other name = other := if_pos parameter
    have new : Context.resolve ⟨record, other⟩ other = .ok record := if_pos (beq_self_eq_true other)
    have old : Context.resolve ⟨record, param⟩ name = .ok record :=
      if_pos (beq_iff_eq.mpr parameter)
    rw [stands, new, old]
  · have stays : Expr.replacing param other name = name := if_neg parameter
    rw [stays]
    simp only [Context.resolve, beq_iff_eq, apart, parameter, if_false]

section Meaning

variable [Regex.Matcher] [Value.Enumeration]

/-- A renamed expression has the value or the failure of the expression, when every name that occurs
in it means afterwards what it meant before. -/
theorem eval_rename {context other : Context} {image : String → String} {expr : Expr}
    (same : ∀ name, (Expr.ident name).Within expr →
      other.resolve (image name) = context.resolve name) :
    eval other (expr.rename image) = eval context expr := by
  induction expr with
  | null | bool | int | float | string => rfl
  | ident name => exact same name (.refl _)
  | list items ih =>
    have values := evalItems_map fun item member =>
      ih item member fun name inside => same name (.deeper member inside)
    rw [Expr.rename, Expr.renameItems_eq, eval, eval, values]
  | map entries ih =>
    have values := evalEntries_map fun entry member => ih entry member fun name inside =>
      same name (.deeper (List.mem_map_of_mem member) inside)
    rw [Expr.rename, Expr.renameEntries_eq, eval, eval, values]
  | field base name ih =>
    have value := ih fun name inside => same name (.deeper (.head _) inside)
    rw [Expr.rename, eval, eval, value]
  | index base key baseSame keySame =>
    have first := baseSame fun name inside => same name (.deeper (.head _) inside)
    have second := keySame fun name inside => same name (.deeper (.tail _ (.head _)) inside)
    rw [Expr.rename, eval, eval, first, second]
  | unary op operand ih =>
    have value := ih fun name inside => same name (.deeper (.head _) inside)
    rw [Expr.rename, eval, eval, value]
  | binary op left right leftSame rightSame =>
    have first := leftSame fun name inside => same name (.deeper (.head _) inside)
    have second := rightSame fun name inside => same name (.deeper (.tail _ (.head _)) inside)
    exact eval_binary_congr op first second
  | ternary condition yes no conditionSame yesSame noSame =>
    have first := conditionSame fun name inside => same name (.deeper (.head _) inside)
    have second := yesSame fun name inside => same name (.deeper (.tail _ (.head _)) inside)
    have third := noSame fun name inside =>
      same name (.deeper (.tail _ (.tail _ (.head _))) inside)
    rw [Expr.rename, eval, eval, first, second, third]
  | call name arguments ih =>
    have values := evalItems_map fun argument member =>
      ih argument member fun name inside => same name (.deeper member inside)
    rw [Expr.rename, Expr.renameItems_eq, eval, eval, values]

/-- The name of the parameter does not matter. Take any name that an expression does not use, and
write it wherever the expression names the parameter, but not for fields, functions and keys: with
the new name for the record the expression has the value or the failure that it had, also when the
record has keys of either name, and it is simplified to what it was simplified to, with the new
name. -/
theorem rename_parameter (record : Value) (param : String) {other : String} {expr : Expr}
    (fresh : ¬ (Expr.ident other).Within expr) :
    eval ⟨record, other⟩ (expr.rename (Expr.replacing param other)) = eval ⟨record, param⟩ expr ∧
      (expr.rename (Expr.replacing param other)).simplify =
        expr.simplify.rename (Expr.replacing param other) := by
  constructor
  · apply eval_rename
    intro name inside
    have apart : name ≠ other := by
      rintro rfl
      exact fresh inside
    exact resolve_replacing apart
  · exact Expr.simplify_rename _ expr

end Meaning

/-- The parameter is renamed over a record that has keys of its old and its new name. A field of the
new name stays, and so does a conjunction with a literal that only simplifying drops. -/
theorem rename_parameter_shadowing :
    let record : Value := .map [("row", .int 1), ("item", .int 3), ("size", .int 3)]
    let compared (name : String) : Expr := .binary .eq (.field (.ident name) "item") (.ident "size")
    let expr (name : String) : Expr := .binary .and (.bool true) (compared name)
    ¬ (Expr.ident "item").Within (expr "row") ∧
      (expr "row").rename (Expr.replacing "row" "item") = expr "item" ∧
      eval ⟨record, "item"⟩ (expr "item") = eval ⟨record, "row"⟩ (expr "row") ∧
      eval ⟨record, "row"⟩ (expr "row") = .ok (.bool true) ∧
      (expr "item").simplify = compared "item" := by
  intro record compared expr
  have fresh : ¬ (Expr.ident "item").Within (expr "row") := by
    intro inside
    simp [expr, compared, @Expr.within_iff _ (.binary _ _ _), @Expr.within_iff _ (.bool _),
      @Expr.within_iff _ (.field _ _), @Expr.within_iff _ (.ident _), Expr.children] at inside
  have renamed : (expr "row").rename (Expr.replacing "row" "item") = expr "item" := rfl
  obtain ⟨value, simplified⟩ := rename_parameter record "row" fresh
  rw [renamed] at value simplified
  exact ⟨fresh, renamed, value, rfl, simplified⟩

end Eval

end DecisionFlow
