import DecisionFlow.Proofs.Expr.Growth
import DecisionFlow.Proofs.Source.Printing
import DecisionFlow.Proofs.Source.Trees

/-!
# The depth of compiled predicates

The limit of depth is on the tree that is read, and simplifying comes after it. A coercion whose
value counts stands between brackets or in a branch of a conditional, so there are no more of them
on a path than the source may nest, and a compiled tree is deeper than the tree that was read by
no more than that (`depth_compile`). It can be past the limit (`depth_compile_past`).
-/
namespace DecisionFlow

open DecisionFlow.Expr

/-- A literal has no coercions. -/
theorem Expr.coercions_of_isConstant {expr : Expr} (constant : expr.isConstant = true)
    (boolean : Bool) : expr.coercions boolean = 0 := by
  cases expr with
  | null | bool | int | float | string => rfl
  | _ => contradiction

namespace Source

/-- What is read within a budget has fewer coercions on a path than the budget where its truth
counts, and no more where its value counts. -/
structure CoercedWithin (budget : Nat) (expr : Expr) : Prop where
  /-- There are fewer where the truth counts. -/
  truth : expr.coercions true < budget
  /-- There are no more where the value counts. -/
  value : expr.coercions false ≤ budget

/-- Each budget of nested expressions allows one more coercion. -/
theorem builds_coercedWithin (budget : Nat) :
    Builds (CoercedWithin budget) (fun expr => ∀ boolean, expr.coercions boolean ≤ budget)
      (CoercedWithin (budget + 1)) where
  literal read boolean := by
    rw [coercions_of_isConstant (isConstant_readLiteral read)]
    exact Nat.zero_le budget
  ident _ _ _ := Nat.zero_le budget
  nested within boolean := by
    cases boolean with
    | true => exact Nat.le_of_lt within.truth
    | false => exact within.value
  list each _ := itemsCoercions_le.mpr fun item listed => each item listed false
  map {entries} each _ := by
    rw [coercions, entriesCoercions_eq]
    exact itemsCoercions_le.mpr (List.forall_mem_map.mpr fun entry listed =>
      each entry listed false)
  call _ each _ := itemsCoercions_le.mpr fun argument listed => each argument listed false
  field _ within _ := within false
  index base key _ := Nat.max_le.mpr ⟨base false, key false⟩
  unary {op expr} within _ := by
    cases op with
    | not => exact within true
    | neg => exact within false
  binary {op left right} and or first second _ := by
    have stays : leavesRight op left.foldConstants = false := by
      cases op <;> first | rfl | contradiction
    rw [coercions, stays, if_neg Bool.false_ne_true]
    exact Nat.max_le.mpr ⟨first _, second _⟩
  single within := ⟨Nat.lt_succ_of_le (within true), Nat.le_succ_of_le (within false)⟩
  logical {op left right} logical first second := by
    have truths : op.isLogical = true := by rcases logical with rfl | rfl <;> rfl
    have lefts := first.truth
    have rights := second.truth
    constructor
    · simp only [coercions, truths, ↓reduceIte]
      split <;> omega
    · simp only [coercions, truths, Bool.false_eq_true, ↓reduceIte]
      split <;> omega
  ternary condition yes no := by
    have conditions := condition.truth
    have truths := Nat.max_le.mpr ⟨Nat.le_of_lt yes.truth, Nat.le_of_lt no.truth⟩
    have values := Nat.max_le.mpr ⟨yes.value, no.value⟩
    constructor
    · rw [coercions]
      omega
    · rw [coercions]
      omega

/-- An allowed source is read with one expression more inside each other than it nests. -/
theorem unbounded_eq_expression {body : List Char} (allowed : nestingAllowed body = true) :
    unbounded body = expression (nestingLimit + 1) body := by
  have stands : ScannedAt nestingLimit (0, 0) body := ⟨0, Nat.le_refl _, Nat.zero_le _, allowed⟩
  rw [eq_iterate_of_fixed unbounded_eq (nestingLimit + 1), expression_add (nestingLimit + 1) 0]
  exact (nested_alike (scanned_frames nestingLimit) unbounded (expression 0) _ (0, 0)
    (Nat.lt_succ_self _) body stands).eq

/-- On a path of a parsed tree there are no more coercions than a source may nest. -/
theorem coercions_parse {source : String} {expr : Expr} (parsed : parse source = .ok expr) :
    expr.coercions true ≤ nestingLimit := by
  obtain ⟨allowed, _, rest, read, _⟩ := parse_eq_ok parsed
  rw [unbounded_eq_expression allowed] at read
  have within := expression_yields builds_coercedWithin (nestingLimit + 1) _ expr rest read
  exact Nat.le_of_lt_succ within.truth

end Source

/-- A compiled tree is within the limit of depth unless it is simplified. Simplified, it is deeper
than the tree that was read by no more than the coercions on a path there, and these are no more
than a source may nest. -/
theorem Compiler.depth_compile {compiler : Compiler} {source : String} {expr : Expr}
    (compiled : compiler.compile source = .ok expr) :
    ∃ parsed, Source.parse source = .ok parsed ∧ parsed.depth ≤ depthLimit ∧
      parsed.coercions true ≤ Source.nestingLimit ∧
      expr.depth ≤ parsed.depth + (if compiler.simplifies then parsed.coercions true else 0) := by
  unfold compile at compiled
  split at compiled
  · contradiction
  · rename_i parsed read
    have height : parsed.height ≤ parsed.depth := depth_le_iff.mp (Nat.le_refl _)
    have shallow := (Source.parse_eq_ok read).2.1
    refine ⟨parsed, read, shallow, Source.coercions_parse read, depth_le_iff.mpr ?_⟩
    split at compiled
    · cases compiled
      have positive := one_le_height parsed
      change 1 ≤ _
      omega
    · split at compiled
      · rename_i simplifies
        cases compiled
        rw [if_pos simplifies]
        exact Nat.le_trans (height_simplify_le parsed) (Nat.add_le_add_right height _)
      · cases compiled
        exact Nat.le_add_right_of_le height

/-- A name after some minus signs. -/
def signed (signs : Nat) : Expr := Nat.repeat (.unary .neg) signs (.ident "x")

/-- The comparison of a conjunction, which is a literal and a name after some minus signs. -/
def comparison (signs : Nat) : Expr :=
  .binary .eq (.binary .and (.bool true) (signed signs)) (.int 1)

/-- The comparison is printable. -/
theorem printable_comparison (signs : Nat) : (comparison signs).Printable := by
  have operand : (signed signs).Printable := by
    induction signs with
    | zero => exact .ident (by decide) (by decide)
    | succ signs ih => exact .unary .neg ih
  exact .binary (by decide) (.binary (by decide) (.bool true) operand) (.int (by decide))

/-- The comparison is parsed from its text, within the limits. -/
theorem parse_comparison {signs : Nat} {text : List Char} (same : (comparison signs).toText = text)
    (allowed : Source.nestingAllowed text = true)
    (shallow : (comparison signs).height ≤ depthLimit) :
    Source.parse (String.ofList text) = .ok (comparison signs) :=
  Source.parse_of_printable (printable_comparison signs) same allowed (depth_le_iff.mpr shallow)

/-- A conjunction whose value counts becomes a double negation: the tree gets one deeper. -/
theorem Compiler.depth_compile_coerced :
    let source := String.ofList "((true && -x) == 1)".toList
    let expr : Expr := .binary .eq (.unary .not (.unary .not (.unary .neg (.ident "x")))) (.int 1)
    ({} : Compiler).compile source = .ok expr ∧
      ∃ parsed, Source.parse source = .ok parsed ∧ parsed.depth ≤ depthLimit ∧
        parsed.coercions true ≤ Source.nestingLimit ∧
        expr.depth ≤ parsed.depth + parsed.coercions true := by
  intro source expr
  have text : (comparison 1).toText = "((true && -x) == 1)".toList := by decide +kernel
  have read : Source.parse source = .ok (comparison 1) :=
    parse_comparison text (by decide +kernel) (by decide +kernel)
  have compiled : ({} : Compiler).compile source = .ok expr := by
    rw [compile, read]
    rfl
  exact ⟨compiled, depth_compile compiled⟩

/-- With 125 minus signs the comparison is parsed to a tree at the limit of depth, and compiled to
one past it. -/
theorem Compiler.depth_compile_past :
    let source := String.ofList
      ("((true && ".toList ++ List.replicate 125 '-' ++ "x) == 1)".toList)
    ∃ expr, ({} : Compiler).compile source = .ok expr ∧ depthLimit < expr.depth := by
  intro source
  have text : (comparison 125).toText =
      "((true && ".toList ++ List.replicate 125 '-' ++ "x) == 1)".toList := by decide +kernel
  have read : Source.parse source = .ok (comparison 125) :=
    parse_comparison text (by decide +kernel) (by decide +kernel)
  have compiled : ({} : Compiler).compile source = .ok (comparison 125).simplify := by
    rw [compile, read]
    rfl
  have deep : ¬(comparison 125).simplify.height ≤ depthLimit := by decide +kernel
  exact ⟨_, compiled, Nat.lt_of_not_le fun shallow => deep (depth_le_iff.mp shallow)⟩

end DecisionFlow
