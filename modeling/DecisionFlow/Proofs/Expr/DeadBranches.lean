import DecisionFlow.Proofs.Expr.Negations

/-!
# Conditionals on literals after simplifying

The pass that drops dead branches leaves no conditional on a literal (`live_dropDeadBranches`). The
pass after it drops pairs of negations, and where such pairs stood between a conditional and a
literal there is a conditional on a literal again. This is the only way for one to be left
(`simplify_conditionals`). No negation of a literal comes out of the folding, so the literal was a
branch of a conditional that was dropped, and the negation, conjunction or disjunction over it was
there before simplifying. There are such predicates (`simplify_conditionals_kept`).
-/
namespace DecisionFlow.Expr

/-- Whether an expression is a conditional. -/
def isTernary : Expr → Bool
  | .ternary _ _ _ => true
  | _ => false

/-- A condition that is asked somewhere in an expression. -/
def Asks (condition expr : Expr) : Prop := ∃ yes no, (ternary condition yes no).Within expr

/-- A negation of a conditional, or a conjunction or disjunction whose right operand is one. -/
def TestsConditional : Expr → Prop
  | .unary .not operand => operand.isTernary = true
  | .binary op _ right => op.isLogical = true ∧ right.isTernary = true
  | _ => False

/-- An expression under a number of negations. -/
def underNegations : Nat → Expr → Expr
  | 0, expr => expr
  | count + 1, expr => .unary .not (underNegations count expr)

variable {node condition expr operand literal : Expr}

/-- Literals are the expressions whose truth is known. -/
theorem isSome_literalTruth (expr : Expr) : expr.literalTruth.isSome = expr.isConstant := by
  cases expr <;> rfl

/-- An expression whose truth is not known is no literal. -/
theorem isConstant_of_literalTruth (unknown : expr.literalTruth = none) :
    expr.isConstant = false := by
  rw [← isSome_literalTruth, unknown]
  rfl

/-- What is within a prefix operator is the operator or within its operand. -/
theorem within_unary {op : UnaryOp} :
    node.Within (.unary op operand) ↔ node = .unary op operand ∨ node.Within operand := by
  rw [within_iff]
  simp [children]

/-- An expression asks a condition itself, or an immediate subtree does. -/
theorem asks_iff :
    Asks condition expr ↔
      (∃ yes no, expr = .ternary condition yes no) ∨
        ∃ child ∈ expr.children, Asks condition child := by
  constructor
  · rintro ⟨yes, no, inside⟩
    rcases within_iff.mp inside with same | ⟨child, member, inside⟩
    · exact .inl ⟨yes, no, same.symm⟩
    · exact .inr ⟨child, member, yes, no, inside⟩
  · rintro (⟨yes, no, rfl⟩ | ⟨child, member, yes, no, inside⟩)
    · exact ⟨yes, no, .refl _⟩
    · exact ⟨yes, no, .deeper member inside⟩

/-- A negation asks what its operand asks. -/
theorem asks_negation : Asks condition (.unary .not operand) ↔ Asks condition operand := by
  rw [asks_iff]
  simp [children]

/-! ## Dropping dead branches -/

/-- Whether the pass keeps the root of an expression: that of anything but a conditional whose
condition becomes a literal. -/
def keepsRoot : Expr → Bool
  | .ternary condition _ _ => !(dropDeadBranches condition).isConstant
  | _ => true

/-- A root that is kept has the subtrees that the pass makes of its own. -/
theorem children_dropDeadBranches (kept : expr.keepsRoot = true) :
    (dropDeadBranches expr).children = expr.children.map dropDeadBranches := by
  cases expr with
  | null | bool | int | float | string | ident | field | index | unary | binary => rfl
  | ternary condition yes no =>
    have unknown : (dropDeadBranches condition).literalTruth = none := by
      rw [← Option.isNone_iff_eq_none, ← Option.not_isSome, isSome_literalTruth]
      exact kept
    simp only [dropDeadBranches, chooseBranch, unknown, children, List.map_cons, List.map_nil]
  | list items | call name items =>
    simp only [dropDeadBranches, children, eq_map_of_cons dropDeadItems rfl fun _ _ => rfl]
  | map entries =>
    simp only [dropDeadBranches, children, eq_map_of_cons dropDeadEntries rfl fun _ _ => rfl,
      List.map_map, Function.comp_def]

/-- Where the root is not kept a branch takes its place. -/
theorem dropDeadBranches_of_not_keepsRoot (dropped : expr.keepsRoot = false) :
    ∃ branch ∈ expr.children, dropDeadBranches expr = dropDeadBranches branch := by
  cases expr with
  | ternary condition yes no =>
    rw [keepsRoot, Bool.not_eq_false', ← isSome_literalTruth, Option.isSome_iff_exists] at dropped
    obtain ⟨truth, known⟩ := dropped
    cases truth with
    | true => exact ⟨yes, .tail _ (.head _), by rw [dropDeadBranches, chooseBranch, known]⟩
    | false =>
      exact ⟨no, .tail _ (.tail _ (.head _)), by rw [dropDeadBranches, chooseBranch, known]⟩
  | _ => contradiction

/-- Every node that the pass leaves is what it makes of a root that it keeps. -/
theorem exists_keepsRoot_of_within (expr : Expr) (inside : node.Within (dropDeadBranches expr)) :
    ∃ before : Expr, before.Within expr ∧ before.keepsRoot = true ∧
      dropDeadBranches before = node := by
  induction expr using induct_children with
  | step expr ih =>
    have below : ∀ child ∈ expr.children, node.Within (dropDeadBranches child) →
        ∃ before : Expr, before.Within expr ∧ before.keepsRoot = true ∧
          dropDeadBranches before = node := by
      intro child member inside
      obtain ⟨before, found, kept, same⟩ := ih child member inside
      exact ⟨before, .deeper member found, kept, same⟩
    cases kept : expr.keepsRoot with
    | true =>
      rcases within_iff.mp inside with same | ⟨child, member, inside⟩
      · exact ⟨expr, .refl expr, kept, same.symm⟩
      · rw [children_dropDeadBranches kept] at member
        obtain ⟨before, listed, rfl⟩ := List.mem_map.mp member
        exact below before listed inside
    | false =>
      obtain ⟨branch, member, same⟩ := dropDeadBranches_of_not_keepsRoot kept
      exact below branch member (same ▸ inside)

/-- After the pass no condition is a literal. -/
theorem live_dropDeadBranches (asks : Asks condition (dropDeadBranches expr)) :
    condition.isConstant = false := by
  obtain ⟨yes, no, inside⟩ := asks
  obtain ⟨before, _, kept, same⟩ := exists_keepsRoot_of_within expr inside
  cases before with
  | ternary first second third =>
    have roots := children_dropDeadBranches kept
    rw [same] at roots
    have conditions : condition = dropDeadBranches first := (List.cons.inj roots).1
    rw [conditions]
    simpa only [keepsRoot, Bool.not_eq_true'] using kept
  | _ => contradiction

/-- A negation of a literal that the pass leaves was the negation of a literal or of a conditional
before. -/
theorem negation_of_dropDeadBranches (constant : literal.isConstant = true)
    (inside : (unary .not literal).Within (dropDeadBranches expr)) :
    ∃ before, (unary .not before).Within expr ∧
      (before.isConstant = true ∨ before.isTernary = true) := by
  obtain ⟨root, found, kept, same⟩ := exists_keepsRoot_of_within expr inside
  cases root with
  | unary op before =>
    obtain ⟨rfl, rfl⟩ := unary.inj same
    refine ⟨before, found, ?_⟩
    cases before with
    | null | bool | int | float | string => exact .inl rfl
    | ternary => exact .inr rfl
    | _ => contradiction
  | ternary =>
    have roots := children_dropDeadBranches kept
    rw [same] at roots
    cases roots
  | _ => contradiction

/-! ## Folding literals -/

/-- Folding makes conditionals of conditionals only. -/
theorem isTernary_foldConstants (conditional : expr.foldConstants.isTernary = true) :
    expr.isTernary = true := by
  cases expr with
  | ternary => rfl
  | unary op operand =>
    simp only [foldConstants] at conditional
    unfold foldUnary at conditional
    split at conditional
    case h_4 => split at conditional <;> contradiction
    all_goals contradiction
  | binary op left right =>
    rw [foldConstants] at conditional
    rcases foldBinary_cases op left.foldConstants right.foldConstants with
      constant | ⟨_, same⟩ | ⟨_, same⟩
    · cases folded : foldBinary op left.foldConstants right.foldConstants <;>
        rw [folded] at constant conditional <;> contradiction
    · rw [same] at conditional
      unfold coerced at conditional
      split at conditional <;> contradiction
    · rw [same] at conditional
      contradiction
  | _ => contradiction

/-- Whether an expression is an operator with its operands. -/
def isOperation : Expr → Bool
  | .unary _ _ | .binary _ _ _ => true
  | _ => false

/-- Folding goes into every immediate subtree of an expression that is no operator. -/
theorem children_foldConstants (other : expr.isOperation = false) :
    expr.foldConstants.children = expr.children.map foldConstants := by
  cases expr with
  | null | bool | int | float | string | ident | field | index | ternary => rfl
  | unary | binary => contradiction
  | list items | call name items =>
    simp only [foldConstants, children, eq_map_of_cons foldItems rfl fun _ _ => rfl]
  | map entries =>
    simp only [foldConstants, children, eq_map_of_cons foldEntries rfl fun _ _ => rfl,
      List.map_map, Function.comp_def]

/-- No negation is within a literal. -/
theorem not_within_constant (constant : expr.isConstant = true) :
    ¬ (unary .not operand).Within expr := by
  intro inside
  rw [← eq_of_within_constant constant inside] at constant
  contradiction

/-- A negation in the coercion of an expression is part of the coercion or within the expression. -/
theorem negation_of_coerced (inside : (unary .not operand).Within expr.coerced) :
    (expr.isConstant = false ∧ (operand = expr ∨ operand = .unary .not expr)) ∨
      (unary .not operand).Within expr := by
  unfold coerced at inside
  split at inside
  · exact absurd inside (not_within_constant rfl)
  · have unknown := isConstant_of_literalTruth ‹_›
    rcases within_unary.mp inside with same | inside
    · exact .inl ⟨unknown, .inr (unary.inj same).2⟩
    · rcases within_unary.mp inside with same | inside
      · exact .inl ⟨unknown, .inl (unary.inj same).2⟩
      · exact .inr inside

/-- A negation that is left by folding a prefix operator is the operator or within the operand. -/
theorem negation_of_foldUnary {op : UnaryOp}
    (inside : (unary .not operand).Within (foldUnary op expr)) :
    (op = .not ∧ operand = expr ∧ expr.isConstant = false) ∨ (unary .not operand).Within expr := by
  cases op with
  | neg =>
    unfold foldUnary at inside
    split at inside
    · exact absurd inside (not_within_constant rfl)
    · exact absurd inside (not_within_constant rfl)
    · rcases within_unary.mp inside with same | inside
      · cases same
      · exact .inr inside
    · contradiction
  | not =>
    simp only [foldUnary] at inside
    split at inside
    · exact absurd inside (not_within_constant rfl)
    · rcases within_unary.mp inside with same | inside
      · exact .inl ⟨rfl, (unary.inj same).2, isConstant_of_literalTruth ‹_›⟩
      · exact .inr inside

/-- Folding leaves no negation of a literal, and a negation of a conditional only where a
conditional was negated, or was the right operand of a conjunction or disjunction. -/
theorem negation_of_foldConstants (expr : Expr)
    (inside : (unary .not operand).Within expr.foldConstants) :
    operand.isConstant = false ∧
      (operand.isTernary = true → ∃ node : Expr, node.Within expr ∧ node.TestsConditional) := by
  induction expr using induct_children with
  | step expr ih =>
    have below : ∀ child ∈ expr.children, (unary .not operand).Within child.foldConstants →
        operand.isConstant = false ∧
          (operand.isTernary = true → ∃ node : Expr, node.Within expr ∧ node.TestsConditional) := by
      intro child member inside
      obtain ⟨live, conditional⟩ := ih child member inside
      refine ⟨live, fun ternary => ?_⟩
      obtain ⟨node, found, tests⟩ := conditional ternary
      exact ⟨node, .deeper member found, tests⟩
    cases operation : expr.isOperation with
    | false =>
      rcases within_iff.mp inside with same | ⟨child, member, inside⟩
      · cases expr <;> contradiction
      · rw [children_foldConstants operation] at member
        obtain ⟨before, listed, rfl⟩ := List.mem_map.mp member
        exact below before listed inside
    | true =>
      cases expr with
      | unary op inner =>
        rcases negation_of_foldUnary inside with ⟨rfl, rfl, live⟩ | deeper
        · exact ⟨live, fun ternary =>
            ⟨_, .refl (.unary .not inner), isTernary_foldConstants ternary⟩⟩
        · exact below inner (.head _) deeper
      | binary op left right =>
        have inRight := below right (.tail _ (.head _))
        rw [foldConstants] at inside
        rcases foldBinary_cases op left.foldConstants right.foldConstants with
          constant | ⟨leaves, same⟩ | ⟨_, same⟩
        · exact absurd inside (not_within_constant constant)
        · rw [same] at inside
          have logical : op.isLogical = true := by
            cases op <;> first | rfl | contradiction
          rcases negation_of_coerced inside with ⟨live, rfl | rfl⟩ | deeper
          · exact ⟨live, fun ternary => ⟨_, .refl (.binary op left right), logical,
              isTernary_foldConstants ternary⟩⟩
          · exact ⟨rfl, fun ternary => by cases ternary⟩
          · exact inRight deeper
        · rw [same] at inside
          rcases within_iff.mp inside with same | ⟨child, member, inside⟩
          · cases same
          · simp only [children, List.mem_cons, List.not_mem_nil, or_false] at member
            rcases member with rfl | rfl
            · exact below left (.head _) inside
            · exact inRight inside
      | _ => contradiction

/-! ## Dropping double negations -/

/-- What a negation asks it asks also where it is dropped together with the one below it. -/
theorem asks_negated (boolean : Bool) :
    Asks condition (negated boolean operand) ↔ Asks condition operand := by
  unfold negated
  split
  · exact asks_negation.symm
  · exact asks_negation

/-- Dropping double negations changes the conditions that an expression asks, and asks no other
ones. -/
theorem asks_dropDoubleNegation (boolean : Bool) :
    Asks condition (expr.dropDoubleNegation boolean) ↔
      ∃ before, Asks before expr ∧ before.dropDoubleNegation true = condition := by
  induction expr using induct_children generalizing boolean with
  | step expr ih =>
    by_cases negation : ∃ operand, expr = .unary .not operand
    · obtain ⟨operand, rfl⟩ := negation
      simp only [dropDoubleNegation, asks_negated, asks_negation]
      exact ih operand (.head _) true
    · have other : ∀ operand, expr ≠ .unary .not operand := fun operand same =>
        negation ⟨operand, same⟩
      have subtrees : (expr.dropDoubleNegation boolean).children =
          (expr.places boolean).map fun child => child.2.dropDoubleNegation child.1 := by
        rw [← places_children boolean, places_dropDoubleNegation boolean other, List.map_map]
        rfl
      constructor
      · intro asks
        rcases asks_iff.mp asks with ⟨yes, no, same⟩ | ⟨child, member, inside⟩
        · cases expr with
          | ternary first second third =>
            exact ⟨first, ⟨second, third, .refl _⟩, (ternary.inj same).1⟩
          | unary op operand =>
            cases op with
            | not => exact absurd rfl (other operand)
            | neg => contradiction
          | binary op left right => cases op <;> contradiction
          | _ => contradiction
        · rw [subtrees] at member
          obtain ⟨child, listed, rfl⟩ := List.mem_map.mp member
          have within : child.2 ∈ expr.children :=
            places_children boolean expr ▸ List.mem_map_of_mem listed
          obtain ⟨before, asked, same⟩ := (ih child.2 within child.1).mp inside
          exact ⟨before, asks_iff.mpr (.inr ⟨child.2, within, asked⟩), same⟩
      · rintro ⟨before, asks, rfl⟩
        rcases asks_iff.mp asks with ⟨yes, no, rfl⟩ | ⟨child, member, inside⟩
        · exact asks_iff.mpr (.inl ⟨_, _, rfl⟩)
        · obtain ⟨placed, listed, rfl⟩ := List.mem_map.mp
            ((places_children boolean expr).symm ▸ member)
          refine asks_iff.mpr (.inr ⟨_, subtrees ▸ List.mem_map_of_mem listed, ?_⟩)
          exact (ih placed.2 member placed.1).mpr ⟨before, inside, rfl⟩

/-- Dropping double negations takes an even number of negations off a literal, and leaves one of an
odd number. -/
theorem dropDoubleNegation_underNegations (constant : literal.isConstant = true) (count : Nat) :
    (underNegations (2 * count) literal).dropDoubleNegation true = literal ∧
      (underNegations (2 * count + 1) literal).dropDoubleNegation true = .unary .not literal := by
  have single : ∀ {expr : Expr}, expr.dropDoubleNegation true = literal →
      (unary .not expr).dropDoubleNegation true = .unary .not literal := by
    intro expr same
    rw [dropDoubleNegation, same]
    cases literal with
    | null | bool | int | float | string => rfl
    | _ => contradiction
  induction count with
  | zero =>
    have bare : literal.dropDoubleNegation true = literal := by
      cases literal with
      | null | bool | int | float | string => rfl
      | _ => contradiction
    exact ⟨bare, single bare⟩
  | succ count ih =>
    have pair : (underNegations (2 * (count + 1)) literal).dropDoubleNegation true = literal := by
      rw [Nat.mul_succ, underNegations, dropDoubleNegation, ih.2]
      rfl
    exact ⟨pair, single pair⟩

/-- What becomes a literal when double negations are dropped is the literal under an even number of
negations, and what becomes its negation is the literal under an odd number of them. -/
theorem exists_underNegations (constant : literal.isConstant = true) (expr : Expr) :
    (expr.dropDoubleNegation true = literal → ∃ count, expr = underNegations (2 * count) literal) ∧
      (expr.dropDoubleNegation true = .unary .not literal →
        ∃ count, expr = underNegations (2 * count + 1) literal) := by
  induction expr using induct_children with
  | step expr ih =>
    by_cases negation : ∃ operand, expr = .unary .not operand
    · obtain ⟨operand, rfl⟩ := negation
      obtain ⟨even, odd⟩ := ih operand (.head _)
      have reduced := reduced_dropDoubleNegation operand true
      rw [dropDoubleNegation]
      generalize operand.dropDoubleNegation true = inner at even odd reduced
      unfold negated
      split
      · rename_i inner
        constructor
        · rintro rfl
          obtain ⟨count, rfl⟩ := odd rfl
          exact ⟨count + 1, rfl⟩
        · rintro rfl
          exact absurd (.refl true _) (reduced _)
      · constructor
        · rintro rfl
          contradiction
        · intro same
          obtain ⟨count, rfl⟩ := even (unary.inj same).2
          exact ⟨count, rfl⟩
    · have other : ∀ operand, expr ≠ .unary .not operand := fun operand same =>
        negation ⟨operand, same⟩
      constructor
      · rintro rfl
        refine ⟨0, ?_⟩
        cases expr with
        | null | bool | int | float | string => rfl
        | unary op operand =>
          cases op with
          | not => exact absurd rfl (other operand)
          | neg => contradiction
        | binary op left right => cases op <;> contradiction
        | _ => contradiction
      · intro same
        exact absurd same (dropDoubleNegation_ne_negation true other literal)

/-- A literal under negations holds its own negation. -/
theorem negation_within_underNegations (count : Nat) :
    (unary .not literal).Within (underNegations (count + 1) literal) := by
  induction count with
  | zero => exact .refl _
  | succ count ih => exact .deeper (.head _) ih

/-! ## Simplifying -/

/-- The pass that drops dead branches leaves no conditional on a literal in any tree. Simplifying
leaves one exactly where dropping dead branches leaves a conditional on a literal under an even
number of negations, which are two at least. So it leaves one only if in the expression itself a
conditional is negated, or is the right operand of a conjunction or disjunction. -/
theorem simplify_conditionals (expr : Expr) :
    (∀ condition, Asks condition (dropDeadBranches expr) → condition.isConstant = false) ∧
      (∀ literal : Expr, literal.isConstant = true →
        (Asks literal expr.simplify ↔
          ∃ count, Asks (underNegations (2 * count + 2) literal)
            (dropDeadBranches (foldConstants expr)))) ∧
      ((∃ literal : Expr, literal.isConstant = true ∧ Asks literal expr.simplify) →
        ∃ node : Expr, node.Within expr ∧ node.TestsConditional) := by
  have left : ∀ literal : Expr, literal.isConstant = true → Asks literal expr.simplify →
      ∃ count, Asks (underNegations (2 * count + 2) literal)
        (dropDeadBranches (foldConstants expr)) := by
    intro literal constant asks
    obtain ⟨before, asked, same⟩ := (asks_dropDoubleNegation true).mp asks
    obtain ⟨count, rfl⟩ := (exists_underNegations constant before).1 same
    cases count with
    | zero =>
      have live : literal.isConstant = false := live_dropDeadBranches asked
      rw [live] at constant
      contradiction
    | succ count => exact ⟨count, asked⟩
  refine ⟨fun condition => live_dropDeadBranches,
    fun literal constant => ⟨left literal constant, ?_⟩, ?_⟩
  · rintro ⟨count, asks⟩
    have dropped := (dropDoubleNegation_underNegations constant (count + 1)).1
    exact (asks_dropDoubleNegation true).mpr ⟨_, asks, dropped⟩
  · rintro ⟨literal, constant, asks⟩
    obtain ⟨count, yes, no, asked⟩ := left literal constant asks
    have innermost : (unary .not literal).Within (underNegations (2 * count + 2) literal) :=
      negation_within_underNegations (2 * count + 1)
    have negation : (unary .not literal).Within (dropDeadBranches (foldConstants expr)) :=
      Within.trans (.deeper (.head _) innermost) asked
    obtain ⟨before, found, shape⟩ := negation_of_dropDeadBranches constant negation
    obtain ⟨live, conditional⟩ := negation_of_foldConstants expr found
    rcases shape with folded | ternary
    · rw [live] at folded
      contradiction
    · exact conditional ternary

/-- Two negations of a conditional on a literal, as the condition of another conditional: when the
negations are dropped, the pass that would drop the branch is over. -/
theorem simplify_conditionals_kept :
    let chosen : Expr := .ternary (.bool true) (.int 5) (.ident "x")
    let expr : Expr := .ternary (.unary .not (.unary .not chosen)) (.ident "a") (.ident "b")
    expr.simplify = .ternary (.int 5) (.ident "a") (.ident "b") ∧
      ¬ ∀ condition, Asks condition expr.simplify → condition.isConstant = false := by
  intro chosen expr
  have kept : expr.simplify = .ternary (.int 5) (.ident "a") (.ident "b") := rfl
  refine ⟨kept, fun live => ?_⟩
  have literal := live (.int 5) ⟨.ident "a", .ident "b", kept ▸ .refl _⟩
  contradiction

end DecisionFlow.Expr
