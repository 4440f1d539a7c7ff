import DecisionFlow.Proofs.Expr.Growth
import DecisionFlow.Proofs.Expr.Subtrees

/-!
# Negations after simplifying

Whether a double negation may be dropped depends on its place: only where nothing counts but the
truth of an expression. Such places are the root of a predicate, the condition of a conditional, the
operands of negation, conjunction and disjunction, and the branches of a conditional that is in such
a place itself (`places`, `Placed`). One pass from the leaves up leaves no double negation there
(`reduced_dropDoubleNegation`), although dropping a pair can bring two other negations together, and
it changes nothing where there is none (`dropDoubleNegation_of_reduced`). What this means for
simplified predicates is `simplify_negations`.
-/
namespace DecisionFlow.Expr

/-! ## Places -/

/-- The immediate subtrees of an expression, each with whether nothing but its truth counts;
`boolean` says so of the expression. -/
def places (boolean : Bool) : Expr → List (Bool × Expr)
  | .unary .not operand => [(true, operand)]
  | .binary op left right => [(op.isLogical, left), (op.isLogical, right)]
  | .ternary condition yes no => [(true, condition), (boolean, yes), (boolean, no)]
  | expr => expr.children.map (false, ·)

/-- Every immediate subtree has a place. -/
theorem places_children (boolean : Bool) (expr : Expr) :
    (expr.places boolean).map (·.2) = expr.children := by
  cases expr with
  | unary op operand => cases op <;> rfl
  | binary | ternary => rfl
  | _ => simp [places, Function.comp_def]

/-- An expression in a place within another one, which is in a place itself. Of both places it is
said whether nothing but the truth counts there. -/
inductive Placed : Bool → Expr → Bool → Expr → Prop where
  /-- An expression is within itself. -/
  | refl (boolean : Bool) (expr : Expr) : Placed boolean expr boolean expr
  /-- What is within an immediate subtree is within the expression. -/
  | deeper {place inner boolean : Bool} {node child expr : Expr}
    (member : (inner, child) ∈ expr.places boolean) (inside : Placed place node inner child) :
    Placed place node boolean expr

variable {place boolean : Bool} {node expr : Expr}

/-- What is within an expression is there in some place. -/
theorem exists_placed_of_within (inside : node.Within expr) (boolean : Bool) :
    ∃ place, Placed place node boolean expr := by
  induction inside generalizing boolean with
  | refl => exact ⟨boolean, .refl boolean _⟩
  | deeper member inside ih =>
    rw [← places_children boolean] at member
    obtain ⟨⟨inner, child⟩, there, rfl⟩ := List.mem_map.mp member
    obtain ⟨place, placed⟩ := ih inner
    exact ⟨place, .deeper there placed⟩

/-- An immediate subtree of what is in a place is in its own place. -/
theorem Placed.subtree {inner : Bool} {child : Expr} (placed : Placed place node boolean expr)
    (member : (inner, child) ∈ node.places place) : Placed inner child boolean expr := by
  induction placed with
  | refl => exact .deeper member (.refl inner child)
  | deeper outer _ ih => exact .deeper outer (ih member)

/-! ## Expressions without double negations -/

/-- An expression without a double negation in a place where nothing but the truth counts. -/
def Reduced (boolean : Bool) (expr : Expr) : Prop :=
  ∀ operand, ¬ Placed true (.unary .not (.unary .not operand)) boolean expr

/-- An expression has no such double negation when it is none itself and its immediate subtrees have
none in their places. -/
theorem reduced_iff :
    Reduced boolean expr ↔
      (boolean = true → ∀ operand, expr ≠ .unary .not (.unary .not operand)) ∧
      ∀ child ∈ expr.places boolean, Reduced child.1 child.2 := by
  constructor
  · intro reduced
    constructor
    · rintro rfl operand rfl
      exact reduced operand (.refl true _)
    · intro child member operand inside
      exact reduced operand (.deeper member inside)
  · rintro ⟨root, below⟩ operand placed
    cases placed with
    | refl => exact root rfl operand rfl
    | deeper member inside => exact below _ member operand inside

/-- A negation is dropped together with the one below it, and then what is left starts with none. -/
theorem reduced_negated {operand : Expr} (boolean : Bool) (reduced : Reduced true operand) :
    Reduced boolean (negated boolean operand) := by
  unfold negated
  split
  · -- What was below the inner negation was in such a place already.
    exact (reduced_iff.mp reduced).2 _ (.head _)
  · rename_i single
    refine reduced_iff.mpr ⟨?_, List.forall_mem_singleton.mpr reduced⟩
    rintro rfl inner same
    exact single inner rfl (unary.inj same).2

/-- The pass goes into every place of an expression that is no negation. -/
theorem places_dropDoubleNegation (boolean : Bool) (other : ∀ operand, expr ≠ .unary .not operand) :
    (expr.dropDoubleNegation boolean).places boolean =
      (expr.places boolean).map fun child => (child.1, child.2.dropDoubleNegation child.1) := by
  cases expr with
  | null | bool | int | float | string | ident | field | index | ternary => rfl
  | unary op operand =>
    cases op with
    | not => exact absurd rfl (other operand)
    | neg => rfl
  | binary op left right => cases op <;> rfl
  | list items | call name items =>
    simp only [dropDoubleNegation, places, children,
      eq_map_of_cons dropNegatedItems rfl fun _ _ => rfl, List.map_map, Function.comp_def]
  | map entries =>
    simp only [dropDoubleNegation, places, children,
      eq_map_of_cons dropNegatedEntries rfl fun _ _ => rfl, List.map_map, Function.comp_def]

/-- The pass makes no negation of an expression that is none. -/
theorem dropDoubleNegation_ne_negation (boolean : Bool)
    (other : ∀ operand, expr ≠ .unary .not operand) (operand : Expr) :
    expr.dropDoubleNegation boolean ≠ .unary .not operand := by
  cases expr with
  | unary op inner =>
    cases op with
    | not => exact absurd rfl (other inner)
    | neg => nofun
  | binary op left right => cases op <;> nofun
  | _ => nofun

/-- After the pass there is no double negation where nothing but the truth counts. -/
theorem reduced_dropDoubleNegation (expr : Expr) (boolean : Bool) :
    Reduced boolean (expr.dropDoubleNegation boolean) := by
  induction expr using induct_children generalizing boolean with
  | step expr ih =>
    by_cases negation : ∃ operand, expr = .unary .not operand
    · obtain ⟨operand, rfl⟩ := negation
      have below : Reduced true (operand.dropDoubleNegation true) := ih operand (.head _) true
      exact reduced_negated boolean below
    · have other : ∀ operand, expr ≠ .unary .not operand := fun operand same =>
        negation ⟨operand, same⟩
      refine reduced_iff.mpr ⟨fun _ operand =>
        dropDoubleNegation_ne_negation boolean other (.unary .not operand), ?_⟩
      rw [places_dropDoubleNegation boolean other]
      intro rewritten listed
      obtain ⟨child, member, rfl⟩ := List.mem_map.mp listed
      have within : child.2 ∈ expr.children :=
        places_children boolean expr ▸ List.mem_map_of_mem member
      exact ih child.2 within child.1

/-- Where there is no such double negation the pass changes nothing. -/
theorem dropDoubleNegation_of_reduced (reduced : Reduced boolean expr) :
    expr.dropDoubleNegation boolean = expr := by
  induction expr using induct_children generalizing boolean with
  | step expr ih =>
    have kept : ∀ child ∈ expr.places boolean, child.2.dropDoubleNegation child.1 = child.2 := by
      intro child member
      have within : child.2 ∈ expr.children :=
        places_children boolean expr ▸ List.mem_map_of_mem member
      exact ih child.2 within ((reduced_iff.mp reduced).2 child member)
    cases expr with
    | null | bool | int | float | string | ident => rfl
    | list items | call name items =>
      have same : items.map (dropDoubleNegation false) = items.map id :=
        List.map_congr_left fun item inside => kept (false, item) (List.mem_map_of_mem inside)
      rw [dropDoubleNegation, eq_map_of_cons dropNegatedItems rfl fun _ _ => rfl, same, List.map_id]
    | map entries =>
      have same : (entries.map fun entry => (entry.1, entry.2.dropDoubleNegation false)) =
          entries.map id :=
        List.map_congr_left fun entry inside => congrArg (Prod.mk entry.1)
          (kept (false, entry.2) (List.mem_map_of_mem (List.mem_map_of_mem inside)))
      rw [dropDoubleNegation, eq_map_of_cons dropNegatedEntries rfl fun _ _ => rfl, same,
        List.map_id]
    | field base name => exact congrArg (field · name) (kept (false, base) (.head _))
    | index base key =>
      exact congrArg₂ index (kept (false, base) (.head _)) (kept (false, key) (.tail _ (.head _)))
    | unary op operand =>
      cases op with
      | neg => exact congrArg (unary .neg) (kept (false, operand) (.head _))
      | not =>
        have same : operand.dropDoubleNegation true = operand := kept (true, operand) (.head _)
        rw [dropDoubleNegation, same]
        unfold negated
        split
        · exact absurd rfl ((reduced_iff.mp reduced).1 rfl _)
        · rfl
    | binary op left right =>
      have first := kept (op.isLogical, left) (.head _)
      have second := kept (op.isLogical, right) (.tail _ (.head _))
      cases op <;> exact congrArg₂ (binary _) first second
    | ternary condition yes no =>
      have first : condition.dropDoubleNegation true = condition := kept _ (.head _)
      have second : yes.dropDoubleNegation boolean = yes := kept _ (.tail _ (.head _))
      have third : no.dropDoubleNegation boolean = no := kept _ (.tail _ (.tail _ (.head _)))
      rw [dropDoubleNegation, first, second, third]

/-- After simplifying a predicate there is no double negation in a place where nothing but the truth
counts, and so nowhere three negations one below the other. The pass that drops double negations has
nothing left to do after one run, whether the value of the expression counts or its truth. -/
theorem simplify_negations (expr : Expr) :
    (∀ operand, ¬ Placed true (.unary .not (.unary .not operand)) true expr.simplify) ∧
      (∀ operand : Expr,
        ¬ (unary .not (.unary .not (.unary .not operand))).Within expr.simplify) ∧
      ∀ boolean, (expr.dropDoubleNegation boolean).dropDoubleNegation boolean =
        expr.dropDoubleNegation boolean := by
  have reduced : Reduced true expr.simplify := reduced_dropDoubleNegation _ true
  refine ⟨reduced, ?_, ?_⟩
  · intro operand inside
    -- Wherever the outermost negation stands, its operand counts by its truth.
    obtain ⟨place, placed⟩ := exists_placed_of_within inside true
    exact reduced operand (placed.subtree (.head _))
  · intro boolean
    exact dropDoubleNegation_of_reduced (reduced_dropDoubleNegation expr boolean)

/-- Below a comparison the value counts, so a double negation stays there. -/
example :
    let truth : Expr := .unary .not (.unary .not (.ident "x"))
    let compared : Expr := .binary .eq truth (.int 1)
    (unary .not (.unary .not compared)).simplify = compared := by
  rfl

end DecisionFlow.Expr
