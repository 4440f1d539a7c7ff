import DecisionFlow.Expr.Depth
import DecisionFlow.Proofs.Expr.Induction
import Mathlib.Logic.Function.Iterate

/-!
# Depth and height

Depth is measured with a stack of pending subtrees, height by recursion. Both are bounded by the
same numbers (`depth_le_iff`), so what is proved of heights by induction on trees holds of
depths. The measuring goes pass by pass. Each pass takes one node off what is pending and keeps
the outcome as it was, so after as many passes as there are nodes nothing is pending, and the
greatest distance from the root is the height (`measuring_ends`).
-/
namespace DecisionFlow.Expr

/-- Expressions are within a bound when each of them is. -/
theorem itemsHeight_le {items : List Expr} {bound : Nat} :
    itemsHeight items ≤ bound ↔ ∀ item ∈ items, item.height ≤ bound :=
  forall_mem_of_cons (itemsHeight · ≤ bound) (Nat.zero_le bound) (fun _ _ => Nat.max_le) items

/-- The heights under some keys are those of the expressions there. -/
theorem entriesHeight_eq (entries : List (String × Expr)) :
    entriesHeight entries = itemsHeight (entries.map (·.2)) :=
  eq_values_of_cons entriesHeight itemsHeight rfl (fun _ _ => rfl) (fun _ _ => rfl) entries

/-- An expression is one higher than its subtrees. -/
theorem height_eq (expr : Expr) : expr.height = itemsHeight expr.children + 1 := by
  cases expr <;> simp [height, children, itemsHeight, entriesHeight_eq]

/-- The greatest distance from the root is within a bound when the one so far is and every pending
subtree ends within it. -/
theorem deepest_le_iff (greatest : Nat) (stack : List (Expr × Nat)) (bound : Nat) :
    deepest greatest stack ≤ bound ↔
      greatest ≤ bound ∧ ∀ pending ∈ stack, pending.2 + pending.1.height ≤ bound + 1 := by
  induction greatest, stack using deepest.induct with
  | case1 greatest => simp [deepest]
  | case2 greatest expr depth stack ih =>
    have below : depth + expr.height ≤ bound + 1 ↔ depth ≤ bound ∧
        ∀ child ∈ expr.children, depth + 1 + child.height ≤ bound + 1 := by
      constructor
      · intro ends
        have positive := height_eq expr
        refine ⟨by omega, fun child listed => ?_⟩
        have within := itemsHeight_le.mp (Nat.le_refl _) child listed
        omega
      · rintro ⟨here, later⟩
        have within : itemsHeight expr.children ≤ bound - depth := by
          refine itemsHeight_le.mpr fun child listed => ?_
          have ends := later child listed
          omega
        rw [height_eq]
        omega
    rw [deepest, ih, Nat.max_le, List.forall_mem_append, List.forall_mem_cons, below]
    simp only [List.mem_reverse, List.mem_map, forall_exists_index, and_imp,
      forall_apply_eq_imp_iff₂, and_assoc]

/-- The depth and the height of an expression are within the same bounds. -/
theorem depth_le_iff {expr : Expr} {bound : Nat} : expr.depth ≤ bound ↔ expr.height ≤ bound := by
  rw [depth, deepest_le_iff, List.forall_mem_singleton, Nat.add_comm 1, Nat.add_le_add_iff_right]
  exact and_iff_right (Nat.zero_le bound)

/-- The depth of an expression is its height. -/
theorem depth_eq_height (expr : Expr) : expr.depth = expr.height :=
  Nat.le_antisymm (depth_le_iff.mpr (Nat.le_refl _)) (depth_le_iff.mp (Nat.le_refl _))

/-- The greatest height among some expressions is their maximum, 0 when there are none. -/
theorem itemsHeight_eq (items : List Expr) :
    itemsHeight items = (items.map height).max?.getD 0 := by
  induction items with
  | nil => rfl
  | cons item rest ih =>
    rw [itemsHeight, ih, List.map_cons, List.max?_cons]
    cases (rest.map height).max? with
    | none => exact Nat.max_zero _
    | some greatest => rfl

/-- Where the measuring of an expression stands between two passes. -/
structure Measuring where
  /-- The greatest distance from the root so far. -/
  greatest : Nat
  /-- The pending subtrees with their distances from the root, the next one on top. -/
  pending : List (Expr × Nat)

namespace Measuring

/-- The measuring of an expression before its first pass. -/
def start (expr : Expr) : Measuring := ⟨0, [(expr, 1)]⟩

/-- A pass puts the children of the subtree on top in its place. It does nothing when no subtree
is pending. -/
def pass : Measuring → Measuring
  | ⟨greatest, []⟩ => ⟨greatest, []⟩
  | ⟨greatest, (expr, depth) :: stack⟩ =>
    ⟨max greatest depth, (expr.children.map (·, depth + 1)).reverse ++ stack⟩

/-- What the measuring comes to in the end. -/
def outcome (measuring : Measuring) : Nat := deepest measuring.greatest measuring.pending

/-- The pending nodes. -/
def size (measuring : Measuring) : Nat := itemsSize (measuring.pending.map (·.1))

/-- A pass keeps the outcome. -/
theorem outcome_pass (measuring : Measuring) : measuring.pass.outcome = measuring.outcome := by
  obtain ⟨greatest, stack⟩ := measuring
  cases stack with
  | nil => rfl
  | cons top stack => rw [pass, outcome, outcome, deepest]

/-- A pass takes one node off what is pending. -/
theorem size_pass (measuring : Measuring) : measuring.pass.size = measuring.size - 1 := by
  obtain ⟨greatest, stack⟩ := measuring
  cases stack with
  | nil => rfl
  | cons top stack =>
    obtain ⟨expr, depth⟩ := top
    have replaced := itemsSize_replaced expr (depth + 1) stack
    simp only [pass, size, List.map_cons, itemsSize]
    omega

/-- Passes keep the outcome, and each takes one node off what is pending. -/
theorem iterate_pass (measuring : Measuring) (count : Nat) :
    (pass^[count] measuring).outcome = measuring.outcome ∧
      (pass^[count] measuring).size = measuring.size - count := by
  induction count with
  | zero => exact ⟨rfl, rfl⟩
  | succ count ih =>
    rw [Function.iterate_succ_apply', outcome_pass, size_pass, ih.1, ih.2]
    exact ⟨rfl, Nat.sub_sub ..⟩

/-- No subtree is pending when no node is, and only then. -/
theorem pending_eq_nil_iff {measuring : Measuring} :
    measuring.pending = [] ↔ measuring.size = 0 := by
  obtain ⟨greatest, stack⟩ := measuring
  cases stack with
  | nil => exact iff_of_true rfl rfl
  | cons top stack =>
    have positive := size_eq top.1
    refine iff_of_false (List.cons_ne_nil _ _) ?_
    rw [size, List.map_cons, itemsSize]
    omega

/-- When nothing is pending, the outcome is the greatest distance so far. -/
theorem eq_outcome {measuring : Measuring} (ended : measuring.pending = []) :
    measuring = ⟨measuring.outcome, []⟩ := by
  obtain ⟨greatest, stack⟩ := measuring
  cases ended
  rw [outcome, deepest]

end Measuring

/-- Measuring an expression is over after as many passes as the expression has nodes, and no
sooner. The depth that it then comes to is the height, which is one more than the greatest depth
among the immediate subtrees, and 1 where there are none. -/
theorem measuring_ends (expr : Expr) :
    (∀ count, (Measuring.pass^[count] (.start expr)).pending = [] ↔ expr.size ≤ count) ∧
      Measuring.pass^[expr.size] (.start expr) = ⟨expr.depth, []⟩ ∧
      expr.depth = expr.height ∧
      expr.depth = (expr.children.map depth).max?.getD 0 + 1 := by
  have size : (Measuring.start expr).size = expr.size := Nat.add_zero _
  have ended (count : Nat) :
      (Measuring.pass^[count] (.start expr)).pending = [] ↔ expr.size ≤ count := by
    rw [Measuring.pending_eq_nil_iff, (Measuring.iterate_pass _ count).2, size,
      Nat.sub_eq_zero_iff_le]
  -- The depth is what the measuring comes to before the first pass, and so after each.
  have outcome : (Measuring.pass^[expr.size] (.start expr)).outcome = expr.depth :=
    (Measuring.iterate_pass _ _).1
  refine ⟨ended, ?_, depth_eq_height expr, ?_⟩
  · rw [Measuring.eq_outcome ((ended expr.size).mpr (Nat.le_refl _)), outcome]
  · rw [funext depth_eq_height, height_eq, itemsHeight_eq]

end DecisionFlow.Expr
