import DecisionFlow.Proofs.Rule.Contents

/-!
# The definitions that count

A registry is compiled from definitions in one go: it is the registry of the compiled rules
(`rules_of_compile`), so what it holds under an id is the last definition of the id, compiled
(`get?_of_compile`). All other definitions of the id only have to compile.
-/
namespace DecisionFlow

/-- Rules are compiled under the ids of their definitions. -/
theorem Rule.id_compile {ε : Type} {compiler : String → Except ε Predicate}
    {definition : RuleDefinition} {rule : Rule}
    (compiled : Rule.compile compiler definition = .ok rule) : rule.id = definition.id := by
  unfold Rule.compile at compiled
  split at compiled
  · contradiction
  · cases compiled
    rfl

/-- The definition of an id that counts: the last one. -/
def lastDefinition? (definitions : List RuleDefinition) (id : RuleId) : Option RuleDefinition :=
  (definitions.filter fun definition => id == definition.id).getLast?

namespace Registry

variable {ε : Type} {compiler : String → Except ε Predicate} {definitions : List RuleDefinition}
  {registry : Registry}

/-- A compiled registry is that of the compiled rules. -/
theorem rules_of_compile (compiled : compile compiler definitions = .ok registry) :
    ∃ rules, definitions.map (Rule.compile compiler) = rules.map .ok ∧
      registry = ofRules rules := by
  unfold compile at compiled
  cases all : definitions.mapM (Rule.compile compiler) with
  | error rejection =>
    rw [all] at compiled
    contradiction
  | ok rules =>
    rw [all] at compiled
    cases compiled
    exact ⟨rules, mapM_eq_ok_iff.mp all, rfl⟩

/-- A compiled registry is well formed. -/
theorem wellFormed_of_compile (compiled : compile compiler definitions = .ok registry) :
    registry.WellFormed := by
  obtain ⟨rules, -, rfl⟩ := rules_of_compile compiled
  exact wellFormed_ofRules rules

/-- The rule under an id is compiled from the last definition of the id. -/
theorem get?_of_compile (compiled : compile compiler definitions = .ok registry) (id : RuleId) :
    (registry.get? id).map .ok = (lastDefinition? definitions id).map (Rule.compile compiler) := by
  obtain ⟨rules, all, rfl⟩ := rules_of_compile compiled
  -- Rules and definitions with the id are told by one test on the results of compiling.
  let hasId : Except (Rejection ε) Rule → Bool := fun result =>
    result.toOption.any fun rule => id == rule.id
  have ruled : (rules.map .ok).filter hasId =
      (rules.filter fun rule => id == rule.id).map .ok := by
    rw [List.filter_map]
    rfl
  have defined : (definitions.map (Rule.compile compiler)).filter hasId =
      (definitions.filter fun definition => id == definition.id).map (Rule.compile compiler) := by
    rw [List.filter_map]
    refine congrArg _ (List.filter_congr fun definition listed => ?_)
    obtain ⟨rule, _, same⟩ := List.mem_map.mp (all ▸ List.mem_map_of_mem listed)
    rw [Function.comp_apply, ← same, ← Rule.id_compile same.symm]
    rfl
  rw [get?_ofRules, lastDefinition?, ← List.getLast?_map, ← List.getLast?_map, ← ruled, ← defined,
    all]

/-- Registries compiled from definitions of which the same one counts have the same rule under an
id. -/
theorem get?_eq_of_lastDefinition {others : List RuleDefinition} {other : Registry} {id : RuleId}
    (compiled : compile compiler definitions = .ok registry)
    (compiledOther : compile compiler others = .ok other)
    (same : lastDefinition? definitions id = lastDefinition? others id) :
    registry.get? id = other.get? id := by
  have results := get?_of_compile compiled id
  rw [same, ← get?_of_compile compiledOther id] at results
  exact Option.map_injective (fun _ _ => Except.ok.inj) results

end Registry

end DecisionFlow
