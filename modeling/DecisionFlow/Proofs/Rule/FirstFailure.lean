import DecisionFlow.Proofs.Outcome
import DecisionFlow.Rule.Registry

/-!
# The first definition that fails

Definitions are compiled to a registry all together or not at all. Whether a definition compiles is
asked of its source alone, so definitions that a later one replaces have to compile as well, and the
one that is blamed is the first that fails (`compile_blames_first`).
-/
namespace DecisionFlow

variable {ε : Type} {compiler : String → Except ε Predicate}

/-- A definition compiles when its source does. -/
theorem Rule.exists_compile_iff {definition : RuleDefinition} :
    (∃ rule, Rule.compile compiler definition = .ok rule) ↔
      ∃ predicate, compiler definition.predicate = .ok predicate := by
  rw [Rule.compile]
  cases compiler definition.predicate with
  | error cause => exact ⟨nofun, nofun⟩
  | ok predicate => exact ⟨fun _ => ⟨predicate, rfl⟩, fun _ => ⟨_, rfl⟩⟩

/-- A definition is rejected under its id, for the reason that its source is. -/
theorem Rule.compile_eq_error_iff {definition : RuleDefinition} {rejection : Rejection ε} :
    Rule.compile compiler definition = .error rejection ↔
      compiler definition.predicate = .error rejection.reason ∧ rejection.rule = definition.id := by
  obtain ⟨id, reason⟩ := rejection
  rw [Rule.compile]
  cases compiler definition.predicate with
  | error cause =>
    simp only [Except.error.injEq, Rejection.mk.injEq]
    exact ⟨fun ⟨same, cause⟩ => ⟨cause, same.symm⟩, fun ⟨cause, same⟩ => ⟨same.symm, cause⟩⟩
  | ok predicate => exact ⟨nofun, nofun⟩

namespace Registry

/-- Definitions are compiled when each of their sources compiles. -/
theorem exists_compile_iff {definitions : List RuleDefinition} :
    (∃ registry, compile compiler definitions = .ok registry) ↔
      ∀ definition ∈ definitions, ∃ predicate, compiler definition.predicate = .ok predicate := by
  have rules : (∃ registry, compile compiler definitions = .ok registry) ↔
      ∃ rules, definitions.mapM (Rule.compile compiler) = .ok rules := by
    rw [compile]
    cases definitions.mapM (Rule.compile compiler) with
    | error rejection => exact ⟨nofun, nofun⟩
    | ok rules => exact ⟨fun _ => ⟨rules, rfl⟩, fun _ => ⟨ofRules rules, rfl⟩⟩
  rw [rules, exists_mapM_eq_ok_iff]
  simp only [Rule.exists_compile_iff]

/-- Definitions are rejected like the first one whose source does not compile. -/
theorem compile_eq_error_iff {definitions : List RuleDefinition} {rejection : Rejection ε} :
    compile compiler definitions = .error rejection ↔
      ∃ before definition after, definitions = before ++ definition :: after ∧
        (∀ earlier ∈ before, ∃ predicate, compiler earlier.predicate = .ok predicate) ∧
        compiler definition.predicate = .error rejection.reason ∧
        rejection.rule = definition.id := by
  have rules : compile compiler definitions = .error rejection ↔
      definitions.mapM (Rule.compile compiler) = .error rejection := by
    rw [compile]
    cases definitions.mapM (Rule.compile compiler) with
    | error other => simp only [Except.map, Except.error.injEq]
    | ok rules => exact ⟨nofun, nofun⟩
  rw [rules, mapM_eq_error_iff]
  simp only [Rule.exists_compile_iff, Rule.compile_eq_error_iff]

/-- Definitions are compiled to a registry when each of their sources compiles, also those of
definitions whose id is defined again. Otherwise the rejection names the first definition whose
source does not compile, whatever comes after it, with the reason that is kept of its error: the
error itself, or the wording of it. -/
theorem compile_blames_first {ρ : Type} (compiler : String → Except ε Predicate) (reason : ε → ρ)
    (definitions : List RuleDefinition) :
    let kept : String → Except ρ Predicate := fun source => (compiler source).mapError reason
    ((∃ registry, compile kept definitions = .ok registry) ↔
        ∀ definition ∈ definitions, ∃ predicate, compiler definition.predicate = .ok predicate) ∧
      ∀ rejection, compile kept definitions = .error rejection ↔
        ∃ before definition after cause, definitions = before ++ definition :: after ∧
          (∀ earlier ∈ before, ∃ predicate, compiler earlier.predicate = .ok predicate) ∧
          compiler definition.predicate = .error cause ∧
          rejection = ⟨definition.id, reason cause⟩ := by
  intro kept
  have compiles (source : String) (predicate : Predicate) :
      kept source = .ok predicate ↔ compiler source = .ok predicate := by
    cases found : compiler source <;> simp [kept, found, Except.mapError]
  have fails (source : String) (failure : ρ) :
      kept source = .error failure ↔
        ∃ cause, compiler source = .error cause ∧ reason cause = failure := by
    cases found : compiler source <;> simp [kept, found, Except.mapError]
  constructor
  · rw [exists_compile_iff]
    simp only [compiles]
  · rintro ⟨id, failure⟩
    rw [compile_eq_error_iff]
    simp only [compiles, fails, Rejection.mk.injEq]
    constructor
    · rintro ⟨before, definition, after, split, passed, ⟨cause, failed, rfl⟩, rfl⟩
      exact ⟨before, definition, after, cause, split, passed, failed, rfl, rfl⟩
    · rintro ⟨before, definition, after, cause, split, passed, failed, rfl, rfl⟩
      exact ⟨before, definition, after, split, passed, ⟨cause, failed, rfl⟩, rfl⟩

/-- A broken definition is rejected although its id is defined again, and the broken one after it is
not looked at. -/
example :
    let compiler : String → Except SourceError Predicate := fun source =>
      if source = "" then .error .empty else .ok (.function fun _ => .ok (.string source))
    let definitions : List RuleDefinition :=
      [⟨.int 1, "broken", "", none, none⟩, ⟨.int 1, "mended", "a", none, none⟩,
        ⟨.int 2, "broken", "", none, none⟩]
    (match compile compiler definitions with
      | .ok _ => none
      | .error rejection => some rejection.message) =
      some "rule 1: predicate does not compile: parse error: empty expression" := by
  decide

end Registry

end DecisionFlow
