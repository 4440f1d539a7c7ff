import DecisionFlow.Proofs.Eval.Simplify
import DecisionFlow.Proofs.Outcome
import DecisionFlow.Proofs.Walk.Steps

/-!
# Simplified flows

Two registries are alike when they hold rules of the same definitions in the same order, with
predicates of the same truth or failure on every record. Alike registries have the same walks.
Compiling with and without the simplifier gives alike registries or the same rejection, so nobody
who runs a flow can tell whether its predicates were simplified.
-/
namespace DecisionFlow

/-- The definition that a rule stands for. -/
def Rule.definition (rule : Rule) : RuleDefinition :=
  ⟨rule.id, rule.title, rule.source, rule.trueNext, rule.falseNext⟩

variable [Regex.Matcher] [Value.Enumeration]

/-- Rules of one definition whose predicates have the same truth or failure on every record. -/
structure Rule.Alike (first second : Rule) : Prop where
  /-- Id, title, source and successors are the same. -/
  definition : first.definition = second.definition
  /-- The predicates cannot be told apart by their truth. -/
  test : ∀ record, first.predicate.test record = second.predicate.test record

/-- Alike rules lead to the same successors. -/
theorem Rule.Alike.next {first second : Rule} (alike : first.Alike second) (outcome : Bool) :
    first.next outcome = second.next outcome := by
  unfold Rule.next
  rw [show first.trueNext = second.trueNext from congrArg RuleDefinition.trueNext alike.definition,
    show first.falseNext = second.falseNext from
      congrArg RuleDefinition.falseNext alike.definition]

/-- Applying alike rules makes the same step. -/
theorem Rule.Alike.step {first second : Rule} (alike : first.Alike second) (outcome : Bool)
    (recorded : Trace) : first.step outcome recorded = second.step outcome recorded := by
  unfold Rule.step
  rw [show first.id = second.id from congrArg RuleDefinition.id alike.definition,
    show first.title = second.title from congrArg RuleDefinition.title alike.definition,
    alike.next]

/-- Registries with the same order of ids and alike rules under every id. -/
structure Registry.Alike (first second : Registry) : Prop where
  /-- The ids appear in the same order. -/
  order : first.order = second.order
  /-- An id has alike rules or none in both. -/
  rules : ∀ id, Option.Rel Rule.Alike (first.get? id) (second.get? id)

namespace Registry

variable {first second : Registry}

/-- A rule under an id has an alike one in the other registry. -/
theorem Alike.found (alike : first.Alike second) {id : RuleId} {rule : Rule}
    (found : first.get? id = some rule) :
    ∃ other, second.get? id = some other ∧ rule.Alike other := by
  have rules := alike.rules id
  rw [found] at rules
  generalize second.get? id = result at rules
  cases rules with
  | some same => exact ⟨_, rfl, same⟩

/-- An id without rule has none in the other registry. -/
theorem Alike.absent (alike : first.Alike second) {id : RuleId} (absent : first.get? id = none) :
    second.get? id = none := by
  have rules := alike.rules id
  rw [absent] at rules
  generalize second.get? id = result at rules
  cases rules
  rfl

/-- Alike registries hold the same definitions. -/
theorem Alike.definitions (alike : first.Alike second) (id : RuleId) :
    (first.get? id).map Rule.definition = (second.get? id).map Rule.definition := by
  cases found : first.get? id with
  | none => rw [alike.absent found]
  | some rule =>
    obtain ⟨other, foundOther, same⟩ := alike.found found
    rw [foundOther]
    exact congrArg some same.definition

/-- Alike registries have rules under the same ids. -/
theorem Alike.contains (alike : first.Alike second) (id : RuleId) :
    first.contains id = second.contains id := by
  have definitions := congrArg Option.isSome (alike.definitions id)
  rwa [Option.isSome_map, Option.isSome_map] at definitions

/-- Adding alike rules keeps registries alike. -/
theorem Alike.insert (alike : first.Alike second) {rule other : Rule} (same : rule.Alike other) :
    (first.insert rule).Alike (second.insert other) := by
  have ids : rule.id = other.id := congrArg RuleDefinition.id same.definition
  constructor
  · simp only [Registry.insert, ids, alike.contains, alike.order]
  · intro id
    rw [get?_insert, get?_insert, ids]
    split
    · exact .some same
    · exact alike.rules id

/-- Adding alike rules one by one keeps registries alike. -/
theorem Alike.insertAll (alike : first.Alike second) {rules others : List Rule}
    (same : List.Forall₂ Rule.Alike rules others) :
    (rules.foldl Registry.insert first).Alike (others.foldl Registry.insert second) := by
  induction same generalizing first second with
  | nil => exact alike
  | cons head _ ih => exact ih (alike.insert head)

/-- Alike registries have the same walks. -/
theorem Alike.walk (alike : first.Alike second) (record : Value) (trace : Trace)
    (entry : RuleId) : first.walk record trace entry = second.walk record trace entry := by
  induction trace, entry using walk_induct first record with
  | visited trace current seen => rw [walk_visited seen, walk_visited seen]
  | unregistered trace current fresh absent =>
    rw [walk_unregistered absent, walk_unregistered (alike.absent absent)]
  | failed trace current rule cause fresh found tested =>
    obtain ⟨other, foundOther, same⟩ := alike.found found
    rw [walk_failed fresh found tested, walk_failed fresh foundOther (same.test record ▸ tested)]
  | applied trace current rule outcome fresh found tested ih =>
    obtain ⟨other, foundOther, same⟩ := alike.found found
    rw [walk_applied fresh found tested, walk_applied fresh foundOther (same.test record ▸ tested),
      same.step, same.next]
    have onward : first.onward record (trace.record current outcome) (other.next outcome) =
        second.onward record (trace.record current outcome) (other.next outcome) := by
      cases next : other.next outcome with
      | none => rfl
      | some target => exact ih target (same.next outcome ▸ next)
    rw [onward]

/-- Compiling with and without the simplifier gives trees of the same truth or failure, or the
same error. -/
theorem compile_source_sameTruth (param : String) (bodies : Bool) (source : String) :
    SameOutcome (fun first second => ∀ context, Eval.test context first = Eval.test context second)
      (Compiler.compile ⟨param, true, bodies⟩ source)
      (Compiler.compile ⟨param, false, bodies⟩ source) := by
  unfold Compiler.compile
  cases Source.parse source with
  | error error => exact .error error
  | ok parsed =>
    dsimp only
    cases bodies && !Source.hasReturn source with
    | true => exact .ok fun _ => rfl
    | false => exact .ok fun _ => Eval.test_simplify parsed

/-- Compiling with and without the simplifier gives alike rules, or the same rejection. -/
theorem compile_rule_alike (param : String) (bodies : Bool) (definition : RuleDefinition) :
    SameOutcome Rule.Alike (Rule.compile (Compiler.predicate ⟨param, true, bodies⟩) definition)
      (Rule.compile (Compiler.predicate ⟨param, false, bodies⟩) definition) := by
  have trees := compile_source_sameTruth param bodies definition.predicate
  unfold Rule.compile Compiler.predicate
  generalize Compiler.compile ⟨param, true, bodies⟩ definition.predicate = first at trees ⊢
  generalize Compiler.compile ⟨param, false, bodies⟩ definition.predicate = second at trees ⊢
  cases trees with
  | error => exact .error _
  | ok same => exact .ok ⟨rfl, fun record => same ⟨record, param⟩⟩

/-- Whether predicates are simplified cannot be observed: compiling gives the same rejection, or
registries with the same ids and definitions and the same walks from every entry, on every record
and with every trace. -/
theorem compile_simplified (param : String) (bodies : Bool) (definitions : List RuleDefinition) :
    SameOutcome
      (fun simplified plain : Registry =>
        simplified.ids = plain.ids ∧
          (∀ id, (simplified.get? id).map Rule.definition =
            (plain.get? id).map Rule.definition) ∧
          ∀ record trace entry,
            simplified.walk record trace entry = plain.walk record trace entry)
      (compile (Compiler.predicate ⟨param, true, bodies⟩) definitions)
      (compile (Compiler.predicate ⟨param, false, bodies⟩) definitions) := by
  have rules := SameOutcome.mapM (compile_rule_alike param bodies) definitions
  refine rules.map fun first second same => ?_
  have alike : (ofRules first).Alike (ofRules second) :=
    Alike.insertAll ⟨rfl, fun _ => .none⟩ same
  exact ⟨alike.order, alike.definitions, alike.walk⟩

end Registry

end DecisionFlow
