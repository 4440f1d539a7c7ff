import DecisionFlow.Walk.Engine
import DecisionFlow.Proofs.Eval.Truth

/-!
# The steps of a walk

What a walk does at an id is one of four things: it stops because the id was visited or because
no rule has it, it fails with the predicate of the rule, or it applies the rule and goes on to
the successor. There is one equation for each, and `walk_induct` is induction along a walk with
these four cases (`walk_induct_stops` when the first three are alike). A walk looks at a predicate
only through its truth (`Predicate.test`).
-/
namespace DecisionFlow

variable [Regex.Matcher] [Value.Enumeration]

/-- The truth of a predicate on a record, or its failure. -/
def Predicate.test (predicate : Predicate) (record : Value) : Except EvalError Bool :=
  (predicate.evaluate record).map Value.truthy

/-- The step that applying a rule makes, with the trace after it. -/
def Rule.step (rule : Rule) (outcome : Bool) (recorded : Trace) : Step :=
  ⟨rule.id, rule.title, outcome, rule.next outcome, (rule.next outcome).any recorded.contains⟩

/-- A walk with a step before it. -/
def Walked.after (walked : Walked) (step : Step) : Walked :=
  { walked with steps := step :: walked.steps }

namespace Registry

/-- The walk from a successor; without one the walk is over. -/
def onward (registry : Registry) (record : Value) (trace : Trace) : Option RuleId → Walked
  | none => ⟨trace, [], none⟩
  | some target => registry.walk record trace target

variable {registry : Registry} {record : Value} {trace : Trace} {current : RuleId}

/-- A walk stops at an id that was visited. -/
theorem walk_visited (visited : trace.contains current = true) :
    registry.walk record trace current = ⟨trace, [], none⟩ := by
  rw [walk, dif_pos visited]

/-- A walk stops at an id that no rule has. -/
theorem walk_unregistered (absent : registry.get? current = none) :
    registry.walk record trace current = ⟨trace, [], none⟩ := by
  rw [walk]
  split
  · rfl
  · split
    · rfl
    · rename_i found
      rw [absent] at found
      contradiction

/-- A walk fails with the predicate of a rule and keeps the trace. -/
theorem walk_failed {rule : Rule} {cause : EvalError} (fresh : trace.contains current = false)
    (found : registry.get? current = some rule)
    (failed : rule.predicate.test record = .error cause) :
    registry.walk record trace current = ⟨trace, [], some ⟨current, cause⟩⟩ := by
  rw [walk, dif_neg (Bool.eq_false_iff.mp fresh)]
  split
  · rename_i absent
    rw [found] at absent
    contradiction
  · rename_i other foundOther
    obtain rfl := Option.some.inj (found.symm.trans foundOther)
    rw [map_truthy_error failed]

/-- A walk applies a rule, records the outcome and goes on to the successor for it. -/
theorem walk_applied {rule : Rule} {outcome : Bool} (fresh : trace.contains current = false)
    (found : registry.get? current = some rule)
    (applied : rule.predicate.test record = .ok outcome) :
    registry.walk record trace current =
      (registry.onward record (trace.record current outcome) (rule.next outcome)).after
        (rule.step outcome (trace.record current outcome)) := by
  rw [walk, dif_neg (Bool.eq_false_iff.mp fresh)]
  split
  · rename_i absent
    rw [found] at absent
    contradiction
  · rename_i other foundOther
    obtain rfl := Option.some.inj (found.symm.trans foundOther)
    obtain ⟨value, evaluated, rfl⟩ := map_truthy_ok applied
    simp only [evaluated, Rule.step]
    cases rule.next value.truthy <;> rfl

/-- Induction along a walk: the hypothesis is about the successor and the longer trace. -/
@[elab_as_elim]
theorem walk_induct {motive : Trace → RuleId → Prop} (registry : Registry) (record : Value)
    (visited : ∀ trace current, trace.contains current = true → motive trace current)
    (unregistered : ∀ trace current, trace.contains current = false →
      registry.get? current = none → motive trace current)
    (failed : ∀ trace current rule cause, trace.contains current = false →
      registry.get? current = some rule → rule.predicate.test record = .error cause →
      motive trace current)
    (applied : ∀ trace current rule outcome, trace.contains current = false →
      registry.get? current = some rule → rule.predicate.test record = .ok outcome →
      (∀ target, rule.next outcome = some target → motive (trace.record current outcome) target) →
      motive trace current)
    (trace : Trace) (current : RuleId) : motive trace current := by
  -- The registered ids that were not visited get fewer with every rule applied.
  generalize size : (registry.unvisited trace).length = count
  induction count using Nat.strongRecOn generalizing trace current with
  | ind count ih =>
    cases seen : trace.contains current with
    | true => exact visited trace current seen
    | false =>
      cases found : registry.get? current with
      | none => exact unregistered trace current seen found
      | some rule =>
        cases tested : rule.predicate.test record with
        | error cause => exact failed trace current rule cause seen found tested
        | ok outcome =>
          refine applied trace current rule outcome seen found tested fun target _ => ?_
          have registered : (registry.get? current).isSome = true := by rw [found]; rfl
          have fewer := unvisited_record_lt registered seen outcome
          rw [size] at fewer
          exact ih _ fewer _ target rfl

/-- Induction along a walk for what does not depend on the way in which it stops. -/
@[elab_as_elim]
theorem walk_induct_stops {motive : Trace → RuleId → Prop} (registry : Registry) (record : Value)
    (stops : ∀ trace current failure,
      registry.walk record trace current = ⟨trace, [], failure⟩ → motive trace current)
    (applied : ∀ trace current rule outcome, trace.contains current = false →
      registry.get? current = some rule → rule.predicate.test record = .ok outcome →
      (∀ target, rule.next outcome = some target → motive (trace.record current outcome) target) →
      motive trace current)
    (trace : Trace) (current : RuleId) : motive trace current := by
  induction trace, current using walk_induct registry record with
  | visited trace current visited => exact stops trace current _ (walk_visited visited)
  | unregistered trace current fresh absent =>
    exact stops trace current _ (walk_unregistered absent)
  | failed trace current rule cause fresh found tested =>
    exact stops trace current _ (walk_failed fresh found tested)
  | applied trace current rule outcome fresh found tested ih =>
    exact applied trace current rule outcome fresh found tested ih

end Registry

end DecisionFlow
