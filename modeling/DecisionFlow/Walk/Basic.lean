import DecisionFlow.Rule.Registry
import DecisionFlow.Walk.Trace

/-!
# Walks

A walk starts at an entry rule, applies its predicate to the record, records the outcome and goes
on to the successor for the outcome. It ends where there is no successor, where the successor is
not registered, and where it was visited before; a predicate that fails ends it with an error and
leaves the trace as it was before the failing rule. A visited rule is never applied again, so a
walk ends: each step visits a registered rule that was not visited (`unvisited_record_lt`).
-/
namespace DecisionFlow

/-- What happened at one step of a walk. -/
structure Step where
  /-- The id of the rule that was applied. -/
  id : RuleId
  /-- Its title. -/
  title : String
  /-- The outcome. -/
  outcome : Bool
  /-- The successor for the outcome. -/
  next : Option RuleId
  /-- Whether the successor was visited before, so that the walk ends. -/
  cycle : Bool
deriving DecidableEq, Repr

/-- A predicate that failed: the id of its rule and the cause. -/
structure WalkError where
  /-- The id of the rule. -/
  rule : RuleId
  /-- The cause. -/
  cause : EvalError
deriving DecidableEq, Repr

/-- The result of a walk. -/
structure Walked where
  /-- The trace after the walk. -/
  trace : Trace
  /-- The steps of the walk in order. -/
  steps : List Step
  /-- The failure that ended the walk, if one did. -/
  failure : Option WalkError
deriving DecidableEq, Repr

namespace Registry

/-- The registered ids that a trace has not visited. -/
def unvisited (registry : Registry) (trace : Trace) : List RuleId :=
  (Assoc.keys registry.table).filter fun id => !trace.contains id

/-- Visiting a registered rule leaves fewer unvisited ones. -/
theorem unvisited_record_lt {registry : Registry} {trace : Trace} {id : RuleId}
    (registered : (registry.get? id).isSome = true) (fresh : trace.contains id = false)
    (outcome : Bool) :
    (registry.unvisited (trace.record id outcome)).length < (registry.unvisited trace).length := by
  have member : id ∈ Assoc.keys registry.table := by
    have found := Assoc.lookup_isSome id registry.table
    rw [show registry.table.lookup id = registry.get? id from rfl, registered] at found
    simpa using found.symm
  unfold unvisited
  have narrowed : (fun other => !(trace.record id outcome).contains other) =
      fun other => !(other == id) && !trace.contains other := by
    funext other
    rw [Trace.contains_record, Bool.not_or, Bool.and_comm]
  rw [narrowed, ← List.filter_filter, List.length_filter_lt_length_iff_exists]
  exact ⟨id, by simp [member, fresh], by simp⟩

/-- Walk from an id. -/
def walk [Regex.Matcher] [Value.Enumeration] (registry : Registry) (record : Value) (trace : Trace)
    (current : RuleId) : Walked :=
  if _visited : trace.contains current then ⟨trace, [], none⟩
  else
    match _found : registry.get? current with
    | none => ⟨trace, [], none⟩
    | some rule =>
      match rule.predicate.evaluate record with
      | .error cause => ⟨trace, [], some ⟨current, cause⟩⟩
      | .ok value =>
        let outcome := value.truthy
        let visitedNow := trace.record current outcome
        let next := rule.next outcome
        let step : Step := ⟨rule.id, rule.title, outcome, next, next.any visitedNow.contains⟩
        match next with
        | none => ⟨visitedNow, [step], none⟩
        | some target =>
          let walked := registry.walk record visitedNow target
          { walked with steps := step :: walked.steps }
termination_by (registry.unvisited trace).length
decreasing_by
  exact unvisited_record_lt (by simp [_found]) (by simpa using _visited) _

end Registry

end DecisionFlow
