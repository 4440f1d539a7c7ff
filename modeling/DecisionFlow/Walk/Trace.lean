import DecisionFlow.Assoc
import DecisionFlow.Json.Writer
import DecisionFlow.Rule.Id

/-!
# Traces

A trace records the outcomes of visited rules in the order of the visits, with an index from ids
to their places. It doubles as the set of visited rules: recording an id again changes nothing.
-/
namespace DecisionFlow

/-- The outcomes of visited rules. -/
structure Trace where
  /-- The visited ids with their outcomes, in order. -/
  entries : List (RuleId × Bool)
  /-- The place of each visited id. -/
  index : List (RuleId × Nat)
deriving DecidableEq, Repr

namespace Trace

/-- The trace without visits. -/
def empty : Trace := ⟨[], []⟩

/-- Whether an id was visited. -/
def contains (trace : Trace) (id : RuleId) : Bool := (trace.index.lookup id).isSome

/-- The outcome recorded for an id. -/
def get? (trace : Trace) (id : RuleId) : Option Bool := do
  let place ← trace.index.lookup id
  (trace.entries[place]?).map (·.2)

/-- Whether recording an id adds an entry. -/
def admits (trace : Trace) (id : RuleId) : Bool := !trace.contains id

/-- Record an outcome for an id that was not visited. -/
def record (trace : Trace) (id : RuleId) (outcome : Bool) : Trace :=
  if trace.admits id then
    { entries := trace.entries ++ [(id, outcome)]
      index := Assoc.insert id trace.entries.length trace.index }
  else trace

/-- The number of visited rules. -/
def size (trace : Trace) : Nat := trace.entries.length

/-- Whether nothing was visited. -/
def isEmpty (trace : Trace) : Bool := trace.entries.isEmpty

/-- The visited ids in order. -/
def ids (trace : Trace) : List RuleId := trace.entries.map (·.1)

/-- The last visit. -/
def last? (trace : Trace) : Option (RuleId × Bool) := trace.entries.getLast?

/-- The JSON tree of a trace: an object from the texts of the ids to the outcomes, in order. -/
def toJson (trace : Trace) : Json :=
  .object (trace.entries.map fun (id, outcome) => (id.toText, .bool outcome))

/-- Recording visits the id and forgets none. -/
theorem contains_record (trace : Trace) (id other : RuleId) (outcome : Bool) :
    (trace.record id outcome).contains other = (trace.contains other || other == id) := by
  unfold record
  split
  · simp only [contains, Assoc.lookup_insert]
    by_cases same : other == id <;> simp [same]
  · rename_i visited
    by_cases same : other = id
    · subst same
      simpa [admits] using visited
    · simp [same]

end Trace

end DecisionFlow
