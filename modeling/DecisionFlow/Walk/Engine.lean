import DecisionFlow.Walk.Basic

/-!
# Engines

An engine runs records through a registry, from a given entry or from its default one. A run is a
walk from an empty trace: it gives the trace, or the failure that ended it.
-/
namespace DecisionFlow

/-- The words that name the rule of a failed predicate. -/
def WalkError.opening (error : WalkError) : String :=
  s!"rule {error.rule.toText}: predicate evaluation failed: "

/-- A failed predicate as a message. -/
def WalkError.message (error : WalkError) : String := error.opening ++ error.cause.message

/-- The outcome of a walk: its trace, or its failure. -/
def Walked.result (walked : Walked) : Except WalkError Trace :=
  match walked.failure with
  | none => .ok walked.trace
  | some failure => .error failure

/-- A registry with the entry of runs that name none. -/
structure Engine where
  /-- The rules. -/
  registry : Registry
  /-- The entry of runs that name none. -/
  defaultEntry : RuleId := .entry

namespace Engine

variable [Regex.Matcher] [Value.Enumeration]

/-- The walk of a record from an entry, in a trace of earlier visits. -/
def resume (engine : Engine) (entry : Option RuleId) (record : Value) (trace : Trace) : Walked :=
  engine.registry.walk record trace (entry.getD engine.defaultEntry)

/-- The walk of a record from an entry. -/
def run (engine : Engine) (entry : Option RuleId) (record : Value) : Walked :=
  engine.resume entry record .empty

end Engine

end DecisionFlow
