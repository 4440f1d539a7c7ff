import DecisionFlow.Walk.Basic

/-!
# Step lines and log events

A step of a walk is reported in one of two forms: as a line for a reader, or as a log event, which
is raised one level when the step closes a cycle.
-/
namespace DecisionFlow

/-- The word for an outcome. -/
def verdict (outcome : Bool) : String := if outcome then "passed" else "failed"

/-- The line for a step: the title, the outcome and the successor. -/
def Step.line (step : Step) : String :=
  let next := (step.next.map RuleId.toText).getD "null"
  s!"{step.title} {verdict step.outcome} next will be id: {next}"

/-- The lines for a step, with a remark when it closes a cycle. -/
def Step.lines (step : Step) : List String :=
  if step.cycle then [step.line, "circular!"] else [step.line]

/-- The levels of log events. -/
inductive LogLevel where
  /-- For following a walk in detail. -/
  | debug
  /-- For what is worth noticing. -/
  | info
deriving DecidableEq, Repr

/-- The name of a level. -/
def LogLevel.name : LogLevel → String
  | .debug => "DEBUG"
  | .info => "INFO"

/-- A step as a log event. -/
structure LogEvent where
  /-- The level. -/
  level : LogLevel
  /-- The text of the id of the rule. -/
  rule : String
  /-- The title of the rule. -/
  title : String
  /-- The outcome. -/
  outcome : Bool
  /-- The text of the id of the successor. -/
  next : Option String
  /-- Whether the step closes a cycle. -/
  cycle : Bool
  /-- What happened. -/
  message : String
deriving DecidableEq, Repr

/-- The log event of a step. -/
def LogEvent.ofStep (step : Step) : LogEvent where
  level := if step.cycle then .info else .debug
  rule := step.id.toText
  title := step.title
  outcome := step.outcome
  next := step.next.map RuleId.toText
  cycle := step.cycle
  message := if step.cycle then "cycle detected, stopping traversal" else "rule evaluated"

end DecisionFlow
