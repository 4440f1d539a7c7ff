import DecisionFlow.Eval.Basic
import DecisionFlow.Rule.Definition
import DecisionFlow.Source.Compiler

/-!
# Compiled rules

A predicate is an expression with the name that stands for the record, or any function from
records to values. A compiled rule has a predicate in place of its source, and keeps the source.
-/
namespace DecisionFlow

/-- What a rule asks of a record. -/
inductive Predicate where
  /-- An expression, with the name that stands for the record. -/
  | expression (tree : Expr) (param : String)
  /-- A function. -/
  | function (image : Value → Except EvalError Value)

/-- The value of a predicate on a record. -/
def Predicate.evaluate [Regex.Matcher] [Value.Enumeration] (predicate : Predicate)
    (record : Value) : Except EvalError Value :=
  match predicate with
  | .expression tree param => Eval.eval ⟨record, param⟩ tree
  | .function image => image record

/-- The predicate of a source. -/
def Compiler.predicate (compiler : Compiler) (source : String) : Except SourceError Predicate :=
  (compiler.compile source).map fun tree => .expression tree compiler.param

/-- A rule that can be applied to records. -/
structure Rule where
  /-- The id. -/
  id : RuleId
  /-- The title. -/
  title : String
  /-- The predicate. -/
  predicate : Predicate
  /-- The rule that follows when the predicate holds. -/
  trueNext : Option RuleId := none
  /-- The rule that follows when the predicate fails. -/
  falseNext : Option RuleId := none
  /-- The source of the predicate, empty for a predicate without one. -/
  source : String := ""

/-- A rule whose predicate does not compile: its id and the reason. -/
structure Rejection (ε : Type) where
  /-- The id of the rule. -/
  rule : RuleId
  /-- The reason. -/
  reason : ε
deriving DecidableEq, Repr

/-- A rejected rule as a message. -/
def Rejection.message (rejection : Rejection SourceError) : String :=
  s!"rule {rejection.rule.toText}: predicate does not compile: {rejection.reason.message}"

namespace Rule

/-- The rule that follows an outcome. -/
def next (rule : Rule) (outcome : Bool) : Option RuleId :=
  if outcome then rule.trueNext else rule.falseNext

/-- Compile a definition; a failure names the rule. -/
def compile {ε : Type} (compiler : String → Except ε Predicate) (definition : RuleDefinition) :
    Except (Rejection ε) Rule :=
  match compiler definition.predicate with
  | .error reason => .error ⟨definition.id, reason⟩
  | .ok predicate =>
    .ok {
      id := definition.id
      title := definition.title
      predicate
      trueNext := definition.trueNext
      falseNext := definition.falseNext
      source := definition.predicate }

end Rule

end DecisionFlow
