import DecisionFlow.Assoc
import DecisionFlow.Rule.Compiled

/-!
# Registries

A registry holds rules by their ids and the ids in the order in which they first appeared. Of two
rules with one id the later one counts and the earlier place is kept. A registry is built from
compiled rules or compiled from definitions; all definitions are compiled, also those that a later
one replaces, and the first one that fails is the failure of the whole.
-/
namespace DecisionFlow

/-- Rules by id, with the order of the ids. -/
structure Registry where
  /-- The ids in the order of their first appearance. -/
  order : List RuleId
  /-- The rules by id. -/
  table : List (RuleId × Rule)

namespace Registry

/-- The registry without rules. -/
def empty : Registry := ⟨[], []⟩

/-- The rule with an id. -/
def get? (registry : Registry) (id : RuleId) : Option Rule := registry.table.lookup id

/-- Whether there is a rule with an id. -/
def contains (registry : Registry) (id : RuleId) : Bool := (registry.get? id).isSome

/-- Add a rule, in the place of the rule with its id if there is one. -/
def insert (registry : Registry) (rule : Rule) : Registry :=
  { order := if registry.contains rule.id then registry.order else registry.order ++ [rule.id]
    table := Assoc.insert rule.id rule registry.table }

/-- The rule found after an addition is the new one at its id. -/
theorem get?_insert (registry : Registry) (rule : Rule) (id : RuleId) :
    (registry.insert rule).get? id = if id == rule.id then some rule else registry.get? id :=
  Assoc.lookup_insert rule.id id rule registry.table

/-- The registry of some rules. -/
def ofRules (rules : List Rule) : Registry := rules.foldl insert empty

/-- The number of ids. -/
def size (registry : Registry) : Nat := registry.order.length

/-- Whether there are no rules. -/
def isEmpty (registry : Registry) : Bool := registry.order.isEmpty

/-- The ids in the order of their first appearance. -/
def ids (registry : Registry) : List RuleId := registry.order

/-- The rules in the order of the first appearance of their ids. -/
def rules (registry : Registry) : List Rule := registry.order.filterMap registry.get?

/-- A registry while rules are added, with the number of rules that were added. -/
structure Build where
  /-- The registry so far. -/
  registry : Registry := empty
  /-- The number of rules so far. -/
  ingested : Nat := 0

/-- Add a rule and count it. -/
def Build.add (build : Build) (rule : Rule) : Build :=
  ⟨build.registry.insert rule, build.ingested + 1⟩

/-- Add rules and count them. -/
def Build.ofRules (rules : List Rule) : Build := rules.foldl add {}

/-- How many of the rules that were added are not registered, because a later one replaced them.
There is no such number when more rules are registered than were added. -/
def Build.overridden? (build : Build) : Option Nat :=
  if build.registry.size ≤ build.ingested then some (build.ingested - build.registry.size)
  else none

/-- Compile definitions to a registry. -/
def compile {ε : Type} (compiler : String → Except ε Predicate)
    (definitions : List RuleDefinition) : Except (Rejection ε) Registry :=
  (definitions.mapM (Rule.compile compiler)).map ofRules

end Registry

end DecisionFlow
