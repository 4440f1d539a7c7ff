import DecisionFlow.Rule.Id
import DecisionFlow.Settings.Text

/-!
# Settings

Settings say where walks start, how predicates are compiled, where the flow is and what is
logged. They are given in three sections, in which everything has a default; a key or section
that means nothing is an error. A section may also be written as a list of its values in order.
-/
namespace DecisionFlow

/-- How flows are compiled and walked. -/
structure EngineSettings where
  /-- The entry of runs that name none. -/
  defaultEntry : RuleId := .entry
  /-- The name that stands for the record. -/
  param : String := "record"
  /-- Whether predicates are function bodies. -/
  statementBodies : Bool := false
deriving DecidableEq, Repr

/-- All settings. -/
structure Settings where
  /-- How flows are compiled and walked. -/
  engine : EngineSettings := {}
  /-- The path of the flow. -/
  path : Option String := none
  /-- What is logged. -/
  filter : String := "warn"
deriving DecidableEq, Repr

namespace Settings

/-- The id that a value means. -/
def Value.ruleId? : Value → Option RuleId
  | .integer value => some (.int value)
  | .string value => some (RuleId.ofText value)
  | _ => none

/-- The text that a value is. -/
def Value.text? : Value → Option String
  | .string value => some value
  | _ => none

/-- The truth value that a value is. -/
def Value.bool? : Value → Option Bool
  | .bool value => some value
  | _ => none

/-- The values of the keys of a section; keys beyond them are an error. In a list the values
stand in the order of the keys. -/
def Value.fields? (keys : List String) : Value → Option (List (String × Value))
  | .table entries => if entries.all fun entry => keys.contains entry.1 then some entries else none
  | .list items => some (keys.zip items)
  | _ => none

/-- The value of a key, or its default. -/
def field? {α : Type} (fields : List (String × Value)) (key : String)
    (read : Value → Option α) (default : α) : Option α :=
  match fields.lookup key with
  | some value => read value
  | none => some default

/-- The engine settings in a section. -/
def engine? (value : Value) : Option EngineSettings := do
  let fields ← value.fields? ["default_entry", "param", "statement_bodies"]
  let defaults : EngineSettings := {}
  return {
    defaultEntry := ← field? fields "default_entry" Value.ruleId? defaults.defaultEntry
    param := ← field? fields "param" Value.text? defaults.param
    statementBodies := ← field? fields "statement_bodies" Value.bool? defaults.statementBodies }

/-- The path in a section. A list has to have it. -/
def path? (value : Value) : Option (Option String) := do
  let fields ← value.fields? ["path"]
  if value matches .list [] then none
  field? fields "path" (fun value => value.text?.map some) none

/-- The log filter in a section. -/
def filter? (value : Value) : Option String := do
  field? (← value.fields? ["filter"]) "filter" Value.text? ({} : Settings).filter

/-- The settings in a text. -/
def read? (text : String) : Option Settings := do
  let sections ← readSections? text
  guard (sections.all fun entry => ["engine", "rules", "logging"].contains entry.1)
  return {
    engine := ← field? sections "engine" engine? {}
    path := ← field? sections "rules" path? none
    filter := ← field? sections "logging" filter? ({} : Settings).filter }

end Settings

end DecisionFlow
