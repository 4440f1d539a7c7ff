import DecisionFlow.Rule.Definition
import DecisionFlow.Yaml.Document

/-!
# Flow documents

A flow document is YAML, and therefore also JSON: a list of rule definitions, or a mapping with
such a list under `rules`. A definition is a mapping whose keys are texts. Tags of their own are
ignored on texts, lists and mappings; ids may not bear them.
-/
namespace DecisionFlow

namespace Yaml.Tree

/-- The text that a tree is. -/
def text? (tree : Tree) : Option String :=
  match tree.untagged with
  | .string value => some value
  | _ => none

/-- The id that a tree means: an integer of 64 bits, or a text. -/
def ruleId? : Tree → Option RuleId
  | .int value => (Number.int64? value).map .int
  | .string value => some (RuleId.ofText value)
  | _ => none

/-- The successor that a tree means; null means none. -/
def next? : Tree → Option (Option RuleId)
  | .null => some none
  | tree => tree.ruleId?.map some

/-- The values of fields in YAML trees. -/
def fields : RuleDefinition.FieldReader Tree := ⟨ruleId?, text?, next?⟩

/-- The entries of a mapping with texts for keys; null is the empty mapping. -/
def members? (tree : Tree) : Option (List (String × Tree)) :=
  match tree.untagged with
  | .mapping entries => entries.mapM fun (key, value) => key.text?.map (·, value)
  | .null => some []
  | _ => none

/-- The items of a sequence; null is the empty sequence. -/
def items? (tree : Tree) : Option (List Tree) :=
  match tree.untagged with
  | .sequence items => some items
  | .null => some []
  | _ => none

/-- The definition that a tree means. -/
def definition? (tree : Tree) : Option RuleDefinition := do
  RuleDefinition.ofMembers? fields (← tree.members?)

/-- The definitions that a tree means. -/
def definitions? (tree : Tree) : Option (List RuleDefinition) := do
  (← tree.items?).mapM definition?

/-- The definitions under `rules`, which has to be there once. -/
def ruleList? (tree : Tree) : Option (List RuleDefinition) := do
  match (← tree.members?).filter (·.1 == "rules") with
  | [(_, rules)] => rules.definitions?
  | _ => none

end Yaml.Tree

/-- Why a text is no flow document. -/
inductive FlowError where
  /-- It is no YAML, or the definitions in it are wrong. -/
  | malformed
  /-- It is neither a list nor a mapping. -/
  | noList
deriving DecidableEq, Repr

/-- The wording of the cause. -/
def FlowError.detail : FlowError → String
  | .malformed => "the rules cannot be read"
  | .noList => "expected a list of rules or a mapping with a \x60rules\x60 list"

/-- The definitions in the text of a flow document. -/
def readFlow (text : String) : Except FlowError (List RuleDefinition) :=
  match Yaml.Tree.read? text with
  | none => .error .malformed
  | some tree =>
    match tree with
    | .sequence _ => (tree.definitions?).elim (.error .malformed) .ok
    | .mapping _ => (tree.ruleList?).elim (.error .malformed) .ok
    | _ => .error .noList

end DecisionFlow
