import DecisionFlow.Json.Basic
import DecisionFlow.Number.Word
import DecisionFlow.Text.Blank
import DecisionFlow.Text.Integer

/-!
# Rule ids

A rule is identified by an integer or by a name. A text that reads as a 64-bit integer, white
space around it aside, means the integer, so `2`, `"2"` and `" +02 "` are one id; any other text
means the name that is left when it is trimmed.
-/
namespace DecisionFlow

/-- The id of a rule. -/
inductive RuleId where
  /-- An integer. -/
  | int (value : Int64)
  /-- A name. -/
  | name (value : String)
deriving DecidableEq, Repr, Inhabited

namespace RuleId

/-- The id where a walk starts unless another is given. -/
def entry : RuleId := .int 1

/-- The id that a text means. -/
def ofText (text : String) : RuleId :=
  let trimmed := Text.trim text.toList
  match Text.readInt64 trimmed with
  | .ok value => .int value
  | .error _ => .name (String.ofList trimmed)

/-- The text of an id. -/
def toText : RuleId → String
  | .int value => Text.integerText value
  | .name value => value

/-- The id that a JSON tree means: an integer of 64 bits, or a text. -/
def ofJson? : Json → Option RuleId
  | .int value => (Number.int64? value).map .int
  | .string value => some (ofText value)
  | _ => none

/-- The JSON tree of an id. -/
def toJson : RuleId → Json
  | .int value => .int value.toInt
  | .name value => .string value

end RuleId

end DecisionFlow
