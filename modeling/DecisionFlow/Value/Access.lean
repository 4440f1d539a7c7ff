import DecisionFlow.Eval.Error
import DecisionFlow.Value.Basic

/-!
# Fields and indexes

A field of a map is its value at a key, and null where the key is absent. A list is indexed by
integers, negative ones counting from the end, and a map by texts; where there is nothing, the
result is null.
-/
namespace DecisionFlow.Value

/-- The field of a map; null when the key is absent. -/
def field (value : Value) (name : String) : Except EvalError Value :=
  match value with
  | .map entries => .ok ((entries.lookup name).getD .null)
  | other => .error (.noField name other.kind)

/-- The position in a list that an integer means: negative integers count from the end. -/
def position (length : Nat) (index : Int) : Int := if index < 0 then length + index else index

/-- The item of a list or the value of a map at an index; null when there is none. -/
def index (value key : Value) : Except EvalError Value :=
  match value, key with
  | .list items, .int index =>
    let place := position items.length index.toInt
    if place < 0 then .ok .null else .ok ((items[place.toNat]?).getD .null)
  | .map entries, .string name => .ok ((entries.lookup name).getD .null)
  | base, key => .error (.noIndex base.kind key.kind)

end DecisionFlow.Value
