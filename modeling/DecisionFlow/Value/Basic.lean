import DecisionFlow.Assoc
import DecisionFlow.Json.Basic
import DecisionFlow.Number.Binary64
import DecisionFlow.Number.Word
import DecisionFlow.Value.Kind

/-!
# Values

A value is what a predicate computes with: a JSON-like tree whose numbers are either 64-bit
integers or doubles. A map holds its entries in a list with distinct keys; no operation depends
on their order, and a display shows them in the order of an enumeration it is given. `Value.same`
is the strict equality of values: it tells integers from doubles, follows the equality of doubles,
and compares maps as maps.
-/
namespace DecisionFlow

/-- A value. -/
inductive Value where
  /-- The null value. -/
  | null
  /-- A truth value. -/
  | bool (value : Bool)
  /-- A 64-bit integer. -/
  | int (value : Int64)
  /-- A double. -/
  | float (value : Float)
  /-- A text. -/
  | string (value : String)
  /-- A list of values. -/
  | list (items : List Value)
  /-- A map from distinct texts to values. -/
  | map (entries : List (String × Value))
deriving Inhabited

namespace Value

/-- The kind of a value. -/
def kind : Value → Kind
  | .null => .null
  | .bool _ => .bool
  | .int _ => .int
  | .float _ => .float
  | .string _ => .string
  | .list _ => .list
  | .map _ => .map

/-- Whether a value counts as true. Null, zero, the number that is none and the empty text do
not; lists and maps always do. -/
def truthy : Value → Bool
  | .null => false
  | .bool value => value
  | .int value => value != 0
  | .float value => value != 0.0 && !value.isNaN
  | .string value => !value.isEmpty
  | .list _ => true
  | .map _ => true

/-- The map of a list of entries; the last value of a repeated key wins. -/
def ofEntries (entries : List (String × Value)) : Value := .map (Assoc.ofList entries)

mutual

/-- Strict equality. -/
def same : Value → Value → Bool
  | .null, .null => true
  | .bool a, .bool b => a == b
  | .int a, .int b => a == b
  | .float a, .float b => a == b
  | .string a, .string b => a == b
  | .list items, .list others => sameItems items others
  | .map entries, .map others =>
    entries.length == others.length && sameEntries entries others
  | _, _ => false

/-- Strict equality of lists, item by item. -/
def sameItems : List Value → List Value → Bool
  | [], [] => true
  | item :: rest, other :: others => same item other && sameItems rest others
  | _, _ => false

/-- Whether a map has an equal value at every key of some entries. -/
def sameEntries : List (String × Value) → List (String × Value) → Bool
  | [], _ => true
  | (key, value) :: rest, others =>
    (match others.lookup key with
      | some other => same value other
      | none => false) && sameEntries rest others

end

mutual

/-- The value of a JSON tree: an integer literal is an integer when it fits and a double
otherwise, and the last of repeated keys wins. -/
def ofJson : Json → Value
  | .null => .null
  | .bool value => .bool value
  | .int value =>
    match Number.int64? value with
    | some word => .int word
    | none => .float (Float.ofInt value)
  | .float value => .float value
  | .string value => .string value
  | .array items => .list (ofJsonItems items)
  | .object members => ofEntries (ofJsonMembers members)
  | .broken => .null

/-- The values of JSON trees. -/
def ofJsonItems : List Json → List Value
  | [] => []
  | item :: rest => ofJson item :: ofJsonItems rest

/-- The values of the members of an object. -/
def ofJsonMembers : List (String × Json) → List (String × Value)
  | [] => []
  | (key, value) :: rest => (key, ofJson value) :: ofJsonMembers rest

end

/-- The value at a key, when the value is a map that has it. -/
def get? : Value → String → Option Value
  | .map entries, key => entries.lookup key
  | _, _ => none

end Value

end DecisionFlow
