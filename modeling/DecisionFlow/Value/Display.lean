import DecisionFlow.Number.Layout
import DecisionFlow.Text.Quoted
import DecisionFlow.Value.Basic

/-!
# Display of values

A value that stands alone is displayed plainly: a text as it is, a number by its shortest
digits. Inside a list or map each value is tagged with its kind, and texts are quoted.

A map has its entries in no order of its own; they are displayed in the order of an `Enumeration`,
which the display is given. One enumeration stands for one outcome of hashing, so what is proved of
evaluation is proved for every enumeration.
-/
namespace DecisionFlow.Value

/-- A way to enumerate the entries of maps, which is all that the display of a map leaves open. -/
class Enumeration where
  /-- The entries of a map in the order in which they are enumerated. -/
  arrange {α : Type} : List (String × α) → List (String × α)
  /-- No entry is left out, added or repeated. -/
  arrange_perm {α : Type} (entries : List (String × α)) : (arrange entries).Perm entries

/-- Entries are enumerated as they were inserted. -/
instance : Enumeration := ⟨id, fun entries => .refl entries⟩

variable [Enumeration]

/-- The displays of the values under some keys, each after its quoted key, in the order of the
enumeration. -/
def joinedEntries (entries : List (String × String)) : String :=
  ", ".intercalate ((Enumeration.arrange entries).map fun entry =>
    Text.quotedString entry.1 ++ ": " ++ entry.2)

mutual

/-- A value inside another: tagged with its kind. -/
def tagged : Value → String
  | .null => "Null"
  | .bool value => "Bool(" ++ (if value then "true" else "false") ++ ")"
  | .int value => "Int(" ++ Text.integerText value ++ ")"
  | .float value => "Float(" ++ Number.Layout.tagged.text value ++ ")"
  | .string value => "String(" ++ Text.quotedString value ++ ")"
  | .list items => "List([" ++ ", ".intercalate (taggedItems items) ++ "])"
  | .map entries => "Map(\x7b" ++ joinedEntries (taggedEntries entries) ++ "\x7d)"

/-- The items of a list, each tagged. -/
def taggedItems : List Value → List String
  | [] => []
  | item :: rest => tagged item :: taggedItems rest

/-- The entries of a map, each value tagged. -/
def taggedEntries : List (String × Value) → List (String × String)
  | [] => []
  | (key, value) :: rest => (key, tagged value) :: taggedEntries rest

end

/-- A value that stands alone. -/
def display : Value → String
  | .null => "null"
  | .bool value => if value then "true" else "false"
  | .int value => Text.integerText value
  | .float value => Number.Layout.plain.text value
  | .string value => value
  | .list items => "[" ++ ", ".intercalate (taggedItems items) ++ "]"
  | .map entries => "\x7b" ++ joinedEntries (taggedEntries entries) ++ "\x7d"

end DecisionFlow.Value
