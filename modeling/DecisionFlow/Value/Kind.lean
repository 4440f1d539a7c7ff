/-!
# Kinds of values

Every value has one of seven kinds. Errors name the kinds of the values they are about.
-/
namespace DecisionFlow

/-- The kind of a value. -/
inductive Kind where
  /-- The null value. -/
  | null
  /-- A truth value. -/
  | bool
  /-- A 64-bit integer. -/
  | int
  /-- A double. -/
  | float
  /-- A text. -/
  | string
  /-- A list of values. -/
  | list
  /-- A map from texts to values. -/
  | map
deriving DecidableEq, Repr

/-- The name of a kind. -/
def Kind.name : Kind → String
  | .null => "null"
  | .bool => "bool"
  | .int => "int"
  | .float => "float"
  | .string => "string"
  | .list => "list"
  | .map => "map"

end DecisionFlow
