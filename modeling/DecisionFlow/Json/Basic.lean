import DecisionFlow.Number.Binary64

/-!
# JSON trees

A JSON tree keeps the members of its objects in the order of the text, repeated keys included. A
literal can be well formed and still denote nothing: a number out of range, a string whose
escapes name half a character, an array or object nested past the limit. Such a literal is read
as `broken`; it is an error wherever its value is asked for and harmless where it is not.
-/
namespace DecisionFlow

/-- A JSON tree. -/
inductive Json where
  /-- The literal `null`. -/
  | null
  /-- A truth value. -/
  | bool (value : Bool)
  /-- An integer literal from `-2 ^ 63` up to `2 ^ 64 - 1`. -/
  | int (value : Int)
  /-- Any other number. -/
  | float (value : Float)
  /-- A string. -/
  | string (value : String)
  /-- An array. -/
  | array (items : List Json)
  /-- An object: its members in order. -/
  | object (members : List (String × Json))
  /-- A well-formed literal without a value. -/
  | broken
deriving Inhabited

namespace Json

mutual

/-- Whether a tree has a value throughout. -/
def isWhole : Json → Bool
  | .broken => false
  | .array items => allWhole items
  | .object members => membersWhole members
  | _ => true

/-- Whether all trees of a list have values throughout. -/
def allWhole : List Json → Bool
  | [] => true
  | item :: rest => isWhole item && allWhole rest

/-- Whether all members of an object have values throughout. -/
def membersWhole : List (String × Json) → Bool
  | [] => true
  | (_, value) :: rest => isWhole value && membersWhole rest

end

mutual

/-- How many arrays and objects are nested in one another. -/
def nesting : Json → Nat
  | .array items => itemsNesting items + 1
  | .object members => membersNesting members + 1
  | _ => 0

/-- The deepest nesting in a list of trees. -/
def itemsNesting : List Json → Nat
  | [] => 0
  | item :: rest => max (nesting item) (itemsNesting rest)

/-- The deepest nesting among the members of an object. -/
def membersNesting : List (String × Json) → Nat
  | [] => 0
  | (_, value) :: rest => max (nesting value) (membersNesting rest)

end

end Json

end DecisionFlow
