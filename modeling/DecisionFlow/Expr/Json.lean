import DecisionFlow.Expr.Basic
import DecisionFlow.Json.Reader
import DecisionFlow.Json.Writer
import DecisionFlow.Number.Word

/-!
# The JSON form of expressions

A compiled expression can be kept as JSON: each node is an object with one member, named by the
tag of the node and holding its parts, in an array when there are several. The null literal and
the operators have no parts and are written as their tags. A double that is no number or not
finite is written as null, and null is not read as a double; so exactly the trees whose doubles
are finite are read back.
-/
namespace DecisionFlow

/-- The tag of a prefix operator. -/
def UnaryOp.tag : UnaryOp → String
  | .not => "Not"
  | .neg => "Neg"

/-- The tag of an operator. -/
def BinaryOp.tag : BinaryOp → String
  | .add => "Add"
  | .sub => "Sub"
  | .mul => "Mul"
  | .div => "Div"
  | .mod => "Mod"
  | .eq => "Eq"
  | .ne => "Ne"
  | .lt => "Lt"
  | .le => "Le"
  | .gt => "Gt"
  | .ge => "Ge"
  | .and => "And"
  | .or => "Or"
  | .contains => "Contains"
  | .startsWith => "StartsWith"
  | .endsWith => "EndsWith"
  | .matchesPattern => "Matches"
  | .member => "In"

/-- All prefix operators. -/
def UnaryOp.all : List UnaryOp := [.not, .neg]

/-- All operators between two operands. -/
def BinaryOp.all : List BinaryOp :=
  [.add, .sub, .mul, .div, .mod, .eq, .ne, .lt, .le, .gt, .ge, .and, .or, .contains, .startsWith,
    .endsWith, .matchesPattern, .member]

/-- The tag of a node without parts: it stands alone, or above a null. -/
def Json.bareTag? : Json → Option String
  | .string tag => some tag
  | .object [(tag, .null)] => some tag
  | _ => none

/-- The prefix operator that a JSON tree means. -/
def UnaryOp.ofJson? (tree : Json) : Option UnaryOp := do
  let tag ← tree.bareTag?
  UnaryOp.all.find? (·.tag == tag)

/-- The operator that a JSON tree means. -/
def BinaryOp.ofJson? (tree : Json) : Option BinaryOp := do
  let tag ← tree.bareTag?
  BinaryOp.all.find? (·.tag == tag)

namespace Expr

/-- A node with its tag. -/
def tagged (tag : String) (content : Json) : Json := .object [(tag, content)]

mutual

/-- The JSON form of an expression. -/
def toJson : Expr → Json
  | .null => .string "Null"
  | .bool value => tagged "Bool" (.bool value)
  | .int value => tagged "Int" (.int value.toInt)
  | .float value => tagged "Float" (if value.isFinite then .float value else .null)
  | .string value => tagged "String" (.string value)
  | .list items => tagged "List" (.array (itemsToJson items))
  | .map entries => tagged "Map" (.array (entriesToJson entries))
  | .ident name => tagged "Ident" (.string name)
  | .field base name => tagged "Field" (.array [toJson base, .string name])
  | .index base key => tagged "Index" (.array [toJson base, toJson key])
  | .unary op operand => tagged "Unary" (.array [.string op.tag, toJson operand])
  | .binary op left right =>
    tagged "Binary" (.array [.string op.tag, toJson left, toJson right])
  | .ternary condition yes no =>
    tagged "Ternary" (.array [toJson condition, toJson yes, toJson no])
  | .call name arguments => tagged "Call" (.array [.string name, .array (itemsToJson arguments)])

/-- The JSON forms of expressions. -/
def itemsToJson : List Expr → List Json
  | [] => []
  | item :: rest => toJson item :: itemsToJson rest

/-- The JSON forms of keys with expressions: arrays of two. -/
def entriesToJson : List (String × Expr) → List Json
  | [] => []
  | (key, value) :: rest => .array [.string key, toJson value] :: entriesToJson rest

end

mutual

/-- The expression of a JSON form. -/
def ofJson? : Json → Option Expr
  | .string tag => if tag == "Null" then some .null else none
  | .object [(tag, content)] => ofContent? tag content
  | _ => none

/-- The expression of a tag and its content. -/
def ofContent? (tag : String) : Json → Option Expr
  | .null => if tag == "Null" then some .null else none
  | .bool value => if tag == "Bool" then some (.bool value) else none
  | .int value =>
    if tag == "Int" then (Number.int64? value).map .int
    else if tag == "Float" then some (.float (Float.ofInt value))
    else none
  | .float value => if tag == "Float" then some (.float value) else none
  | .string value =>
    if tag == "String" then some (.string value)
    else if tag == "Ident" then some (.ident value)
    else none
  | .array items =>
    if tag == "List" then (itemsOfJson? items).map .list
    else if tag == "Map" then (entriesOfJson? items).map .map
    else match items with
      | [first, second] =>
        if tag == "Field" then
          match second with
          | .string name => (ofJson? first).map (.field · name)
          | _ => none
        else if tag == "Index" then do return .index (← ofJson? first) (← ofJson? second)
        else if tag == "Unary" then do
          return .unary (← UnaryOp.ofJson? first) (← ofJson? second)
        else if tag == "Call" then
          match first, second with
          | .string name, .array arguments => (itemsOfJson? arguments).map (.call name)
          | _, _ => none
        else none
      | [first, second, third] =>
        if tag == "Binary" then do
          return .binary (← BinaryOp.ofJson? first) (← ofJson? second) (← ofJson? third)
        else if tag == "Ternary" then do
          return .ternary (← ofJson? first) (← ofJson? second) (← ofJson? third)
        else none
      | _ => none
  | _ => none

/-- The expressions of JSON forms. -/
def itemsOfJson? : List Json → Option (List Expr)
  | [] => some []
  | item :: rest => do return (← ofJson? item) :: (← itemsOfJson? rest)

/-- Keys with expressions from arrays of two. -/
def entriesOfJson? : List Json → Option (List (String × Expr))
  | [] => some []
  | .array [.string key, value] :: rest => do
    return (key, ← ofJson? value) :: (← entriesOfJson? rest)
  | _ => none

end

/-- The JSON text of an expression. -/
def write (expr : Expr) : String := expr.toJson.compact

/-- The expression of a JSON text. -/
def read? (text : String) : Option Expr := do ofJson? (← Json.readWhole? text)

end Expr

end DecisionFlow
