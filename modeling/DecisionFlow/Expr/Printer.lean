import DecisionFlow.Expr.Basic
import DecisionFlow.Number.Layout

/-!
# The text of expressions

An expression is written with every operator application and conditional in parentheses, so its
structure shows. In texts and keys only the double quote is escaped.
-/
namespace DecisionFlow.Expr

/-- A text literal: double quotes around the text, its own double quotes escaped. -/
def quoteText (text : List Char) : List Char :=
  '"' :: text.flatMap (fun c => if c = '"' then ['\\', '"'] else [c]) ++ ['"']

mutual

/-- The text of an expression. -/
def toText : Expr → List Char
  | .null => ['n', 'u', 'l', 'l']
  | .bool true => ['t', 'r', 'u', 'e']
  | .bool false => ['f', 'a', 'l', 's', 'e']
  | .int value => Text.writeInt64 value
  | .float value => Number.Layout.plain.write value
  | .string value => quoteText value.toList
  | .list items => '[' :: itemsText items ++ [']']
  | .map entries => '\x7b' :: entriesText entries ++ ['\x7d']
  | .ident name => name.toList
  | .field base name => toText base ++ '.' :: name.toList
  | .index base key => toText base ++ '[' :: toText key ++ [']']
  | .unary op operand => op.symbol.toList ++ toText operand
  | .binary op left right =>
    '(' :: toText left ++ ' ' :: op.symbol.toList ++ ' ' :: toText right ++ [')']
  | .ternary condition yes no =>
    '(' :: toText condition ++ [' ', '?', ' '] ++ toText yes ++ [' ', ':', ' '] ++ toText no ++
      [')']
  | .call name arguments => name.toList ++ '(' :: itemsText arguments ++ [')']

/-- Expressions separated by a comma and a space. -/
def itemsText : List Expr → List Char
  | [] => []
  | [item] => toText item
  | item :: rest => toText item ++ ',' :: ' ' :: itemsText rest

/-- Keys with expressions, separated by a comma and a space. -/
def entriesText : List (String × Expr) → List Char
  | [] => []
  | [(key, value)] => quoteText key.toList ++ ':' :: ' ' :: toText value
  | (key, value) :: rest =>
    quoteText key.toList ++ ':' :: ' ' :: toText value ++ ',' :: ' ' :: entriesText rest

end

/-- The text of an expression as a string. -/
def source (expr : Expr) : String := String.ofList expr.toText

section Append

variable (rest : List Char)

/-- The text of a list in front of a rest. -/
theorem list_append (items : List Expr) :
    (list items).toText ++ rest = '[' :: (itemsText items ++ ']' :: rest) := by
  show ('[' :: itemsText items ++ [']']) ++ rest = _
  simp

/-- The text of a map in front of a rest. -/
theorem map_append (entries : List (String × Expr)) :
    (map entries).toText ++ rest = '\x7b' :: (entriesText entries ++ '\x7d' :: rest) := by
  show ('\x7b' :: entriesText entries ++ ['\x7d']) ++ rest = _
  simp

/-- The text of a field in front of a rest. -/
theorem field_append (base : Expr) (name : String) :
    (field base name).toText ++ rest = base.toText ++ '.' :: (name.toList ++ rest) := by
  show (base.toText ++ '.' :: name.toList) ++ rest = _
  simp

/-- The text of an index in front of a rest. -/
theorem index_append (base key : Expr) :
    (index base key).toText ++ rest = base.toText ++ '[' :: (key.toText ++ ']' :: rest) := by
  show (base.toText ++ '[' :: key.toText ++ [']']) ++ rest = _
  simp

/-- The text of a prefix operator in front of a rest. -/
theorem unary_append (op : UnaryOp) (operand : Expr) :
    (unary op operand).toText ++ rest = op.symbol.toList ++ (operand.toText ++ rest) := by
  show (op.symbol.toList ++ operand.toText) ++ rest = _
  simp

/-- The text of an operator in front of a rest. -/
theorem binary_append (op : BinaryOp) (left right : Expr) :
    (binary op left right).toText ++ rest =
      '(' :: (left.toText ++
        ' ' :: (op.symbol.toList ++ ' ' :: (right.toText ++ ')' :: rest))) := by
  show ('(' :: left.toText ++ ' ' :: op.symbol.toList ++ ' ' :: right.toText ++ [')']) ++ rest = _
  simp

/-- The text of a conditional in front of a rest. -/
theorem ternary_append (condition yes no : Expr) :
    (ternary condition yes no).toText ++ rest =
      '(' :: (condition.toText ++ ' ' :: '?' :: ' ' ::
        (yes.toText ++ ' ' :: ':' :: ' ' :: (no.toText ++ ')' :: rest))) := by
  show ('(' :: condition.toText ++ [' ', '?', ' '] ++ yes.toText ++ [' ', ':', ' '] ++ no.toText ++
    [')']) ++ rest = _
  simp

/-- The text of a call in front of a rest. -/
theorem call_append (name : String) (arguments : List Expr) :
    (call name arguments).toText ++ rest =
      name.toList ++ '(' :: (itemsText arguments ++ ')' :: rest) := by
  show (name.toList ++ '(' :: itemsText arguments ++ [')']) ++ rest = _
  simp

end Append

end DecisionFlow.Expr
