import DecisionFlow.Eval.Error
import DecisionFlow.Number.Binary64
import DecisionFlow.Regex.Reader
import DecisionFlow.Text.Search
import DecisionFlow.Value.Display

/-!
# Built-in functions

Fourteen functions are built in. Each checks the number of its arguments first and then their
kinds. The matcher of patterns and the enumeration of maps are parameters.
-/
namespace DecisionFlow.Eval

variable [Regex.Matcher] [Value.Enumeration]

/-- The one argument of a function. -/
def one (name : String) : List Value → Except EvalError Value
  | [value] => .ok value
  | arguments => .error (.arity name 1 arguments.length)

/-- The two arguments of a function. -/
def two (name : String) : List Value → Except EvalError (Value × Value)
  | [first, second] => .ok (first, second)
  | arguments => .error (.arity name 2 arguments.length)

/-- The number of characters, items or entries. -/
def length : Value → Except EvalError Value
  | .string text => .ok (.int (Int64.ofNat text.toList.length))
  | .list items => .ok (.int (Int64.ofNat items.length))
  | .map entries => .ok (.int (Int64.ofNat entries.length))
  | other => .error (.argument "len" "string, list, or map" other.kind)

/-- A function from texts to texts. -/
def onText (name : String) (image : String → String) : Value → Except EvalError Value
  | .string text => .ok (.string (image text))
  | other => .error (.argument name "string" other.kind)

/-- Whether a text contains another, or a list a value strictly equal to another. -/
def contains (collection value : Value) : Except EvalError Value :=
  match collection, value with
  | .string text, .string part => .ok (.bool (Text.contains text part))
  | .list items, value => .ok (.bool (items.any fun item => item.same value))
  | first, second =>
    .error (.arguments "contains" "(string, string) or (list, value)" first.kind second.kind)

/-- A test of two texts. -/
def onTexts (name : String) (test : String → String → Bool) (first second : Value) :
    Except EvalError Value :=
  match first, second with
  | .string a, .string b => .ok (.bool (test a b))
  | first, second => .error (.arguments name "(string, string)" first.kind second.kind)

/-- Whether a text matches a pattern somewhere. -/
def matchText (text pattern : String) : Except EvalError Value :=
  match Regex.Matcher.search pattern text with
  | .ok found => .ok (.bool found)
  | .error cause => .error (.invalidPattern cause)

/-- The pattern match as a function. -/
def matchCall (first second : Value) : Except EvalError Value :=
  match first, second with
  | .string text, .string pattern => matchText text pattern
  | first, second => .error (.arguments "matches" "(string, string)" first.kind second.kind)

/-- Put texts into the places of a template, a pair of braces each, from left to right. What was
put in is not searched again; places left over stay and texts left over are dropped. -/
def fill : List Char → List (List Char) → List Char
  | '\x7b' :: '\x7d' :: rest, text :: texts => text ++ fill rest texts
  | c :: rest, texts => c :: fill rest texts
  | [], _ => []

/-- The template function: the display of each further argument goes into a place of the
template. -/
def format : List Value → Except EvalError Value
  | [] => .error .noTemplate
  | .string template :: values =>
    .ok (.string (String.ofList (fill template.toList (values.map (·.display.toList)))))
  | other :: _ => .error (.templateNotText other.kind)

/-- The magnitude of a number; the least integer has none and stays. -/
def magnitude : Value → Except EvalError Value
  | .int value => .ok (.int (if value < 0 then -value else value))
  | .float value => .ok (.float value.abs)
  | other => .error (.argument "abs" "number" other.kind)

/-- A choice between two numbers. -/
def choose (name : String) (ints : Int64 → Int64 → Int64) (floats : Float → Float → Float)
    (first second : Value) : Except EvalError Value :=
  match first, second with
  | .int a, .int b => .ok (.int (ints a b))
  | .float a, .float b => .ok (.float (floats a b))
  | .int a, .float b => .ok (.float (floats (Number.ofInt64 a) b))
  | .float a, .int b => .ok (.float (floats a (Number.ofInt64 b)))
  | first, second => .error (.arguments name "numbers" first.kind second.kind)

/-- The integer that a value stands for: a double is truncated and kept in range, a truth value
is zero or one, and a text is read without the white space around it. -/
def toInteger : Value → Except EvalError Value
  | .int value => .ok (.int value)
  | .float value => .ok (.int value.toInt64)
  | .bool value => .ok (.int (if value then 1 else 0))
  | .string text =>
    match Text.readInt64 (Text.trim text.toList) with
    | .ok value => .ok (.int value)
    | .error cause => .error (.notInteger text cause)
  | other => .error (.noInteger other.kind)

/-- Call a function by name. -/
def call (name : String) (arguments : List Value) : Except EvalError Value :=
  match name with
  | "len" => do length (← one name arguments)
  | "lower" => do onText name Text.lower (← one name arguments)
  | "upper" => do onText name Text.upper (← one name arguments)
  | "contains" => do
    let (first, second) ← two name arguments
    contains first second
  | "starts_with" => do
    let (first, second) ← two name arguments
    onTexts name Text.startsWith first second
  | "ends_with" => do
    let (first, second) ← two name arguments
    onTexts name Text.endsWith first second
  | "matches" => do
    let (first, second) ← two name arguments
    matchCall first second
  | "format" => format arguments
  | "abs" => do magnitude (← one name arguments)
  | "min" => do
    let (first, second) ← two name arguments
    choose name (fun a b => if a ≤ b then a else b) Number.lesser first second
  | "max" => do
    let (first, second) ← two name arguments
    choose name (fun a b => if a ≤ b then b else a) Number.greater first second
  | "to_string" => do return .string (← one name arguments).display
  | "to_int" => do toInteger (← one name arguments)
  | "to_bool" => do return .bool (← one name arguments).truthy
  | _ => .error (.undefinedFunction name)

end DecisionFlow.Eval
