import DecisionFlow.Expr.Basic
import DecisionFlow.Source.Statement
import DecisionFlow.Text.Integer

/-!
# Lexemes of predicates

Names, numbers, text literals and operators. A name starts with an ASCII letter or an underscore
and goes on with letters and digits of any script or underscores. Numbers carry no sign. A text
literal stands between single or double quotes; a backslash escapes quotes, backslashes and three
controls, and stays where it escapes anything else.
-/
namespace DecisionFlow.Source

open DecisionFlow.Text

/-- Whether a character starts a name. -/
def isNameStart (c : Char) : Bool := c.isAlpha || c == '_'

/-- What starts a name continues it too. -/
theorem isNameChar_of_isNameStart {c : Char} (starts : isNameStart c = true) :
    isNameChar c = true := by
  simp only [isNameStart, isNameChar, Bool.or_eq_true, beq_iff_eq] at starts ⊢
  cases starts with
  | inl letter =>
    left
    rw [isAlphanumeric_ascii (toNat_lt_of_isAlpha letter), letter, Bool.true_or]
  | inr underscore => exact .inr underscore

/-- Read a name. -/
def readName : List Char → Option (String × List Char)
  | [] => none
  | c :: rest =>
    if isNameStart c then
      some (String.ofList (c :: rest.takeWhile isNameChar), rest.dropWhile isNameChar)
    else none

/-- The digits after a point at the start of a text. -/
def fractionDigits : List Char → List Char
  | '.' :: after => after.takeWhile Char.isDigit
  | _ => []

/-- Read a number: an integer of 64 bits, or digits on both sides of a point. -/
def readNumber (text : List Char) : Option (Expr × List Char) :=
  let whole := text.takeWhile Char.isDigit
  let rest := text.dropWhile Char.isDigit
  if whole.isEmpty then none
  else
    let fraction := fractionDigits rest
    if fraction.isEmpty then
      let value := digitsValue whole
      if value < 0x8000000000000000 then some (.int (Int64.ofNat value), rest) else none
    else
      some (.float (Float.ofScientific (digitsValue (whole ++ fraction)) true fraction.length),
        rest.drop (fraction.length + 1))

/-- What a backslash with a character after it stands for in a text literal. -/
def unescape (c : Char) : List Char :=
  match c with
  | 'n' => ['\n']
  | 't' => ['\t']
  | 'r' => ['\r']
  | '\\' => ['\\']
  | '"' => ['"']
  | '\'' => ['\'']
  | other => ['\\', other]

/-- Read the inside of a text literal up to its closing quote. -/
def readQuoted (quote : Char) : List Char → Option (List Char × List Char)
  | [] => none
  | c :: rest =>
    if c = quote then some ([], rest)
    else if c = '\\' then
      match rest with
      | [] => none
      | escaped :: rest =>
        (readQuoted quote rest).map fun (text, rest) => (unescape escaped ++ text, rest)
    else (readQuoted quote rest).map fun (text, rest) => (c :: text, rest)

/-- Read a text literal. -/
def readText : List Char → Option (String × List Char)
  | '"' :: rest => (readQuoted '"' rest).map fun (text, rest) => (String.ofList text, rest)
  | '\'' :: rest => (readQuoted '\'' rest).map fun (text, rest) => (String.ofList text, rest)
  | _ => none

/-- The spellings of operators from the loosest level to the tightest. Within a level a spelling
comes before those that it extends. -/
def operatorLevels : List (List (List Char × BinaryOp)) :=
  [[(['|', '|'], .or)],
   [(['&', '&'], .and)],
   [(['=', '=', '='], .eq), (['!', '=', '='], .ne), (['=', '='], .eq), (['!', '='], .ne)],
   [(['<', '='], .le), (['>', '='], .ge), (['<'], .lt), (['>'], .gt), (['i', 'n'], .member)],
   [(['+'], .add), (['-'], .sub)],
   [(['*'], .mul), (['/'], .div), (['%'], .mod)]]

/-- Read an operator by one of its spellings; a spelling that is a word does not run on into a
name. -/
def readSpelling (spelling : List Char × BinaryOp) (text : List Char) :
    Option (BinaryOp × List Char) :=
  match afterWord? spelling.1 text with
  | some rest =>
    if startsInName spelling.1 && startsInName rest then none else some (spelling.2, rest)
  | none => none

/-- Read an operator of a level. -/
def readOperator (level : List (List Char × BinaryOp)) (text : List Char) :
    Option (BinaryOp × List Char) :=
  level.findSome? (readSpelling · text)

/-- Read prefix operators with the white space between and after them. -/
def readPrefixOps : List Char → List UnaryOp × List Char
  | [] => ([], [])
  | c :: rest =>
    if isBlank c then readPrefixOps rest
    else if c = '!' then
      let (ops, rest) := readPrefixOps rest
      (.not :: ops, rest)
    else if c = '-' then
      let (ops, rest) := readPrefixOps rest
      (.neg :: ops, rest)
    else ([], c :: rest)

/-- The built-in function that a name in a source means. -/
def functionName (name : String) : String :=
  match name with
  | "size" => "len"
  | "int" => "to_int"
  | "string" => "to_string"
  | "bool" => "to_bool"
  | other => other

/-- The operator that a method with one argument means. -/
def methodOperator (name : String) : Option BinaryOp :=
  match name with
  | "contains" => some .contains
  | "startsWith" => some .startsWith
  | "endsWith" => some .endsWith
  | "matches" => some .matchesPattern
  | _ => none

/-- A method call as an expression: an operator where there is one for the method and it has one
argument, else a call with the receiver as first argument. -/
def methodCall (receiver : Expr) (name : String) (arguments : List Expr) : Expr :=
  match methodOperator name, arguments with
  | some op, [argument] => .binary op receiver argument
  | _, arguments => .call (functionName name) (receiver :: arguments)

end DecisionFlow.Source
