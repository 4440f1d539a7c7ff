import DecisionFlow.Source.Lexeme

/-!
# Grammar of predicates

Expressions are read by recursive descent. `atom` reads literals, names, calls and everything in
brackets; `accessed`, `unary` and `binary` add access, prefix operators and the levels of
operators; `conditional` adds the conditional. Each of these takes the reader of nested
expressions as an argument, and `expression` ties the knot: its argument is the budget of nested
expressions, so the recursion is on that number. A text of `n` characters never needs a budget
above `n + 1`, because every nested expression starts past at least one character.

A list of items ends without an error before a separator that no item follows; so it is the
missing closing bracket that is reported. An atom that cannot be read is reported as a missing
name at its first character.
-/
namespace DecisionFlow.Source

open DecisionFlow.Text

/-- What was wanted where reading failed. -/
inductive Wanted where
  /-- A certain character. -/
  | character
  /-- A name, or an atom of any sort. -/
  | name
deriving DecidableEq, Repr

/-- Why a text could not be read. -/
inductive Failure where
  /-- Something was wanted at the start of the given rest. -/
  | expected (wanted : Wanted) (rest : List Char)
  /-- The budget of nested expressions is used up. -/
  | exhausted
deriving DecidableEq, Repr

/-- A reader takes something off the front of a text. -/
abbrev Reader (α : Type) := List Char → Except Failure (α × List Char)

/-- Skip white space and take one certain character. -/
def closing (c : Char) (text : List Char) : Except Failure (List Char) :=
  match skipBlank text with
  | [] => .error (.expected .character [])
  | first :: rest =>
    if first = c then .ok rest else .error (.expected .character (first :: rest))

/-- Read further items, each after a comma, at most the given number of them. -/
def moreItems {α : Type} (item : Reader α) : Nat → Reader (List α)
  | 0, text => .ok ([], text)
  | count + 1, text =>
    match skipBlank text with
    | ',' :: after =>
      match item (skipBlank after) with
      | .ok (first, rest) => do
        let (others, rest) ← moreItems item count rest
        return (first :: others, rest)
      | .error .exhausted => .error .exhausted
      | .error _ => .ok ([], text)
    | _ => .ok ([], text)

/-- Read items separated by commas; there may be none. -/
def items {α : Type} (item : Reader α) : Reader (List α) := fun text =>
  match item text with
  | .ok (first, rest) => do
    let (others, rest) ← moreItems item rest.length rest
    return (first :: others, rest)
  | .error .exhausted => .error .exhausted
  | .error _ => .ok ([], text)

/-- Read items between brackets, after the opening one. -/
def bracketed {α : Type} (item : Reader α) (last : Char) : Reader (List α) := fun text => do
  let (read, rest) ← items item (skipBlank text)
  return (read, ← closing last rest)

/-- Read an expression between brackets, after the opening one. -/
def enclosed (expr : Reader Expr) (last : Char) : Reader Expr := fun text => do
  let (read, rest) ← expr (skipBlank text)
  return (read, ← closing last rest)

/-- Read the key of a map entry: a text literal or a name. -/
def mapKey : Reader String := fun text =>
  match readText text with
  | some found => .ok found
  | none =>
    match readName text with
    | some found => .ok found
    | none => .error (.expected .name text)

/-- Read an entry of a map: a key, a colon and an expression. -/
def mapEntry (expr : Reader Expr) : Reader (String × Expr) := fun text => do
  let (key, rest) ← mapKey (skipBlank text)
  let rest ← closing ':' rest
  let (value, rest) ← expr rest
  return ((key, value), rest)

/-- Read a name, or a call when a parenthesis follows the name. -/
def nameOrCall (expr : Reader Expr) : Reader Expr := fun text =>
  match readName text with
  | none => .error (.expected .name text)
  | some (name, rest) =>
    match skipBlank rest with
    | '(' :: inner => do
      let (arguments, rest) ← bracketed expr ')' inner
      return (.call (functionName name) arguments, rest)
    | _ => .ok (.ident name, rest)

/-- A reader whose failure is reported as a missing name at the start of a text. -/
def orName {α : Type} (text : List Char) (result : Except Failure (α × List Char)) :
    Except Failure (α × List Char) :=
  match result with
  | .error (.expected _ _) => .error (.expected .name text)
  | other => other

/-- The literal words. -/
def wordLiterals : List (List Char × Expr) :=
  [(['n', 'u', 'l', 'l'], .null), (['u', 'n', 'd', 'e', 'f', 'i', 'n', 'e', 'd'], .null),
   (['t', 'r', 'u', 'e'], .bool true), (['f', 'a', 'l', 's', 'e'], .bool false)]

/-- Read a literal word. -/
def readWord (text : List Char) : Option (Expr × List Char) :=
  wordLiterals.findSome? fun literal => (afterKeyword? literal.1 text).map (literal.2, ·)

/-- Read a literal word, a number or a text literal. -/
def readLiteral (text : List Char) : Option (Expr × List Char) :=
  match readWord text with
  | some found => some found
  | none =>
    match readNumber text with
    | some found => some found
    | none => (readText text).map fun (value, rest) => (.string value, rest)

/-- Read an atom: a literal, a list, a map, an expression in parentheses, a name or a call. -/
def atom (expr : Reader Expr) : Reader Expr := fun text =>
  let text := skipBlank text
  match readLiteral text with
  | some found => .ok found
  | none =>
    match text with
    | '[' :: inner =>
      orName text ((bracketed expr ']' inner).map fun (items, rest) => (.list items, rest))
    | '\x7b' :: inner =>
      orName text
        ((bracketed (mapEntry expr) '\x7d' inner).map fun (entries, rest) => (.map entries, rest))
    | '(' :: inner => orName text (enclosed expr ')' inner)
    | text => nameOrCall expr text

/-- Read the accesses after an expression, at most the given number of them: fields, methods and
indexes. -/
def accesses (expr : Reader Expr) : Nat → Expr → Reader Expr
  | 0, base, text => .ok (base, skipBlank text)
  | count + 1, base, text =>
    match skipBlank text with
    | '.' :: after =>
      match readName (skipBlank after) with
      | none => .error (.expected .name (skipBlank after))
      | some (name, rest) =>
        match skipBlank rest with
        | '(' :: inner => do
          let (arguments, rest) ← bracketed expr ')' inner
          accesses expr count (methodCall base name arguments) rest
        | _ => accesses expr count (.field base name) rest
    | '[' :: inner => do
      let (key, rest) ← enclosed expr ']' inner
      accesses expr count (.index base key) rest
    | rest => .ok (base, rest)

/-- Read an atom and the accesses after it. -/
def accessed (expr : Reader Expr) : Reader Expr := fun text => do
  let (base, rest) ← atom expr text
  accesses expr rest.length base rest

/-- Read prefix operators and their operand. -/
def unary (expr : Reader Expr) : Reader Expr := fun text => do
  let (ops, rest) := readPrefixOps text
  let (operand, rest) ← accessed expr rest
  return (ops.foldr .unary operand, rest)

/-- Read further operators of a level with their right operands, at most the given number of
them; they group to the left. -/
def chain (operand : Reader Expr) (level : List (List Char × BinaryOp)) :
    Nat → Expr → Reader Expr
  | 0, left, text => .ok (left, skipBlank text)
  | count + 1, left, text =>
    match readOperator level (skipBlank text) with
    | none => .ok (left, skipBlank text)
    | some (op, rest) => do
      let (right, rest) ← operand rest
      chain operand level count (.binary op left right) rest

/-- Read operands with the operators of some levels, the loosest level first. -/
def binary (expr : Reader Expr) : List (List (List Char × BinaryOp)) → Reader Expr
  | [] => unary expr
  | level :: tighter => fun text => do
    let (left, rest) ← binary expr tighter text
    chain (binary expr tighter) level rest.length left rest

/-- Read an expression, given the reader of nested ones: operators, and a conditional when a
question mark follows. -/
def conditional (expr : Reader Expr) : Reader Expr := fun text => do
  let (condition, rest) ← binary expr operatorLevels text
  match skipBlank rest with
  | '?' :: after => do
    let (yes, rest) ← expr after
    let rest ← closing ':' rest
    let (no, rest) ← expr (skipBlank rest)
    return (.ternary condition yes no, rest)
  | rest => return (condition, rest)

/-- Read an expression within a budget of nested expressions. -/
def expression : Nat → Reader Expr
  | 0, _ => .error .exhausted
  | budget + 1, text => conditional (expression budget) text

end DecisionFlow.Source
