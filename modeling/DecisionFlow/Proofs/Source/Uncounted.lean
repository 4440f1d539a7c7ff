import DecisionFlow.Source.Compiler

/-!
# Readers without counts

The readers of the grammar count their passes and their nested expressions, so they end whatever
they read. Here the same readers count nothing. A loop repeats its pass until the pass stops, and
nested expressions are left to any reader, which may be the very one that is made of them. Such a
reading need not end. It has no result either when a list is stuck: behind a separator that took
nothing off the text a list could go on for ever, so it gives up, and nothing recovers from that.
-/
namespace DecisionFlow.Source

open DecisionFlow.Text

noncomputable section

/-- The course of a reading: its result, or none when it does not end or a list in it is stuck. -/
abbrev Course (α : Type) := ExceptT Failure Option α

/-- A reader that need not end. -/
abbrev OpenReader (α : Type) := List Char → Course (α × List Char)

/-- The course of a reading that is over. -/
def Course.ended {α : Type} (result : Except Failure α) : Course α := some result

/-- A reader that always ends, as one that need not. -/
def Reader.opened {α : Type} (reader : Reader α) : OpenReader α := fun text => .ended (reader text)

/-- What a pass of a loop over a text comes to. -/
inductive Pass (σ α : Type) where
  /-- The loop goes on with the given state and rest. -/
  | again (state : σ) (rest : List Char)
  /-- The loop stops with the given value and rest. -/
  | stop (value : α) (rest : List Char)

/-- A pass over a text from a state of the loop. -/
abbrev LoopPass (σ α : Type) := σ → List Char → Course (Pass σ α)

/-- What a loop over a text comes to, one pass after the other, when a pass stops or fails. -/
inductive Repeats {σ α : Type} (pass : LoopPass σ α) :
    σ → List Char → Except Failure (α × List Char) → Prop
  /-- The loop goes on. -/
  | again {state state' : σ} {text rest : List Char} {result : Except Failure (α × List Char)}
    (turn : pass state text = .ended (.ok (.again state' rest)))
    (further : Repeats pass state' rest result) : Repeats pass state text result
  /-- The loop stops. -/
  | stop {state : σ} {text : List Char} {value : α} {rest : List Char}
    (turn : pass state text = .ended (.ok (.stop value rest))) :
    Repeats pass state text (.ok (value, rest))
  /-- The pass fails. -/
  | failed {state : σ} {text : List Char} {failure : Failure}
    (turn : pass state text = .ended (.error failure)) : Repeats pass state text (.error failure)

section Loops

variable {σ α : Type} {pass : LoopPass σ α} {state : σ} {text : List Char}
  {result other : Except Failure (α × List Char)}

/-- A loop comes to one result. -/
theorem Repeats.unique (repeats : Repeats pass state text result)
    (repeats' : Repeats pass state text other) : result = other := by
  induction repeats with
  | again turn _ ih =>
    cases repeats' with
    | again turn' further =>
      cases turn.symm.trans turn'
      exact ih further
    | stop turn' | failed turn' => cases turn.symm.trans turn'
  | stop turn =>
    cases repeats' with
    | again turn' | failed turn' => cases turn.symm.trans turn'
    | stop turn' =>
      cases turn.symm.trans turn'
      rfl
  | failed turn =>
    cases repeats' with
    | again turn' | stop turn' => cases turn.symm.trans turn'
    | failed turn' =>
      cases turn.symm.trans turn'
      rfl

open scoped Classical in
/-- A loop over a text. It has no result when it goes on for ever, or one of its passes does. -/
def repeating (pass : LoopPass σ α) (state : σ) : OpenReader α := fun text =>
  if ends : ∃ result, Repeats pass state text result then .ended ends.choose else none

/-- A loop ends with what it comes to. -/
theorem repeating_eq_ended_iff :
    repeating pass state text = .ended result ↔ Repeats pass state text result := by
  unfold repeating
  constructor
  · intro ended
    split at ended
    · rename_i ends
      cases ended
      exact ends.choose_spec
    · contradiction
  · intro repeats
    have ends : ∃ result, Repeats pass state text result := ⟨result, repeats⟩
    rw [dif_pos ends]
    exact congrArg Course.ended (ends.choose_spec.unique repeats)

/-- A loop makes a pass, and goes on when the pass does. -/
theorem repeating_eq (pass : LoopPass σ α) (state : σ) (text : List Char) :
    repeating pass state text = (do
      match ← pass state text with
      | .again state rest => repeating pass state rest
      | .stop value rest => return (value, rest)) := by
  refine Option.ext fun result => repeating_eq_ended_iff.trans ⟨fun repeats => ?_, fun ended => ?_⟩
  · cases repeats with
    | again turn further =>
      rw [turn]
      exact repeating_eq_ended_iff.mpr further
    | stop turn | failed turn =>
      rw [turn]
      rfl
  · cases turn : pass state text with
    | none =>
      rw [turn] at ended
      contradiction
    | some outcome =>
      rw [turn] at ended
      cases outcome with
      | error failure =>
        cases ended
        exact .failed turn
      | ok course =>
        cases course with
        | again state rest => exact .again turn (repeating_eq_ended_iff.mp ended)
        | stop value rest =>
          cases ended
          exact .stop turn

end Loops

namespace Uncounted

/-- What a reading recovers from: when the first course fails, the second one is taken. -/
def orElse {α : Type} (first second : Course α) : Course α :=
  match first with
  | some (.error _) => second
  | other => other

/-- A failure is recovered from. -/
@[simp] theorem orElse_error {α : Type} (failure : Failure) (second : Course α) :
    orElse (.ended (.error failure)) second = second := rfl

/-- Read a character inside a text literal, or its closing quote. A literal that is not closed is
reported at its start. -/
def quotedPass (quote : Char) (start : List Char) : LoopPass (List Char) (List Char) :=
  fun inside text =>
    match text with
    | [] => throw (.expected .character start)
    | c :: rest =>
      if c = quote then return .stop inside rest
      else if c = '\\' then
        match rest with
        | [] => throw (.expected .character start)
        | escaped :: rest => return .again (inside ++ unescape escaped) rest
      else return .again (inside ++ [c]) rest

/-- Read a text literal. -/
def textLiteral : OpenReader String := fun text =>
  match text with
  | [] => throw (.expected .character text)
  | c :: rest =>
    if c = '"' ∨ c = '\'' then do
      let (inside, rest) ← repeating (quotedPass c text) [] rest
      return (String.ofList inside, rest)
    else throw (.expected .character text)

/-- Read a literal word, a number or a text literal. -/
def literal : OpenReader Expr := fun text =>
  match readWord text with
  | some found => return found
  | none =>
    match readNumber text with
    | some found => return found
    | none => do
      let (value, rest) ← textLiteral text
      return (.string value, rest)

/-- Read a separator and an item after the items so far. The items are over where there is no
separator, or no item behind it. -/
def itemsPass {α : Type} (item : OpenReader α) : LoopPass (List α) (List α) := fun items text =>
  match skipBlank text with
  | ',' :: after =>
    let next := skipBlank after
    -- The list is stuck when the separator leaves as much as there was.
    if next.length = text.length then none
    else
      orElse (do
        let (read, rest) ← item next
        return .again (items ++ [read]) rest)
        (return .stop items text)
  | _ => return .stop items text

/-- Read items separated by commas; there may be none. -/
def items {α : Type} (item : OpenReader α) : OpenReader (List α) := fun text => do
  match ← orElse (do return some (← item text)) (return none) with
  | some (first, rest) => repeating (itemsPass item) [first] rest
  | none => return ([], text)

/-- Read items between brackets, after the opening one. -/
def bracketed {α : Type} (item : OpenReader α) (last : Char) : OpenReader (List α) := fun text => do
  let (read, rest) ← items item (skipBlank text)
  return (read, ← .ended (closing last rest))

/-- Read an expression between brackets, after the opening one. -/
def enclosed (expr : OpenReader Expr) (last : Char) : OpenReader Expr := fun text => do
  let (read, rest) ← expr (skipBlank text)
  return (read, ← .ended (closing last rest))

/-- Read the key of a map entry: a text literal or a name. -/
def mapKey : OpenReader String := fun text =>
  orElse (textLiteral text) <|
    match readName text with
    | some found => return found
    | none => throw (.expected .name text)

/-- Read an entry of a map: a key, a colon and an expression. -/
def mapEntry (expr : OpenReader Expr) : OpenReader (String × Expr) := fun text => do
  let (key, rest) ← mapKey (skipBlank text)
  let rest ← .ended (closing ':' rest)
  let (value, rest) ← expr rest
  return ((key, value), rest)

/-- Read a name, or a call when a parenthesis follows the name. -/
def nameOrCall (expr : OpenReader Expr) : OpenReader Expr := fun text =>
  match readName text with
  | none => throw (.expected .name text)
  | some (name, rest) =>
    match skipBlank rest with
    | '(' :: inner => do
      let (arguments, rest) ← bracketed expr ')' inner
      return (.call (functionName name) arguments, rest)
    | _ => return (.ident name, rest)

/-- Read an atom: a literal, a list, a map, an expression in parentheses, a name or a call. -/
def atom (expr : OpenReader Expr) : OpenReader Expr := fun text =>
  let text := skipBlank text
  let missing := throw (.expected .name text)
  orElse (literal text) <|
    match text with
    | '[' :: inner =>
      orElse (do
        let (items, rest) ← bracketed expr ']' inner
        return (.list items, rest)) missing
    | '\x7b' :: inner =>
      orElse (do
        let (entries, rest) ← bracketed (mapEntry expr) '\x7d' inner
        return (.map entries, rest)) missing
    | '(' :: inner => orElse (enclosed expr ')' inner) missing
    | text => nameOrCall expr text

/-- Read an access after an expression: a field, a method or an index. -/
def accessPass (expr : OpenReader Expr) : LoopPass Expr Expr := fun base text =>
  match skipBlank text with
  | '.' :: after =>
    match readName (skipBlank after) with
    | none => throw (.expected .name (skipBlank after))
    | some (name, rest) =>
      match skipBlank rest with
      | '(' :: inner => do
        let (arguments, rest) ← bracketed expr ')' inner
        return .again (methodCall base name arguments) rest
      | _ => return .again (.field base name) rest
  | '[' :: inner => do
    let (key, rest) ← enclosed expr ']' inner
    return .again (.index base key) rest
  | rest => return .stop base rest

/-- Read an atom and the accesses after it. -/
def accessed (expr : OpenReader Expr) : OpenReader Expr := fun text => do
  let (base, rest) ← atom expr text
  repeating (accessPass expr) base rest

/-- Read a prefix operator. -/
def prefixPass : LoopPass (List UnaryOp) (List UnaryOp) := fun ops text =>
  match skipBlank text with
  | '!' :: rest => return .again (ops ++ [.not]) rest
  | '-' :: rest => return .again (ops ++ [.neg]) rest
  | rest => return .stop ops rest

/-- Read prefix operators and their operand. -/
def unary (expr : OpenReader Expr) : OpenReader Expr := fun text => do
  let (ops, rest) ← repeating prefixPass [] text
  let (operand, rest) ← accessed expr rest
  return (ops.foldr .unary operand, rest)

/-- Read an operator of a level and its right operand. -/
def operatorPass (operand : OpenReader Expr) (level : List (List Char × BinaryOp)) :
    LoopPass Expr Expr := fun left text =>
  match readOperator level (skipBlank text) with
  | none => return .stop left (skipBlank text)
  | some (op, rest) => do
    let (right, rest) ← operand rest
    return .again (.binary op left right) rest

/-- Read operands with the operators of some levels, the loosest level first. -/
def binary (expr : OpenReader Expr) : List (List (List Char × BinaryOp)) → OpenReader Expr
  | [] => unary expr
  | level :: tighter => fun text => do
    let (left, rest) ← binary expr tighter text
    repeating (operatorPass (binary expr tighter) level) left rest

/-- Read an expression, given the reader of nested ones: operators, and a conditional when a
question mark follows. -/
def conditional (expr : OpenReader Expr) : OpenReader Expr := fun text => do
  let (condition, rest) ← binary expr operatorLevels text
  match skipBlank rest with
  | '?' :: after => do
    let (yes, rest) ← expr after
    let rest ← .ended (closing ':' rest)
    let (no, rest) ← expr (skipBlank rest)
    return (.ternary condition yes no, rest)
  | rest => return (condition, rest)

/-- Read the expression of a source. -/
def parse (expr : OpenReader Expr) (source : String) : Option (Except SourceError Expr) :=
  let body := (splitStatement source.toList).1
  if body.isEmpty then some (.error .empty)
  else if !nestingAllowed body then some (.error .tooNested)
  else do
    match ← (expr body).run with
    | .error failure => return .error (.unreadable failure)
    | .ok (read, rest) =>
      let rest := trim rest
      if !rest.isEmpty then return .error (.trailing rest)
      else if depthLimit < read.depth then return .error (.tooDeep read.depth)
      else return .ok read

end Uncounted

end

end DecisionFlow.Source
