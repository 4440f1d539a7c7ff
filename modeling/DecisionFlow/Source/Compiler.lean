import DecisionFlow.Expr.Depth
import DecisionFlow.Expr.Simplify
import DecisionFlow.Source.Grammar
import DecisionFlow.Source.Nesting
import DecisionFlow.Text.Quoted

/-!
# Compiling predicates

A source is a statement with an expression in it. It is refused when it is empty, when it nests
too deeply, when its expression cannot be read or does not end with the source, or when the
expression is too deep a tree. The tree is then simplified. A compiler may read sources as
function bodies, in which only `return` gives a value: a body without it compiles to null, after
it has been read like any other.
-/
namespace DecisionFlow

/-- The deepest tree that a source may hold. -/
def depthLimit : Nat := 128

/-- Why a source does not compile. -/
inductive SourceError where
  /-- There is no expression. -/
  | empty
  /-- The source nests too deeply. -/
  | tooNested
  /-- The expression cannot be read. -/
  | unreadable (failure : Source.Failure)
  /-- Something follows the expression. -/
  | trailing (rest : List Char)
  /-- The tree is too deep. -/
  | tooDeep (depth : Nat)
deriving DecidableEq, Repr

namespace Source

/-- The label of what was wanted. -/
def Wanted.label : Wanted → String
  | .character => "Char"
  | .name => "TakeWhile1"

/-- The wording of a failure: the rest of the text and what was wanted there. -/
def Failure.message : Failure → String
  | .expected wanted rest =>
    "Parsing Error: Error \x7b input: " ++ String.ofList (Text.quoted rest) ++ ", code: " ++
      wanted.label ++ " \x7d"
  | .exhausted => "nested expressions are exhausted"

end Source

namespace SourceError

/-- The wording of the cause. -/
def detail : SourceError → String
  | .empty => "empty expression"
  | .tooNested => s!"expression nests deeper than {Source.nestingLimit} levels"
  | .unreadable failure => "CEL parse error: " ++ failure.message
  | .trailing rest => "unexpected trailing input: " ++ String.ofList (Text.quoted rest)
  | .tooDeep depth => s!"expression is {depth} levels deep, the limit is {depthLimit}"

/-- The message of a source error. -/
def message (error : SourceError) : String := "parse error: " ++ error.detail

end SourceError

namespace Source

/-- Read the whole of an expression. -/
def readBody (body : List Char) : Except SourceError Expr :=
  if body.isEmpty then .error .empty
  else if !nestingAllowed body then .error .tooNested
  else
    match expression (body.length + 1) body with
    | .error failure => .error (.unreadable failure)
    | .ok (expr, rest) =>
      let rest := Text.trim rest
      if !rest.isEmpty then .error (.trailing rest)
      else if depthLimit < expr.depth then .error (.tooDeep expr.depth)
      else .ok expr

/-- Read the expression of a source. -/
def parse (source : String) : Except SourceError Expr :=
  readBody (splitStatement source.toList).1

end Source

/-- How sources are compiled. -/
structure Compiler where
  /-- The name that stands for the record. -/
  param : String := "record"
  /-- Whether trees are simplified. -/
  simplifies : Bool := true
  /-- Whether sources are function bodies, in which only `return` gives a value. -/
  statementBodies : Bool := false
deriving DecidableEq, Repr

/-- Compile a source to a tree. -/
def Compiler.compile (compiler : Compiler) (source : String) : Except SourceError Expr :=
  match Source.parse source with
  | .error error => .error error
  | .ok parsed =>
    if compiler.statementBodies && !Source.hasReturn source then .ok .null
    else if compiler.simplifies then .ok parsed.simplify
    else .ok parsed

end DecisionFlow
