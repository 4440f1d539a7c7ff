import DecisionFlow.Flow.Document
import DecisionFlow.Flow.Files

/-!
# Loading flows

A flow is loaded by the first frontend that handles the extension of its path. Extensions are
compared without regard to the case of ASCII letters.
-/
namespace DecisionFlow

/-- A way to load flow documents. -/
structure Frontend where
  /-- The extensions that it handles. -/
  extensions : List String
  /-- Whether it names the path of a document that is wrong. -/
  namesPath : Bool

/-- Why a flow cannot be loaded. -/
inductive LoadError where
  /-- No frontend handles the path. -/
  | unhandled (path : String)
  /-- The file cannot be read. -/
  | unreadable (path : String) (cause : FileError)
  /-- The document is wrong; the path is given when the frontend names it. -/
  | malformed (path : Option String) (cause : FlowError)
deriving DecidableEq, Repr

namespace LoadError

/-- The words before the wording of the cause. -/
def opening : LoadError → String
  | .unhandled path => "parse error: no frontend handles " ++ path
  | .unreadable path _ => s!"parse error: cannot read {path}: "
  | .malformed none _ => "parse error: flow document parse error: "
  | .malformed (some path) _ => s!"parse error: flow document parse error in {path}: "

/-- The wording of the cause. -/
def detail : LoadError → String
  | .unhandled _ => ""
  | .unreadable _ cause => cause.message
  | .malformed _ cause => cause.detail

/-- The message of a load error. -/
def message (error : LoadError) : String := error.opening ++ error.detail

end LoadError

/-- Whether two texts agree up to the case of ASCII letters. -/
def sameLetters (a b : String) : Bool := a.toList.map Char.toLower == b.toList.map Char.toLower

namespace Frontend

/-- The frontend of flow documents. -/
def flow : Frontend := ⟨["yaml", "yml", "json", "flow"], true⟩

/-- Whether a frontend handles a path. -/
def handles (frontend : Frontend) (path : String) : Bool :=
  (extension? path).any fun extension => frontend.extensions.any (sameLetters extension)

/-- The definitions in a text. -/
def parse (text : String) : Except LoadError (List RuleDefinition) :=
  (readFlow text).mapError (.malformed none)

/-- The definitions in the contents of the file at a path. -/
def parseFile (frontend : Frontend) (path : String) (contents : Except FileError String) :
    Except LoadError (List RuleDefinition) := do
  let text ← contents.mapError (.unreadable path)
  (readFlow text).mapError (.malformed (if frontend.namesPath then some path else none))

end Frontend

/-- Load the contents of the file at a path by the first frontend that handles the path. -/
def loadFlow (frontends : List Frontend) (path : String) (contents : Except FileError String) :
    Except LoadError (List RuleDefinition) :=
  match frontends.find? (·.handles path) with
  | some frontend => frontend.parseFile path contents
  | none => .error (.unhandled path)

end DecisionFlow
