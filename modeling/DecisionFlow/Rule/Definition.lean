import DecisionFlow.Json.Reader
import DecisionFlow.Json.Writer
import DecisionFlow.Rule.Id

/-!
# Rule definitions

A rule is written down as an object with an id, a title, the source of its predicate and the ids
of the rules that follow when the predicate holds and when it fails. Fields other than the id
have several spellings. The id and the predicate are required; a missing title is empty, and a
missing or null successor ends the walk. Giving a field twice, under whatever spellings, is an
error; keys that name no field are ignored. A definition may also be written as an array of three
to five items in the order of the fields.
-/
namespace DecisionFlow

/-- A rule as it is written down. -/
structure RuleDefinition where
  /-- The id. -/
  id : RuleId
  /-- The title. -/
  title : String
  /-- The source of the predicate. -/
  predicate : String
  /-- The rule that follows when the predicate holds. -/
  trueNext : Option RuleId
  /-- The rule that follows when the predicate fails. -/
  falseNext : Option RuleId
deriving DecidableEq, Repr

namespace RuleDefinition

/-- The fields of a definition. -/
inductive Field where
  /-- The id. -/
  | id
  /-- The title. -/
  | title
  /-- The source of the predicate. -/
  | predicate
  /-- The successor when the predicate holds. -/
  | trueNext
  /-- The successor when the predicate fails. -/
  | falseNext
deriving DecidableEq, Repr

/-- The field that a key names. -/
def Field.ofKey? (key : String) : Option Field :=
  if key == "id" then some .id
  else if key == "title" then some .title
  else if ["predicate", "predicate_source", "predicateSource", "method"].contains key then
    some .predicate
  else if ["true_next", "true_id", "trueId", "trueNextId"].contains key then some .trueNext
  else if ["false_next", "false_id", "falseId", "falseNextId"].contains key then some .falseNext
  else none

/-- The fields given so far. -/
structure Draft where
  /-- The id. -/
  id : Option RuleId := none
  /-- The title. -/
  title : Option String := none
  /-- The source of the predicate. -/
  predicate : Option String := none
  /-- The successor when the predicate holds. -/
  trueNext : Option (Option RuleId) := none
  /-- The successor when the predicate fails. -/
  falseNext : Option (Option RuleId) := none

/-- How the values of fields are read off a tree of some document format. -/
structure FieldReader (τ : Type) where
  /-- An id. -/
  id : τ → Option RuleId
  /-- A text. -/
  text : τ → Option String
  /-- A successor; null means none. -/
  next : τ → Option (Option RuleId)

/-- A value for a field that has none yet. -/
def once {α : Type} (given : Option α) (value : Option α) : Option (Option α) :=
  match given, value with
  | none, some value => some (some value)
  | _, _ => none

/-- Take one more key with its value into a draft. -/
def Draft.take {τ : Type} (reader : FieldReader τ) (draft : Draft) (key : String) (value : τ) :
    Option Draft :=
  match Field.ofKey? key with
  | none => some draft
  | some .id => (once draft.id (reader.id value)).map fun id => { draft with id }
  | some .title => (once draft.title (reader.text value)).map fun title => { draft with title }
  | some .predicate =>
    (once draft.predicate (reader.text value)).map fun predicate => { draft with predicate }
  | some .trueNext =>
    (once draft.trueNext (reader.next value)).map fun trueNext => { draft with trueNext }
  | some .falseNext =>
    (once draft.falseNext (reader.next value)).map fun falseNext => { draft with falseNext }

/-- The definition of a draft that has the required fields. -/
def Draft.finish (draft : Draft) : Option RuleDefinition := do
  return {
    id := ← draft.id
    title := draft.title.getD ""
    predicate := ← draft.predicate
    trueNext := draft.trueNext.getD none
    falseNext := draft.falseNext.getD none }

/-- The definition given by keys with values. -/
def ofMembers? {τ : Type} (reader : FieldReader τ) (members : List (String × τ)) :
    Option RuleDefinition := do
  let draft ← members.foldlM
    (fun (draft : Draft) (member : String × τ) => draft.take reader member.1 member.2) {}
  draft.finish

/-- A text in a JSON tree. -/
def textOfJson? : Json → Option String
  | .string value => some value
  | _ => none

/-- A successor in a JSON tree. -/
def nextOfJson? : Json → Option (Option RuleId)
  | .null => some none
  | tree => (RuleId.ofJson? tree).map some

/-- The values of fields in JSON trees. -/
def jsonFields : FieldReader Json := ⟨RuleId.ofJson?, textOfJson?, nextOfJson?⟩

/-- The definition given by an array of field values in order; successors may be left out. -/
def ofItems? : List Json → Option RuleDefinition
  | id :: title :: predicate :: rest => do
    let id ← RuleId.ofJson? id
    let title ← textOfJson? title
    let predicate ← textOfJson? predicate
    match rest with
    | [] => return ⟨id, title, predicate, none, none⟩
    | [trueNext] => return ⟨id, title, predicate, ← nextOfJson? trueNext, none⟩
    | [trueNext, falseNext] =>
      return ⟨id, title, predicate, ← nextOfJson? trueNext, ← nextOfJson? falseNext⟩
    | _ => none
  | _ => none

/-- The definition given by a JSON tree. -/
def ofJson? : Json → Option RuleDefinition
  | .object members => ofMembers? jsonFields members
  | .array items => ofItems? items
  | _ => none

/-- The definitions given by a JSON tree: an array of them. -/
def listOfJson? : Json → Option (List RuleDefinition)
  | .array items => items.mapM ofJson?
  | _ => none

/-- The definitions written in a JSON text. -/
def readList? (text : String) : Option (List RuleDefinition) := do
  listOfJson? (← Json.read? text)

/-- A successor as a member of an object; none is left out. -/
def nextMember (key : String) : Option RuleId → List (String × Json)
  | some id => [(key, id.toJson)]
  | none => []

/-- The JSON tree of a definition. -/
def toJson (definition : RuleDefinition) : Json :=
  .object ([("id", definition.id.toJson), ("title", .string definition.title),
    ("predicate", .string definition.predicate)] ++
    nextMember "true_next" definition.trueNext ++ nextMember "false_next" definition.falseNext)

end RuleDefinition

end DecisionFlow
