import DecisionFlow.Proofs.Json.RoundTrip
import DecisionFlow.Proofs.Rule.Canonical
import DecisionFlow.Proofs.Rule.Fields

/-!
# Keeping definitions as JSON

An id is written as the bare integer or name, so a name that reads as an integer would come back
as one. An id comes back exactly when it is canonical (`RuleId.ofJson?_toJson_iff`), and so do
definitions (`RuleDefinition.readList?_compact_iff`). All ids that can be made are canonical. Main
statement: definitions with such ids are read back from their text (`readList?_compact`).
-/
namespace DecisionFlow

open Json (Written)

/-! ## Ids -/

namespace RuleId

/-- The ids that are made from an integer, from a text or from a document. -/
inductive Made : RuleId → Prop where
  /-- An integer. -/
  | integer (value : Int64) : Made (.int value)
  /-- What a text or a part of a document means. -/
  | given {id : RuleId} (given : id.Given) : Made id

/-- Ids that are made are canonical. -/
theorem Made.canonical {id : RuleId} (made : id.Made) : id.Canonical := by
  cases made with
  | integer value => exact canonical_int value
  | given given => exact given.canonical

/-- The JSON tree of an id means the id exactly when the id is canonical. -/
theorem ofJson?_toJson_iff {id : RuleId} : ofJson? id.toJson = some id ↔ id.Canonical := by
  cases id with
  | int value =>
    have back : ofJson? (toJson (.int value)) = some (.int value) := by
      rw [toJson, ofJson?, Number.int64?_toInt, Option.map_some]
    exact iff_of_true back (canonical_int value)
  | name text => exact Option.some_inj

/-- Nothing is nested in the JSON tree of an id. -/
theorem nesting_toJson (id : RuleId) : id.toJson.nesting = 0 := by
  cases id <;> rfl

/-- An id is written without loss. -/
theorem written_toJson (id : RuleId) : id.toJson.Written := by
  cases id with
  | int value => exact .int value.le_toInt (Int.lt_trans value.toInt_lt (by decide))
  | name text => exact .string text

end RuleId

/-! ## Definitions -/

namespace RuleDefinition

/-- The values that are written for each field. -/
def written (definition : RuleDefinition) : Field → List Json
  | .id => [definition.id.toJson]
  | .title => [.string definition.title]
  | .predicate => [.string definition.predicate]
  | .trueNext => definition.trueNext.toList.map RuleId.toJson
  | .falseNext => definition.falseNext.toList.map RuleId.toJson

/-- A definition is written as an object that gives its fields under their first spellings; a
successor that there is not is left out. -/
theorem toJson_eq_object (definition : RuleDefinition) :
    ∃ members, definition.toJson = .object members ∧
      Assoc.keys members = ["id", "title", "predicate"] ++
        (definition.trueNext.map fun _ => "true_next").toList ++
        (definition.falseNext.map fun _ => "false_next").toList ∧
      ∀ field : Field, field.values members = definition.written field := by
  obtain ⟨id, title, predicate, trueNext, falseNext⟩ := definition
  refine ⟨_, rfl, ?_, fun field => ?_⟩
  · cases trueNext <;> cases falseNext <;> rfl
  · cases trueNext <;> cases falseNext <;> cases field <;> rfl

/-- A successor that is written, or left out, is read as it was. -/
theorem atMostOnce_next {next : Option RuleId} (canonical : ∀ id ∈ next, id.Canonical) :
    AtMostOnce nextOfJson? none (next.toList.map RuleId.toJson) next := by
  cases next with
  | none => exact .inl ⟨rfl, rfl⟩
  | some id =>
    have back := RuleId.ofJson?_toJson_iff.mpr (canonical id rfl)
    have read : nextOfJson? id.toJson = (RuleId.ofJson? id.toJson).map some := by
      cases id <;> rfl
    exact .inr ⟨id.toJson, rfl, read.trans (congrArg (Option.map some) back)⟩

/-- The JSON tree of a definition is read as the definition exactly when its ids are canonical. -/
theorem ofJson?_toJson_iff {definition : RuleDefinition} :
    ofJson? definition.toJson = some definition ↔ definition.Canonical := by
  constructor
  · exact canonical_ofJson?
  · intro canonical
    obtain ⟨members, same, -, values⟩ := definition.toJson_eq_object
    rw [same]
    refine ofMembers?_eq_some_iff.mpr ⟨?_, ?_, ?_, ?_, ?_⟩ <;> rw [values]
    · exact ⟨_, rfl, RuleId.ofJson?_toJson_iff.mpr canonical.id⟩
    · exact .inr ⟨_, rfl, rfl⟩
    · exact ⟨_, rfl, rfl⟩
    · exact atMostOnce_next canonical.trueNext
    · exact atMostOnce_next canonical.falseNext

/-- The members of a written definition are written without loss, and nothing is nested in them. -/
theorem leaves_toJson {definition : RuleDefinition} {members : List (String × Json)}
    (same : definition.toJson = .object members) :
    ∀ member ∈ members, member.2.Written ∧ member.2.nesting = 0 := by
  have id (id : RuleId) : id.toJson.Written ∧ id.toJson.nesting = 0 :=
    ⟨id.written_toJson, id.nesting_toJson⟩
  have text (text : String) : (Json.string text).Written ∧ (Json.string text).nesting = 0 :=
    ⟨.string text, rfl⟩
  obtain ⟨_, _, _, trueNext, falseNext⟩ := definition
  cases same
  cases trueNext <;> cases falseNext <;> simp [nextMember, id, text]

/-- Definitions are read off the array of their JSON trees exactly when their ids are canonical. -/
theorem listOfJson?_map_iff {definitions : List RuleDefinition} :
    listOfJson? (.array (definitions.map toJson)) = some definitions ↔
      ∀ definition ∈ definitions, definition.Canonical := by
  rw [listOfJson?]
  constructor
  · exact forall_of_mapM canonical_ofJson?
  · intro canonical
    induction definitions with
    | nil => rfl
    | cons definition definitions ih =>
      obtain ⟨first, others⟩ := List.forall_mem_cons.mp canonical
      rw [List.map_cons, List.mapM_cons, ofJson?_toJson_iff.mpr first, ih others]
      rfl

/-- The text of definitions is read as their JSON trees. -/
theorem read?_compact_map (definitions : List RuleDefinition) :
    Json.read? (Json.array (definitions.map toJson)).compact =
      some (.array (definitions.map toJson)) := by
  have each : ∀ tree ∈ definitions.map toJson, tree.Written ∧ tree.nesting ≤ 1 := by
    refine List.forall_mem_map.mpr fun definition _ => ?_
    obtain ⟨members, same, -⟩ := definition.toJson_eq_object
    have leaves := leaves_toJson same
    rw [same]
    refine ⟨.object fun member listed => (leaves member listed).1, Nat.succ_le_succ ?_⟩
    exact Json.membersNesting_le.mpr fun member listed => (leaves member listed).2.le
  have written : (Json.array (definitions.map toJson)).Written :=
    .array fun tree listed => (each tree listed).1
  have fits : 0 + (Json.array (definitions.map toJson)).nesting ≤ Json.nestingLimit := by
    have items := Json.itemsNesting_le.mpr fun tree listed => (each tree listed).2
    rw [Json.nesting, Json.nestingLimit]
    omega
  rw [written.read?_compact, written.capped_of_fits fits]

/-- Definitions are read back from their text exactly when their ids are canonical. -/
theorem readList?_compact_iff {definitions : List RuleDefinition} :
    readList? (Json.array (definitions.map toJson)).compact = some definitions ↔
      ∀ definition ∈ definitions, definition.Canonical := by
  rw [readList?, read?_compact_map]
  exact listOfJson?_map_iff

/-- A definition whose ids are made from integers, from texts or from documents. -/
structure Made (definition : RuleDefinition) : Prop where
  /-- The id is made. -/
  id : definition.id.Made
  /-- The successor when the predicate holds is made. -/
  trueNext : ∀ id ∈ definition.trueNext, id.Made
  /-- The successor when the predicate fails is made. -/
  falseNext : ∀ id ∈ definition.falseNext, id.Made

/-- Definitions with ids that are made are read back from their text, in which a successor that
there is not is left out. -/
theorem readList?_compact {definitions : List RuleDefinition}
    (made : ∀ definition ∈ definitions, definition.Made) :
    readList? (Json.array (definitions.map toJson)).compact = some definitions ∧
      ∀ definition ∈ definitions, ∃ members, definition.toJson = .object members ∧
        Assoc.keys members = ["id", "title", "predicate"] ++
          (definition.trueNext.map fun _ => "true_next").toList ++
          (definition.falseNext.map fun _ => "false_next").toList := by
  constructor
  · refine readList?_compact_iff.mpr fun definition listed => ?_
    have ids := made definition listed
    exact ⟨ids.id.canonical, fun id next => (ids.trueNext id next).canonical,
      fun id next => (ids.falseNext id next).canonical⟩
  · intro definition _
    obtain ⟨members, same, keys, -⟩ := definition.toJson_eq_object
    exact ⟨members, same, keys⟩

/-- Two definitions whose ids were written in several ways are read back. A name that was put
together without reading it comes back as the integer that it spells. -/
theorem readList?_compact_spellings :
    let definitions : List RuleDefinition :=
      [⟨.int 1, "start", "size > 2", some (.ofText " +02 "), some (.ofText "\u3000end ")⟩,
        ⟨.ofText "2", "", "name == \"a\"", none, some (.int (-7))⟩]
    let unread : RuleDefinition := ⟨.name "7", "", "true", none, none⟩
    (∀ definition ∈ definitions, definition.Made) ∧
      readList? (Json.array (definitions.map toJson)).compact = some definitions ∧
      readList? (Json.array [unread.toJson]).compact = some [⟨.int 7, "", "true", none, none⟩] := by
  intro definitions unread
  have text (text : String) : (RuleId.ofText text).Made := .given (.text text)
  have made : ∀ definition ∈ definitions, definition.Made := by
    refine List.forall_mem_cons.mpr ⟨⟨.integer 1, ?_, ?_⟩, List.forall_mem_singleton.mpr
      ⟨text "2", nofun, ?_⟩⟩
    · rintro _ ⟨⟩
      exact text _
    · rintro _ ⟨⟩
      exact text _
    · rintro _ ⟨⟩
      exact .integer (-7)
  exact ⟨made, (readList?_compact made).1, by decide +kernel⟩

end RuleDefinition

end DecisionFlow
