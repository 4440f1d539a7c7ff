import DecisionFlow.Proofs.Json.RoundTrip
import DecisionFlow.Proofs.Rule.Canonical
import DecisionFlow.Proofs.Walk.Path

/-!
# The text of a trace

The trace of a run is written as a JSON object from the texts of ids to outcomes. As no id is
recorded twice (`Trace.WellFormed`) and every id that a run visits is canonical
(`canonical_walk`), the keys are distinct and give back the ids: nothing of the trace is lost
(`trace_text`).
-/
namespace DecisionFlow

/-- A trace that lists each id that it contains once. -/
structure Trace.WellFormed (trace : Trace) : Prop where
  /-- No id is listed twice. -/
  distinct : trace.ids.Nodup
  /-- The listed ids are those that the trace contains. -/
  listed : ∀ id, id ∈ trace.ids ↔ trace.contains id = true

namespace Trace

/-- The trace without visits is well formed. -/
theorem WellFormed.empty : Trace.empty.WellFormed where
  distinct := List.nodup_nil
  listed _ := ⟨nofun, nofun⟩

/-- Recording an id that was not visited lists it last. -/
theorem ids_record {trace : Trace} {id : RuleId} (fresh : trace.contains id = false)
    (outcome : Bool) : (trace.record id outcome).ids = trace.ids ++ [id] := by
  rw [ids, entries_record fresh, List.map_append]
  rfl

/-- Recording keeps a trace well formed. -/
theorem WellFormed.record {trace : Trace} (formed : trace.WellFormed) {id : RuleId}
    (fresh : trace.contains id = false) (outcome : Bool) :
    (trace.record id outcome).WellFormed where
  distinct := by
    have absent : id ∉ trace.ids := by rw [formed.listed, fresh]; exact Bool.false_ne_true
    rw [ids_record fresh]
    rw [← List.concat_eq_append]
    exact (List.nodup_concat trace.ids id).mpr ⟨absent, formed.distinct⟩
  listed other := by
    rw [ids_record fresh, contains_record, List.mem_append, List.mem_singleton, formed.listed,
      Bool.or_eq_true, beq_iff_eq]

/-- The members of the text of a trace: a key and an outcome for each visit. -/
def members (trace : Trace) : List (String × Bool) :=
  trace.entries.map fun visit => (visit.1.toText, visit.2)

/-- The tree of a trace is the object of its members. -/
theorem toJson_eq (trace : Trace) :
    trace.toJson = .object (trace.members.map fun member => (member.1, .bool member.2)) := by
  rw [toJson, members, List.map_map]
  rfl

/-- The text of a trace reads back as the object of its members. -/
theorem readWhole?_toJson (trace : Trace) :
    Json.readWhole? trace.toJson.compact =
      some (.object (trace.members.map fun member => (member.1, .bool member.2))) := by
  have written : trace.toJson.Written := by
    rw [toJson_eq]
    refine .object (List.forall_mem_map.mpr fun member _ => .bool member.2)
  have shallow : trace.toJson.nesting ≤ 1 := by
    rw [toJson_eq, Json.nesting]
    refine Nat.succ_le_succ (Json.membersNesting_le.mpr ?_)
    exact List.forall_mem_map.mpr fun member _ => Nat.le_refl 0
  rw [written.readWhole?_compact, if_pos (Nat.le_trans shallow (by decide)), toJson_eq]

/-- The keys of canonical ids that are listed once are distinct. -/
theorem nodup_keys {trace : Trace} (formed : trace.WellFormed)
    (canonical : ∀ id ∈ trace.ids, id.Canonical) : (trace.members.map (·.1)).Nodup := by
  have keys : trace.members.map (·.1) = trace.ids.map RuleId.toText := by
    rw [members, ids, List.map_map, List.map_map]
    rfl
  rw [keys]
  exact (List.nodup_map_iff_inj_on formed.distinct).mpr fun id listed other otherListed same =>
    (canonical id listed).eq_of_toText (canonical other otherListed) same

/-- Members whose keys are the texts of canonical ids give back the visits. -/
theorem entries_of_members {trace : Trace} (canonical : ∀ id ∈ trace.ids, id.Canonical) :
    trace.members.map (fun member => (RuleId.ofText member.1, member.2)) = trace.entries := by
  rw [members, List.map_map]
  refine (List.map_congr_left fun visit listed => ?_).trans (List.map_id _)
  have id := canonical visit.1 (List.mem_map_of_mem listed)
  exact Prod.ext id rfl

end Trace

/-- The id and the outcome of a step. -/
def Step.visit (step : Step) : RuleId × Bool := (step.id, step.outcome)

namespace Registry

variable [Regex.Matcher] [Value.Enumeration] {registry : Registry} {record : Value} {trace : Trace}
  {entry : RuleId}

/-- A walk keeps a trace well formed. -/
theorem wellFormed_walk (formed : trace.WellFormed) :
    (registry.walk record trace entry).trace.WellFormed := by
  induction trace, entry using walk_induct_stops registry record with
  | stops trace current failure walked => rwa [walked]
  | applied trace current rule outcome fresh found tested ih =>
    have recorded := formed.record fresh outcome
    rw [walk_applied fresh found tested]
    cases next : rule.next outcome with
    | none => exact recorded
    | some target => exact ih target next recorded

/-- A walk adds the visits of its steps to the entries of a trace. -/
theorem entries_walk (formed : registry.WellFormed) :
    (registry.walk record trace entry).trace.entries =
      trace.entries ++ (registry.walk record trace entry).steps.map Step.visit := by
  induction trace, entry using walk_induct_stops registry record with
  | stops trace current failure walked =>
    rw [walked]
    exact (List.append_nil _).symm
  | applied trace current rule outcome fresh found tested ih =>
    have here : (rule.step outcome (trace.record current outcome)).visit = (current, outcome) :=
      Prod.ext (formed.keyed current rule found) rfl
    rw [walk_applied fresh found tested, Walked.after, List.map_cons, here, List.append_cons,
      ← Trace.entries_record fresh]
    cases next : rule.next outcome with
    | none => exact (List.append_nil _).symm
    | some target => exact ih target next

/-- What holds of the entry and of all successors holds of every id that a walk visits. -/
theorem forall_mem_ids_walk {good : RuleId → Prop}
    (successors : ∀ {id target rule outcome}, registry.get? id = some rule →
      rule.next outcome = some target → good target)
    (start : good entry) (before : ∀ id ∈ trace.ids, good id) :
    ∀ id ∈ (registry.walk record trace entry).trace.ids, good id := by
  induction trace, entry using walk_induct_stops registry record with
  | stops trace current failure walked => rwa [walked]
  | applied trace current rule outcome fresh found tested ih =>
    have recorded : ∀ id ∈ (trace.record current outcome).ids, good id := by
      rw [Trace.ids_record fresh]
      exact List.forall_mem_append.mpr ⟨before, List.forall_mem_singleton.mpr start⟩
    rw [walk_applied fresh found tested]
    cases next : rule.next outcome with
    | none => exact recorded
    | some target => exact ih target next (successors found next) recorded

end Registry

/-- The trace of a run loses nothing as JSON text. When the definitions and the entry are given as
texts or in documents, the text of the trace reads back as an object with one member for each
visit, in the order of the steps and under distinct keys, and each key means the id of its
visit. -/
theorem Engine.run_trace_text [Regex.Matcher] [Value.Enumeration] {ε : Type}
    {compiler : String → Except ε Predicate} {definitions : List RuleDefinition} {engine : Engine}
    {entry : Option RuleId} {record : Value} {trace : Trace}
    (given : RuleDefinition.Given definitions)
    (compiled : Registry.compile compiler definitions = .ok engine.registry)
    (entered : (entry.getD engine.defaultEntry).Given)
    (succeeded : (engine.run entry record).result = .ok trace) :
    ∃ members : List (String × Bool),
      Json.readWhole? trace.toJson.compact =
        some (.object (members.map fun member => (member.1, .bool member.2))) ∧
      members.length = trace.size ∧
      (members.map (·.1)).Nodup ∧
      members.map (·.1) = (engine.run entry record).steps.map (·.id.toText) ∧
      members.map (fun member => (RuleId.ofText member.1, member.2)) = trace.entries := by
  have walked : (engine.run entry record).trace = trace := by
    unfold Walked.result at succeeded
    split at succeeded
    · exact Except.ok.inj succeeded
    · contradiction
  have formed : trace.WellFormed := walked ▸ Registry.wellFormed_walk .empty
  have canonical : ∀ id ∈ trace.ids, id.Canonical :=
    walked ▸ Registry.forall_mem_ids_walk (Registry.canonical_next compiled given.canonical)
      entered.canonical nofun
  have visits : trace.entries = (engine.run entry record).steps.map Step.visit :=
    walked ▸ Registry.entries_walk (Registry.wellFormed_of_compile compiled)
  refine ⟨trace.members, trace.readWhole?_toJson, List.length_map _,
    Trace.nodup_keys formed canonical, ?_, Trace.entries_of_members canonical⟩
  rw [Trace.members, visits, List.map_map, List.map_map]
  rfl

/-- Two rules given as JSON whose ids are written in several ways are walked from an entry given
as a text: the keys are `1` and `review`, and mean the integer and the name. -/
theorem Engine.run_trace_text_review :
    let compiler : String → Except Unit Predicate := fun source =>
      .ok (.function fun _ => .ok (.string source))
    let definitions : List RuleDefinition :=
      [⟨.int 1, "", "yes", some (.name "review"), none⟩, ⟨.name "review", "", "", none, none⟩]
    let text := "[\x7b\"id\": \" +1 \", \"predicate\": \"yes\", \"true_next\": \"review \"\x7d, " ++
      "\x7b\"id\": \"review\", \"predicate\": \"\"\x7d]"
    let engine : Engine := { registry := .ofRules (definitions.map fun definition =>
      { definition with
        predicate := .function fun _ => .ok (.string definition.predicate)
        source := definition.predicate }) }
    let entry := RuleId.ofText "01"
    let trace := (Trace.empty.record (.int 1) true).record (.name "review") false
    RuleDefinition.readList? text = some definitions ∧
      Registry.compile compiler definitions = .ok engine.registry ∧
      (engine.run (some entry) .null).result = .ok trace ∧
      ∃ members : List (String × Bool),
        Json.readWhole? trace.toJson.compact =
          some (.object (members.map fun member => (member.1, .bool member.2))) ∧
        members.length = trace.size ∧
        (members.map (·.1)).Nodup ∧
        members.map (·.1) = (engine.run (some entry) .null).steps.map (·.id.toText) ∧
        members.map (fun member => (RuleId.ofText member.1, member.2)) =
          [(.int 1, true), (.name "review", false)] := by
  intro compiler definitions text engine entry trace
  have read : RuleDefinition.readList? text = some definitions := by decide +kernel
  have compiled : Registry.compile compiler definitions = .ok engine.registry := rfl
  have succeeded : (engine.run (some entry) .null).result = .ok trace := by
    have start : entry = .int 1 := by decide
    rw [Engine.run, Engine.resume, start]
    change (engine.registry.walk .null .empty (.int 1)).result = _
    rw [Registry.walk_applied rfl rfl rfl]
    change ((engine.registry.walk .null _ (.name "review")).after _).result = _
    rw [Registry.walk_applied rfl rfl rfl]
    rfl
  exact ⟨read, compiled, succeeded,
    Engine.run_trace_text (.json read) compiled (.text "01") succeeded⟩

end DecisionFlow
