import DecisionFlow.Proofs.Rule.LastDefinition
import DecisionFlow.Proofs.Walk.Steps

/-!
# What a walk depends on

A walk learns of a registry only what it finds under the ids that it looks up, and of a rule only
the title, the successors and the truth of the predicate on the record. Two registries that agree
on that have the same walk, whatever else they hold (`walk_eq_of_agreesOn`). For flows this means
that only the last definition of each of these ids matters (`walk_lookups`).
-/
namespace DecisionFlow

/-- Where the walk from an entry ends: at the successor of its last step, if there is one. -/
def Walked.ending (walked : Walked) (entry : RuleId) : Option RuleId :=
  walked.steps.getLast?.elim (some entry) Step.next

/-- A step in front of others leaves the end of the walk where it is. -/
theorem Walked.ending_after {walked : Walked} {step : Step} {target : RuleId}
    (next : step.next = some target) (entry : RuleId) :
    (walked.after step).ending entry = walked.ending target := by
  rw [ending, ending, after, List.getLast?_cons]
  cases walked.steps.getLast? with
  | none => exact next
  | some last => rfl

namespace Registry

variable {first second : Registry} {id : RuleId}

/-- A rule found in one registry agrees with the one found in the other. -/
theorem found_of_rel {related : Rule → Rule → Prop} {rule : Rule}
    (agree : Option.Rel related (first.get? id) (second.get? id))
    (found : first.get? id = some rule) :
    ∃ other, second.get? id = some other ∧ related rule other := by
  rw [found] at agree
  generalize second.get? id = result at agree
  cases agree with
  | some same => exact ⟨_, rfl, same⟩

/-- What is absent in one registry is absent in the other. -/
theorem absent_of_rel {related : Rule → Rule → Prop}
    (agree : Option.Rel related (first.get? id) (second.get? id))
    (absent : first.get? id = none) : second.get? id = none := by
  rw [absent] at agree
  generalize second.get? id = result at agree
  cases agree
  rfl

end Registry

section Walks

variable [Regex.Matcher] [Value.Enumeration]

/-- Rules that a walk on a record cannot tell apart. -/
structure Rule.AgreesOn (record : Value) (first second : Rule) : Prop where
  /-- The titles are the same. -/
  title : first.title = second.title
  /-- The same rule follows when the predicate holds. -/
  trueNext : first.trueNext = second.trueNext
  /-- The same rule follows when the predicate fails. -/
  falseNext : first.falseNext = second.falseNext
  /-- The predicates have the same truth on the record, or the same failure. -/
  test : first.predicate.test record = second.predicate.test record

/-- Every rule agrees with itself. -/
theorem Rule.AgreesOn.refl (record : Value) (rule : Rule) : rule.AgreesOn record rule :=
  ⟨rfl, rfl, rfl, rfl⟩

/-- Rules that agree lead to the same successors. -/
theorem Rule.AgreesOn.next {record : Value} {first second : Rule}
    (agrees : first.AgreesOn record second) (outcome : Bool) :
    first.next outcome = second.next outcome := by
  rw [Rule.next, Rule.next, agrees.trueNext, agrees.falseNext]

/-- Applying rules of one id that agree makes the same step. -/
theorem Rule.AgreesOn.step {record : Value} {first second : Rule}
    (agrees : first.AgreesOn record second) (same : first.id = second.id) (outcome : Bool)
    (recorded : Trace) : first.step outcome recorded = second.step outcome recorded := by
  rw [Rule.step, Rule.step, same, agrees.title, agrees.next]

namespace Registry

/-- The ids that the walk from an id looks up: the id itself unless it was visited, and when its
rule is applied, the ids that the walk from the successor looks up. -/
inductive LooksUp (registry : Registry) (record : Value) : Trace → RuleId → RuleId → Prop where
  /-- An id that was not visited is looked up. -/
  | current {trace : Trace} {current : RuleId} (fresh : trace.contains current = false) :
    LooksUp registry record trace current current
  /-- The walk goes on with the successor. -/
  | onward {trace : Trace} {current target id : RuleId} {rule : Rule} {outcome : Bool}
    (fresh : trace.contains current = false) (found : registry.get? current = some rule)
    (tested : rule.predicate.test record = .ok outcome) (next : rule.next outcome = some target)
    (later : LooksUp registry record (trace.record current outcome) target id) :
    LooksUp registry record trace current id

variable {registry first second : Registry} {record : Value} {trace : Trace} {entry id : RuleId}

/-- Nothing is looked up from an id that was visited. -/
theorem not_looksUp_of_visited (visited : trace.contains entry = true) :
    ¬registry.LooksUp record trace entry id := by
  intro looks
  cases looks with
  | current fresh => rw [visited] at fresh; contradiction
  | onward fresh => rw [visited] at fresh; contradiction

/-- From an id whose rule is not applied nothing else is looked up. -/
theorem looksUp_iff_of_stops (fresh : trace.contains entry = false)
    (stops : ∀ rule, registry.get? entry = some rule →
      ∀ outcome, rule.predicate.test record ≠ .ok outcome) :
    registry.LooksUp record trace entry id ↔ entry = id := by
  constructor
  · intro looks
    cases looks with
    | current => rfl
    | onward _ found tested => exact absurd tested (stops _ found _)
  · rintro rfl
    exact .current fresh

/-- From an id whose rule is applied the walk looks up the id and goes on. -/
theorem looksUp_iff_of_applied {rule : Rule} {outcome : Bool}
    (fresh : trace.contains entry = false) (found : registry.get? entry = some rule)
    (tested : rule.predicate.test record = .ok outcome) :
    registry.LooksUp record trace entry id ↔
      entry = id ∨ ∃ target, rule.next outcome = some target ∧
        registry.LooksUp record (trace.record entry outcome) target id := by
  constructor
  · intro looks
    cases looks with
    | current => exact .inl rfl
    | onward _ foundHere testedHere next later =>
      cases found.symm.trans foundHere
      cases tested.symm.trans testedHere
      exact .inr ⟨_, next, later⟩
  · rintro (rfl | ⟨target, next, later⟩)
    · exact .current fresh
    · exact .onward fresh found tested next later

/-- A walk looks up the ids that it visits, the one whose predicate fails, and at its end the one
that no rule has. -/
theorem looksUp_iff (formed : registry.WellFormed) :
    registry.LooksUp record trace entry id ↔
      (∃ step ∈ (registry.walk record trace entry).steps, step.id = id) ∨
      (∃ error, (registry.walk record trace entry).failure = some error ∧ error.rule = id) ∨
      ((registry.walk record trace entry).ending entry = some id ∧
        (registry.walk record trace entry).trace.contains id = false ∧
        registry.get? id = none) := by
  induction trace, entry using walk_induct registry record with
  | visited trace current visited =>
    rw [walk_visited visited]
    refine iff_of_false (not_looksUp_of_visited visited) ?_
    rintro (⟨_, listed, _⟩ | ⟨_, failed, _⟩ | ⟨ends, fresh, _⟩)
    · contradiction
    · contradiction
    · cases ends
      rw [visited] at fresh
      contradiction
  | unregistered trace current fresh absent =>
    rw [walk_unregistered absent,
      looksUp_iff_of_stops fresh fun rule found => by rw [absent] at found; contradiction]
    constructor
    · rintro rfl
      exact .inr (.inr ⟨rfl, fresh, absent⟩)
    · rintro (⟨_, listed, _⟩ | ⟨_, failed, _⟩ | ⟨ends, _⟩)
      · contradiction
      · contradiction
      · exact Option.some.inj ends
  | failed trace current rule cause fresh found tested =>
    have stops : ∀ other, registry.get? current = some other →
        ∀ outcome, other.predicate.test record ≠ .ok outcome := by
      intro other foundOther outcome
      cases found.symm.trans foundOther
      rw [tested]
      nofun
    rw [walk_failed fresh found tested, looksUp_iff_of_stops fresh stops]
    constructor
    · rintro rfl
      exact .inr (.inl ⟨_, rfl, rfl⟩)
    · rintro (⟨_, listed, _⟩ | ⟨_, failed, same⟩ | ⟨ends, _, absent⟩)
      · contradiction
      · cases failed
        exact same
      · cases ends
        cases found.symm.trans absent
  | applied trace current rule outcome fresh found tested ih =>
    have here : (rule.step outcome (trace.record current outcome)).id = current :=
      formed.keyed current rule found
    rw [walk_applied fresh found tested, looksUp_iff_of_applied fresh found tested]
    cases next : rule.next outcome with
    | none =>
      have ends : (rule.step outcome (trace.record current outcome)).next = none := next
      constructor
      · rintro (rfl | ⟨_, impossible, _⟩)
        · exact .inl ⟨_, List.mem_singleton_self _, here⟩
        · contradiction
      · rintro (⟨step, listed, same⟩ | ⟨_, failed, _⟩ | ⟨ended, _⟩)
        · cases List.mem_singleton.mp listed
          exact .inl (here.symm.trans same)
        · contradiction
        · cases ends.symm.trans ended
    | some target =>
      have later := ih target next
      rw [Walked.ending_after (show (rule.step outcome _).next = some target from next)]
      simp only [Option.some.injEq, exists_eq_left', later, onward, Walked.after, List.mem_cons,
        exists_eq_or_imp, here, or_assoc]

/-- Registries that agree on the ids that the walk over one of them looks up have the same walk:
the other walk finds the same at each id, so it looks up the same ids. -/
theorem walk_eq_of_agreesOn (formed : first.WellFormed) (otherFormed : second.WellFormed)
    (agree : ∀ id, first.LooksUp record trace entry id →
      Option.Rel (Rule.AgreesOn record) (first.get? id) (second.get? id)) :
    first.walk record trace entry = second.walk record trace entry := by
  induction trace, entry using walk_induct first record with
  | visited trace current visited => rw [walk_visited visited, walk_visited visited]
  | unregistered trace current fresh absent =>
    have here := agree current (.current fresh)
    rw [walk_unregistered absent, walk_unregistered (absent_of_rel here absent)]
  | failed trace current rule cause fresh found tested =>
    obtain ⟨other, foundOther, same⟩ := found_of_rel (agree current (.current fresh)) found
    rw [walk_failed fresh found tested, walk_failed fresh foundOther (same.test ▸ tested)]
  | applied trace current rule outcome fresh found tested ih =>
    obtain ⟨other, foundOther, same⟩ := found_of_rel (agree current (.current fresh)) found
    have ids : rule.id = other.id :=
      (formed.keyed current rule found).trans (otherFormed.keyed current other foundOther).symm
    have onward : first.onward record (trace.record current outcome) (rule.next outcome) =
        second.onward record (trace.record current outcome) (rule.next outcome) := by
      cases next : rule.next outcome with
      | none => rfl
      | some target =>
        exact ih target next fun id later => agree id (.onward fresh found tested next later)
    rw [walk_applied fresh found tested, walk_applied fresh foundOther (same.test ▸ tested),
      onward, same.step ids, same.next]

/-- A walk depends only on what it looks up: the ids that it visits, the one whose predicate fails,
and at its end the one that no rule has. Registries of any rules that agree there on whether there
is a rule, on its title, its successors and the truth or failure of its predicate on the record,
have the same walk. Flows that all compile have the same walk when the ids that are looked up have
the same last definitions: no order, no other rule and no overridden definition matters. -/
theorem walk_lookups (record : Value) (trace : Trace) (entry : RuleId) :
    (∀ (rules : List Rule) (id : RuleId),
      (ofRules rules).LooksUp record trace entry id ↔
        let walked := (ofRules rules).walk record trace entry
        (∃ step ∈ walked.steps, step.id = id) ∨
        (∃ error, walked.failure = some error ∧ error.rule = id) ∨
        (walked.ending entry = some id ∧ walked.trace.contains id = false ∧
          (ofRules rules).get? id = none)) ∧
    (∀ rules others : List Rule,
      (∀ id, (ofRules rules).LooksUp record trace entry id →
        Option.Rel (Rule.AgreesOn record) ((ofRules rules).get? id) ((ofRules others).get? id)) →
      (ofRules rules).walk record trace entry = (ofRules others).walk record trace entry) ∧
    ∀ {ε : Type} (compiler : String → Except ε Predicate) (definitions others : List RuleDefinition)
      (first second : Registry), compile compiler definitions = .ok first →
      compile compiler others = .ok second →
      (∀ id, first.LooksUp record trace entry id →
        lastDefinition? definitions id = lastDefinition? others id) →
      first.walk record trace entry = second.walk record trace entry := by
  refine ⟨?_, ?_, ?_⟩
  · intro rules id
    exact looksUp_iff (wellFormed_ofRules rules)
  · intro rules others agree
    exact walk_eq_of_agreesOn (wellFormed_ofRules rules) (wellFormed_ofRules others) agree
  · intro ε compiler definitions others first second compiled compiledOther same
    refine walk_eq_of_agreesOn (wellFormed_of_compile compiled)
      (wellFormed_of_compile compiledOther) fun id looks => ?_
    rw [get?_eq_of_lastDefinition compiled compiledOther (same id looks)]
    cases second.get? id with
    | none => exact .none
    | some rule => exact .some (.refl record rule)

end Registry

end Walks

namespace Registry

/-- A flow in another order, with an overridden definition more and a rule off the path changed,
walks to the same unregistered successor; the registries differ. -/
theorem walk_lookups_reordered :
    let compiler : String → Except Unit Predicate := fun source =>
      .ok (.function fun _ => .ok (.string source))
    let start : RuleDefinition := ⟨.int 1, "start", "yes", some (.name "b"), none⟩
    let second : RuleDefinition := ⟨.name "b", "second", "", none, some (.name "gone")⟩
    let definitions := [start, second, ⟨.int 3, "off the path", "", none, none⟩]
    let others := [⟨.name "b", "overridden", "no", some (.int 1), none⟩, second,
      ⟨.int 3, "changed", "yes", some (.int 1), none⟩, start]
    ∃ first other, compile compiler definitions = .ok first ∧
      compile compiler others = .ok other ∧ first.ids ≠ other.ids ∧
      first.walk .null .empty (.int 1) = other.walk .null .empty (.int 1) ∧
      (first.walk .null .empty (.int 1)).trace.entries =
        [(.int 1, true), (.name "b", false)] := by
  intro compiler start second definitions others
  refine ⟨_, _, rfl, rfl, by decide, ?_, ?_⟩
  · refine (walk_lookups .null .empty (.int 1)).2.2 compiler definitions others _ _ rfl rfl ?_
    intro id looks
    rcases (looksUp_iff_of_applied rfl rfl rfl).mp looks with rfl | ⟨_, next, later⟩
    · decide
    · cases next
      rcases (looksUp_iff_of_applied rfl rfl rfl).mp later with rfl | ⟨_, next, last⟩
      · decide
      · cases next
        cases last with
        | current => decide
        | onward _ found => exact nomatch show none = some _ from found
  · rw [walk_applied rfl rfl rfl]
    change (Registry.walk _ _ _ _).trace.entries = _
    rw [walk_applied rfl rfl rfl]
    change (Registry.walk _ _ _ _).trace.entries = _
    rw [walk_unregistered rfl]
    rfl

end Registry

end DecisionFlow
