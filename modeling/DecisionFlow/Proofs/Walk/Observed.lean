import DecisionFlow.Proofs.Rule.LastDefinition
import DecisionFlow.Proofs.Walk.Trace

/-!
# What an observer sees of a walk

The steps that a walk reports are all that an observer learns of it. They tell the new entries of
the trace one by one, each step but the last leads to the next one, and the last step together with
the failure tells why the walk ended (`walk_observed`): the step closes a cycle, or it has no
successor, or its successor is not registered or is the rule whose predicate failed.
-/
namespace DecisionFlow

/-- A step that leads to another one. -/
structure Step.Leads (step later : Step) : Prop where
  /-- It closes no cycle. -/
  unclosed : step.cycle = false
  /-- The other step is that of its successor. -/
  next : step.next = some later.id

/-- A step that ends a walk over a registry. -/
structure Step.Ends (registry : Registry) (walked : Walked) (last : Step) : Prop where
  /-- The step closes a cycle exactly when its successor is in the trace at the end. -/
  cycle : last.cycle = true ↔
    ∃ target, last.next = some target ∧ walked.trace.contains target = true
  /-- A walk that ends with a cycle does not fail. -/
  succeeded : last.cycle = true → walked.failure = none
  /-- Without a cycle the step has no successor, or its successor is not registered, or the walk
  fails with the predicate of its successor. -/
  stopped : last.cycle = false →
    (last.next = none ∧ walked.failure = none) ∨
      ∃ target, last.next = some target ∧
        ((registry.get? target = none ∧ walked.failure = none) ∨
          ∃ cause, walked.failure = some ⟨target, cause⟩)

section Steps

variable {registry : Registry} {walked : Walked}

/-- A step that ends a walk ends it also after another step. -/
theorem Step.Ends.after {last : Step} (ends : last.Ends registry walked) (step : Step) :
    last.Ends registry (walked.after step) :=
  ⟨ends.cycle, ends.succeeded, ends.stopped⟩

/-- A step without successor ends a walk that does not fail. -/
theorem Step.ends_of_none {rule : Rule} {outcome : Bool} {recorded : Trace}
    (next : rule.next outcome = none) (succeeded : walked.failure = none) :
    (rule.step outcome recorded).Ends registry walked := by
  have unclosed : (rule.step outcome recorded).cycle = false := by
    simp only [Rule.step, next, Option.any_none]
  constructor
  · rw [unclosed]
    constructor
    · intro closed
      contradiction
    · rintro ⟨target, same, -⟩
      cases next.symm.trans same
  · intro _
    exact succeeded
  · intro _
    exact .inl ⟨next, succeeded⟩

end Steps

/-- A step that tells what applying a registered rule to a record did. -/
def Step.Tells [Regex.Matcher] [Value.Enumeration] (registry : Registry) (record : Value)
    (step : Step) : Prop :=
  ∃ rule, registry.get? step.id = some rule ∧ rule.predicate.test record = .ok step.outcome ∧
    step.title = rule.title ∧ step.next = rule.next step.outcome

namespace Registry

section Walks

variable [Regex.Matcher] [Value.Enumeration]

/-- What an observer sees of the walk from an entry. -/
structure Observed (registry : Registry) (record : Value) (trace : Trace) (entry : RuleId) :
    Prop where
  /-- There is one step for each new entry of the trace, in order, with its id and outcome. -/
  entries : (registry.walk record trace entry).trace.entries =
    trace.entries ++ (registry.walk record trace entry).steps.map Step.visit
  /-- Each step has the title of the registered rule and the successor for the outcome. -/
  told : ∀ step ∈ (registry.walk record trace entry).steps, step.Tells registry record
  /-- The first step is that of the entry, which was not visited. -/
  started : ∀ first ∈ (registry.walk record trace entry).steps.head?,
    first.id = entry ∧ trace.contains entry = false
  /-- Each step but the last leads to the next one. -/
  linked : (registry.walk record trace entry).steps.IsChain Step.Leads
  /-- The last step tells how the walk ends. -/
  ended : ∀ last ∈ (registry.walk record trace entry).steps.getLast?,
    last.Ends registry (registry.walk record trace entry)

variable {registry : Registry} {record : Value} {trace : Trace} {entry : RuleId}

/-- A walk without steps stops at its entry: the entry was visited, no rule has it, or its predicate
fails. -/
theorem walk_idle (idle : (registry.walk record trace entry).steps = []) :
    (registry.walk record trace entry).trace = trace ∧
      ((trace.contains entry = true ∧ (registry.walk record trace entry).failure = none) ∨
        trace.contains entry = false ∧
          ((registry.get? entry = none ∧ (registry.walk record trace entry).failure = none) ∨
            ∃ cause, (registry.walk record trace entry).failure = some ⟨entry, cause⟩)) := by
  cases seen : trace.contains entry with
  | true =>
    rw [walk_visited seen]
    exact ⟨rfl, .inl ⟨rfl, rfl⟩⟩
  | false =>
    cases found : registry.get? entry with
    | none =>
      rw [walk_unregistered found]
      exact ⟨rfl, .inr ⟨rfl, .inl ⟨rfl, rfl⟩⟩⟩
    | some rule =>
      cases tested : rule.predicate.test record with
      | error cause =>
        rw [walk_failed seen found tested]
        exact ⟨rfl, .inr ⟨rfl, .inr ⟨cause, rfl⟩⟩⟩
      | ok outcome =>
        rw [walk_applied seen found tested] at idle
        contradiction

/-- A walk that stops at its entry shows nothing. -/
theorem observed_nil (formed : registry.WellFormed) {failure : Option WalkError}
    (walked : registry.walk record trace entry = ⟨trace, [], failure⟩) :
    registry.Observed record trace entry where
  entries := entries_walk formed
  told := by rw [walked]; nofun
  started := by rw [walked]; nofun
  linked := by rw [walked]; exact .nil
  ended := by rw [walked]; nofun

/-- The step that applies a registered rule tells so. -/
theorem tells_step {rule : Rule} {outcome : Bool} (found : registry.get? rule.id = some rule)
    (tested : rule.predicate.test record = .ok outcome) (recorded : Trace) :
    (rule.step outcome recorded).Tells registry record :=
  ⟨rule, found, tested, rfl, rfl⟩

/-- A step ends a walk when the walk from its successor has no steps. -/
theorem ends_of_idle {rule : Rule} {outcome : Bool} {recorded : Trace} {target : RuleId}
    (next : rule.next outcome = some target)
    (idle : (registry.walk record recorded target).steps = []) :
    (rule.step outcome recorded).Ends registry (registry.walk record recorded target) := by
  have cycle : (rule.step outcome recorded).cycle = recorded.contains target := by
    simp only [Rule.step, next, Option.any_some]
  obtain ⟨kept, stop⟩ := walk_idle idle
  constructor
  · rw [cycle, kept]
    constructor
    · intro visited
      exact ⟨target, next, visited⟩
    · rintro ⟨other, same, visited⟩
      cases next.symm.trans same
      exact visited
  · intro closed
    rw [cycle] at closed
    rcases stop with ⟨-, succeeded⟩ | ⟨fresh, -⟩
    · exact succeeded
    · rw [fresh] at closed
      contradiction
  · intro unclosed
    rw [cycle] at unclosed
    rcases stop with ⟨visited, -⟩ | ⟨-, reason⟩
    · rw [visited] at unclosed
      contradiction
    · exact .inr ⟨target, next, reason⟩

/-- The last step of a walk with a step before it ends the walk. -/
theorem ends_cons {rule : Rule} {outcome : Bool} {recorded : Trace} {target : RuleId} {last : Step}
    (next : rule.next outcome = some target)
    (ended : ∀ last ∈ (registry.walk record recorded target).steps.getLast?,
      last.Ends registry (registry.walk record recorded target))
    (isLast : last ∈
      (rule.step outcome recorded :: (registry.walk record recorded target).steps).getLast?) :
    last.Ends registry (registry.walk record recorded target) := by
  cases steps : (registry.walk record recorded target).steps with
  | nil =>
    rw [steps] at isLast
    cases isLast
    exact ends_of_idle next steps
  | cons first others =>
    rw [steps] at isLast
    apply ended last
    rw [steps]
    exact isLast

/-- A step leads to the first step of the walk from its successor: that walk has no steps when the
successor was visited. -/
theorem linked_cons {rule : Rule} {outcome : Bool} {recorded : Trace} {target : RuleId}
    (next : rule.next outcome = some target)
    (started : ∀ first ∈ (registry.walk record recorded target).steps.head?,
      first.id = target ∧ recorded.contains target = false)
    (linked : (registry.walk record recorded target).steps.IsChain Step.Leads) :
    (rule.step outcome recorded :: (registry.walk record recorded target).steps).IsChain
      Step.Leads := by
  cases steps : (registry.walk record recorded target).steps with
  | nil => exact .singleton _
  | cons first others =>
    rw [steps] at started linked
    obtain ⟨same, unseen⟩ := started first rfl
    have leads : (rule.step outcome recorded).Leads first := by
      constructor
      · simp only [Rule.step, next, Option.any_some, unseen]
      · rw [same]
        exact next
    exact .cons_cons leads linked

/-- A walk that applies a rule without successor shows one step. -/
theorem observed_singleton (formed : registry.WellFormed) {rule : Rule} {outcome : Bool}
    (fresh : trace.contains rule.id = false) (found : registry.get? rule.id = some rule)
    (tested : rule.predicate.test record = .ok outcome) (next : rule.next outcome = none) :
    registry.Observed record trace rule.id := by
  have walked := walk_applied fresh found tested
  rw [next] at walked
  constructor
  · exact entries_walk formed
  · rw [walked]
    exact List.forall_mem_singleton.mpr (tells_step found tested _)
  · rw [walked]
    rintro first ⟨⟩
    exact ⟨rfl, fresh⟩
  · rw [walked]
    exact .singleton _
  · rw [walked]
    rintro last ⟨⟩
    exact Step.ends_of_none next rfl

/-- A walk that applies a rule shows its step before what it shows from the successor on. -/
theorem observed_cons (formed : registry.WellFormed) {rule : Rule} {outcome : Bool}
    {target : RuleId} (fresh : trace.contains rule.id = false)
    (found : registry.get? rule.id = some rule)
    (tested : rule.predicate.test record = .ok outcome) (next : rule.next outcome = some target)
    (rest : registry.Observed record (trace.record rule.id outcome) target) :
    registry.Observed record trace rule.id := by
  have walked := walk_applied fresh found tested
  rw [next] at walked
  change _ = (registry.walk record (trace.record rule.id outcome) target).after _ at walked
  constructor
  · exact entries_walk formed
  · rw [walked]
    exact List.forall_mem_cons.mpr ⟨tells_step found tested _, rest.told⟩
  · rw [walked]
    rintro first ⟨⟩
    exact ⟨rfl, fresh⟩
  · rw [walked]
    exact linked_cons next rest.started rest.linked
  · rw [walked]
    exact fun last isLast => (ends_cons next rest.ended isLast).after _

/-- An observer of a walk over a well-formed registry sees it exactly. -/
theorem observed_of_wellFormed (formed : registry.WellFormed) (record : Value) (trace : Trace)
    (entry : RuleId) : registry.Observed record trace entry := by
  induction trace, entry using walk_induct_stops registry record with
  | stops trace current failure walked => exact observed_nil formed walked
  | applied trace current rule outcome fresh found tested ih =>
    obtain rfl := formed.keyed current rule found
    cases next : rule.next outcome with
    | none => exact observed_singleton formed fresh found tested next
    | some target => exact observed_cons formed fresh found tested next (ih target next)

/-- The steps of a walk show it exactly, over registries of any rules and over compiled flows, from
every entry and in every trace. There is one step for each new entry of the trace, with the title
and the successor of the registered rule. Each step but the last closes no cycle and leads to the
next one. The last one closes a cycle exactly when its successor is in the trace at the end, and
then the walk does not fail; otherwise it has no successor, or its successor is not registered, or
the predicate of its successor fails. -/
theorem walk_observed (record : Value) (trace : Trace) (entry : RuleId) :
    (∀ added : List Rule, (ofRules added).Observed record trace entry) ∧
    ∀ {ε : Type} (compiler : String → Except ε Predicate) (definitions : List RuleDefinition)
      (registry : Registry), compile compiler definitions = .ok registry →
      registry.Observed record trace entry := by
  constructor
  · intro added
    exact observed_of_wellFormed (wellFormed_ofRules added) record trace entry
  · intro ε compiler definitions registry compiled
    exact observed_of_wellFormed (wellFormed_of_compile compiled) record trace entry

end Walks

/-- Two rules that lead to one another: the first step leads to the second one, which closes the
cycle. -/
theorem walk_observed_cycle :
    let compiler : String → Except Unit Predicate := fun source =>
      .ok (.function fun _ => .ok (.string source))
    let definitions : List RuleDefinition :=
      [⟨.int 1, "one", "yes", some (.name "b"), none⟩, ⟨.name "b", "two", "", none, some (.int 1)⟩]
    ∃ registry, compile compiler definitions = .ok registry ∧
      registry.Observed .null .empty (.int 1) ∧
      (registry.walk .null .empty (.int 1)).steps =
        [⟨.int 1, "one", true, some (.name "b"), false⟩,
          ⟨.name "b", "two", false, some (.int 1), true⟩] := by
  intro compiler definitions
  refine ⟨_, rfl, (walk_observed .null .empty (.int 1)).2 compiler definitions _ rfl, ?_⟩
  rw [walk_applied rfl rfl rfl]
  change _ :: (Registry.walk _ _ _ _).steps = _
  rw [walk_applied rfl rfl rfl]
  change _ :: _ :: (Registry.walk _ _ _ _).steps = _
  rw [walk_visited rfl]
  rfl

end Registry

end DecisionFlow
