import DecisionFlow.Proofs.Rule.Contents
import DecisionFlow.Proofs.Walk.Steps

/-!
# The turns of a walk

A walk is a loop. Each turn looks at one id: it ends the walk, or it calls the predicate of a rule,
records the outcome and goes on to the successor. Nothing in the loop counts its turns, and edges
may lead back to any rule. It ends all the same (`walk_ends`): a turn that goes on has recorded its
id, so no rule is called again, and no rule that was visited before is called at all.
-/
namespace DecisionFlow

/-- A walk between two turns of its loop. -/
structure Stage where
  /-- The id that the next turn looks at. -/
  current : RuleId
  /-- The trace so far. -/
  trace : Trace
  /-- The steps so far. -/
  steps : List Step
  /-- The rules whose predicates were called so far, in order. -/
  called : List Rule

/-- The stage at the start of a walk. -/
def Stage.start (trace : Trace) (entry : RuleId) : Stage := ⟨entry, trace, [], []⟩

/-- A walk with some steps before it. -/
def Walked.afterAll (walked : Walked) (steps : List Step) : Walked :=
  { walked with steps := steps ++ walked.steps }

/-- Where a turn of the loop leads. -/
inductive Turn where
  /-- To another turn. -/
  | onward (stage : Stage)
  /-- To the end of the walk, with the rules whose predicates were called. -/
  | ended (walked : Walked) (called : List Rule)

namespace Registry

variable {registry : Registry} {trace : Trace}

/-- The rules that a walk with a trace may call: no rule twice, and none that was visited. -/
structure Calls (registry : Registry) (trace : Trace) (called : List Rule) : Prop where
  /-- No rule is called twice. -/
  distinct : (called.map Rule.id).Nodup
  /-- What is called is registered. -/
  registered : ∀ rule ∈ called, registry.get? rule.id = some rule
  /-- What is called was not visited. -/
  fresh : ∀ rule ∈ called, trace.contains rule.id = false

/-- No calls are allowed. -/
theorem Calls.nil : registry.Calls trace [] := ⟨List.nodup_nil, nofun, nofun⟩

/-- A call of a rule that was not visited may come before calls that are allowed once the rule was
recorded. -/
theorem Calls.cons {rule : Rule} {called : List Rule}
    (found : registry.get? rule.id = some rule) (fresh : trace.contains rule.id = false)
    (outcome : Bool) (later : registry.Calls (trace.record rule.id outcome) called) :
    registry.Calls trace (rule :: called) := by
  have apart : ∀ other ∈ called, trace.contains other.id = false ∧ other.id ≠ rule.id := by
    intro other listed
    have unseen := later.fresh other listed
    rw [Trace.contains_record, Bool.or_eq_false_iff, beq_eq_false_iff_ne] at unseen
    exact unseen
  constructor
  · rw [List.map_cons, List.nodup_cons]
    refine ⟨fun repeated => ?_, later.distinct⟩
    obtain ⟨other, listed, same⟩ := List.mem_map.mp repeated
    exact (apart other listed).2 same
  · intro other listed
    rcases List.mem_cons.mp listed with rfl | listed
    · exact found
    · exact later.registered other listed
  · intro other listed
    rcases List.mem_cons.mp listed with rfl | listed
    · exact fresh
    · exact (apart other listed).1

/-- A rule that was not visited may be called. -/
theorem Calls.single {rule : Rule} (found : registry.get? rule.id = some rule)
    (fresh : trace.contains rule.id = false) : registry.Calls trace [rule] :=
  .cons found fresh true .nil

/-- There are at most as many calls as registered ids that were not visited. -/
theorem Calls.length_le {called : List Rule} (calls : registry.Calls trace called)
    (formed : registry.WellFormed) :
    called.length ≤ (registry.ids.filter fun id => !trace.contains id).length := by
  have among : called.map Rule.id ⊆ registry.ids.filter fun id => !trace.contains id := by
    intro id listed
    obtain ⟨rule, called, rfl⟩ := List.mem_map.mp listed
    have present : registry.contains rule.id = true := by
      rw [contains, calls.registered rule called]
      rfl
    have unseen : (!trace.contains rule.id) = true := by rw [calls.fresh rule called]; rfl
    exact List.mem_filter.mpr ⟨(formed.listed rule.id).mpr present, unseen⟩
  have bound := (List.subperm_of_subset calls.distinct among).length_le
  rwa [List.length_map] at bound

variable [Regex.Matcher] [Value.Enumeration]

/-- One turn of the loop. A predicate is called in it at most once, after its rule was looked up. -/
def turn (registry : Registry) (record : Value) (stage : Stage) : Turn :=
  if stage.trace.contains stage.current then .ended ⟨stage.trace, stage.steps, none⟩ stage.called
  else
    match registry.get? stage.current with
    | none => .ended ⟨stage.trace, stage.steps, none⟩ stage.called
    | some rule =>
      let called := stage.called ++ [rule]
      match rule.predicate.test record with
      | .error cause => .ended ⟨stage.trace, stage.steps, some ⟨stage.current, cause⟩⟩ called
      | .ok outcome =>
        let recorded := stage.trace.record stage.current outcome
        let steps := stage.steps ++ [rule.step outcome recorded]
        match rule.next outcome with
        | none => .ended ⟨recorded, steps, none⟩ called
        | some target => .onward ⟨target, recorded, steps, called⟩

/-- Some turns of the loop, fewer when it ends. -/
def turns (registry : Registry) (record : Value) : Nat → Stage → Turn
  | 0, stage => .onward stage
  | count + 1, stage =>
    match registry.turn record stage with
    | .onward next => registry.turns record count next
    | .ended walked called => .ended walked called

variable {record : Value} {current : RuleId} {steps : List Step} {before : List Rule}

/-- A turn ends the walk at an id that was visited. -/
theorem turn_visited (visited : trace.contains current = true) :
    registry.turn record ⟨current, trace, steps, before⟩ = .ended ⟨trace, steps, none⟩ before := by
  rw [turn, if_pos visited]

/-- A turn ends the walk at an id that no rule has. -/
theorem turn_unregistered (fresh : trace.contains current = false)
    (absent : registry.get? current = none) :
    registry.turn record ⟨current, trace, steps, before⟩ = .ended ⟨trace, steps, none⟩ before := by
  rw [turn, if_neg (Bool.eq_false_iff.mp fresh), absent]

/-- A turn ends the walk when the predicate that it calls fails. -/
theorem turn_failed {rule : Rule} {cause : EvalError} (fresh : trace.contains current = false)
    (found : registry.get? current = some rule)
    (failed : rule.predicate.test record = .error cause) :
    registry.turn record ⟨current, trace, steps, before⟩ =
      .ended ⟨trace, steps, some ⟨current, cause⟩⟩ (before ++ [rule]) := by
  rw [turn, if_neg (Bool.eq_false_iff.mp fresh), found]
  simp only [failed]

/-- A turn that applies a rule goes on to the successor, and without one ends the walk. -/
theorem turn_applied {rule : Rule} {outcome : Bool} (fresh : trace.contains current = false)
    (found : registry.get? current = some rule)
    (applied : rule.predicate.test record = .ok outcome) :
    registry.turn record ⟨current, trace, steps, before⟩ =
      (rule.next outcome).elim
        (.ended ⟨trace.record current outcome,
          steps ++ [rule.step outcome (trace.record current outcome)], none⟩ (before ++ [rule]))
        fun target => .onward ⟨target, trace.record current outcome,
          steps ++ [rule.step outcome (trace.record current outcome)], before ++ [rule]⟩ := by
  rw [turn, if_neg (Bool.eq_false_iff.mp fresh), found]
  simp only [applied]
  cases rule.next outcome <;> rfl

/-- A turn that ends the walk is the last one, however many are allowed. -/
theorem turns_ended {stage : Stage} {walked : Walked} {called : List Rule}
    (ended : registry.turn record stage = .ended walked called) {count : Nat}
    (allowed : 0 < count) :
    registry.turns record count stage = .ended walked called := by
  cases count with
  | zero => contradiction
  | succ count => rw [turns, ended]

/-- From a stage at an id the loop comes to the end of the walk, and calls some rules on the way. -/
structure Runs (registry : Registry) (record : Value) (trace : Trace) (current : RuleId)
    (called : List Rule) : Prop where
  /-- The loop has ended after one turn more than it calls rules. -/
  ends : ∀ steps before count, called.length < count →
    registry.turns record count ⟨current, trace, steps, before⟩ =
      .ended ((registry.walk record trace current).afterAll steps) (before ++ called)
  /-- No rule is called twice, and none that was visited. -/
  calls : registry.Calls trace called
  /-- The rules are those of the steps and the one that fails. -/
  told : called.map Rule.id = (registry.walk record trace current).steps.map Step.id ++
    (registry.walk record trace current).failure.toList.map WalkError.rule

/-- A loop that ends with its first turn calls what that turn calls. -/
theorem runs_of_ended {walked : Walked} {called : List Rule}
    (same : registry.walk record trace current = walked)
    (turned : ∀ steps before, registry.turn record ⟨current, trace, steps, before⟩ =
      .ended (walked.afterAll steps) (before ++ called))
    (calls : registry.Calls trace called)
    (told : called.map Rule.id =
      walked.steps.map Step.id ++ walked.failure.toList.map WalkError.rule) :
    registry.Runs record trace current called where
  ends steps before count more := by
    have allowed : 0 < count := Nat.zero_lt_of_lt more
    rw [same]
    exact turns_ended (turned steps before) allowed
  calls := calls
  told := by
    rw [same]
    exact told

/-- A loop that goes on from its first turn calls the rule of that turn before those that it calls
from the successor on. -/
theorem runs_cons {rule : Rule} {outcome : Bool} {target : RuleId} {called : List Rule}
    (fresh : trace.contains rule.id = false) (found : registry.get? rule.id = some rule)
    (tested : rule.predicate.test record = .ok outcome) (next : rule.next outcome = some target)
    (rest : registry.Runs record (trace.record rule.id outcome) target called) :
    registry.Runs record trace rule.id (rule :: called) := by
  have walked := walk_applied fresh found tested
  rw [next] at walked
  constructor
  · intro steps before count more
    cases count with
    | zero => contradiction
    | succ count =>
      have turned : registry.turn record ⟨rule.id, trace, steps, before⟩ = _ :=
        turn_applied fresh found tested
      have left := rest.ends (steps ++ [rule.step outcome (trace.record rule.id outcome)])
        (before ++ [rule]) count (Nat.lt_of_succ_lt_succ more)
      rw [Walked.afterAll, List.append_assoc, List.append_assoc] at left
      rw [next] at turned
      rw [turns, turned, walked]
      exact left
  · exact .cons found fresh outcome rest.calls
  · rw [walked, List.map_cons, rest.told]
    rfl

/-- From every id, in every trace, the loop comes to the end of the walk. -/
theorem exists_runs (formed : registry.WellFormed) (record : Value) (trace : Trace)
    (current : RuleId) : ∃ called, registry.Runs record trace current called := by
  induction trace, current using walk_induct registry record with
  | visited trace current visited =>
    refine ⟨[], runs_of_ended (walk_visited visited) (fun steps before => ?_) .nil rfl⟩
    rw [turn_visited visited, Walked.afterAll, List.append_nil, List.append_nil]
  | unregistered trace current fresh absent =>
    refine ⟨[], runs_of_ended (walk_unregistered absent) (fun steps before => ?_) .nil rfl⟩
    rw [turn_unregistered fresh absent, Walked.afterAll, List.append_nil, List.append_nil]
  | failed trace current rule cause fresh found tested =>
    obtain rfl := formed.keyed current rule found
    have walked := walk_failed fresh found tested
    refine ⟨[rule], runs_of_ended walked (fun steps before => ?_) (.single found fresh) rfl⟩
    rw [turn_failed fresh found tested, Walked.afterAll, List.append_nil]
  | applied trace current rule outcome fresh found tested ih =>
    obtain rfl := formed.keyed current rule found
    cases next : rule.next outcome with
    | none =>
      have walked := walk_applied fresh found tested
      rw [next] at walked
      refine ⟨[rule], runs_of_ended walked (fun steps before => ?_) (.single found fresh) rfl⟩
      rw [turn_applied fresh found tested, next]
      rfl
    | some target =>
      obtain ⟨called, rest⟩ := ih target next
      exact ⟨rule :: called, runs_cons fresh found tested next rest⟩

/-- Every walk ends. Over a registry of any rules, with cycles, edges to themselves and edges that
lead nowhere, from any entry and in any trace, the loop has ended after the turns that call a
predicate and at most one more, with the result of the walk. The rules that it calls are registered,
were not visited before and are called once, so they are no more than the registered ids outside
the trace; they are the rules of the steps and the rule that fails. -/
theorem walk_ends (added : List Rule) (record : Value) (trace : Trace) (entry : RuleId) :
    ∃ called : List Rule,
      (∀ more, (ofRules added).turns record (called.length + 1 + more) (.start trace entry) =
        .ended ((ofRules added).walk record trace entry) called) ∧
      called.length ≤ ((ofRules added).ids.filter fun id => !trace.contains id).length ∧
      (ofRules added).Calls trace called ∧
      called.map Rule.id = ((ofRules added).walk record trace entry).steps.map Step.id ++
        ((ofRules added).walk record trace entry).failure.toList.map WalkError.rule := by
  have formed := wellFormed_ofRules added
  obtain ⟨called, runs⟩ := exists_runs formed record trace entry
  have enough : ∀ more, called.length < called.length + 1 + more := fun more => by omega
  refine ⟨called, fun more => ?_, runs.calls.length_le formed, runs.calls, runs.told⟩
  exact runs.ends [] [] _ (enough more)

end Registry

end DecisionFlow
