import DecisionFlow.Proofs.Walk.Steps

/-!
# The reference path

From an entry the rules select one successor after the other, by the truth of their predicates on
the record. This path is defined without a trace and may go round for ever. A walk is the part of
it up to the first place that was visited, that no rule has, whose predicate fails, or that no
rule selects (`walk_follows_path`).
-/
namespace DecisionFlow

/-- Record some visits in order. -/
def Trace.recordAll (trace : Trace) (visits : List (RuleId × Bool)) : Trace :=
  visits.foldl (fun trace visit => trace.record visit.1 visit.2) trace

/-- Recording an id that was not visited adds one entry at the end. -/
theorem Trace.entries_record {trace : Trace} {id : RuleId} (fresh : trace.contains id = false)
    (outcome : Bool) : (trace.record id outcome).entries = trace.entries ++ [(id, outcome)] := by
  simp only [record, admits, fresh, Bool.not_false, ↓reduceIte]

/-- What a walk finds at a place of a path. -/
inductive Place where
  /-- A rule to visit, with its outcome. -/
  | visit (entry : RuleId × Bool)
  /-- Nothing to visit. -/
  | over
  /-- A rule whose predicate fails. -/
  | failure (error : WalkError)
deriving DecidableEq, Repr

/-- The place where a walk with a result ends. -/
def Place.last : Option WalkError → Place
  | none => .over
  | some error => .failure error

namespace Registry

variable [Regex.Matcher] [Value.Enumeration]

/-- The outcome of the rule under an id, or the failure of its predicate. -/
def outcome? (registry : Registry) (record : Value) (id : RuleId) :
    Option (Except EvalError Bool) :=
  (registry.get? id).map fun rule => rule.predicate.test record

/-- The successor that the rule under an id selects for its outcome. -/
def successor (registry : Registry) (record : Value) (id : RuleId) : Option RuleId := do
  let rule ← registry.get? id
  let outcome ← (rule.predicate.test record).toOption
  rule.next outcome

/-- The ids along the path from an entry. -/
def path (registry : Registry) (record : Value) (entry : RuleId) : Nat → Option RuleId
  | 0 => some entry
  | count + 1 => (registry.path record entry count).bind (registry.successor record)

/-- Whether an id is visited before a place of a path: by the trace or earlier on the path. -/
def seen (registry : Registry) (record : Value) (trace : Trace) (entry : RuleId) (count : Nat)
    (id : RuleId) : Bool :=
  trace.contains id || (List.range count).any fun earlier =>
    registry.path record entry earlier == some id

/-- What a walk with a trace finds at a place of the path from an entry. -/
def place (registry : Registry) (record : Value) (trace : Trace) (entry : RuleId) (count : Nat) :
    Place :=
  match registry.path record entry count with
  | none => .over
  | some id =>
    if registry.seen record trace entry count id then .over
    else match registry.outcome? record id with
      | none => .over
      | some (.error cause) => .failure ⟨id, cause⟩
      | some (.ok outcome) => .visit (id, outcome)

variable {registry : Registry} {record : Value} {trace : Trace} {entry : RuleId}

/-- After its first id a path is the path from the successor. -/
theorem path_succ (registry : Registry) (record : Value) (entry : RuleId) (count : Nat) :
    registry.path record entry (count + 1) =
      (registry.successor record entry).bind fun target => registry.path record target count := by
  induction count with
  | zero =>
    simp only [path, Option.bind_some]
    cases registry.successor record entry <;> rfl
  | succ count ih =>
    rw [path, ih]
    cases registry.successor record entry <;> rfl

/-- A rule whose predicate has an outcome selects its successor for it. -/
theorem successor_of_test {rule : Rule} {outcome : Bool}
    (found : registry.get? entry = some rule) (tested : rule.predicate.test record = .ok outcome) :
    registry.successor record entry = rule.next outcome := by
  rw [successor, found]
  simp only [Option.bind_eq_bind, Option.bind_some, tested, Except.toOption]

/-- What was visited by a trace and along a path from its entry on was visited by the longer trace
and along the path from the successor on. -/
theorem seen_succ {target : RuleId} (selected : registry.successor record entry = some target)
    (outcome : Bool) (count : Nat) (id : RuleId) :
    registry.seen record trace entry (count + 1) id =
      registry.seen record (trace.record entry outcome) target count id := by
  have later (earlier : Nat) :
      registry.path record entry (earlier + 1) = registry.path record target earlier := by
    rw [path_succ, selected, Option.bind_some]
  have first : (registry.path record entry 0 == some id) = (id == entry) := by
    rw [path, Bool.eq_iff_iff, beq_iff_eq, beq_iff_eq, Option.some.injEq, eq_comm]
  simp only [seen, List.range_succ_eq_map, List.any_cons, List.any_map, Function.comp_def,
    Nat.succ_eq_add_one, later, first, Trace.contains_record, Bool.or_assoc]

/-- The places after the first are those of the longer trace along the path from the successor. -/
theorem place_succ {target : RuleId} (selected : registry.successor record entry = some target)
    (outcome : Bool) (count : Nat) :
    registry.place record trace entry (count + 1) =
      registry.place record (trace.record entry outcome) target count := by
  rw [place, place, path_succ, selected, Option.bind_some]
  cases registry.path record target count with
  | none => rfl
  | some id => simp only [seen_succ selected outcome]

/-- Without a successor the path is over after its first place. -/
theorem place_one_of_none (unselected : registry.successor record entry = none) :
    registry.place record trace entry 1 = .over := by
  rw [place, path_succ, unselected]
  rfl

/-- The first place of a path is its entry, unless the trace visited it. -/
theorem place_zero (registry : Registry) (record : Value) (trace : Trace) (entry : RuleId) :
    registry.place record trace entry 0 =
      if trace.contains entry then .over
      else match registry.outcome? record entry with
        | none => .over
        | some (.error cause) => .failure ⟨entry, cause⟩
        | some (.ok outcome) => .visit (entry, outcome) := by
  simp only [place, path, seen, List.range_zero, List.any_nil, Bool.or_false]

/-- A rule with an outcome is visited at the first place of the path from it. -/
theorem place_zero_of_test {rule : Rule} {outcome : Bool} (fresh : trace.contains entry = false)
    (found : registry.get? entry = some rule)
    (tested : rule.predicate.test record = .ok outcome) :
    registry.place record trace entry 0 = .visit (entry, outcome) := by
  rw [place_zero, fresh, outcome?, found, Option.map_some, tested]
  rfl

/-- The walk from an entry makes some visits along the reference path and ends after them. -/
structure Follows (registry : Registry) (record : Value) (trace : Trace) (entry : RuleId)
    (visits : List (RuleId × Bool)) : Prop where
  /-- The places of the path before the end are the visits. -/
  visited : ∀ count (before : count < visits.length),
    registry.place record trace entry count = .visit visits[count]
  /-- At the next place there is nothing to visit, or the predicate fails and so does the walk. -/
  ended : registry.place record trace entry visits.length =
    Place.last (registry.walk record trace entry).failure
  /-- The visits are recorded in order. -/
  recorded : (registry.walk record trace entry).trace = trace.recordAll visits
  /-- The entries of the trace stay, and the visits come after them. -/
  entries : (registry.walk record trace entry).trace.entries = trace.entries ++ visits

/-- A walk that stops at its entry follows the path without visits. -/
theorem follows_nil {failure : Option WalkError}
    (walked : registry.walk record trace entry = ⟨trace, [], failure⟩)
    (ended : registry.place record trace entry 0 = Place.last failure) :
    registry.Follows record trace entry [] where
  visited := nofun
  ended := by rw [walked]; exact ended
  recorded := by rw [walked]; rfl
  entries := by rw [walked, List.append_nil]

/-- A walk that applies the rule of its entry follows the path with the visit of the entry before
the visits from the successor. -/
theorem follows_cons {rule : Rule} {outcome : Bool} {target : RuleId}
    {visits : List (RuleId × Bool)} (fresh : trace.contains entry = false)
    (found : registry.get? entry = some rule) (tested : rule.predicate.test record = .ok outcome)
    (next : rule.next outcome = some target)
    (rest : registry.Follows record (trace.record entry outcome) target visits) :
    registry.Follows record trace entry ((entry, outcome) :: visits) := by
  have walked := walk_applied fresh found tested
  have selected := successor_of_test found tested
  rw [next] at walked selected
  constructor
  · intro count before
    cases count with
    | zero => exact place_zero_of_test fresh found tested
    | succ count =>
      rw [place_succ selected outcome]
      exact rest.visited count (Nat.lt_of_succ_lt_succ before)
  · rw [walked, List.length_cons, place_succ selected outcome]
    exact rest.ended
  · rw [walked]
    exact rest.recorded
  · rw [walked]
    change (registry.walk record (trace.record entry outcome) target).trace.entries = _
    rw [rest.entries, Trace.entries_record fresh outcome, List.append_assoc]
    rfl

/-- A walk that applies a rule without successor follows the path with one visit. -/
theorem follows_singleton {rule : Rule} {outcome : Bool} (fresh : trace.contains entry = false)
    (found : registry.get? entry = some rule) (tested : rule.predicate.test record = .ok outcome)
    (next : rule.next outcome = none) :
    registry.Follows record trace entry [(entry, outcome)] := by
  have walked := walk_applied fresh found tested
  have selected := successor_of_test found tested
  rw [next] at walked selected
  constructor
  · intro count before
    obtain rfl : count = 0 := Nat.lt_one_iff.mp before
    exact place_zero_of_test fresh found tested
  · rw [walked, List.length_singleton, place_one_of_none selected]
    rfl
  · rw [walked]
    rfl
  · rw [walked]
    exact Trace.entries_record fresh outcome

/-- A walk visits the ids of the reference path in order, up to the first place where there is
nothing to visit or a predicate fails. Its trace is the trace it started with, followed by the
visits with their outcomes, and its failure is the one of the place where it ends. -/
theorem walk_follows_path (registry : Registry) (record : Value) (trace : Trace)
    (entry : RuleId) : ∃ visits, registry.Follows record trace entry visits := by
  induction trace, entry using walk_induct registry record with
  | visited trace current visited =>
    refine ⟨[], follows_nil (walk_visited visited) ?_⟩
    rw [place_zero, if_pos visited]
    rfl
  | unregistered trace current fresh absent =>
    refine ⟨[], follows_nil (walk_unregistered absent) ?_⟩
    rw [place_zero, fresh, outcome?, absent]
    rfl
  | failed trace current rule cause fresh found tested =>
    refine ⟨[], follows_nil (walk_failed fresh found tested) ?_⟩
    rw [place_zero, fresh, outcome?, found, Option.map_some, tested]
    rfl
  | applied trace current rule outcome fresh found tested ih =>
    cases next : rule.next outcome with
    | none => exact ⟨_, follows_singleton fresh found tested next⟩
    | some target =>
      obtain ⟨visits, rest⟩ := ih target next
      exact ⟨_, follows_cons fresh found tested next rest⟩

end Registry

end DecisionFlow
