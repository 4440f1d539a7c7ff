import DecisionFlow.Proofs.Walk.Path

/-!
# Stopping and resuming

A walk keeps nothing but its trace and the id that it looks at. Whoever stops it after some visits
and starts again from the next id of the path, with the trace of the visits so far, gets the rest
of the walk: the same trace, the same failure and the remaining steps (`walk_resumes`).
-/
namespace DecisionFlow

/-- Recording visits forgets none, and visits their ids. -/
theorem Trace.contains_recordAll (trace : Trace) (visits : List (RuleId × Bool)) (id : RuleId) :
    (trace.recordAll visits).contains id = (trace.contains id || visits.any (id == ·.1)) := by
  induction visits generalizing trace with
  | nil => exact (Bool.or_false _).symm
  | cons visit visits ih =>
    have tail : (trace.recordAll (visit :: visits)).contains id =
        ((trace.record visit.1 visit.2).recordAll visits).contains id := rfl
    rw [tail, ih, contains_record, List.any_cons, Bool.or_assoc]

namespace Registry

variable [Regex.Matcher] [Value.Enumeration]

/-- The walk from an entry makes some visits and can be resumed after any number of them. -/
structure Resumes (registry : Registry) (record : Value) (trace : Trace) (entry : RuleId)
    (visits : List (RuleId × Bool)) : Prop where
  /-- The visits are recorded in order. -/
  recorded : (registry.walk record trace entry).trace = trace.recordAll visits
  /-- Recording some of the visits puts them after the entries of the trace. -/
  entries : ∀ count ≤ visits.length,
    (trace.recordAll (visits.take count)).entries = trace.entries ++ visits.take count
  /-- The visits are those of the path from the entry. -/
  reached : ∀ count (before : count < visits.length),
    registry.path record entry count = some visits[count].1
  /-- From the id after some of the visits, with their trace, the walk goes on as it did. -/
  resumed : ∀ count ≤ visits.length, ∀ current,
    registry.path record entry count = some current →
      registry.walk record (trace.recordAll (visits.take count)) current =
        { registry.walk record trace entry with
          steps := (registry.walk record trace entry).steps.drop count }
  /-- From the rule that failed, with the trace that was left behind, the walk fails again. -/
  failed : ∀ error, (registry.walk record trace entry).failure = some error →
    registry.walk record (registry.walk record trace entry).trace error.rule =
      ⟨(registry.walk record trace entry).trace, [], some error⟩
  /-- From the entry, with the trace after any visits, nothing happens. -/
  repeated : visits ≠ [] →
    registry.walk record (registry.walk record trace entry).trace entry =
      ⟨(registry.walk record trace entry).trace, [], none⟩

variable {registry : Registry} {record : Value} {trace : Trace} {entry : RuleId}

/-- A walk that stops at its entry, and fails there again if it failed, can be resumed. -/
theorem resumes_nil {failure : Option WalkError}
    (walked : registry.walk record trace entry = ⟨trace, [], failure⟩)
    (failed : ∀ error, failure = some error → error.rule = entry) :
    registry.Resumes record trace entry [] where
  recorded := by rw [walked]; rfl
  entries count _ := by rw [List.take_nil, List.append_nil]; rfl
  reached := nofun
  resumed count before current reached := by
    obtain rfl : count = 0 := Nat.le_zero.mp before
    cases reached
    rfl
  failed error same := by
    rw [walked] at same ⊢
    simp only at same
    rw [failed error same, walked, same]
  repeated some_visit := absurd rfl some_visit

/-- A walk that applies the rule of its entry visits the entry. -/
theorem recorded_cons {rule : Rule} {outcome : Bool} (fresh : trace.contains entry = false)
    (found : registry.get? entry = some rule) (tested : rule.predicate.test record = .ok outcome)
    {visits : List (RuleId × Bool)}
    (recorded : (registry.onward record (trace.record entry outcome) (rule.next outcome)).trace =
      (trace.record entry outcome).recordAll visits) :
    (registry.walk record trace entry).trace = trace.recordAll ((entry, outcome) :: visits) := by
  rw [walk_applied fresh found tested]
  exact recorded

/-- After a visit of the entry nothing happens from there. -/
theorem repeated_cons {outcome : Bool} {visits : List (RuleId × Bool)}
    (recorded : (registry.walk record trace entry).trace =
      trace.recordAll ((entry, outcome) :: visits)) :
    registry.walk record (registry.walk record trace entry).trace entry =
      ⟨(registry.walk record trace entry).trace, [], none⟩ := by
  apply walk_visited
  rw [recorded, Trace.contains_recordAll, List.any_cons, beq_self_eq_true, Bool.true_or,
    Bool.or_true]

/-- A walk that applies a rule without successor can be resumed. -/
theorem resumes_singleton {rule : Rule} {outcome : Bool} (fresh : trace.contains entry = false)
    (found : registry.get? entry = some rule) (tested : rule.predicate.test record = .ok outcome)
    (next : rule.next outcome = none) :
    registry.Resumes record trace entry [(entry, outcome)] := by
  have walked := walk_applied fresh found tested
  have selected := successor_of_test found tested
  rw [next] at walked selected
  have recorded : (registry.walk record trace entry).trace = trace.recordAll [(entry, outcome)] :=
    recorded_cons fresh found tested (by rw [next]; rfl)
  constructor
  · exact recorded
  · intro count before
    cases count with
    | zero => exact (List.append_nil _).symm
    | succ count =>
      rw [List.take_of_length_le (Nat.le_add_left 1 count)]
      exact Trace.entries_record fresh outcome
  · intro count before
    obtain rfl : count = 0 := Nat.lt_one_iff.mp before
    rfl
  · intro count before current reached
    cases count with
    | zero =>
      cases reached
      rfl
    | succ count =>
      rw [path_succ, selected] at reached
      contradiction
  · intro error failed
    rw [walked] at failed
    contradiction
  · intro _
    exact repeated_cons recorded

/-- A walk that applies a rule can be resumed when the walk from the successor can. -/
theorem resumes_cons {rule : Rule} {outcome : Bool} {target : RuleId}
    {visits : List (RuleId × Bool)} (fresh : trace.contains entry = false)
    (found : registry.get? entry = some rule) (tested : rule.predicate.test record = .ok outcome)
    (next : rule.next outcome = some target)
    (rest : registry.Resumes record (trace.record entry outcome) target visits) :
    registry.Resumes record trace entry ((entry, outcome) :: visits) := by
  have walked := walk_applied fresh found tested
  have selected := successor_of_test found tested
  have recorded : (registry.walk record trace entry).trace =
      trace.recordAll ((entry, outcome) :: visits) :=
    recorded_cons fresh found tested (by rw [next]; exact rest.recorded)
  rw [next] at walked selected
  constructor
  · exact recorded
  · intro count before
    cases count with
    | zero => exact (List.append_nil _).symm
    | succ count =>
      have later := rest.entries count (Nat.le_of_succ_le_succ before)
      rw [Trace.entries_record fresh outcome, List.append_assoc] at later
      exact later
  · intro count before
    cases count with
    | zero => rfl
    | succ count =>
      rw [path_succ, selected]
      exact rest.reached count (Nat.lt_of_succ_lt_succ before)
  · intro count before current reached
    cases count with
    | zero =>
      cases reached
      rfl
    | succ count =>
      rw [path_succ, selected] at reached
      have later := rest.resumed count (Nat.le_of_succ_le_succ before) current reached
      rw [walked]
      exact later
  · rw [walked]
    exact rest.failed
  · intro _
    exact repeated_cons recorded

/-- A walk that is stopped after any number of its visits and started again from the next id of
the path, with the trace of these visits, ends with the same trace and the same failure. Started
again from the rule that failed it fails in the same way and records nothing; started again from
its entry after any visit it records nothing and does not fail. -/
theorem walk_resumes (registry : Registry) (record : Value) (trace : Trace) (entry : RuleId) :
    ∃ visits,
      (registry.walk record trace entry).trace.entries = trace.entries ++ visits ∧
      registry.Resumes record trace entry visits := by
  have resumes : ∃ visits, registry.Resumes record trace entry visits := by
    induction trace, entry using walk_induct registry record with
    | visited trace current visited => exact ⟨[], resumes_nil (walk_visited visited) nofun⟩
    | unregistered trace current fresh absent =>
      exact ⟨[], resumes_nil (walk_unregistered absent) nofun⟩
    | failed trace current rule cause fresh found tested =>
      refine ⟨[], resumes_nil (walk_failed fresh found tested) ?_⟩
      rintro error same
      cases same
      rfl
    | applied trace current rule outcome fresh found tested ih =>
      cases next : rule.next outcome with
      | none => exact ⟨_, resumes_singleton fresh found tested next⟩
      | some target =>
        obtain ⟨visits, rest⟩ := ih target next
        exact ⟨_, resumes_cons fresh found tested next rest⟩
  obtain ⟨visits, resumes⟩ := resumes
  have all := resumes.entries visits.length (Nat.le_refl _)
  rw [List.take_length] at all
  exact ⟨visits, by rw [resumes.recorded, all], resumes⟩

end Registry

end DecisionFlow
