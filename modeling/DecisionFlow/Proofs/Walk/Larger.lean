import DecisionFlow.Proofs.Walk.Path

/-!
# Walks in larger traces

Ids that a trace contains only stop a walk: they select no successor and change no predicate. So of
two walks from one entry the one whose trace contains more goes along with the other one, up to the
first id that only the larger trace contains (`walk_larger`).
-/
namespace DecisionFlow

/-- Every id that one trace contains is contained in another one. -/
def Trace.Within (trace larger : Trace) : Prop :=
  ∀ id, trace.contains id = true → larger.contains id = true

namespace Trace

variable {trace larger : Trace}

/-- What the larger trace does not contain, the smaller one does not contain. -/
theorem Within.fresh (within : trace.Within larger) {id : RuleId}
    (fresh : larger.contains id = false) : trace.contains id = false := by
  apply Bool.eq_false_iff.mpr
  intro visited
  have contained := within id visited
  rw [fresh] at contained
  contradiction

/-- Recording the same id keeps one trace within the other. -/
theorem Within.record (within : trace.Within larger) (id : RuleId) (outcome : Bool) :
    (trace.record id outcome).Within (larger.record id outcome) := by
  intro other visited
  rw [contains_record, Bool.or_eq_true] at visited ⊢
  rcases visited with earlier | here
  · exact .inl (within other earlier)
  · exact .inr here

end Trace

namespace Registry

section Walks

variable [Regex.Matcher] [Value.Enumeration]

/-- A walk visits no more in a larger trace: there its visits are the first ones of the walk in the
smaller trace, and all of them when it fails, with the same failure. -/
structure CutShort (registry : Registry) (record : Value) (trace larger : Trace) (entry : RuleId)
    (visits shorter : List (RuleId × Bool)) : Prop where
  /-- The visits of the walk in the smaller trace. -/
  entries : (registry.walk record trace entry).trace.entries = trace.entries ++ visits
  /-- The visits of the walk in the larger trace. -/
  entriesLarger : (registry.walk record larger entry).trace.entries = larger.entries ++ shorter
  /-- The visits in the larger trace are the first ones of those in the smaller one. -/
  cut : shorter <+: visits
  /-- When the walk in the larger trace fails, the other one fails in the same way after the same
  visits. -/
  failed : ∀ error, (registry.walk record larger entry).failure = some error →
    (registry.walk record trace entry).failure = some error ∧ visits = shorter

variable {registry : Registry} {record : Value} {trace larger : Trace} {entry : RuleId}

/-- A walk keeps the entries of its trace in front. -/
theorem entries_walk_prefix (registry : Registry) (record : Value) (trace : Trace)
    (entry : RuleId) : trace.entries <+: (registry.walk record trace entry).trace.entries := by
  induction trace, entry using walk_induct_stops registry record with
  | stops trace current failure walked =>
    have kept : trace = (registry.walk record trace current).trace := by rw [walked]
    exact kept ▸ List.prefix_rfl
  | applied trace current rule outcome fresh found tested ih =>
    have here : trace.entries <+: (trace.record current outcome).entries := by
      rw [Trace.entries_record fresh]
      exact List.prefix_append _ _
    rw [walk_applied fresh found tested]
    cases next : rule.next outcome with
    | none => exact here
    | some target => exact here.trans (ih target next)

/-- A walk that stops at its entry in the larger trace is cut short there. -/
theorem cutShort_nil (trace : Trace)
    (walked : registry.walk record larger entry = ⟨larger, [], none⟩) :
    ∃ visits shorter, registry.CutShort record trace larger entry visits shorter := by
  obtain ⟨visits, entries⟩ := entries_walk_prefix registry record trace entry
  refine ⟨visits, [], entries.symm, ?_, List.nil_prefix, ?_⟩
  · rw [walked, List.append_nil]
  · rw [walked]
    nofun

/-- Walks that fail at their entry in both traces visit nothing. -/
theorem cutShort_failed {error : WalkError}
    (walked : registry.walk record trace entry = ⟨trace, [], some error⟩)
    (walkedLarger : registry.walk record larger entry = ⟨larger, [], some error⟩) :
    registry.CutShort record trace larger entry [] [] where
  entries := by rw [walked, List.append_nil]
  entriesLarger := by rw [walkedLarger, List.append_nil]
  cut := List.prefix_rfl
  failed other same := by
    rw [walkedLarger] at same
    rw [walked]
    exact ⟨same, rfl⟩

/-- Walks that apply a rule without successor in both traces make the same visit. -/
theorem cutShort_singleton {rule : Rule} {outcome : Bool} (fresh : trace.contains entry = false)
    (freshLarger : larger.contains entry = false) (found : registry.get? entry = some rule)
    (tested : rule.predicate.test record = .ok outcome) (next : rule.next outcome = none) :
    registry.CutShort record trace larger entry [(entry, outcome)] [(entry, outcome)] := by
  have walked := walk_applied fresh found tested
  have walkedLarger := walk_applied freshLarger found tested
  rw [next] at walked walkedLarger
  constructor
  · rw [walked]
    exact Trace.entries_record fresh outcome
  · rw [walkedLarger]
    exact Trace.entries_record freshLarger outcome
  · exact List.prefix_rfl
  · rw [walkedLarger]
    nofun

/-- Walks that apply a rule in both traces make the same visit before those from the successor. -/
theorem cutShort_cons {rule : Rule} {outcome : Bool} {target : RuleId}
    {visits shorter : List (RuleId × Bool)} (fresh : trace.contains entry = false)
    (freshLarger : larger.contains entry = false) (found : registry.get? entry = some rule)
    (tested : rule.predicate.test record = .ok outcome) (next : rule.next outcome = some target)
    (rest : registry.CutShort record (trace.record entry outcome) (larger.record entry outcome)
      target visits shorter) :
    registry.CutShort record trace larger entry ((entry, outcome) :: visits)
      ((entry, outcome) :: shorter) := by
  have walked := walk_applied fresh found tested
  have walkedLarger := walk_applied freshLarger found tested
  rw [next] at walked walkedLarger
  constructor
  · have entries := rest.entries
    rw [Trace.entries_record fresh, List.append_assoc] at entries
    rw [walked]
    exact entries
  · have entries := rest.entriesLarger
    rw [Trace.entries_record freshLarger, List.append_assoc] at entries
    rw [walkedLarger]
    exact entries
  · exact List.cons_prefix_cons.mpr ⟨rfl, rest.cut⟩
  · intro error failed
    rw [walkedLarger] at failed
    obtain ⟨same, visited⟩ := rest.failed error failed
    rw [walked, visited]
    exact ⟨same, rfl⟩

/-- A larger trace only cuts a walk short. When every id of a trace is in a larger one, the walk
from an entry in the larger trace makes the first visits of the walk in the smaller one. When it
fails, the walk in the smaller trace makes the same visits and fails in the same way. -/
theorem walk_larger (registry : Registry) (record : Value) (trace larger : Trace) (entry : RuleId)
    (within : trace.Within larger) :
    ∃ visits shorter, registry.CutShort record trace larger entry visits shorter := by
  induction larger, entry using walk_induct registry record generalizing trace with
  | visited larger current visited =>
    exact cutShort_nil trace (walk_visited visited)
  | unregistered larger current fresh absent =>
    exact cutShort_nil trace (walk_unregistered absent)
  | failed larger current rule cause fresh found tested =>
    have walked := walk_failed (within.fresh fresh) found tested
    exact ⟨[], [], cutShort_failed walked (walk_failed fresh found tested)⟩
  | applied larger current rule outcome fresh found tested ih =>
    cases next : rule.next outcome with
    | none =>
      exact ⟨_, _, cutShort_singleton (within.fresh fresh) fresh found tested next⟩
    | some target =>
      obtain ⟨visits, shorter, rest⟩ := ih target next _ (within.record current outcome)
      exact ⟨_, _, cutShort_cons (within.fresh fresh) fresh found tested next rest⟩

end Walks

/-- Of three rules the last one fails. With an id off the path in the trace the walk fails as it
does without; with the second rule in it too the walk stops after the first one. -/
theorem walk_larger_cut :
    let first : Rule :=
      { id := .int 1, title := "first", predicate := .function fun _ => .ok (.int 7)
        trueNext := some (.int 2) }
    let second : Rule :=
      { id := .int 2, title := "second", predicate := .function fun _ => .ok .null
        falseNext := some (.int 3) }
    let third : Rule :=
      { id := .int 3, title := "third", predicate := .function fun _ => .error .divisionByZero }
    let registry := ofRules [first, second, third]
    let elsewhere := Trace.empty.record (.name "elsewhere") true
    let visited := elsewhere.record (.int 2) true
    Trace.empty.Within elsewhere ∧ elsewhere.Within visited ∧
      (∃ visits shorter, registry.CutShort .null .empty elsewhere (.int 1) visits shorter) ∧
      (registry.walk .null elsewhere (.int 1)).failure = some ⟨.int 3, .divisionByZero⟩ ∧
      (∃ visits shorter, registry.CutShort .null elsewhere visited (.int 1) visits shorter) ∧
      (registry.walk .null visited (.int 1)).trace.entries =
        [(.name "elsewhere", true), (.int 2, true), (.int 1, true)] := by
  intro first second third registry elsewhere visited
  have within : elsewhere.Within visited := by
    intro id contained
    rw [Trace.contains_record, contained]
    rfl
  refine ⟨nofun, within, walk_larger registry .null .empty elsewhere (.int 1) nofun, ?_,
    walk_larger registry .null elsewhere visited (.int 1) within, ?_⟩
  · rw [walk_applied rfl rfl rfl]
    change (registry.walk .null _ (.int 2)).failure = _
    rw [walk_applied rfl rfl rfl]
    change (registry.walk .null _ (.int 3)).failure = _
    rw [walk_failed rfl rfl rfl]
  · rw [walk_applied rfl rfl rfl]
    change (registry.walk .null _ (.int 2)).trace.entries = _
    rw [walk_visited rfl]
    rfl

end Registry

end DecisionFlow
