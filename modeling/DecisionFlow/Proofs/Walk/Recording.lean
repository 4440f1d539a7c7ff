import DecisionFlow.Proofs.Walk.Resume
import DecisionFlow.Proofs.Walk.Trace

/-!
# Recording

A trace keeps its visits twice: in a list, and in an index that says where in the list an id is.
Recording changes both or neither, so the two agree after any calls (`Coherent.recordAll`). What is
left of the calls is the first one for each id, in the order of the calls, and whatever is asked of
the trace is answered from these (`recordAll_keeps`).
-/
namespace DecisionFlow.Trace

variable {trace : Trace} {id : RuleId}

/-- The last of some calls is recorded after the others. -/
theorem recordAll_concat (trace : Trace) (calls : List (RuleId × Bool)) (call : RuleId × Bool) :
    trace.recordAll (calls ++ [call]) = (trace.recordAll calls).record call.1 call.2 := by
  rw [recordAll, List.foldl_append]
  rfl

/-- Recording an id that was visited changes nothing. -/
theorem record_visited (visited : trace.contains id = true) (outcome : Bool) :
    trace.record id outcome = trace := by
  simp only [record, admits, visited, Bool.not_true, Bool.false_eq_true, ↓reduceIte]

/-- Recording an id that was not visited indexes it at the place after the listed ones. -/
theorem index_record (fresh : trace.contains id = false) (outcome : Bool) :
    (trace.record id outcome).index = Assoc.insert id trace.ids.length trace.index := by
  rw [ids, List.length_map]
  simp only [record, admits, fresh, Bool.not_false, ↓reduceIte]

/-- The place of an id in a list with one more id at its end. -/
theorem idxOf?_concat (ids : List RuleId) (id other : RuleId) :
    (ids ++ [id]).idxOf? other =
      (ids.idxOf? other).or (if other = id then some ids.length else none) := by
  rw [List.idxOf?, List.findIdx?_append, List.findIdx?_singleton]
  by_cases same : other = id
  · simp [same]
  · simp [same, Ne.symm same]

/-- A trace whose index agrees with its list. -/
structure Coherent (trace : Trace) : Prop extends trace.WellFormed where
  /-- The index has an entry for each listed id. -/
  indexed : Assoc.keys trace.index = trace.ids
  /-- The index gives the place of an id in the list, and none for an id that is not listed. -/
  places : ∀ id, trace.index.lookup id = trace.ids.idxOf? id

namespace Coherent

/-- The trace without visits is coherent. -/
theorem empty : Trace.empty.Coherent where
  toWellFormed := .empty
  indexed := rfl
  places _ := rfl

/-- Recording keeps a trace coherent. -/
theorem record (coherent : trace.Coherent) (id : RuleId) (outcome : Bool) :
    (trace.record id outcome).Coherent := by
  cases fresh : trace.contains id with
  | true =>
    rw [record_visited fresh]
    exact coherent
  | false =>
    have unlisted : id ∉ trace.ids := by
      rw [coherent.listed, fresh]
      exact Bool.false_ne_true
    refine ⟨coherent.toWellFormed.record fresh outcome, ?_, fun other => ?_⟩
    · have absent : ¬(Assoc.keys trace.index).contains id = true := by
        rw [coherent.indexed, List.contains_iff_mem]
        exact unlisted
      rw [index_record fresh, Assoc.keys_insert, if_neg absent, coherent.indexed,
        ids_record fresh]
    · rw [index_record fresh, Assoc.lookup_insert, ids_record fresh, idxOf?_concat,
        coherent.places]
      by_cases same : other = id
      · rw [same, List.idxOf?_eq_none_iff.mpr unlisted, if_pos (beq_self_eq_true id), if_pos rfl]
        rfl
      · rw [if_neg same, if_neg (by simpa using same), Option.or_none]

/-- The trace after any calls is coherent. -/
theorem recordAll (coherent : trace.Coherent) (calls : List (RuleId × Bool)) :
    (trace.recordAll calls).Coherent := by
  induction calls generalizing trace with
  | nil => exact coherent
  | cons call calls ih => exact ih (coherent.record call.1 call.2)

/-- A place that the index of a coherent trace gives for an id is one of the list, with the id. -/
theorem exists_entry (coherent : trace.Coherent) {place : Nat}
    (found : trace.index.lookup id = some place) :
    ∃ outcome, trace.entries[place]? = some (id, outcome) := by
  rw [coherent.places] at found
  obtain ⟨within, same, _⟩ := List.idxOf?_eq_some_iff.mp found
  have listed : trace.ids[place]? = some id := List.getElem?_eq_some_iff.mpr ⟨within, same⟩
  rw [ids, List.getElem?_map] at listed
  obtain ⟨entry, held, rfl⟩ := Option.map_eq_some_iff.mp listed
  exact ⟨entry.2, held⟩

/-- What a coherent trace gets for an id through its index is what its list has for the id. -/
theorem get?_eq (coherent : trace.Coherent) (id : RuleId) :
    trace.get? id = trace.entries.lookup id := by
  rw [get?, coherent.places, ids]
  generalize trace.entries = entries
  induction entries with
  | nil => rfl
  | cons entry entries ih =>
    rw [List.map_cons, List.idxOf?_cons, List.lookup_cons]
    by_cases same : entry.1 = id
    · simp [same]
    · rw [if_neg (by simpa using same), beq_false_of_ne (Ne.symm same), ← ih]
      cases (entries.map (·.1)).idxOf? id with
      | none => rfl
      | some place => rfl

end Coherent

/-- The calls that are the first ones for their ids, in order. -/
def firstCalls (calls : List (RuleId × Bool)) : List (RuleId × Bool) :=
  calls.eraseDupsBy (·.1 == ·.1)

/-- The first call of all is one of them, and so are the first calls among those for other ids. -/
theorem firstCalls_cons (call : RuleId × Bool) (calls : List (RuleId × Bool)) :
    firstCalls (call :: calls) = call :: firstCalls (calls.filter (·.1 != call.1)) := by
  rw [firstCalls, List.eraseDupsBy_cons, firstCalls]
  simp only [bne, Bool.decide_eq_false]

/-- A call after others is a first one unless its id was called before. -/
theorem firstCalls_concat (calls : List (RuleId × Bool)) (call : RuleId × Bool) :
    firstCalls (calls ++ [call]) =
      if call.1 ∈ calls.map (·.1) then firstCalls calls else firstCalls calls ++ [call] := by
  -- The calls for other ids are fewer, but not what follows the first call: the induction is on
  -- their number.
  induction length : calls.length using Nat.strongRecOn generalizing calls with
  | ind size ih =>
    cases calls with
    | nil => rfl
    | cons first calls =>
      rw [List.cons_append, firstCalls_cons, firstCalls_cons, List.filter_append]
      by_cases same : call.1 = first.1
      · simp [same]
      · have kept : [call].filter (·.1 != first.1) = [call] := by simp [same]
        have shorter : (calls.filter (·.1 != first.1)).length < size :=
          length ▸ Nat.lt_succ_of_le (List.length_filter_le ..)
        have others : call.1 ∈ (calls.filter (·.1 != first.1)).map (·.1) ↔
            call.1 ∈ (first :: calls).map (·.1) := by
          simp [same]
        rw [kept, ih _ shorter _ rfl]
        simp only [others]
        split <;> rfl

/-- Among the first calls an id has the outcome of its first call. -/
theorem lookup_firstCalls (calls : List (RuleId × Bool)) (id : RuleId) :
    (firstCalls calls).lookup id = calls.lookup id := by
  induction calls using List.reverseRecOn with
  | nil => rfl
  | append_singleton calls call ih =>
    rw [firstCalls_concat, List.lookup_append]
    split
    · rename_i called
      rw [ih]
      by_cases same : id = call.1
      · obtain ⟨earlier, listed, called⟩ := List.mem_map.mp called
        have known : (calls.lookup id).isSome = true :=
          List.lookup_isSome_iff.mpr ⟨earlier, listed, beq_iff_eq.mpr (same.trans called.symm)⟩
        obtain ⟨outcome, found⟩ := Option.isSome_iff_exists.mp known
        rw [found]
        rfl
      · rw [List.lookup_cons, beq_false_of_ne same]
        exact (Option.or_none).symm
    · rw [List.lookup_append, ih]

/-- The ids that a trace contains after some calls are those that were called. -/
theorem contains_calls (calls : List (RuleId × Bool)) (id : RuleId) :
    (Trace.empty.recordAll calls).contains id = true ↔ id ∈ calls.map (·.1) := by
  rw [contains_recordAll, Bool.or_eq_true, List.any_eq_true, List.mem_map]
  refine (or_iff_right Bool.false_ne_true).trans ?_
  refine exists_congr fun call => and_congr_right fun _ => ?_
  rw [beq_iff_eq]
  exact eq_comm

/-- After some calls the first ones are listed. -/
theorem entries_recordAll (calls : List (RuleId × Bool)) :
    (Trace.empty.recordAll calls).entries = firstCalls calls := by
  induction calls using List.reverseRecOn with
  | nil => rfl
  | append_singleton calls call ih =>
    have called := contains_calls calls call.1
    rw [recordAll_concat, firstCalls_concat]
    cases fresh : (Trace.empty.recordAll calls).contains call.1 with
    | true => rw [record_visited fresh, if_pos (called.mp fresh), ih]
    | false =>
      have uncalled : call.1 ∉ calls.map (·.1) := by
        rw [← called, fresh]
        exact Bool.false_ne_true
      rw [entries_record fresh, if_neg uncalled, ih]

/-- A trace is what comes of recording its own entries. -/
theorem recordAll_entries (calls : List (RuleId × Bool)) :
    Trace.empty.recordAll (Trace.empty.recordAll calls).entries = Trace.empty.recordAll calls := by
  induction calls using List.reverseRecOn with
  | nil => rfl
  | append_singleton calls call ih =>
    rw [recordAll_concat]
    cases fresh : (Trace.empty.recordAll calls).contains call.1 with
    | true => rw [record_visited fresh, ih]
    | false => rw [entries_record fresh, recordAll_concat, ih]

/-- A trace that keeps the first one of the calls for each id. -/
structure Keeps (trace : Trace) (calls : List (RuleId × Bool)) : Prop where
  /-- The list and the index agree. -/
  coherent : trace.Coherent
  /-- The first calls are listed in their order. -/
  entries : trace.entries = firstCalls calls
  /-- The ids that were called are contained, and no other ones. -/
  contains : ∀ id, trace.contains id = true ↔ id ∈ calls.map (·.1)
  /-- A place in the index is one of the list, where the id stands with the outcome to get. -/
  found : ∀ id place, trace.index.lookup id = some place →
    ∃ outcome, trace.entries[place]? = some (id, outcome) ∧ trace.get? id = some outcome
  /-- The outcome to get for an id is that of its first call. -/
  get : ∀ id, trace.get? id = calls.lookup id
  /-- One more call is admitted when its id was not called before, and only then. -/
  admits : ∀ id, trace.admits id = true ↔ id ∉ calls.map (·.1)
  /-- One more call for an id that was not called adds its visit at the end. -/
  added : ∀ id ∉ calls.map (·.1), ∀ outcome,
    (trace.record id outcome).entries = trace.entries ++ [(id, outcome)]
  /-- One more call for an id that was called leaves the trace as it is. -/
  repeated : ∀ id ∈ calls.map (·.1), ∀ outcome, trace.record id outcome = trace
  /-- There are as many visits as first calls. -/
  size : trace.size = (firstCalls calls).length
  /-- The ids are those of the first calls, in their order. -/
  ids : trace.ids = (firstCalls calls).map (·.1)
  /-- The last visit is the last of the first calls. -/
  last : trace.last? = (firstCalls calls).getLast?

/-- After some calls a trace keeps the first one for each id. -/
theorem keeps_recordAll (calls : List (RuleId × Bool)) :
    (Trace.empty.recordAll calls).Keeps calls where
  coherent := Coherent.empty.recordAll calls
  entries := entries_recordAll calls
  contains := contains_calls calls
  found id place found := by
    obtain ⟨outcome, held⟩ := (Coherent.empty.recordAll calls).exists_entry found
    refine ⟨outcome, held, ?_⟩
    rw [get?, found]
    exact congrArg (Option.map (·.2)) held
  get id := by
    rw [(Coherent.empty.recordAll calls).get?_eq, entries_recordAll, lookup_firstCalls]
  admits id := by
    rw [Trace.admits, Bool.not_eq_true', ← Bool.not_eq_true, contains_calls]
  added id uncalled := by
    rw [← contains_calls, Bool.not_eq_true] at uncalled
    exact entries_record uncalled
  repeated id called := record_visited ((contains_calls calls id).mpr called)
  size := congrArg List.length (entries_recordAll calls)
  ids := by rw [Trace.ids, entries_recordAll]
  last := congrArg List.getLast? (entries_recordAll calls)

/-- Two traces that are equal when their indexes are taken as maps. -/
structure Same (trace other : Trace) : Prop where
  /-- The lists are equal. -/
  entries : trace.entries = other.entries
  /-- The indexes give the same places for the same ids. -/
  index : ∀ id, trace.index.lookup id = other.index.lookup id

/-- A trace of calls keeps the first one for each id, and its list and its index never disagree.
The list alone tells two such traces apart, whether their indexes are compared as maps or as they
are. -/
theorem recordAll_keeps (calls others : List (RuleId × Bool)) :
    let trace := Trace.empty.recordAll calls
    let other := Trace.empty.recordAll others
    trace.Keeps calls ∧ (trace.Same other ↔ trace.entries = other.entries) ∧
      (trace = other ↔ trace.entries = other.entries) := by
  intro trace other
  -- The list determines the index, which recording the list again gives back.
  have equal : trace = other ↔ trace.entries = other.entries := by
    refine ⟨congrArg Trace.entries, fun same => ?_⟩
    have rebuilt : Trace.empty.recordAll trace.entries = trace := recordAll_entries calls
    rw [← rebuilt, same]
    exact recordAll_entries others
  refine ⟨keeps_recordAll calls, ⟨Same.entries, fun same => ?_⟩, equal⟩
  rw [equal.mpr same]
  exact ⟨rfl, fun _ => rfl⟩

end DecisionFlow.Trace
