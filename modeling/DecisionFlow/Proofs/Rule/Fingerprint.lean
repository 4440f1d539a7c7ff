import DecisionFlow.Proofs.Walk.Lookups
import DecisionFlow.Proofs.Walk.Simplified
import DecisionFlow.Rule.Fingerprint
import Mathlib.Algebra.Group.Nat.Defs

/-!
# What a fingerprint is taken of

The stream of a registry has neither a count nor separators, yet it tells the rules: every part of
a rule is written in a code that delimits itself (`SelfDelimiting`), so the parts are read off the
front of the stream one after the other. Two registries have one stream exactly when they have the
same ids, titles, sources and successors in the same order, and when one compiler made both, they
then hold the same rules and have the same walks (`stream_identifies`).
-/
namespace DecisionFlow

/-- The bytes of an array from a place on, after those that were read. -/
theorem toList_loop_drop (bytes : ByteArray) (place : Nat) (read : List UInt8) :
    ByteArray.toList.loop bytes place read = read.reverse ++ bytes.data.toList.drop place := by
  fun_induction ByteArray.toList.loop bytes place read with
  | case1 place read inside ih =>
    have size : place < bytes.data.toList.length := inside
    rw [ih, List.reverse_cons, List.append_assoc, List.drop_eq_getElem_cons size]
    congr 2
    simp [ByteArray.get!, getElem!_pos, inside]
  | case2 place read outside =>
    have size : bytes.data.toList.length ≤ place := Nat.not_lt.mp outside
    rw [List.drop_eq_nil_of_le size, List.append_nil]

/-- The bytes of an array as a list. -/
theorem toList_eq_data (bytes : ByteArray) : bytes.toList = bytes.data.toList := by
  rw [ByteArray.toList, toList_loop_drop]
  rfl

/-- No character has the byte 255 in its UTF-8 encoding. -/
theorem closing_notMem_utf8EncodeChar (c : Char) : 0xff ∉ String.utf8EncodeChar c := by
  fun_cases String.utf8EncodeChar c
  all_goals
    simp only [List.mem_cons, List.not_mem_nil, or_false, not_or, ← UInt8.toNat_inj,
      UInt8.toNat_ofNat', UInt8.reduceToNat]
    omega

/-- No text has the byte 255 in its UTF-8 encoding. -/
theorem closing_notMem_toUTF8 (text : String) : 0xff ∉ text.toUTF8.toList := by
  obtain ⟨chars, rfl⟩ := text.exists_eq_ofList
  rw [toList_eq_data, String.toUTF8_eq_toByteArray, String.toByteArray_ofList, List.utf8Encode,
    List.toList_data_toByteArray, List.mem_flatMap]
  rintro ⟨c, _, member⟩
  exact closing_notMem_utf8EncodeChar c member

/-- Texts of the same bytes are the same. -/
theorem toUTF8_toList_injective {text other : String}
    (same : text.toUTF8.toList = other.toUTF8.toList) : text = other := by
  rw [toList_eq_data, toList_eq_data, Array.toList_inj] at same
  exact String.toByteArray_inj.mp (ByteArray.ext same)

/-- A list up to the first place of a value is determined by the whole. -/
theorem append_cons_inj_of_first {α : Type} {last : α} {before before' after after' : List α}
    (absent : last ∉ before) (absent' : last ∉ before')
    (same : before ++ last :: after = before' ++ last :: after') :
    before = before' ∧ after = after' := by
  induction before generalizing before' with
  | nil =>
    cases before' with
    | nil => exact ⟨rfl, (List.cons.inj same).2⟩
    | cons a before' =>
      cases same
      exact absurd List.mem_cons_self absent'
  | cons a before ih =>
    cases before' with
    | nil =>
      cases same
      exact absurd List.mem_cons_self absent
    | cons b before' =>
      obtain ⟨head, tail⟩ := List.cons.inj same
      obtain ⟨rfl, rest⟩ := ih (fun member => absent (.tail _ member))
        (fun member => absent' (.tail _ member)) tail
      exact ⟨by rw [head], rest⟩

namespace Fingerprint

/-- A code that is read off the front of a stream in one way: what was written and what follows it
are determined by the whole. -/
def SelfDelimiting {α : Type} (code : α → List UInt8) : Prop :=
  ∀ value other rest rest', code value ++ rest = code other ++ rest' → value = other ∧ rest = rest'

/-- Numbers with the same digits up to a place are the same up to that place. -/
theorem mod_pow_eq_of_digits {n m base places : Nat}
    (same : ∀ place < places, n / base ^ place % base = m / base ^ place % base) :
    n % base ^ places = m % base ^ places := by
  induction places with
  | zero => rw [Nat.pow_zero, Nat.mod_one, Nat.mod_one]
  | succ places ih =>
    have lower := ih fun place less => same place (Nat.lt_succ_of_lt less)
    rw [Nat.mod_pow_succ, Nat.mod_pow_succ, lower, same places (Nat.lt_succ_self places)]

/-- A natural number of 64 bits is determined by its eight bytes. -/
theorem word_injective {n m : Nat} (small : n < 2 ^ 64) (small' : m < 2 ^ 64)
    (same : word n = word m) : n = m := by
  have bytes := List.map_inj_left.mp same
  have digits : n % 256 ^ 8 = m % 256 ^ 8 := by
    refine mod_pow_eq_of_digits fun place less => ?_
    have byte := congrArg UInt8.toNat (bytes place (List.mem_range.mpr less))
    rw [UInt8.toNat_ofNat', UInt8.toNat_ofNat', Nat.shiftRight_eq_div_pow,
      Nat.shiftRight_eq_div_pow, Nat.pow_mul] at byte
    exact byte
  have whole : 256 ^ 8 = 2 ^ 64 := by decide
  rwa [whole, Nat.mod_eq_of_lt small, Nat.mod_eq_of_lt small'] at digits

/-- A natural number of 64 bits is read off the front of a stream. -/
theorem word_append_inj {n m : Nat} {rest rest' : List UInt8} (small : n < 2 ^ 64)
    (small' : m < 2 ^ 64) (same : word n ++ rest = word m ++ rest') : n = m ∧ rest = rest' := by
  have width : ∀ k, (word k).length = 8 := fun k => by rw [word, List.length_map, List.length_range]
  obtain ⟨bytes, follows⟩ := List.append_inj same (by rw [width, width])
  exact ⟨word_injective small small' bytes, follows⟩

/-- A text is read off the front of a stream: the closing byte is the first one of its sort. -/
theorem text_selfDelimiting : SelfDelimiting text := by
  intro value other rest rest' same
  simp only [text, List.append_assoc, List.singleton_append] at same
  obtain ⟨bytes, follows⟩ := append_cons_inj_of_first (closing_notMem_toUTF8 value)
    (closing_notMem_toUTF8 other) same
  exact ⟨toUTF8_toList_injective bytes, follows⟩

/-- An id is read off the front of a stream: its sort first, then its content. -/
theorem id_selfDelimiting : SelfDelimiting id := by
  intro value other rest rest' same
  cases value with
  | int a =>
    cases other with
    | int b =>
      simp only [id, List.append_assoc, List.append_cancel_left_eq] at same
      obtain ⟨bits, follows⟩ := word_append_inj (UInt64.toNat_lt _) (UInt64.toNat_lt _) same
      obtain ⟨_⟩ := a
      obtain ⟨_⟩ := b
      rw [UInt64.toNat_inj] at bits
      exact ⟨congrArg (RuleId.int ∘ Int64.ofUInt64) bits, follows⟩
    | name b =>
      simp only [id, List.append_assoc] at same
      exact absurd (word_append_inj (by decide) (by decide) same).1 (by decide)
  | name a =>
    cases other with
    | int b =>
      simp only [id, List.append_assoc] at same
      exact absurd (word_append_inj (by decide) (by decide) same).1 (by decide)
    | name b =>
      simp only [id, List.append_assoc, List.append_cancel_left_eq] at same
      obtain ⟨texts, follows⟩ := text_selfDelimiting _ _ _ _ same
      exact ⟨congrArg RuleId.name texts, follows⟩

/-- A successor is read off the front of a stream: whether there is one, then its id. -/
theorem next_selfDelimiting : SelfDelimiting next := by
  intro value other rest rest' same
  cases value with
  | none =>
    cases other with
    | none => exact ⟨rfl, List.append_cancel_left same⟩
    | some b =>
      simp only [next, List.append_assoc] at same
      exact absurd (word_append_inj (by decide) (by decide) same).1 (by decide)
  | some a =>
    cases other with
    | none =>
      simp only [next, List.append_assoc] at same
      exact absurd (word_append_inj (by decide) (by decide) same).1 (by decide)
    | some b =>
      simp only [next, List.append_assoc, List.append_cancel_left_eq] at same
      obtain ⟨ids, follows⟩ := id_selfDelimiting _ _ _ _ same
      exact ⟨congrArg some ids, follows⟩

/-- What the fingerprint covers of a rule is what a definition says. -/
def definition (definition : RuleDefinition) : List UInt8 :=
  id definition.id ++ text definition.title ++ text definition.predicate ++
    next definition.trueNext ++ next definition.falseNext

/-- A definition is read off the front of a stream, field by field. -/
theorem definition_selfDelimiting : SelfDelimiting definition := by
  intro value other rest rest' same
  simp only [definition, List.append_assoc] at same
  obtain ⟨ids, same⟩ := id_selfDelimiting _ _ _ _ same
  obtain ⟨titles, same⟩ := text_selfDelimiting _ _ _ _ same
  obtain ⟨sources, same⟩ := text_selfDelimiting _ _ _ _ same
  obtain ⟨trueNexts, same⟩ := next_selfDelimiting _ _ _ _ same
  obtain ⟨falseNexts, follows⟩ := next_selfDelimiting _ _ _ _ same
  refine ⟨?_, follows⟩
  calc value
    _ = ⟨value.id, value.title, value.predicate, value.trueNext, value.falseNext⟩ := rfl
    _ = other := by rw [ids, titles, sources, trueNexts, falseNexts]

/-- A definition takes some bytes. -/
theorem definition_ne_nil (value : RuleDefinition) : definition value ≠ [] := by
  simp [definition, text]

/-- Values that are written one after the other, each in some bytes of a code that delimits itself,
are determined by the stream. -/
theorem SelfDelimiting.flatMap_injective {α : Type} {code : α → List UInt8}
    (delimited : SelfDelimiting code) (nonempty : ∀ value, code value ≠ []) {values others : List α}
    (same : values.flatMap code = others.flatMap code) : values = others := by
  induction values generalizing others with
  | nil =>
    cases others with
    | nil => rfl
    | cons other others =>
      rw [List.flatMap_cons] at same
      exact absurd (List.append_eq_nil_iff.mp same.symm).1 (nonempty other)
  | cons value values ih =>
    cases others with
    | nil =>
      rw [List.flatMap_cons] at same
      exact absurd (List.append_eq_nil_iff.mp same).1 (nonempty value)
    | cons other others =>
      rw [List.flatMap_cons, List.flatMap_cons] at same
      obtain ⟨rfl, rest⟩ := delimited _ _ _ _ same
      rw [ih rest]

end Fingerprint

namespace Registry

/-- The stream of a registry is that of the definitions that its rules stand for. -/
theorem stream_eq (registry : Registry) :
    registry.stream = (registry.rules.map Rule.definition).flatMap Fingerprint.definition := by
  rw [stream, List.flatMap_map]
  rfl

/-- The ids of a registry are those of its rules. -/
theorem WellFormed.ids_eq {registry : Registry} (formed : registry.WellFormed) :
    registry.ids = registry.rules.map Rule.id := by
  have found : ∀ id ∈ registry.ids, (registry.get? id).map Rule.id = some id := by
    intro id listed
    obtain ⟨rule, here⟩ := Option.isSome_iff_exists.mp ((formed.listed id).mp listed)
    rw [here, Option.map_some, formed.keyed id rule here]
  have whole : registry.rules.map (Option.map Rule.id ∘ some) = registry.ids.map some := by
    rw [← List.map_map, formed.rules_eq, List.map_map]
    exact List.map_congr_left found
  refine List.map_injective_iff.mpr (Option.some_injective _) ?_
  rw [List.map_map]
  exact whole.symm

/-- Well-formed registries of the same rules find the same rule under every id. -/
theorem WellFormed.get?_eq {first second : Registry} (formed : first.WellFormed)
    (otherFormed : second.WellFormed) (same : first.rules = second.rules) (id : RuleId) :
    first.get? id = second.get? id := by
  have ids : first.ids = second.ids := by rw [formed.ids_eq, otherFormed.ids_eq, same]
  by_cases listed : id ∈ first.ids
  · have images : first.ids.map first.get? = first.ids.map second.get? := by
      rw [← formed.rules_eq, ids, ← otherFormed.rules_eq, same]
    exact List.map_inj_left.mp images id listed
  · have absent : first.get? id = none := by
      rw [← Option.not_isSome_iff_eq_none]
      exact fun found => listed ((formed.listed id).mpr found)
    have absent' : second.get? id = none := by
      rw [← Option.not_isSome_iff_eq_none]
      exact fun found => listed (ids ▸ (otherFormed.listed id).mpr found)
    rw [absent, absent']

variable {ε : Type} {compiler : String → Except ε Predicate} {definitions : List RuleDefinition}
  {registry : Registry}

/-- Every rule of a compiled registry is compiled from the definition that it stands for. -/
theorem compile_definition (compiled : compile compiler definitions = .ok registry) {rule : Rule}
    (registered : rule ∈ registry.rules) : Rule.compile compiler rule.definition = .ok rule := by
  obtain ⟨rules, all, rfl⟩ := rules_of_compile compiled
  obtain ⟨id, _, found⟩ := List.mem_filterMap.mp registered
  rw [get?_ofRules] at found
  have member := (List.mem_filter.mp (List.mem_of_getLast? found)).1
  obtain ⟨definition, _, image⟩ := List.mem_map.mp (all ▸ List.mem_map_of_mem member)
  have same : rule.definition = definition := by
    unfold Rule.compile at image
    split at image
    · contradiction
    · cases image
      rfl
  rw [same, image]

/-- Registries that one compiler made of the same definitions hold the same rules. -/
theorem rules_eq_of_definitions {others : List RuleDefinition} {other : Registry}
    (compiled : compile compiler definitions = .ok registry)
    (compiledOther : compile compiler others = .ok other)
    (same : registry.rules.map Rule.definition = other.rules.map Rule.definition) :
    registry.rules = other.rules := by
  refine List.map_injective_iff.mpr (fun _ _ => Except.ok.inj (ε := Rejection ε)) ?_
  calc registry.rules.map .ok
    _ = registry.rules.map (Rule.compile compiler ∘ Rule.definition) :=
      List.map_congr_left fun rule member => (compile_definition compiled member).symm
    _ = other.rules.map (Rule.compile compiler ∘ Rule.definition) := by
      rw [← List.map_map, same, List.map_map]
    _ = other.rules.map .ok :=
      List.map_congr_left fun rule member => compile_definition compiledOther member

/-- The stream of a registry identifies its rules: two registries have one stream exactly when
they have the same ids, titles, sources and successors, rule by rule in the order of the ids. Flows
that one compiler compiled to registries of one stream have the same walks, whatever the record, the
entry and the rules visited before. -/
theorem stream_identifies [Regex.Matcher] [Value.Enumeration] :
    (∀ first second : Registry, first.stream = second.stream ↔
      first.rules.map Rule.definition = second.rules.map Rule.definition) ∧
    ∀ {ε : Type} (compiler : String → Except ε Predicate) (definitions others : List RuleDefinition)
      (first second : Registry), compile compiler definitions = .ok first →
      compile compiler others = .ok second → first.stream = second.stream →
      ∀ (record : Value) (trace : Trace) (entry : RuleId),
        first.walk record trace entry = second.walk record trace entry := by
  have identified : ∀ first second : Registry, first.stream = second.stream ↔
      first.rules.map Rule.definition = second.rules.map Rule.definition := by
    intro first second
    rw [stream_eq, stream_eq]
    constructor
    · exact Fingerprint.definition_selfDelimiting.flatMap_injective Fingerprint.definition_ne_nil
    · intro same
      rw [same]
  refine ⟨identified, ?_⟩
  intro ε compiler definitions others first second compiled compiledOther same record trace entry
  have rules := rules_eq_of_definitions compiled compiledOther ((identified first second).mp same)
  have formed := wellFormed_of_compile compiled
  have otherFormed := wellFormed_of_compile compiledOther
  refine walk_eq_of_agreesOn formed otherFormed fun id _ => ?_
  rw [formed.get?_eq otherFormed rules id]
  cases second.get? id with
  | none => exact .none
  | some rule => exact .some (.refl record rule)

/-- An overridden definition leaves the stream as it is, and the walk. A letter that moves from the
title to the source changes the stream. -/
theorem stream_identifies_overridden :
    let compiler : String → Except Unit Predicate := fun source =>
      .ok (.function fun _ => .ok (.string source))
    let start : RuleDefinition := ⟨.int 1, "start", "yes", some (.name "b"), none⟩
    let moved : RuleDefinition := ⟨.int 1, "starty", "es", some (.name "b"), none⟩
    let overridden : RuleDefinition := ⟨.name "b", "first", "no", some (.int 1), none⟩
    let last : RuleDefinition := ⟨.name "b", "last", "", none, some (.int 2)⟩
    let registry : List RuleDefinition → Registry := fun definitions =>
      ofRules (definitions.map fun definition =>
        ⟨definition.id, definition.title, .function fun _ => .ok (.string definition.predicate),
          definition.trueNext, definition.falseNext, definition.predicate⟩)
    compile compiler [start, overridden, last] = .ok (registry [start, overridden, last]) ∧
      compile compiler [start, last] = .ok (registry [start, last]) ∧
      (registry [start, overridden, last]).stream = (registry [start, last]).stream ∧
      (registry [start, last]).stream ≠ (registry [moved, last]).stream ∧
      (registry [start, overridden, last]).walk .null .empty (.int 1) =
        (registry [start, last]).walk .null .empty (.int 1) := by
  intro compiler start moved overridden last registry
  have same : (registry [start, overridden, last]).stream = (registry [start, last]).stream :=
    (stream_identifies.1 _ _).mpr (by decide)
  have other : (registry [start, last]).stream ≠ (registry [moved, last]).stream := fun equal =>
    absurd ((stream_identifies.1 _ _).mp equal) (by decide)
  have walks := stream_identifies.2 compiler [start, overridden, last] [start, last] _ _ rfl rfl
    same
  exact ⟨rfl, rfl, same, other, walks .null .empty (.int 1)⟩

end Registry

end DecisionFlow
