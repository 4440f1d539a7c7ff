import DecisionFlow.Proofs.Outcome
import DecisionFlow.Rule.Registry
import Mathlib.Data.Finset.Card
import Mathlib.Data.List.Induction

/-!
# The contents of registries

A registry is kept as a table of rules and as a list of ids. Adding a rule keeps the two in step
(`WellFormed`), so every reading of a registry can be told from the rules that it was built from:
of the rules with one id the last one counts, and an id stands where it appeared first
(`ofRules_contents`).
-/
namespace DecisionFlow.Registry

/-- A registry whose list of ids and table of rules agree. -/
structure WellFormed (registry : Registry) : Prop where
  /-- No id is listed twice. -/
  distinct : registry.order.Nodup
  /-- The listed ids are those that have a rule. -/
  listed : ∀ id, id ∈ registry.order ↔ registry.contains id = true
  /-- A rule is found under its own id. -/
  keyed : ∀ id rule, registry.get? id = some rule → rule.id = id

/-- After an addition the new rule has an id, and so have all that had one. -/
theorem contains_insert (registry : Registry) (rule : Rule) (id : RuleId) :
    (registry.insert rule).contains id = (id == rule.id || registry.contains id) := by
  rw [contains, get?_insert]
  by_cases same : id == rule.id
  · rw [if_pos same, same]
    rfl
  · rw [if_neg same, Bool.eq_false_iff.mpr same]
    rfl

/-- The registry without rules is well formed. -/
theorem WellFormed.empty : Registry.empty.WellFormed where
  distinct := List.nodup_nil
  listed _ := ⟨nofun, nofun⟩
  keyed := nofun

/-- Adding a rule keeps a registry well formed. -/
theorem WellFormed.insert {registry : Registry} (formed : registry.WellFormed) (rule : Rule) :
    (registry.insert rule).WellFormed where
  distinct := by
    rw [Registry.insert]
    split
    · exact formed.distinct
    · rename_i absent
      have fresh : rule.id ∉ registry.order := fun listed => absent ((formed.listed _).mp listed)
      refine List.nodup_append.mpr ⟨formed.distinct, List.nodup_singleton _, ?_⟩
      intro id listed other single same
      rw [List.mem_singleton] at single
      exact fresh (single ▸ same ▸ listed)
  listed id := by
    rw [contains_insert, Bool.or_eq_true, beq_iff_eq, ← formed.listed, Registry.insert]
    split
    · rename_i present
      have listed := (formed.listed _).mpr present
      constructor
      · exact .inr
      · rintro (rfl | found)
        · exact listed
        · exact found
    · rw [List.mem_append, List.mem_singleton, or_comm]
  keyed id other found := by
    rw [get?_insert] at found
    split at found
    · rename_i same
      cases found
      exact (eq_of_beq same).symm
    · exact formed.keyed id other found

/-- A rule is added last. -/
theorem ofRules_concat (rules : List Rule) (rule : Rule) :
    ofRules (rules ++ [rule]) = (ofRules rules).insert rule := by
  rw [ofRules, List.foldl_append]
  rfl

/-- The registry of any rules is well formed. -/
theorem wellFormed_ofRules (rules : List Rule) : (ofRules rules).WellFormed := by
  induction rules using List.reverseRecOn with
  | nil => exact .empty
  | append_singleton rules rule ih =>
    rw [ofRules_concat]
    exact ih.insert rule

/-- The rule under an id is the last one with the id. -/
theorem get?_ofRules (rules : List Rule) (id : RuleId) :
    (ofRules rules).get? id = (rules.filter fun rule => id == rule.id).getLast? := by
  induction rules using List.reverseRecOn with
  | nil => rfl
  | append_singleton rules rule ih =>
    rw [ofRules_concat, get?_insert, List.filter_append, List.getLast?_append, ih, List.filter_cons]
    by_cases same : id == rule.id
    · rw [if_pos same, if_pos same]
      rfl
    · rw [if_neg same, if_neg same]
      rfl

/-- The ids that have a rule are those of the rules. -/
theorem contains_ofRules (rules : List Rule) (id : RuleId) :
    (ofRules rules).contains id = true ↔ id ∈ rules.map Rule.id := by
  induction rules using List.reverseRecOn with
  | nil => exact ⟨nofun, nofun⟩
  | append_singleton rules rule ih =>
    rw [ofRules_concat, contains_insert, Bool.or_eq_true, beq_iff_eq, ih, List.map_append,
      List.mem_append, List.map_singleton, List.mem_singleton, or_comm]

/-- The ids are those of the rules, without later repetitions. -/
theorem ids_ofRules (rules : List Rule) :
    (ofRules rules).ids = (rules.map Rule.id).eraseDups := by
  induction rules using List.reverseRecOn with
  | nil => rfl
  | append_singleton rules rule ih =>
    have present := contains_ofRules rules rule.id
    rw [ids] at ih
    rw [ofRules_concat, ids, Registry.insert, List.map_append, List.eraseDups_append, ← ih,
      List.map_singleton, List.removeAll]
    simp only
    split
    · rename_i found
      have repeated := present.mp found
      rw [List.filter_cons_of_neg (by simpa using repeated)]
      exact (List.append_nil _).symm
    · rename_i absent
      have single : rule.id ∉ rules.map Rule.id := fun repeated => absent (present.mpr repeated)
      rw [List.filter_cons_of_pos (by simpa using single)]
      rfl

/-- Reading the rules in order drops no id. -/
theorem WellFormed.rules_eq {registry : Registry} (formed : registry.WellFormed) :
    registry.rules.map some = registry.ids.map registry.get? := by
  have found : ∀ id ∈ registry.order, (registry.get? id).isSome = true :=
    fun id listed => (formed.listed id).mp listed
  rw [rules, List.map_filterMap_some_eq_filter_map_isSome]
  refine List.filter_eq_self.mpr fun result member => ?_
  obtain ⟨id, listed, rfl⟩ := List.mem_map.mp member
  exact found id listed

/-- There are as many rules as ids. -/
theorem WellFormed.length_rules {registry : Registry} (formed : registry.WellFormed) :
    registry.rules.length = registry.size := by
  have lengths := congrArg List.length formed.rules_eq
  rwa [List.length_map, List.length_map] at lengths

/-- Counting while rules are added gives their registry and their number. -/
theorem Build.ofRules_eq (rules : List Rule) :
    Build.ofRules rules = ⟨Registry.ofRules rules, rules.length⟩ := by
  induction rules using List.reverseRecOn with
  | nil => rfl
  | append_singleton rules rule ih =>
    rw [Build.ofRules] at ih
    rw [Build.ofRules, List.foldl_append, ih, ofRules_concat, List.length_append]
    rfl

/-- There are as many rules as there are different ids. -/
theorem size_ofRules (rules : List Rule) :
    (ofRules rules).size = (rules.map Rule.id).toFinset.card := by
  have formed := wellFormed_ofRules rules
  have same : (rules.map Rule.id).toFinset = (ofRules rules).order.toFinset := by
    ext id
    rw [List.mem_toFinset, List.mem_toFinset, formed.listed, contains_ofRules]
  rw [same, List.toFinset_card_of_nodup formed.distinct]
  rfl

/-- No more rules are registered than were added. -/
theorem size_ofRules_le (rules : List Rule) : (ofRules rules).size ≤ rules.length := by
  have ids := List.toFinset_card_le (rules.map Rule.id)
  rwa [← size_ofRules, List.length_map] at ids

/-- Definitions that all compile are compiled to the registry of their rules. -/
theorem compile_eq {ε : Type} {compiler : String → Except ε Predicate}
    {definitions : List RuleDefinition} {rules : List Rule}
    (compiled : definitions.map (Rule.compile compiler) = rules.map .ok) :
    compile compiler definitions = .ok (ofRules rules) := by
  rw [compile, mapM_eq_ok_iff.mpr compiled]
  rfl

/-- What a registry holds of a list of rules: of the rules with one id the last one, in the place
where the id appeared first. -/
structure Holds (registry : Registry) (added : List Rule) : Prop where
  /-- The rule under an id is the last one with the id. -/
  last : ∀ id, registry.get? id = (added.filter fun rule => id == rule.id).getLast?
  /-- The ids appear in the order of their first appearance. -/
  first : registry.ids = (added.map Rule.id).eraseDups
  /-- The size is the number of different ids. -/
  counted : registry.size = (added.map Rule.id).toFinset.card
  /-- Reading the rules in order drops no id. -/
  complete : registry.rules.length = registry.size
  /-- The rules are those under the ids, in the order of the ids. -/
  ordered : registry.rules.map some = registry.ids.map registry.get?
  /-- A rule is found under its own id. -/
  keyed : ∀ id rule, registry.get? id = some rule → rule.id = id

/-- The registry of rules holds the last rule of each id in the place of the first one. The number
of rules that were replaced can always be told: it is what the size leaves of the rules that were
added. Definitions that all compile give the registry of the compiled rules. -/
theorem ofRules_contents (added : List Rule) :
    (ofRules added).Holds added ∧
      (Build.ofRules added).registry = ofRules added ∧
      (∃ overridden, (Build.ofRules added).overridden? = some overridden ∧
        (ofRules added).size + overridden = added.length) ∧
      ∀ {ε : Type} (compiler : String → Except ε Predicate) (definitions : List RuleDefinition),
        definitions.map (Rule.compile compiler) = added.map .ok →
          compile compiler definitions = .ok (ofRules added) := by
  have formed := wellFormed_ofRules added
  have bounded := size_ofRules_le added
  refine ⟨?_, ?_, ?_, fun compiler definitions => compile_eq⟩
  · exact {
      last := get?_ofRules added
      first := ids_ofRules added
      counted := size_ofRules added
      complete := formed.length_rules
      ordered := formed.rules_eq
      keyed := formed.keyed }
  · rw [Build.ofRules_eq]
  · refine ⟨added.length - (ofRules added).size, ?_, Nat.add_sub_cancel' bounded⟩
    rw [Build.ofRules_eq, Build.overridden?, if_pos bounded]

/-- Of three definitions the third replaces the first one in its place, whichever way the registry
is built. -/
theorem ofRules_contents_repeated :
    let compiler : String → Except Unit Predicate := fun source =>
      if source = "" then .error () else .ok (.function fun _ => .ok (.string source))
    let definitions : List RuleDefinition :=
      [⟨.int 1, "one", "a", some (.name "b"), none⟩, ⟨.name "b", "two", "b", none, none⟩,
        ⟨.int 1, "three", "c", none, some (.int 1)⟩]
    let added : List Rule := definitions.map fun definition =>
      ⟨definition.id, definition.title, .function fun _ => .ok (.string definition.predicate),
        definition.trueNext, definition.falseNext, definition.predicate⟩
    definitions.map (Rule.compile compiler) = added.map .ok ∧
      compile compiler definitions = .ok (ofRules added) ∧
      (ofRules added).rules.map Rule.title = ["three", "two"] ∧
      (Build.ofRules added).overridden? = some 1 := by
  intro compiler definitions added
  have compiled : definitions.map (Rule.compile compiler) = added.map .ok := rfl
  obtain ⟨_, _, _, whole⟩ := ofRules_contents added
  exact ⟨compiled, whole compiler definitions compiled, by decide, by decide⟩

end DecisionFlow.Registry
