import DecisionFlow.Proofs.Eval.Mentions
import DecisionFlow.Proofs.Eval.Reordered
import DecisionFlow.Proofs.Expr.Depth
import DecisionFlow.Proofs.Rule.LastDefinition
import DecisionFlow.Proofs.Source.Printing
import DecisionFlow.Proofs.Walk.Steps

/-!
# Walks of two records

A walk asks a record for nothing but the truth of predicates. So two records have the same walk over
a registry when every predicate has the same truth, or the same failure, on both, even if maps are
enumerated in another way for each (`walk_eq_of_test`). A compiled flow walks alike through two
records that agree on the fields that its predicates mention (`walk_mentions`), and through two that
differ in the order of entries at most, however maps are enumerated, unless a predicate shows a
whole value as a text (`walk_reordered`).
-/
namespace DecisionFlow.Registry

/-- The predicates of a compiled flow are the trees of its sources, with the parameter of the
compiler. -/
theorem source_of_compile {compiler : Compiler} {definitions : List RuleDefinition}
    {registry : Registry} (compiled : compile compiler.predicate definitions = .ok registry)
    {id : RuleId} {rule : Rule} (found : registry.get? id = some rule) :
    ∃ tree, compiler.compile rule.source = .ok tree ∧
      rule.predicate = .expression tree compiler.param := by
  have last := get?_of_compile compiled id
  rw [found] at last
  obtain ⟨definition, _, image⟩ := Option.map_eq_some_iff.mp last.symm
  unfold Rule.compile Compiler.predicate at image
  cases source : compiler.compile definition.predicate with
  | error reason =>
    rw [source] at image
    contradiction
  | ok tree =>
    rw [source] at image
    cases image
    exact ⟨tree, source, rfl⟩

/-- The predicates of a compiled flow are trees with the parameter of the compiler. -/
theorem tree_of_compile {compiler : Compiler} {definitions : List RuleDefinition}
    {registry : Registry} (compiled : compile compiler.predicate definitions = .ok registry)
    {id : RuleId} {rule : Rule} (found : registry.get? id = some rule) :
    ∃ tree, rule.predicate = .expression tree compiler.param := by
  obtain ⟨tree, _, predicate⟩ := source_of_compile compiled found
  exact ⟨tree, predicate⟩

/-- A flow of one definition is compiled to the rule of its tree. -/
theorem compile_singleton {compiler : Compiler} {definition : RuleDefinition} {tree : Expr}
    (source : compiler.compile definition.predicate = .ok tree) :
    compile compiler.predicate [definition] = .ok (ofRules [⟨definition.id, definition.title,
      .expression tree compiler.param, definition.trueNext, definition.falseNext,
      definition.predicate⟩]) := by
  have rule : Rule.compile compiler.predicate definition = .ok ⟨definition.id, definition.title,
      .expression tree compiler.param, definition.trueNext, definition.falseNext,
      definition.predicate⟩ := by
    rw [Rule.compile, Compiler.predicate, source]
    rfl
  rw [compile, List.mapM_cons, rule]
  rfl

/-- The only rule of a registry is the one that is found in it. -/
theorem get?_singleton {rule other : Rule} {id : RuleId}
    (found : (ofRules [rule]).get? id = some other) : other = rule := by
  change (empty.insert rule).get? id = some other at found
  rw [get?_insert] at found
  split at found
  · exact (Option.some.inj found).symm
  · contradiction

section Walks

variable [Regex.Matcher] {enumeration alternative : Value.Enumeration} {registry : Registry}
  {record other : Value}

/-- Records on which every registered predicate has the same truth, or the same failure, have the
same walk. For each of the two maps may be enumerated in a way of its own. -/
theorem walk_eq_of_test
    (same : ∀ id rule, registry.get? id = some rule →
      @Predicate.test _ enumeration rule.predicate record =
        @Predicate.test _ alternative rule.predicate other)
    (trace : Trace) (entry : RuleId) :
    @walk _ enumeration registry record trace entry =
      @walk _ alternative registry other trace entry := by
  -- With two enumerations in scope every law of a walk has to be told which one it is about.
  induction trace, entry using @walk_induct _ enumeration _ registry record with
  | visited trace current visited =>
    exact (@walk_visited _ enumeration _ _ _ _ visited).trans
      (@walk_visited _ alternative _ _ _ _ visited).symm
  | unregistered trace current fresh absent =>
    exact (@walk_unregistered _ enumeration _ _ _ _ absent).trans
      (@walk_unregistered _ alternative _ _ _ _ absent).symm
  | failed trace current rule cause fresh found tested =>
    have counterpart := (same current rule found).symm.trans tested
    exact (@walk_failed _ enumeration _ _ _ _ _ _ fresh found tested).trans
      (@walk_failed _ alternative _ _ _ _ _ _ fresh found counterpart).symm
  | applied trace current rule outcome fresh found tested ih =>
    have counterpart := (same current rule found).symm.trans tested
    have onward : @onward _ enumeration registry record (trace.record current outcome)
        (rule.next outcome) =
          @onward _ alternative registry other (trace.record current outcome)
            (rule.next outcome) := by
      cases next : rule.next outcome with
      | none => rfl
      | some target => exact ih target next
    rw [@walk_applied _ enumeration _ _ _ _ _ _ fresh found tested,
      @walk_applied _ alternative _ _ _ _ _ _ fresh found counterpart, onward]

/-- Records on which every tree of a compiled flow has the same truth, or the same failure, have the
same walk. -/
theorem walk_eq_of_trees {compiler : Compiler} {definitions : List RuleDefinition}
    (compiled : compile compiler.predicate definitions = .ok registry)
    (same : ∀ id rule tree, registry.get? id = some rule →
      rule.predicate = .expression tree compiler.param →
      @Eval.test _ enumeration ⟨record, compiler.param⟩ tree =
        @Eval.test _ alternative ⟨other, compiler.param⟩ tree)
    (trace : Trace) (entry : RuleId) :
    @walk _ enumeration registry record trace entry =
      @walk _ alternative registry other trace entry := by
  refine walk_eq_of_test (fun id rule found => ?_) trace entry
  obtain ⟨tree, predicate⟩ := tree_of_compile compiled found
  have truths := same id rule tree found predicate
  unfold Predicate.test
  rw [predicate]
  exact truths

/-- Reordered values have one truth, however maps are enumerated. -/
theorem test_reordered {param : String} (reordered : record.Reordered other) {tree : Expr}
    (quiet : tree.ShowsNothing) :
    @Eval.test _ enumeration ⟨record, param⟩ tree =
      @Eval.test _ alternative ⟨other, param⟩ tree := by
  have outcome : SameOutcome Value.Reordered (@Eval.eval _ enumeration ⟨record, param⟩ tree)
      (@Eval.eval _ alternative ⟨other, param⟩ tree) := Eval.eval_reordered reordered quiet
  unfold Eval.test
  generalize @Eval.eval _ enumeration ⟨record, param⟩ tree = first at outcome ⊢
  generalize @Eval.eval _ alternative ⟨other, param⟩ tree = second at outcome ⊢
  cases outcome with
  | error cause => rfl
  | ok values => exact congrArg Except.ok values.truthy_eq

end Walks

/-- Nothing but the fields that are mentioned is read. An expression that takes nothing but fields
of the parameter has the same value, or the same failure, on two records that agree on every name in
it and on every field that it takes; a field that one of them lacks the other lacks too. A compiled
flow of such expressions has the same walk through two records that agree on everything that its
predicates mention, from every entry and in every trace. -/
theorem walk_mentions [Regex.Matcher] [Value.Enumeration] :
    (∀ (param : String) (expr : Expr) (entries others : List (String × Value)),
      expr.TakesFields param →
      (∀ name, expr.Mentions param name → entries.lookup name = others.lookup name) →
      Eval.eval ⟨.map entries, param⟩ expr = Eval.eval ⟨.map others, param⟩ expr) ∧
    ∀ (compiler : Compiler) (definitions : List RuleDefinition) (registry : Registry)
      (entries others : List (String × Value)),
      compile compiler.predicate definitions = .ok registry →
      (∀ id rule tree, registry.get? id = some rule →
        rule.predicate = .expression tree compiler.param →
        tree.TakesFields compiler.param ∧
          ∀ name, tree.Mentions compiler.param name → entries.lookup name = others.lookup name) →
      ∀ (trace : Trace) (entry : RuleId),
        registry.walk (.map entries) trace entry = registry.walk (.map others) trace entry := by
  constructor
  · intro param expr entries others takes same
    exact Eval.eval_eq_of_agreeOn ⟨takes, same⟩
  · intro compiler definitions registry entries others compiled agree
    refine walk_eq_of_trees compiled fun id rule tree found predicate => ?_
    obtain ⟨takes, same⟩ := agree id rule tree found predicate
    exact congrArg (·.map Value.truthy) (Eval.eval_eq_of_agreeOn ⟨takes, same⟩)

/-- A comparison of a field with a name, as the only rule of a flow: records that agree on both have
the same walk, though one of them has a further field. -/
theorem walk_mentions_comparison :
    let tree : Expr := .binary .gt (.field (.ident "record") "age") (.ident "limit")
    let definition : RuleDefinition :=
      ⟨.int 1, "adult", String.ofList "(record.age > limit)".toList, none, none⟩
    let registry : Registry :=
      ofRules [⟨.int 1, "adult", .expression tree "record", none, none, definition.predicate⟩]
    let entries : List (String × Value) :=
      [("age", .int 20), ("name", .string "x"), ("limit", .int 18)]
    let others : List (String × Value) := [("limit", .int 18), ("age", .int 20)]
    tree.TakesFields "record" ∧
      (∀ name, tree.Mentions "record" name → entries.lookup name = others.lookup name) ∧
      (entries.lookup "name").isSome ≠ (others.lookup "name").isSome ∧
      Eval.eval ⟨.map entries, "record"⟩ tree = Eval.eval ⟨.map others, "record"⟩ tree ∧
      compile (Compiler.predicate {}) [definition] = .ok registry ∧
      registry.walk (.map entries) .empty (.int 1) =
        registry.walk (.map others) .empty (.int 1) := by
  intro tree definition registry entries others
  have nodes : ∀ node : Expr, node.Within tree →
      node = .binary .gt (.field (.ident "record") "age") (.ident "limit") ∨
      node = .field (.ident "record") "age" ∨ node = .ident "record" ∨ node = .ident "limit" := by
    intro node inside
    simpa [tree, @Expr.within_iff _ (.binary _ _ _), @Expr.within_iff _ (.field _ _),
      @Expr.within_iff _ (.ident _), Expr.children, or_assoc] using inside
  have takes : tree.TakesFields "record" := by
    refine ⟨by simp [tree], fun node inside above => ?_⟩
    rcases nodes node inside with rfl | rfl | rfl | rfl
    · simp [Expr.children] at above
    · exact ⟨"age", rfl⟩
    · exact absurd above List.not_mem_nil
    · exact absurd above List.not_mem_nil
  have same : ∀ name, tree.Mentions "record" name → entries.lookup name = others.lookup name := by
    rintro name (⟨apart, inside⟩ | inside)
    · rcases nodes _ inside with here | here | here | here
      all_goals cases here
      · contradiction
      · rfl
    · rcases nodes _ inside with here | here | here | here
      all_goals cases here
      rfl
  have source : Compiler.compile {} definition.predicate = .ok tree := by
    have printable : tree.Printable :=
      .binary (by decide) (.field rfl (by decide) (.ident (by decide) (by decide)))
        (.ident (by decide) (by decide))
    have text : tree.toText = "(record.age > limit)".toList := by decide
    have read := (Source.Statement.of_printable printable).parse_eq (by rw [text]; decide)
      (ReadsBack.of_printable printable).whole_end (Expr.depth_le_iff.mpr (by decide))
    rw [text] at read
    rw [Compiler.compile, read]
    rfl
  have compiled : compile (Compiler.predicate {}) [definition] = .ok registry :=
    compile_singleton source
  refine ⟨takes, same, by decide, walk_mentions.1 "record" tree entries others takes same, compiled,
    walk_mentions.2 {} [definition] registry entries others compiled ?_ .empty (.int 1)⟩
  intro id rule expr found predicate
  rw [get?_singleton found] at predicate
  cases predicate
  exact ⟨takes, same⟩

/-- The order of entries is not seen, unless a whole value is shown as a text. An expression without
a call of `to_string` or `format` has on two records that differ in the order of entries at most
the same failure, or values that differ in it at most. A compiled flow of such expressions has the
same walk through both records, from every entry and in every trace. For each of the two records
maps may be enumerated in a way of its own. -/
theorem walk_reordered [Regex.Matcher] (enumeration alternative : Value.Enumeration) :
    (∀ (param : String) (expr : Expr) (record other : Value), expr.ShowsNothing →
      record.Reordered other →
      SameOutcome Value.Reordered (@Eval.eval _ enumeration ⟨record, param⟩ expr)
        (@Eval.eval _ alternative ⟨other, param⟩ expr)) ∧
    ∀ (compiler : Compiler) (definitions : List RuleDefinition) (registry : Registry)
      (record other : Value),
      compile compiler.predicate definitions = .ok registry →
      (∀ id rule tree, registry.get? id = some rule →
        rule.predicate = .expression tree compiler.param → tree.ShowsNothing) →
      record.Reordered other →
      ∀ (trace : Trace) (entry : RuleId),
        @walk _ enumeration registry record trace entry =
          @walk _ alternative registry other trace entry := by
  constructor
  · intro param expr record other quiet reordered
    exact Eval.eval_reordered reordered quiet
  · intro compiler definitions registry record other compiled quiet reordered
    exact walk_eq_of_trees compiled fun id rule tree found predicate =>
      test_reordered reordered (quiet id rule tree found predicate)

/-- A map is looked for among the items of a list, where its entries stand in another order: records
in which the maps and the fields change places have the same walk, though maps are enumerated as
they stand for the one and backwards for the other. -/
theorem walk_reordered_member :
    let tree : Expr := .binary .member (.ident "a") (.ident "b")
    let definition : RuleDefinition :=
      ⟨.int 1, "listed", String.ofList "(a in b)".toList, none, none⟩
    let registry : Registry :=
      ofRules [⟨.int 1, "listed", .expression tree "record", none, none, definition.predicate⟩]
    let map : Value := .map [("x", .int 1), ("y", .int 2)]
    let reordered : Value := .map [("y", .int 2), ("x", .int 1)]
    let record : Value := .map [("a", map), ("b", .list [reordered])]
    let other : Value := .map [("b", .list [map]), ("a", reordered)]
    let forwards : Value.Enumeration := ⟨id, fun entries => .refl entries⟩
    let backwards : Value.Enumeration := ⟨List.reverse, List.reverse_perm⟩
    tree.ShowsNothing ∧ record.Reordered other ∧
      SameOutcome Value.Reordered (@Eval.eval _ forwards ⟨record, "record"⟩ tree)
        (@Eval.eval _ backwards ⟨other, "record"⟩ tree) ∧
      compile (Compiler.predicate {}) [definition] = .ok registry ∧
      @walk _ forwards registry record .empty (.int 1) =
        @walk _ backwards registry other .empty (.int 1) := by
  intro tree definition registry map reordered record other forwards backwards
  have quiet : tree.ShowsNothing := by
    intro name arguments inside
    simp [tree, @Expr.within_iff _ (.binary _ _ _), @Expr.within_iff _ (.ident _),
      Expr.children] at inside
  have there : map.Reordered reordered := .of_perm (by decide) (.swap _ _ _)
  have back : reordered.Reordered map := .of_perm (by decide) (.swap _ _ _)
  have same : record.Reordered other := by
    refine .map (by decide) (.swap _ _ _) fun key value counterpart found foundOther => ?_
    have member := Value.mem_of_lookup found
    have memberOther := Value.mem_of_lookup foundOther
    simp only [List.mem_cons, List.not_mem_nil, or_false, Prod.mk.injEq] at member memberOther
    rcases member with ⟨rfl, rfl⟩ | ⟨rfl, rfl⟩ <;>
      rcases memberOther with ⟨key, rfl⟩ | ⟨key, rfl⟩
    · exact absurd key (by decide)
    · exact there
    · exact .ofItems (.cons back .nil)
    · exact absurd key (by decide)
  have source : Compiler.compile {} definition.predicate = .ok tree := by
    have printable : tree.Printable :=
      .binary (by decide) (.ident (by decide) (by decide)) (.ident (by decide) (by decide))
    have text : tree.toText = "(a in b)".toList := by decide
    have read := (Source.Statement.of_printable printable).parse_eq (by rw [text]; decide)
      (ReadsBack.of_printable printable).whole_end (Expr.depth_le_iff.mpr (by decide))
    rw [text] at read
    rw [Compiler.compile, read]
    rfl
  have compiled : compile (Compiler.predicate {}) [definition] = .ok registry :=
    compile_singleton source
  obtain ⟨evaluated, walked⟩ := walk_reordered forwards backwards
  refine ⟨quiet, same, evaluated "record" tree record other quiet same, compiled,
    walked {} [definition] registry record other compiled ?_ same .empty (.int 1)⟩
  intro id rule expr found predicate
  rw [get?_singleton found] at predicate
  cases predicate
  exact quiet

end DecisionFlow.Registry
