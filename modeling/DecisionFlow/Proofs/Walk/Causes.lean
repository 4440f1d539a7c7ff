import DecisionFlow.Proofs.Eval.Causes
import DecisionFlow.Proofs.Walk.Records

/-!
# What runs fail with

A failure of evaluation names something that is really there (`realCause_of_eval`), and a walk fails
with the predicate of a registered rule on the record that it walks through (`found_of_failure`). So
a run of a compiled flow fails with a registered rule only, and for a cause that is present in the
tree of its source (`failure_causes`).
-/
namespace DecisionFlow

/-! ## Causes -/

/-- A failure that names what is really there. -/
structure Eval.RealCause [Regex.Matcher] [Value.Enumeration] (context : Context) (expr : Expr)
    (cause : EvalError) : Prop where
  /-- An expression within fails by itself: everything immediately below it has a value. -/
  origin : ∃ node : Expr, node.Within expr ∧ eval context node = .error cause ∧
    ∀ child ∈ node.children, ∃ value, eval context child = .ok value
  /-- An undefined variable occurs, is not the parameter and is no key of the record. -/
  undefinedVariable : ∀ name, cause = .undefinedVariable name →
    (Expr.ident name).Within expr ∧ name ≠ context.param ∧ context.record.get? name = none
  /-- An undefined function is called and is not built in. -/
  undefinedFunction : ∀ name, cause = .undefinedFunction name →
    (∃ arguments, (Expr.call name arguments).Within expr) ∧ name ∉ builtinNames
  /-- For a pattern that cannot be read there is a pattern match, as an operator or as a call. -/
  invalidPattern : ∀ reason, cause = .invalidPattern reason →
    (∃ left right, (Expr.binary .matchesPattern left right).Within expr) ∨
      ∃ arguments, (Expr.call "matches" arguments).Within expr
  /-- An operation without result is a division or a remainder that occurs. -/
  evaluation : cause.category = .evaluation →
    (cause = .divisionByZero ∧ ∃ left right, (Expr.binary .div left right).Within expr) ∨
      (cause = .moduloByZero ∧ ∃ left right, (Expr.binary .mod left right).Within expr)
  /-- It does not read like a source that cannot be parsed. -/
  unparsed : ∀ error : SourceError, cause.message ≠ error.message
  /-- It does not read like a rule that does not compile. -/
  uncompiled : ∀ rejection : Rejection SourceError, cause.message ≠ rejection.message
  /-- It does not read like the failure of a rule. -/
  unwrapped : ∀ error : WalkError, cause.message ≠ error.message

/-- The message of a failure starts like neither a message about a source nor one about a rule. -/
theorem EvalError.message_ne {cause : EvalError} {words : String} {c : Char} {rest : List Char}
    (starts : words.toList = c :: rest) (foreign : c ∈ ['p', 'r']) : cause.message ≠ words := by
  have opens : ∀ kind : Class, ∃ d after, kind.opening.toList = d :: after ∧ d ∉ ['p', 'r'] := by
    intro kind
    cases kind <;> exact ⟨_, _, rfl, by decide⟩
  obtain ⟨d, after, opening, other⟩ := opens cause.category
  rintro rfl
  rw [message, String.toList_append, opening] at starts
  obtain ⟨rfl, -⟩ := List.cons.inj starts
  exact other foreign

/-- The message of a source error starts with a word about parsing. -/
theorem SourceError.message_cons (error : SourceError) :
    ∃ rest, error.message.toList = 'p' :: rest := by
  rw [message, String.toList_append]
  exact ⟨_, rfl⟩

/-- The message of a rejected rule starts with a word about rules. -/
theorem Rejection.message_cons (rejection : Rejection SourceError) :
    ∃ rest, rejection.message.toList = 'r' :: rest := by
  rw [message]
  simp only [String.toList_append]
  exact ⟨_, rfl⟩

/-- The message of a failed rule starts with a word about rules. -/
theorem WalkError.message_cons (error : WalkError) :
    ∃ rest, error.message.toList = 'r' :: rest := by
  rw [message, opening]
  simp only [String.toList_append]
  exact ⟨_, rfl⟩

/-- Every failure of evaluation names a real cause. -/
theorem Eval.realCause_of_eval [Regex.Matcher] [Value.Enumeration] {context : Context} {expr : Expr}
    {cause : EvalError} (failed : eval context expr = .error cause) :
    RealCause context expr cause := by
  obtain ⟨node, inside, fails, values⟩ := exists_origin failed
  have blamed := blamed_of_values values cause fails
  refine {
    origin := ⟨node, inside, fails, values⟩
    undefinedVariable := ?_
    undefinedFunction := ?_
    invalidPattern := ?_
    evaluation := ?_
    unparsed := ?_
    uncompiled := ?_
    unwrapped := ?_ }
  · rintro name rfl
    cases blamed with
    | mistyped kinds => cases kinds
    | undefinedVariable apart absent => exact ⟨inside, apart, absent⟩
  · rintro name rfl
    cases blamed with
    | mistyped kinds => cases kinds
    | undefinedFunction arguments unknown => exact ⟨⟨arguments, inside⟩, unknown⟩
  · rintro reason rfl
    cases blamed with
    | mistyped kinds => cases kinds
    | matchOperator left right => exact .inl ⟨left, right, inside⟩
    | matchCall arguments => exact .inr ⟨arguments, inside⟩
  · intro evaluation
    cases blamed with
    | mistyped kinds => cases evaluation.symm.trans kinds
    | divisionByZero left right => exact .inl ⟨rfl, left, right, inside⟩
    | moduloByZero left right => exact .inr ⟨rfl, left, right, inside⟩
    | _ => contradiction
  · intro error
    obtain ⟨rest, starts⟩ := error.message_cons
    exact cause.message_ne starts (by decide)
  · intro rejection
    obtain ⟨rest, starts⟩ := rejection.message_cons
    exact cause.message_ne starts (by decide)
  · intro error
    obtain ⟨rest, starts⟩ := error.message_cons
    exact cause.message_ne starts (by decide)

/-! ## Runs -/

namespace Registry

variable [Regex.Matcher] [Value.Enumeration]

/-- A walk fails with the predicate of a registered rule. -/
theorem found_of_failure {registry : Registry} {record : Value} {trace : Trace} {current : RuleId}
    {failure : WalkError} (failed : (registry.walk record trace current).failure = some failure) :
    ∃ rule, registry.get? failure.rule = some rule ∧
      rule.predicate.evaluate record = .error failure.cause := by
  induction trace, current using walk_induct registry record with
  | visited trace current visited =>
    rw [walk_visited visited] at failed
    contradiction
  | unregistered trace current fresh absent =>
    rw [walk_unregistered absent] at failed
    contradiction
  | failed trace current rule cause fresh found tested =>
    rw [walk_failed fresh found tested] at failed
    obtain rfl := Option.some.inj failed
    exact ⟨rule, found, map_truthy_error tested⟩
  | applied trace current rule outcome fresh found tested ih =>
    rw [walk_applied fresh found tested] at failed
    cases next : rule.next outcome with
    | none =>
      rw [next] at failed
      contradiction
    | some target =>
      rw [next] at failed
      exact ih target next failed

end Registry

namespace Engine

/-- A failure of evaluation names a real cause, on every record and for every expression. So a run
of a compiled flow, from an empty trace or a given one, fails with a registered rule only, and for a
cause that is real in the tree that the source of the rule compiles to. -/
theorem failure_causes [Regex.Matcher] [Value.Enumeration] :
    (∀ (context : Context) (expr : Expr) (cause : EvalError),
      Eval.eval context expr = .error cause → Eval.RealCause context expr cause) ∧
    ∀ (compiler : Compiler) (definitions : List RuleDefinition) (engine : Engine)
      (entry : Option RuleId) (record : Value) (trace : Trace) (failure : WalkError),
      Registry.compile compiler.predicate definitions = .ok engine.registry →
      (engine.resume entry record trace).result = .error failure →
      ∃ rule tree, engine.registry.get? failure.rule = some rule ∧
        compiler.compile rule.source = .ok tree ∧
        rule.predicate = .expression tree compiler.param ∧
        Eval.RealCause ⟨record, compiler.param⟩ tree failure.cause := by
  refine ⟨fun context expr cause failed => Eval.realCause_of_eval failed, ?_⟩
  intro compiler definitions engine entry record trace failure compiled ended
  have failed : (engine.resume entry record trace).failure = some failure := by
    unfold Walked.result at ended
    split at ended
    · contradiction
    · rename_i other found
      rw [found, Except.error.inj ended]
  obtain ⟨rule, found, fails⟩ := Registry.found_of_failure failed
  obtain ⟨tree, source, predicate⟩ := Registry.source_of_compile compiled found
  rw [predicate] at fails
  exact ⟨rule, tree, found, source, predicate, Eval.realCause_of_eval fails⟩

/-- A rule that asks for a name that the record lacks makes the run fail with this name. -/
theorem failure_causes_missing :
    let tree : Expr := .binary .gt (.ident "missing") (.int 1)
    let definition : RuleDefinition :=
      ⟨.int 1, "limit", String.ofList "(missing > 1)".toList, none, none⟩
    let registry : Registry := .ofRules
      [⟨.int 1, "limit", .expression tree "record", none, none, definition.predicate⟩]
    let failure : WalkError := ⟨.int 1, .undefinedVariable "missing"⟩
    Registry.compile (Compiler.predicate {}) [definition] = .ok registry ∧
      (Engine.run ⟨registry, .int 1⟩ none (.map [])).result = .error failure ∧
      (∃ rule tree, registry.get? (.int 1) = some rule ∧
        Compiler.compile {} rule.source = .ok tree ∧
        rule.predicate = .expression tree "record" ∧
        Eval.RealCause ⟨.map [], "record"⟩ tree (.undefinedVariable "missing")) ∧
      Eval.eval ⟨.map [], "record"⟩ tree = .error (.undefinedVariable "missing") ∧
      Eval.RealCause ⟨.map [], "record"⟩ tree (.undefinedVariable "missing") := by
  intro tree definition registry failure
  have source : Compiler.compile {} definition.predicate = .ok tree := by
    have printable : tree.Printable :=
      .binary (by decide) (.ident (by decide) (by decide)) (.int (by decide))
    have shallow : tree.depth ≤ depthLimit := Expr.depth_le_iff.mpr (by decide)
    rw [Compiler.compile, Source.parse_of_printable printable (by decide) (by decide) shallow]
    rfl
  have compiled : Registry.compile (Compiler.predicate {}) [definition] = .ok registry :=
    Registry.compile_singleton source
  have evaluated : Eval.eval ⟨.map [], "record"⟩ tree = .error (.undefinedVariable "missing") := rfl
  have walked : registry.walk (.map []) .empty (.int 1) = ⟨.empty, [], some failure⟩ :=
    Registry.walk_failed rfl rfl rfl
  have ended : (Engine.run ⟨registry, .int 1⟩ none (.map [])).result = .error failure :=
    congrArg Walked.result walked
  refine ⟨compiled, ended, ?_, evaluated, failure_causes.1 ⟨.map [], "record"⟩ tree _ evaluated⟩
  exact failure_causes.2 {} [definition] ⟨registry, .int 1⟩ none (.map []) .empty failure
    compiled ended

end Engine

end DecisionFlow
