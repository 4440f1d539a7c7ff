import DecisionFlow.Proofs.Expr.Subtrees
import DecisionFlow.Proofs.Number.Unsigned
import DecisionFlow.Proofs.Source.RoundTrip
import DecisionFlow.Proofs.Source.Trees

/-!
# What stands in a tree that is read

Signs are operators and no parts of numbers, literal words are no names, and the names of functions
that a source may use in place of others are replaced wherever they are called. So the nodes of a
tree that is read are restricted (`Legible`), whatever the text: each constructor of the grammar
passes the restriction on (`builds_legible`). Trees that are parsed are also within the limit of
depth (`parse_legible`).
-/
namespace DecisionFlow.Source

open DecisionFlow.Expr

/-- The words that are read as literals. -/
def literalNames : List String := ["null", "undefined", "true", "false"]

/-- What a node of a tree that is read may be, its subtrees apart. -/
def Legible : Expr → Prop
  | .int value => 0 ≤ value
  | .float value => value.isNaN = false ∧ ¬value < 0.0
  | .ident name => isName name.toList = true ∧ name ∉ literalNames
  | .field _ name => isName name.toList = true
  | .call name _ => isName name.toList = true ∧ name ∉ convertedNames
  | _ => True

/-- An expression in which every node is legible. -/
def LegibleThroughout (expr : Expr) : Prop := ∀ node : Expr, node.Within expr → Legible node

/-- An expression is legible throughout when it is so itself and its immediate subtrees are. -/
theorem legibleThroughout_iff {expr : Expr} :
    LegibleThroughout expr ↔ Legible expr ∧ ∀ child ∈ expr.children, LegibleThroughout child :=
  forall_within_iff

/-- A literal that is read is legible. -/
theorem legible_readLiteral {text rest : List Char} {expr : Expr}
    (read : readLiteral text = some (expr, rest)) : Legible expr := by
  rcases readLiteral_cases read with word | ⟨value, fits, rfl⟩ | ⟨digits, places, rfl⟩ | ⟨_, rfl⟩
  · simp only [wordLiterals, List.map_cons, List.map_nil, List.mem_cons, List.not_mem_nil,
      or_false] at word
    rcases word with rfl | rfl | rfl | rfl <;> trivial
  · rw [Legible, Int64.le_iff_toInt_le, Int64.toInt_ofNat_of_lt fits]
    exact Int.natCast_nonneg value
  · have unsigned := Number.unsigned_ofScientific digits places
    exact ⟨unsigned.isNaN, unsigned.not_lt⟩
  · trivial

/-- A name that is read where no literal is read is legible as a name. -/
theorem legible_ident {text rest : List Char} {name : String} (unread : readLiteral text = none)
    (read : readName text = some (name, rest)) : Legible (.ident name) := by
  obtain ⟨named, rfl, outside⟩ := readName_eq_some read
  refine ⟨named, fun listed => ?_⟩
  have words : ∀ name ∈ literalNames, (wordLiterals.lookup name.toList).isSome = true := by decide
  obtain ⟨literal, found⟩ := Option.isSome_iff_exists.mp (words name listed)
  rw [readLiteral_word (isName_cons named).2 outside found] at unread
  contradiction

/-- The function that a name means is named by a name, and by none that means another function. -/
theorem legible_call {name : String} (named : isName name.toList = true) (arguments : List Expr) :
    Legible (.call (functionName name) arguments) := by
  by_cases converted : name ∈ convertedNames
  · have all : ∀ name ∈ convertedNames,
        isName (functionName name).toList = true ∧ functionName name ∉ convertedNames := by decide
    exact all name converted
  · rw [ReadsBack.functionName_eq converted]
    exact ⟨named, converted⟩

/-- The grammar builds legible trees. -/
theorem builds_legible : Builds LegibleThroughout LegibleThroughout LegibleThroughout where
  literal read node inside := by
    rw [eq_of_within_constant (isConstant_readLiteral read) inside]
    exact legible_readLiteral read
  ident unread read := legibleThroughout_iff.mpr ⟨legible_ident unread read, nofun⟩
  nested legible := legible
  list each := legibleThroughout_iff.mpr ⟨trivial, each⟩
  map each := legibleThroughout_iff.mpr ⟨trivial, List.forall_mem_map.mpr each⟩
  call named each := legibleThroughout_iff.mpr ⟨legible_call named _, each⟩
  field named base := legibleThroughout_iff.mpr ⟨named, List.forall_mem_singleton.mpr base⟩
  index base key := legibleThroughout_iff.mpr ⟨trivial, by simp [children, base, key]⟩
  unary operand := legibleThroughout_iff.mpr ⟨trivial, List.forall_mem_singleton.mpr operand⟩
  binary _ _ left right := legibleThroughout_iff.mpr ⟨trivial, by simp [children, left, right]⟩
  single legible := legible
  logical _ left right := legibleThroughout_iff.mpr ⟨trivial, by simp [children, left, right]⟩
  ternary condition yes no :=
    legibleThroughout_iff.mpr ⟨trivial, by simp [children, condition, yes, no]⟩

/-- A tree that is parsed is within the limit of depth. In it no integer is negative, no double is
negative or not a number, the names of identifiers, fields and functions are names, no identifier
is a literal word, and no function has a name that means another function. -/
theorem parse_legible {source : String} {expr : Expr} (parsed : parse source = .ok expr) :
    expr.depth ≤ depthLimit ∧ ∀ node : Expr, node.Within expr → Legible node := by
  obtain ⟨_, shallow, rest, read, _⟩ := parse_eq_ok parsed
  exact ⟨shallow, expression_yields (fun _ => builds_legible) _ _ expr rest read⟩

/-- A function and a method whose names mean other functions are replaced. -/
theorem parse_legible_replaced :
    ∃ expr, parse "size(x) > y.int()" = .ok expr ∧ expr.source = "(len(x) > to_int(y))" ∧
      expr.depth ≤ depthLimit ∧ ∀ node : Expr, node.Within expr → Legible node := by
  have printed : (parse "size(x) > y.int()").toOption.map Expr.source =
      some "(len(x) > to_int(y))" := by decide +kernel
  cases parsed : parse "size(x) > y.int()" with
  | error =>
    rw [parsed] at printed
    cases printed
  | ok expr =>
    rw [parsed] at printed
    have replaced : expr.source = "(len(x) > to_int(y))" := Option.some.inj printed
    exact ⟨expr, rfl, replaced, parse_legible parsed⟩

end DecisionFlow.Source
