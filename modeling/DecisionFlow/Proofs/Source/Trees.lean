import DecisionFlow.Proofs.Source.Printable

/-!
# The trees that are read

What every tree has that is read off any text. The grammar builds trees in three layers: nested
expressions, operands, and whole expressions of operands. A property of each layer that is passed
on from one constructor of the grammar to the next (`Builds`) holds of all trees of the layer, for
every reader of nested expressions (`conditional_yields`) and so for every budget
(`expression_yields`).
-/
namespace DecisionFlow.Source

open DecisionFlow.Text

/-- What is read, if anything, has a property. -/
def Gives {α : Type} (p : α → Prop) (result : Except Failure (α × List Char)) : Prop :=
  ∀ value rest, result = .ok (value, rest) → p value

/-- Whatever a reader reads has a property. -/
def Yields {α : Type} (p : α → Prop) (reader : Reader α) : Prop := ∀ text, Gives p (reader text)

namespace Gives

variable {α β : Type} {p : α → Prop} {q : β → Prop}

/-- What was read has the property. -/
theorem read {value : α} {rest : List Char} (holds : p value) : Gives p (.ok (value, rest)) := by
  intro _ _ same
  cases same
  exact holds

/-- Nothing was read. -/
theorem failed {failure : Failure} : Gives p (.error failure) := nofun

/-- The property may be weakened. -/
theorem mono {weaker : α → Prop} {result : Except Failure (α × List Char)} (gives : Gives p result)
    (weak : ∀ {value}, p value → weaker value) : Gives weaker result :=
  fun value rest same => weak (gives value rest same)

/-- What is read after something with a property. -/
theorem bind {result : Except Failure (α × List Char)}
    {next : α × List Char → Except Failure (β × List Char)} (gives : Gives p result)
    (follows : ∀ value rest, p value → Gives q (next (value, rest))) :
    Gives q (result >>= next) := by
  cases result with
  | error failure => exact failed
  | ok found => exact follows found.1 found.2 (gives found.1 found.2 rfl)

/-- What was read is changed. -/
theorem map {result : Except Failure (α × List Char)} {change : α → β} (gives : Gives p result)
    (changed : ∀ value, p value → q (change value)) :
    Gives q (result.map fun (value, rest) => (change value, rest)) := by
  cases result with
  | error failure => exact failed
  | ok found => exact read (changed found.1 (gives found.1 found.2 rfl))

/-- Reporting a missing name changes nothing that is read. -/
theorem orName {result : Except Failure (α × List Char)} {text : List Char}
    (gives : Gives p result) : Gives p (orName text result) := by
  unfold Source.orName
  split
  · exact failed
  · exact gives

/-- What is read after one certain character. -/
theorem closing {last : Char} {text : List Char}
    {next : List Char → Except Failure (β × List Char)} (follows : ∀ rest, Gives q (next rest)) :
    Gives q (closing last text >>= next) := by
  cases Source.closing last text with
  | error failure => exact failed
  | ok rest => exact follows rest

end Gives

section Lists

variable {α : Type} {p : α → Prop} {item : Reader α} (yields : Yields p item)

include yields

/-- Further items have the property of items. -/
theorem moreItems_yields (count : Nat) : Yields (∀ value ∈ ·, p value) (moreItems item count) := by
  induction count with
  | zero => exact fun text => .read nofun
  | succ count ih =>
    intro text
    rw [moreItems]
    split
    · rename_i after _
      split
      · rename_i first rest found
        have holds := yields _ _ _ found
        exact (ih rest).bind fun others _ all => .read (List.forall_mem_cons.mpr ⟨holds, all⟩)
      · exact .failed
      · exact .read nofun
    · exact .read nofun

/-- Items between brackets have the property of items. -/
theorem bracketed_yields (last : Char) : Yields (∀ value ∈ ·, p value) (bracketed item last) := by
  intro text
  have all : Gives (∀ value ∈ ·, p value) (items item (skipBlank text)) := by
    unfold items
    split
    · rename_i first rest found
      have holds := yields _ _ _ found
      exact (moreItems_yields yields _ rest).bind fun others _ all =>
        .read (List.forall_mem_cons.mpr ⟨holds, all⟩)
    · exact .failed
    · exact .read nofun
  exact all.bind fun values rest each => .closing fun _ => .read each

end Lists

/-- An expression between brackets has the property of expressions. -/
theorem enclosed_yields {p : Expr → Prop} {expr : Reader Expr} (yields : Yields p expr)
    (last : Char) : Yields p (enclosed expr last) :=
  fun text => (yields (skipBlank text)).bind fun _ _ holds => .closing fun _ => .read holds

/-- The value of a map entry has the property of expressions. -/
theorem mapEntry_yields {p : Expr → Prop} {expr : Reader Expr} (yields : Yields p expr) :
    Yields (fun entry => p entry.2) (mapEntry expr) := by
  intro text
  have any : Gives (fun _ => True) (mapKey (skipBlank text)) := fun _ _ _ => trivial
  exact any.bind fun key rest _ => .closing fun rest =>
    (yields rest).bind fun value _ holds => .read holds

/-- What a literal is read as: what a literal word stands for, an integer of 63 bits, the double
that digits with a point stand for, or a text. -/
theorem readLiteral_cases {text rest : List Char} {expr : Expr}
    (read : readLiteral text = some (expr, rest)) :
    expr ∈ wordLiterals.map (·.2) ∨
      (∃ value < 0x8000000000000000, expr = .int (Int64.ofNat value)) ∨
      (∃ digits places, expr = .float (Float.ofScientific digits true places)) ∨
      ∃ value, expr = .string value := by
  unfold readLiteral at read
  split at read
  · rename_i found word
    cases read
    obtain ⟨literal, listed, found⟩ := List.exists_of_findSome?_eq_some word
    obtain ⟨after, _, same⟩ := Option.map_eq_some_iff.mp found
    cases same
    exact .inl (List.mem_map_of_mem listed)
  · split at read
    · rename_i found number
      cases read
      unfold readNumber at number
      simp only at number
      split at number
      · contradiction
      · split at number
        · split at number
          · cases number
            exact .inr (.inl ⟨_, ‹_›, rfl⟩)
          · contradiction
        · cases number
          exact .inr (.inr (.inl ⟨_, _, rfl⟩))
    · obtain ⟨⟨value, _⟩, _, same⟩ := Option.map_eq_some_iff.mp read
      cases same
      exact .inr (.inr (.inr ⟨value, rfl⟩))

/-- A literal is one that stands for a value. -/
theorem isConstant_readLiteral {text rest : List Char} {expr : Expr}
    (read : readLiteral text = some (expr, rest)) : expr.isConstant = true := by
  rcases readLiteral_cases read with word | ⟨_, _, rfl⟩ | ⟨_, _, rfl⟩ | ⟨_, rfl⟩
  · have words : ∀ literal ∈ wordLiterals, literal.2.isConstant = true := by decide
    obtain ⟨literal, listed, rfl⟩ := List.mem_map.mp word
    exact words literal listed
  · rfl
  · rfl
  · rfl

/-- What is read as a name is one, and it is read to its end. -/
theorem readName_eq_some {text rest : List Char} {name : String}
    (read : readName text = some (name, rest)) :
    isName name.toList = true ∧ text = name.toList ++ rest ∧ startsInName rest = false := by
  cases text with
  | nil => contradiction
  | cons c more =>
    rw [readName] at read
    split at read
    · rename_i starts
      cases read
      rw [String.toList_ofList]
      refine ⟨?_, ?_, ?_⟩
      · rw [isName, starts, Bool.true_and]
        exact List.all_takeWhile
      · rw [List.cons_append, List.takeWhile_append_dropWhile]
      · cases remaining : more.dropWhile isNameChar with
        | nil => rfl
        | cons d after =>
          have stops := List.head?_dropWhile_not isNameChar more
          rw [remaining] at stops
          simpa [startsInName] using stops
    · contradiction

/-- Properties that the grammar passes on: one of nested expressions, one of operands, and one of
expressions. -/
structure Builds (inner operand whole : Expr → Prop) : Prop where
  /-- A literal is an operand. -/
  literal : ∀ {text expr rest}, readLiteral text = some (expr, rest) → operand expr
  /-- A name that is no literal is an operand. -/
  ident : ∀ {text name rest}, readLiteral text = none → readName text = some (name, rest) →
    operand (.ident name)
  /-- A nested expression is an operand. -/
  nested : ∀ {expr}, inner expr → operand expr
  /-- A list of operands is one. -/
  list : ∀ {items}, (∀ item ∈ items, operand item) → operand (.list items)
  /-- A map to operands is one. -/
  map : ∀ {entries : List (String × Expr)}, (∀ entry ∈ entries, operand entry.2) →
    operand (.map entries)
  /-- A call by name with operands is one. -/
  call : ∀ {name arguments}, isName name.toList = true →
    (∀ argument ∈ arguments, operand argument) → operand (.call (functionName name) arguments)
  /-- A field of an operand is one. -/
  field : ∀ {base name}, isName name.toList = true → operand base → operand (.field base name)
  /-- An operand at an operand is one. -/
  index : ∀ {base key}, operand base → operand key → operand (.index base key)
  /-- A prefix operator on an operand makes one. -/
  unary : ∀ {op expr}, operand expr → operand (.unary op expr)
  /-- An operator that is not logical makes one of two operands. -/
  binary : ∀ {op left right}, op ≠ .and → op ≠ .or → operand left → operand right →
    operand (.binary op left right)
  /-- An operand is an expression. -/
  single : ∀ {expr}, operand expr → whole expr
  /-- A logical operator makes an expression of two. -/
  logical : ∀ {op left right}, op = .and ∨ op = .or → whole left → whole right →
    whole (.binary op left right)
  /-- A conditional between nested expressions is an expression. -/
  ternary : ∀ {condition yes no}, whole condition → inner yes → inner no →
    whole (.ternary condition yes no)

/-- An operator is read by a spelling of its level. -/
theorem mem_of_readOperator {level : List (List Char × BinaryOp)} {text rest : List Char}
    {op : BinaryOp} (read : readOperator level text = some (op, rest)) :
    op ∈ level.map (·.2) := by
  obtain ⟨spelling, listed, read⟩ := List.exists_of_findSome?_eq_some read
  unfold readSpelling at read
  split at read
  · split at read
    · contradiction
    · cases read
      exact List.mem_map_of_mem listed
  · contradiction

section Layers

variable {inner operand whole : Expr → Prop} (builds : Builds inner operand whole)
  {expr : Reader Expr} (yields : Yields inner expr)

/-- A chain of operators has the property of its operands when each operator passes it on. -/
theorem chain_yields {p : Expr → Prop} {side : Reader Expr} (each : Yields p side)
    {level : List (List Char × BinaryOp)}
    (links : ∀ op ∈ level.map (·.2), ∀ {left right}, p left → p right → p (.binary op left right))
    (count : Nat) {left : Expr} (start : p left) : Yields p (chain side level count left) := by
  induction count generalizing left with
  | zero => exact fun text => .read start
  | succ count ih =>
    intro text
    rw [chain]
    split
    · exact .read start
    · rename_i op rest found
      exact (each rest).bind fun right rest holds =>
        ih (links op (mem_of_readOperator found) start holds) rest

/-- Operators of a level have the property of their operands when each of them passes it on. -/
theorem level_yields {p : Expr → Prop} {tighter : List (List (List Char × BinaryOp))}
    (each : Yields p (binary expr tighter)) {level : List (List Char × BinaryOp)}
    (links : ∀ op ∈ level.map (·.2), ∀ {left right}, p left → p right →
      p (.binary op left right)) : Yields p (binary expr (level :: tighter)) :=
  fun text => (each text).bind fun _ rest start => chain_yields each links rest.length start rest

include builds yields

/-- A name or a call has the property of operands where no literal is read. -/
theorem nameOrCall_gives {text : List Char} (unread : readLiteral text = none) :
    Gives operand (nameOrCall expr text) := by
  unfold nameOrCall
  split
  · exact .failed
  · rename_i name rest found
    split
    · have named := (readName_eq_some found).1
      exact (bracketed_yields yields ')' _).bind fun arguments rest each =>
        .read (builds.call named fun argument listed => builds.nested (each argument listed))
    · exact .read (builds.ident unread found)

/-- An atom has the property of operands. -/
theorem atom_yields : Yields operand (atom expr) := by
  intro text
  unfold atom
  simp only
  split
  · rename_i found read
    exact .read (builds.literal read)
  · rename_i unread
    split
    · exact ((bracketed_yields yields ']' _).map fun items each =>
        builds.list fun item listed => builds.nested (each item listed)).orName
    · exact ((bracketed_yields (mapEntry_yields yields) '\x7d' _).map fun entries each =>
        builds.map fun entry listed => builds.nested (each entry listed)).orName
    · exact ((enclosed_yields yields ')' _).mono builds.nested).orName
    · exact nameOrCall_gives builds yields unread

omit yields in
/-- A method call on an operand has the property of operands. -/
theorem methodCall_yields {receiver : Expr} (base : operand receiver) {name : String}
    (named : isName name.toList = true) {arguments : List Expr}
    (each : ∀ argument ∈ arguments, inner argument) :
    operand (methodCall receiver name arguments) := by
  have operands : ∀ argument ∈ arguments, operand argument :=
    fun argument listed => builds.nested (each argument listed)
  unfold methodCall
  split
  · rename_i op argument method
    have tight : op ≠ .and ∧ op ≠ .or := by
      unfold methodOperator at method
      split at method <;> cases method <;> decide
    exact builds.binary tight.1 tight.2 base (operands argument (List.mem_singleton_self argument))
  · exact builds.call named (List.forall_mem_cons.mpr ⟨base, operands⟩)

/-- Accesses on an operand have the property of operands. -/
theorem accesses_yields (count : Nat) {base : Expr} (start : operand base) :
    Yields operand (accesses expr count base) := by
  induction count generalizing base with
  | zero => exact fun text => .read start
  | succ count ih =>
    intro text
    rw [accesses]
    split
    · split
      · exact .failed
      · rename_i name rest found
        have named := (readName_eq_some found).1
        split
        · exact (bracketed_yields yields ')' _).bind fun arguments rest each =>
            ih (methodCall_yields builds start named each) rest
        · exact ih (builds.field named start) _
    · exact (enclosed_yields yields ']' _).bind fun key rest holds =>
        ih (builds.index start (builds.nested holds)) rest
    · exact .read start

/-- Prefix operators on an atom with accesses have the property of operands. -/
theorem unary_yields : Yields operand (unary expr) := by
  intro text
  have accessed (text : List Char) : Gives operand (accessed expr text) :=
    (atom_yields builds yields text).bind fun base rest holds =>
      accesses_yields builds yields rest.length holds rest
  refine (accessed _).bind fun value rest holds => .read ?_
  induction (readPrefixOps text).1 with
  | nil => exact holds
  | cons op ops ih => exact builds.unary ih

/-- Operators of levels that are not logical have the property of operands. -/
theorem binary_yields (levels : List (List (List Char × BinaryOp)))
    (tight : ∀ level ∈ levels, ∀ op ∈ level.map (·.2), op ≠ .and ∧ op ≠ .or) :
    Yields operand (binary expr levels) := by
  induction levels with
  | nil => exact unary_yields builds yields
  | cons level tighter ih =>
    obtain ⟨first, others⟩ := List.forall_mem_cons.mp tight
    exact level_yields (ih others) fun op listed _ _ =>
      builds.binary (first op listed).1 (first op listed).2

/-- Operators of all levels have the property of expressions. -/
theorem operators_yields : Yields whole (binary expr operatorLevels) := by
  have operands : Yields operand (binary expr (operatorLevels.drop 2)) :=
    binary_yields builds yields _ (by decide)
  have single : Yields whole (binary expr (operatorLevels.drop 2)) :=
    fun text => (operands text).mono builds.single
  have conjunctions : Yields whole (binary expr (operatorLevels.drop 1)) :=
    level_yields single fun op listed _ _ => builds.logical (.inl (List.mem_singleton.mp listed))
  exact level_yields conjunctions fun op listed _ _ =>
    builds.logical (.inr (List.mem_singleton.mp listed))

/-- What is read with any reader of nested expressions has the property of expressions. -/
theorem conditional_yields : Yields whole (conditional expr) := by
  intro text
  refine (operators_yields builds yields text).bind fun condition rest holds => ?_
  simp only
  split
  · refine (yields _).bind fun yes rest first => ?_
    refine .closing fun rest => (yields _).bind fun no rest second => ?_
    exact .read (builds.ternary holds first second)
  · exact .read holds

end Layers

/-- Properties that the grammar passes on from one budget to the next hold of what is read within
it. -/
theorem expression_yields {whole operand : Nat → Expr → Prop}
    (builds : ∀ budget, Builds (whole budget) (operand budget) (whole (budget + 1)))
    (budget : Nat) : Yields (whole budget) (expression budget) := by
  induction budget with
  | zero => exact fun text => .failed
  | succ budget ih => exact conditional_yields (builds budget) ih

end DecisionFlow.Source
