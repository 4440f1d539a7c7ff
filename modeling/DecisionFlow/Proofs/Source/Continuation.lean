import DecisionFlow.Proofs.Source.Nesting
import DecisionFlow.Proofs.Source.Printed

/-!
# Continuations

What the readers do in front of a rest: they skip white space, stop where nothing goes on, and read
the items between brackets one after the other. An expression between brackets is followed by a
closing character or by an operator, so the rest that matters is known by its first character.
-/
namespace DecisionFlow.Source

open DecisionFlow.Text

/-- Nothing is skipped before a character that is not white space. -/
theorem skipBlank_cons {c : Char} (visible : isBlank c = false) (rest : List Char) :
    skipBlank (c :: rest) = c :: rest := by
  rw [skipBlank, List.dropWhile_cons, visible]
  rfl

/-- White space is skipped once. -/
theorem skipBlank_skipBlank (text : List Char) : skipBlank (skipBlank text) = skipBlank text := by
  cases skipped : skipBlank text with
  | nil => rfl
  | cons c rest => exact skipBlank_cons (isBlank_head_skipBlank skipped) rest

/-- The rest ends a lexeme when its first character neither continues a name nor is a point, and
no arguments follow. -/
theorem Ends.of_head {c : Char} {rest : List Char} (outside : isNameChar c = false)
    (point : c ≠ '.') (call : ∀ d ∈ (skipBlank (c :: rest)).head?, d ≠ '(') : Ends (c :: rest) where
  name := outside
  call := call
  fraction := by
    unfold fractionDigits
    split
    · simp_all
    · rfl

/-- No arguments follow the end of a lexeme. -/
theorem Ends.no_call {rest : List Char} (ends : Ends rest) (inner : List Char) :
    skipBlank rest ≠ '(' :: inner := by
  intro skipped
  exact ends.call '(' (by rw [skipped]; rfl) rfl

/-- White space and a character after it end a lexeme. -/
theorem ends_space {c : Char} (visible : isBlank c = false) (call : c ≠ '(') (rest : List Char) :
    Ends (' ' :: c :: rest) := by
  refine .of_head (by decide) (by decide) ?_
  have skipped : skipBlank (' ' :: c :: rest) = c :: rest := skipBlank_cons visible rest
  rw [skipped]
  rintro d first rfl
  cases first
  contradiction

/-- A field ends a lexeme. -/
theorem ends_point {name : List Char} (named : isName name = true) (rest : List Char) :
    Ends ('.' :: (name ++ rest)) := by
  obtain ⟨⟨c, others, rfl, starts⟩, _⟩ := isName_cons named
  have outside : isNameChar '.' = false := isNameChar_of_separates (by decide)
  refine ⟨outside, ?_, ?_⟩
  · rw [skipBlank_cons (by decide)]
    rintro d first rfl
    cases first
  · rw [List.cons_append, fractionDigits, List.takeWhile_cons, isDigit_of_isNameStart starts]
    rfl

/-- The characters that end an expression. -/
def closers : List Char := [')', ']', '\x7d', ',', ':']

/-- A rest that ends an expression, after white space. -/
def Closes (rest : List Char) : Prop := ∀ c ∈ (skipBlank rest).head?, c ∈ closers

/-- A rest that goes on with no access. -/
def Unaccessed (rest : List Char) : Prop := ∀ c ∈ (skipBlank rest).head?, c ∉ ['.', '[']

/-- A closing character ends an expression. -/
theorem closes_cons {c : Char} (closer : c ∈ closers) (rest : List Char) : Closes (c :: rest) := by
  have visible : ∀ c ∈ closers, isBlank c = false := by decide
  rw [Closes, skipBlank_cons (visible c closer)]
  rintro d first
  cases first
  exact closer

/-- The rest after an expression ends its last lexeme. -/
theorem Closes.ends {rest : List Char} (closes : Closes rest) : Ends rest := by
  have call : ∀ c ∈ (skipBlank rest).head?, c ≠ '(' := by
    rintro c first rfl
    exact absurd (closes '(' first) (by decide)
  cases rest with
  | nil => exact ⟨rfl, call, rfl⟩
  | cons c rest =>
    cases blank : isBlank c with
    | true =>
      simp only [isBlank, Bool.or_eq_true, beq_iff_eq] at blank
      rcases blank with ((rfl | rfl) | rfl) | rfl
      all_goals exact .of_head (by decide) (by decide) call
    | false =>
      have other : ∀ c ∈ closers, separates c = true ∧ c ≠ '.' := by decide
      have closer := closes c (by rw [skipBlank_cons blank]; rfl)
      exact .of_head (isNameChar_of_separates (other c closer).1) (other c closer).2 call

/-- No access follows an expression that ends. -/
theorem Closes.unaccessed {rest : List Char} (closes : Closes rest) : Unaccessed rest := by
  have other : ∀ c ∈ closers, c ∉ ['.', '['] := by decide
  exact fun c first => other c (closes c first)

/-- No operator follows an expression that ends. -/
theorem Closes.no_operator {rest : List Char} (closes : Closes rest) :
    ∀ level ∈ operatorLevels, ∀ c ∈ (skipBlank rest).head?, startsOperator level c = false := by
  have other : ∀ level ∈ operatorLevels, ∀ c ∈ closers, startsOperator level c = false := by decide
  exact fun level listed c first => other level listed c (closes c first)

/-- Whether a character is neither white space nor a prefix operator. -/
def startsOperand (c : Char) : Bool := !isBlank c && c != '!' && c != '-'

/-- The start of an operand is not white space. -/
theorem isBlank_of_startsOperand {c : Char} (starts : startsOperand c = true) :
    isBlank c = false := by
  simp only [startsOperand, Bool.and_eq_true, Bool.not_eq_true'] at starts
  exact starts.1.1

/-- A character of a name starts an operand. -/
theorem startsOperand_of_isNameChar {c : Char} (named : isNameChar c = true) :
    startsOperand c = true := by
  have none : ∀ c ∈ [' ', '\t', '\r', '\n', '!', '-'], separates c = true := by decide
  simp only [startsOperand, isBlank, Bool.and_eq_true, Bool.not_eq_true', Bool.or_eq_false_iff,
    beq_eq_false_iff_ne, bne_iff_ne]
  refine ⟨⟨⟨⟨⟨?_, ?_⟩, ?_⟩, ?_⟩, ?_⟩, ?_⟩
  all_goals
    rintro rfl
    rw [isNameChar_of_separates (none _ (by decide))] at named
    contradiction

section Readers

variable {expr : Reader Expr}

/-- White space before prefix operators is skipped. -/
theorem readPrefixOps_skipBlank (text : List Char) :
    readPrefixOps (skipBlank text) = readPrefixOps text := by
  induction text with
  | nil => rfl
  | cons c rest ih =>
    cases blank : isBlank c with
    | true =>
      have skipped : skipBlank (c :: rest) = skipBlank rest := by
        rw [skipBlank, List.dropWhile_cons, blank]
        rfl
      rw [skipped, ih, readPrefixOps, if_pos blank]
    | false => rw [skipBlank_cons blank]

/-- No prefix operators are read before the start of an operand. -/
theorem readPrefixOps_cons {c : Char} (starts : startsOperand c = true) (rest : List Char) :
    readPrefixOps (c :: rest) = ([], c :: rest) := by
  simp only [startsOperand, Bool.and_eq_true, Bool.not_eq_true', bne_iff_ne] at starts
  simp [readPrefixOps, starts]

/-- A level of operators is read after an operand of the tighter levels. -/
theorem binary_cons (level : List (List Char × BinaryOp))
    (tighter : List (List (List Char × BinaryOp))) (text : List Char) :
    binary expr (level :: tighter) text = (do
      let (left, rest) ← binary expr tighter text
      chain (binary expr tighter) level rest.length left rest) := rfl

/-- White space before operands is skipped. -/
theorem binary_skipBlank (levels : List (List (List Char × BinaryOp))) (text : List Char) :
    binary expr levels (skipBlank text) = binary expr levels text := by
  induction levels with
  | nil => rw [binary, unary, unary, readPrefixOps_skipBlank]
  | cons level tighter ih => rw [binary_cons, binary_cons, ih]

/-- A space before operands is skipped. -/
theorem binary_space (levels : List (List (List Char × BinaryOp))) (text : List Char) :
    binary expr levels (' ' :: text) = binary expr levels text := by
  have space : skipBlank (' ' :: text) = skipBlank text := rfl
  rw [← binary_skipBlank, space, binary_skipBlank]

/-- White space before an expression is skipped. -/
theorem unbounded_skipBlank (text : List Char) : unbounded (skipBlank text) = unbounded text := by
  rw [unbounded_eq, unbounded_eq text, conditional, conditional, binary_skipBlank]

/-- A space before an expression is skipped. -/
theorem unbounded_space (text : List Char) : unbounded (' ' :: text) = unbounded text := by
  have space : skipBlank (' ' :: text) = skipBlank text := rfl
  rw [← unbounded_skipBlank, space, unbounded_skipBlank]

/-- Nothing is skipped before a name. -/
theorem skipBlank_name {name : List Char} (named : isName name = true) (rest : List Char) :
    skipBlank (name ++ rest) = name ++ rest := by
  obtain ⟨⟨c, others, rfl, starts⟩, _⟩ := isName_cons named
  have operand := startsOperand_of_isNameChar (isNameChar_of_isNameStart starts)
  exact skipBlank_cons (isBlank_of_startsOperand operand) (others ++ rest)

/-- A name that is no literal word is read as a name or a call. -/
theorem atom_name {name rest : List Char} (named : isName name = true)
    (free : wordLiterals.lookup name = none) (outside : startsInName rest = false) :
    atom expr (name ++ rest) = nameOrCall expr (name ++ rest) := by
  have literal := readLiteral_name named free outside
  simp only [atom, skipBlank_name named, literal]
  obtain ⟨⟨c, others, rfl, starts⟩, _⟩ := isName_cons named
  split
  · simp_all
    contradiction
  · simp_all
    contradiction
  · simp_all
    contradiction
  · rfl

/-- An opening square bracket starts a list. -/
theorem atom_square {inner rest : List Char} {items : List Expr}
    (found : bracketed expr ']' inner = .ok (items, rest)) :
    atom expr ('[' :: inner) = .ok (.list items, rest) := by
  simp only [atom, skipBlank_cons (by decide : isBlank '[' = false), found,
    readLiteral_bracket (by decide : '[' ∈ brackets)]
  rfl

/-- An opening curly bracket starts a map. -/
theorem atom_curly {inner rest : List Char} {entries : List (String × Expr)}
    (found : bracketed (mapEntry expr) '\x7d' inner = .ok (entries, rest)) :
    atom expr ('\x7b' :: inner) = .ok (.map entries, rest) := by
  simp only [atom, skipBlank_cons (by decide : isBlank '\x7b' = false), found,
    readLiteral_bracket (by decide : '\x7b' ∈ brackets)]
  rfl

/-- An opening parenthesis starts an expression. -/
theorem atom_round {inner rest : List Char} {read : Expr}
    (found : enclosed expr ')' inner = .ok (read, rest)) :
    atom expr ('(' :: inner) = .ok (read, rest) := by
  simp only [atom, skipBlank_cons (by decide : isBlank '(' = false), found,
    readLiteral_bracket (by decide : '(' ∈ brackets)]
  rfl

/-- A prefix operator applies to the operand after it. -/
theorem unary_symbol (op : UnaryOp) (text : List Char) :
    unary expr (op.symbol.toList ++ text) = (do
      let (operand, rest) ← unary expr text
      return (.unary op operand, rest)) := by
  have ops : readPrefixOps (op.symbol.toList ++ text) =
      (op :: (readPrefixOps text).1, (readPrefixOps text).2) := by
    cases op <;> rfl
  rw [unary, unary, ops]
  simp only [bind_assoc, pure_bind, List.foldr_cons]

/-- Accesses are over where none starts. -/
theorem accesses_stop {rest : List Char} (ended : Unaccessed rest) (count : Nat) (base : Expr) :
    accesses expr count base rest = .ok (base, skipBlank rest) := by
  cases count with
  | zero => rfl
  | succ count =>
    rw [accesses]
    split
    · rename_i after skipped
      exact absurd (ended '.' (by rw [skipped]; rfl)) (by decide)
    · rename_i inner skipped
      exact absurd (ended '[' (by rw [skipped]; rfl)) (by decide)
    · rfl

/-- A level is over where no operator of it is read. -/
theorem chain_stop {operand : Reader Expr} {level : List (List Char × BinaryOp)} {rest : List Char}
    (ended : readOperator level (skipBlank rest) = none) (count : Nat) (left : Expr) :
    chain operand level count left rest = .ok (left, skipBlank rest) := by
  cases count with
  | zero => rfl
  | succ count => rw [chain, ended]

/-- Looser levels add nothing to what was read where none of their operators is. -/
theorem binary_append {looser tighter : List (List (List Char × BinaryOp))} {text rest : List Char}
    {read : Expr} (found : binary expr tighter text = .ok (read, skipBlank rest))
    (ended : ∀ level ∈ looser, readOperator level (skipBlank rest) = none) :
    binary expr (looser ++ tighter) text = .ok (read, skipBlank rest) := by
  induction looser with
  | nil => exact found
  | cons level looser ih =>
    have inner := ih fun level member => ended level (.tail _ member)
    have none := ended level (.head _)
    rw [← skipBlank_skipBlank] at none
    rw [List.cons_append, binary_cons, inner]
    exact (chain_stop none _ read).trans (by rw [skipBlank_skipBlank])

/-- No atom starts with a closing bracket. -/
theorem atom_closer {c : Char} (closer : c ∈ closingBrackets) (rest : List Char) :
    atom expr (c :: rest) = .error (.expected .name (c :: rest)) := by
  have other : ∀ c ∈ closingBrackets, isBlank c = false ∧ isNameStart c = false ∧
      c ∈ brackets ∧ c ≠ '(' ∧ c ≠ '[' ∧ c ≠ '\x7b' := by decide
  obtain ⟨visible, starts, bracket, round, square, curly⟩ := other c closer
  simp only [atom, skipBlank_cons visible, readLiteral_bracket bracket]
  split
  · simp_all
  · simp_all
  · simp_all
  · rw [nameOrCall, readName, starts]
    rfl

/-- An expression cannot be read where its first operand cannot. -/
theorem unbounded_error {text : List Char} {failure : Failure}
    (operand : unary unbounded text = .error failure) : unbounded text = .error failure := by
  have operands : ∀ levels, binary unbounded levels text = .error failure := by
    intro levels
    induction levels with
    | nil => exact operand
    | cons level tighter ih =>
      rw [binary_cons, ih]
      rfl
  rw [unbounded_eq, conditional, operands]
  rfl

/-- No expression starts with a closing bracket. -/
theorem unbounded_closer {c : Char} (closer : c ∈ closingBrackets) (rest : List Char) :
    unbounded (c :: rest) = .error (.expected .name (c :: rest)) := by
  have starts : ∀ c ∈ closingBrackets, startsOperand c = true := by decide
  apply unbounded_error
  rw [unary, readPrefixOps_cons (starts c closer)]
  simp only [accessed, atom_closer closer]
  rfl

/-- An expression is over after its operands where no question mark follows. -/
theorem unbounded_stop {text rest : List Char} {read : Expr}
    (found : binary unbounded operatorLevels text = .ok (read, rest)) (closes : Closes rest) :
    unbounded text = .ok (read, skipBlank rest) := by
  rw [unbounded_eq, conditional, found]
  simp only [bind, Except.bind]
  split
  · rename_i after asked
    exact absurd (closes '?' (by rw [asked]; rfl)) (by decide)
  · rfl

end Readers

section Equations

variable {expr : Reader Expr} {text rest after inner : List Char} {name : String}

/-- A name with arguments is a call. -/
theorem nameOrCall_call (named : readName text = some (name, rest))
    (opens : skipBlank rest = '(' :: inner) :
    nameOrCall expr text = (do
      let (arguments, rest) ← bracketed expr ')' inner
      return (.call (functionName name) arguments, rest)) := by
  simp only [nameOrCall, named, opens]

/-- A name without arguments stands for itself. -/
theorem nameOrCall_ident (named : readName text = some (name, rest))
    (no_call : ∀ inner, skipBlank rest ≠ '(' :: inner) :
    nameOrCall expr text = .ok (.ident name, rest) := by
  simp only [nameOrCall, named]

/-- There is no access, or a point or an opening square bracket starts one. -/
theorem access_cases (text : List Char) :
    Unaccessed text ∨ (∃ after, skipBlank text = '.' :: after) ∨
      ∃ inner, skipBlank text = '[' :: inner := by
  rw [Unaccessed]
  cases skipBlank text with
  | nil => exact .inl nofun
  | cons c rest =>
    by_cases point : c = '.'
    · exact .inr (.inl ⟨rest, by rw [point]⟩)
    · by_cases bracket : c = '['
      · exact .inr (.inr ⟨rest, by rw [bracket]⟩)
      · left
        simp [point, bracket]

/-- A point needs a name. -/
theorem accesses_point (skipped : skipBlank text = '.' :: after)
    (unnamed : readName (skipBlank after) = none) (count : Nat) (base : Expr) :
    accesses expr (count + 1) base text = .error (.expected .name (skipBlank after)) := by
  simp only [accesses, skipped, unnamed]

/-- A point and a name with arguments are a method. -/
theorem accesses_method (skipped : skipBlank text = '.' :: after)
    (named : readName (skipBlank after) = some (name, rest))
    (opens : skipBlank rest = '(' :: inner) (count : Nat) (base : Expr) :
    accesses expr (count + 1) base text = (do
      let (arguments, rest) ← bracketed expr ')' inner
      accesses expr count (methodCall base name arguments) rest) := by
  simp only [accesses, skipped, named, opens]

/-- A point and a name without arguments are a field. -/
theorem accesses_field (skipped : skipBlank text = '.' :: after)
    (named : readName (skipBlank after) = some (name, rest))
    (no_call : ∀ inner, skipBlank rest ≠ '(' :: inner) (count : Nat) (base : Expr) :
    accesses expr (count + 1) base text = accesses expr count (.field base name) rest := by
  simp only [accesses, skipped, named]

/-- An expression in square brackets is an index. -/
theorem accesses_index (skipped : skipBlank text = '[' :: inner) (count : Nat) (base : Expr) :
    accesses expr (count + 1) base text = (do
      let (key, rest) ← enclosed expr ']' inner
      accesses expr count (.index base key) rest) := by
  simp only [accesses, skipped]

end Equations

section Brackets

variable {α : Type} {item : Reader α} {print : α → List Char} {last : Char}

/-- A character is taken off the front of a text. -/
theorem closing_cons {c : Char} (visible : isBlank c = false) (rest : List Char) :
    closing c (c :: rest) = .ok rest := by
  rw [closing, skipBlank_cons visible]
  exact if_pos rfl

/-- Values with a comma and a space before each. -/
def further (print : α → List Char) (values : List α) : List Char :=
  values.flatMap fun value => ',' :: ' ' :: print value

/-- Values with a comma and a space between them. -/
def joined (print : α → List Char) : List α → List Char
  | [] => []
  | value :: values => print value ++ further print values

/-- There is a character for each further value. -/
theorem length_le_further (values : List α) : values.length ≤ (further print values).length := by
  induction values with
  | nil => exact Nat.le_refl _
  | cons value values ih =>
    rw [further, List.flatMap_cons, List.length_append, ← further]
    simp only [List.length_cons]
    omega

/-- What follows a value is a comma or the closing bracket. -/
theorem further_cons (print : α → List Char) (last : Char) (values : List α) (rest : List Char) :
    ∃ c after, c ∈ [',', last] ∧ further print values ++ last :: rest = c :: after := by
  cases values with
  | nil => exact ⟨last, rest, by simp, rfl⟩
  | cons value values => exact ⟨',', _, by simp, rfl⟩

/-- Further values read back. -/
theorem moreItems_further (visible : isBlank last = false) (apart : last ≠ ',')
    (values : List α)
    (reads : ∀ value ∈ values, ∀ c ∈ [',', last], ∀ rest,
      item (skipBlank (print value ++ c :: rest)) = .ok (value, c :: rest))
    (rest : List Char) (count : Nat) (enough : values.length ≤ count) :
    moreItems item count (further print values ++ last :: rest) = .ok (values, last :: rest) := by
  induction values generalizing count with
  | nil =>
    cases count with
    | zero => rfl
    | succ count =>
      rw [moreItems]
      split
      · rename_i after skipped
        rw [further, List.flatMap_nil, List.nil_append, skipBlank_cons visible] at skipped
        simp_all
      · rfl
  | cons value values ih =>
    cases count with
    | zero => contradiction
    | succ count =>
      have others := ih (fun value member => reads value (.tail _ member)) count
        (Nat.le_of_succ_le_succ enough)
      obtain ⟨c, after, next, tail⟩ := further_cons print last values rest
      have text : further print (value :: values) ++ last :: rest =
          ',' :: ' ' :: (print value ++ c :: after) := by
        rw [← tail]
        simp [further]
      have first := reads value (.head _) c next after
      have space : skipBlank (' ' :: (print value ++ c :: after)) =
          skipBlank (print value ++ c :: after) := rfl
      rw [text, moreItems, skipBlank_cons (by decide)]
      simp only [space, first]
      rw [← tail, others]
      rfl

/-- Values between brackets read back. -/
theorem bracketed_joined (visible : isBlank last = false) (apart : last ≠ ',') (values : List α)
    (reads : ∀ value ∈ values, ∀ c ∈ [',', last], ∀ rest,
      item (skipBlank (print value ++ c :: rest)) = .ok (value, c :: rest))
    (rest : List Char)
    (empty : ∃ wanted after, item (last :: rest) = .error (.expected wanted after)) :
    bracketed item last (joined print values ++ last :: rest) = .ok (values, rest) := by
  have read : items item (skipBlank (joined print values ++ last :: rest)) =
      .ok (values, last :: rest) := by
    cases values with
    | nil =>
      obtain ⟨wanted, after, missing⟩ := empty
      rw [joined, List.nil_append, skipBlank_cons visible, items, missing]
    | cons value values =>
      obtain ⟨c, after, next, tail⟩ := further_cons print last values rest
      have first := reads value (.head _) c next after
      have others := moreItems_further visible apart values
        (fun value member => reads value (.tail _ member)) rest (c :: after).length (by
          rw [← tail, List.length_append]
          exact Nat.le_trans (length_le_further values) (Nat.le_add_right _ _))
      rw [tail] at others
      rw [joined, List.append_assoc, tail, items, first]
      simp only [others]
      rfl
  rw [bracketed, read]
  simp only [bind, Except.bind, closing_cons visible]
  rfl

/-- The items of a list are joined. -/
theorem itemsText_eq (items : List Expr) : Expr.itemsText items = joined Expr.toText items := by
  induction items with
  | nil => rfl
  | cons item items ih =>
    cases items with
    | nil => simp [Expr.itemsText, joined, further]
    | cons other items =>
      rw [Expr.itemsText, ih]
      · simp [joined, further]
      · nofun

/-- The text of an entry of a map. -/
def entryText (entry : String × Expr) : List Char :=
  Expr.quoteText entry.1.toList ++ ':' :: ' ' :: entry.2.toText

/-- The entries of a map are joined. -/
theorem entriesText_eq (entries : List (String × Expr)) :
    Expr.entriesText entries = joined entryText entries := by
  induction entries with
  | nil => rfl
  | cons entry entries ih =>
    cases entries with
    | nil => simp [Expr.entriesText, joined, further, entryText]
    | cons other entries =>
      rw [Expr.entriesText, ih]
      · simp [joined, further, entryText]
      · nofun

/-- An expression between brackets reads back. -/
theorem enclosed_eq {text rest : List Char} {read : Expr} (visible : isBlank last = false)
    (found : unbounded text = .ok (read, last :: rest)) :
    enclosed unbounded last text = .ok (read, rest) := by
  rw [enclosed, unbounded_skipBlank, found]
  simp only [bind, Except.bind, closing_cons visible]
  rfl

end Brackets

end DecisionFlow.Source
