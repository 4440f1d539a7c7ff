import DecisionFlow.Proofs.Source.Continuation

/-!
# Printed expressions read back

The text of a printable expression, in front of a rest that does not go on with it, is read as the
expression (`ReadsBack`). The induction is on the tree. An access is read in a loop over everything
that follows its base, so what is carried through it is not that a base is read but that the loop
is reached with the base in hand; prefix operators are outside of that loop.
-/
namespace DecisionFlow

open Source Text

/-- An expression whose text is read as itself. -/
structure ReadsBack (expr : Expr) : Prop where
  /-- Anything but a prefix operator starts an operand. -/
  starts : expr.isUnary = false → ∀ rest, ∃ c after, expr.toText ++ rest = c :: after ∧
    startsOperand c = true
  /-- The accesses after anything but a prefix operator go on with it. -/
  reached : expr.isUnary = false → ∀ rest, Ends rest → ∃ count, rest.length ≤ count ∧
    accessed unbounded (expr.toText ++ rest) = accesses unbounded count expr rest
  /-- The expression is an operand. -/
  operand : ∀ rest, Ends rest → Unaccessed rest →
    unary unbounded (expr.toText ++ rest) = .ok (expr, skipBlank rest)

namespace ReadsBack

/-- Where no prefix operator starts it is enough that the accesses go on. -/
theorem of_reached {expr : Expr}
    (starts : ∀ rest, ∃ c after, expr.toText ++ rest = c :: after ∧ startsOperand c = true)
    (reached : ∀ rest, Ends rest → ∃ count, rest.length ≤ count ∧
      accessed unbounded (expr.toText ++ rest) = accesses unbounded count expr rest) :
    ReadsBack expr where
  starts _ := starts
  reached _ := reached
  operand rest ends ended := by
    obtain ⟨count, _, found⟩ := reached rest ends
    obtain ⟨c, after, text, first⟩ := starts rest
    rw [text] at found ⊢
    rw [unary, readPrefixOps_cons first]
    simp only [found, accesses_stop ended]
    rfl

/-- An atom is an operand, and its accesses go on. -/
theorem of_atom {expr : Expr}
    (starts : ∀ rest, ∃ c after, expr.toText ++ rest = c :: after ∧ startsOperand c = true)
    (found : ∀ rest, Ends rest → atom unbounded (expr.toText ++ rest) = .ok (expr, rest)) :
    ReadsBack expr := by
  refine of_reached starts fun rest ends => ⟨rest.length, Nat.le_refl _, ?_⟩
  simp only [accessed, found rest ends]
  rfl

/-- A literal is an operand, and its accesses go on. -/
theorem of_literal {expr : Expr}
    (starts : ∀ rest, ∃ c after, expr.toText ++ rest = c :: after ∧ startsOperand c = true)
    (found : ∀ rest, Ends rest → readLiteral (expr.toText ++ rest) = some (expr, rest)) :
    ReadsBack expr := by
  refine of_atom starts fun rest ends => ?_
  have literal := found rest ends
  obtain ⟨c, after, text, first⟩ := starts rest
  rw [text] at literal ⊢
  simp only [atom, skipBlank_cons (isBlank_of_startsOperand first), literal]

/-- An expression is an operand of any operators in front of a rest without them. -/
theorem binary {expr : Expr} (back : ReadsBack expr) {rest : List Char} (ends : Ends rest)
    (ended : Unaccessed rest) {levels : List (List (List Char × BinaryOp))}
    (listed : ∀ level ∈ levels, level ∈ operatorLevels)
    (other : ∀ level ∈ levels, ∀ c ∈ (skipBlank rest).head?, startsOperator level c = false) :
    binary unbounded levels (expr.toText ++ rest) = .ok (expr, skipBlank rest) := by
  have operand : Source.binary unbounded [] (expr.toText ++ rest) = .ok (expr, skipBlank rest) :=
    back.operand rest ends ended
  have found := binary_append operand fun level member =>
    readOperator_eq_none (listed level member) (other level member)
  rwa [List.append_nil] at found

/-- An expression is an operand in front of a space and a character that starts none of the
operators. -/
theorem before_space {expr : Expr} (back : ReadsBack expr) {c : Char} (visible : isBlank c = false)
    (apart : c ∉ ['(', '.', '[']) {levels : List (List (List Char × BinaryOp))}
    (listed : ∀ level ∈ levels, level ∈ operatorLevels)
    (other : ∀ level ∈ levels, startsOperator level c = false) (rest : List Char) :
    Source.binary unbounded levels (expr.toText ++ ' ' :: c :: rest) = .ok (expr, c :: rest) := by
  have space : skipBlank (' ' :: c :: rest) = c :: rest := skipBlank_cons visible rest
  simp only [List.mem_cons, List.not_mem_nil, or_false, not_or] at apart
  have ended : Unaccessed (' ' :: c :: rest) := by
    rw [Unaccessed, space]
    simp [apart]
  rw [back.binary (ends_space visible apart.1 rest) ended listed, space]
  rw [space]
  simpa using other

/-- An expression is an operand of any operators in front of a closing character. -/
theorem before_closer {expr : Expr} (back : ReadsBack expr) {c : Char} (closer : c ∈ closers)
    {levels : List (List (List Char × BinaryOp))}
    (listed : ∀ level ∈ levels, level ∈ operatorLevels) (rest : List Char) :
    Source.binary unbounded levels (expr.toText ++ c :: rest) = .ok (expr, c :: rest) := by
  have visible : ∀ c ∈ closers, isBlank c = false := by decide
  have closes := closes_cons closer rest
  rw [back.binary closes.ends closes.unaccessed listed, skipBlank_cons (visible c closer)]
  exact fun level member => closes.no_operator level (listed level member)

/-- An expression is read as a whole in front of a closing character. -/
theorem whole {expr : Expr} (back : ReadsBack expr) {c : Char} (closer : c ∈ closers)
    (rest : List Char) : unbounded (expr.toText ++ c :: rest) = .ok (expr, c :: rest) := by
  have visible : ∀ c ∈ closers, isBlank c = false := by decide
  have found := back.before_closer closer (fun _ member => member) rest
  rw [unbounded_stop found (closes_cons closer rest), skipBlank_cons (visible c closer)]

/-- An expression is read as a whole at the end of a text. -/
theorem whole_end {expr : Expr} (back : ReadsBack expr) :
    unbounded expr.toText = .ok (expr, []) := by
  have closes : Closes [] := nofun
  have found := back.binary closes.ends closes.unaccessed (fun _ member => member)
    closes.no_operator
  rw [List.append_nil] at found
  exact unbounded_stop found closes

/-- Items between brackets read back. -/
theorem bracketed {items : List Expr} (each : ∀ item ∈ items, ReadsBack item) {last : Char}
    (bracket : last ∈ [')', ']']) (rest : List Char) :
    Source.bracketed unbounded last (Expr.itemsText items ++ last :: rest) = .ok (items, rest) := by
  have facts : ∀ c ∈ [')', ']'], isBlank c = false ∧ c ≠ ',' ∧ c ∈ closers ∧
      c ∈ closingBrackets := by decide
  obtain ⟨visible, apart, closer, closing⟩ := facts last bracket
  rw [itemsText_eq]
  refine bracketed_joined visible apart items ?_ rest ⟨_, _, unbounded_closer closing rest⟩
  intro item member c next rest
  have ends : c ∈ closers := by
    simp only [List.mem_cons, List.not_mem_nil, or_false] at next
    rcases next with rfl | rfl
    · decide
    · exact closer
  rw [unbounded_skipBlank]
  exact (each item member).whole ends rest

/-- An entry of a map reads back. -/
theorem mapEntry {key : String} {value : Expr} (keeps : KeepsBackslashes key.toList)
    (back : ReadsBack value) {c : Char} (closer : c ∈ closers) (rest : List Char) :
    Source.mapEntry unbounded (skipBlank (entryText (key, value) ++ c :: rest)) =
      .ok ((key, value), c :: rest) := by
  have text : entryText (key, value) ++ c :: rest =
      Expr.quoteText key.toList ++ ':' :: ' ' :: (value.toText ++ c :: rest) := by
    simp [entryText]
  have literal := readText_append keeps (':' :: ' ' :: (value.toText ++ c :: rest))
  have quoted : ∀ rest, skipBlank (Expr.quoteText key.toList ++ rest) =
      Expr.quoteText key.toList ++ rest := by
    intro rest
    rw [Expr.quoteText, List.append_assoc, List.cons_append]
    exact skipBlank_cons (by decide) _
  have found := back.whole closer rest
  rw [text, quoted, Source.mapEntry, quoted]
  simp only [mapKey, literal, bind, Except.bind, closing_cons (by decide : isBlank ':' = false),
    unbounded_space, found, String.ofList_toList]
  rfl

/-- Entries between brackets read back. -/
theorem bracketed_entries {entries : List (String × Expr)}
    (keeps : ∀ entry ∈ entries, KeepsBackslashes entry.1.toList)
    (each : ∀ entry ∈ entries, ReadsBack entry.2) (rest : List Char) :
    Source.bracketed (Source.mapEntry unbounded) '\x7d'
      (Expr.entriesText entries ++ '\x7d' :: rest) = .ok (entries, rest) := by
  have empty : Source.mapEntry unbounded ('\x7d' :: rest) =
      .error (.expected .name ('\x7d' :: rest)) := rfl
  rw [entriesText_eq]
  refine bracketed_joined (by decide) (by decide) entries ?_ rest ⟨_, _, empty⟩
  intro entry member c next rest
  have closer : ∀ c ∈ [',', '\x7d'], c ∈ closers := by decide
  exact mapEntry (keeps entry member) (each entry member) (closer c next) rest

/-- A literal word reads back. -/
theorem word {c : Char} {others : List Char} {expr : Expr} (text : expr.toText = c :: others)
    (letters : ∀ d ∈ c :: others, isNameStart d = true)
    (listed : wordLiterals.lookup (c :: others) = some expr) : ReadsBack expr := by
  have all : ∀ d ∈ c :: others, isNameChar d = true :=
    fun d member => isNameChar_of_isNameStart (letters d member)
  have first := startsOperand_of_isNameChar (all c (.head _))
  refine of_literal (fun rest => ⟨c, others ++ rest, by rw [text]; rfl, first⟩) fun rest ends => ?_
  rw [text]
  exact readLiteral_word all ends.name listed

/-- An integer that is not negative reads back. -/
theorem int {value : Int64} (nonnegative : 0 ≤ value) : ReadsBack (.int value) := by
  obtain ⟨c, digits, written, digit⟩ := writeInt64_cons nonnegative
  have text : (Expr.int value).toText = c :: digits := written
  have first := startsOperand_of_isNameChar (isNameChar_of_isDigit digit)
  exact of_literal (fun rest => ⟨c, digits ++ rest, by rw [text]; rfl, first⟩)
    fun rest ends => readLiteral_int nonnegative ends

/-- A text that keeps its backslashes reads back. -/
theorem string {value : String} (keeps : KeepsBackslashes value.toList) :
    ReadsBack (.string value) := by
  refine of_literal (fun rest => ⟨'"', _, rfl, by decide⟩) fun rest ends => ?_
  have literal := readLiteral_text keeps rest
  rwa [String.ofList_toList] at literal

/-- A list of expressions that read back reads back. -/
theorem list {items : List Expr} (each : ∀ item ∈ items, ReadsBack item) :
    ReadsBack (.list items) := by
  refine of_atom (fun rest => ⟨_, _, Expr.list_append rest items, by decide⟩) fun rest ends => ?_
  rw [Expr.list_append]
  exact atom_square (bracketed each (by decide) rest)

/-- A map whose expressions read back and whose keys keep their backslashes reads back. -/
theorem map {entries : List (String × Expr)}
    (keeps : ∀ entry ∈ entries, KeepsBackslashes entry.1.toList)
    (each : ∀ entry ∈ entries, ReadsBack entry.2) : ReadsBack (.map entries) := by
  refine of_atom (fun rest => ⟨_, _, Expr.map_append rest entries, by decide⟩) fun rest ends => ?_
  rw [Expr.map_append]
  exact atom_curly (bracketed_entries keeps each rest)

/-- No name but a reserved one is a literal word. -/
theorem lookup_eq_none {name : String} (free : name ∉ reservedNames) :
    wordLiterals.lookup name.toList = none := by
  have words : ∀ literal ∈ wordLiterals, String.ofList literal.1 ∈ reservedNames := by decide
  rw [List.lookup_eq_none_iff]
  intro literal listed
  rw [bne_iff_ne]
  intro same
  have reserved := words literal listed
  rw [← same, String.ofList_toList] at reserved
  exact free reserved

/-- A name in front of a rest starts an operand. -/
theorem name_starts {name : List Char} (named : isName name = true) (rest : List Char) :
    ∃ c after, name ++ rest = c :: after ∧ startsOperand c = true := by
  obtain ⟨⟨c, others, rfl, starts⟩, _⟩ := isName_cons named
  exact ⟨c, others ++ rest, rfl, startsOperand_of_isNameChar (isNameChar_of_isNameStart starts)⟩

/-- A name that is not reserved reads back. -/
theorem ident {name : String} (named : isName name.toList = true) (free : name ∉ reservedNames) :
    ReadsBack (.ident name) := by
  refine of_atom (name_starts named) fun rest ends => ?_
  have text : (Expr.ident name).toText = name.toList := rfl
  have read := readName_append named ends.name
  rw [text, atom_name named (lookup_eq_none free) ends.name, nameOrCall_ident read ends.no_call,
    String.ofList_toList]

/-- No function name but a converted one means another function. -/
theorem functionName_eq {name : String} (kept : name ∉ convertedNames) :
    functionName name = name := by
  simp only [convertedNames, List.mem_cons, List.not_mem_nil, or_false, not_or] at kept
  unfold functionName
  split <;> simp_all

/-- A call of expressions that read back reads back. -/
theorem call {name : String} {arguments : List Expr} (named : isName name.toList = true)
    (free : name ∉ reservedNames) (kept : name ∉ convertedNames)
    (each : ∀ argument ∈ arguments, ReadsBack argument) : ReadsBack (.call name arguments) := by
  have bracket : isNameChar '(' = false := isNameChar_of_separates (by decide)
  have outside : ∀ inner, startsInName ('(' :: inner) = false := fun _ => bracket
  refine of_atom (fun rest => ?_) fun rest ends => ?_
  · rw [Expr.call_append]
    exact name_starts named _
  · have inner := bracketed each (by decide : ')' ∈ [')', ']']) rest
    have read := readName_append named (outside (Expr.itemsText arguments ++ ')' :: rest))
    rw [Expr.call_append, atom_name named (lookup_eq_none free) (outside _),
      nameOrCall_call read (skipBlank_cons (by decide) _), inner, String.ofList_toList]
    simp only [functionName_eq kept]
    rfl

/-- A field of an expression that reads back reads back. -/
theorem field {base : Expr} {name : String} (binds : base.isUnary = false)
    (named : isName name.toList = true) (back : ReadsBack base) :
    ReadsBack (.field base name) := by
  refine of_reached (fun rest => ?_) fun rest ends => ?_
  · rw [Expr.field_append]
    exact back.starts binds _
  · obtain ⟨count, enough, found⟩ := back.reached binds _ (ends_point named rest)
    cases count with
    | zero => contradiction
    | succ count =>
      refine ⟨count, ?_, ?_⟩
      · simp only [List.length_cons, List.length_append] at enough
        omega
      · have read := readName_append named ends.name
        rw [← skipBlank_name named] at read
        rw [Expr.field_append, found,
          accesses_field (skipBlank_cons (by decide) _) read ends.no_call, String.ofList_toList]

/-- An expression that reads back reads back at an index that does. -/
theorem index {base key : Expr} (binds : base.isUnary = false) (back : ReadsBack base)
    (inner : ReadsBack key) : ReadsBack (.index base key) := by
  refine of_reached (fun rest => ?_) fun rest ends => ?_
  · rw [Expr.index_append]
    exact back.starts binds _
  · have opens : Ends ('[' :: (key.toText ++ ']' :: rest)) := by
      have outside : isNameChar '[' = false := isNameChar_of_separates (by decide)
      refine .of_head outside (by decide) ?_
      rw [skipBlank_cons (by decide)]
      simp
    obtain ⟨count, enough, found⟩ := back.reached binds _ opens
    have enclosed := enclosed_eq (by decide : isBlank ']' = false)
      (inner.whole (by decide : ']' ∈ closers) rest)
    cases count with
    | zero => contradiction
    | succ count =>
      refine ⟨count, ?_, ?_⟩
      · simp only [List.length_cons, List.length_append] at enough
        omega
      · rw [Expr.index_append, found, accesses_index (skipBlank_cons (by decide) _), enclosed]
        rfl

/-- A prefix operator with an operand that reads back reads back. -/
theorem unary (op : UnaryOp) {operand : Expr} (back : ReadsBack operand) :
    ReadsBack (.unary op operand) where
  starts := nofun
  reached := nofun
  operand rest ends ended := by
    rw [Expr.unary_append, unary_symbol, back.operand rest ends ended]
    rfl

/-- The symbol of an operator is visible and neither starts arguments nor an access. -/
theorem symbol_cons (op : BinaryOp) : ∃ c more, op.symbol.toList = c :: more ∧
    isBlank c = false ∧ c ∉ ['(', '.', '['] := by
  cases op <;> exact ⟨_, _, rfl, by decide, by decide⟩

/-- An operator with operands that read back is read in front of a closing parenthesis. -/
theorem operation {op : BinaryOp} {left right : Expr} (spelt : op ∉ methodOperators)
    (first : ReadsBack left) (second : ReadsBack right) (rest : List Char) :
    unbounded (left.toText ++ ' ' :: (op.symbol.toList ++ ' ' :: (right.toText ++ ')' :: rest))) =
      .ok (.binary op left right, ')' :: rest) := by
  obtain ⟨level, tighter, levels, read, other⟩ := readOperator_symbol spelt
  obtain ⟨c, more, symbol, visible, apart⟩ := symbol_cons op
  have listed : ∀ inner ∈ level :: tighter, inner ∈ operatorLevels := by
    rw [← levels]
    exact fun inner member => List.mem_of_mem_drop member
  have closes : Closes (')' :: rest) := closes_cons (by decide) rest
  have closing : skipBlank (')' :: rest) = ')' :: rest := skipBlank_cons (by decide) rest
  have ended : ∀ inner ∈ operatorLevels, readOperator inner (skipBlank (')' :: rest)) = none :=
    fun inner member => readOperator_eq_none member (closes.no_operator inner member)
  have left_read := first.before_space visible apart
    (fun inner member => listed inner (.tail _ member))
    (fun inner member => other inner member c (by rw [symbol]; rfl))
    (more ++ ' ' :: (right.toText ++ ')' :: rest))
  have right_read := second.before_closer (by decide : ')' ∈ closers)
    (fun inner member => listed inner (.tail _ member)) rest
  have operator := read (right.toText ++ ')' :: rest)
  rw [symbol, List.cons_append] at operator
  -- The tight levels read the left operand, the level of the operator reads on.
  have here : Source.binary unbounded (level :: tighter)
      (left.toText ++ ' ' :: c :: (more ++ ' ' :: (right.toText ++ ')' :: rest))) =
      .ok (.binary op left right, skipBlank (')' :: rest)) := by
    rw [binary_cons, left_read]
    simp only [bind, Except.bind, List.length_cons, chain, skipBlank_cons visible, operator,
      binary_space, right_read]
    exact chain_stop (ended level (listed level (.head _))) _ _
  have looser : ∀ inner ∈ operatorLevels.take (looserLevels op),
      readOperator inner (skipBlank (')' :: rest)) = none :=
    fun inner member => ended inner (List.mem_of_mem_take member)
  have all := binary_append here looser
  rw [← levels, List.take_append_drop] at all
  rw [symbol, List.cons_append, unbounded_stop all (by rwa [closing]), closing, closing]

/-- An operator with operands that read back reads back. -/
theorem operator {op : BinaryOp} {left right : Expr} (spelt : op ∉ methodOperators)
    (first : ReadsBack left) (second : ReadsBack right) : ReadsBack (.binary op left right) := by
  refine of_atom (fun rest => ⟨_, _, Expr.binary_append rest op left right, by decide⟩)
    fun rest ends => ?_
  rw [Expr.binary_append]
  exact atom_round (enclosed_eq (by decide) (operation spelt first second rest))

/-- A conditional of expressions that read back is read in front of a closing parenthesis. -/
theorem branching {condition yes no : Expr} (first : ReadsBack condition) (second : ReadsBack yes)
    (third : ReadsBack no) (rest : List Char) :
    unbounded (condition.toText ++ ' ' :: '?' :: ' ' ::
        (yes.toText ++ ' ' :: ':' :: ' ' :: (no.toText ++ ')' :: rest))) =
      .ok (.ternary condition yes no, ')' :: rest) := by
  have asked := first.before_space (by decide : isBlank '?' = false) (by decide)
    (fun _ member => member) (by decide)
    (' ' :: (yes.toText ++ ' ' :: ':' :: ' ' :: (no.toText ++ ')' :: rest)))
  have yes_read := second.before_space (by decide : isBlank ':' = false) (by decide)
    (fun _ member => member) (by decide) (' ' :: (no.toText ++ ')' :: rest))
  have yes_whole := unbounded_stop yes_read (closes_cons (by decide) _)
  have no_whole := third.whole (by decide : ')' ∈ closers) rest
  rw [unbounded_eq, conditional, asked]
  simp only [bind, Except.bind, skipBlank_cons (by decide : isBlank '?' = false), unbounded_space,
    yes_whole, skipBlank_cons (by decide : isBlank ':' = false),
    closing_cons (by decide : isBlank ':' = false), unbounded_skipBlank, no_whole]
  rfl

/-- A conditional of expressions that read back reads back. -/
theorem ternary {condition yes no : Expr} (first : ReadsBack condition) (second : ReadsBack yes)
    (third : ReadsBack no) : ReadsBack (.ternary condition yes no) := by
  refine of_atom (fun rest => ⟨_, _, Expr.ternary_append rest condition yes no, by decide⟩)
    fun rest ends => ?_
  rw [Expr.ternary_append]
  exact atom_round (enclosed_eq (by decide) (branching first second third rest))

/-- Every printable expression reads back. -/
theorem of_printable {expr : Expr} (printable : expr.Printable) : ReadsBack expr := by
  induction printable with
  | null => exact word rfl (by decide) rfl
  | bool value => cases value <;> exact word rfl (by decide) rfl
  | int nonnegative => exact int nonnegative
  | string keeps => exact string keeps
  | list _ ih => exact list ih
  | map keeps _ ih => exact map keeps ih
  | ident named free => exact ident named free
  | field binds named _ ih => exact field binds named ih
  | index binds _ _ ih inner => exact index binds ih inner
  | unary op _ ih => exact unary op ih
  | binary spelt _ _ first second => exact operator spelt first second
  | ternary _ _ _ first second third => exact ternary first second third
  | call named free kept _ ih => exact call named free kept ih

end ReadsBack

end DecisionFlow
