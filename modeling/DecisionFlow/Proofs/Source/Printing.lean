import DecisionFlow.Proofs.Source.RoundTrip
import DecisionFlow.Source.Compiler

/-!
# Printed sources

A printed expression is a source of its own: no white space or semicolon is taken off its ends, and
it is not introduced by `return`. Within the limits of nesting and depth, parsing the text of a
printable expression gives the expression (`parse_source`).
-/
namespace DecisionFlow

open Source Text

/-- Whether a character stays at the ends of a statement. -/
def Source.staysAtEnd (c : Char) : Bool := !isWhiteSpace c && c != ';'

/-- No character of a name is taken off the ends of a statement. -/
theorem Source.staysAtEnd_of_isNameChar {c : Char} (named : isNameChar c = true) :
    staysAtEnd c = true := by
  simp only [isNameChar, isAlphanumeric, Bool.or_eq_true, Bool.and_eq_true, beq_iff_eq] at named
  rcases named with ⟨visible, _⟩ | rfl
  · rw [staysAtEnd, visible, Bool.true_and, bne_iff_ne]
    rintro rfl
    contradiction
  · decide

/-- White space is trimmed off the start of a text with a visible end only. -/
theorem Source.trim_concat {d : Char} (visible : isWhiteSpace d = false) (before : List Char) :
    trim (before ++ [d]) = trimStart before ++ [d] := by
  have start : trimStart (before ++ [d]) = trimStart before ++ [d] := by
    rw [trimStart, trimStart, List.dropWhile_append]
    split
    · rename_i empty
      rw [List.isEmpty_iff.mp empty]
      simp [visible]
    · rfl
  rw [trim, start, trimEnd, List.reverse_concat, List.dropWhile_cons, visible]
  simp

/-- A text without white space at its ends, a semicolon at its end and a `return` before it. -/
structure Source.Bare (text : List Char) : Prop where
  /-- No white space comes first. -/
  first : ∀ c ∈ text.head?, isWhiteSpace c = false
  /-- Neither white space nor a semicolon comes last. -/
  last : ∀ c ∈ text.getLast?, staysAtEnd c = true
  /-- No `return` introduces it. -/
  introduced : afterKeyword? "return".toList text = none

/-- A bare text is its own expression. -/
theorem Source.Bare.split_eq {text : List Char} (bare : Bare text) :
    splitStatement text = (text, false) := by
  rcases List.eq_nil_or_concat text with rfl | ⟨before, d, rfl⟩
  · rfl
  · rw [List.concat_eq_append] at bare ⊢
    have stays := bare.last d List.getLast?_concat
    simp only [staysAtEnd, Bool.and_eq_true, Bool.not_eq_true', bne_iff_ne] at stays
    have start : trimStart before = before := by
      cases before with
      | nil => rfl
      | cons c before => rw [trimStart, List.dropWhile_cons, bare.first c rfl]; rfl
    have trimmed : trim (before ++ [d]) = before ++ [d] := by
      rw [trim_concat stays.1, start]
    have semicolon : dropSemicolon (before ++ [d]) = before ++ [d] := by
      rw [dropSemicolon, List.reverse_concat]
      split
      · simp_all
      · rfl
    have introduced := bare.introduced
    rw [splitStatement, trimmed, semicolon]
    simp only [introduced]

/-- A text that is its own statement: nothing is taken off its ends, and whatever follows it, it is
not introduced by `return`. -/
structure Source.Statement (text : List Char) : Prop where
  /-- The first character stays. -/
  first : ∃ c after, text = c :: after ∧ staysAtEnd c = true
  /-- The last character stays. -/
  last : ∃ before c, text = before ++ [c] ∧ staysAtEnd c = true
  /-- No `return` introduces it. -/
  bare : ∀ rest, startsInName rest = false → afterKeyword? "return".toList (text ++ rest) = none

namespace Source.Statement

/-- A word of name characters is a statement unless it is `return`. -/
theorem of_word {word : List Char} (all : ∀ c ∈ word, isNameChar c = true) (some_char : word ≠ [])
    (other : "return".toList ≠ word) : Statement word := by
  have letters : ∀ c ∈ "return".toList, isNameStart c = true := by decide
  refine ⟨?_, ?_, ?_⟩
  · obtain ⟨c, after, rfl⟩ := List.exists_cons_of_ne_nil some_char
    exact ⟨c, after, rfl, staysAtEnd_of_isNameChar (all c (.head _))⟩
  · refine ⟨word.dropLast, word.getLast some_char, ?_, ?_⟩
    · exact (List.dropLast_concat_getLast some_char).symm
    · exact staysAtEnd_of_isNameChar (all _ (List.getLast_mem some_char))
  · intro rest outside
    rw [afterKeyword_append (fun c member => isNameChar_of_isNameStart (letters c member)) all
      outside, if_neg other]

/-- A word of letters is a statement unless it is `return`. -/
theorem of_letters {word : List Char} (letters : ∀ c ∈ word, isNameStart c = true)
    (some_char : word ≠ []) (other : "return".toList ≠ word) : Statement word :=
  of_word (fun c member => isNameChar_of_isNameStart (letters c member)) some_char other

/-- The digits of a number are a statement. -/
theorem of_digits (n : Nat) : Statement (writeNat n) := by
  obtain ⟨c, digits, written, digit⟩ := writeNat_cons n
  refine of_word (fun c member => isNameChar_of_isDigit (isDigit_of_mem_writeNat member)) ?_ ?_
  · rw [written]
    exact List.cons_ne_nil c digits
  · rw [written]
    rintro same
    cases same
    contradiction

/-- A text that starts and ends with characters that stay is a statement when it cannot start with
`return`. -/
theorem of_ends {c d : Char} (inner : List Char) (first : staysAtEnd c = true)
    (last : staysAtEnd d = true) (other : c ≠ 'r') : Statement (c :: inner ++ [d]) where
  first := ⟨c, inner ++ [d], rfl, first⟩
  last := ⟨c :: inner, d, rfl, last⟩
  bare rest _ := by
    have word : "return".toList = ['r', 'e', 't', 'u', 'r', 'n'] := rfl
    simp [afterKeyword?, afterWord?, word, Ne.symm other]

/-- A statement stays one in front of more, when it is the only part of a name there. -/
theorem append {text more : List Char} {d : Char} (statement : Statement text)
    (outside : startsInName (more ++ [d]) = false) (last : staysAtEnd d = true) :
    Statement (text ++ (more ++ [d])) where
  first := by
    obtain ⟨c, after, rfl, first⟩ := statement.first
    exact ⟨c, after ++ (more ++ [d]), rfl, first⟩
  last := ⟨text ++ more, d, (List.append_assoc ..).symm, last⟩
  bare rest _ := by
    rw [List.append_assoc]
    refine statement.bare _ ?_
    cases more with
    | nil => exact outside
    | cons c more => exact outside

/-- A statement stays one in front of a space and a text that ends with a statement. -/
theorem append_space {text more : List Char} (first : Statement text) (between : List Char)
    (last : Statement more) : Statement (text ++ ' ' :: (between ++ more)) := by
  obtain ⟨before, d, rfl, stays⟩ := last.last
  have space : isNameChar ' ' = false := isNameChar_of_separates (by decide)
  have parts := append first
    (by exact space : startsInName ((' ' :: (between ++ before)) ++ [d]) = false) stays
  rwa [List.cons_append, List.append_assoc] at parts

/-- A statement stays one after a prefix operator. -/
theorem unary {text : List Char} (statement : Statement text) (op : UnaryOp) :
    Statement (op.symbol.toList ++ text) where
  first := by
    cases op with
    | not => exact ⟨'!', text, rfl, by decide⟩
    | neg => exact ⟨'-', text, rfl, by decide⟩
  last := by
    obtain ⟨before, d, rfl, last⟩ := statement.last
    exact ⟨op.symbol.toList ++ before, d, (List.append_assoc ..).symm, last⟩
  bare rest _ := by
    have word : "return".toList = ['r', 'e', 't', 'u', 'r', 'n'] := rfl
    cases op <;> simp [UnaryOp.symbol, afterKeyword?, afterWord?, word]

/-- A field of a statement is a statement. -/
theorem field {text name : List Char} (statement : Statement text) (named : isName name = true) :
    Statement (text ++ '.' :: name) := by
  obtain ⟨⟨c, others, rfl, _⟩, all⟩ := isName_cons named
  have point : isNameChar '.' = false := isNameChar_of_separates (by decide)
  have last := all _ (List.getLast_mem (List.cons_ne_nil c others))
  have parts := append statement
    (by exact point : startsInName ('.' :: (c :: others).dropLast ++ [_]) = false)
    (staysAtEnd_of_isNameChar last)
  rwa [List.cons_append, List.dropLast_concat_getLast] at parts

/-- A printable expression is a statement. -/
theorem of_printable {expr : Expr} (printable : expr.Printable) : Statement expr.toText := by
  have round : isNameChar '(' = false := isNameChar_of_separates (by decide)
  have square : isNameChar '[' = false := isNameChar_of_separates (by decide)
  induction printable with
  | null => exact of_letters (by decide) (by decide) (by decide)
  | bool value => cases value <;> exact of_letters (by decide) (by decide) (by decide)
  | @int value nonnegative =>
    have text : (Expr.int value).toText = writeInt64 value := rfl
    rw [text, (writeInt64_digits nonnegative).1]
    exact of_digits value.toInt.natAbs
  | string => exact of_ends _ (by decide) (by decide) (by decide)
  | list => exact of_ends _ (by decide) (by decide) (by decide)
  | map => exact of_ends _ (by decide) (by decide) (by decide)
  | @ident name named free =>
    obtain ⟨⟨c, others, text, _⟩, all⟩ := isName_cons named
    have written : (Expr.ident name).toText = name.toList := rfl
    rw [written]
    refine of_word all (by rw [text]; exact List.cons_ne_nil c others) ?_
    intro same
    exact free (by rw [← String.toList_inj.mp same]; decide)
  | field _ named _ ih => exact field ih named
  | @index base key _ _ _ ih _ =>
    rw [← List.append_nil (Expr.toText _), Expr.index_append]
    exact append ih (by exact square : startsInName (('[' :: key.toText) ++ [']']) = false)
      (by decide)
  | unary op _ ih => exact unary ih op
  | @binary op left right =>
    have parts := of_ends (c := '(') (d := ')')
      (left.toText ++ ' ' :: op.symbol.toList ++ ' ' :: right.toText)
      (by decide) (by decide) (by decide)
    rw [← List.append_nil (Expr.toText _), Expr.binary_append]
    simpa using parts
  | @ternary condition yes no =>
    have parts := of_ends (c := '(') (d := ')')
      (condition.toText ++ [' ', '?', ' '] ++ yes.toText ++ [' ', ':', ' '] ++ no.toText)
      (by decide) (by decide) (by decide)
    rw [← List.append_nil (Expr.toText _), Expr.ternary_append]
    simpa using parts
  | @call name arguments named free =>
    obtain ⟨⟨c, others, text, _⟩, all⟩ := isName_cons named
    have word : Statement name.toList := by
      refine of_word all (by rw [text]; exact List.cons_ne_nil c others) ?_
      intro same
      exact free (by rw [← String.toList_inj.mp same]; decide)
    rw [← List.append_nil (Expr.toText _), Expr.call_append]
    exact append word
      (by exact round : startsInName (('(' :: Expr.itemsText arguments) ++ [')']) = false)
      (by decide)

/-- A statement is bare. -/
theorem toBare {text : List Char} (statement : Statement text) : Bare text where
  first := by
    obtain ⟨c, after, rfl, stays⟩ := statement.first
    rw [staysAtEnd, Bool.and_eq_true, Bool.not_eq_true'] at stays
    rintro d first
    cases first
    exact stays.1
  last := by
    obtain ⟨before, d, rfl, stays⟩ := statement.last
    rw [List.getLast?_concat]
    rintro c last
    cases last
    exact stays
  introduced := by
    have bare := statement.bare [] rfl
    rwa [List.append_nil] at bare

/-- A statement is its own expression. -/
theorem split_eq {text : List Char} (statement : Statement text) :
    splitStatement text = (text, false) :=
  statement.toBare.split_eq

/-- A statement that is read as a whole is parsed, within the limits of nesting and depth. -/
theorem parse_eq {text : List Char} {expr : Expr} (statement : Statement text)
    (allowed : nestingAllowed text = true) (read : unbounded text = .ok (expr, []))
    (shallow : expr.depth ≤ depthLimit) : parse (String.ofList text) = .ok expr := by
  obtain ⟨c, after, same, _⟩ := statement.first
  have visible : text.isEmpty = false := by rw [same]; rfl
  have deep : ¬depthLimit < expr.depth := Nat.not_lt.mpr shallow
  rw [unbounded] at read
  rw [parse, String.toList_ofList, statement.split_eq, readBody, visible, allowed, read]
  simp [trim, trimStart, trimEnd, deep]

/-- A statement that cannot be read is refused where reading fails. -/
theorem parse_error {text : List Char} {failure : Failure} (statement : Statement text)
    (allowed : nestingAllowed text = true) (failed : unbounded text = .error failure) :
    parse (String.ofList text) = .error (.unreadable failure) := by
  obtain ⟨c, after, same, _⟩ := statement.first
  have visible : text.isEmpty = false := by rw [same]; rfl
  rw [unbounded] at failed
  rw [parse, String.toList_ofList, statement.split_eq, readBody, visible, allowed, failed]
  rfl

end Source.Statement

/-- The text of a printable expression is parsed to it, within the limits of nesting and depth. -/
theorem Source.parse_of_printable {expr : Expr} {text : List Char} (printable : expr.Printable)
    (same : expr.toText = text) (allowed : nestingAllowed text = true)
    (shallow : expr.depth ≤ depthLimit) : parse (String.ofList text) = .ok expr := by
  subst same
  have read := (ReadsBack.of_printable printable).whole_end
  exact (Statement.of_printable printable).parse_eq allowed read shallow

/-- Printing and parsing give a printable expression back, within the limits of nesting and
depth. -/
theorem Source.parse_source {expr : Expr} (printable : expr.Printable)
    (shallow : expr.depth ≤ depthLimit) (allowed : nestingAllowed expr.source.toList = true) :
    parse expr.source = .ok expr := by
  have statement := Statement.of_printable printable
  have read := (ReadsBack.of_printable printable).whole_end
  obtain ⟨c, after, text, _⟩ := statement.first
  have visible : expr.toText.isEmpty = false := by rw [text]; rfl
  rw [Expr.source, String.toList_ofList] at allowed
  rw [unbounded] at read
  have deep : ¬depthLimit < expr.depth := Nat.not_lt.mpr shallow
  rw [parse, Expr.source, String.toList_ofList, statement.split_eq, readBody, visible, allowed,
    read]
  simp [trim, trimStart, trimEnd, deep]

/-- A conditional with an escape, an access to a call and a prefix operator comes back. -/
theorem Source.parse_source_mixed :
    let listed : Expr := .binary .member (.ident "x_1") (.list [.int 30, .string "\\d\""])
    let call : Expr := .call "f" [.map [("k", .null)]]
    let expr : Expr :=
      .ternary listed (.index (.field call "return") (.unary .neg (.int 1))) (.bool true)
    expr.Printable ∧ parse expr.source = .ok expr := by
  intro listed call expr
  have first : listed.Printable := by
    refine .binary (by decide) (.ident (by decide) (by decide)) (.list ?_)
    simp only [List.forall_mem_cons]
    exact ⟨.int (by decide), .string (by decide), nofun⟩
  have base : call.Printable := by
    refine .call (by decide) (by decide) (by decide) ?_
    simp only [List.mem_singleton, forall_eq]
    refine .map (by decide) ?_
    simp only [List.mem_singleton, forall_eq]
    exact .null
  have printable : expr.Printable :=
    .ternary first (.index rfl (.field rfl (by decide) base) (.unary .neg (.int (by decide))))
      (.bool true)
  have shallow : expr.depth ≤ depthLimit := by
    simp [expr, listed, call, Expr.depth, Expr.deepest, Expr.children, depthLimit]
  have allowed : nestingAllowed expr.source.toList = true := by
    rw [Expr.source, String.toList_ofList]
    decide
  exact ⟨printable, parse_source printable shallow allowed⟩

end DecisionFlow
