import DecisionFlow.Proofs.Expr.Depth
import DecisionFlow.Proofs.Outcome
import DecisionFlow.Proofs.Source.Parenthesised
import Mathlib.Data.List.TakeWhile

/-!
# Printed text literals

A text is printed between double quotes, where its own double quotes are escaped and everything else
stays as it is. The reader knows more escapes than that one, so a text is read back from its literal
only when it keeps its backslashes (`parse_text_iff`). A backslash that changes the character after
it is lost. Before a quote or at the end of a text it moves the end of the literal, and whatever is
read off the rest then makes no literal of it.
-/
namespace DecisionFlow.Source

open DecisionFlow.Text

/-- The inside of the literal that a text is printed as. -/
def insideText (text : List Char) : List Char :=
  text.flatMap fun c => if c = '"' then ['\\', '"'] else [c]

/-- A quote is escaped, and read as itself. -/
theorem readQuoted_inside_quote (text rest : List Char) :
    readQuoted '"' (insideText ('"' :: text) ++ rest) =
      (readQuoted '"' (insideText text ++ rest)).map fun (value, rest) => ('"' :: value, rest) := by
  simp [insideText, readQuoted, unescape]

/-- A character that is neither a quote nor a backslash is read as itself. -/
theorem readQuoted_inside_plain {c : Char} (other : c ≠ '"') (plain : c ≠ '\\')
    (text rest : List Char) :
    readQuoted '"' (insideText (c :: text) ++ rest) =
      (readQuoted '"' (insideText text ++ rest)).map fun (value, rest) => (c :: value, rest) := by
  have same : insideText (c :: text) ++ rest = c :: (insideText text ++ rest) := by
    simp [insideText, other]
  rw [same, readQuoted.eq_def]
  simp only [other, plain, if_false]

/-- A backslash is read together with the character after it, when that is no quote. -/
theorem readQuoted_inside_escape {next : Char} (other : next ≠ '"') (text rest : List Char) :
    readQuoted '"' (insideText ('\\' :: next :: text) ++ rest) =
      (readQuoted '"' (insideText text ++ rest)).map
        fun (value, rest) => (unescape next ++ value, rest) := by
  simp [insideText, readQuoted, other]

/-- A quote ends the literal after a backslash, which takes the one that is to escape the quote. -/
theorem readQuoted_inside_ends (text rest : List Char) :
    readQuoted '"' (insideText ('\\' :: '"' :: text) ++ rest) =
      some (['\\'], insideText text ++ rest) := by
  have ends : readQuoted '"' ('"' :: (insideText text ++ rest)) =
      some ([], insideText text ++ rest) := by
    rw [readQuoted.eq_def]
    exact if_pos rfl
  have same : insideText ('\\' :: '"' :: text) ++ rest =
      '\\' :: '\\' :: '"' :: (insideText text ++ rest) := by
    simp [insideText]
  rw [same, readQuoted, ends]
  rfl

/-- What a backslash changes is one character. -/
theorem length_unescape {c : Char} (changed : c ∈ escapable) : (unescape c).length = 1 := by
  have all : ∀ c ∈ escapable, (unescape c).length = 1 := by decide
  exact all c changed

/-- A text that starts with a backslash keeps it when it does not change the next character. -/
theorem keepsBackslashes_escape {next : Char} {text : List Char} :
    KeepsBackslashes ('\\' :: next :: text) ↔ next ∉ escapable ∧ KeepsBackslashes text := by
  have listed : '\\' ∈ escapable := by decide
  have head : (next :: text).head?.any (· ∉ escapable) ↔ next ∉ escapable := by simp
  rw [keepsBackslashes_cons, keepsBackslashes_cons, head]
  constructor
  · exact fun ⟨kept, _, further⟩ => ⟨kept rfl, further⟩
  · exact fun ⟨kept, further⟩ =>
      ⟨fun _ => kept, fun same => absurd (same ▸ listed) kept, further⟩

/-- A literal that ends where the printed text ends has no more characters than the text, and as
many only when the text keeps its backslashes. -/
theorem readQuoted_inside_whole {text value : List Char}
    (read : readQuoted '"' (insideText text ++ ['"']) = some (value, [])) :
    value.length ≤ text.length ∧ (text.length ≤ value.length → KeepsBackslashes text) := by
  induction length : text.length using Nat.strongRecOn generalizing text value with
  | ind size ih =>
    subst length
    cases text with
    | nil =>
      cases read
      exact ⟨Nat.le_refl _, fun _ => by decide⟩
    | cons c text =>
      -- A character other than a backslash is one character of the literal, escaped or not.
      have single (plain : c ≠ '\\')
          (found : (readQuoted '"' (insideText text ++ ['"'])).map
            (fun (value, rest) => (c :: value, rest)) = some (value, [])) :
          value.length ≤ text.length + 1 ∧
            (text.length + 1 ≤ value.length → KeepsBackslashes (c :: text)) := by
        obtain ⟨⟨inside, _⟩, found, same⟩ := Option.map_eq_some_iff.mp found
        cases same
        obtain ⟨shorter, keeps⟩ := ih text.length (Nat.lt_succ_self _) found rfl
        refine ⟨Nat.succ_le_succ shorter, fun enough => keepsBackslashes_cons.mpr ⟨?_, ?_⟩⟩
        · exact fun same => absurd same plain
        · exact keeps (Nat.le_of_succ_le_succ enough)
      by_cases quote : c = '"'
      · subst quote
        rw [readQuoted_inside_quote] at read
        exact single (by decide) read
      · by_cases backslash : c = '\\'
        · subst backslash
          cases text with
          | nil => contradiction
          | cons next after =>
            by_cases ends : next = '"'
            · rw [ends, readQuoted_inside_ends] at read
              have left : insideText after ++ ['"'] = [] := congrArg Prod.snd (Option.some.inj read)
              exact absurd left (List.concat_ne_nil _ _)
            · rw [readQuoted_inside_escape ends] at read
              obtain ⟨⟨inside, _⟩, found, same⟩ := Option.map_eq_some_iff.mp read
              cases same
              have less : after.length < after.length + 2 := by omega
              obtain ⟨shorter, keeps⟩ := ih after.length less found rfl
              rw [List.length_append, List.length_cons, List.length_cons, keepsBackslashes_escape]
              by_cases changed : next ∈ escapable
              · have one := length_unescape changed
                exact ⟨by omega, fun enough => by omega⟩
              · have two : (unescape next).length = 2 := by rw [unescape_eq changed]; rfl
                exact ⟨by omega, fun enough => ⟨changed, keeps (by omega)⟩⟩
        · rw [readQuoted_inside_plain quote backslash] at read
          exact single backslash read

/-- A text is the inside of its literal when it keeps its backslashes, and only then. -/
theorem readQuoted_inside_iff {text : List Char} :
    readQuoted '"' (insideText text ++ ['"']) = some (text, []) ↔ KeepsBackslashes text := by
  constructor
  · exact fun read => (readQuoted_inside_whole read).2 (Nat.le_refl _)
  · exact fun keeps => readQuoted_append keeps []

/-- The inside of a text literal adds nothing to the nesting of what follows it. -/
theorem Scan.staysWithin_quoted {limit brackets ternaries : Nat} {quote : Char}
    (other : quote ≠ '\\') {text rest value : List Char}
    (read : readQuoted quote text = some (value, rest)) (fits : brackets + ternaries ≤ limit)
    (within : ({ brackets, ternaries } : Scan).staysWithin limit rest = true) :
    ({ brackets, ternaries, quote := .inside quote } : Scan).staysWithin limit text = true := by
  fun_induction readQuoted quote text generalizing value with
  | case1 => contradiction
  | case2 rest' =>
    cases read
    refine staysWithin_cons.mpr ?_
    simp only [step, other, if_false, if_true]
    exact ⟨fits, within⟩
  | case3 => contradiction
  | case4 _ escaped after ih =>
    obtain ⟨⟨inside, _⟩, found, same⟩ := Option.map_eq_some_iff.mp read
    cases same
    refine staysWithin_cons.mpr ⟨?_, staysWithin_cons.mpr ⟨?_, ?_⟩⟩
    all_goals simp only [step, if_true]
    · exact fits
    · exact fits
    · exact ih found
  | case5 c after closes escapes ih =>
    obtain ⟨⟨inside, _⟩, found, same⟩ := Option.map_eq_some_iff.mp read
    cases same
    refine staysWithin_cons.mpr ?_
    simp only [step, closes, escapes, if_false]
    exact ⟨fits, ih found⟩

section Constants

variable {expr : Reader Expr} {text rest : List Char} {value : Expr}

/-- No method call is a literal. -/
theorem isConstant_methodCall (receiver : Expr) (name : String) (arguments : List Expr) :
    (methodCall receiver name arguments).isConstant = false := by
  unfold methodCall
  split <;> rfl

/-- Accesses that leave a literal are none at all. -/
theorem accesses_constant (constant : value.isConstant = true) {count : Nat} {base : Expr}
    (read : accesses expr count base text = .ok (value, rest)) :
    value = base ∧ rest = skipBlank text := by
  induction count generalizing base text with
  | zero =>
    cases read
    exact ⟨rfl, rfl⟩
  | succ count ih =>
    -- An access makes a tree that is no literal, and neither do the accesses after it.
    have no_access {base : Expr} (other : base.isConstant = false) {text : List Char}
        (read : accesses expr count base text = .ok (value, rest)) : False := by
      rw [(ih read).1, other] at constant
      contradiction
    rw [accesses] at read
    split at read
    · split at read
      · contradiction
      · split at read
        · obtain ⟨_, _, further⟩ := bind_eq_ok_iff.mp read
          exact (no_access (isConstant_methodCall ..) further).elim
        · exact (no_access rfl read).elim
    · obtain ⟨_, _, further⟩ := bind_eq_ok_iff.mp read
      exact (no_access rfl further).elim
    · cases read
      exact ⟨rfl, rfl⟩

/-- Operators that leave a literal are none at all. -/
theorem chain_constant (constant : value.isConstant = true) {operand : Reader Expr}
    {level : List (List Char × BinaryOp)} {count : Nat} {left : Expr}
    (read : chain operand level count left text = .ok (value, rest)) :
    value = left ∧ rest = skipBlank text := by
  induction count generalizing left text with
  | zero =>
    cases read
    exact ⟨rfl, rfl⟩
  | succ count ih =>
    rw [chain] at read
    split at read
    · cases read
      exact ⟨rfl, rfl⟩
    · obtain ⟨_, _, further⟩ := bind_eq_ok_iff.mp read
      rw [(ih further).1] at constant
      contradiction

/-- A literal that is read with operators is an operand. -/
theorem binary_constant (constant : value.isConstant = true)
    {levels : List (List (List Char × BinaryOp))}
    (read : binary expr levels text = .ok (value, rest)) :
    ∃ after, unary expr text = .ok (value, after) ∧ skipBlank rest = skipBlank after := by
  induction levels generalizing rest with
  | nil => exact ⟨rest, read, rfl⟩
  | cons level tighter ih =>
    obtain ⟨⟨left, next⟩, found, links⟩ := bind_eq_ok_iff.mp read
    obtain ⟨rfl, rfl⟩ := chain_constant constant links
    obtain ⟨after, operand, same⟩ := ih found
    exact ⟨after, operand, by rw [skipBlank_skipBlank, same]⟩

/-- A literal that is read as an expression is an operand. -/
theorem unbounded_constant (constant : value.isConstant = true)
    (read : unbounded text = .ok (value, rest)) :
    ∃ after, unary unbounded text = .ok (value, after) ∧ rest = skipBlank after := by
  rw [unbounded_eq] at read
  obtain ⟨⟨condition, next⟩, found, further⟩ := bind_eq_ok_iff.mp read
  simp only at further
  split at further
  · obtain ⟨_, _, further⟩ := bind_eq_ok_iff.mp further
    obtain ⟨_, _, further⟩ := bind_eq_ok_iff.mp further
    obtain ⟨_, _, further⟩ := bind_eq_ok_iff.mp further
    cases further
    contradiction
  · cases further
    exact binary_constant constant found

/-- An operand without prefix operators is an atom with its accesses. -/
theorem unary_cons {c : Char} (starts : startsOperand c = true) (rest : List Char) :
    unary expr (c :: rest) = accessed expr (c :: rest) := by
  rw [unary, readPrefixOps_cons starts]
  simp only [List.foldr_nil]
  exact bind_pure (accessed expr (c :: rest))

/-- A quote starts a text literal or nothing. -/
theorem readText_of_atom (read : atom expr ('"' :: text) = .ok (value, rest)) :
    ∃ inside, readText ('"' :: text) = some (inside, rest) ∧ value = .string inside := by
  have word : readWord ('"' :: text) = none := readWord_cons (by decide) text
  have number : readNumber ('"' :: text) = none := rfl
  simp only [atom, skipBlank_cons (by decide : isBlank '"' = false), readLiteral, word,
    number] at read
  cases literal : readText ('"' :: text) with
  | none =>
    rw [literal] at read
    contradiction
  | some found =>
    rw [literal] at read
    cases read
    exact ⟨found.1, rfl, rfl⟩

/-- A literal that is read behind a quote is the text literal there. -/
theorem readText_of_unbounded (constant : value.isConstant = true)
    (read : unbounded ('"' :: text) = .ok (value, rest)) :
    ∃ inside after, readText ('"' :: text) = some (inside, after) ∧ value = .string inside ∧
      rest = skipBlank after := by
  obtain ⟨next, operand, rfl⟩ := unbounded_constant constant read
  rw [unary_cons (by decide)] at operand
  obtain ⟨⟨base, after⟩, found, further⟩ := bind_eq_ok_iff.mp operand
  obtain ⟨rfl, rfl⟩ := accesses_constant constant further
  obtain ⟨inside, literal, same⟩ := readText_of_atom found
  exact ⟨inside, after, literal, same, skipBlank_skipBlank after⟩

end Constants

/-- A text is read back from the source of its literal when each backslash in it has a character
after it that no backslash changes, and only then. -/
theorem parse_text_iff (value : String) :
    parse (Expr.string value).source = .ok (.string value) ↔ KeepsBackslashes value.toList := by
  have source : (Expr.string value).source.toList = '"' :: (insideText value.toList ++ ['"']) :=
    String.toList_ofList
  have statement : Statement (Expr.string value).source.toList := by
    rw [source]
    exact .of_ends _ (by decide) (by decide) (by decide)
  constructor
  · intro parsed
    have read := statement.toBare.read parsed
    rw [source] at read
    obtain ⟨inside, after, found, same, ends⟩ := readText_of_unbounded rfl read
    have trimmed : trim after = [] := by
      have blank : ∀ c ∈ after, isBlank c = true := List.dropWhile_eq_nil_iff.mp ends.symm
      have start : trimStart after = [] := List.dropWhile_eq_nil_iff.mpr fun c member =>
        isWhiteSpace_of_isBlank (blank c member)
      rw [trim, start]
      rfl
    have suffix := readText_suffix found
    rw [← source] at suffix
    obtain rfl := statement.toBare.eq_nil_of_trim suffix trimmed
    obtain ⟨⟨text, _⟩, quoted, ends⟩ := Option.map_eq_some_iff.mp found
    cases same
    cases ends
    rw [String.toList_ofList] at quoted ⊢
    exact readQuoted_inside_iff.mp quoted
  · intro keeps
    have quoted := readQuoted_inside_iff.mpr keeps
    have allowed : nestingAllowed (Expr.quoteText value.toList) = true := by
      refine Scan.staysWithin_cons.mpr ⟨by decide, ?_⟩
      exact Scan.staysWithin_quoted (by decide) quoted (by decide) rfl
    have height : (Expr.string value).height = 1 := by simp only [Expr.height]
    have shallow : (Expr.string value).depth ≤ depthLimit := by
      rw [Expr.depth_le_iff, height]
      decide
    exact parse_of_printable (.string keeps) rfl allowed shallow

end DecisionFlow.Source
