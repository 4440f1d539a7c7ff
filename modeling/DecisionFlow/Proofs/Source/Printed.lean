import DecisionFlow.Proofs.Source.Plain
import DecisionFlow.Proofs.Source.Printable

/-!
# Printed lexemes

How names, integers, text literals and operators read back from their texts in front of a rest. A
name or an integer needs a rest that does not continue it; `Ends` says so for every expression.
-/
namespace DecisionFlow.Source

open DecisionFlow.Text

/-- A word of one class in front of a rest that starts with another. -/
theorem span_append {p : Char → Bool} {word rest : List Char} (all : ∀ c ∈ word, p c = true)
    (stops : ∀ c ∈ rest.head?, p c = false) :
    (word ++ rest).takeWhile p = word ∧ (word ++ rest).dropWhile p = rest := by
  rw [List.takeWhile_append_of_pos all, List.dropWhile_append_of_pos all]
  cases rest with
  | nil => exact ⟨List.append_nil word, rfl⟩
  | cons c rest =>
    have other := stops c rfl
    rw [List.takeWhile_cons, List.dropWhile_cons, other]
    exact ⟨List.append_nil word, rfl⟩

/-- The leading characters of one class are the same in front of a rest that starts with
another. -/
theorem span_append_of_stops {p : Char → Bool} {rest : List Char}
    (stops : ∀ c ∈ rest.head?, p c = false) (text : List Char) :
    (text ++ rest).takeWhile p = text.takeWhile p ∧
      (text ++ rest).dropWhile p = text.dropWhile p ++ rest := by
  induction text with
  | nil => exact span_append nofun stops
  | cons c text ih =>
    by_cases holds : p c = true
    · simp [holds, ih]
    · simp [holds]

/-- The first character of a rest that does not start in a name continues none. -/
theorem isNameChar_head {rest : List Char} (outside : startsInName rest = false) :
    ∀ c ∈ rest.head?, isNameChar c = false := by
  cases rest with
  | nil => nofun
  | cons c rest =>
    intro d first
    cases first
    exact outside

/-- Digits are among the first 128 characters. -/
theorem toNat_lt_of_isDigit {c : Char} (digit : c.isDigit = true) : c.toNat < 128 := by
  rw [isDigit_iff] at digit
  omega

/-- Digits continue names. -/
theorem isNameChar_of_isDigit {c : Char} (digit : c.isDigit = true) : isNameChar c = true := by
  rw [isNameChar, isAlphanumeric_ascii (toNat_lt_of_isDigit digit), digit, Bool.or_true,
    Bool.true_or]

/-- No name starts with a digit. -/
theorem isDigit_of_isNameStart {c : Char} (starts : isNameStart c = true) : c.isDigit = false := by
  rw [Bool.eq_false_iff]
  intro digit
  rw [isDigit_iff] at digit
  rw [isNameStart, Bool.or_eq_true, beq_iff_eq] at starts
  rcases starts with letter | rfl
  · rw [isAlpha_iff] at letter
    omega
  · exact absurd digit (by decide)

/-- A name has a first character, and all of its characters continue names. -/
theorem isName_cons {name : List Char} (named : isName name = true) :
    (∃ c rest, name = c :: rest ∧ isNameStart c = true) ∧ ∀ c ∈ name, isNameChar c = true := by
  cases name with
  | nil => contradiction
  | cons c rest =>
    simp only [isName, Bool.and_eq_true, List.all_eq_true] at named
    refine ⟨⟨c, rest, rfl, named.1⟩, ?_⟩
    intro d member
    cases member with
    | head => exact isNameChar_of_isNameStart named.1
    | tail _ member => exact named.2 d member

/-- A name reads back in front of a rest that does not continue it. -/
theorem readName_append {name rest : List Char} (named : isName name = true)
    (outside : startsInName rest = false) :
    readName (name ++ rest) = some (String.ofList name, rest) := by
  obtain ⟨⟨c, others, rfl, starts⟩, all⟩ := isName_cons named
  obtain ⟨taken, dropped⟩ := span_append (fun d member => all d (.tail c member))
    (isNameChar_head outside)
  rw [List.cons_append, readName, if_pos starts, taken, dropped]

/-- A keyword reads back where a word of name characters is the keyword, and only there. -/
theorem afterKeyword_append {word name rest : List Char} (letters : ∀ c ∈ word, isNameChar c = true)
    (all : ∀ c ∈ name, isNameChar c = true) (outside : startsInName rest = false) :
    afterKeyword? word (name ++ rest) = if word = name then some rest else none := by
  unfold afterKeyword? afterWord?
  by_cases starts : word.isPrefixOf (name ++ rest) = true
  · rw [if_pos starts]
    obtain ⟨after, split⟩ := List.isPrefixOf_iff_prefix.mp starts
    rw [← split, List.drop_left]
    simp only
    rcases List.append_eq_append_iff.mp split with ⟨more, rfl, same⟩ | ⟨more, rfl, same⟩
    · cases more with
      | nil => simp_all
      | cons c more =>
        have continues : startsInName after = true := by
          rw [same]
          exact all c (by simp)
        have longer : word ≠ word ++ c :: more := by simp
        rw [if_pos continues, if_neg longer]
    · cases more with
      | nil => simp_all
      | cons c more =>
        rw [same, List.cons_append, startsInName, letters c (by simp)] at outside
        contradiction
  · rw [if_neg starts]
    have other : word ≠ name := by
      rintro rfl
      exact starts (List.isPrefixOf_iff_prefix.mpr (List.prefix_append word rest))
    rw [if_neg other]

/-- A word of name characters is read as the literal word that it is, if it is one. -/
theorem readWord_append {name rest : List Char} (all : ∀ c ∈ name, isNameChar c = true)
    (outside : startsInName rest = false) :
    readWord (name ++ rest) = (wordLiterals.lookup name).map (·, rest) := by
  have letters : ∀ word ∈ wordLiterals.map Prod.fst, ∀ c ∈ word, isNameStart c = true := by decide
  unfold readWord
  generalize wordLiterals = words at letters ⊢
  induction words with
  | nil => rfl
  | cons literal words ih =>
    have tail := ih fun word member => letters word (.tail _ member)
    rw [List.findSome?_cons, List.lookup_cons, tail,
      afterKeyword_append (fun c member => isNameChar_of_isNameStart
        (letters literal.1 (.head _) c member)) all outside]
    by_cases same : literal.1 = name
    · simp [same]
    · have other : (name == literal.1) = false := beq_false_of_ne (Ne.symm same)
      rw [if_neg same, other, Option.map_none]

/-- The characters that start literal words. -/
def wordStarts : List Char := ['n', 'u', 't', 'f']

/-- No literal word starts with another character than the words do. -/
theorem readWord_cons {c : Char} (other : c ∉ wordStarts) (rest : List Char) :
    readWord (c :: rest) = none := by
  simp only [wordStarts, List.mem_cons, List.not_mem_nil, or_false, not_or] at other
  simp [readWord, wordLiterals, afterKeyword?, afterWord?, Ne.symm other.1, Ne.symm other.2.1,
    Ne.symm other.2.2.1, Ne.symm other.2.2.2]

/-- Whether a rest neither continues the last lexeme of an expression nor makes it a call or a
number with a point. -/
structure Ends (rest : List Char) : Prop where
  /-- No name goes on. -/
  name : startsInName rest = false
  /-- No arguments follow. -/
  call : ∀ c ∈ (skipBlank rest).head?, c ≠ '('
  /-- No fraction follows. -/
  fraction : fractionDigits rest = []

/-- The text of a number that is not negative is made of digits. -/
theorem writeInt64_digits {value : Int64} (nonnegative : 0 ≤ value) :
    writeInt64 value = Nat.toDigits 10 value.toInt.natAbs ∧
      ∀ c ∈ writeInt64 value, c.isDigit = true := by
  have positive : 0 ≤ value.toInt := Int64.le_iff_toInt_le.mp nonnegative
  have written : writeInt64 value = Nat.toDigits 10 value.toInt.natAbs := by
    rw [writeInt64, writeInt, if_neg (Int.not_lt.mpr positive), writeNat]
  refine ⟨written, ?_⟩
  intro c member
  rw [written] at member
  exact Nat.isDigit_of_mem_toDigits (by decide) (by decide) member

/-- The text of a number that is not negative starts with a digit. -/
theorem writeInt64_cons {value : Int64} (nonnegative : 0 ≤ value) :
    ∃ c rest, writeInt64 value = c :: rest ∧ c.isDigit = true := by
  obtain ⟨written, digits⟩ := writeInt64_digits nonnegative
  cases text : writeInt64 value with
  | nil => exact absurd (written.symm.trans text) Nat.toDigits_ne_nil
  | cons c rest => exact ⟨c, rest, rfl, digits c (by rw [text]; exact .head _)⟩

/-- The text of a number that is not negative reads back. -/
theorem readNumber_append {value : Int64} (nonnegative : 0 ≤ value) {rest : List Char}
    (ends : Ends rest) :
    readNumber (writeInt64 value ++ rest) = some (.int value, rest) := by
  have positive : 0 ≤ value.toInt := Int64.le_iff_toInt_le.mp nonnegative
  have bound := value.toInt_lt
  obtain ⟨written, digits⟩ := writeInt64_digits nonnegative
  have stops : ∀ c ∈ rest.head?, c.isDigit = false := by
    intro c first
    rw [Bool.eq_false_iff]
    intro digit
    have outside := isNameChar_head ends.name c first
    rw [isNameChar_of_isDigit digit] at outside
    contradiction
  obtain ⟨taken, dropped⟩ := span_append digits stops
  have some_digit : (writeInt64 value).isEmpty = false := by
    rw [written, List.isEmpty_eq_false_iff]
    exact Nat.toDigits_ne_nil
  have magnitude : digitsValue (writeInt64 value) = value.toInt.natAbs := by
    rw [written, digitsValue_toDigits]
  have fits : value.toInt.natAbs < 0x8000000000000000 := by omega
  have same : Int64.ofNat value.toInt.natAbs = value := by
    rw [← Int64.ofInt_eq_ofNat, Int.natAbs_of_nonneg positive, Int64.ofInt_toInt]
  simp only [readNumber, taken, dropped, some_digit, ends.fraction, magnitude, fits, same,
    List.isEmpty_nil, Bool.false_eq_true, if_true, if_false]

/-- No backslash changes another character than the escapable ones. -/
theorem unescape_eq {c : Char} (other : c ∉ escapable) : unescape c = ['\\', c] := by
  simp only [escapable, List.mem_cons, List.not_mem_nil, or_false, not_or] at other
  unfold unescape
  split <;> simp_all

/-- The inside of a text literal reads back: its quotes are escaped and its backslashes kept. -/
theorem readQuoted_append {text : List Char} (keeps : KeepsBackslashes text) (rest : List Char) :
    readQuoted '"' (text.flatMap (fun c => if c = '"' then ['\\', '"'] else [c]) ++ '"' :: rest) =
      some (text, rest) := by
  induction length : text.length using Nat.strongRecOn generalizing text with
  | ind size ih =>
    cases text with
    | nil =>
      rw [List.flatMap_nil, List.nil_append, readQuoted.eq_def]
      simp
    | cons c text =>
      have tail := ih text.length (by simp at length; omega) (keepsBackslashes_cons.mp keeps).2 rfl
      by_cases quote : c = '"'
      · subst quote
        simp [readQuoted, tail, unescape]
      · by_cases backslash : c = '\\'
        · subst backslash
          have escaped := (keepsBackslashes_cons.mp keeps).1 rfl
          obtain ⟨next, first, other⟩ := (Option.any_eq_true _ _).mp escaped
          obtain ⟨after, rfl⟩ := List.head?_eq_some_iff.mp first
          rw [decide_eq_true_eq] at other
          have plain : next ≠ '"' := by
            rintro rfl
            exact other (by decide)
          have further := (keepsBackslashes_cons.mp (keepsBackslashes_cons.mp keeps).2).2
          have after_next := ih after.length (by simp at length; omega) further rfl
          simp [readQuoted, plain, after_next, unescape_eq other]
        · simp only [List.flatMap_cons, quote, if_false, List.cons_append]
          rw [readQuoted.eq_def]
          simp [quote, backslash, tail]

/-- A text literal reads back. -/
theorem readText_append {text : List Char} (keeps : KeepsBackslashes text) (rest : List Char) :
    readText (Expr.quoteText text ++ rest) = some (String.ofList text, rest) := by
  rw [Expr.quoteText, List.append_assoc, List.cons_append, List.singleton_append, readText,
    readQuoted_append keeps rest]
  rfl

/-- A literal word reads back. -/
theorem readLiteral_word {name rest : List Char} {expr : Expr}
    (all : ∀ c ∈ name, isNameChar c = true) (outside : startsInName rest = false)
    (word : wordLiterals.lookup name = some expr) :
    readLiteral (name ++ rest) = some (expr, rest) := by
  rw [readLiteral, readWord_append all outside, word]
  rfl

/-- A number that is not negative reads back as a literal. -/
theorem readLiteral_int {value : Int64} (nonnegative : 0 ≤ value) {rest : List Char}
    (ends : Ends rest) : readLiteral (writeInt64 value ++ rest) = some (.int value, rest) := by
  have read := readNumber_append nonnegative ends
  obtain ⟨c, digits, written, digit⟩ := writeInt64_cons nonnegative
  have other : c ∉ wordStarts := by
    intro member
    have none : ∀ c ∈ wordStarts, c.isDigit = false := by decide
    rw [none c member] at digit
    contradiction
  rw [written, List.cons_append] at read ⊢
  rw [readLiteral, readWord_cons other, read]

/-- A text literal reads back as a literal. -/
theorem readLiteral_text {text : List Char} (keeps : KeepsBackslashes text) (rest : List Char) :
    readLiteral (Expr.quoteText text ++ rest) = some (.string (String.ofList text), rest) := by
  rw [readLiteral, readText_append keeps rest, Expr.quoteText, List.append_assoc, List.cons_append,
    readWord_cons (by decide)]
  rfl

/-- The brackets. -/
def brackets : List Char := ['(', '[', '\x7b', ')', ']', '\x7d']

/-- The closing brackets. -/
def closingBrackets : List Char := [')', ']', '\x7d']

/-- No literal starts with a bracket. -/
theorem readLiteral_bracket {c : Char} (bracket : c ∈ brackets) (rest : List Char) :
    readLiteral (c :: rest) = none := by
  have other : ∀ c ∈ brackets, c ∉ wordStarts ∧ c.isDigit = false ∧ c ≠ '"' ∧ c ≠ '\'' := by
    decide
  obtain ⟨word, digit, double, single⟩ := other c bracket
  rw [readLiteral, readWord_cons word]
  simp [readNumber, digit, readText, double, single]

/-- A name that is not reserved is no literal. -/
theorem readLiteral_name {name rest : List Char} (named : isName name = true)
    (free : wordLiterals.lookup name = none) (outside : startsInName rest = false) :
    readLiteral (name ++ rest) = none := by
  obtain ⟨⟨c, others, rfl, starts⟩, all⟩ := isName_cons named
  have digit := isDigit_of_isNameStart starts
  have double : c ≠ '"' := by
    rintro rfl
    contradiction
  have single : c ≠ '\'' := by
    rintro rfl
    contradiction
  rw [readLiteral, readWord_append all outside, free]
  simp [readNumber, digit, readText, double, single]

/-- Whether an operator of a level starts with a character. -/
def startsOperator (level : List (List Char × BinaryOp)) (c : Char) : Bool :=
  level.any fun spelling => spelling.1.head? == some c

/-- No operator of a level is read where none starts. -/
theorem readOperator_eq_none {level : List (List Char × BinaryOp)}
    (listed : level ∈ operatorLevels) {text : List Char}
    (other : ∀ c ∈ text.head?, startsOperator level c = false) :
    readOperator level text = none := by
  have spelt : ∀ level ∈ operatorLevels, ∀ spelling ∈ level, spelling.1 ≠ [] := by decide
  rw [readOperator, List.findSome?_eq_none_iff]
  intro spelling member
  have differs : spelling.1.isPrefixOf text = false := by
    rw [Bool.eq_false_iff]
    intro starts
    obtain ⟨after, rfl⟩ := List.isPrefixOf_iff_prefix.mp starts
    cases letters : spelling.1 with
    | nil => exact spelt level listed spelling member letters
    | cons c more =>
      have none := other c (by rw [letters]; rfl)
      rw [startsOperator, List.any_eq_false] at none
      exact none spelling member (by rw [letters]; exact beq_self_eq_true _)
  rw [readSpelling, afterWord?, differs]
  rfl

/-- The number of levels that are looser than the level of an operator. -/
def looserLevels : BinaryOp → Nat
  | .or => 0
  | .and => 1
  | .eq | .ne => 2
  | .lt | .le | .gt | .ge | .member => 3
  | .add | .sub => 4
  | _ => 5

/-- An operator is read by its level from each of its spellings, and none starts like it on a
tighter one. -/
theorem readOperator_spelling {spelling : List Char × BinaryOp}
    (listed : spelling ∈ operatorLevels.flatten) :
    ∃ level tighter, operatorLevels.drop (looserLevels spelling.2) = level :: tighter ∧
      (∀ rest, readOperator level (spelling.1 ++ ' ' :: rest) = some (spelling.2, ' ' :: rest)) ∧
      ∀ other ∈ tighter, ∀ c ∈ spelling.1.head?, startsOperator other c = false := by
  simp only [operatorLevels, List.flatten_cons, List.flatten_nil, List.cons_append,
    List.nil_append, List.mem_cons, List.not_mem_nil, or_false] at listed
  rcases listed with rfl | rfl | rfl | rfl | rfl | rfl | rfl | rfl | rfl | rfl | rfl | rfl | rfl |
    rfl | rfl | rfl
  all_goals exact ⟨_, _, rfl, fun _ => rfl, by decide⟩

/-- The symbol of an operator is one of its spellings, unless it is written as a method. -/
theorem symbol_listed {op : BinaryOp} (spelt : op ∉ methodOperators) :
    (op.symbol.toList, op) ∈ operatorLevels.flatten := by
  revert spelt
  cases op <;> decide

/-- An operator is read by its level from its symbol, and none starts like it on a tighter one. -/
theorem readOperator_symbol {op : BinaryOp} (spelt : op ∉ methodOperators) :
    ∃ level tighter, operatorLevels.drop (looserLevels op) = level :: tighter ∧
      (∀ rest, readOperator level (op.symbol.toList ++ ' ' :: rest) = some (op, ' ' :: rest)) ∧
      ∀ other ∈ tighter, ∀ c ∈ op.symbol.toList.head?, startsOperator other c = false :=
  readOperator_spelling (symbol_listed spelt)

end DecisionFlow.Source
