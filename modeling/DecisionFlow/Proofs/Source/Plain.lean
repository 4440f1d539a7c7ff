import DecisionFlow.Source.Grammar

/-!
# Plain characters

Quotes, brackets and question marks structure a text; every other character is plain. Commas and
colons, which are plain, separate what stands next to each other. White space, names, numbers,
keywords and operators are lexical throughout: they have neither structural nor separating
characters. So a reader passes them without entering or leaving a text literal, a bracket, a
conditional or a part of one of these.
-/
namespace DecisionFlow.Source

open DecisionFlow.Text

/-- Whether a character is one of the first 128 and neither letter, digit nor underscore. -/
def separates (c : Char) : Bool := c.toNat < 128 && !(c.isAlpha || c.isDigit || c == '_')

/-- A separating character continues no name. -/
theorem isNameChar_of_separates {c : Char} (separating : separates c = true) :
    isNameChar c = false := by
  simp only [separates, Bool.and_eq_true, decide_eq_true_eq, Bool.not_eq_true'] at separating
  rw [isNameChar, isAlphanumeric_ascii separating.1, separating.2]

/-- The characters that structure a text. -/
def structural : List Char := ['"', '\'', '(', '[', '\x7b', ')', ']', '\x7d', '?']

/-- Whether a character is neither a quote nor a bracket nor a question mark. -/
def isPlain (c : Char) : Bool := !structural.contains c

/-- The plain characters that separate items, keys and values, and the branches of conditionals. -/
def separators : List Char := [',', ':']

/-- Whether a character is neither structural nor a separator. -/
def isLexical (c : Char) : Bool := !(structural ++ separators).contains c

/-- A character of a class is not listed when the class has no listed character. -/
theorem not_contains_of_class {p : Char → Bool} {listed : List Char}
    (none : ∀ c ∈ listed, p c = false) {c : Char} (holds : p c = true) :
    (!listed.contains c) = true := by
  rw [Bool.not_eq_true', List.contains_eq_mem, decide_eq_false_iff_not]
  intro member
  rw [none c member] at holds
  contradiction

/-- Lexical characters are plain. -/
theorem isPlain_of_isLexical {c : Char} (lexical : isLexical c = true) : isPlain c = true := by
  have none : ∀ c ∈ structural, isLexical c = false := by decide
  exact not_contains_of_class none lexical

/-- The characters of names are lexical. -/
theorem isLexical_of_isNameChar {c : Char} (named : isNameChar c = true) : isLexical c = true := by
  have separating : ∀ c ∈ structural ++ separators, separates c = true := by decide
  have none : ∀ c ∈ structural ++ separators, isNameChar c = false :=
    fun c member => isNameChar_of_separates (separating c member)
  exact not_contains_of_class none named

/-- Digits are lexical. -/
theorem isLexical_of_isDigit {c : Char} (digit : c.isDigit = true) : isLexical c = true := by
  have none : ∀ c ∈ structural ++ separators, c.isDigit = false := by decide
  exact not_contains_of_class none digit

/-- White space between tokens is lexical. -/
theorem isLexical_of_isBlank {c : Char} (blank : isBlank c = true) : isLexical c = true := by
  have none : ∀ c ∈ structural ++ separators, isBlank c = false := by decide
  exact not_contains_of_class none blank

/-- Operators are spelt with lexical characters. -/
theorem isLexical_of_mem_spelling {level : List (List Char × BinaryOp)}
    (listed : level ∈ operatorLevels) {spelling : List Char × BinaryOp} (member : spelling ∈ level)
    {c : Char} (spelt : c ∈ spelling.1) : isLexical c = true := by
  have all : ∀ level ∈ operatorLevels, ∀ spelling ∈ level, ∀ c ∈ spelling.1,
      isLexical c = true := by decide
  exact all level listed spelling member c spelt

/-- Literal words are spelt with lexical characters. -/
theorem isLexical_of_mem_word {word : List Char × Expr} (listed : word ∈ wordLiterals) {c : Char}
    (spelt : c ∈ word.1) : isLexical c = true := by
  have all : ∀ letters ∈ wordLiterals.map Prod.fst, ∀ c ∈ letters, isLexical c = true := by decide
  exact all word.1 (List.mem_map_of_mem listed) c spelt

/-- A rest that is reached from a text over characters of a class. -/
def Over (p : Char → Bool) (text rest : List Char) : Prop :=
  ∃ taken, text = taken ++ rest ∧ ∀ c ∈ taken, p c = true

namespace Over

section Class

variable {p q : Char → Bool}

/-- A text is reached from itself. -/
theorem refl (text : List Char) : Over p text text := ⟨[], rfl, nofun⟩

/-- One character of the class is passed. -/
theorem cons {c : Char} (holds : p c = true) (rest : List Char) : Over p (c :: rest) rest :=
  ⟨[c], rfl, List.forall_mem_singleton.mpr holds⟩

/-- Characters of the class are passed one run after the other. -/
theorem trans {first second third : List Char} (before : Over p first second)
    (after : Over p second third) : Over p first third := by
  obtain ⟨taken, rfl, holds⟩ := before
  obtain ⟨further, rfl, holds'⟩ := after
  exact ⟨taken ++ further, (List.append_assoc ..).symm,
    List.forall_mem_append.mpr ⟨holds, holds'⟩⟩

/-- The class may be widened. -/
theorem mono {text rest : List Char} (passed : Over p text rest)
    (wider : ∀ {c}, p c = true → q c = true) : Over q text rest := by
  obtain ⟨taken, split, holds⟩ := passed
  exact ⟨taken, split, fun c member => wider (holds c member)⟩

/-- Characters of a smaller class are passed. -/
theorem dropWhile (narrower : ∀ c, q c = true → p c = true) (text : List Char) :
    Over p text (text.dropWhile q) := by
  refine ⟨text.takeWhile q, List.takeWhile_append_dropWhile.symm, ?_⟩
  intro c member
  exact narrower c (List.all_eq_true.mp List.all_takeWhile c member)

end Class

/-- White space is passed. -/
theorem skipBlank (text : List Char) : Over isLexical text (Text.skipBlank text) :=
  dropWhile (fun _ => isLexical_of_isBlank) text

/-- A word is passed. -/
theorem afterWord {word text rest : List Char} (lexical : ∀ c ∈ word, isLexical c = true)
    (found : afterWord? word text = some rest) : Over isLexical text rest := by
  unfold afterWord? at found
  split at found
  · rename_i starts
    obtain ⟨after, rfl⟩ := List.isPrefixOf_iff_prefix.mp starts
    simp only [List.drop_left, Option.some.injEq] at found
    exact ⟨word, by rw [found], lexical⟩
  · contradiction

/-- A keyword is passed. -/
theorem afterKeyword {word text rest : List Char} (lexical : ∀ c ∈ word, isLexical c = true)
    (found : afterKeyword? word text = some rest) : Over isLexical text rest := by
  unfold afterKeyword? at found
  split at found
  · split at found
    · contradiction
    · cases found
      exact afterWord lexical ‹_›
  · contradiction

/-- A name is passed. -/
theorem readName {text rest : List Char} {name : String}
    (found : readName text = some (name, rest)) : Over isLexical text rest := by
  cases text with
  | nil => contradiction
  | cons c after =>
    rw [Source.readName] at found
    split at found
    · rename_i starts
      cases found
      refine (cons (isLexical_of_isNameChar ?_) after).trans
        (dropWhile (fun _ => isLexical_of_isNameChar) after)
      exact isNameChar_of_isNameStart starts
    · contradiction

/-- A point and the digits after it are passed. -/
theorem fraction {text : List Char} (pointed : fractionDigits text ≠ []) :
    Over isLexical text (text.drop ((fractionDigits text).length + 1)) := by
  unfold fractionDigits at pointed ⊢
  split
  · rename_i after
    have rest : after.drop (after.takeWhile Char.isDigit).length =
        after.dropWhile Char.isDigit := by
      conv => lhs; arg 2; rw [← List.takeWhile_append_dropWhile (p := Char.isDigit) (l := after)]
      exact List.drop_left
    rw [List.drop_succ_cons, rest]
    exact (cons rfl after).trans (dropWhile (fun _ => isLexical_of_isDigit) after)
  · simp_all

/-- A literal word is passed. -/
theorem readWord {text rest : List Char} {expr : Expr}
    (found : readWord text = some (expr, rest)) : Over isLexical text rest := by
  obtain ⟨literal, listed, read⟩ := List.exists_of_findSome?_eq_some found
  obtain ⟨after, keyword, same⟩ := Option.map_eq_some_iff.mp read
  cases same
  exact afterKeyword (fun c => isLexical_of_mem_word listed) keyword

/-- An integer or a number with a point is passed. -/
theorem readNumber {text rest : List Char} {number : Expr}
    (found : readNumber text = some (number, rest)) : Over isLexical text rest := by
  have digits : Over isLexical text (text.dropWhile Char.isDigit) :=
    dropWhile (fun _ => isLexical_of_isDigit) text
  simp only [Source.readNumber] at found
  split at found
  · contradiction
  · split at found
    · split at found
      · cases found
        exact digits
      · contradiction
    · rename_i pointed
      cases found
      refine digits.trans (fraction ?_)
      rw [List.isEmpty_iff] at pointed
      exact pointed

/-- An operator is passed. -/
theorem readOperator {level : List (List Char × BinaryOp)} (listed : level ∈ operatorLevels)
    {text rest : List Char} {op : BinaryOp} (found : readOperator level text = some (op, rest)) :
    Over isLexical text rest := by
  obtain ⟨spelling, member, read⟩ := List.exists_of_findSome?_eq_some found
  unfold readSpelling at read
  split at read
  · split at read
    · contradiction
    · cases read
      exact afterWord (fun c => isLexical_of_mem_spelling listed member) ‹_›
  · contradiction

/-- Prefix operators are passed. -/
theorem readPrefixOps (text : List Char) : Over isLexical text (readPrefixOps text).2 := by
  fun_induction Source.readPrefixOps text with
  | case1 => exact refl []
  | case2 c rest blank ih => exact (cons (isLexical_of_isBlank blank) rest).trans ih
  | case3 rest ops after read _ ih =>
    rw [read] at ih
    exact (cons rfl rest).trans ih
  | case4 rest ops after read _ _ ih =>
    rw [read] at ih
    exact (cons rfl rest).trans ih
  | case5 c rest => exact refl (c :: rest)

end Over

/-- A rest that is reached from a text over plain characters. -/
def Passes (text rest : List Char) : Prop :=
  ∃ taken, text = taken ++ rest ∧ ∀ c ∈ taken, isPlain c = true

namespace Passes

/-- One plain character is passed. -/
theorem cons {c : Char} (plain : isPlain c = true) (rest : List Char) : Passes (c :: rest) rest :=
  Over.cons plain rest

/-- Lexical characters are passed. -/
theorem of_lexical {text rest : List Char} (passed : Over isLexical text rest) : Passes text rest :=
  passed.mono isPlain_of_isLexical

/-- White space is passed. -/
theorem skipBlank (text : List Char) : Passes text (Text.skipBlank text) :=
  of_lexical (.skipBlank text)

end Passes

end DecisionFlow.Source
