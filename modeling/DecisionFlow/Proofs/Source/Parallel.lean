import DecisionFlow.Proofs.Source.Continuation

/-!
# Parallel texts

Two texts are parallel when a reader meets the same characters in both, up to the amount of white
space, and when the second one goes on after the end of the first with a closing bracket at most.
What this asks of a relation between texts is collected in `Parallel`. No lexeme goes on with white
space or with a closing bracket, so the lexemes at the start of parallel texts are the same, and
their rests are parallel again. Only a text literal that is not closed in the first text may be
closed in the second.
-/
namespace DecisionFlow.Source

open DecisionFlow.Text

/-- A name has a first character. -/
theorem readName_cons {text rest : List Char} {name : String}
    (read : readName text = some (name, rest)) :
    ∃ c more, text = c :: more ∧ isNameStart c = true := by
  cases text with
  | nil => contradiction
  | cons c more =>
    rw [readName] at read
    split at read
    · exact ⟨c, more, rfl, ‹_›⟩
    · contradiction

/-- No text literal starts like a name. -/
theorem readText_name {c : Char} (starts : isNameStart c = true) (rest : List Char) :
    readText (c :: rest) = none := by
  have quotes : ∀ quote ∈ ['"', '\''], isNameStart quote = false := by decide
  unfold readText
  split
  · simp_all
  · simp_all
  · rfl

/-- The quotes of text literals. -/
def quotes : List Char := ['"', '\'']

/-- A quote is a double or a single one. -/
theorem mem_quotes {c : Char} : c ∈ quotes ↔ c = '"' ∨ c = '\'' := by
  simp only [quotes, List.mem_cons, List.not_mem_nil, or_false]

/-- No quote is a backslash. -/
theorem ne_backslash_of_mem_quotes {c : Char} (quote : c ∈ quotes) : c ≠ '\\' := by
  rintro rfl
  exact absurd quote (by decide)

/-- Behind a quote the inside of its text literal is read. -/
theorem readText_quote {c : Char} (quote : c ∈ quotes) (text : List Char) :
    readText (c :: text) =
      (readQuoted c text).map fun (inside, rest) => (String.ofList inside, rest) := by
  obtain rfl | rfl := mem_quotes.mp quote
  · rfl
  · rfl

/-- A relation between texts that are parallel. -/
structure Parallel (related : List Char → List Char → Prop) : Prop where
  /-- Where the first text ends, the second one ends or goes on with a closing bracket. -/
  ended : ∀ {other}, related [] other → ∀ c ∈ other.head?, c ∈ closingBrackets
  /-- Where the first text starts with white space, the second one does. -/
  blank : ∀ {c rest other}, isBlank c = true → related (c :: rest) other →
    ∀ d ∈ other.head?, isBlank d = true
  /-- What follows white space is parallel. -/
  skipped : ∀ {text other}, related text other → related (skipBlank text) (skipBlank other)
  /-- Any other character but a quote starts both texts, and what follows it is parallel. -/
  same : ∀ {c rest other}, isBlank c = false → c ∉ quotes → related (c :: rest) other →
    ∃ more, other = c :: more ∧ related rest more
  /-- A quote starts both texts, and what follows a text literal that is closed is parallel. -/
  quoted : ∀ {c rest other}, c ∈ quotes → related (c :: rest) other →
    ∃ more, other = c :: more ∧ ∀ value after, readQuoted c rest = some (value, after) →
      ∃ after', readQuoted c more = some (value, after') ∧ related after after'

/-- Whether a character is neither structural nor white space. -/
def isSolid (c : Char) : Bool := isPlain c && !isBlank c

/-- A solid character is neither white space nor a quote nor a closing bracket. -/
theorem isSolid_iff_not {c : Char} (solid : isSolid c = true) :
    isBlank c = false ∧ c ∉ quotes ∧ c ∉ closingBrackets := by
  have quotes_out : ∀ c ∈ quotes, isSolid c = false := by decide
  have closing_out : ∀ c ∈ closingBrackets, isSolid c = false := by decide
  refine ⟨?_, ?_, ?_⟩
  · simp only [isSolid, Bool.and_eq_true, Bool.not_eq_true'] at solid
    exact solid.2
  · intro member
    rw [quotes_out c member] at solid
    contradiction
  · intro member
    rw [closing_out c member] at solid
    contradiction

/-- The characters of names are solid. -/
theorem isSolid_of_isNameChar {c : Char} (named : isNameChar c = true) : isSolid c = true := by
  rw [isSolid, isPlain_of_isLexical (isLexical_of_isNameChar named),
    isBlank_of_startsOperand (startsOperand_of_isNameChar named)]
  rfl

/-- Digits are solid. -/
theorem isSolid_of_isDigit {c : Char} (digit : c.isDigit = true) : isSolid c = true := by
  have visible : ∀ c ∈ [' ', '\t', '\r', '\n'], c.isDigit = false := by decide
  rw [isSolid, isPlain_of_isLexical (isLexical_of_isDigit digit), Bool.true_and, Bool.not_eq_true']
  simp only [isBlank, Bool.or_eq_false_iff, beq_eq_false_iff_ne]
  refine ⟨⟨⟨?_, ?_⟩, ?_⟩, ?_⟩
  all_goals
    rintro rfl
    rw [visible _ (by decide)] at digit
    contradiction

/-- What is reached over characters of a class is an end of the text. -/
theorem Over.suffix {p : Char → Bool} {text rest : List Char} (passed : Over p text rest) :
    rest <:+ text := by
  obtain ⟨taken, rfl, _⟩ := passed
  exact List.suffix_append taken rest

/-- White space at the start leaves an end of the text. -/
theorem skipBlank_suffix (text : List Char) : skipBlank text <:+ text :=
  (Over.skipBlank text).suffix

/-- Two readings of the same thing that leave parallel rests. -/
inductive Along {α : Type} (related : List Char → List Char → Prop) :
    α × List Char → α × List Char → Prop where
  /-- The same was read. -/
  | read (value : α) {rest rest' : List Char} (after : related rest rest') :
    Along related (value, rest) (value, rest')

/-- What is found in the first text is found in the second. -/
theorem Along.found {α : Type} {related : List Char → List Char → Prop} {value : α}
    {rest : List Char} {result : Option (α × List Char)}
    (alike : Option.Rel (Along related) (some (value, rest)) result) :
    ∃ rest', result = some (value, rest') ∧ related rest rest' := by
  cases alike with
  | some same =>
    cases same with
    | read value after => exact ⟨_, rfl, after⟩

/-- What is not found in the first text is not found in the second. -/
theorem Along.absent {α : Type} {related : List Char → List Char → Prop}
    {result : Option (α × List Char)} (alike : Option.Rel (Along related) none result) :
    result = none := by
  cases alike
  rfl

/-- What follows the first character after white space is an end of the text, and shorter. -/
theorem skipBlank_cons_suffix {c : Char} {text rest : List Char}
    (skipped : skipBlank text = c :: rest) : rest <:+ text ∧ rest.length < text.length := by
  have whole := skipBlank_suffix text
  rw [skipped] at whole
  have shorter := whole.length_le
  rw [List.length_cons] at shorter
  exact ⟨(List.suffix_cons c rest).trans whole, shorter⟩

/-- The first of some things that are found alike are found alike. -/
theorem findSome?_rel {α β γ : Type} {related : β → γ → Prop} {find : α → Option β}
    {find' : α → Option γ} {items : List α}
    (each : ∀ item ∈ items, Option.Rel related (find item) (find' item)) :
    Option.Rel related (items.findSome? find) (items.findSome? find') := by
  induction items with
  | nil => exact .none
  | cons item items ih =>
    obtain ⟨first, others⟩ := List.forall_mem_cons.mp each
    rw [List.findSome?_cons, List.findSome?_cons]
    generalize find item = found, find' item = found' at first ⊢
    cases first with
    | some same => exact .some same
    | none => exact ih others

namespace Parallel

variable {related : List Char → List Char → Prop} (parallel : Parallel related)
  {text other rest : List Char}

include parallel

/-- A character of a class of solid ones starts both of two parallel texts, or no such character
starts either. -/
theorem first {p : Char → Bool} (solid : ∀ c, p c = true → isSolid c = true)
    (here : related text other) :
    (∃ c rest more, text = c :: rest ∧ other = c :: more ∧ p c = true ∧ related rest more) ∨
      (∀ c ∈ text.head?, p c = false) ∧ ∀ c ∈ other.head?, p c = false := by
  have outside : ∀ c, p c = false ∨ isBlank c = false ∧ c ∉ quotes ∧ c ∉ closingBrackets := by
    intro c
    cases chosen : p c with
    | false => exact .inl rfl
    | true => exact .inr (isSolid_iff_not (solid c chosen))
  cases text with
  | nil =>
    refine .inr ⟨nofun, fun c head => ?_⟩
    rcases outside c with stops | ⟨_, _, apart⟩
    · exact stops
    · exact absurd (parallel.ended here c head) apart
  | cons c rest =>
    cases blank : isBlank c with
    | true =>
      refine .inr ⟨?_, fun d head => ?_⟩
      · rintro d ⟨⟩
        rcases outside c with stops | ⟨visible, _⟩
        · exact stops
        · exact absurd (blank.symm.trans visible) nofun
      · rcases outside d with stops | ⟨visible, _⟩
        · exact stops
        · exact absurd ((parallel.blank blank here d head).symm.trans visible) nofun
    | false =>
      by_cases quote : c ∈ quotes
      · obtain ⟨more, rfl, _⟩ := parallel.quoted quote here
        rcases outside c with stops | ⟨_, apart, _⟩
        · exact .inr ⟨by rintro d ⟨⟩; exact stops, by rintro d ⟨⟩; exact stops⟩
        · exact absurd quote apart
      · obtain ⟨more, rfl, after⟩ := parallel.same blank quote here
        cases chosen : p c with
        | true => exact .inl ⟨c, rest, more, rfl, rfl, chosen, after⟩
        | false => exact .inr ⟨by rintro d ⟨⟩; exact chosen, by rintro d ⟨⟩; exact chosen⟩

/-- A run of solid characters is the same in parallel texts. -/
theorem span {p : Char → Bool} (solid : ∀ c, p c = true → isSolid c = true)
    (here : related text other) :
    other.takeWhile p = text.takeWhile p ∧ related (text.dropWhile p) (other.dropWhile p) := by
  induction text generalizing other with
  | nil =>
    rcases parallel.first solid here with ⟨_, _, _, same, _⟩ | ⟨_, stops⟩
    · contradiction
    · have stopped := span_append_of_stops stops []
      rw [List.nil_append] at stopped
      rw [stopped.1, stopped.2]
      exact ⟨rfl, here⟩
  | cons c rest ih =>
    rcases parallel.first solid here with ⟨_, _, more, same, rfl, chosen, after⟩ | ⟨stops, stops'⟩
    · cases same
      obtain ⟨taken, dropped⟩ := ih after
      simp only [List.takeWhile_cons, List.dropWhile_cons, chosen, if_true, taken]
      exact ⟨trivial, dropped⟩
    · have stopped := span_append_of_stops stops' []
      rw [List.nil_append] at stopped
      rw [stopped.1, stopped.2, List.takeWhile_cons, List.dropWhile_cons, stops c rfl]
      exact ⟨rfl, here⟩

/-- Parallel texts start in a name together. -/
theorem startsInName (here : related text other) :
    Source.startsInName other = Source.startsInName text := by
  rcases parallel.first (fun _ => isSolid_of_isNameChar) here with
    ⟨c, rest, more, rfl, rfl, _, _⟩ | ⟨stops, stops'⟩
  · rfl
  · have outside : ∀ text : List Char, (∀ c ∈ text.head?, isNameChar c = false) →
        Source.startsInName text = false := by
      intro text stops
      cases text with
      | nil => rfl
      | cons c rest => exact stops c rfl
    rw [outside text stops, outside other stops']

/-- A word of solid characters starts parallel texts together. -/
theorem afterWord {word : List Char} (solid : ∀ c ∈ word, isSolid c = true)
    (here : related text other) :
    Option.Rel related (afterWord? word text) (afterWord? word other) := by
  induction word generalizing text other with
  | nil => exact .some here
  | cons c word ih =>
    obtain ⟨spelt, others⟩ := List.forall_mem_cons.mp solid
    have only : ∀ d, (c == d) = true → isSolid d = true := fun d same => eq_of_beq same ▸ spelt
    rcases parallel.first only here with ⟨d, rest, more, rfl, rfl, same, after⟩ | ⟨stops, stops'⟩
    · have further := ih others after
      simpa only [afterWord?, List.isPrefixOf_cons_cons, List.length_cons, List.drop_succ_cons,
        same, Bool.true_and] using further
    · have missed : ∀ text : List Char, (∀ d ∈ text.head?, (c == d) = false) →
          afterWord? (c :: word) text = none := by
        intro text stops
        cases text with
        | nil => rfl
        | cons d rest => simp [afterWord?, List.isPrefixOf_cons_cons, stops d rfl]
      rw [missed text stops, missed other stops']
      exact .none

/-- A keyword of solid characters starts parallel texts together. -/
theorem afterKeyword {word : List Char} (solid : ∀ c ∈ word, isSolid c = true)
    (here : related text other) :
    Option.Rel related (afterKeyword? word text) (afterKeyword? word other) := by
  have found := parallel.afterWord solid here
  unfold afterKeyword?
  generalize afterWord? word text = first, afterWord? word other = second at found ⊢
  cases found with
  | none => exact .none
  | some after =>
    simp only [parallel.startsInName after]
    split
    · exact .none
    · exact .some after

/-- Parallel texts start with the same literal word, or with none. -/
theorem readWord (here : related text other) :
    Option.Rel (Along related) (Source.readWord text) (Source.readWord other) := by
  have spelt : ∀ word ∈ wordLiterals.map Prod.fst, ∀ c ∈ word, isSolid c = true := by decide
  refine findSome?_rel fun literal listed => ?_
  have found := parallel.afterKeyword (spelt literal.1 (List.mem_map_of_mem listed)) here
  generalize afterKeyword? literal.1 text = first, afterKeyword? literal.1 other = second at found ⊢
  cases found with
  | none => exact .none
  | some after => exact .some (.read _ after)

/-- Parallel texts start with the same name, or with none. -/
theorem readName (here : related text other) :
    Option.Rel (Along related) (Source.readName text) (Source.readName other) := by
  have solid : ∀ c, isNameStart c = true → isSolid c = true := fun c starts =>
    isSolid_of_isNameChar (isNameChar_of_isNameStart starts)
  rcases parallel.first solid here with ⟨c, rest, more, rfl, rfl, starts, after⟩ | ⟨stops, stops'⟩
  · obtain ⟨taken, dropped⟩ := parallel.span (fun _ => isSolid_of_isNameChar) after
    rw [Source.readName, Source.readName, if_pos starts, if_pos starts, taken]
    exact .some (.read _ dropped)
  · have missed : ∀ text : List Char, (∀ c ∈ text.head?, isNameStart c = false) →
        Source.readName text = none := by
      intro text stops
      cases text with
      | nil => rfl
      | cons c rest => simp [Source.readName, stops c rfl]
    rw [missed text stops, missed other stops']
    exact .none

/-- The digits after a point are the same, and what follows them is parallel. -/
theorem fraction (here : related text other) :
    fractionDigits other = fractionDigits text ∧
      (fractionDigits text ≠ [] → related (text.drop ((fractionDigits text).length + 1))
        (other.drop ((fractionDigits text).length + 1))) := by
  have point : ∀ c, (c == '.') = true → isSolid c = true := by
    intro c same
    rw [eq_of_beq same]
    decide
  rcases parallel.first point here with ⟨c, rest, more, rfl, rfl, same, after⟩ | ⟨stops, stops'⟩
  · obtain rfl := eq_of_beq same
    obtain ⟨taken, dropped⟩ := parallel.span (fun _ => isSolid_of_isDigit) after
    have dropped_digits : ∀ text : List Char,
        text.drop (text.takeWhile Char.isDigit).length = text.dropWhile Char.isDigit := by
      intro text
      conv => lhs; arg 2; rw [← List.takeWhile_append_dropWhile (p := Char.isDigit) (l := text)]
      exact List.drop_left
    refine ⟨taken, fun _ => ?_⟩
    rw [fractionDigits, List.drop_succ_cons, List.drop_succ_cons, dropped_digits, ← taken,
      dropped_digits]
    exact dropped
  · have missed : ∀ text : List Char, (∀ c ∈ text.head?, (c == '.') = false) →
        fractionDigits text = [] := by
      intro text stops
      unfold fractionDigits
      split
      · exact absurd (stops '.' rfl) (by decide)
      · rfl
    rw [missed text stops, missed other stops']
    exact ⟨rfl, absurd rfl⟩

/-- Parallel texts start with the same number, or with none. -/
theorem readNumber (here : related text other) :
    Option.Rel (Along related) (Source.readNumber text) (Source.readNumber other) := by
  obtain ⟨taken, dropped⟩ := parallel.span (fun _ => isSolid_of_isDigit) here
  obtain ⟨digits, after⟩ := parallel.fraction dropped
  simp only [Source.readNumber, taken, digits]
  split
  · exact .none
  · split
    · split
      · exact .some (.read _ dropped)
      · exact .none
    · rename_i pointed
      exact .some (.read _ (after fun none => pointed (by rw [none]; rfl)))

/-- Parallel texts start with the same operator of a level, or with none. -/
theorem readOperator {level : List (List Char × BinaryOp)} (listed : level ∈ operatorLevels)
    (here : related text other) :
    Option.Rel (Along related) (Source.readOperator level text)
      (Source.readOperator level other) := by
  have spelt : ∀ level ∈ operatorLevels, ∀ spelling ∈ level, ∀ c ∈ spelling.1,
      isSolid c = true := by decide
  refine findSome?_rel fun spelling member => ?_
  have found := parallel.afterWord (spelt level listed spelling member) here
  unfold readSpelling
  generalize afterWord? spelling.1 text = first, afterWord? spelling.1 other = second at found ⊢
  cases found with
  | none => exact .none
  | some after =>
    simp only [parallel.startsInName after]
    split
    · exact .none
    · exact .some (.read _ after)

/-- A text literal that parallel texts start with is the same. -/
theorem readText {value : String} (here : related text other)
    (read : Source.readText text = some (value, rest)) :
    ∃ rest', Source.readText other = some (value, rest') ∧ related rest rest' := by
  obtain ⟨quote, after, inside, rfl, literal, found⟩ := readText_eq_some read
  have member : quote ∈ quotes := mem_quotes.mpr literal
  obtain ⟨more, rfl, closed⟩ := parallel.quoted member here
  obtain ⟨rest', found', follows⟩ := closed inside rest found
  refine ⟨rest', ?_, follows⟩
  rw [readText_quote member, found] at read
  rw [readText_quote member, found', ← (Prod.mk.inj (Option.some.inj read)).1]
  rfl

/-- A literal that parallel texts start with is the same. -/
theorem readLiteral {expr : Expr} (here : related text other)
    (read : Source.readLiteral text = some (expr, rest)) :
    ∃ rest', Source.readLiteral other = some (expr, rest') ∧ related rest rest' := by
  have word := parallel.readWord here
  have number := parallel.readNumber here
  unfold Source.readLiteral at read ⊢
  generalize Source.readWord text = first, Source.readWord other = first' at word read ⊢
  cases word with
  | some same =>
    obtain ⟨value, after⟩ := same
    cases read
    exact ⟨_, rfl, after⟩
  | none =>
    generalize Source.readNumber text = second, Source.readNumber other = second' at number read ⊢
    cases number with
    | some same =>
      obtain ⟨value, after⟩ := same
      cases read
      exact ⟨_, rfl, after⟩
    | none =>
      obtain ⟨⟨value, _⟩, literal, same⟩ := Option.map_eq_some_iff.mp read
      cases same
      obtain ⟨rest', literal', after⟩ := parallel.readText here literal
      exact ⟨rest', by rw [literal']; rfl, after⟩

/-- A name that is no literal is none in a parallel text. -/
theorem readLiteral_name {c : Char} (starts : isNameStart c = true) {more : List Char}
    (here : related (c :: rest) (c :: more)) (free : Source.readLiteral (c :: rest) = none) :
    Source.readLiteral (c :: more) = none := by
  have word := parallel.readWord here
  have number := parallel.readNumber here
  rw [Source.readLiteral, readText_name starts] at free ⊢
  generalize Source.readWord (c :: rest) = first, Source.readWord (c :: more) = first'
    at word free ⊢
  cases word with
  | some same => contradiction
  | none =>
    generalize Source.readNumber (c :: rest) = second, Source.readNumber (c :: more) = second'
      at number free ⊢
    cases number with
    | some same => contradiction
    | none => rfl

/-- What parallel texts start with after white space is the same, unless it is a quote. -/
theorem skipBlank_cons {c : Char} (unquoted : c ∉ quotes) (here : related text other)
    (found : skipBlank text = c :: rest) :
    ∃ more, skipBlank other = c :: more ∧ related rest more := by
  have after := parallel.skipped here
  rw [found] at after
  exact parallel.same (isBlank_head_skipBlank found) unquoted after

/-- What does not start a text after white space starts a parallel one only if it is a closing
bracket. -/
theorem skipBlank_ne {c : Char} (apart : c ∉ closingBrackets) (here : related text other)
    (absent : ∀ rest, skipBlank text ≠ c :: rest) (more : List Char) :
    skipBlank other ≠ c :: more := by
  intro found
  have after := parallel.skipped here
  rw [found] at after
  cases start : skipBlank text with
  | nil =>
    rw [start] at after
    exact apart (parallel.ended after c rfl)
  | cons d rest =>
    rw [start] at after
    have visible := isBlank_head_skipBlank start
    have unchanged : d = c := by
      by_cases quote : d ∈ quotes
      · obtain ⟨_, same, _⟩ := parallel.quoted quote after
        exact (List.cons.inj same).1.symm
      · obtain ⟨_, same, _⟩ := parallel.same visible quote after
        exact (List.cons.inj same).1.symm
    exact absent rest (unchanged ▸ start)

/-- Parallel texts start with the same prefix operators. -/
theorem readPrefixOps (here : related text other) :
    Along related (Source.readPrefixOps text) (Source.readPrefixOps other) := by
  have operators : ∀ c, (c == '!' || c == '-') = true → isSolid c = true := by
    intro c symbol
    rw [Bool.or_eq_true, beq_iff_eq, beq_iff_eq] at symbol
    rcases symbol with rfl | rfl <;> decide
  have ended : ∀ text : List Char,
      (∀ c ∈ (skipBlank text).head?, (c == '!' || c == '-') = false) →
      Source.readPrefixOps text = ([], skipBlank text) := by
    intro text stops
    rw [← readPrefixOps_skipBlank]
    cases start : skipBlank text with
    | nil => rfl
    | cons c rest =>
      have stopped := stops c (by rw [start]; rfl)
      have visible := isBlank_head_skipBlank start
      rw [Bool.or_eq_false_iff, beq_eq_false_iff_ne, beq_eq_false_iff_ne] at stopped
      exact readPrefixOps_cons (by simp [startsOperand, visible, stopped]) rest
  -- Each operator is met after white space, which is skipped as a whole.
  induction size : text.length using Nat.strongRecOn generalizing text other with
  | ind size ih =>
    have after := parallel.skipped here
    rcases parallel.first operators after with
      ⟨c, rest, more, start, start', symbol, further⟩ | ⟨stops, stops'⟩
    · have ops := ih rest.length (size ▸ (skipBlank_cons_suffix start).2) further rfl
      rw [← readPrefixOps_skipBlank text, ← readPrefixOps_skipBlank other, start, start']
      rw [Bool.or_eq_true, beq_iff_eq, beq_iff_eq] at symbol
      generalize found : Source.readPrefixOps rest = read,
        found' : Source.readPrefixOps more = read' at ops
      cases ops with
      | read ops last =>
        rcases symbol with rfl | rfl
        · rw [Source.readPrefixOps, Source.readPrefixOps, found, found']
          exact .read _ last
        · rw [Source.readPrefixOps, Source.readPrefixOps, found, found']
          exact .read _ last
    · rw [ended text stops, ended other stops']
      exact .read [] after

end Parallel

end DecisionFlow.Source
