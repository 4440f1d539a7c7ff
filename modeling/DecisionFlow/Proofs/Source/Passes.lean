import DecisionFlow.Proofs.Source.Locality
import DecisionFlow.Proofs.Source.Uncounted

/-!
# Passes that get on

A loop of the grammar counts its passes down from the length of the text. Where each pass either
takes something off the text or is the last one, the count is never used up: the loop that repeats
its pass without a count comes to the same result (`repeating_reaches`). So do the loops over the
characters of a text literal and over prefix operators, and with them all lexemes are read without
counts.
-/
namespace DecisionFlow.Source

open DecisionFlow.Text

/-- A rest that is an end of a text, and shorter. -/
def Shorter (rest text : List Char) : Prop := rest <:+ text ∧ rest.length < text.length

namespace Shorter

variable {rest between text : List Char}

/-- What follows the first character is shorter. -/
theorem cons (c : Char) (rest : List Char) : Shorter rest (c :: rest) :=
  ⟨List.suffix_cons c rest, Nat.lt_succ_self _⟩

/-- An end of a shorter rest is shorter. -/
theorem after (shorter : Shorter between text) (suffix : rest <:+ between) : Shorter rest text :=
  ⟨suffix.trans shorter.1, Nat.lt_of_le_of_lt suffix.length_le shorter.2⟩

/-- A shorter rest of an end is shorter. -/
theorem within (shorter : Shorter rest between) (suffix : between <:+ text) : Shorter rest text :=
  ⟨shorter.1.trans suffix, Nat.lt_of_lt_of_le shorter.2 suffix.length_le⟩

/-- What follows the first character after white space is shorter. -/
theorem skipBlank {c : Char} (skipped : Text.skipBlank text = c :: rest) : Shorter rest text :=
  skipBlank_cons_suffix skipped

/-- What follows a name is shorter. -/
theorem readName {name : String} (read : Source.readName text = some (name, rest)) :
    Shorter rest text := by
  obtain ⟨c, more, rfl, starts⟩ := readName_cons read
  rw [Source.readName, if_pos starts] at read
  cases read
  exact (cons c more).after (List.dropWhile_suffix _)

/-- What follows a word is shorter. -/
theorem afterWord {word : List Char} (some_char : word ≠ [])
    (found : afterWord? word text = some rest) : Shorter rest text := by
  unfold afterWord? at found
  split at found
  · rename_i starts
    obtain ⟨after, rfl⟩ := List.isPrefixOf_iff_prefix.mp starts
    rw [List.drop_left] at found
    cases found
    have longer := List.length_pos_iff.mpr some_char
    exact ⟨List.suffix_append word rest, by rw [List.length_append]; omega⟩
  · contradiction

/-- What follows a literal word is shorter. -/
theorem readWord {expr : Expr} (read : Source.readWord text = some (expr, rest)) :
    Shorter rest text := by
  have spelt : ∀ literal ∈ wordLiterals, literal.1 ≠ [] := by decide
  obtain ⟨literal, listed, found⟩ := List.exists_of_findSome?_eq_some read
  obtain ⟨after, keyword, same⟩ := Option.map_eq_some_iff.mp found
  cases same
  unfold afterKeyword? at keyword
  split at keyword
  · split at keyword
    · contradiction
    · cases keyword
      exact afterWord (spelt literal listed) ‹_›
  · contradiction

/-- What follows a number is shorter. -/
theorem readNumber {expr : Expr} (read : Source.readNumber text = some (expr, rest)) :
    Shorter rest text := by
  simp only [Source.readNumber] at read
  split at read
  · contradiction
  · rename_i some_digit
    have digits : Shorter (text.dropWhile Char.isDigit) text := by
      have split : text.takeWhile Char.isDigit ++ text.dropWhile Char.isDigit = text :=
        List.takeWhile_append_dropWhile
      have total := congrArg List.length split
      have longer := List.length_pos_iff.mpr fun none => some_digit (List.isEmpty_iff.mpr none)
      rw [List.length_append] at total
      exact ⟨List.dropWhile_suffix _, by omega⟩
    split at read
    · split at read
      · cases read
        exact digits
      · contradiction
    · cases read
      exact digits.after (List.drop_suffix _ _)

/-- What follows an operator is shorter. -/
theorem readOperator {level : List (List Char × BinaryOp)} (listed : level ∈ operatorLevels)
    {op : BinaryOp} (read : Source.readOperator level text = some (op, rest)) :
    Shorter rest text :=
  ⟨(Over.readOperator listed read).suffix, readOperator_shorter listed read⟩

end Shorter

/-- A course that comes to the result of a reading, and a rest that stands somewhere. No count is
used up in the reading. -/
inductive Reaches {α : Type} (here : List Char → Prop) :
    Course (α × List Char) → Except Failure (α × List Char) → Prop where
  /-- Something was read. -/
  | read (value : α) {rest : List Char} (stays : here rest) :
    Reaches here (.ended (.ok (value, rest))) (.ok (value, rest))
  /-- Something was missing. -/
  | missing (wanted : Wanted) (rest : List Char) :
    Reaches here (.ended (.error (.expected wanted rest))) (.error (.expected wanted rest))

namespace Reaches

variable {α β : Type} {here there : List Char → Prop} {course : Course (α × List Char)}
  {result : Except Failure (α × List Char)}

/-- The course ends. -/
theorem eq (reaches : Reaches here course result) : course = .ended result := by
  cases reaches <;> rfl

/-- The rest stands where it should. -/
theorem stays (reaches : Reaches here course result) {value : α} {rest : List Char}
    (read : result = .ok (value, rest)) : here rest := by
  cases reaches with
  | read value stays =>
    cases read
    exact stays
  | missing => contradiction

/-- The rest may stand in a wider place. -/
theorem mono (reaches : Reaches here course result) (wider : ∀ rest, here rest → there rest) :
    Reaches there course result := by
  cases reaches with
  | read value stays => exact .read value (wider _ stays)
  | missing wanted rest => exact .missing wanted rest

/-- A course is followed like the reading. -/
theorem bind {next : α × List Char → Course (β × List Char)}
    {next' : α × List Char → Except Failure (β × List Char)}
    (reaches : Reaches here course result)
    (follows : ∀ value rest, here rest →
      Reaches there (next (value, rest)) (next' (value, rest))) :
    Reaches there (course >>= next) (result >>= next') := by
  cases reaches with
  | read value stays => exact follows value _ stays
  | missing wanted rest => exact .missing wanted rest

/-- What was read is changed. -/
theorem map (reaches : Reaches here course result) (change : α → β) :
    Reaches here (do
      let (value, rest) ← course
      return (change value, rest)) (result.map fun (value, rest) => (change value, rest)) := by
  cases reaches with
  | read value stays => exact .read (change value) stays
  | missing wanted rest => exact .missing wanted rest

/-- A missing name is reported instead of anything else. -/
theorem orName (reaches : Reaches here course result) (text : List Char) :
    Reaches here (Uncounted.orElse course (throw (.expected .name text))) (orName text result) := by
  cases reaches with
  | read value stays => exact .read value stays
  | missing wanted rest => exact .missing .name text

/-- Taking one certain character is followed like the reading. -/
theorem closing {text : List Char} {last : Char} {next : List Char → Course (β × List Char)}
    {next' : List Char → Except Failure (β × List Char)}
    (follows : ∀ rest, Shorter rest text → Reaches there (next rest) (next' rest)) :
    Reaches there (Course.ended (closing last text) >>= next) (closing last text >>= next') := by
  unfold Source.closing
  split
  · exact .missing .character []
  · rename_i first rest skipped
    split
    · exact follows rest (.skipBlank skipped)
    · exact .missing .character (first :: rest)

end Reaches

/-- What a pass of a loop comes to is a step of the loop with a count. It goes on with less text,
or it stops. -/
inductive Turns {σ α : Type} (further : σ → Reader α) (text : List Char) :
    Course (Pass σ α) → Except Failure (α × List Char) → Prop where
  /-- The loop goes on. -/
  | again (state : σ) {rest : List Char} (shorter : Shorter rest text) :
    Turns further text (.ended (.ok (.again state rest))) (further state rest)
  /-- The loop stops. -/
  | stop (value : α) {rest : List Char} (suffix : rest <:+ text) :
    Turns further text (.ended (.ok (.stop value rest))) (.ok (value, rest))
  /-- Something was missing. -/
  | missing (wanted : Wanted) (rest : List Char) :
    Turns further text (.ended (.error (.expected wanted rest))) (.error (.expected wanted rest))

/-- A loop goes on with what is read in the pass, or misses it. -/
theorem Turns.read {σ α β : Type} {further : σ → Reader α} {text : List Char}
    {here : List Char → Prop} {course : Course (β × List Char)}
    {result : Except Failure (β × List Char)} (reaches : Reaches here course result)
    (shorter : ∀ rest, here rest → Shorter rest text) (state : β → σ) :
    Turns further text (do
      let (value, rest) ← course
      return .again (state value) rest) (do
      let (value, rest) ← result
      further (state value) rest) := by
  cases reaches with
  | read value stays => exact .again (state value) (shorter _ stays)
  | missing wanted rest => exact .missing wanted rest

/-- A loop without a count comes to what the loop comes to with a count for each character. -/
theorem repeating_reaches {σ α : Type} {pass : LoopPass σ α} (loop : Nat → σ → Reader α)
    {size : Nat} (empty : ∀ state, Turns (loop 0) [] (pass state []) (loop 0 state []))
    (each : ∀ count state text, text.length < size →
      Turns (loop count) text (pass state text) (loop (count + 1) state text))
    {count : Nat} (state : σ) {text : List Char} (short : text.length < size)
    (enough : text.length ≤ count) :
    Reaches (· <:+ text) (repeating pass state text) (loop count state text) := by
  -- A pass that goes on leaves less text, so the text is used up before the count is.
  induction count generalizing state text with
  | zero =>
    obtain rfl := List.length_eq_zero_iff.mp (Nat.le_zero.mp enough)
    have turns := empty state
    rw [repeating_eq]
    generalize pass state [] = course, loop 0 state [] = result at turns ⊢
    cases turns with
    | again state shorter => exact absurd shorter.2 (Nat.not_lt_zero _)
    | stop value suffix => exact .read value suffix
    | missing wanted rest => exact .missing wanted rest
  | succ count ih =>
    have turns := each count state text short
    rw [repeating_eq]
    generalize pass state text = course, loop (count + 1) state text = result at turns ⊢
    cases turns with
    | again state shorter =>
      have less := shorter.2
      have further := ih state (Nat.lt_trans less short) (by omega)
      exact further.mono fun rest suffix => suffix.trans shorter.1
    | stop value suffix => exact .read value suffix
    | missing wanted rest => exact .missing wanted rest

/-- A reading of a lexeme that may not be there. -/
def lexeme {α : Type} (text : List Char) (found : Option (α × List Char)) :
    Except Failure (α × List Char) :=
  match found with
  | some found => .ok found
  | none => .error (.expected .character text)

/-- A lexeme that is changed is missing where the lexeme is. -/
theorem lexeme_map {α β : Type} (text : List Char) (found : Option (α × List Char))
    (change : α → β) :
    lexeme text (found.map fun (value, rest) => (change value, rest)) =
      (lexeme text found).map fun (value, rest) => (change value, rest) := by
  cases found <;> rfl

/-- What is read of the inside of a text literal, after a part of it. -/
def quotedFrom (quote : Char) (start inside : List Char) : Reader (List Char) := fun text =>
  lexeme start ((readQuoted quote text).map fun (more, rest) => (inside ++ more, rest))

/-- A pass over the inside of a text literal. -/
theorem quotedPass_turns (quote : Char) (start inside text : List Char) :
    Turns (quotedFrom quote start) text (Uncounted.quotedPass quote start inside text)
      (quotedFrom quote start inside text) := by
  -- What is read behind a part goes on with it.
  have further (part rest : List Char) :
      lexeme start (((readQuoted quote rest).map fun (more, rest) => (part ++ more, rest)).map
        fun (more, rest) => (inside ++ more, rest)) =
        quotedFrom quote start (inside ++ part) rest := by
    simp only [quotedFrom, Option.map_map, Function.comp_def, List.append_assoc]
  rw [quotedFrom]
  fun_cases readQuoted quote text with
  | case1 => exact .missing _ _
  | case2 rest =>
    simp only [Uncounted.quotedPass, if_true, Option.map_some, List.append_nil]
    exact .stop inside (List.suffix_cons quote rest)
  | case3 other =>
    simp only [Uncounted.quotedPass, other, if_true, if_false]
    exact .missing _ _
  | case4 escaped rest other =>
    simp only [Uncounted.quotedPass, other, if_true, if_false, further]
    exact .again _ ((Shorter.cons escaped rest).within (List.suffix_cons _ _))
  | case5 c rest other plain =>
    simp only [Uncounted.quotedPass, other, plain, if_false]
    exact further [c] rest ▸ .again _ (.cons c rest)

/-- A text literal is read without counts. -/
theorem textLiteral_reaches (text : List Char) :
    Reaches (Shorter · text) (Uncounted.textLiteral text) (lexeme text (readText text)) := by
  cases text with
  | nil => exact .missing _ _
  | cons c rest =>
    by_cases quote : c = '"' ∨ c = '\''
    · have inside := repeating_reaches (fun _ => quotedFrom c (c :: rest))
        (fun _ => quotedPass_turns ..) (fun _ _ _ _ => quotedPass_turns ..) []
        (Nat.lt_succ_self rest.length) (Nat.le_refl _)
      have read : lexeme (c :: rest) (readText (c :: rest)) =
          (quotedFrom c (c :: rest) [] rest).map
            fun (inside, rest) => (String.ofList inside, rest) := by
        rw [readText_quote (mem_quotes.mpr quote), quotedFrom]
        cases readQuoted c rest with
        | none => rfl
        | some found => rfl
      rw [read]
      simp only [Uncounted.textLiteral, quote, if_true]
      exact (inside.mono fun _ suffix => (Shorter.cons c rest).after suffix).map String.ofList
    · have unread : readText (c :: rest) = none := by
        rw [not_or] at quote
        simp [readText, quote]
      simp only [Uncounted.textLiteral, quote, if_false, unread]
      exact .missing _ _

/-- A literal is read without counts. -/
theorem literal_reaches (text : List Char) :
    Reaches (Shorter · text) (Uncounted.literal text) (lexeme text (readLiteral text)) := by
  unfold Uncounted.literal readLiteral
  cases word : readWord text with
  | some found => exact .read found.1 (.readWord word)
  | none =>
    simp only
    cases number : readNumber text with
    | some found => exact .read found.1 (.readNumber number)
    | none =>
      simp only [lexeme_map]
      exact (textLiteral_reaches text).map Expr.string

/-- The key of a map entry is read without counts. -/
theorem mapKey_reaches (text : List Char) :
    Reaches (Shorter · text) (Uncounted.mapKey text) (mapKey text) := by
  have literal := textLiteral_reaches text
  unfold Uncounted.mapKey mapKey
  generalize Uncounted.textLiteral text = course at literal ⊢
  cases found : readText text with
  | some found =>
    rw [found] at literal
    cases literal with
    | read value stays => exact .read value stays
  | none =>
    rw [found] at literal
    cases literal with
    | missing wanted rest =>
      rw [Uncounted.orElse_error]
      cases named : readName text with
      | some found => exact .read found.1 (.readName named)
      | none => exact .missing .name text

/-- The prefix operators that are read, after others. -/
def prefixesFrom (ops : List UnaryOp) : Reader (List UnaryOp) := fun text =>
  .ok (ops ++ (readPrefixOps text).1, (readPrefixOps text).2)

/-- Prefix operators are read before their operand. -/
theorem unary_eq_prefixesFrom (expr : Reader Expr) (text : List Char) :
    unary expr text = (do
      let (ops, rest) ← prefixesFrom [] text
      let (operand, rest) ← accessed expr rest
      return (ops.foldr .unary operand, rest)) := rfl

/-- A pass over prefix operators. -/
theorem prefixPass_turns (ops : List UnaryOp) (text : List Char) :
    Turns prefixesFrom text (Uncounted.prefixPass ops text) (prefixesFrom ops text) := by
  have further (op : UnaryOp) (rest : List Char) :
      prefixesFrom ops (op.symbol.toList ++ rest) = prefixesFrom (ops ++ [op]) rest := by
    have read : readPrefixOps (op.symbol.toList ++ rest) =
        (op :: (readPrefixOps rest).1, (readPrefixOps rest).2) := by
      cases op <;> rfl
    simp only [prefixesFrom, read, List.append_assoc, List.singleton_append]
  have skips : prefixesFrom ops text = prefixesFrom ops (skipBlank text) := by
    simp only [prefixesFrom, readPrefixOps_skipBlank]
  rw [skips]
  unfold Uncounted.prefixPass
  split
  · rename_i rest skipped
    rw [skipped]
    exact further .not rest ▸ .again _ (.skipBlank skipped)
  · rename_i rest skipped
    rw [skipped]
    exact further .neg rest ▸ .again _ (.skipBlank skipped)
  · rename_i no_not no_neg
    have none : readPrefixOps (skipBlank text) = ([], skipBlank text) := by
      cases skipped : skipBlank text with
      | nil => rfl
      | cons c rest =>
        have starts : startsOperand c = true := by
          have visible := isBlank_head_skipBlank skipped
          have apart : c ≠ '!' := fun same => no_not rest (by rw [skipped, same])
          have apart' : c ≠ '-' := fun same => no_neg rest (by rw [skipped, same])
          simp [startsOperand, visible, apart, apart']
        exact readPrefixOps_cons starts rest
    have stops : prefixesFrom ops (skipBlank text) = .ok (ops, skipBlank text) := by
      simp only [prefixesFrom, none, List.append_nil]
    rw [stops]
    exact .stop ops (skipBlank_suffix text)

end DecisionFlow.Source
