import DecisionFlow.Proofs.Expr.Depth
import DecisionFlow.Proofs.Source.Locality
import DecisionFlow.Proofs.Source.Printing

/-!
# White space between tokens

Two sources are respaced when they differ at most in the runs of white space outside text literals:
every run may be another run, but no run may vanish and none may be put where there was none. What
takes a statement apart keeps this relation, the scan of the nesting cannot tell respaced texts
apart, and they are parallel for the readers. So a source that is parsed keeps its tree however it
is respaced (`parse_respaced`).
-/
namespace DecisionFlow.Source

open DecisionFlow.Text

/-- The state with regard to text literals after a character. -/
def QuoteState.after (state : QuoteState) (c : Char) : QuoteState :=
  (({ quote := state } : Scan).step c).quote

/-- White space at the end of a text is trimmed with all that comes after what is left. -/
theorem trimEnd_append (text rest : List Char) :
    trimEnd (text ++ rest) =
      if trimEnd rest = [] then trimEnd text else text ++ trimEnd rest := by
  simp only [trimEnd, List.reverse_append, List.dropWhile_append, List.isEmpty_iff,
    List.reverse_eq_nil_iff]
  split
  · rfl
  · rw [List.reverse_append, List.reverse_reverse]

/-- A semicolon at the end is taken off, with the white space before it. -/
theorem dropSemicolon_concat (before : List Char) :
    dropSemicolon (before ++ [';']) = trimEnd before := by
  rw [dropSemicolon, List.reverse_append, List.reverse_singleton, List.singleton_append]
  exact congrArg trimEnd (List.reverse_reverse before)

/-- Nothing is taken off a text without a semicolon at the end. -/
theorem dropSemicolon_of_open {text : List Char} (open_ : ¬∃ before, text = before ++ [';']) :
    dropSemicolon text = text := by
  unfold dropSemicolon
  split
  · rename_i before reversed
    refine absurd ⟨before.reverse, ?_⟩ open_
    rw [← List.reverse_cons, ← reversed, List.reverse_reverse]
  · rfl

/-- A run of white space: at least one character, and white space only. -/
structure BlankRun (run : List Char) : Prop where
  /-- There is a character. -/
  nonempty : run ≠ []
  /-- All characters are white space. -/
  blank : ∀ c ∈ run, isBlank c = true

/-- Two texts that start in a state with regard to text literals and differ at most in the runs of
white space outside text literals. Whether runs are replaced as a whole or in parts makes no
difference: put together, the parts are runs again. -/
inductive Respaced : QuoteState → List Char → List Char → Prop where
  /-- Both texts are over. -/
  | nil (state : QuoteState) : Respaced state [] []
  /-- A character that is not white space outside text literals is the same. -/
  | keep {state : QuoteState} {c : Char} {rest other : List Char}
    (fixed : state = .outside → isBlank c = false) (follows : Respaced (state.after c) rest other) :
    Respaced state (c :: rest) (c :: other)
  /-- A run of white space outside text literals is another run. -/
  | respace {run run' rest other : List Char} (first : BlankRun run) (second : BlankRun run')
    (follows : Respaced .outside rest other) : Respaced .outside (run ++ rest) (run' ++ other)

/-- No character but a quote leaves the outside of text literals. -/
theorem QuoteState.after_outside {c : Char} (unquoted : c ∉ quotes) :
    QuoteState.after .outside c = .outside := by
  rw [mem_quotes, not_or] at unquoted
  simp only [after, Scan.step, unquoted, or_self, if_false]
  split
  · rfl
  · split
    · rfl
    · split <;> rfl

/-- The scan changes its state with regard to text literals by that state alone. -/
theorem Scan.quote_step (scan : Scan) (c : Char) : (scan.step c).quote = scan.quote.after c := by
  obtain ⟨brackets, ternaries, quote⟩ := scan
  cases quote with
  | outside =>
    simp only [QuoteState.after, Scan.step]
    split
    · rfl
    · split
      · rfl
      · split
        · rfl
        · split <;> rfl
  | inside quote =>
    simp only [QuoteState.after, Scan.step]
    split
    · rfl
    · split <;> rfl
  | escaped quote => rfl

/-- A quote enters a text literal and counts nothing. -/
theorem Scan.step_quote {c : Char} (quote : c ∈ quotes) (brackets ternaries : Nat) :
    ({ brackets, ternaries } : Scan).step c = { brackets, ternaries, quote := .inside c } := by
  rw [step, if_pos (mem_quotes.mp quote)]

/-- A quote enters a text literal. -/
theorem QuoteState.after_quote {c : Char} (quote : c ∈ quotes) :
    QuoteState.after .outside c = .inside c :=
  congrArg Scan.quote (Scan.step_quote quote 0 0)

/-- The quote that a text literal was entered with leaves it. -/
theorem QuoteState.after_close {quote : Char} (literal : quote ∈ quotes) :
    QuoteState.after (.inside quote) quote = .outside := by
  simp [after, Scan.step, ne_backslash_of_mem_quotes literal]

/-- What is neither that quote nor a backslash stays in the text literal. -/
theorem QuoteState.after_plain {quote c : Char} (other : c ≠ quote) (unescaped : c ≠ '\\') :
    QuoteState.after (.inside quote) c = .inside quote := by
  simp [after, Scan.step, other, unescaped]

namespace BlankRun

variable {run : List Char}

/-- A run of white space is skipped. -/
theorem dropWhile_append (blanks : BlankRun run) {p : Char → Bool}
    (skips : ∀ c, isBlank c = true → p c = true) (rest : List Char) :
    (run ++ rest).dropWhile p = rest.dropWhile p := by
  rw [List.dropWhile_append_of_pos fun c member => skips c (blanks.blank c member)]

/-- A run of white space starts with white space. -/
theorem head (blanks : BlankRun run) (rest : List Char) :
    ∃ c more, run ++ rest = c :: more ∧ isBlank c = true := by
  obtain ⟨c, others, rfl⟩ := List.exists_cons_of_ne_nil blanks.nonempty
  exact ⟨c, others ++ rest, rfl, blanks.blank c (.head _)⟩

/-- A run of white space is trimmed away. -/
theorem trimEnd_eq_nil (blanks : BlankRun run) : trimEnd run = [] := by
  have white : ∀ c ∈ run.reverse, isWhiteSpace c = true := fun c member =>
    isWhiteSpace_of_isBlank (blanks.blank c (List.mem_reverse.mp member))
  rw [trimEnd, ← List.append_nil run.reverse, List.dropWhile_append_of_pos white]
  rfl

/-- The scan passes a run of white space without counting. -/
theorem staysWithin (blanks : BlankRun run) {limit : Nat} {scan : Scan}
    (outside : scan.quote = .outside) (rest : List Char) :
    scan.staysWithin limit (run ++ rest) =
      (decide (scan.brackets + scan.ternaries ≤ limit) && scan.staysWithin limit rest) := by
  obtain ⟨brackets, ternaries, quote⟩ := scan
  subst outside
  obtain ⟨nonempty, blank⟩ := blanks
  induction run with
  | nil => contradiction
  | cons c others ih =>
    obtain ⟨first, further⟩ := List.forall_mem_cons.mp blank
    have step : ({ brackets, ternaries } : Scan).step c = { brackets, ternaries } :=
      Scan.step_plain (isPlain_of_isLexical (isLexical_of_isBlank first))
    rw [List.cons_append, Scan.staysWithin, step]
    cases others with
    | nil => rfl
    | cons d others =>
      rw [ih (List.cons_ne_nil d others) further]
      exact Bool.and_self_left ..

/-- A character of white space is a run. -/
theorem single {c : Char} (blank : isBlank c = true) : BlankRun [c] :=
  ⟨nofun, by simpa using blank⟩

end BlankRun

namespace Respaced

variable {state : QuoteState} {text other rest : List Char}

/-- Respacing goes both ways. -/
theorem symm (respaced : Respaced state text other) : Respaced state other text := by
  induction respaced with
  | nil state => exact .nil state
  | keep fixed _ ih => exact .keep fixed ih
  | respace first second _ ih => exact .respace second first ih

/-- Texts that are respaced after the same start are respaced. -/
theorem after_start {start : List Char} {state' : QuoteState}
    (reached : start.foldl QuoteState.after state = state')
    (respaced : Respaced state' text other) : Respaced state (start ++ text) (start ++ other) := by
  induction start generalizing state with
  | nil =>
    subst reached
    exact respaced
  | cons c start ih =>
    have follows := ih reached
    by_cases blank : state = .outside ∧ isBlank c = true
    · obtain ⟨rfl, blank⟩ := blank
      have apart : c ∉ quotes := by
        have visible : ∀ c ∈ quotes, isBlank c = false := by decide
        intro quote
        rw [visible c quote] at blank
        contradiction
      rw [QuoteState.after_outside apart] at follows
      exact @respace [c] [c] _ _ (.single blank) (.single blank) follows
    · refine .keep (fun outside => ?_) follows
      rw [← Bool.not_eq_true]
      exact fun here => blank ⟨outside, here⟩

/-- Only a text without characters is a respaced one. -/
theorem eq_nil (respaced : Respaced state [] other) : other = [] := by
  generalize same : [] = text at respaced
  cases respaced with
  | nil => rfl
  | keep => contradiction
  | respace first =>
    exact absurd (List.append_eq_nil_iff.mp same.symm).1 first.nonempty

/-- A character that is not white space outside text literals is kept. -/
theorem of_cons {c : Char} (respaced : Respaced state (c :: rest) other)
    (fixed : state = .outside → isBlank c = false) :
    ∃ more, other = c :: more ∧ Respaced (state.after c) rest more := by
  generalize same : c :: rest = text at respaced
  cases respaced with
  | nil => contradiction
  | keep _ follows =>
    cases same
    exact ⟨_, rfl, follows⟩
  | @respace _ _ behind _ first _ _ =>
    obtain ⟨d, more, start, blank⟩ := first.head behind
    rw [start] at same
    cases same
    rw [fixed rfl] at blank
    contradiction

/-- White space outside text literals stays white space. -/
theorem of_blank {c : Char} (blank : isBlank c = true)
    (respaced : Respaced .outside (c :: rest) other) : ∀ d ∈ other.head?, isBlank d = true := by
  generalize outside : QuoteState.outside = state, same : c :: rest = text at respaced
  cases respaced with
  | nil => contradiction
  | keep fixed _ =>
    cases same
    rw [fixed outside.symm] at blank
    contradiction
  | @respace _ _ _ behind _ second _ =>
    obtain ⟨d, more, start, blank⟩ := second.head behind
    rw [start]
    rintro _ ⟨⟩
    exact blank

/-- A class of characters with all white space and no quote is dropped from respaced texts. -/
theorem dropWhile {p : Char → Bool} (skips : ∀ c, isBlank c = true → p c = true)
    (stops : ∀ c ∈ quotes, p c = false) (respaced : Respaced .outside text other) :
    Respaced .outside (text.dropWhile p) (other.dropWhile p) := by
  generalize outside : QuoteState.outside = state at respaced
  induction respaced with
  | nil state => exact .nil _
  | @keep state c rest other fixed follows ih =>
    subst outside
    rw [List.dropWhile_cons, List.dropWhile_cons]
    split
    · rename_i dropped
      have unquoted : c ∉ quotes := by
        intro quote
        rw [stops c quote] at dropped
        contradiction
      rw [QuoteState.after_outside unquoted] at ih
      exact ih rfl
    · exact .keep fixed follows
  | respace first second _ ih =>
    rw [first.dropWhile_append skips, second.dropWhile_append skips]
    exact ih rfl

/-- A text literal that is closed is the same in respaced texts. -/
theorem readQuoted {quote : Char} (literal : quote ∈ quotes) {value after : List Char}
    (respaced : Respaced (.inside quote) text other)
    (read : Source.readQuoted quote text = some (value, after)) :
    ∃ after', Source.readQuoted quote other = some (value, after') ∧
      Respaced .outside after after' := by
  have apart := ne_backslash_of_mem_quotes literal
  have quoted : QuoteState.inside quote ≠ .outside := by rintro ⟨⟩
  have skipped : QuoteState.after (.inside quote) '\\' ≠ .outside := by rintro ⟨⟩
  fun_induction Source.readQuoted quote text generalizing value other with
  | case1 => contradiction
  | case2 rest =>
    cases read
    obtain ⟨more, rfl, follows⟩ := respaced.of_cons (absurd · quoted)
    rw [QuoteState.after_close literal] at follows
    exact ⟨more, by rw [Source.readQuoted.eq_def]; exact if_pos rfl, follows⟩
  | case3 => contradiction
  | case4 escaped rest _ ih =>
    obtain ⟨⟨inside, _⟩, found, same⟩ := Option.map_eq_some_iff.mp read
    cases same
    obtain ⟨_, rfl, follows⟩ := respaced.of_cons (absurd · quoted)
    obtain ⟨more, rfl, further⟩ := follows.of_cons (absurd · skipped)
    obtain ⟨after', found', last⟩ := ih further found
    refine ⟨after', ?_, last⟩
    rw [Source.readQuoted.eq_def]
    simp only [apart.symm, if_false, if_true, found']
    rfl
  | case5 c rest other_char unescaped_char ih =>
    obtain ⟨⟨inside, _⟩, found, same⟩ := Option.map_eq_some_iff.mp read
    cases same
    obtain ⟨more, rfl, follows⟩ := respaced.of_cons (absurd · quoted)
    rw [QuoteState.after_plain other_char unescaped_char] at follows
    obtain ⟨after', found', last⟩ := ih follows found
    refine ⟨after', ?_, last⟩
    rw [Source.readQuoted.eq_def]
    simp only [other_char, unescaped_char, if_false, found']
    rfl

/-- Texts that are respaced outside text literals are parallel. -/
theorem parallel : Parallel (Respaced .outside) where
  ended respaced := by
    rw [respaced.eq_nil]
    nofun
  blank blank respaced := respaced.of_blank blank
  skipped respaced := respaced.dropWhile (fun _ blank => blank) (by decide)
  same {_ _ _} visible unquoted respaced := by
    obtain ⟨more, same, follows⟩ := respaced.of_cons fun _ => visible
    rw [QuoteState.after_outside unquoted] at follows
    exact ⟨more, same, follows⟩
  quoted {_ _ _} quote respaced := by
    have visible : ∀ c ∈ quotes, isBlank c = false := by decide
    obtain ⟨more, same, follows⟩ := respaced.of_cons fun _ => visible _ quote
    rw [QuoteState.after_quote quote] at follows
    exact ⟨more, same, fun value after read => follows.readQuoted quote read⟩

/-- Respaced texts have no characters together. -/
theorem eq_nil_iff (respaced : Respaced state text other) : text = [] ↔ other = [] := by
  constructor
  · rintro rfl
    exact respaced.eq_nil
  · rintro rfl
    exact respaced.symm.eq_nil

/-- White space at the ends of respaced texts is trimmed. -/
theorem trimEnd (respaced : Respaced state text other) :
    Respaced state (Text.trimEnd text) (Text.trimEnd other) := by
  induction respaced with
  | nil state => exact .nil state
  | @keep state c rest other fixed _ ih =>
    have first : ∀ rest, c :: rest = [c] ++ rest := fun _ => rfl
    rw [first rest, first other, trimEnd_append, trimEnd_append]
    -- The character is at the end when nothing is left of what follows it.
    by_cases spent : Text.trimEnd rest = []
    · rw [if_pos spent, if_pos (ih.eq_nil_iff.mp spent)]
      by_cases white : isWhiteSpace c = true
      · have gone : Text.trimEnd [c] = [] := by simp [Text.trimEnd, white]
        rw [gone]
        exact .nil state
      · have stays : Text.trimEnd [c] = [c] := by simp [Text.trimEnd, white]
        rw [stays]
        exact .keep fixed (.nil _)
    · rw [if_neg spent, if_neg fun none => spent (ih.eq_nil_iff.mpr none)]
      exact .keep fixed ih
  | @respace run run' rest other first second _ ih =>
    rw [trimEnd_append, trimEnd_append]
    by_cases spent : Text.trimEnd rest = []
    · rw [if_pos spent, if_pos (ih.eq_nil_iff.mp spent), first.trimEnd_eq_nil,
        second.trimEnd_eq_nil]
      exact .nil _
    · rw [if_neg spent, if_neg fun none => spent (ih.eq_nil_iff.mpr none)]
      exact .respace first second ih

/-- White space at both ends of respaced texts is trimmed. -/
theorem trim (respaced : Respaced .outside text other) :
    Respaced .outside (Text.trim text) (Text.trim other) :=
  (respaced.dropWhile (fun _ => isWhiteSpace_of_isBlank) (by decide)).trimEnd

/-- A last character that is not white space is the last one of a respaced text. -/
theorem of_concat {before : List Char} {d : Char} (visible : isBlank d = false)
    (respaced : Respaced state (before ++ [d]) other) :
    ∃ before', other = before' ++ [d] ∧ Respaced state before before' := by
  generalize same : before ++ [d] = text at respaced
  induction respaced generalizing before with
  | nil => exact absurd same (by simp)
  | @keep state c rest other fixed follows ih =>
    cases before with
    | nil =>
      cases same
      rw [follows.eq_nil]
      exact ⟨[], rfl, .nil state⟩
    | cons _ before =>
      cases same
      obtain ⟨before', rfl, inner⟩ := ih rfl
      exact ⟨c :: before', rfl, .keep fixed inner⟩
  | @respace run run' rest other first second follows ih =>
    -- The last character is not in the run, so it is the last one of what follows the run.
    rcases List.eq_nil_or_concat rest with rfl | ⟨behind, e, rfl⟩
    · have last := first.blank d (by rw [← List.append_nil run, ← same]; simp)
      rw [visible] at last
      contradiction
    · rw [List.concat_eq_append, ← List.append_assoc] at same
      obtain ⟨rfl, last⟩ := List.append_inj' same rfl
      cases last
      obtain ⟨behind', rfl, inner⟩ := ih (List.concat_eq_append ..).symm
      exact ⟨run' ++ behind', (List.append_assoc ..).symm, .respace first second inner⟩

/-- A semicolon is taken off the ends of respaced texts. -/
theorem dropSemicolon (respaced : Respaced state text other) :
    Respaced state (Source.dropSemicolon text) (Source.dropSemicolon other) := by
  by_cases closed : ∃ before, text = before ++ [';']
  · obtain ⟨before, rfl⟩ := closed
    obtain ⟨before', rfl, inner⟩ := respaced.of_concat (by decide)
    rw [dropSemicolon_concat, dropSemicolon_concat]
    exact inner.trimEnd
  · have open_ : ¬∃ before', other = before' ++ [';'] := by
      rintro ⟨before', rfl⟩
      obtain ⟨before, same, _⟩ := respaced.symm.of_concat (by decide)
      exact closed ⟨before, same⟩
    rw [dropSemicolon_of_open closed, dropSemicolon_of_open open_]
    exact respaced

/-- Respaced statements are introduced by `return` together, and have respaced expressions. -/
theorem splitStatement (respaced : Respaced .outside text other) :
    (Source.splitStatement other).2 = (Source.splitStatement text).2 ∧
      Respaced .outside (Source.splitStatement text).1 (Source.splitStatement other).1 := by
  have word : ∀ c ∈ "return".toList, isSolid c = true := by decide
  have body := respaced.trim.dropSemicolon
  have introduced := parallel.afterKeyword word body
  unfold Source.splitStatement
  simp only
  generalize afterKeyword? "return".toList (Source.dropSemicolon (Text.trim text)) = found,
    afterKeyword? "return".toList (Source.dropSemicolon (Text.trim other)) = found' at introduced ⊢
  cases introduced with
  | none => exact ⟨rfl, body⟩
  | some after =>
    exact ⟨rfl, after.dropWhile (fun _ => isWhiteSpace_of_isBlank) (by decide)⟩

/-- The scan of the nesting does not tell respaced texts apart. -/
theorem staysWithin {limit : Nat} {scan : Scan} (respaced : Respaced scan.quote text other) :
    scan.staysWithin limit other = scan.staysWithin limit text := by
  generalize same : scan.quote = state at respaced
  induction respaced generalizing scan with
  | nil => rfl
  | @keep state c rest other _ _ ih =>
    have next := @ih (scan.step c) (by rw [Scan.quote_step, same])
    rw [Scan.staysWithin, Scan.staysWithin, next]
  | respace first second _ ih =>
    rw [first.staysWithin same, second.staysWithin same, ih same]

end Respaced

/-- White space between tokens does not matter: a source that is parsed has the same tree when its
runs of white space outside text literals are replaced by other runs, and it is introduced by
`return` as before. -/
theorem parse_respaced {source other : String} {expr : Expr}
    (respaced : Respaced .outside source.toList other.toList) (parsed : parse source = .ok expr) :
    parse other = .ok expr ∧ hasReturn other = hasReturn source := by
  obtain ⟨allowed, shallow, rest, read, trimmed⟩ := parse_eq_ok parsed
  obtain ⟨introduced, body⟩ := respaced.splitStatement
  refine ⟨?_, introduced⟩
  have allowed' : nestingAllowed (splitStatement other.toList).1 = true := by
    rw [nestingAllowed, Respaced.staysWithin body]
    exact allowed
  obtain ⟨rest', read', after, _, _⟩ := unbounded_keeps Respaced.parallel _ _ body expr rest read
  exact parse_of_read allowed' shallow read' (after.trim.eq_nil_iff.mp trimmed)

/-- The white space of a statement is replaced in four places, but not in its text literal. -/
theorem parse_respaced_statement :
    let source := "return (a == \"x  y\") ;"
    let other := "return\n\t(a\r\n==  \"x  y\")\t;"
    let expr : Expr := .binary .eq (.ident "a") (.string "x  y")
    Respaced .outside source.toList other.toList ∧ parse source = .ok expr ∧
      hasReturn source = true ∧ parse other = .ok expr ∧ hasReturn other = true := by
  intro source other expr
  have respaced : Respaced .outside source.toList other.toList := by
    have first : source.toList = "return".toList ++ ([' '] ++ ("(a".toList ++ ([' '] ++
        ("==".toList ++ ([' '] ++ ("\"x  y\")".toList ++ ([' '] ++ [';']))))))) := by decide
    have second : other.toList = "return".toList ++ (['\n', '\t'] ++ ("(a".toList ++
        (['\r', '\n'] ++ ("==".toList ++ ([' ', ' '] ++ ("\"x  y\")".toList ++
          (['\t'] ++ [';']))))))) := by decide
    have run : ∀ run ∈ [[' '], ['\n', '\t'], ['\r', '\n'], [' ', ' '], ['\t']], BlankRun run := by
      have blank : ∀ run ∈ [[' '], ['\n', '\t'], ['\r', '\n'], [' ', ' '], ['\t']],
          run ≠ [] ∧ ∀ c ∈ run, isBlank c = true := by decide
      exact fun run member => ⟨(blank run member).1, (blank run member).2⟩
    rw [first, second]
    refine .after_start (by decide) (.respace (run _ (by decide)) (run _ (by decide)) ?_)
    refine .after_start (by decide) (.respace (run _ (by decide)) (run _ (by decide)) ?_)
    refine .after_start (by decide) (.respace (run _ (by decide)) (run _ (by decide)) ?_)
    refine .after_start (by decide) (.respace (run _ (by decide)) (run _ (by decide)) ?_)
    exact .keep (fun _ => by decide) (.nil _)
  have parsed : parse source = .ok expr := by
    have printable : expr.Printable :=
      .binary (by decide) (.ident (by decide) (by decide)) (.string (by decide))
    have text : expr.toText = "(a == \"x  y\")".toList := by decide
    have split : splitStatement source.toList = (expr.toText, true) := by
      rw [text]
      decide
    have read : unbounded (splitStatement source.toList).1 = .ok (expr, []) := by
      rw [split]
      exact (ReadsBack.of_printable printable).whole_end
    have allowed : nestingAllowed (splitStatement source.toList).1 = true := by
      rw [split, text]
      decide
    exact parse_of_read allowed (Expr.depth_le_iff.mpr (by decide)) read rfl
  have introduced : hasReturn source = true := by decide
  obtain ⟨parsed', introduced'⟩ := parse_respaced respaced parsed
  exact ⟨respaced, parsed, introduced, parsed', introduced'.trans introduced⟩

end DecisionFlow.Source
