import DecisionFlow.Proofs.Source.Phrases
import DecisionFlow.Proofs.Source.Spacing

/-!
# The brackets of a source

Outside text literals, where the scan of the nesting looks for them, the brackets of a source that
is parsed are nested in each other, each closed by one of its kind. Every text literal is closed,
and there is a question mark for each conditional of the tree (`parse_wellBracketed`). So the scan
never meets a closing bracket without an open one.
-/
namespace DecisionFlow.Source

open DecisionFlow.Text

/-- The characters of a text outside text literals, as the scan delimits these. -/
def unquoted : QuoteState → List Char → List Char
  | _, [] => []
  | state, c :: rest =>
    if state = .outside ∧ state.after c = .outside then c :: unquoted (state.after c) rest
    else unquoted (state.after c) rest

section Fold

variable {σ : Type} {step : σ → Char → Option σ} {state after : σ} {text : List Char}

/-- After a text that is passed come the steps of its continuation. -/
theorem foldlM_append_of_some (passed : text.foldlM step state = some after) (rest : List Char) :
    (text ++ rest).foldlM step state = rest.foldlM step after := by
  rw [List.foldlM_append, passed]
  rfl

/-- After a character that is passed come the steps of the rest. -/
theorem foldlM_cons_of_some {c : Char} (passed : step state c = some after) (rest : List Char) :
    (c :: rest).foldlM step state = rest.foldlM step after := by
  rw [List.foldlM_cons, passed]
  rfl

end Fold

/-- All kinds of brackets. -/
def Bracket.all : List Bracket := [.round, .square, .curly]

/-- The brackets that are open after a character, the innermost first. A closing bracket closes the
innermost one and has to be of its kind. -/
def matchBracket (pending : List Bracket) (c : Char) : Option (List Bracket) :=
  match Bracket.all.find? (·.first == c) with
  | some bracket => some (bracket :: pending)
  | none =>
    match Bracket.all.find? (·.last == c) with
    | some bracket => if pending.head? = some bracket then some pending.tail else none
    | none => some pending

/-- Whether brackets are nested in each other and each is closed by one of its kind. -/
def WellBracketed (text : List Char) : Prop := text.foldlM matchBracket [] = some []

/-- What is outside text literals in a text and its continuation. -/
theorem unquoted_append (state : QuoteState) (text rest : List Char) :
    unquoted state (text ++ rest) =
      unquoted state text ++ unquoted (text.foldl QuoteState.after state) rest := by
  induction text generalizing state with
  | nil => rfl
  | cons c text ih =>
    rw [List.cons_append, unquoted, unquoted, List.foldl_cons, ih]
    split <;> rfl

/-- A character that is no quote stays outside text literals. -/
theorem unquoted_cons {c : Char} (apart : c ∉ quotes) (rest : List Char) :
    unquoted .outside (c :: rest) = c :: unquoted .outside rest := by
  rw [unquoted, QuoteState.after_outside apart]
  exact if_pos ⟨rfl, rfl⟩

/-- A quote and what is inside a text literal is not outside. -/
theorem unquoted_skip {state : QuoteState} {c : Char} (quoted : state ≠ .outside ∨ c ∈ quotes)
    (rest : List Char) : unquoted state (c :: rest) = unquoted (state.after c) rest := by
  rw [unquoted]
  refine if_neg fun ⟨here, there⟩ => ?_
  cases quoted with
  | inl inside => exact inside here
  | inr quote =>
    rw [here, QuoteState.after_quote quote] at there
    contradiction

/-- A character is a quote or inside a text literal, or else it is outside. -/
theorem quoted_or_outside (state : QuoteState) (c : Char) :
    (state ≠ .outside ∨ c ∈ quotes) ∨ state = .outside ∧ c ∉ quotes :=
  (Decidable.em _).imp_right fun unquoted =>
    ⟨Decidable.of_not_not fun inside => unquoted (.inl inside),
      fun quote => unquoted (.inr quote)⟩

/-- A text literal ends where the scan leaves it, and nothing in it is outside. -/
theorem Quoted.closes {quote : Char} {text : List Char} (inside : Quoted quote text)
    (literal : quote ∈ quotes) :
    text.foldl QuoteState.after (.inside quote) = .outside ∧
      unquoted (.inside quote) text = [] := by
  have enters (c : Char) (rest : List Char) :
      unquoted (.inside quote) (c :: rest) = unquoted (QuoteState.after (.inside quote) c) rest :=
    unquoted_skip (.inl (by rintro ⟨⟩)) rest
  induction inside with
  | close => exact ⟨QuoteState.after_close literal, enters quote []⟩
  | @escaped c rest _ ih =>
    have back : unquoted (.escaped quote) (c :: rest) = unquoted (.inside quote) rest :=
      unquoted_skip (.inl (by rintro ⟨⟩)) rest
    exact ⟨ih.1, (enters '\\' (c :: rest)).trans (back.trans ih.2)⟩
  | @plain c rest other unescaped _ ih =>
    rw [List.foldl_cons, enters, QuoteState.after_plain other unescaped]
    exact ih

/-- No lexical character is structural or a separator. -/
theorem notMem_of_isLexical {c : Char} (lexical : isLexical c = true) :
    c ∉ structural ++ separators := by
  rw [isLexical, Bool.not_eq_true', List.contains_eq_mem, decide_eq_false_iff_not] at lexical
  exact lexical

/-- Brackets are no quotes. -/
theorem Bracket.notMem_quotes (bracket : Bracket) :
    bracket.first ∉ quotes ∧ bracket.last ∉ quotes := by
  cases bracket <;> decide

namespace Phrase

variable {part : Part} {count : Nat} {text : List Char}

/-- Lexical characters are all outside text literals. -/
theorem unquoted_lexical (all : ∀ c ∈ text, isLexical c = true) :
    text.foldl QuoteState.after .outside = .outside ∧ unquoted .outside text = text := by
  have listed : ∀ c ∈ quotes, c ∈ structural ++ separators := by decide
  induction text with
  | nil => exact ⟨rfl, rfl⟩
  | cons c text ih =>
    obtain ⟨first, others⟩ := List.forall_mem_cons.mp all
    have apart : c ∉ quotes := fun quote => notMem_of_isLexical first (listed c quote)
    rw [List.foldl_cons, QuoteState.after_outside apart, unquoted_cons apart, (ih others).2]
    exact ⟨(ih others).1, rfl⟩

/-- Text literals are closed in a phrase. What passes on from one shape of phrases without text
literals to the next holds of what is outside text literals in any phrase. -/
theorem induct_unquoted {motive : Part → Nat → List Char → Prop}
    (lexical : ∀ {text}, (∀ c ∈ text, isLexical c = true) → motive .operand 0 text)
    (bracketed : ∀ (bracket : Bracket) {count text}, motive .inside count text →
      motive .operand count (bracket.first :: (text ++ [bracket.last])))
    (append : ∀ {count further text rest}, motive .operand count text →
      motive .operand further rest → motive .operand (count + further) (text ++ rest))
    (single : ∀ {count text}, motive .operand count text → motive .whole count text)
    (conditional : ∀ {count first second text yes no}, motive .operand count text →
      motive .whole first yes → motive .whole second no →
      motive .whole (count + first + second + 1) (text ++ '?' :: (yes ++ ':' :: no)))
    (item : ∀ {count text}, motive .whole count text → motive .inside count text)
    (entry : ∀ {count further key text}, motive .operand count key → motive .whole further text →
      motive .inside (count + further) (key ++ ':' :: text))
    (comma : ∀ {count further text rest}, motive .inside count text →
      motive .inside further rest → motive .inside (count + further) (text ++ ',' :: rest))
    (phrase : Phrase part count text) :
    text.foldl QuoteState.after .outside = .outside ∧
      motive part count (unquoted .outside text) := by
  -- A character between two texts that end outside text literals.
  have between {c : Char} (apart : c ∉ quotes) {text : List Char}
      (first : text.foldl QuoteState.after .outside = .outside) (rest : List Char) :
      (text ++ c :: rest).foldl QuoteState.after .outside =
          rest.foldl QuoteState.after .outside ∧
        unquoted .outside (text ++ c :: rest) =
          unquoted .outside text ++ c :: unquoted .outside rest := by
    rw [List.foldl_append, List.foldl_cons, unquoted_append, first, unquoted_cons apart,
      QuoteState.after_outside apart]
    exact ⟨rfl, rfl⟩
  induction phrase with
  | lexical all =>
    obtain ⟨ends, same⟩ := unquoted_lexical all
    rw [same]
    exact ⟨ends, lexical all⟩
  | literal quoted inside =>
    obtain ⟨ends, none⟩ := inside.closes quoted
    rw [List.foldl_cons, unquoted_skip (.inr quoted), QuoteState.after_quote quoted, none]
    exact ⟨ends, lexical nofun⟩
  | @bracketed bracket count text _ ih =>
    obtain ⟨first, last⟩ := bracket.notMem_quotes
    obtain ⟨ends, holds⟩ := ih
    obtain ⟨closes, same⟩ := between last ends []
    rw [List.foldl_cons, QuoteState.after_outside first, unquoted_cons first, same]
    exact ⟨closes, bracketed bracket holds⟩
  | append _ _ first second =>
    rw [List.foldl_append, unquoted_append, first.1]
    exact ⟨second.1, append first.2 second.2⟩
  | single _ ih => exact ⟨ih.1, single ih.2⟩
  | conditional _ _ _ condition yes no =>
    obtain ⟨asked, same⟩ := between (by decide : '?' ∉ quotes) condition.1 _
    obtain ⟨chosen, same'⟩ := between (by decide : ':' ∉ quotes) yes.1 _
    rw [asked, chosen, same, same']
    exact ⟨no.1, conditional condition.2 yes.2 no.2⟩
  | item _ ih => exact ⟨ih.1, item ih.2⟩
  | entry _ _ key value =>
    obtain ⟨ends, same⟩ := between (by decide : ':' ∉ quotes) key.1 _
    rw [ends, same]
    exact ⟨value.1, entry key.2 value.2⟩
  | comma _ _ first second =>
    obtain ⟨ends, same⟩ := between (by decide : ',' ∉ quotes) first.1 _
    rw [ends, same]
    exact ⟨second.1, comma first.2 second.2⟩

end Phrase

section Matching

variable {pending : List Bracket} {c : Char}

/-- An opening bracket is pending from then on. -/
theorem matchBracket_first (bracket : Bracket) :
    matchBracket pending bracket.first = some (bracket :: pending) := by
  cases bracket <;> rfl

/-- The closing bracket of the innermost one closes it. -/
theorem matchBracket_last (bracket : Bracket) :
    matchBracket (bracket :: pending) bracket.last = some pending := by
  cases bracket <;> rfl

/-- What is no bracket opens and closes nothing. -/
theorem matchBracket_other (other : c ∉ brackets) : matchBracket pending c = some pending := by
  have none (side : Bracket → Char) (listed : ∀ bracket, side bracket ∈ brackets) :
      Bracket.all.find? (side · == c) = none := by
    rw [List.find?_eq_none]
    intro bracket _ same
    exact other (eq_of_beq same ▸ listed bracket)
  have first : ∀ bracket : Bracket, bracket.first ∈ brackets := by rintro ⟨⟩ <;> decide
  have last : ∀ bracket : Bracket, bracket.last ∈ brackets := by rintro ⟨⟩ <;> decide
  rw [matchBracket, none Bracket.first first, none Bracket.last last]

/-- A bracket is opened, the innermost one is closed, or there is no bracket. -/
theorem matchBracket_eq_some {after : List Bracket}
    (matched : matchBracket pending c = some after) :
    (∃ bracket : Bracket, c = bracket.first ∧ after = bracket :: pending) ∨
      (∃ bracket : Bracket, c = bracket.last ∧ pending = bracket :: after) ∨
        c ∉ brackets ∧ after = pending := by
  by_cases listed : c ∈ brackets
  · have kinds : ∀ c ∈ brackets, ∃ bracket ∈ Bracket.all, c = bracket.first ∨ c = bracket.last := by
      decide
    obtain ⟨bracket, _, rfl | rfl⟩ := kinds c listed
    · rw [matchBracket_first] at matched
      cases matched
      exact .inl ⟨bracket, rfl, rfl⟩
    · refine .inr (.inl ⟨bracket, rfl, ?_⟩)
      have found : matchBracket pending bracket.last =
          if pending.head? = some bracket then some pending.tail else none := by
        cases bracket <;> rfl
      rw [found] at matched
      split at matched
      · rename_i innermost
        cases matched
        cases pending with
        | nil => contradiction
        | cons top outer =>
          cases innermost
          rfl
      · contradiction
  · rw [matchBracket_other listed] at matched
    cases matched
    exact .inr (.inr ⟨listed, rfl⟩)

end Matching

/-- The brackets of a phrase are nested and matched, whatever is open before it. -/
theorem Phrase.matched {part : Part} {count : Nat} {text : List Char}
    (phrase : Phrase part count text) (pending : List Bracket) :
    (unquoted .outside text).foldlM matchBracket pending = some pending := by
  -- No character between two texts is a bracket.
  have between {c : Char} (other : c ∉ brackets) {text rest : List Char}
      (first : ∀ pending, text.foldlM matchBracket pending = some pending)
      (second : ∀ pending, rest.foldlM matchBracket pending = some pending)
      (pending : List Bracket) :
      (text ++ c :: rest).foldlM matchBracket pending = some pending := by
    rw [foldlM_append_of_some (first pending), foldlM_cons_of_some (matchBracket_other other)]
    exact second pending
  refine (phrase.induct_unquoted (motive := fun _ _ text =>
    ∀ pending, text.foldlM matchBracket pending = some pending) ?lexical ?bracketed ?append ?single
    ?conditional ?item ?entry ?comma).2 pending
  case lexical =>
    intro text all pending
    have listed : ∀ c ∈ brackets, c ∈ structural ++ separators := by decide
    induction text with
    | nil => rfl
    | cons c text ih =>
      obtain ⟨first, others⟩ := List.forall_mem_cons.mp all
      have other : c ∉ brackets := fun bracket => notMem_of_isLexical first (listed c bracket)
      rw [foldlM_cons_of_some (matchBracket_other other)]
      exact ih others
  case bracketed =>
    intro bracket count text inside pending
    rw [foldlM_cons_of_some (matchBracket_first bracket), foldlM_append_of_some (inside _)]
    exact foldlM_cons_of_some (matchBracket_last bracket) []
  case append =>
    intro count further text rest first second pending
    rw [foldlM_append_of_some (first pending)]
    exact second pending
  case single => exact fun operand => operand
  case conditional =>
    exact fun condition yes no => between (by decide) condition (between (by decide) yes no)
  case item => exact fun whole => whole
  case entry => exact fun key value => between (by decide) key value
  case comma => exact fun first second => between (by decide) first second

/-- A phrase ends outside text literals, and the question marks outside them are those of its
conditionals. -/
theorem Phrase.count_unquoted {part : Part} {count : Nat} {text : List Char}
    (phrase : Phrase part count text) :
    text.foldl QuoteState.after .outside = .outside ∧
      (unquoted .outside text).count '?' = count := by
  refine phrase.induct_unquoted (motive := fun _ count text => text.count '?' = count)
    ?lexical ?bracketed ?append ?single ?conditional ?item ?entry ?comma
  case lexical =>
    intro text all
    refine List.count_eq_zero.mpr fun member => ?_
    exact notMem_of_isLexical (all '?' member) (by decide)
  case bracketed =>
    intro bracket count text inside
    have first : (bracket.first == '?') = false := by cases bracket <;> rfl
    have last : (bracket.last == '?') = false := by cases bracket <;> rfl
    rw [List.count_cons, List.count_append, List.count_singleton, inside, first, last]
    rfl
  case append =>
    intro count further text rest first second
    rw [List.count_append, first, second]
  case single => exact fun operand => operand
  case conditional =>
    intro count first second text yes no condition left right
    have colon : (':' == '?') = false := rfl
    rw [List.count_append, List.count_cons_self, List.count_append, List.count_cons, colon, left,
      right, condition]
    simp only [Bool.false_eq_true, if_false]
    omega
  case item => exact fun whole => whole
  case entry =>
    intro count further key text first second
    have colon : (':' == '?') = false := rfl
    rw [List.count_append, List.count_cons, colon, first, second]
    rfl
  case comma =>
    intro count further text rest first second
    have comma : (',' == '?') = false := rfl
    rw [List.count_append, List.count_cons, comma, first, second]
    rfl

/-- The state with regard to text literals after a text. -/
theorem Scan.quote_run (scan : Scan) (text : List Char) :
    (scan.run text).quote = text.foldl QuoteState.after scan.quote := by
  induction text generalizing scan with
  | nil => rfl
  | cons c text ih =>
    rw [List.foldl_cons, ← Scan.quote_step, ← ih]
    rfl

/-- The scan stays outside text literals where there is no quote. -/
theorem Scan.quote_step_outside {scan : Scan} {c : Char} (outside : scan.quote = .outside)
    (apart : c ∉ quotes) : (scan.step c).quote = .outside := by
  rw [Scan.quote_step, outside, QuoteState.after_outside apart]

/-- A quote counts nothing, and neither does what is inside a text literal. -/
theorem Scan.step_quoted {scan : Scan} {c : Char} (quoted : scan.quote ≠ .outside ∨ c ∈ quotes) :
    (scan.step c).brackets = scan.brackets ∧ (scan.step c).ternaries = scan.ternaries := by
  unfold step
  split
  · exact ⟨rfl, rfl⟩
  · split
    · exact ⟨rfl, rfl⟩
    · split <;> exact ⟨rfl, rfl⟩
  · rename_i outside
    have quote : c = '"' ∨ c = '\'' := by
      cases quoted with
      | inl inside => contradiction
      | inr quote => exact mem_quotes.mp quote
    rw [if_pos quote]
    exact ⟨rfl, rfl⟩

/-- Outside text literals brackets and question marks count. -/
theorem Scan.step_unquoted {count ternaries : Nat} {c : Char} (apart : c ∉ quotes) :
    ({ brackets := count, ternaries } : Scan).step c =
      if c ∈ closingBrackets then { brackets := count - 1, ternaries }
      else if c ∈ Source.brackets then { brackets := count + 1, ternaries }
      else if c = '?' then { brackets := count, ternaries := ternaries + 1 }
      else { brackets := count, ternaries } := by
  have quote : ¬(c = '"' ∨ c = '\'') := mem_quotes.not.mp apart
  by_cases closing : c ∈ closingBrackets
  · rw [if_pos closing]
    have closers : ∀ c ∈ closingBrackets, c = ')' ∨ c = ']' ∨ c = '\x7d' := by decide
    rcases closers c closing with rfl | rfl | rfl <;> rfl
  · rw [if_neg closing]
    have other : ¬(c = ')' ∨ c = ']' ∨ c = '\x7d') := by simpa [closingBrackets] using closing
    have opening : c ∈ Source.brackets ↔ c = '(' ∨ c = '[' ∨ c = '\x7b' := by
      simp only [not_or] at other
      simp [Source.brackets, other]
    simp only [step, quote, other, opening, if_false]

/-- The scan counts the brackets that are open, as long as they are matched. -/
theorem Scan.brackets_run (scan : Scan) {pending after : List Bracket} {text : List Char}
    (counted : scan.brackets = pending.length)
    (matched : (unquoted scan.quote text).foldlM matchBracket pending = some after) :
    (scan.run text).brackets = after.length := by
  induction text generalizing scan pending with
  | nil =>
    cases matched
    exact counted
  | cons c text ih =>
    obtain quoted | ⟨outside, apart⟩ := quoted_or_outside scan.quote c
    · rw [unquoted_skip quoted, ← Scan.quote_step] at matched
      exact ih (scan.step c) ((Scan.step_quoted quoted).1.trans counted) matched
    · rw [outside, unquoted_cons apart, ← Scan.quote_step_outside outside apart,
        List.foldlM_cons] at matched
      obtain ⟨middle, first, others⟩ := Option.bind_eq_some_iff.mp matched
      refine ih (scan.step c) ?_ others
      obtain ⟨count, ternaries, _⟩ := scan
      cases outside
      obtain ⟨bracket, rfl, rfl⟩ | ⟨bracket, rfl, rfl⟩ | ⟨other, rfl⟩ := matchBracket_eq_some first
      · rw [Scan.step_first, List.length_cons]
        exact congrArg Nat.succ counted
      · rw [List.length_cons] at counted
        cases counted
        rw [Scan.step_last]
      · have listed : ∀ c ∈ closingBrackets, c ∈ Source.brackets := by decide
        rw [Scan.step_unquoted apart, if_neg fun closer => other (listed c closer), if_neg other]
        split <;> exact counted

/-- In a source that is parsed, outside text literals, the brackets are nested in each other and
each is closed by one of its kind. Every text literal is closed. There are as many question marks
as conditionals in the tree. So the scan has an open bracket to take back wherever it meets a
closing one. -/
theorem parse_wellBracketed {source : String} {expr : Expr} (parsed : parse source = .ok expr) :
    let body := (splitStatement source.toList).1
    WellBracketed (unquoted .outside body) ∧
      (({} : Scan).run body).quote = .outside ∧
      (unquoted .outside body).count '?' = expr.conditionals ∧
      ∀ before c after, body = before ++ c :: after → (({} : Scan).run before).quote = .outside →
        c ∈ closingBrackets → 0 < (({} : Scan).run before).brackets := by
  intro body
  obtain ⟨_, _, rest, read, trimmed⟩ := parse_eq_ok parsed
  have phrase : Phrase .whole expr.conditionals body := phrase_of_read read trimmed
  obtain ⟨ends, asked⟩ := phrase.count_unquoted
  have matched := phrase.matched []
  refine ⟨matched, (Scan.quote_run _ _).trans ends, asked, ?_⟩
  intro before c after split outside closer
  have here : before.foldl QuoteState.after .outside = .outside :=
    (Scan.quote_run _ _).symm.trans outside
  rw [split, unquoted_append, here, unquoted_cons (closingBrackets_apart closer).1,
    List.foldlM_append] at matched
  obtain ⟨pending, passed, rest⟩ := Option.bind_eq_some_iff.mp matched
  obtain ⟨next, closed, _⟩ := Option.bind_eq_some_iff.mp (List.foldlM_cons.symm.trans rest)
  have counted : (({} : Scan).run before).brackets = pending.length :=
    Scan.brackets_run {} rfl passed
  obtain ⟨bracket, rfl, _⟩ | ⟨bracket, _, rfl⟩ | ⟨other, _⟩ := matchBracket_eq_some closed
  · have opening : bracket.first ∉ closingBrackets := by cases bracket <;> decide
    exact absurd closer opening
  · rw [counted]
    exact Nat.succ_pos _
  · have listed : ∀ c ∈ closingBrackets, c ∈ brackets := by decide
    exact absurd (listed c closer) other

/-- Brackets and question marks in text literals do not count, and an escaped quote closes none. -/
theorem parse_wellBracketed_quoted :
    let source := "[(a ? \"?)\\\"]\" : \x7b\"k\": b\x7d)]"
    let expr : Expr := .list [.ternary (.ident "a") (.string "?)\"]") (.map [("k", .ident "b")])]
    parse source = .ok expr ∧ WellBracketed (unquoted .outside source.toList) ∧
      (({} : Scan).run source.toList).quote = .outside ∧
      (unquoted .outside source.toList).count '?' = 1 := by
  intro source expr
  have keyed : (Expr.map [("k", .ident "b")]).Printable := by
    refine .map ?_ ?_
    · simp only [List.forall_mem_singleton]
      decide
    · simp only [List.forall_mem_singleton]
      exact .ident (by decide) (by decide)
  have printable : expr.Printable := by
    refine .list (List.forall_mem_singleton.mpr ?_)
    exact .ternary (.ident (by decide) (by decide)) (.string (by decide)) keyed
  have printed : expr.source = source := by decide
  have parsed : parse source = .ok expr := by
    rw [← printed]
    refine parse_source printable (Expr.depth_le_iff.mpr (by decide)) ?_
    rw [printed]
    decide
  have split : (splitStatement source.toList).1 = source.toList := by decide
  have bracketed := parse_wellBracketed parsed
  rw [split] at bracketed
  exact ⟨parsed, bracketed.1, bracketed.2.1, bracketed.2.2.1⟩

end DecisionFlow.Source
