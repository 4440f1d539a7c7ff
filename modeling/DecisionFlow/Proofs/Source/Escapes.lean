import DecisionFlow.Proofs.Source.Brackets
import DecisionFlow.Proofs.Source.TextLiterals

/-!
# Escaped text literals

Every text has a literal between either kind of quotes: each backslash of the text, and each quote
of that kind, is put behind a backslash. The reader gives the text back and leaves what follows the
literal. The scan of the nesting enters the literal at its first quote and leaves it at its last,
not sooner, whatever the text holds, and counts nothing on the way (`readText_literalOf`).
-/
namespace DecisionFlow.Source

/-- A text as it stands inside its literal. -/
def escapeFor (quote : Char) (text : List Char) : List Char :=
  text.flatMap fun c => if c = '\\' ∨ c = quote then ['\\', c] else [c]

/-- The literal of a text between two quotes. -/
def literalOf (quote : Char) (text : List Char) : List Char :=
  quote :: (escapeFor quote text ++ [quote])

variable {quote : Char}

/-- A backslash and a quote of the literal stand behind a backslash. -/
theorem escapeFor_special {c : Char} (special : c = '\\' ∨ c = quote) (text : List Char) :
    escapeFor quote (c :: text) = '\\' :: c :: escapeFor quote text := by
  rw [escapeFor, List.flatMap_cons, if_pos special]
  rfl

/-- Any other character stands as it is. -/
theorem escapeFor_plain {c : Char} (plain : ¬(c = '\\' ∨ c = quote)) (text : List Char) :
    escapeFor quote (c :: text) = c :: escapeFor quote text := by
  rw [escapeFor, List.flatMap_cons, if_neg plain]
  rfl

/-- An escaped text reads back, up to the closing quote. -/
theorem readQuoted_escapeFor (listed : quote ∈ quotes) (text rest : List Char) :
    readQuoted quote (escapeFor quote text ++ quote :: rest) = some (text, rest) := by
  have apart := ne_backslash_of_mem_quotes listed
  induction text with
  | nil =>
    rw [escapeFor, List.flatMap_nil, List.nil_append, readQuoted.eq_def]
    exact if_pos rfl
  | cons c text ih =>
    by_cases special : c = '\\' ∨ c = quote
    · have itself : unescape c = [c] := by
        have all : ∀ c ∈ '\\' :: quotes, unescape c = [c] := by decide
        refine all c (List.mem_cons.mpr (special.imp_right fun same => ?_))
        rwa [same]
      rw [escapeFor_special special, List.cons_append, List.cons_append, readQuoted.eq_def]
      simp only [apart.symm, if_false, if_true, ih, itself]
      rfl
    · obtain ⟨unescaped, other⟩ := not_or.mp special
      rw [escapeFor_plain special, List.cons_append, readQuoted.eq_def]
      simp only [unescaped, other, if_false, ih]
      rfl

/-- An escaped text is quoted up to the closing quote. -/
theorem quoted_escapeFor (quote : Char) (text : List Char) :
    Quoted quote (escapeFor quote text ++ [quote]) := by
  induction text with
  | nil => exact .close
  | cons c text ih =>
    by_cases special : c = '\\' ∨ c = quote
    · rw [escapeFor_special special]
      exact .escaped c ih
    · obtain ⟨unescaped, other⟩ := not_or.mp special
      rw [escapeFor_plain special]
      exact .plain other unescaped ih

/-- The scan does not leave a text literal before its end. -/
theorem Quoted.encloses {text before : List Char} (inside : Quoted quote text)
    (start : before <+: text) (unfinished : before ≠ text) :
    before.foldl QuoteState.after (.inside quote) ≠ .outside := by
  induction inside generalizing before with
  | close =>
    obtain rfl | ⟨more, rfl, further⟩ := List.prefix_cons_iff.mp start
    · nofun
    · exact absurd (congrArg (quote :: ·) (List.prefix_nil.mp further)) unfinished
  | @escaped c rest _ ih =>
    -- A start may end between the backslash and the character that it takes with it.
    have escapes : QuoteState.after (.inside quote) '\\' = .escaped quote := rfl
    obtain rfl | ⟨more, rfl, further⟩ := List.prefix_cons_iff.mp start
    · nofun
    · rw [List.foldl_cons, escapes]
      obtain rfl | ⟨last, rfl, beyond⟩ := List.prefix_cons_iff.mp further
      · nofun
      · exact ih beyond fun same => unfinished (same ▸ rfl)
  | @plain c rest other unescaped _ ih =>
    obtain rfl | ⟨more, rfl, further⟩ := List.prefix_cons_iff.mp start
    · nofun
    · rw [List.foldl_cons, QuoteState.after_plain other unescaped]
      exact ih further fun same => unfinished (same ▸ rfl)

/-- The scan counts nothing in a text with nothing outside text literals. -/
theorem Scan.counts_run (scan : Scan) {text : List Char} (none : unquoted scan.quote text = []) :
    (scan.run text).brackets = scan.brackets ∧ (scan.run text).ternaries = scan.ternaries := by
  induction text generalizing scan with
  | nil => exact ⟨rfl, rfl⟩
  | cons c text ih =>
    obtain quoted | ⟨outside, apart⟩ := quoted_or_outside scan.quote c
    · rw [unquoted_skip quoted, ← Scan.quote_step] at none
      obtain ⟨brackets, ternaries⟩ := ih (scan.step c) none
      obtain ⟨here, there⟩ := Scan.step_quoted quoted
      exact ⟨brackets.trans here, ternaries.trans there⟩
    · rw [outside, unquoted_cons apart] at none
      contradiction

/-- Nothing in a literal is outside text literals. -/
theorem unquoted_literalOf (listed : quote ∈ quotes) (text : List Char) :
    unquoted .outside (literalOf quote text) = [] := by
  rw [literalOf, unquoted_skip (.inr listed), QuoteState.after_quote listed]
  exact ((quoted_escapeFor quote text).closes listed).2

/-- The scan stands outside text literals at both ends of a literal, and nowhere between. -/
theorem quote_literalOf (listed : quote ∈ quotes) {text before : List Char}
    (start : before <+: literalOf quote text) :
    before.foldl QuoteState.after .outside = .outside ↔
      before = [] ∨ before = literalOf quote text := by
  have inside := quoted_escapeFor quote text
  constructor
  · intro outside
    obtain rfl | ⟨more, rfl, further⟩ := List.prefix_cons_iff.mp start
    · exact .inl rfl
    · rw [List.foldl_cons, QuoteState.after_quote listed] at outside
      by_cases whole : more = escapeFor quote text ++ [quote]
      · exact .inr (whole ▸ rfl)
      · exact absurd outside (inside.encloses further whole)
  · rintro (rfl | rfl)
    · rfl
    · rw [literalOf, List.foldl_cons, QuoteState.after_quote listed]
      exact (inside.closes listed).1

/-- Every text has a literal between either kind of quotes, from which it reads back with any rest
after it. The scan of the nesting, wherever it stands outside text literals, is outside again where
the rest starts and at no place between, and the brackets and question marks in the literal leave
its counts as they are. So a text that starts with the literal stays within a limit when the rest
does. -/
theorem readText_literalOf (listed : quote ∈ quotes) (value : String) (rest : List Char)
    (brackets ternaries : Nat) :
    let literal := literalOf quote value.toList
    let scan : Scan := { brackets, ternaries }
    readText (literal ++ rest) = some (value, rest) ∧
      scan.run literal = scan ∧
      (∀ before, before <+: literal →
        (scan.run before).brackets = brackets ∧ (scan.run before).ternaries = ternaries ∧
          ((scan.run before).quote = .outside ↔ before = [] ∨ before = literal)) ∧
      ∀ limit, brackets + ternaries ≤ limit →
        scan.staysWithin limit (literal ++ rest) = scan.staysWithin limit rest := by
  intro literal scan
  -- A start of the literal has nothing outside text literals either, so nothing counts in it.
  have along (before : List Char) (start : before <+: literal) :
      (scan.run before).brackets = brackets ∧ (scan.run before).ternaries = ternaries ∧
        ((scan.run before).quote = .outside ↔ before = [] ∨ before = literal) := by
    have none : unquoted scan.quote before = [] := by
      obtain ⟨after, whole⟩ := start
      have nothing : unquoted .outside (before ++ after) = [] := whole ▸ unquoted_literalOf listed _
      rw [unquoted_append] at nothing
      exact (List.append_eq_nil_iff.mp nothing).1
    obtain ⟨same, same'⟩ := Scan.counts_run scan none
    rw [Scan.quote_run]
    exact ⟨same, same', quote_literalOf listed start⟩
  have text : literal ++ rest = quote :: (escapeFor quote value.toList ++ quote :: rest) := by
    simp [literal, literalOf]
  have inside := readQuoted_escapeFor listed value.toList rest
  have read : readText (literal ++ rest) = some (value, rest) := by
    rw [text, readText_quote listed, inside]
    exact congrArg (fun inside => some (inside, rest)) String.ofList_toList
  refine ⟨read, ?_, along, fun limit fits => ?_⟩
  · obtain ⟨same, same', outside⟩ := along literal List.prefix_rfl
    have ends := outside.mpr (.inr rfl)
    generalize scan.run literal = last at same same' ends
    obtain ⟨count, asked, state⟩ := last
    cases same
    cases same'
    cases ends
    rfl
  · refine Bool.eq_iff_iff.mpr ⟨Scan.staysWithin_of_readText read, fun within => ?_⟩
    rw [text, Scan.staysWithin_cons, Scan.step_quote listed]
    exact ⟨fits, Scan.staysWithin_quoted (ne_backslash_of_mem_quotes listed) inside fits within⟩

/-- A text that ends in a backslash, with both quotes and brackets in it: the scan is still inside
its literal after the escaped quote, and outside after the last one. -/
theorem readText_literalOf_mixed :
    let value := "'?[\"(\\"
    let literal := "'\\'?[\"(\\\\'".toList
    let rest := "]' ? ".toList
    let scan : Scan := { brackets := 2, ternaries := 1 }
    '\'' ∈ quotes ∧ literalOf '\'' value.toList = literal ∧
      readText (literal ++ rest) = some (value, rest) ∧ scan.run literal = scan ∧
      "'\\'".toList <+: literal ∧ (scan.run "'\\'".toList).quote ≠ .outside ∧
      2 + 1 ≤ 3 ∧ scan.staysWithin 3 (literal ++ rest) = scan.staysWithin 3 rest := by
  intro value literal rest scan
  have listed : '\'' ∈ quotes := by decide
  have same : literalOf '\'' value.toList = literal := by decide
  obtain ⟨read, back, along, within⟩ := readText_literalOf listed value rest 2 1
  simp only [same] at read back along within
  have start : "'\\'".toList <+: literal := by decide
  have inside : (scan.run "'\\'".toList).quote ≠ .outside := fun outside =>
    absurd ((along _ start).2.2.mp outside) (by decide)
  exact ⟨listed, same, read, back, start, inside, by decide, within 3 (by decide)⟩

end DecisionFlow.Source
