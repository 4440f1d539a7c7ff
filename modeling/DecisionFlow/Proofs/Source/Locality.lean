import DecisionFlow.Proofs.Source.Parallel

/-!
# Readers of parallel texts

What is read at the start of a text is read at the start of every parallel text. Each reader of the
grammar keeps its readings: where it reads something off a text, it reads the same off a parallel
text, and the rests are parallel (`unbounded_keeps`). This is about success only. A reader that
fails may well succeed on a text that goes on, and the readers that recover from failures are those
of items: these stop before an item that cannot be read, so they are taken together with the closing
bracket that they then have to find.
-/
namespace DecisionFlow.Source

open DecisionFlow.Text

/-- What follows a text literal is an end of the text. -/
theorem readQuoted_suffix {quote : Char} {text value rest : List Char}
    (read : readQuoted quote text = some (value, rest)) : rest <:+ text := by
  fun_induction readQuoted quote text generalizing value with
  | case1 => contradiction
  | case2 after =>
    cases read
    exact List.suffix_cons _ _
  | case3 => contradiction
  | case4 escaped after other ih =>
    obtain ⟨⟨inside, _⟩, found, same⟩ := Option.map_eq_some_iff.mp read
    cases same
    exact (ih found).trans ((List.suffix_cons _ _).trans (List.suffix_cons _ _))
  | case5 c after other plain ih =>
    obtain ⟨⟨inside, _⟩, found, same⟩ := Option.map_eq_some_iff.mp read
    cases same
    exact (ih found).trans (List.suffix_cons _ _)

/-- What follows a text literal is an end of the text. -/
theorem readText_suffix {text rest : List Char} {value : String}
    (read : readText text = some (value, rest)) : rest <:+ text := by
  obtain ⟨quote, after, inside, rfl, _, found⟩ := readText_eq_some read
  exact (readQuoted_suffix found).trans (List.suffix_cons _ _)

/-- What follows a literal is an end of the text. -/
theorem readLiteral_suffix {text rest : List Char} {expr : Expr}
    (read : readLiteral text = some (expr, rest)) : rest <:+ text := by
  unfold readLiteral at read
  split at read
  · cases read
    exact (Over.readWord ‹_›).suffix
  · split at read
    · cases read
      exact (Over.readNumber ‹_›).suffix
    · obtain ⟨⟨value, _⟩, literal, same⟩ := Option.map_eq_some_iff.mp read
      cases same
      exact readText_suffix literal

/-- One certain character is taken where it is the first one that is not white space. -/
theorem closing_eq_ok {last : Char} {text rest : List Char} (found : closing last text = .ok rest) :
    skipBlank text = last :: rest := by
  unfold closing at found
  split at found
  · contradiction
  · rename_i first after skipped
    split at found
    · rename_i same
      cases found
      rw [skipped, same]
    · contradiction

/-- What follows one certain character is an end of the text. -/
theorem closing_suffix {last : Char} {text rest : List Char}
    (found : closing last text = .ok rest) : rest <:+ text :=
  (skipBlank_cons_suffix (closing_eq_ok found)).1

/-- One certain character is taken alike off parallel texts. -/
theorem Parallel.closing {related : List Char → List Char → Prop} (parallel : Parallel related)
    {last : Char} (unquoted : last ∉ quotes) {text other rest : List Char}
    (here : related text other) (found : closing last text = .ok rest) :
    ∃ rest', Source.closing last other = .ok rest' ∧ related rest rest' := by
  obtain ⟨rest', skipped, after⟩ := parallel.skipBlank_cons unquoted here (closing_eq_ok found)
  refine ⟨rest', ?_, after⟩
  rw [Source.closing, skipped]
  exact if_pos rfl

/-- An operator has a character. -/
theorem readOperator_shorter {level : List (List Char × BinaryOp)} (listed : level ∈ operatorLevels)
    {text rest : List Char} {op : BinaryOp} (found : readOperator level text = some (op, rest)) :
    rest.length < text.length := by
  have spelt : ∀ level ∈ operatorLevels, ∀ spelling ∈ level, 0 < spelling.1.length := by decide
  obtain ⟨spelling, member, read⟩ := List.exists_of_findSome?_eq_some found
  have some_char := spelt level listed spelling member
  unfold readSpelling afterWord? at read
  split at read
  · rename_i rest' word
    split at word
    · rename_i starts
      split at read
      · contradiction
      · cases read
        cases word
        have short := (List.isPrefixOf_iff_prefix.mp starts).length_le
        rw [List.length_drop]
        omega
    · contradiction
  · contradiction

/-- A reading of a text that is kept on another text: the other reading has the same value, and the
rests, which are ends of the texts, are related. -/
def Keeps {α : Type} (related : List Char → List Char → Prop) (text text' : List Char)
    (result result' : Except Failure (α × List Char)) : Prop :=
  ∀ value rest, result = .ok (value, rest) →
    ∃ rest', result' = .ok (value, rest') ∧ related rest rest' ∧ rest <:+ text ∧ rest' <:+ text'

/-- A reader whose readings are kept by another on related texts. -/
def Local {α : Type} (related : List Char → List Char → Prop) (reader reader' : Reader α) : Prop :=
  ∀ text text', related text text' → Keeps related text text' (reader text) (reader' text')

namespace Keeps

variable {α β : Type} {related : List Char → List Char → Prop} {text text' : List Char}

/-- What is read without fail is kept. -/
theorem read {value : α} {rest rest' : List Char} (after : related rest rest')
    (suffix : rest <:+ text) (suffix' : rest' <:+ text') :
    Keeps related text text' (.ok (value, rest)) (.ok (value, rest')) := by
  intro _ _ found
  cases found
  exact ⟨rest', rfl, after, suffix, suffix'⟩

/-- Nothing more is read where the reading ends. -/
theorem stop {value : α} (here : related text text') :
    Keeps related text text' (.ok (value, text)) (.ok (value, text')) :=
  read here (List.suffix_refl _) (List.suffix_refl _)

/-- A failure is kept by anything. -/
theorem failed {failure : Failure} {result' : Except Failure (α × List Char)} :
    Keeps related text text' (.error failure) result' := nofun

/-- A reading of ends of texts is one of the texts. -/
theorem mono {part part' : List Char} {result result' : Except Failure (α × List Char)}
    (keeps : Keeps related part part' result result') (suffix : part <:+ text)
    (suffix' : part' <:+ text') : Keeps related text text' result result' := by
  intro value rest found
  obtain ⟨rest', same, after, shorter, shorter'⟩ := keeps value rest found
  exact ⟨rest', same, after, shorter.trans suffix, shorter'.trans suffix'⟩

/-- A reading that is kept is followed by one that is kept. -/
theorem bind {result result' : Except Failure (α × List Char)}
    {next next' : α × List Char → Except Failure (β × List Char)}
    (keeps : Keeps related text text' result result')
    (follows : ∀ value rest rest', related rest rest' → rest <:+ text → rest' <:+ text' →
      Keeps related rest rest' (next (value, rest)) (next' (value, rest'))) :
    Keeps related text text' (result >>= next) (result' >>= next') := by
  cases result with
  | error failure => exact failed
  | ok read =>
    obtain ⟨rest', same, after, suffix, suffix'⟩ := keeps read.1 read.2 rfl
    rw [same]
    exact (follows read.1 read.2 rest' after suffix suffix').mono suffix suffix'

/-- Changing what was read keeps the reading. -/
theorem map {result result' : Except Failure (α × List Char)}
    (keeps : Keeps related text text' result result') (change : α → β) :
    Keeps related text text' (result.map fun (value, rest) => (change value, rest))
      (result'.map fun (value, rest) => (change value, rest)) := by
  cases result with
  | error failure => exact failed
  | ok found =>
    obtain ⟨rest', same, after, suffix, suffix'⟩ := keeps found.1 found.2 rfl
    rw [same]
    exact read after suffix suffix'

/-- Reporting a missing name keeps the reading. -/
theorem orName {result result' : Except Failure (α × List Char)}
    (keeps : Keeps related text text' result result') (start start' : List Char) :
    Keeps related text text' (orName start result) (orName start' result') := by
  cases result with
  | error failure => cases failure <;> exact failed
  | ok found =>
    obtain ⟨rest', same, after, suffix, suffix'⟩ := keeps found.1 found.2 rfl
    rw [same]
    exact read after suffix suffix'

/-- Taking one certain character is followed by a reading that is kept. -/
theorem closing (parallel : Parallel related) (here : related text text') {last : Char}
    (unquoted : last ∉ quotes) {next next' : List Char → Except Failure (β × List Char)}
    (follows : ∀ rest rest', related rest rest' →
      Keeps related rest rest' (next rest) (next' rest')) :
    Keeps related text text' (closing last text >>= next) (closing last text' >>= next') := by
  cases found : Source.closing last text with
  | error failure => exact failed
  | ok rest =>
    obtain ⟨rest', found', after⟩ := parallel.closing unquoted here found
    rw [found']
    exact (follows rest rest' after).mono (closing_suffix found) (closing_suffix found')

end Keeps

/-- An item in front of further ones is read when these are. -/
theorem cons_eq_ok {α : Type} {first : α} {result : Except Failure (List α × List Char)}
    {read : List α} {rest : List Char}
    (found : (do
      let (others, rest) ← result
      return (first :: others, rest)) = .ok (read, rest)) :
    ∃ others, result = .ok (others, rest) ∧ read = first :: others := by
  cases result with
  | error failure => contradiction
  | ok more =>
    cases found
    exact ⟨more.1, rfl, rfl⟩

/-- Closing brackets are neither quotes nor commas. -/
theorem closingBrackets_apart {last : Char} (closing : last ∈ closingBrackets) :
    last ∉ quotes ∧ last ≠ ',' := by
  have all : ∀ c ∈ closingBrackets, c ∉ quotes ∧ c ≠ ',' := by decide
  exact all last closing

section Readers

variable {related : List Char → List Char → Prop} (parallel : Parallel related)

include parallel

section Items

variable {α : Type} {item item' : Reader α} (keeps : Local related item item') {last : Char}
  (closing : last ∈ closingBrackets)

include keeps closing

/-- Further items are kept where the closing bracket follows them: no item after a comma is missing
then. -/
theorem moreItems_keeps {count count' : Nat} {text text' : List Char} (here : related text text')
    (enough : text.length ≤ count) (enough' : text'.length ≤ count') {read : List α}
    {rest closed : List Char} (found : moreItems item count text = .ok (read, rest))
    (closes : skipBlank rest = last :: closed) :
    ∃ rest', moreItems item' count' text' = .ok (read, rest') ∧ related rest rest' ∧
      rest <:+ text ∧ rest' <:+ text' := by
  obtain ⟨unquoted, apart⟩ := closingBrackets_apart closing
  induction count generalizing text text' count' read with
  | zero =>
    rw [List.length_eq_zero_iff.mp (Nat.le_zero.mp enough)] at found
    cases found
    contradiction
  | succ count ih =>
    rw [moreItems] at found
    split at found
    · rename_i after skipped
      obtain ⟨after', skipped', behind⟩ := parallel.skipBlank_cons (by decide) here skipped
      obtain ⟨part, shorter⟩ := skipBlank_cons_suffix skipped
      obtain ⟨part', shorter'⟩ := skipBlank_cons_suffix skipped'
      cases count' with
      | zero => omega
      | succ count' =>
        split at found
        · rename_i first next first_found
          obtain ⟨next', first_found', there, suffix, suffix'⟩ :=
            keeps _ _ (parallel.skipped behind) _ _ first_found
          have inside := suffix.trans (skipBlank_suffix after)
          have inside' := suffix'.trans (skipBlank_suffix after')
          have less := inside.length_le
          have less' := inside'.length_le
          obtain ⟨others, others_found, rfl⟩ := cons_eq_ok found
          have enough' : next'.length ≤ count' := by omega
          obtain ⟨rest', others_found', follows, further, further'⟩ :=
            ih there (by omega) enough' others_found
          refine ⟨rest', ?_, follows, further.trans (inside.trans part),
            further'.trans (inside'.trans part')⟩
          rw [moreItems, skipped']
          simp only [first_found', others_found']
          rfl
        · contradiction
        · -- The item is missing, so the comma is left and no closing bracket is found.
          cases found
          rw [skipped] at closes
          cases closes
          contradiction
    · cases found
      refine ⟨text', ?_, here, List.suffix_refl _, List.suffix_refl _⟩
      obtain ⟨closed', closes', _⟩ := parallel.skipBlank_cons unquoted here closes
      cases count' with
      | zero => rfl
      | succ count' =>
        rw [moreItems, closes']
        split
        · rename_i same
          cases same
          contradiction
        · rfl

variable (missing : ∀ after, ∃ wanted rest, item' (last :: after) = .error (.expected wanted rest))

include missing

/-- Items are kept where the closing bracket follows them: where there are none, it starts the
text, and no item starts with it. -/
theorem items_keeps {text text' : List Char} (here : related text text')
    (started' : skipBlank text' = text') {read : List α}
    {rest closed : List Char} (found : items item text = .ok (read, rest))
    (closes : skipBlank rest = last :: closed) :
    ∃ rest', items item' text' = .ok (read, rest') ∧ related rest rest' ∧ rest <:+ text ∧
      rest' <:+ text' := by
  obtain ⟨unquoted, apart⟩ := closingBrackets_apart closing
  unfold items at found ⊢
  split at found
  · rename_i first next first_found
    obtain ⟨next', first_found', there, suffix, suffix'⟩ := keeps _ _ here _ _ first_found
    obtain ⟨others, others_found, rfl⟩ := cons_eq_ok found
    obtain ⟨rest', others_found', follows, further, further'⟩ := moreItems_keeps parallel keeps
      closing there (Nat.le_refl _) (Nat.le_refl _) others_found closes
    refine ⟨rest', ?_, follows, further.trans suffix, further'.trans suffix'⟩
    simp only [first_found', others_found']
    rfl
  · contradiction
  · cases found
    obtain ⟨closed', closes', _⟩ := parallel.skipBlank_cons unquoted here closes
    obtain ⟨wanted, after, missed⟩ := missing closed'
    refine ⟨text', ?_, here, List.suffix_refl _, List.suffix_refl _⟩
    rw [started'] at closes'
    rw [closes', missed]

/-- Items between brackets are kept. -/
theorem bracketed_keeps {text text' : List Char} (here : related text text') :
    Keeps related text text' (bracketed item last text) (bracketed item' last text') := by
  intro read rest found
  rw [bracketed] at found
  cases listed : items item (skipBlank text) with
  | error failure =>
    rw [listed] at found
    contradiction
  | ok inner =>
    rw [listed] at found
    cases closes : Source.closing last inner.2 with
    | error failure =>
      simp only [bind, Except.bind, closes] at found
      contradiction
    | ok closed =>
      simp only [bind, Except.bind, closes] at found
      cases found
      obtain ⟨inner', listed', between, suffix, suffix'⟩ := items_keeps parallel keeps closing
        missing (parallel.skipped here) (skipBlank_skipBlank text') listed (closing_eq_ok closes)
      obtain ⟨rest', closes', after⟩ :=
        parallel.closing (closingBrackets_apart closing).1 between closes
      refine ⟨rest', ?_, after,
        (closing_suffix closes).trans (suffix.trans (skipBlank_suffix text)),
        (closing_suffix closes').trans (suffix'.trans (skipBlank_suffix text'))⟩
      rw [bracketed, listed']
      simp only [bind, Except.bind, closes']
      rfl

end Items

variable {expr : Reader Expr} (keeps : Local related expr unbounded)

include keeps

/-- An expression between brackets is kept. -/
theorem enclosed_keeps {last : Char} (closing : last ∈ closingBrackets) {text text' : List Char}
    (here : related text text') :
    Keeps related text text' (enclosed expr last text) (enclosed unbounded last text') := by
  refine Keeps.mono ?_ (skipBlank_suffix text) (skipBlank_suffix text')
  refine (keeps _ _ (parallel.skipped here)).bind fun read rest rest' after _ _ => ?_
  exact .closing parallel after (closingBrackets_apart closing).1 fun _ _ after => .stop after

/-- Expressions between brackets are kept. -/
theorem arguments_keeps {last : Char} (closing : last ∈ closingBrackets) {text text' : List Char}
    (here : related text text') :
    Keeps related text text' (bracketed expr last text) (bracketed unbounded last text') :=
  bracketed_keeps parallel keeps closing (fun after => ⟨_, _, unbounded_closer closing after⟩) here

omit keeps in
/-- The key of a map entry is kept. -/
theorem mapKey_keeps : Local related mapKey mapKey := by
  intro text text' here
  unfold mapKey
  cases literal : readText text with
  | some found =>
    obtain ⟨rest', literal', after⟩ := parallel.readText here literal
    rw [literal']
    exact .read after (readText_suffix literal) (readText_suffix literal')
  | none =>
    cases named : readName text with
    | none => exact .failed
    | some found =>
      obtain ⟨rest', named', after⟩ := Along.found (named ▸ parallel.readName here)
      obtain ⟨c, more, rfl, starts⟩ := readName_cons named'
      rw [readText_name starts, named']
      exact .read after (Over.readName named).suffix (Over.readName named').suffix

/-- An entry of a map is kept. -/
theorem mapEntry_keeps : Local related (mapEntry expr) (mapEntry unbounded) := by
  intro text text' here
  refine Keeps.mono ?_ (skipBlank_suffix text) (skipBlank_suffix text')
  refine (mapKey_keeps parallel _ _ (parallel.skipped here)).bind fun key _ _ after _ _ => ?_
  refine .closing parallel after (by decide) fun rest rest' after => ?_
  exact (keeps rest rest' after).bind fun value _ _ after _ _ => .stop after

/-- A name or a call is kept. -/
theorem nameOrCall_keeps : Local related (nameOrCall expr) (nameOrCall unbounded) := by
  intro text text' here
  cases named : readName text with
  | none =>
    rw [nameOrCall, named]
    exact .failed
  | some found =>
    obtain ⟨rest', named', after⟩ := Along.found (named ▸ parallel.readName here)
    refine Keeps.mono ?_ (Over.readName named).suffix (Over.readName named').suffix
    by_cases calls : ∃ inner, skipBlank found.2 = '(' :: inner
    · obtain ⟨inner, skipped⟩ := calls
      obtain ⟨inner', skipped', inside⟩ := parallel.skipBlank_cons (by decide) after skipped
      rw [nameOrCall_call named skipped, nameOrCall_call named' skipped']
      refine Keeps.mono ?_ (skipBlank_cons_suffix skipped).1 (skipBlank_cons_suffix skipped').1
      exact (arguments_keeps parallel keeps (by decide) inside).bind fun _ _ _ after _ _ =>
        .stop after
    · rw [not_exists] at calls
      rw [nameOrCall_ident named calls,
        nameOrCall_ident named' (parallel.skipBlank_ne (by decide) after calls)]
      exact .stop after

/-- An atom is kept. -/
theorem atom_keeps : Local related (atom expr) (atom unbounded) := by
  intro text text' here
  refine Keeps.mono ?_ (skipBlank_suffix text) (skipBlank_suffix text')
  have after := parallel.skipped here
  simp only [atom]
  generalize skipBlank text = text, skipBlank text' = text' at after ⊢
  cases literal : readLiteral text with
  | some found =>
    obtain ⟨rest', literal', follows⟩ := parallel.readLiteral after literal
    rw [literal']
    exact .read follows (readLiteral_suffix literal) (readLiteral_suffix literal')
  | none =>
    simp only
    split
    · rename_i inner
      obtain ⟨inner', rfl, inside⟩ := parallel.same rfl (by decide) after
      rw [readLiteral_bracket (by decide)]
      exact (((arguments_keeps parallel keeps (by decide) inside).map _).orName _ _).mono
        (List.suffix_cons _ _) (List.suffix_cons _ _)
    · rename_i inner
      obtain ⟨inner', rfl, inside⟩ := parallel.same rfl (by decide) after
      rw [readLiteral_bracket (by decide)]
      refine (((bracketed_keeps parallel (mapEntry_keeps parallel keeps) (by decide) ?_ inside).map
        _).orName _ _).mono (List.suffix_cons _ _) (List.suffix_cons _ _)
      exact fun after => ⟨_, _, rfl⟩
    · rename_i inner
      obtain ⟨inner', rfl, inside⟩ := parallel.same rfl (by decide) after
      rw [readLiteral_bracket (by decide)]
      exact ((enclosed_keeps parallel keeps (by decide) inside).orName _ _).mono
        (List.suffix_cons _ _) (List.suffix_cons _ _)
    · cases named : readName text with
      | none =>
        rw [nameOrCall, named]
        exact .failed
      | some found =>
        obtain ⟨c, more, rfl, starts⟩ := readName_cons named
        obtain ⟨blank, unquoted, _⟩ :=
          isSolid_iff_not (isSolid_of_isNameChar (isNameChar_of_isNameStart starts))
        obtain ⟨more', rfl, _⟩ := parallel.same blank unquoted after
        rw [parallel.readLiteral_name starts after literal]
        have call := nameOrCall_keeps parallel keeps _ _ after
        simp only
        split
        · rename_i same
          cases same
          contradiction
        · rename_i same
          cases same
          contradiction
        · rename_i same
          cases same
          contradiction
        · exact call

omit keeps in
/-- No accesses are kept. -/
theorem accesses_stop_keeps {text text' : List Char} (here : related text text')
    (ended : Unaccessed text) (count count' : Nat) (base : Expr) :
    Keeps related text text' (accesses expr count base text)
      (accesses unbounded count' base text') := by
  have starts : ∀ c ∈ ['.', '['], c ∉ closingBrackets := by decide
  have ended' : Unaccessed text' := by
    intro c first access
    obtain ⟨rest, found⟩ := List.head?_eq_some_iff.mp first
    refine parallel.skipBlank_ne (starts c access) here (fun rest found => ?_) rest found
    exact ended c (by rw [found]; rfl) access
  rw [accesses_stop ended, accesses_stop ended']
  exact .read (parallel.skipped here) (skipBlank_suffix text) (skipBlank_suffix text')

/-- Accesses are kept, when there are enough of them for the text on both sides. -/
theorem accesses_keeps {text text' : List Char} (here : related text text') {count count' : Nat}
    (enough : text.length ≤ count) (enough' : text'.length ≤ count') (base : Expr) :
    Keeps related text text' (accesses expr count base text)
      (accesses unbounded count' base text') := by
  -- Every access takes a character, so on neither side is the count spent before the text is.
  induction count generalizing text text' count' base with
  | zero =>
    have empty := List.length_eq_zero_iff.mp (Nat.le_zero.mp enough)
    exact accesses_stop_keeps parallel here (by rw [empty]; nofun) _ _ base
  | succ count ih =>
    rcases access_cases text with ended | ⟨after, skipped⟩ | ⟨inner, skipped⟩
    · exact accesses_stop_keeps parallel here ended _ _ base
    · obtain ⟨after', skipped', behind⟩ := parallel.skipBlank_cons (by decide) here skipped
      obtain ⟨part, shorter⟩ := skipBlank_cons_suffix skipped
      obtain ⟨part', shorter'⟩ := skipBlank_cons_suffix skipped'
      cases named : readName (skipBlank after) with
      | none =>
        rw [accesses_point skipped named]
        exact .failed
      | some found =>
        obtain ⟨rest', named', follows⟩ :=
          Along.found (named ▸ parallel.readName (parallel.skipped behind))
        have suffix := (Over.readName named).suffix.trans (skipBlank_suffix after)
        have suffix' := (Over.readName named').suffix.trans (skipBlank_suffix after')
        have less := suffix.length_le
        have less' := suffix'.length_le
        cases count' with
        | zero => omega
        | succ count' =>
          refine Keeps.mono ?_ (suffix.trans part) (suffix'.trans part')
          by_cases calls : ∃ inner, skipBlank found.2 = '(' :: inner
          · obtain ⟨inner, opens⟩ := calls
            obtain ⟨inner', opens', inside⟩ := parallel.skipBlank_cons (by decide) follows opens
            obtain ⟨further, smaller⟩ := skipBlank_cons_suffix opens
            obtain ⟨further', smaller'⟩ := skipBlank_cons_suffix opens'
            rw [accesses_method skipped named opens, accesses_method skipped' named' opens']
            refine Keeps.mono ?_ further further'
            refine (arguments_keeps parallel keeps (by decide) inside).bind
              fun arguments _ _ closed last last' => ?_
            have least := last.length_le
            have least' := last'.length_le
            exact ih closed (by omega) (by omega) _
          · rw [not_exists] at calls
            rw [accesses_field skipped named calls, accesses_field skipped' named'
              (parallel.skipBlank_ne (by decide) follows calls)]
            exact ih follows (by omega) (by omega) _
    · obtain ⟨inner', skipped', inside⟩ := parallel.skipBlank_cons (by decide) here skipped
      obtain ⟨part, shorter⟩ := skipBlank_cons_suffix skipped
      obtain ⟨part', shorter'⟩ := skipBlank_cons_suffix skipped'
      cases count' with
      | zero => omega
      | succ count' =>
        rw [accesses_index skipped, accesses_index skipped']
        refine Keeps.mono ?_ part part'
        refine (enclosed_keeps parallel keeps (by decide) inside).bind
          fun key _ _ closed last last' => ?_
        have least := last.length_le
        have least' := last'.length_le
        exact ih closed (by omega) (by omega) _

/-- An atom with its accesses is kept. -/
theorem accessed_keeps : Local related (accessed expr) (accessed unbounded) := by
  intro text text' here
  refine (atom_keeps parallel keeps _ _ here).bind fun base rest rest' after _ _ => ?_
  exact accesses_keeps parallel keeps after (Nat.le_refl _) (Nat.le_refl _) base

/-- An operand with its prefix operators is kept. -/
theorem unary_keeps : Local related (unary expr) (unary unbounded) := by
  intro text text' here
  have suffix := (Over.readPrefixOps text).suffix
  have suffix' := (Over.readPrefixOps text').suffix
  have read := parallel.readPrefixOps here
  rw [unary, unary]
  generalize readPrefixOps text = found, readPrefixOps text' = found' at suffix suffix' read ⊢
  cases read with
  | read ops after =>
    refine Keeps.mono ?_ suffix suffix'
    exact (accessed_keeps parallel keeps _ _ after).bind fun _ _ _ after _ _ => .stop after

omit keeps in
/-- The operators of a level are kept when their operands are. -/
theorem chain_keeps {level : List (List Char × BinaryOp)} (listed : level ∈ operatorLevels)
    {operand operand' : Reader Expr} (operands : Local related operand operand')
    {text text' : List Char} (here : related text text') {count count' : Nat}
    (enough : text.length ≤ count) (enough' : text'.length ≤ count') (left : Expr) :
    Keeps related text text' (chain operand level count left text)
      (chain operand' level count' left text') := by
  induction count generalizing text text' count' left with
  | zero =>
    have empty := List.length_eq_zero_iff.mp (Nat.le_zero.mp enough)
    have ended : readOperator level (skipBlank text) = none := by
      rw [empty]
      exact readOperator_eq_none listed nofun
    have ended' := Along.absent (ended ▸ parallel.readOperator listed (parallel.skipped here))
    rw [chain_stop ended, chain_stop ended']
    exact .read (parallel.skipped here) (skipBlank_suffix text) (skipBlank_suffix text')
  | succ count ih =>
    have alike := parallel.readOperator listed (parallel.skipped here)
    cases found : readOperator level (skipBlank text) with
    | none =>
      have ended' := Along.absent (found ▸ alike)
      rw [chain_stop found, chain_stop ended']
      exact .read (parallel.skipped here) (skipBlank_suffix text) (skipBlank_suffix text')
    | some read =>
      obtain ⟨rest', found', after⟩ := Along.found (found ▸ alike)
      have whole := skipBlank_suffix text
      have whole' := skipBlank_suffix text'
      have suffix := (Over.readOperator listed found).suffix.trans whole
      have suffix' := (Over.readOperator listed found').suffix.trans whole'
      have shorter := Nat.lt_of_lt_of_le (readOperator_shorter listed found) whole.length_le
      have shorter' := Nat.lt_of_lt_of_le (readOperator_shorter listed found') whole'.length_le
      cases count' with
      | zero => omega
      | succ count' =>
        rw [chain, chain, found, found']
        refine Keeps.mono ?_ suffix suffix'
        refine (operands _ _ after).bind fun right _ _ follows last last' => ?_
        have least := last.length_le
        have least' := last'.length_le
        exact ih follows (by omega) (by omega) _

/-- Operands with the operators of some levels are kept. -/
theorem binary_keeps (levels : List (List (List Char × BinaryOp)))
    (listed : ∀ level ∈ levels, level ∈ operatorLevels) :
    Local related (binary expr levels) (binary unbounded levels) := by
  induction levels with
  | nil => exact unary_keeps parallel keeps
  | cons level tighter ih =>
    have operand := ih fun level member => listed level (.tail _ member)
    intro text text' here
    refine (operand _ _ here).bind fun left _ _ after _ _ => ?_
    exact chain_keeps parallel (listed level (.head _)) operand after (Nat.le_refl _)
      (Nat.le_refl _) left

/-- An expression is kept when the nested ones are. -/
theorem conditional_keeps : Local related (conditional expr) (conditional unbounded) := by
  intro text text' here
  refine (binary_keeps parallel keeps _ (fun _ member => member) _ _ here).bind
    fun condition rest rest' after _ _ => ?_
  by_cases asks : ∃ more, skipBlank rest = '?' :: more
  · obtain ⟨more, skipped⟩ := asks
    obtain ⟨more', skipped', inside⟩ := parallel.skipBlank_cons (by decide) after skipped
    simp only [skipped, skipped']
    refine Keeps.mono ?_ (skipBlank_cons_suffix skipped).1 (skipBlank_cons_suffix skipped').1
    refine (keeps _ _ inside).bind fun yes _ _ between _ _ => ?_
    refine .closing parallel between (by decide) fun rest rest' behind => ?_
    refine Keeps.mono ?_ (skipBlank_suffix rest) (skipBlank_suffix rest')
    exact (keeps _ _ (parallel.skipped behind)).bind fun no _ _ last _ _ => .stop last
  · rw [not_exists] at asks
    have asks' := parallel.skipBlank_ne (by decide) after asks
    simp only
    exact .read (parallel.skipped after) (skipBlank_suffix rest) (skipBlank_suffix rest')

omit keeps in
/-- What is read within a budget is read without one. -/
theorem expression_keeps (budget : Nat) : Local related (expression budget) unbounded := by
  induction budget with
  | zero => exact fun _ _ _ => .failed
  | succ budget ih =>
    intro text text' here
    rw [unbounded_eq]
    exact conditional_keeps parallel ih _ _ here

end Readers

/-- What is read as an expression is read alike off a parallel text. -/
theorem unbounded_keeps {related : List Char → List Char → Prop} (parallel : Parallel related) :
    Local related unbounded unbounded :=
  fun text => expression_keeps parallel (text.length + 1) text

end DecisionFlow.Source
