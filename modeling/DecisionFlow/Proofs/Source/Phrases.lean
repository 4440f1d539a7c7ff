import DecisionFlow.Proofs.Expr.Subtrees
import DecisionFlow.Proofs.Source.Locality
import DecisionFlow.Proofs.Source.Trees
import Mathlib.Data.List.TakeWhile

/-!
# Phrases

The texts that are read as expressions, by their shape alone. A phrase is made of lexical characters
and text literals, of brackets with phrases inside, and of conditionals, whose question mark and
colon stand between three phrases. What counts in a phrase is the number of its conditionals. All
that a reader takes off a text is a phrase with as many conditionals as there are in the tree that
it makes of it (`unbounded_phrase`). So whatever holds of phrases, by induction on their shape,
holds of all that is read (`phrase_of_read`).
-/
namespace DecisionFlow.Source

open DecisionFlow.Text

/-- A text literal after its opening quote: it ends with the first quote that is not escaped. -/
inductive Quoted (quote : Char) : List Char → Prop where
  /-- The closing quote. -/
  | close : Quoted quote [quote]
  /-- A backslash takes the next character with it. -/
  | escaped (c : Char) {rest : List Char} (follows : Quoted quote rest) :
    Quoted quote ('\\' :: c :: rest)
  /-- Any other character stands for itself. -/
  | plain {c : Char} {rest : List Char} (other : c ≠ quote) (unescaped : c ≠ '\\')
    (follows : Quoted quote rest) : Quoted quote (c :: rest)

/-- The sorts of phrases. -/
inductive Part where
  /-- Operands with operators between them, where no conditional is open. -/
  | operand
  /-- A whole expression. -/
  | whole
  /-- Items or entries, as they stand between brackets. -/
  | inside

/-- Phrases with the number of their conditionals. -/
inductive Phrase : Part → Nat → List Char → Prop where
  /-- White space, names, numbers, keywords and operators, or nothing. -/
  | lexical {text : List Char} (all : ∀ c ∈ text, isLexical c = true) : Phrase .operand 0 text
  /-- A text literal. -/
  | literal {quote : Char} {text : List Char} (quoted : quote ∈ quotes)
    (inside : Quoted quote text) : Phrase .operand 0 (quote :: text)
  /-- Brackets of the same kind. -/
  | bracketed (bracket : Bracket) {count : Nat} {text : List Char}
    (inside : Phrase .inside count text) :
    Phrase .operand count (bracket.first :: (text ++ [bracket.last]))
  /-- Operands next to each other. -/
  | append {count further : Nat} {text rest : List Char} (first : Phrase .operand count text)
    (second : Phrase .operand further rest) : Phrase .operand (count + further) (text ++ rest)
  /-- Operands are an expression. -/
  | single {count : Nat} {text : List Char} (operand : Phrase .operand count text) :
    Phrase .whole count text
  /-- A conditional on operands. -/
  | conditional {count first second : Nat} {text yes no : List Char}
    (condition : Phrase .operand count text) (left : Phrase .whole first yes)
    (right : Phrase .whole second no) :
    Phrase .whole (count + first + second + 1) (text ++ '?' :: (yes ++ ':' :: no))
  /-- An expression is an item. -/
  | item {count : Nat} {text : List Char} (whole : Phrase .whole count text) :
    Phrase .inside count text
  /-- A key with an expression is an entry. -/
  | entry {count further : Nat} {key text : List Char} (operand : Phrase .operand count key)
    (value : Phrase .whole further text) : Phrase .inside (count + further) (key ++ ':' :: text)
  /-- Items or entries with a comma between them. -/
  | comma {count further : Nat} {text rest : List Char} (first : Phrase .inside count text)
    (second : Phrase .inside further rest) : Phrase .inside (count + further) (text ++ ',' :: rest)

namespace Phrase

variable {part : Part} {count : Nat} {text : List Char}

/-- A phrase of the same text and the same number of conditionals. -/
theorem cast {other : Nat} {same : List Char} (phrase : Phrase part count text)
    (counts : count = other) (spelt : text = same) : Phrase part other same :=
  counts ▸ spelt ▸ phrase

/-- No text is a phrase. -/
theorem nil : Phrase .operand 0 [] := .lexical nofun

/-- A phrase with nothing behind it. -/
theorem append_nil (phrase : Phrase part count text) : Phrase part count (text ++ []) :=
  phrase.cast rfl (List.append_nil text).symm

/-- Operands may be put in front of a phrase. -/
theorem preceded {further : Nat} {start : List Char} (phrase : Phrase part count text)
    (operand : Phrase .operand further start) : Phrase part (further + count) (start ++ text) := by
  induction phrase with
  | lexical all => exact operand.append (.lexical all)
  | literal quoted inside => exact operand.append (.literal quoted inside)
  | bracketed bracket inside => exact operand.append (.bracketed bracket inside)
  | append first second => exact operand.append (first.append second)
  | single _ ih => exact .single ih
  | conditional _ left right ih =>
    exact (ih.conditional left right).cast (by omega) (List.append_assoc ..)
  | item _ ih => exact .item ih
  | entry _ value ih => exact (ih.entry value).cast (by omega) (List.append_assoc ..)
  | comma _ second ih => exact (ih.comma second).cast (by omega) (List.append_assoc ..)

/-- Lexical characters may be put behind a phrase. -/
theorem followed {run : List Char} (phrase : Phrase part count text)
    (lexical : ∀ c ∈ run, isLexical c = true) : Phrase part count (text ++ run) := by
  have last : Phrase .operand 0 run := .lexical lexical
  have deeper (start rest : List Char) (c : Char) :
      start ++ c :: (rest ++ run) = (start ++ c :: rest) ++ run := by
    rw [List.append_assoc, List.cons_append]
  induction phrase with
  | lexical all => exact (Phrase.lexical all).append last
  | literal quoted inside => exact (Phrase.literal quoted inside).append last
  | bracketed bracket inside => exact (Phrase.bracketed bracket inside).append last
  | append first second => exact (first.append second).append last
  | single _ ih => exact .single ih
  | conditional condition left _ _ _ ih =>
    refine (condition.conditional left ih).cast rfl ?_
    rw [← deeper, ← List.cons_append, List.append_assoc]
    rfl
  | item _ ih => exact .item ih
  | entry key _ _ ih => exact (key.entry ih).cast rfl (deeper ..)
  | comma first _ _ ih => exact (first.comma ih).cast rfl (deeper ..)

end Phrase

/-- White space is lexical in front of the first other character. -/
theorem skipBlank_eq_cons {c : Char} {text rest : List Char}
    (skipped : skipBlank text = c :: rest) :
    ∃ run, text = run ++ c :: rest ∧ ∀ c ∈ run, isLexical c = true := by
  rw [← skipped]
  exact Over.skipBlank text

/-- What is read, if anything, is read off the front of a text, and together with the text that is
taken it has a property. -/
def Takes {α : Type} (p : List Char → α → Prop) (text : List Char)
    (result : Except Failure (α × List Char)) : Prop :=
  ∀ value rest, result = .ok (value, rest) → ∃ taken, text = taken ++ rest ∧ p taken value

namespace Takes

variable {α β : Type} {p : List Char → α → Prop} {q : List Char → β → Prop} {text : List Char}

/-- Nothing is taken where the reading ends. -/
theorem stop {value : α} (holds : p [] value) : Takes p text (.ok (value, text)) := by
  intro _ _ same
  cases same
  exact ⟨[], rfl, holds⟩

/-- Nothing was read. -/
theorem failed {failure : Failure} : Takes p text (.error failure) := nofun

/-- The property may be weakened. -/
theorem mono {p' : List Char → α → Prop} {result : Except Failure (α × List Char)}
    (takes : Takes p text result) (weaker : ∀ taken value, p taken value → p' taken value) :
    Takes p' text result := by
  intro value rest same
  obtain ⟨taken, split, holds⟩ := takes value rest same
  exact ⟨taken, split, weaker taken value holds⟩

/-- What is read behind a text that is taken already. -/
theorem behind {run rest : List Char} {result : Except Failure (α × List Char)}
    (split : text = run ++ rest) (follows : Takes (fun taken => p (run ++ taken)) rest result) :
    Takes p text result := by
  intro value after same
  obtain ⟨taken, further, holds⟩ := follows value after same
  exact ⟨run ++ taken, by rw [split, further, List.append_assoc], holds⟩

/-- What is read behind a character that is taken already. -/
theorem cons {c : Char} {rest : List Char} {result : Except Failure (α × List Char)}
    (follows : Takes (fun taken => p (c :: taken)) rest result) : Takes p (c :: rest) result :=
  behind (show c :: rest = [c] ++ rest from rfl) follows

/-- What is read after something. -/
theorem bind {result : Except Failure (α × List Char)}
    {next : α × List Char → Except Failure (β × List Char)} (takes : Takes p text result)
    (follows : ∀ taken value rest, p taken value →
      Takes (fun further => q (taken ++ further)) rest (next (value, rest))) :
    Takes q text (result >>= next) := by
  cases result with
  | error failure => exact failed
  | ok found =>
    obtain ⟨taken, rfl, holds⟩ := takes found.1 found.2 rfl
    intro value rest same
    obtain ⟨further, split, last⟩ := follows taken found.1 found.2 holds value rest same
    exact ⟨taken ++ further, by rw [List.append_assoc, ← split], last⟩

/-- What was read is changed. -/
theorem map {result : Except Failure (α × List Char)} {change : α → β} (takes : Takes p text result)
    (changed : ∀ taken value, p taken value → q taken (change value)) :
    Takes q text (result.map fun (value, rest) => (change value, rest)) :=
  takes.bind fun taken value rest holds => stop (by
    rw [List.append_nil]
    exact changed taken value holds)

/-- Reporting a missing name changes nothing that is read. -/
theorem orName {result : Except Failure (α × List Char)} {start : List Char}
    (takes : Takes p text result) : Takes p text (orName start result) := by
  unfold Source.orName
  split
  · exact failed
  · exact takes

/-- What is read after one certain character. -/
theorem closing {last : Char} {next : List Char → Except Failure (β × List Char)}
    (follows : ∀ run rest, (∀ c ∈ run, isLexical c = true) →
      Takes (fun taken => q (run ++ last :: taken)) rest (next rest)) :
    Takes q text (closing last text >>= next) := by
  cases found : Source.closing last text with
  | error failure => exact failed
  | ok rest =>
    obtain ⟨run, split, lexical⟩ := skipBlank_eq_cons (closing_eq_ok found)
    exact behind split (cons (follows run rest lexical))

end Takes

/-- The text of a literal ends with its closing quote. -/
theorem quoted_of_readQuoted {quote : Char} {text value rest : List Char}
    (read : readQuoted quote text = some (value, rest)) :
    ∃ taken, text = taken ++ rest ∧ Quoted quote taken := by
  fun_induction readQuoted quote text generalizing value with
  | case1 => contradiction
  | case2 after =>
    cases read
    exact ⟨[quote], rfl, .close⟩
  | case3 => contradiction
  | case4 escaped after _ ih =>
    obtain ⟨⟨inside, _⟩, found, same⟩ := Option.map_eq_some_iff.mp read
    cases same
    obtain ⟨taken, rfl, quoted⟩ := ih found
    exact ⟨'\\' :: escaped :: taken, rfl, .escaped escaped quoted⟩
  | case5 c after other unescaped ih =>
    obtain ⟨⟨inside, _⟩, found, same⟩ := Option.map_eq_some_iff.mp read
    cases same
    obtain ⟨taken, rfl, quoted⟩ := ih found
    exact ⟨c :: taken, rfl, .plain other unescaped quoted⟩

/-- A text literal is a phrase. -/
theorem phrase_of_readText {text rest : List Char} {value : String}
    (read : readText text = some (value, rest)) :
    ∃ taken, text = taken ++ rest ∧ Phrase .operand 0 taken := by
  obtain ⟨quote, after, inside, rfl, literal, found⟩ := readText_eq_some read
  obtain ⟨taken, rfl, quoted⟩ := quoted_of_readQuoted found
  exact ⟨quote :: taken, rfl, .literal (mem_quotes.mpr literal) quoted⟩

/-- Lexical characters are a phrase. -/
theorem phrase_of_over {text rest : List Char} (passed : Over isLexical text rest) :
    ∃ taken, text = taken ++ rest ∧ Phrase .operand 0 taken := by
  obtain ⟨taken, split, lexical⟩ := passed
  exact ⟨taken, split, .lexical lexical⟩

/-- A literal is a phrase. -/
theorem phrase_of_readLiteral {text rest : List Char} {expr : Expr}
    (read : readLiteral text = some (expr, rest)) :
    ∃ taken, text = taken ++ rest ∧ Phrase .operand expr.conditionals taken := by
  rw [Expr.conditionals_of_isConstant (isConstant_readLiteral read)]
  unfold readLiteral at read
  split at read
  · cases read
    exact phrase_of_over (.readWord ‹_›)
  · split at read
    · cases read
      exact phrase_of_over (.readNumber ‹_›)
    · obtain ⟨⟨value, _⟩, literal, same⟩ := Option.map_eq_some_iff.mp read
      cases same
      exact phrase_of_readText literal

/-- A reader that takes phrases of a sort, with as many conditionals as are counted in what it
reads. -/
def TakesPhrases {α : Type} (part : Part) (count : α → Nat) (reader : Reader α) : Prop :=
  ∀ text, Takes (fun taken value => Phrase part (count value) taken) text (reader text)

section Items

variable {α : Type} {count : α → Nat} {item : Reader α} (takes : TakesPhrases .inside count item)

include takes

/-- Further items go on with the phrase of the items before them. -/
theorem moreItems_phrase (limit : Nat) {counted : Nat} {start : List Char}
    (before : Phrase .inside counted start) (text : List Char) :
    Takes (fun taken values => Phrase .inside (counted + (values.map count).sum) (start ++ taken))
      text (moreItems item limit text) := by
  induction limit generalizing counted start text with
  | zero => exact .stop before.append_nil
  | succ limit ih =>
    rw [moreItems]
    split
    · rename_i after skipped
      split
      · rename_i first rest found
        obtain ⟨run, split, lexical⟩ := skipBlank_eq_cons skipped
        obtain ⟨space, split', lexical'⟩ := Over.skipBlank after
        obtain ⟨taken, split'', phrase⟩ := takes _ _ _ found
        -- The items so far, the comma and the next item are what the rest goes on with.
        have joined := (before.followed lexical).comma (phrase.preceded (.lexical lexical'))
        have taken_off : text = (run ++ ',' :: (space ++ taken)) ++ rest := by
          rw [split, split', split'']
          simp only [List.append_assoc, List.cons_append]
        refine .behind taken_off ((ih joined rest).bind fun further values rest phrase => ?_)
        refine .stop (phrase.cast ?_ ?_)
        · rw [List.map_cons, List.sum_cons, Nat.zero_add, Nat.add_assoc]
        · simp only [List.append_assoc, List.cons_append, List.append_nil]
      · exact .failed
      · -- No item follows the comma, which is left as well then.
        exact .stop before.append_nil
    · exact .stop before.append_nil

/-- Items are a phrase. -/
theorem items_phrase :
    TakesPhrases .inside (fun values => (values.map count).sum) (items item) := by
  intro text
  unfold items
  split
  · rename_i first rest found
    obtain ⟨taken, split, phrase⟩ := takes _ _ _ found
    refine .behind split ((moreItems_phrase takes _ phrase rest).bind
      fun further values rest phrase => .stop ?_)
    exact phrase.cast rfl (by rw [List.append_nil])
  · exact .failed
  · exact .stop (.item (.single .nil))

end Items

/-- What stands between brackets is an operand, together with the brackets. -/
theorem between_phrase {α : Type} {count : α → Nat} {reader : Reader α}
    (takes : TakesPhrases .inside count reader) (bracket : Bracket) (text : List Char) :
    Takes (fun taken value => Phrase .operand (count value) taken) (bracket.first :: text) (do
      let (read, rest) ← reader (skipBlank text)
      return (read, ← closing bracket.last rest)) := by
  obtain ⟨space, split, lexical⟩ := Over.skipBlank text
  refine .cons (.behind split ((takes _).bind fun taken value rest phrase => ?_))
  refine .closing fun run rest lexical' => .stop ?_
  have inside := (phrase.preceded (.lexical lexical)).followed lexical'
  refine (Phrase.bracketed bracket inside).cast (Nat.zero_add _) ?_
  simp only [List.append_assoc]

/-- Items between brackets are an operand. -/
theorem bracketed_phrase {α : Type} {count : α → Nat} {item : Reader α}
    (takes : TakesPhrases .inside count item) (bracket : Bracket) (text : List Char) :
    Takes (fun taken values => Phrase .operand (values.map count).sum taken)
      (bracket.first :: text) (bracketed item bracket.last text) :=
  between_phrase (items_phrase takes) bracket text

/-- An expression that is read goes on with what is before it: together they are a phrase of a
sort. -/
def Continues (part : Part) (start text : List Char)
    (result : Except Failure (Expr × List Char)) : Prop :=
  Takes (fun taken read => Phrase part read.conditionals (start ++ taken)) text result

namespace Continues

variable {part : Part} {start text rest : List Char} {result : Except Failure (Expr × List Char)}

/-- What goes on behind lexical characters. -/
theorem passing (passed : Over isLexical text rest)
    (follows : ∀ run, (∀ c ∈ run, isLexical c = true) → Continues part (start ++ run) rest result) :
    Continues part start text result := by
  obtain ⟨run, split, lexical⟩ := passed
  refine Takes.behind split ((follows run lexical).mono fun taken read phrase => ?_)
  exact phrase.cast rfl (List.append_assoc ..)

/-- What goes on behind something that was read. -/
theorem bind {α : Type} {p : List Char → α → Prop} {found : Except Failure (α × List Char)}
    {next : α × List Char → Except Failure (Expr × List Char)} (takes : Takes p text found)
    (follows : ∀ taken value rest, p taken value →
      Continues part (start ++ taken) rest (next (value, rest))) :
    Continues part start text (found >>= next) :=
  Takes.bind takes fun taken value rest holds =>
    (follows taken value rest holds).mono fun _ _ phrase =>
      phrase.cast rfl (List.append_assoc ..)

/-- White space goes on with a phrase. -/
theorem skipBlank {value : Expr} (before : Phrase part value.conditionals start)
    (text : List Char) : Continues part start text (.ok (value, Text.skipBlank text)) :=
  passing (.skipBlank text) fun _ lexical => Takes.stop (before.followed lexical).append_nil

end Continues

section Readers

variable {expr : Reader Expr} (takes : TakesPhrases .whole Expr.conditionals expr)

include takes

/-- Expressions are items. -/
theorem item_phrase : TakesPhrases .inside Expr.conditionals expr :=
  fun text => (takes text).mono fun _ _ => .item

/-- An expression between brackets is an operand. -/
theorem enclosed_phrase (bracket : Bracket) (text : List Char) :
    Takes (fun taken read => Phrase .operand read.conditionals taken) (bracket.first :: text)
      (enclosed expr bracket.last text) :=
  between_phrase (item_phrase takes) bracket text

omit takes in
/-- The key of an entry is an operand. -/
theorem mapKey_phrase : TakesPhrases .operand (fun _ => 0) mapKey := by
  intro text
  unfold mapKey
  cases literal : readText text with
  | some found =>
    rintro _ _ ⟨⟩
    exact phrase_of_readText literal
  | none =>
    cases named : readName text with
    | some found =>
      rintro _ _ ⟨⟩
      exact phrase_of_over (.readName named)
    | none => exact .failed

/-- An entry of a map stands between brackets. -/
theorem mapEntry_phrase :
    TakesPhrases .inside (fun entry => entry.2.conditionals) (mapEntry expr) := by
  intro text
  obtain ⟨space, split, lexical⟩ := Over.skipBlank text
  refine .behind split ((mapKey_phrase _).bind fun key _ rest phrase => ?_)
  refine .closing fun run rest lexical' => (takes rest).bind fun taken value rest whole => ?_
  have operand := (phrase.preceded (.lexical lexical)).followed lexical'
  refine .stop ((operand.entry whole).cast (Nat.zero_add _) ?_)
  simp only [List.append_assoc, List.append_nil]

/-- A name or a call is an operand. -/
theorem nameOrCall_phrase : TakesPhrases .operand Expr.conditionals (nameOrCall expr) := by
  intro text
  unfold nameOrCall
  split
  · exact .failed
  · rename_i name rest named
    obtain ⟨word, split, lexical⟩ := Over.readName named
    refine .behind split ?_
    split
    · rename_i inner skipped
      obtain ⟨run, split, lexical'⟩ := skipBlank_eq_cons skipped
      refine .behind split ((bracketed_phrase (item_phrase takes) .round inner).bind
        fun taken arguments rest phrase => .stop ?_)
      have called := ((phrase.preceded (.lexical lexical')).preceded (.lexical lexical))
      refine called.cast ?_ ?_
      · rw [Expr.conditionals, Expr.itemsConditionals_eq]
        omega
      · rw [List.append_nil]
    · exact .stop (Phrase.lexical lexical).append_nil

/-- An atom is an operand. -/
theorem atom_phrase : TakesPhrases .operand Expr.conditionals (atom expr) := by
  intro text
  unfold atom
  simp only
  obtain ⟨space, split, lexical⟩ := Over.skipBlank text
  have spaced (count : Nat) (taken : List Char) (phrase : Phrase .operand count taken) :
      Phrase .operand count (space ++ taken) :=
    (phrase.preceded (.lexical lexical)).cast (Nat.zero_add _) rfl
  -- The white space is put in front at the end, so each kind of atom starts at its first character.
  refine .behind split (.mono ?_ fun taken (read : Expr) => spaced read.conditionals taken)
  generalize skipBlank text = text
  split
  · rename_i found read
    rintro _ _ ⟨⟩
    exact phrase_of_readLiteral read
  · split
    · refine .orName ((bracketed_phrase (item_phrase takes) .square _).map ?_)
      intro taken items phrase
      rw [Expr.conditionals, Expr.itemsConditionals_eq]
      exact phrase
    · refine .orName ((bracketed_phrase (mapEntry_phrase takes) .curly _).map ?_)
      intro taken entries phrase
      rw [Expr.conditionals, Expr.entriesConditionals_eq]
      exact phrase
    · exact (enclosed_phrase takes .round _).orName
    · exact nameOrCall_phrase takes _

omit takes in
/-- The conditionals in a method call are those of the receiver and of the arguments. -/
theorem conditionals_methodCall (receiver : Expr) (name : String) (arguments : List Expr) :
    (methodCall receiver name arguments).conditionals =
      receiver.conditionals + (arguments.map Expr.conditionals).sum := by
  unfold methodCall
  split
  · rw [Expr.conditionals, List.map_singleton, List.sum_singleton]
  · rw [Expr.conditionals, Expr.itemsConditionals, Expr.itemsConditionals_eq]

/-- Accesses go on with the operand before them. -/
theorem accesses_phrase (limit : Nat) {base : Expr} {start : List Char}
    (before : Phrase .operand base.conditionals start) (text : List Char) :
    Continues .operand start text (accesses expr limit base text) := by
  induction limit generalizing base start text with
  | zero => exact .skipBlank before text
  | succ limit ih =>
    rw [accesses]
    split
    · rename_i after skipped
      have pointed : Over isLexical text after :=
        (Over.skipBlank text).trans (by rw [skipped]; exact .cons rfl after)
      split
      · exact .failed
      · rename_i name rest named
        have passed := (pointed.trans (.skipBlank after)).trans (.readName named)
        split
        · rename_i inner opened
          have passed : Over isLexical text ('(' :: inner) :=
            opened ▸ passed.trans (.skipBlank rest)
          refine .passing passed fun run lexical => ?_
          refine .bind (bracketed_phrase (item_phrase takes) .round inner) ?_
          intro taken arguments rest phrase
          have called : Phrase .operand (methodCall base name arguments).conditionals
              (start ++ run ++ taken) := by
            rw [conditionals_methodCall]
            exact (before.followed lexical).append phrase
          exact ih called rest
        · refine .passing passed fun run lexical => ?_
          have named : Phrase .operand (Expr.field base name).conditionals (start ++ run) := by
            rw [Expr.conditionals]
            exact before.followed lexical
          exact ih named rest
    · rename_i inner skipped
      have passed : Over isLexical text ('[' :: inner) := skipped ▸ .skipBlank text
      refine .passing passed fun run lexical => .bind (enclosed_phrase takes .square inner) ?_
      intro taken key rest phrase
      have indexed : Phrase .operand (Expr.index base key).conditionals
          (start ++ run ++ taken) := by
        rw [Expr.conditionals]
        exact (before.followed lexical).append phrase
      exact ih indexed rest
    · exact .skipBlank before text

/-- Prefix operators and an atom with accesses are an operand. -/
theorem unary_phrase : TakesPhrases .operand Expr.conditionals (unary expr) := by
  intro text
  have accessed (text : List Char) :
      Takes (fun taken read => Phrase .operand read.conditionals taken) text
        (accessed expr text) :=
    (atom_phrase takes text).bind fun taken base rest phrase =>
      accesses_phrase takes rest.length phrase rest
  obtain ⟨run, split, lexical⟩ := Over.readPrefixOps text
  refine .behind split ((accessed _).bind fun taken operand rest phrase => .stop ?_)
  have prefixed : ∀ ops : List UnaryOp,
      (ops.foldr Expr.unary operand).conditionals = operand.conditionals := by
    intro ops
    induction ops with
    | nil => rfl
    | cons op ops ih => rw [List.foldr_cons, Expr.conditionals, ih]
  refine (phrase.preceded (.lexical lexical)).cast ?_ ?_
  · rw [prefixed, Nat.zero_add]
  · rw [List.append_nil]

omit takes in
/-- Operators of a level go on with the operand before them. -/
theorem chain_phrase {operand : Reader Expr}
    (each : TakesPhrases .operand Expr.conditionals operand)
    {level : List (List Char × BinaryOp)} (listed : level ∈ operatorLevels) (limit : Nat)
    {left : Expr} {start : List Char} (before : Phrase .operand left.conditionals start)
    (text : List Char) : Continues .operand start text (chain operand level limit left text) := by
  induction limit generalizing left start text with
  | zero => exact .skipBlank before text
  | succ limit ih =>
    rw [chain]
    split
    · exact .skipBlank before text
    · rename_i op rest found
      have passed := (Over.skipBlank text).trans (.readOperator listed found)
      refine .passing passed fun run lexical => .bind (each rest) ?_
      intro taken right rest phrase
      have linked : Phrase .operand (Expr.binary op left right).conditionals
          (start ++ run ++ taken) := by
        rw [Expr.conditionals]
        exact (before.followed lexical).append phrase
      exact ih linked rest

/-- Operands with operators of some levels are an operand. -/
theorem binary_phrase (levels : List (List (List Char × BinaryOp)))
    (listed : ∀ level ∈ levels, level ∈ operatorLevels) :
    TakesPhrases .operand Expr.conditionals (binary expr levels) := by
  induction levels with
  | nil => exact unary_phrase takes
  | cons level tighter ih =>
    obtain ⟨first, others⟩ := List.forall_mem_cons.mp listed
    intro text
    exact (ih others text).bind fun taken left rest phrase =>
      chain_phrase (ih others) first rest.length phrase rest

/-- Operands are an expression, alone or with the branches of a conditional. -/
theorem conditional_phrase : TakesPhrases .whole Expr.conditionals (conditional expr) := by
  intro text
  refine (binary_phrase takes operatorLevels (fun _ => id) text).bind
    fun taken condition rest phrase => ?_
  simp only
  split
  · rename_i after skipped
    obtain ⟨run, split, lexical⟩ := skipBlank_eq_cons skipped
    refine .behind split (.cons ((takes after).bind fun first yes rest left => ?_))
    refine .closing fun space rest lexical' => ?_
    obtain ⟨space', split', lexical''⟩ := Over.skipBlank rest
    refine .behind split' ((takes _).bind fun second no rest right => .stop ?_)
    have asked := (phrase.followed lexical).conditional (left.followed lexical')
      (right.preceded (.lexical lexical''))
    refine asked.cast ?_ ?_
    · rw [Expr.conditionals, Nat.zero_add]
    · simp only [List.append_assoc, List.append_nil]
  · exact Continues.skipBlank (.single phrase) rest

end Readers

/-- What is read within a budget is an expression. -/
theorem expression_phrase (budget : Nat) :
    TakesPhrases .whole Expr.conditionals (expression budget) := by
  induction budget with
  | zero => exact fun text => .failed
  | succ budget ih => exact conditional_phrase ih

/-- What is read as an expression is one, with a question mark for each conditional of its tree. -/
theorem unbounded_phrase {text rest : List Char} {expr : Expr}
    (read : unbounded text = .ok (expr, rest)) :
    ∃ taken, text = taken ++ rest ∧ Phrase .whole expr.conditionals taken :=
  expression_phrase (text.length + 1) text expr rest read

/-- A text is white space when nothing is left of it. -/
theorem isWhiteSpace_of_trim {text : List Char} (trimmed : trim text = []) :
    ∀ c ∈ text, isWhiteSpace c = true := by
  have last : ∀ c ∈ trimStart text, isWhiteSpace c = true := by
    rw [trim, trimEnd, List.reverse_eq_nil_iff, List.dropWhile_eq_nil_iff] at trimmed
    exact fun c member => trimmed c (List.mem_reverse.mpr member)
  intro c member
  rw [← List.takeWhile_append_dropWhile (p := isWhiteSpace) (l := text)] at member
  cases List.mem_append.mp member with
  | inl first => exact List.all_eq_true.mp List.all_takeWhile c first
  | inr rest => exact last c rest

/-- A text that is read to its end is an expression, with a question mark for each conditional. -/
theorem phrase_of_read {text rest : List Char} {expr : Expr}
    (read : unbounded text = .ok (expr, rest)) (trimmed : trim rest = []) :
    Phrase .whole expr.conditionals text := by
  obtain ⟨taken, rfl, phrase⟩ := unbounded_phrase read
  have apart : ∀ c ∈ structural ++ separators, isWhiteSpace c = false := by decide
  exact phrase.followed fun c member =>
    not_contains_of_class apart (isWhiteSpace_of_trim trimmed c member)

end DecisionFlow.Source
