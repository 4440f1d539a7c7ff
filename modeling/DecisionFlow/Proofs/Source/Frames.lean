import DecisionFlow.Proofs.Source.Plain
import Mathlib.Logic.Function.Iterate

/-!
# Frames of a text

Where a reader stands in a text may be described by a frame: what is open there. Plain characters
and text literals do not leave a frame, an opening bracket and a question mark enter an inner one
with less room, and reading over the closing bracket comes back. No reader does more than that, so
an expression within a frame nests no deeper than the room of the frame: it is read alike whatever
would be read below (`nested_alike`).
-/
namespace DecisionFlow.Source

open DecisionFlow.Text

/-- The kinds of brackets. -/
inductive Bracket where
  /-- Parentheses. -/
  | round
  /-- Square brackets. -/
  | square
  /-- Curly brackets. -/
  | curly
deriving DecidableEq, Repr

/-- The opening bracket of a kind. -/
def Bracket.first : Bracket → Char
  | round => '('
  | square => '['
  | curly => '\x7b'

/-- The closing bracket of a kind. -/
def Bracket.last : Bracket → Char
  | round => ')'
  | square => ']'
  | curly => '\x7d'

/-- Frames for the rests of texts: `here` tells whether a rest stands in a frame, and `room` how
many frames may still be entered from one. -/
structure Frames {Frame : Type} (here : Frame → List Char → Prop) (room : Frame → Nat) : Prop where
  /-- Plain characters stay in the frame. -/
  plain : ∀ {frame text rest}, Passes text rest → here frame text → here frame rest
  /-- A text literal stays in the frame. -/
  quoted : ∀ {frame text value rest}, readText text = some (value, rest) → here frame text →
    here frame rest
  /-- An opening bracket enters an inner frame, which its closing bracket leaves. -/
  opened : ∀ {frame rest} (bracket : Bracket), here frame (bracket.first :: rest) →
    ∃ inner, room inner < room frame ∧ here inner rest ∧
      ∀ after, here inner (bracket.last :: after) → here frame after
  /-- A question mark enters an inner frame, whose places are in the outer one as well. -/
  asked : ∀ {frame rest}, here frame ('?' :: rest) →
    ∃ inner, room inner < room frame ∧ here inner rest ∧
      ∀ after, here inner after → here frame after

/-- Two readings that have the same result and leave a rest that stands in a frame. The result is
not exhaustion, unless the first reading may be `spent` where the second goes on. -/
inductive Agree (spent : Prop) {α : Type} (here : List Char → Prop) :
    Except Failure (α × List Char) → Except Failure (α × List Char) → Prop where
  /-- Both read the same. -/
  | read (value : α) {rest : List Char} (stays : here rest) :
    Agree spent here (.ok (value, rest)) (.ok (value, rest))
  /-- Both miss the same. -/
  | missing (wanted : Wanted) (rest : List Char) :
    Agree spent here (.error (.expected wanted rest)) (.error (.expected wanted rest))
  /-- The first has no budget left. -/
  | exhausted (may : spent) (result : Except Failure (α × List Char)) :
    Agree spent here (.error .exhausted) result

namespace Agree

variable {α β : Type} {spent : Prop} {here there : List Char → Prop}

/-- Readings that agree without exhaustion are equal. -/
theorem eq {result result' : Except Failure (α × List Char)}
    (agree : Agree False here result result') : result = result' := by
  cases agree with
  | read value stays => rfl
  | missing wanted rest => rfl
  | exhausted may => exact may.elim

/-- Readings that agree without exhaustion are not exhausted. -/
theorem ne_exhausted {result result' : Except Failure (α × List Char)}
    (agree : Agree False here result result') : result ≠ .error .exhausted := by
  cases agree with
  | read value stays => nofun
  | missing wanted rest => nofun
  | exhausted may => exact may.elim

/-- Readings that agree are equal when the first is not exhausted. -/
theorem exhausted_or_eq {result result' : Except Failure (α × List Char)}
    (agree : Agree spent here result result') :
    result = .error .exhausted ∨ result = result' := by
  cases agree with
  | read value stays => exact .inr rfl
  | missing wanted rest => exact .inr rfl
  | exhausted may => exact .inl rfl

/-- Readings that agree and stand in a frame agree in a wider one. -/
theorem weaken {result result' : Except Failure (α × List Char)}
    (agree : Agree spent here result result') (wider : ∀ rest, here rest → there rest) :
    Agree spent there result result' := by
  cases agree with
  | read value stays => exact .read value (wider _ stays)
  | missing wanted rest => exact .missing wanted rest
  | exhausted may => exact .exhausted may _

/-- Readings that agree are followed alike by readings that agree. -/
theorem bind {result result' : Except Failure (α × List Char)}
    {next next' : α × List Char → Except Failure (β × List Char)}
    (agree : Agree spent here result result')
    (follows : ∀ value rest, here rest →
      Agree spent there (next (value, rest)) (next' (value, rest))) :
    Agree spent there (result >>= next) (result' >>= next') := by
  cases agree with
  | read value stays => exact follows value _ stays
  | missing wanted rest => exact .missing wanted rest
  | exhausted may => exact .exhausted may _

/-- Changing what was read keeps agreement. -/
theorem map {result result' : Except Failure (α × List Char)}
    (agree : Agree spent here result result') (change : α → β) :
    Agree spent here (result.map fun (value, rest) => (change value, rest))
      (result'.map fun (value, rest) => (change value, rest)) := by
  cases agree with
  | read value stays => exact .read (change value) stays
  | missing wanted rest => exact .missing wanted rest
  | exhausted may => exact .exhausted may _

/-- Reporting a missing name keeps agreement. -/
theorem orName {result result' : Except Failure (α × List Char)}
    (agree : Agree spent here result result') (text : List Char) :
    Agree spent here (orName text result) (orName text result') := by
  cases agree with
  | read value stays => exact .read value stays
  | missing wanted rest => exact .missing .name text
  | exhausted may => exact .exhausted may _

/-- Taking one certain character is followed alike by readings that agree after it. -/
theorem closing {text : List Char} {last : Char}
    {next next' : List Char → Except Failure (β × List Char)}
    (follows : ∀ rest, skipBlank text = last :: rest →
      Agree spent there (next rest) (next' rest)) :
    Agree spent there (closing last text >>= next) (closing last text >>= next') := by
  unfold Source.closing
  cases skipped : skipBlank text with
  | nil => exact .missing .character []
  | cons first rest =>
    by_cases same : first = last
    · simp only [same, if_true]
      exact follows rest (by rw [skipped, same])
    · simp only [same, if_false]
      exact .missing .character (first :: rest)

end Agree

/-- Two readers that agree on every text in a frame. -/
def Alike (spent : Prop) {α : Type} (here : List Char → Prop) (reader reader' : Reader α) : Prop :=
  ∀ text, here text → Agree spent here (reader text) (reader' text)

/-- Two readers of nested expressions that agree on every frame inside a frame. -/
def AlikeBelow (spent : Prop) {Frame : Type} (here : Frame → List Char → Prop)
    (room : Frame → Nat) (frame : Frame) (expr expr' : Reader Expr) : Prop :=
  ∀ inner, room inner < room frame → Alike spent (here inner) expr expr'

section Frame

variable {Frame : Type} {here : Frame → List Char → Prop} {room : Frame → Nat}
  (frames : Frames here room) {frame : Frame} {spent : Prop} {α : Type}

include frames

/-- White space stays in the frame. -/
theorem Frames.skipBlank {text : List Char} (stands : here frame text) :
    here frame (skipBlank text) :=
  frames.plain (.skipBlank text) stands

/-- A comma stays in the frame, with the white space around it. -/
theorem Frames.comma {text after : List Char} (skipped : Text.skipBlank text = ',' :: after)
    (stands : here frame text) : here frame (Text.skipBlank after) := by
  have comma := frames.skipBlank stands
  rw [skipped] at comma
  exact frames.skipBlank (frames.plain (.cons rfl after) comma)

/-- A literal stays in the frame. -/
theorem Frames.literal {text rest : List Char} {expr : Expr}
    (found : readLiteral text = some (expr, rest)) (stands : here frame text) :
    here frame rest := by
  unfold readLiteral at found
  split at found
  · cases found
    exact frames.plain (.of_lexical (.readWord ‹_›)) stands
  · split at found
    · cases found
      exact frames.plain (.of_lexical (.readNumber ‹_›)) stands
    · obtain ⟨⟨value, after⟩, literal, same⟩ := Option.map_eq_some_iff.mp found
      cases same
      exact frames.quoted literal stands

/-- Further items are read alike. -/
theorem moreItems_alike {item item' : Reader α} (alike : Alike spent (here frame) item item')
    (count : Nat) : Alike spent (here frame) (moreItems item count) (moreItems item' count) := by
  induction count with
  | zero =>
    intro text stands
    exact .read [] stands
  | succ count ih =>
    intro text stands
    simp only [moreItems]
    split
    · rename_i after skipped
      have agree := alike _ (frames.comma skipped stands)
      generalize item (skipBlank after) = result, item' (skipBlank after) = result' at agree ⊢
      cases agree with
      | read first stays => exact (ih _ stays).bind fun others rest stays => .read _ stays
      | missing => exact .read [] stands
      | exhausted may => exact .exhausted may _
    · exact .read [] stands

/-- Items are read alike. -/
theorem items_alike {item item' : Reader α} (alike : Alike spent (here frame) item item') :
    Alike spent (here frame) (items item) (items item') := by
  intro text stands
  unfold items
  have agree := alike text stands
  generalize item text = result, item' text = result' at agree ⊢
  cases agree with
  | read first stays =>
    exact (moreItems_alike frames alike _ _ stays).bind fun others rest stays => .read _ stays
  | missing => exact .read [] stands
  | exhausted may => exact .exhausted may _

/-- Items between brackets are read alike. -/
theorem bracketed_alike {item item' : Reader α} {text : List Char} {last : Char}
    {outside : List Char → Prop} (alike : Alike spent (here frame) item item')
    (leaves : ∀ after, here frame (last :: after) → outside after) (stands : here frame text) :
    Agree spent outside (bracketed item last text) (bracketed item' last text) := by
  refine (items_alike frames alike _ (frames.skipBlank stands)).bind fun read rest stays => ?_
  refine .closing fun after skipped => ?_
  have closes := frames.skipBlank stays
  rw [skipped] at closes
  exact .read read (leaves after closes)

/-- An expression between brackets is read alike. -/
theorem enclosed_alike {expr expr' : Reader Expr} {text : List Char} {last : Char}
    {outside : List Char → Prop} (alike : Alike spent (here frame) expr expr')
    (leaves : ∀ after, here frame (last :: after) → outside after) (stands : here frame text) :
    Agree spent outside (enclosed expr last text) (enclosed expr' last text) := by
  refine (alike _ (frames.skipBlank stands)).bind fun read rest stays => ?_
  refine .closing fun after skipped => ?_
  have closes := frames.skipBlank stays
  rw [skipped] at closes
  exact .read read (leaves after closes)

/-- The key of a map entry stays in the frame. -/
theorem mapKey_alike : Alike spent (here frame) mapKey mapKey := by
  intro text stands
  unfold mapKey
  cases literal : readText text with
  | some found => exact .read found.1 (frames.quoted literal stands)
  | none =>
    cases named : readName text with
    | some found => exact .read found.1 (frames.plain (.of_lexical (.readName named)) stands)
    | none => exact .missing .name text

/-- An entry of a map is read alike. -/
theorem mapEntry_alike {expr expr' : Reader Expr} (alike : Alike spent (here frame) expr expr') :
    Alike spent (here frame) (mapEntry expr) (mapEntry expr') := by
  intro text stands
  refine (mapKey_alike frames _ (frames.skipBlank stands)).bind fun key rest stays => ?_
  refine .closing fun after skipped => ?_
  have colon := frames.skipBlank stays
  rw [skipped] at colon
  refine (alike after (frames.plain (.cons rfl after) colon)).bind fun value rest stays => ?_
  exact .read (key, value) stays

/-- A bracket is read alike when the readers agree on inner frames. -/
theorem Frames.enter {expr expr' : Reader Expr}
    (alike : AlikeBelow spent here room frame expr expr') (bracket : Bracket) {rest : List Char}
    (stands : here frame (bracket.first :: rest)) :
    ∃ inner, Alike spent (here inner) expr expr' ∧ here inner rest ∧
      ∀ after, here inner (bracket.last :: after) → here frame after := by
  obtain ⟨inner, less, inside, leaves⟩ := frames.opened bracket stands
  exact ⟨inner, alike inner less, inside, leaves⟩

variable {expr expr' : Reader Expr} (alike : AlikeBelow spent here room frame expr expr')

include alike

/-- A name or a call is read alike. -/
theorem nameOrCall_alike : Alike spent (here frame) (nameOrCall expr) (nameOrCall expr') := by
  intro text stands
  unfold nameOrCall
  cases named : readName text with
  | none => exact .missing .name text
  | some found =>
    have stays := frames.plain (.of_lexical (.readName named)) stands
    simp only
    split
    · rename_i inner skipped
      have opens := frames.skipBlank stays
      rw [skipped] at opens
      obtain ⟨_, alike, inside, leaves⟩ := frames.enter alike .round opens
      exact (bracketed_alike frames alike leaves inside).bind fun arguments rest stays =>
        .read _ stays
    · exact .read _ stays

/-- An atom is read alike. -/
theorem atom_alike : Alike spent (here frame) (atom expr) (atom expr') := by
  intro text stands
  have stays := frames.skipBlank stands
  simp only [atom]
  generalize skipBlank text = text at stays ⊢
  cases literal : readLiteral text with
  | some found => exact .read found.1 (frames.literal literal stays)
  | none =>
    simp only
    split
    · obtain ⟨_, alike, inside, leaves⟩ := frames.enter alike .square stays
      exact ((bracketed_alike frames alike leaves inside).map _).orName _
    · obtain ⟨_, alike, inside, leaves⟩ := frames.enter alike .curly stays
      exact ((bracketed_alike frames (mapEntry_alike frames alike) leaves inside).map _).orName _
    · obtain ⟨_, alike, inside, leaves⟩ := frames.enter alike .round stays
      exact (enclosed_alike frames alike leaves inside).orName _
    · exact nameOrCall_alike frames alike _ stays

/-- Accesses are read alike. -/
theorem accesses_alike (count : Nat) (base : Expr) :
    Alike spent (here frame) (accesses expr count base) (accesses expr' count base) := by
  induction count generalizing base with
  | zero =>
    intro text stands
    exact .read base (frames.skipBlank stands)
  | succ count ih =>
    intro text stands
    have stays := frames.skipBlank stands
    simp only [accesses]
    split
    · rename_i after skipped
      rw [skipped] at stays
      have named := frames.skipBlank (frames.plain (.cons rfl after) stays)
      cases read : readName (skipBlank after) with
      | none => exact .missing .name _
      | some found =>
        have stays := frames.plain (.of_lexical (.readName read)) named
        simp only
        split
        · rename_i inner skipped
          have opens := frames.skipBlank stays
          rw [skipped] at opens
          obtain ⟨_, alike, inside, leaves⟩ := frames.enter alike .round opens
          exact (bracketed_alike frames alike leaves inside).bind fun arguments rest stays =>
            ih _ rest stays
        · exact ih _ _ stays
    · rename_i inner skipped
      rw [skipped] at stays
      obtain ⟨_, alike, inside, leaves⟩ := frames.enter alike .square stays
      exact (enclosed_alike frames alike leaves inside).bind fun key rest stays => ih _ rest stays
    · exact .read base stays

/-- An atom with its accesses is read alike. -/
theorem accessed_alike : Alike spent (here frame) (accessed expr) (accessed expr') := by
  intro text stands
  exact (atom_alike frames alike text stands).bind fun base rest stays =>
    accesses_alike frames alike _ base rest stays

/-- An operand with its prefix operators is read alike. -/
theorem unary_alike : Alike spent (here frame) (unary expr) (unary expr') := by
  intro text stands
  have stays := frames.plain (.of_lexical (.readPrefixOps text)) stands
  exact (accessed_alike frames alike _ stays).bind fun operand rest stays => .read _ stays

omit alike in
/-- The operators of a level are read alike when their operands are. -/
theorem chain_alike {level : List (List Char × BinaryOp)} (listed : level ∈ operatorLevels)
    {operand operand' : Reader Expr} (alike : Alike spent (here frame) operand operand')
    (count : Nat) (left : Expr) :
    Alike spent (here frame) (chain operand level count left)
      (chain operand' level count left) := by
  induction count generalizing left with
  | zero =>
    intro text stands
    exact .read left (frames.skipBlank stands)
  | succ count ih =>
    intro text stands
    have stays := frames.skipBlank stands
    simp only [chain]
    cases found : readOperator level (skipBlank text) with
    | none => exact .read left stays
    | some read =>
      have operand := alike _ (frames.plain (.of_lexical (.readOperator listed found)) stays)
      exact operand.bind fun right rest stays => ih _ rest stays

/-- Operands with the operators of some levels are read alike. -/
theorem binary_alike (levels : List (List (List Char × BinaryOp)))
    (listed : ∀ level ∈ levels, level ∈ operatorLevels) :
    Alike spent (here frame) (binary expr levels) (binary expr' levels) := by
  induction levels with
  | nil => exact unary_alike frames alike
  | cons level tighter ih =>
    have operand := ih fun level member => listed level (.tail _ member)
    intro text stands
    exact (operand text stands).bind fun left rest stays =>
      chain_alike frames (listed level (.head _)) operand _ left rest stays

/-- An expression within a frame is read alike when the nested ones are within inner frames. -/
theorem conditional_alike : Alike spent (here frame) (conditional expr) (conditional expr') := by
  intro text stands
  refine (binary_alike frames alike _ (fun _ member => member) text stands).bind
    fun condition rest stays => ?_
  have stays := frames.skipBlank stays
  simp only
  split
  · rename_i after skipped
    rw [skipped] at stays
    obtain ⟨inner, less, inside, leaves⟩ := frames.asked stays
    refine (alike inner less after inside).bind fun yes rest stays => ?_
    refine .closing fun after skipped => ?_
    have colon := frames.skipBlank stays
    rw [skipped] at colon
    have inside := frames.skipBlank (frames.plain (.cons rfl after) colon)
    exact (alike inner less _ inside).bind fun no rest stays => .read _ (leaves rest stays)
  · exact .read condition stays

omit alike in
/-- Nothing is read more expressions deep than a frame has room for: whatever would read there, the
reading is the same. -/
theorem nested_alike (deep deep' : Reader Expr) (count : Nat) (frame : Frame)
    (enough : room frame < count) :
    Alike False (here frame) (conditional^[count] deep) (conditional^[count] deep') := by
  induction count generalizing frame with
  | zero => contradiction
  | succ count ih =>
    rw [Function.iterate_succ_apply', Function.iterate_succ_apply']
    refine conditional_alike frames fun inner less => ih inner ?_
    omega

end Frame

/-- A budget counts how often the grammar is entered before exhaustion. -/
theorem expression_add (budget below : Nat) :
    expression (budget + below) = conditional^[budget] (expression below) := by
  induction budget with
  | zero => rw [Nat.zero_add, Function.iterate_zero, id]
  | succ budget ih =>
    rw [Function.iterate_succ_apply', ← ih, Nat.succ_add]
    rfl

end DecisionFlow.Source
