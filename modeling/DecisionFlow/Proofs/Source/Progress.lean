import DecisionFlow.Proofs.Source.Passes

/-!
# Progress

Reading always gets on. Every reader of the grammar, and every pass of a loop in it, takes something
off the text and leaves an end of it. So the readers could do without their counts
(`reading_progresses`): nested expressions start past at least one character, and by induction on
the length of the text the readers without counts come to what the readers with counts read. The
levels of operators call each other without taking anything off; there the recursion is on the
levels.
-/
namespace DecisionFlow.Source

open DecisionFlow.Text

/-- A reader without counts comes to what a reader of the grammar reads off the texts below a
length, and takes something off them. -/
def Agrees {α : Type} (size : Nat) (reader : OpenReader α) (reader' : Reader α) : Prop :=
  ∀ text, text.length < size → Reaches (Shorter · text) (reader text) (reader' text)

section Items

variable {α : Type} {size : Nat} {item : OpenReader α} {item' : Reader α}

/-- The further items that are read, after others. -/
def itemsFrom (item : Reader α) (count : Nat) (items : List α) : Reader (List α) := fun text =>
  (moreItems item count text).map fun (more, rest) => (items ++ more, rest)

/-- A separator leaves less than there was, so a list is never stuck. -/
theorem separator_shorter {text after : List Char} (skipped : skipBlank text = ',' :: after) :
    Shorter (skipBlank after) text :=
  (Shorter.skipBlank skipped).after (skipBlank_suffix after)

variable (agrees : Agrees size item item')

include agrees

/-- A pass over items. -/
theorem itemsPass_turns (count : Nat) (items : List α) {text : List Char}
    (short : text.length < size) :
    Turns (itemsFrom item' count) text (Uncounted.itemsPass item items text)
      (itemsFrom item' (count + 1) items text) := by
  have stops : Turns (itemsFrom item' count) text (.ended (.ok (.stop items text)))
      (Except.map (fun (more, rest) => (items ++ more, rest)) (.ok ([], text))) := by
    simp only [Except.map, List.append_nil]
    exact .stop items (List.suffix_refl text)
  unfold Uncounted.itemsPass
  split
  · rename_i after skipped
    have separated := separator_shorter skipped
    have less := separated.2
    have goes_on : (skipBlank after).length ≠ text.length := Nat.ne_of_lt less
    have reaches := agrees (skipBlank after) (Nat.lt_trans less short)
    simp only [goes_on, if_false, itemsFrom, moreItems, skipped]
    generalize item (skipBlank after) = course, item' (skipBlank after) = result at reaches ⊢
    cases reaches with
    | @read value rest stays =>
      have further : Except.map (fun (more, rest) => (items ++ more, rest)) (do
          let (others, rest) ← moreItems item' count rest
          return (value :: others, rest)) = itemsFrom item' count (items ++ [value]) rest := by
        unfold itemsFrom
        cases moreItems item' count rest with
        | error failure => rfl
        | ok found => simp [Except.map, bind, Except.bind, pure, Except.pure]
      exact further ▸ .again _ (stays.within separated.1)
    | missing wanted rest => exact stops
  · rename_i other
    rw [itemsFrom, moreItems]
    split
    · rename_i after skipped
      exact absurd skipped (other after)
    · exact stops

/-- Items come to what is read. -/
theorem items_reaches {text : List Char} (short : text.length < size) :
    Reaches (· <:+ text) (Uncounted.items item text) (items item' text) := by
  have reaches := agrees text short
  unfold Uncounted.items items
  generalize item text = course, item' text = result at reaches ⊢
  cases reaches with
  | @read first rest stays =>
    have empty (items : List α) : Turns (itemsFrom item' 0) [] (Uncounted.itemsPass item items [])
        (itemsFrom item' 0 items []) := by
      have none : itemsFrom item' 0 items [] = .ok (items, []) := by
        simp [itemsFrom, moreItems, Except.map]
      rw [none]
      exact .stop items (List.suffix_refl [])
    have further := repeating_reaches (itemsFrom item') empty
      (fun count items text => itemsPass_turns agrees count items) [first]
      (Nat.lt_trans stays.2 short) (Nat.le_refl _)
    exact further.mono fun _ suffix => suffix.trans stays.1
  | missing wanted rest => exact .read [] (List.suffix_refl text)

/-- Items between brackets come to what is read. -/
theorem bracketed_agrees (last : Char) :
    Agrees size (Uncounted.bracketed item last) (bracketed item' last) := by
  intro text short
  have skipped := skipBlank_suffix text
  have less := skipped.length_le
  refine (items_reaches agrees (Nat.lt_of_le_of_lt less short)).bind fun read rest suffix => ?_
  refine .closing fun after shorter => .read read ?_
  exact shorter.within (suffix.trans skipped)

end Items

section Readers

variable {size : Nat} {expr : OpenReader Expr} {expr' : Reader Expr}
  (agrees : Agrees size expr expr')

include agrees

/-- An expression between brackets comes to what is read. -/
theorem enclosed_agrees (last : Char) :
    Agrees size (Uncounted.enclosed expr last) (enclosed expr' last) := by
  intro text short
  have skipped := skipBlank_suffix text
  have less := skipped.length_le
  refine (agrees _ (Nat.lt_of_le_of_lt less short)).bind fun read rest stays => ?_
  refine .closing fun after shorter => .read read ?_
  exact (shorter.within stays.1).within skipped

/-- An entry of a map comes to what is read. -/
theorem mapEntry_agrees : Agrees size (Uncounted.mapEntry expr) (mapEntry expr') := by
  intro text short
  have skipped := skipBlank_suffix text
  refine (mapKey_reaches _).bind fun key rest stays => ?_
  have keyed := stays.within skipped
  refine .closing fun between shorter => ?_
  have valued := shorter.within keyed.1
  refine (agrees between (Nat.lt_trans valued.2 short)).bind fun value rest stays => ?_
  exact .read (key, value) (stays.within valued.1)

/-- A name or a call comes to what is read. -/
theorem nameOrCall_agrees : Agrees (size + 1) (Uncounted.nameOrCall expr) (nameOrCall expr') := by
  intro text short
  unfold Uncounted.nameOrCall
  split
  · rename_i unnamed
    rw [nameOrCall, unnamed]
    exact .missing .name text
  · rename_i name rest named
    have shorter := Shorter.readName named
    split
    · rename_i inner opens
      have inside := (Shorter.skipBlank opens).within shorter.1
      have less := inside.2
      rw [nameOrCall_call named opens]
      refine (bracketed_agrees agrees ')' inner (by omega)).bind fun arguments rest stays => ?_
      exact .read _ (stays.within inside.1)
    · rename_i no_call
      rw [nameOrCall_ident named no_call]
      exact .read _ shorter

/-- An atom comes to what is read. -/
theorem atom_agrees : Agrees (size + 1) (Uncounted.atom expr) (atom expr') := by
  intro text short
  refine Reaches.mono ?_ fun rest (shorter : Shorter rest (skipBlank text)) =>
    shorter.within (skipBlank_suffix text)
  have less := (skipBlank_suffix text).length_le
  have literal := literal_reaches (skipBlank text)
  unfold Uncounted.atom atom
  generalize skipBlank text = text at literal less ⊢
  simp only
  generalize Uncounted.literal text = course at literal ⊢
  cases found : readLiteral text with
  | some found =>
    rw [found] at literal
    cases literal with
    | read value stays => exact .read value stays
  | none =>
    rw [found] at literal
    cases literal with
    | missing wanted rest =>
      simp only [Uncounted.orElse_error]
      have below {c : Char} {inner : List Char} (same : text = c :: inner) :
          inner.length < size := by
        rw [same, List.length_cons] at less
        omega
      have opened {c : Char} {inner : List Char} {course : Course (Expr × List Char)}
          {result : Except Failure (Expr × List Char)}
          (reaches : Reaches (Shorter · inner) course result) :
          Reaches (Shorter · (c :: inner))
            (Uncounted.orElse course (throw (.expected .name (c :: inner))))
            (orName (c :: inner) result) :=
        (reaches.mono fun rest stays => stays.within (List.suffix_cons c inner)).orName _
      by_cases square : ∃ inner, text = '[' :: inner
      · obtain ⟨inner, rfl⟩ := square
        exact opened ((bracketed_agrees agrees ']' inner (below rfl)).map Expr.list)
      by_cases curly : ∃ inner, text = '\x7b' :: inner
      · obtain ⟨inner, rfl⟩ := curly
        have entries := bracketed_agrees (mapEntry_agrees agrees) '\x7d' inner (below rfl)
        exact opened (entries.map Expr.map)
      by_cases round : ∃ inner, text = '(' :: inner
      · obtain ⟨inner, rfl⟩ := round
        exact opened (enclosed_agrees agrees ')' inner (below rfl))
      -- No bracket opens, so both readers go on with a name.
      have reaches := nameOrCall_agrees agrees text (Nat.lt_of_le_of_lt less short)
      rw [not_exists] at square curly round
      simp only
      exact reaches

/-- A pass over accesses. -/
theorem accessPass_turns (count : Nat) (base : Expr) {text : List Char}
    (short : text.length < size + 1) :
    Turns (accesses expr' count) text (Uncounted.accessPass expr base text)
      (accesses expr' (count + 1) base text) := by
  unfold Uncounted.accessPass
  split
  · rename_i after skipped
    have pointed := (Shorter.skipBlank skipped).after (skipBlank_suffix after)
    split
    · rename_i unnamed
      rw [accesses_point skipped unnamed]
      exact .missing .name _
    · rename_i name rest named
      have shorter := (Shorter.readName named).within pointed.1
      split
      · rename_i inner opens
        have inside := (Shorter.skipBlank opens).within shorter.1
        have less := inside.2
        have reaches := bracketed_agrees agrees ')' inner (by omega)
        rw [accesses_method skipped named opens]
        exact .read reaches (fun rest stays => stays.within inside.1) (methodCall base name)
      · rename_i no_call
        rw [accesses_field skipped named no_call]
        exact .again _ shorter
  · rename_i inner skipped
    have inside := Shorter.skipBlank skipped
    have less := inside.2
    have reaches := enclosed_agrees agrees ']' inner (by omega)
    rw [accesses_index skipped]
    exact .read reaches (fun rest stays => stays.within inside.1) (Expr.index base)
  · rename_i no_point no_bracket
    have ended : Unaccessed text := by
      rcases access_cases text with ended | ⟨after, skipped⟩ | ⟨inner, skipped⟩
      · exact ended
      · exact absurd skipped (no_point after)
      · exact absurd skipped (no_bracket inner)
    rw [accesses_stop ended]
    exact .stop base (skipBlank_suffix text)

/-- An atom with its accesses comes to what is read. -/
theorem accessed_agrees : Agrees (size + 1) (Uncounted.accessed expr) (accessed expr') := by
  intro text short
  have empty (base : Expr) : Turns (accesses expr' 0) [] (Uncounted.accessPass expr base [])
      (accesses expr' 0 base []) := .stop base (List.suffix_refl [])
  refine (atom_agrees agrees text short).bind fun base rest stays => ?_
  have reaches := repeating_reaches (accesses expr') empty
    (fun count base _ => accessPass_turns agrees count base) base
    (Nat.lt_trans stays.2 short) (Nat.le_refl _)
  exact reaches.mono fun _ suffix => stays.after suffix

/-- Prefix operators with their operand come to what is read. -/
theorem unary_agrees : Agrees (size + 1) (Uncounted.unary expr) (unary expr') := by
  intro text short
  have prefixes := repeating_reaches (fun _ => prefixesFrom) (fun _ => prefixPass_turns ..)
    (fun _ _ _ _ => prefixPass_turns ..) [] (Nat.lt_succ_self text.length) (Nat.le_refl _)
  rw [unary_eq_prefixesFrom]
  refine prefixes.bind fun ops rest suffix => ?_
  have less := suffix.length_le
  refine (accessed_agrees agrees rest (by omega)).bind fun operand rest stays => ?_
  exact .read _ (stays.within suffix)

section Operators

variable {operand : OpenReader Expr} {operand' : Reader Expr} (each : Agrees size operand operand')
  {level : List (List Char × BinaryOp)} (listed : level ∈ operatorLevels)

include each listed
omit agrees

/-- A pass over operators. -/
theorem operatorPass_turns (count : Nat) (left : Expr) {text : List Char}
    (short : text.length < size) :
    Turns (chain operand' level count) text (Uncounted.operatorPass operand level left text)
      (chain operand' level (count + 1) left text) := by
  unfold Uncounted.operatorPass
  rw [chain]
  cases found : readOperator level (skipBlank text) with
  | none => exact .stop left (skipBlank_suffix text)
  | some read =>
    have shorter := (Shorter.readOperator listed found).within (skipBlank_suffix text)
    have reaches := each read.2 (Nat.lt_trans shorter.2 short)
    exact .read reaches (fun rest stays => stays.within shorter.1) (Expr.binary read.1 left)

end Operators

/-- Operands with operators come to what is read. -/
theorem binary_agrees (levels : List (List (List Char × BinaryOp)))
    (listed : ∀ level ∈ levels, level ∈ operatorLevels) :
    Agrees (size + 1) (Uncounted.binary expr levels) (binary expr' levels) := by
  induction levels with
  | nil => exact unary_agrees agrees
  | cons level tighter ih =>
    obtain ⟨first, others⟩ := List.forall_mem_cons.mp listed
    have each := ih others
    have empty (left : Expr) : Turns (chain (binary expr' tighter) level 0) []
        (Uncounted.operatorPass (Uncounted.binary expr tighter) level left [])
        (chain (binary expr' tighter) level 0 left []) := by
      have none : readOperator level [] = none := readOperator_eq_none first nofun
      have skipped : skipBlank [] = [] := rfl
      simp only [Uncounted.operatorPass, skipped, none]
      exact .stop left (List.suffix_refl [])
    intro text short
    refine (each text short).bind fun left rest stays => ?_
    have reaches := repeating_reaches (chain (binary expr' tighter) level) empty
      (fun count left _ => operatorPass_turns each first count left) left
      (Nat.lt_trans stays.2 short) (Nat.le_refl _)
    exact reaches.mono fun _ suffix => stays.after suffix

/-- An expression comes to what is read. -/
theorem conditional_agrees :
    Agrees (size + 1) (Uncounted.conditional expr) (conditional expr') := by
  intro text short
  refine (binary_agrees agrees operatorLevels (fun _ => id) text short).bind
    fun condition rest stays => ?_
  simp only
  by_cases asks : ∃ after, skipBlank rest = '?' :: after
  · obtain ⟨after, skipped⟩ := asks
    simp only [skipped]
    have asked := (Shorter.skipBlank skipped).within stays.1
    have less := asked.2
    refine (agrees after (by omega)).bind fun yes rest taken => ?_
    have chosen := taken.within asked.1
    refine .closing fun rest shorter => ?_
    have colon := (shorter.within chosen.1).after (skipBlank_suffix rest)
    have less := colon.2
    refine (agrees _ (by omega)).bind fun no rest taken => ?_
    exact .read _ (taken.within colon.1)
  · rw [not_exists] at asks
    simp only
    exact .read condition (stays.after (skipBlank_suffix rest))

end Readers

/-- The reader without a budget ends as one of the grammar, and takes something off each text that
it reads. -/
theorem unbounded_reaches (text : List Char) :
    Reaches (Shorter · text) (unbounded.opened text) (unbounded text) := by
  have agrees (size : Nat) : Agrees size unbounded.opened unbounded := by
    induction size with
    | zero => exact fun text short => absurd short (Nat.not_lt_zero _)
    | succ size ih =>
      intro text short
      have reaches := conditional_agrees ih text short
      rw [← unbounded_eq] at reaches
      rwa [reaches.eq] at reaches
  exact agrees (text.length + 1) text (Nat.lt_succ_self _)

/-- Only one reader of expressions is made of itself as the grammar without counts says, and it
always ends: it is the reader without a budget. -/
theorem conditional_fixed_iff {expr : OpenReader Expr} :
    (∀ text, expr text = Uncounted.conditional expr text) ↔ expr = unbounded.opened := by
  constructor
  · intro fixed
    have agrees (size : Nat) : Agrees size expr unbounded := by
      induction size with
      | zero => exact fun text short => absurd short (Nat.not_lt_zero _)
      | succ size ih =>
        intro text short
        rw [fixed, unbounded_eq]
        exact conditional_agrees ih text short
    funext text
    exact (agrees (text.length + 1) text (Nat.lt_succ_self _)).eq
  · rintro rfl text
    have agrees : Agrees text.length unbounded.opened unbounded :=
      fun text _ => unbounded_reaches text
    rw [(conditional_agrees agrees text (Nat.lt_succ_self _)).eq, ← unbounded_eq]
    rfl

/-- A source is parsed alike without counts. -/
theorem parse_opened (source : String) :
    Uncounted.parse unbounded.opened source = some (parse source) := by
  rw [parse, readBody, Uncounted.parse]
  generalize (splitStatement source.toList).1 = body
  have read : (unbounded.opened body).run = some (expression (body.length + 1) body) := rfl
  simp only [read]
  by_cases empty : body.isEmpty = true
  · rw [if_pos empty, if_pos empty]
  · by_cases nested : (!nestingAllowed body) = true
    · rw [if_neg empty, if_neg empty, if_pos nested, if_pos nested]
    · rw [if_neg empty, if_neg empty, if_neg nested, if_neg nested]
      cases expression (body.length + 1) body with
      | error failure => rfl
      | ok found =>
        simp only [Option.bind_eq_bind, Option.bind_some]
        split
        · rfl
        · split <;> rfl

/-- A reader without counts always ends, with what a reader of the grammar reads, and something is
taken off each text that is read. -/
def Progresses {α : Type} (reader : OpenReader α) (reader' : Reader α) : Prop :=
  ∀ text, reader text = .ended (reader' text) ∧
    ∀ value rest, reader' text = .ok (value, rest) → Shorter rest text

/-- Each pass of a loop that the loop goes on after takes something off the text. -/
def Tightens {σ α : Type} (pass : LoopPass σ α) : Prop :=
  ∀ state text state' rest, pass state text = .ended (.ok (.again state' rest)) → Shorter rest text

/-- A reader without counts that agrees with one of the grammar on all texts always ends. -/
theorem Agrees.progresses {α : Type} {reader : OpenReader α} {reader' : Reader α}
    (agrees : ∀ size, Agrees (size + 1) reader reader') : Progresses reader reader' := by
  intro text
  have reaches := agrees text.length text (Nat.lt_succ_self _)
  exact ⟨reaches.eq, fun _ _ => reaches.stays⟩

/-- A pass that is always a step of a loop takes something off the text when the loop goes on. -/
theorem Turns.tightens {σ α : Type} {pass : LoopPass σ α}
    (turns : ∀ state text, ∃ (further : σ → Reader α) (result : Except Failure (α × List Char)),
      Turns further text (pass state text) result) : Tightens pass := by
  intro state text state' rest again
  obtain ⟨further, result, turns⟩ := turns state text
  rw [again] at turns
  cases turns
  assumption

/-- How reading gets on, given the reader of nested expressions: every reader of the grammar and
every pass of a loop takes something off the text. -/
structure Progress (expr : Reader Expr) : Prop where
  /-- An expression is read. -/
  whole : Progresses (Uncounted.conditional expr.opened) expr
  /-- An atom is read. -/
  atom : Progresses (Uncounted.atom expr.opened) (atom expr)
  /-- An atom is read with its accesses. -/
  accessed : Progresses (Uncounted.accessed expr.opened) (accessed expr)
  /-- Prefix operators are read with their operand. -/
  unary : Progresses (Uncounted.unary expr.opened) (unary expr)
  /-- Operands are read with the operators of a level and of the tighter ones, at each level. -/
  binary : ∀ level, Progresses (Uncounted.binary expr.opened (operatorLevels.drop level))
    (binary expr (operatorLevels.drop level))
  /-- An access takes something off the text. -/
  accesses : Tightens (Uncounted.accessPass expr.opened)
  /-- So does a prefix operator. -/
  prefixes : Tightens Uncounted.prefixPass
  /-- So does an operator with its right operand, at each level. -/
  operators : ∀ level operators tighter, operatorLevels.drop level = operators :: tighter →
    Tightens (Uncounted.operatorPass (Uncounted.binary expr.opened tighter) operators)
  /-- So does a character of a text literal. -/
  quoted : ∀ quote start, Tightens (Uncounted.quotedPass quote start)
  /-- So does a further expression of a list. -/
  items : Tightens (Uncounted.itemsPass expr.opened)
  /-- So does a further entry of a map. -/
  entries : Tightens (Uncounted.itemsPass (Uncounted.mapEntry expr.opened))
  /-- So does a separator, whatever follows it: no list is stuck. -/
  separators : ∀ text after, skipBlank text = ',' :: after → Shorter (skipBlank after) text

/-- The reader without a budget gets on. -/
theorem unbounded_progress : Progress unbounded := by
  have nested (size : Nat) : Agrees size unbounded.opened unbounded :=
    fun text _ => unbounded_reaches text
  have listed (level : Nat) : ∀ operators ∈ operatorLevels.drop level, operators ∈ operatorLevels :=
    fun _ => List.mem_of_mem_drop
  exact {
    whole := by
      have same : conditional unbounded = unbounded := funext fun text => (unbounded_eq text).symm
      have whole := Agrees.progresses fun size => conditional_agrees (nested size)
      rwa [same] at whole
    atom := Agrees.progresses fun size => atom_agrees (nested size)
    accessed := Agrees.progresses fun size => accessed_agrees (nested size)
    unary := Agrees.progresses fun size => unary_agrees (nested size)
    binary := fun level =>
      Agrees.progresses fun size => binary_agrees (nested size) _ (listed level)
    accesses := Turns.tightens fun base text =>
      ⟨_, _, accessPass_turns (nested text.length) 0 base (Nat.lt_succ_self _)⟩
    prefixes := Turns.tightens fun ops text => ⟨_, _, prefixPass_turns ops text⟩
    operators := by
      intro level operators tighter split
      have first : operators ∈ operatorLevels := listed level _ (by rw [split]; exact .head _)
      have others : ∀ operators ∈ tighter, operators ∈ operatorLevels :=
        fun _ member => listed level _ (by rw [split]; exact .tail _ member)
      exact Turns.tightens fun left text => ⟨_, _, operatorPass_turns
        (binary_agrees (nested text.length) tighter others) first 0 left (Nat.lt_succ_self _)⟩
    quoted := fun quote start => Turns.tightens fun inside text =>
      ⟨_, _, quotedPass_turns quote start inside text⟩
    items := Turns.tightens fun items text =>
      ⟨_, _, itemsPass_turns (nested (text.length + 1)) 0 items (Nat.lt_succ_self _)⟩
    entries := Turns.tightens fun items text =>
      ⟨_, _, itemsPass_turns (mapEntry_agrees (nested (text.length + 1))) 0 items
        (Nat.lt_succ_self _)⟩
    separators := fun _ _ => separator_shorter }

/-- Reading gets on and comes to an end, whatever the text. Without counts there is exactly one
reader of expressions that is made of itself as the grammar says. It always has a result, the one
that is read with counts, so no list is stuck in it, and no source is parsed to anything but a tree
or an error of the source. -/
theorem reading_progresses :
    Progress unbounded ∧
      (∀ expr : OpenReader Expr,
        (∀ text, expr text = Uncounted.conditional expr text) ↔ expr = unbounded.opened) ∧
      ∀ source, Uncounted.parse unbounded.opened source = some (parse source) ∧
        parse source ≠ .error (.unreadable .exhausted) :=
  ⟨unbounded_progress, fun _ => conditional_fixed_iff,
    fun source => ⟨parse_opened source, parse_ne_exhausted source⟩⟩

end DecisionFlow.Source
