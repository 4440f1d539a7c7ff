import DecisionFlow.Proofs.Source.RoundTrip

/-!
# Operands in a row

Operands may stand in a row, with operators between them and no parentheses. What an operator
applies to is then a matter of levels: the last operator of the loosest level applies to all that
is before it and to all that is after it (`grouped`). The reader goes through the levels instead,
each one a loop over operands of the tighter ones, and gets the same expression
(`GroupedAt.of_operands`).
-/
namespace DecisionFlow

open Source Text

/-- An operand as it is written, with the expression that is meant. -/
structure Operand where
  /-- The text. -/
  text : List Char
  /-- The expression. -/
  expr : Expr

/-- An operator in one of its spellings, with the operand after it. -/
structure Link where
  /-- The spelling. -/
  spelling : List Char
  /-- The operator. -/
  op : BinaryOp
  /-- The operand after the operator. -/
  operand : Operand

namespace Link

/-- Whether the spelling is one of the operator. -/
def Spelt (link : Link) : Prop := (link.spelling, link.op) ∈ operatorLevels.flatten

/-- Whether a spelling is one of the operator can be decided. -/
instance decidableSpelt (link : Link) : Decidable link.Spelt :=
  inferInstanceAs (Decidable (_ ∈ operatorLevels.flatten))

/-- The level of the operator: how many levels are looser. -/
def level (link : Link) : Nat := looserLevels link.op

/-- The last link of the loosest level, with the links before it and after it. -/
def lastLoosest : List Link → Option (List Link × Link × List Link)
  | [] => none
  | link :: links =>
    match lastLoosest links with
    | none => some ([], link, links)
    | some (before, last, after) =>
      if last.level ≤ link.level then some (link :: before, last, after)
      else some ([], link, links)

/-- Every link before the last one of the loosest level is as tight or tighter, and every link
after it is tighter. -/
theorem lastLoosest_eq_some {links before after : List Link} {last : Link}
    (found : lastLoosest links = some (before, last, after)) :
    links = before ++ last :: after ∧ (∀ link ∈ before, last.level ≤ link.level) ∧
      ∀ link ∈ after, last.level < link.level := by
  induction links generalizing before last after with
  | nil => contradiction
  | cons link links ih =>
    rw [lastLoosest] at found
    split at found
    · rename_i none
      cases found
      cases links with
      | nil => exact ⟨rfl, nofun, nofun⟩
      | cons next links =>
        rw [lastLoosest] at none
        split at none
        · contradiction
        · split at none <;> contradiction
    · rename_i others later further next
      obtain ⟨rfl, looser, tighter⟩ := ih next
      split at found
      · rename_i less
        cases found
        exact ⟨rfl, List.forall_mem_cons.mpr ⟨less, looser⟩, tighter⟩
      · rename_i more
        cases found
        refine ⟨rfl, nofun, fun other member => ?_⟩
        rcases List.mem_append.mp member with early | late
        · exact Nat.lt_of_lt_of_le (Nat.not_le.mp more) (looser other early)
        · cases late with
          | head => exact Nat.not_le.mp more
          | tail _ late => exact Nat.lt_trans (Nat.not_le.mp more) (tighter other late)

/-- Only no links at all have no last one. -/
theorem lastLoosest_eq_none {links : List Link} (none : lastLoosest links = none) :
    links = [] := by
  cases links with
  | nil => rfl
  | cons link links =>
    rw [lastLoosest] at none
    split at none
    · contradiction
    · split at none <;> contradiction

/-- A spelling is visible and goes on with neither an access nor arguments. -/
theorem spelling_cons {link : Link} (spelt : link.Spelt) :
    ∃ c more, link.spelling = c :: more ∧ isBlank c = false ∧ c ∉ ['(', '.', '['] := by
  have all : ∀ spelling ∈ operatorLevels.flatten, spelling.1 ≠ [] ∧
      ∀ c ∈ spelling.1.head?, isBlank c = false ∧ c ∉ ['(', '.', '['] := by decide
  obtain ⟨some_char, first⟩ := all _ spelt
  obtain ⟨c, more, same⟩ := List.exists_cons_of_ne_nil some_char
  simp only at same
  exact ⟨c, more, same, first c (by simp only [same]; rfl)⟩

end Link

namespace Operand

/-- The text of operands in a row: a space on both sides of every operator. -/
def rowText (first : Operand) (links : List Link) : List Char :=
  first.text ++ links.flatMap fun link => ' ' :: (link.spelling ++ ' ' :: link.operand.text)

/-- The text of a row goes on after a link with the row that starts at its operand. -/
theorem rowText_append (first : Operand) (before : List Link) (link : Link) (after : List Link)
    (rest : List Char) :
    first.rowText (before ++ link :: after) ++ rest =
      first.rowText before ++
        ' ' :: (link.spelling ++ ' ' :: (link.operand.rowText after ++ rest)) := by
  simp [rowText]

/-- The expression of operands in a row: a single operand is itself; else the last operator of the
loosest level applies to the operands before it and the operands after it. -/
def grouped (first : Operand) (links : List Link) : Expr :=
  match _found : Link.lastLoosest links with
  | none => first.expr
  | some (before, link, after) =>
    .binary link.op (grouped first before) (grouped link.operand after)
termination_by links.length
decreasing_by
  all_goals
    rw [(Link.lastLoosest_eq_some _found).1]
    simp only [List.length_append, List.length_cons]
    omega

/-- A row without operators is its only operand. -/
theorem grouped_of_none {first : Operand} {links : List Link}
    (none : Link.lastLoosest links = none) : first.grouped links = first.expr := by
  rw [grouped]
  split
  · rfl
  · rename_i found
    rw [none] at found
    contradiction

/-- The last operator of the loosest level applies to what is before it and after it. -/
theorem grouped_of_some (first : Operand) {links before after : List Link} {link : Link}
    (found : Link.lastLoosest links = some (before, link, after)) :
    first.grouped links = .binary link.op (first.grouped before) (link.operand.grouped after) := by
  rw [grouped]
  split
  · rename_i none
    rw [found] at none
    contradiction
  · rename_i other
    rw [found] at other
    cases other
    rfl

/-- A single operator applies to the operands on both sides of it. -/
theorem grouped_single (first : Operand) (link : Link) :
    first.grouped [link] = .binary link.op first.expr link.operand.expr := by
  have found : Link.lastLoosest [link] = some ([], link, []) := rfl
  have none : Link.lastLoosest [] = none := rfl
  rw [grouped_of_some first found, grouped_of_none none, grouped_of_none none]

/-- An operand whose text is read as its expression where nothing goes on with it. -/
def Reads (operand : Operand) : Prop :=
  ∀ rest, Ends rest → Unaccessed rest →
    unary unbounded (operand.text ++ rest) = .ok (operand.expr, skipBlank rest)

end Operand

/-- A rest that goes on neither with the operand before it nor with operators of the levels from
the given one on. -/
structure Source.Stops (level : Nat) (rest : List Char) : Prop where
  /-- The last lexeme is over. -/
  ends : Ends rest
  /-- No access follows. -/
  unaccessed : Unaccessed rest
  /-- No operator of the levels follows. -/
  operator : ∀ tight ∈ operatorLevels.drop level, readOperator tight (skipBlank rest) = none

namespace Source.Stops

/-- A rest that goes on with no operator of some levels goes on with none of fewer levels. -/
theorem mono {level tighter : Nat} {rest : List Char} (stops : Stops level rest)
    (less : level ≤ tighter) : Stops tighter rest where
  ends := stops.ends
  unaccessed := stops.unaccessed
  operator tight member := by
    refine stops.operator tight ?_
    rw [← Nat.add_sub_of_le less, ← List.drop_drop] at member
    exact List.mem_of_mem_drop member

/-- The end of an expression goes on with no operator. -/
theorem of_closes {rest : List Char} (closes : Closes rest) : Stops 0 rest where
  ends := closes.ends
  unaccessed := closes.unaccessed
  operator tight member := readOperator_eq_none member (closes.no_operator tight member)

/-- A space and a character that starts no operator go on with no operator. -/
theorem of_space {level : Nat} {c : Char} (visible : isBlank c = false)
    (apart : c ∉ ['(', '.', '['])
    (other : ∀ tight ∈ operatorLevels.drop level, startsOperator tight c = false)
    (rest : List Char) : Stops level (' ' :: c :: rest) where
  ends := by
    refine ends_space visible ?_ rest
    rintro rfl
    exact apart (.head _)
  unaccessed := by
    have skipped : skipBlank (' ' :: c :: rest) = c :: rest := skipBlank_cons visible rest
    rw [Unaccessed, skipped]
    rintro d first
    cases first
    exact fun member => apart (.tail _ member)
  operator tight member := by
    have skipped : skipBlank (' ' :: c :: rest) = c :: rest := skipBlank_cons visible rest
    rw [skipped]
    refine readOperator_eq_none (List.mem_of_mem_drop member) ?_
    rintro d first
    cases first
    exact other tight member

/-- A link goes on with no operator of the tighter levels. -/
theorem of_link {link : Link} (spelt : link.Spelt) (rest : List Char) :
    Stops (link.level + 1) (' ' :: (link.spelling ++ rest)) := by
  obtain ⟨c, more, same, visible, apart⟩ := Link.spelling_cons spelt
  obtain ⟨level, tighter, levels, _, other⟩ := readOperator_spelling spelt
  rw [same, List.cons_append]
  refine of_space visible apart (fun tight member => ?_) (more ++ rest)
  rw [Link.level, ← List.drop_drop, levels, List.drop_succ_cons, List.drop_zero] at member
  exact other tight member c (by simp only [same]; rfl)

end Source.Stops

/-- Operands in a row that are read as their expression from a level of operators on. -/
structure GroupedAt (level : Nat) (first : Operand) (links : List Link) : Prop where
  /-- The row is read in front of a rest that does not go on with it. -/
  whole : ∀ rest, Stops level rest →
    binary unbounded (operatorLevels.drop level) (first.rowText links ++ rest) =
      .ok (first.grouped links, skipBlank rest)
  /-- The loop of the level is reached with the row in hand, so that it goes on with further
  operators of the level. -/
  reached : ∀ loose tighter, operatorLevels.drop level = loose :: tighter →
    ∀ rest, Stops (level + 1) rest → ∃ count, (skipBlank rest).length ≤ count ∧
      binary unbounded (loose :: tighter) (first.rowText links ++ rest) =
        chain (binary unbounded tighter) loose count (first.grouped links) (skipBlank rest)

namespace GroupedAt

variable {level : Nat} {first : Operand} {links : List Link}

/-- A row that is read from a level on is read from the looser levels on. -/
theorem whole_looser {looser : Nat} (less : looser ≤ level)
    (whole : ∀ rest, Stops level rest →
      binary unbounded (operatorLevels.drop level) (first.rowText links ++ rest) =
        .ok (first.grouped links, skipBlank rest))
    (rest : List Char) (stops : Stops looser rest) :
    binary unbounded (operatorLevels.drop looser) (first.rowText links ++ rest) =
      .ok (first.grouped links, skipBlank rest) := by
  have between : operatorLevels.drop looser =
      (operatorLevels.drop looser).take (level - looser) ++ operatorLevels.drop level := by
    conv => rhs; rw [← Nat.add_sub_of_le less, ← List.drop_drop]
    rw [Nat.add_sub_cancel_left, List.take_append_drop]
  rw [between]
  exact binary_append (whole rest (stops.mono less)) fun tight member =>
    stops.operator tight (List.mem_of_mem_take member)

/-- Where the tighter levels read a row, its level reaches its loop with it. -/
theorem of_tighter
    (whole : ∀ rest, Stops (level + 1) rest →
      binary unbounded (operatorLevels.drop (level + 1)) (first.rowText links ++ rest) =
        .ok (first.grouped links, skipBlank rest)) : GroupedAt level first links where
  whole := whole_looser (Nat.le_succ level) whole
  reached loose tighter levels rest stops := by
    have tight := whole rest stops
    rw [← List.drop_drop, levels, List.drop_succ_cons, List.drop_zero] at tight
    refine ⟨(skipBlank rest).length, Nat.le_refl _, ?_⟩
    rw [binary_cons, tight]
    rfl

/-- A single operand is read. -/
theorem single (reads : first.Reads) (none : Link.lastLoosest links = none) :
    GroupedAt level first links := by
  have text : first.rowText links = first.text := by
    rw [Link.lastLoosest_eq_none none]
    exact List.append_nil _
  refine of_tighter fun rest stops => ?_
  rw [text, Operand.grouped_of_none none]
  have operand : binary unbounded [] (first.text ++ rest) = .ok (first.expr, skipBlank rest) :=
    reads rest stops.ends stops.unaccessed
  have found := binary_append operand stops.operator
  rwa [List.append_nil] at found

/-- Where a level reaches its loop with a row, the row is read. -/
theorem of_reached {loose : List (List Char × BinaryOp)}
    {tighter : List (List (List Char × BinaryOp))}
    (levels : operatorLevels.drop level = loose :: tighter)
    (reached : ∀ rest, Stops (level + 1) rest → ∃ count, (skipBlank rest).length ≤ count ∧
      binary unbounded (loose :: tighter) (first.rowText links ++ rest) =
        chain (binary unbounded tighter) loose count (first.grouped links) (skipBlank rest)) :
    GroupedAt level first links where
  whole rest stops := by
    obtain ⟨count, _, found⟩ := reached rest (stops.mono (Nat.le_succ level))
    have ended := stops.operator loose (by rw [levels]; exact .head _)
    rw [← skipBlank_skipBlank] at ended
    rw [levels, found, chain_stop ended, skipBlank_skipBlank]
  reached loose' tighter' same rest stops := by
    obtain ⟨rfl, rfl⟩ := List.cons.inj (levels.symm.trans same)
    exact reached rest stops

/-- A row is read at the level of a link when the row before the link is read at the level, and the
row after it at the next one. -/
theorem link {before after : List Link} {link : Link} (spelt : link.Spelt)
    (grouped : first.grouped (before ++ link :: after) =
      .binary link.op (first.grouped before) (link.operand.grouped after))
    (left : GroupedAt link.level first before)
    (right : GroupedAt (link.level + 1) link.operand after) :
    GroupedAt link.level first (before ++ link :: after) := by
  obtain ⟨level, tight, levels, read, _⟩ := readOperator_spelling spelt
  have next : operatorLevels.drop (link.level + 1) = tight := by
    rw [Link.level, ← List.drop_drop, levels, List.drop_succ_cons, List.drop_zero]
  refine of_reached levels fun rest stops => ?_
  have operand := right.whole rest stops
  have shorter : (skipBlank rest).length ≤ (link.operand.rowText after ++ rest).length := by
    have skipped : skipBlank rest <:+ rest := List.dropWhile_suffix isBlank
    rw [List.length_append]
    exact Nat.le_add_left_of_le skipped.length_le
  rw [next] at operand
  rw [Operand.rowText_append, grouped]
  generalize link.operand.rowText after ++ rest = later at operand shorter ⊢
  -- The loop stands before the link with the row before it, and takes the row after it as operand.
  obtain ⟨count, enough, found⟩ := left.reached level tight levels
    (' ' :: (link.spelling ++ ' ' :: later)) (.of_link spelt _)
  obtain ⟨c, more, text, visible, _⟩ := Link.spelling_cons spelt
  have operator := read later
  have skipped : skipBlank (' ' :: (link.spelling ++ ' ' :: later)) =
      link.spelling ++ ' ' :: later := by
    rw [text]
    exact skipBlank_cons visible (more ++ ' ' :: later)
  have unskipped : skipBlank (link.spelling ++ ' ' :: later) = link.spelling ++ ' ' :: later := by
    rw [text]
    exact skipBlank_cons visible (more ++ ' ' :: later)
  rw [skipped, List.length_append, List.length_cons] at enough
  rw [found, skipped]
  cases count with
  | zero => contradiction
  | succ count =>
    refine ⟨count, by omega, ?_⟩
    rw [chain, unskipped, operator]
    simp only [binary_space, operand]
    rfl

/-- Operands in a row that are read are read as their expression, from any level on that is not
tighter than their operators. The operands before the last operator of the loosest level are read
at its level, and those after it at the next one. -/
theorem of_operands (first : Operand) (links : List Link) (reads : first.Reads)
    (each : ∀ link ∈ links, link.Spelt ∧ link.operand.Reads) (level : Nat)
    (listed : ∀ link ∈ links, level ≤ link.level) : GroupedAt level first links := by
  fun_induction Operand.grouped first links generalizing level with
  | case1 first links none => exact single reads none
  | case2 first links before link after found left right =>
    have grouped := Operand.grouped_of_some first found
    obtain ⟨rfl, looser, tighter⟩ := Link.lastLoosest_eq_some found
    have at_link := each link (by simp)
    have before_read := left reads (fun other member => each other (by simp [member])) link.level
      looser
    have after_read := right at_link.2 (fun other member => each other (by simp [member]))
      (link.level + 1) tighter
    have here := GroupedAt.link at_link.1 grouped before_read after_read
    -- The level of the link is the given one, or one that is tighter.
    rcases Nat.eq_or_lt_of_le (listed link (by simp)) with rfl | less
    · exact here
    · exact of_tighter (whole_looser less here.whole)

end GroupedAt

end DecisionFlow
