import DecisionFlow.Eval.Builtin

/-!
# Filling templates

A template is cut at its places, the leftmost place first and then what comes after it
(`Cut`). Every template has exactly one such cut (`exists_cut`, `Cut.unique`). Filling writes the
pieces in order with a text between two of them each: the display of the next value, or the mark of
the place when the values are used up (`fill_eq`). What is written for a value is never looked at
again, so a mark in it stays.
-/
namespace DecisionFlow.Eval

/-- The mark of a place in a template. -/
def mark : List Char := ['\x7b', '\x7d']

/-- A template cut at its places: the piece before the leftmost one, and the pieces after each. -/
inductive Cut : List Char → List Char → List (List Char) → Prop where
  /-- A template without places is one piece. -/
  | whole {text : List Char} (unmarked : ∀ before after, text ≠ before ++ mark ++ after) :
    Cut text text []
  /-- The first piece goes up to the leftmost place, and what is behind that place is cut. -/
  | place {text first rest piece : List Char} {pieces : List (List Char)}
    (marked : text = first ++ mark ++ rest)
    (leftmost : ∀ before after, text = before ++ mark ++ after → first.length ≤ before.length)
    (others : Cut rest piece pieces) : Cut text first (piece :: pieces)

/-! ## Every template has one cut -/

/-- A character that opens no place belongs to the first piece. -/
theorem Cut.cons {c : Char} {rest first : List Char} {further : List (List Char)}
    (apart : ∀ after, c :: rest ≠ mark ++ after) (cut : Cut rest first further) :
    Cut (c :: rest) (c :: first) further := by
  have inside {before after : List Char} (same : c :: rest = before ++ mark ++ after) :
      ∃ shorter, before = c :: shorter ∧ rest = shorter ++ mark ++ after := by
    cases before with
    | nil => exact absurd same (apart after)
    | cons d shorter =>
      obtain ⟨rfl, tails⟩ := List.cons.inj same
      exact ⟨shorter, rfl, tails⟩
  cases cut with
  | whole unmarked =>
    apply Cut.whole
    intro before after same
    obtain ⟨shorter, -, tails⟩ := inside same
    exact unmarked shorter after tails
  | place marked leftmost others =>
    refine .place (congrArg (List.cons c) marked) ?_ others
    intro before after same
    obtain ⟨shorter, rfl, tails⟩ := inside same
    exact Nat.succ_le_succ (leftmost shorter after tails)

/-- Every template can be cut. -/
theorem exists_cut (text : List Char) : ∃ first further, Cut text first further := by
  match text with
  | [] =>
    have unmarked : ∀ before after, [] ≠ before ++ mark ++ after := by simp [mark]
    exact ⟨[], [], .whole unmarked⟩
  | c :: rest =>
    by_cases marked : ∃ after, c :: rest = mark ++ after
    · obtain ⟨after, marked⟩ := marked
      have shorter : after.length < rest.length + 1 := by
        have lengths := congrArg List.length marked
        simp only [mark, List.length_append, List.length_cons, List.length_nil] at lengths
        omega
      obtain ⟨piece, pieces, others⟩ := exists_cut after
      exact ⟨[], piece :: pieces, .place marked (fun _ _ _ => Nat.zero_le _) others⟩
    · obtain ⟨first, further, cut⟩ := exists_cut rest
      exact ⟨c :: first, further, cut.cons fun after same => marked ⟨after, same⟩⟩
termination_by text.length

/-- A template can be cut in one way only. -/
theorem Cut.unique {text first other : List Char} {further others : List (List Char)}
    (cut : Cut text first further) (another : Cut text other others) :
    first = other ∧ further = others := by
  induction cut generalizing other others with
  | whole unmarked =>
    cases another with
    | whole => exact ⟨rfl, rfl⟩
    | place marked => exact absurd marked (unmarked _ _)
  | place marked leftmost behind ih =>
    cases another with
    | whole unmarked => exact absurd marked (unmarked _ _)
    | place marked' leftmost' behind' =>
      -- Both pieces before a leftmost place are as short as the other, so it is the same place.
      have below := leftmost _ _ marked'
      have above := leftmost' _ _ marked
      have same := marked.symm.trans marked'
      rw [List.append_assoc, List.append_assoc] at same
      obtain ⟨rfl, behindSame⟩ := List.append_inj same (Nat.le_antisymm below above)
      obtain rfl := List.append_cancel_left behindSame
      obtain ⟨rfl, rfl⟩ := ih behind'
      exact ⟨rfl, rfl⟩

/-! ## Filling a cut template -/

/-- Without texts to put in, a template stays. -/
theorem fill_nil (template : List Char) : fill template [] = template := by
  induction template with
  | nil => rfl
  | cons c rest ih => rw [fill, ih]; nofun

/-- At a place the next text is put in, or the mark stays. -/
theorem fill_mark (rest : List Char) (texts : List (List Char)) :
    fill (mark ++ rest) texts = (texts[0]?).getD mark ++ fill rest texts.tail := by
  cases texts with
  | nil => rw [fill_nil, List.tail_nil, fill_nil]; rfl
  | cons text texts => rfl

/-- What is before every place stays. -/
theorem fill_append {first rest : List Char} (texts : List (List Char))
    (leftmost : ∀ before after, first ++ rest = before ++ mark ++ after →
      first.length ≤ before.length) :
    fill (first ++ rest) texts = first ++ fill rest texts := by
  induction first with
  | nil => rfl
  | cons c first ih =>
    have apart : ∀ after, c :: (first ++ rest) ≠ mark ++ after := by
      intro after same
      exact absurd (leftmost [] after same) (Nat.not_succ_le_zero _)
    have others := ih fun before after same =>
      Nat.le_of_succ_le_succ (leftmost (c :: before) after (congrArg (List.cons c) same))
    rw [List.cons_append, fill, others, List.cons_append]
    -- The template would go on with the mark after all.
    rintro after _ _ - brace tails
    apply apart after
    rw [brace, tails]
    rfl

/-- Filling writes the pieces of a template with the texts between them, as long as there are texts,
and then with the marks. -/
theorem fill_eq {template first : List Char} {further : List (List Char)}
    (cut : Cut template first further) (texts : List (List Char)) :
    fill template texts =
      first ++ (further.mapIdx fun i piece => (texts[i]?).getD mark ++ piece).flatten := by
  induction cut generalizing texts with
  | whole unmarked =>
    rename_i text
    have stays := @fill_append text [] texts fun before after same =>
      absurd (text.append_nil.symm.trans same) (unmarked before after)
    rw [List.append_nil] at stays
    rw [stays]
    rfl
  | place marked leftmost others ih =>
    subst marked
    rw [List.append_assoc] at leftmost ⊢
    rw [fill_append texts leftmost, fill_mark, ih texts.tail, List.mapIdx_cons, List.flatten_cons]
    simp only [List.append_assoc, List.getElem?_tail]

/-- What is written at a place: the display of the value there, or the mark when there is none. -/
def shown [Value.Enumeration] (values : List Value) (i : Nat) : List Char :=
  (values[i]?).elim mark fun value => value.display.toList

/-- The template function puts each value into one place, from left to right. Every template has one
cut at its leftmost places, and the result is its pieces in order with the displays of the values
between them: a place without value keeps its mark, a value without place is left out, and a display
is written as it is, whatever marks are in it. -/
theorem format_template [Regex.Matcher] [Value.Enumeration] (template : String) :
    ∃ first further, Cut template.toList first further ∧
      (∀ piece pieces, Cut template.toList piece pieces → piece = first ∧ pieces = further) ∧
      ∀ values : List Value, call "format" (.string template :: values) =
        .ok (.string (String.ofList
          (first ++ (further.mapIdx fun i piece => shown values i ++ piece).flatten))) := by
  obtain ⟨first, further, cut⟩ := exists_cut template.toList
  refine ⟨first, further, cut, fun piece pieces another => another.unique cut, ?_⟩
  intro values
  have texts (i : Nat) : ((values.map fun value => value.display.toList)[i]?).getD mark =
      shown values i := by
    rw [List.getElem?_map]
    cases found : values[i]? with
    | none => simp only [shown, found, Option.map_none, Option.getD_none, Option.elim_none]
    | some value => simp only [shown, found, Option.map_some, Option.getD_some, Option.elim_some]
  have filled := fill_eq cut (values.map fun value => value.display.toList)
  simp only [texts] at filled
  show Except.ok _ = Except.ok _
  rw [filled]

/-- A mark in a value is written as it is, and the next value goes into the next place of the
template. -/
example :
    call "format" [.string "\x7b\x7d of \x7b\x7d", .string "\x7b\x7d", .int 7, .null] =
      .ok (.string "\x7b\x7d of 7") := by
  rfl

end DecisionFlow.Eval
