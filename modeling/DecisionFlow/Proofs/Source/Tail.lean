import DecisionFlow.Proofs.Source.Locality

/-!
# Readers in front of a tail

What follows a text inside brackets starts with a closing bracket. A text is parallel to the text
with such a tail after it, so what is read off the text is read off it in front of the tail, and
what is left is then followed by the tail (`unbounded_append`).
-/
namespace DecisionFlow.Source

open DecisionFlow.Text

/-- A closing bracket and anything after it. -/
structure Tail where
  /-- The closing bracket. -/
  closer : Char
  /-- What is after it. -/
  after : List Char
  /-- It is a closing bracket. -/
  closes : closer ∈ closingBrackets

namespace Tail

/-- The text of a tail. -/
def text (tail : Tail) : List Char := tail.closer :: tail.after

variable (tail : Tail)

/-- White space before a tail is skipped. -/
theorem skipBlank_append (text : List Char) :
    skipBlank (text ++ tail.text) = skipBlank text ++ tail.text := by
  have visible : ∀ c ∈ closingBrackets, isBlank c = false := by decide
  refine (span_append_of_stops ?_ text).2
  rintro c ⟨⟩
  exact visible tail.closer tail.closes

/-- The inside of a text literal is read alike up to its closing quote. -/
theorem readQuoted_append {quote : Char} {text value rest : List Char}
    (read : readQuoted quote text = some (value, rest)) :
    readQuoted quote (text ++ tail.text) = some (value, rest ++ tail.text) := by
  fun_induction readQuoted quote text generalizing value with
  | case1 => contradiction
  | case2 after =>
    cases read
    rw [List.cons_append, readQuoted.eq_def]
    exact if_pos rfl
  | case3 => contradiction
  | case4 escaped after other ih =>
    obtain ⟨⟨inside, _⟩, found, same⟩ := Option.map_eq_some_iff.mp read
    cases same
    rw [List.cons_append, List.cons_append, readQuoted.eq_def]
    simp only [other, if_false, if_true, ih found]
    rfl
  | case5 c after other plain ih =>
    obtain ⟨⟨inside, _⟩, found, same⟩ := Option.map_eq_some_iff.mp read
    cases same
    rw [List.cons_append, readQuoted.eq_def]
    simp only [other, plain, if_false, ih found]
    rfl

/-- A text is parallel to the text with the tail after it. -/
theorem parallel : Parallel fun text other => other = text ++ tail.text where
  ended := by
    rintro _ rfl c ⟨⟩
    exact tail.closes
  blank := by
    rintro c rest _ blank rfl d ⟨⟩
    exact blank
  skipped := by
    rintro text _ rfl
    exact tail.skipBlank_append text
  same := by
    rintro c rest _ _ _ rfl
    exact ⟨_, rfl, rfl⟩
  quoted := by
    rintro c rest _ _ rfl
    exact ⟨_, rfl, fun value after read => ⟨_, tail.readQuoted_append read, rfl⟩⟩

/-- What is read as an expression is read alike in front of the tail. -/
theorem unbounded_append {text rest : List Char} {expr : Expr}
    (read : unbounded text = .ok (expr, rest)) :
    unbounded (text ++ tail.text) = .ok (expr, rest ++ tail.text) := by
  obtain ⟨_, found, rfl, _, _⟩ := unbounded_keeps tail.parallel text _ rfl expr rest read
  exact found

end Tail

/-- What follows an expression is an end of the text. -/
theorem unbounded_suffix {text rest : List Char} {expr : Expr}
    (read : unbounded text = .ok (expr, rest)) : rest <:+ text := by
  let tail : Tail := ⟨')', [], by decide⟩
  obtain ⟨_, _, _, suffix, _⟩ := unbounded_keeps tail.parallel text _ rfl expr rest read
  exact suffix

end DecisionFlow.Source
