import DecisionFlow.Proofs.Source.Frames
import DecisionFlow.Source.Compiler

/-!
# The nesting of sources bounds the reader

The scan of the nesting and the grammar divide a text alike: outside text literals the scan stands
at the same place as the reader, and it counts at least the brackets and the conditionals that the
reader has open. The places of the scan are therefore frames, so an expression of an allowed
source is read with 33 expressions inside each other at most (`nesting_bounds_reading`). The length
of a text is another frame: it bounds the reader of any source.
-/
namespace DecisionFlow.Source

open DecisionFlow.Text

/-- A text literal is the inside of one of the quotes. -/
theorem readText_eq_some {text rest : List Char} {value : String}
    (read : readText text = some (value, rest)) :
    ∃ quote after inside, text = quote :: after ∧ (quote = '"' ∨ quote = '\'') ∧
      readQuoted quote after = some (inside, rest) := by
  unfold readText at read
  split at read
  · obtain ⟨⟨inside, _⟩, found, same⟩ := Option.map_eq_some_iff.mp read
    cases same
    exact ⟨'"', _, inside, rfl, .inl rfl, found⟩
  · obtain ⟨⟨inside, _⟩, found, same⟩ := Option.map_eq_some_iff.mp read
    cases same
    exact ⟨'\'', _, inside, rfl, .inr rfl, found⟩
  · contradiction

namespace Scan

variable {limit brackets ternaries : Nat}

/-- Outside text literals a plain character counts nothing. -/
theorem step_plain {c : Char} (plain : isPlain c = true) :
    ({ brackets, ternaries } : Scan).step c = { brackets, ternaries } := by
  simp only [isPlain, structural, List.contains_cons, Bool.not_eq_true', Bool.or_eq_false_iff,
    beq_eq_false_iff_ne] at plain
  simp [step, plain]

/-- Outside text literals an opening bracket counts. -/
theorem step_first (bracket : Bracket) :
    ({ brackets, ternaries } : Scan).step bracket.first =
      { brackets := brackets + 1, ternaries } := by
  cases bracket <;> rfl

/-- Outside text literals a closing bracket takes an open one back. -/
theorem step_last (bracket : Bracket) :
    ({ brackets := brackets + 1, ternaries } : Scan).step bracket.last =
      { brackets, ternaries } := by
  cases bracket <;> rfl

/-- The nesting stays within the limit after the first character of a text. -/
theorem staysWithin_cons {scan : Scan} {c : Char} {rest : List Char} :
    scan.staysWithin limit (c :: rest) = true ↔
      (scan.step c).brackets + (scan.step c).ternaries ≤ limit ∧
        (scan.step c).staysWithin limit rest = true := by
  simp only [staysWithin, Bool.and_eq_true, decide_eq_true_eq]

/-- The scan of plain characters leaves the scan of the rest. -/
theorem staysWithin_of_passes {text rest : List Char} (passes : Passes text rest)
    (within : ({ brackets, ternaries } : Scan).staysWithin limit text = true) :
    ({ brackets, ternaries } : Scan).staysWithin limit rest = true := by
  obtain ⟨taken, rfl, plain⟩ := passes
  induction taken with
  | nil => exact within
  | cons c taken ih =>
    have tail := (staysWithin_cons.mp within).2
    rw [step_plain (plain c (.head _))] at tail
    exact ih (fun c member => plain c (.tail _ member)) tail

/-- The scan of the inside of a text literal ends where the reader of it ends. -/
theorem staysWithin_of_readQuoted {quote : Char} (other : quote ≠ '\\')
    {text rest value : List Char} (read : readQuoted quote text = some (value, rest))
    (within : ({ brackets, ternaries, quote := .inside quote } : Scan).staysWithin limit text =
      true) : ({ brackets, ternaries } : Scan).staysWithin limit rest = true := by
  fun_induction readQuoted quote text generalizing value with
  | case1 => contradiction
  | case2 rest' =>
    cases read
    have tail := (staysWithin_cons.mp within).2
    simpa only [step, other, if_false, if_true] using tail
  | case3 => contradiction
  | case4 _ escaped after ih =>
    obtain ⟨⟨inside, _⟩, found, same⟩ := Option.map_eq_some_iff.mp read
    cases same
    have tail := (staysWithin_cons.mp (staysWithin_cons.mp within).2).2
    exact ih found (by simpa only [step, if_true] using tail)
  | case5 c after closes escapes ih =>
    obtain ⟨⟨inside, _⟩, found, same⟩ := Option.map_eq_some_iff.mp read
    cases same
    have tail := (staysWithin_cons.mp within).2
    exact ih found (by simpa only [step, closes, escapes, if_false] using tail)

/-- The scan of a text literal leaves the scan of the rest. -/
theorem staysWithin_of_readText {text rest : List Char} {value : String}
    (read : readText text = some (value, rest))
    (within : ({ brackets, ternaries } : Scan).staysWithin limit text = true) :
    ({ brackets, ternaries } : Scan).staysWithin limit rest = true := by
  obtain ⟨quote, after, inside, rfl, literal, found⟩ := readText_eq_some read
  have tail := (staysWithin_cons.mp within).2
  rcases literal with rfl | rfl
  · exact staysWithin_of_readQuoted (by decide) found tail
  · exact staysWithin_of_readQuoted (by decide) found tail

end Scan

/-- A rest that the scan reaches outside text literals, with the given number of open brackets and
no fewer than the given number of question marks, and scans within the limit. -/
def ScannedAt (limit : Nat) (frame : Nat × Nat) (text : List Char) : Prop :=
  ∃ ternaries, frame.2 ≤ ternaries ∧ frame.1 + ternaries ≤ limit ∧
    ({ brackets := frame.1, ternaries } : Scan).staysWithin limit text = true

/-- The places of the scan are frames. Mismatched brackets do no harm: the reader leaves a frame
over its own closing bracket only, and question marks are never taken back. -/
theorem scanned_frames (limit : Nat) :
    Frames (ScannedAt limit) (fun frame => limit - (frame.1 + frame.2)) where
  plain passes stands := by
    obtain ⟨ternaries, asked, fits, within⟩ := stands
    exact ⟨ternaries, asked, fits, Scan.staysWithin_of_passes passes within⟩
  quoted read stands := by
    obtain ⟨ternaries, asked, fits, within⟩ := stands
    exact ⟨ternaries, asked, fits, Scan.staysWithin_of_readText read within⟩
  opened {frame rest} bracket stands := by
    obtain ⟨ternaries, asked, fits, within⟩ := stands
    obtain ⟨deeper, tail⟩ := Scan.staysWithin_cons.mp within
    rw [Scan.step_first] at deeper tail
    simp only at deeper
    refine ⟨(frame.1 + 1, frame.2), by simp only; omega, ⟨ternaries, asked, deeper, tail⟩, ?_⟩
    rintro after ⟨ternaries, asked, fits, within⟩
    have tail := (Scan.staysWithin_cons.mp within).2
    rw [Scan.step_last] at tail
    exact ⟨ternaries, asked, by simp only at fits; omega, tail⟩
  asked {frame rest} stands := by
    obtain ⟨ternaries, asked, fits, within⟩ := stands
    obtain ⟨deeper, tail⟩ := Scan.staysWithin_cons.mp within
    have counts : ({ brackets := frame.1, ternaries } : Scan).step '?' =
      { brackets := frame.1, ternaries := ternaries + 1 } := rfl
    rw [counts] at deeper tail
    simp only at deeper
    refine ⟨(frame.1, frame.2 + 1), by simp only; omega, ?_, ?_⟩
    · exact ⟨ternaries + 1, by simp only; omega, deeper, tail⟩
    · rintro after ⟨ternaries, asked, fits, within⟩
      exact ⟨ternaries, by simp only at asked; omega, fits, within⟩

/-- A text literal is shorter than the text that it is read from. -/
theorem length_readQuoted {quote : Char} {text rest value : List Char}
    (read : readQuoted quote text = some (value, rest)) : rest.length < text.length := by
  fun_induction readQuoted quote text generalizing value with
  | case1 => contradiction
  | case2 rest' =>
    cases read
    exact Nat.lt_succ_self _
  | case3 => contradiction
  | case4 _ escaped after ih =>
    obtain ⟨⟨inside, _⟩, found, same⟩ := Option.map_eq_some_iff.mp read
    cases same
    have shorter := ih found
    simp only [List.length_cons]
    omega
  | case5 c after closes escapes ih =>
    obtain ⟨⟨inside, _⟩, found, same⟩ := Option.map_eq_some_iff.mp read
    cases same
    exact Nat.lt_succ_of_lt (ih found)

/-- The lengths of texts are frames. -/
theorem length_frames : Frames (fun (length : Nat) text => text.length ≤ length) id where
  plain passes short := by
    obtain ⟨taken, rfl, _⟩ := passes
    rw [List.length_append] at short
    omega
  quoted read short := by
    obtain ⟨quote, after, inside, rfl, _, found⟩ := readText_eq_some read
    have shorter := length_readQuoted found
    simp only [List.length_cons] at short
    omega
  opened {length rest} bracket short := by
    simp only [List.length_cons] at short
    refine ⟨rest.length, short, Nat.le_refl _, ?_⟩
    intro after closes
    simp only [List.length_cons] at closes
    omega
  asked {length rest} short := by
    simp only [List.length_cons] at short
    exact ⟨rest.length, short, Nat.le_refl _, fun after shorter => by omega⟩

/-- The reader of expressions without a budget: no text needs more than one for each of its
characters and one. -/
def unbounded : Reader Expr := fun text => expression (text.length + 1) text

/-- Whatever would read below the length of a text, the reading is the one without a budget. -/
theorem agree_unbounded (text : List Char) (deep : Reader Expr) :
    Agree False (fun rest => rest.length ≤ text.length) (conditional^[text.length + 1] deep text)
      (unbounded text) := by
  rw [unbounded, expression_add (text.length + 1) 0]
  exact nested_alike length_frames deep _ _ text.length (Nat.lt_succ_self _) text (Nat.le_refl _)

/-- The reader without a budget is the grammar applied to itself. -/
theorem unbounded_eq (text : List Char) : unbounded text = conditional unbounded text := by
  have below : AlikeBelow False (fun (length : Nat) text => text.length ≤ length) id text.length
      (expression text.length) unbounded := by
    intro inner less nested short
    obtain ⟨spare, total⟩ := Nat.exists_eq_add_of_le (Nat.lt_of_le_of_lt short less)
    have agree := agree_unbounded nested (expression spare)
    rw [← expression_add, ← Nat.succ_eq_add_one, ← total] at agree
    exact agree.weaken fun rest shorter => Nat.le_trans shorter short
  exact (conditional_alike length_frames below text (Nat.le_refl _)).eq

/-- Any reader that is the grammar applied to itself is the grammar entered so many times. -/
theorem eq_iterate_of_fixed {reader : Reader Expr}
    (fixed : ∀ text, reader text = conditional reader text) (count : Nat) :
    reader = conditional^[count] reader := by
  induction count with
  | zero => rfl
  | succ count ih =>
    rw [Function.iterate_succ_apply', ← ih]
    exact funext fixed

/-- A budget is used up, or what is read is what the reader without a budget reads. -/
theorem expression_exhausted_or_eq (budget : Nat) (text : List Char) :
    expression budget text = .error .exhausted ∨ expression budget text = unbounded text := by
  have alike : ∀ length : Nat, Alike True (fun text => text.length ≤ length) (expression budget)
      unbounded := by
    induction budget with
    | zero => exact fun _ _ _ => .exhausted trivial _
    | succ budget ih =>
      intro length text short
      rw [unbounded_eq]
      exact conditional_alike length_frames (fun inner _ => ih inner) text short
  exact (alike text.length text (Nat.le_refl _)).exhausted_or_eq

/-- Compiling never runs out of nested expressions, whatever the source. -/
theorem parse_ne_exhausted (source : String) :
    parse source ≠ .error (.unreadable .exhausted) := by
  unfold parse readBody
  generalize (splitStatement source.toList).1 = body
  have ends := (agree_unbounded body unbounded).eq ▸ (agree_unbounded body unbounded).ne_exhausted
  rw [unbounded] at ends
  split
  · nofun
  · split
    · nofun
    · split
      · rename_i failure failed
        intro same
        cases same
        exact ends failed
      · simp only
        split
        · nofun
        · split <;> nofun

/-- A source that is parsed nests no more than is allowed, and what is read off it is its tree,
within the limit of depth, with nothing after it but what is trimmed. -/
theorem parse_eq_ok {source : String} {expr : Expr} (parsed : parse source = .ok expr) :
    nestingAllowed (splitStatement source.toList).1 = true ∧ expr.depth ≤ depthLimit ∧
      ∃ rest, unbounded (splitStatement source.toList).1 = .ok (expr, rest) ∧ trim rest = [] := by
  rw [parse, readBody] at parsed
  split at parsed
  · cases parsed
  · split at parsed
    · cases parsed
    · rename_i allowed
      split at parsed
      · cases parsed
      · rename_i found rest read
        simp only [Bool.not_eq_true'] at parsed
        split at parsed
        · cases parsed
        · rename_i trimmed
          split at parsed
          · cases parsed
          · rename_i shallow
            cases parsed
            exact ⟨by simpa using allowed, Nat.not_lt.mp shallow, rest, read,
              by simpa using trimmed⟩

/-- A source that nests no more than is allowed is parsed to what is read off it, within the limit
of depth, when nothing follows but what is trimmed. -/
theorem parse_of_read {source : String} {expr : Expr} {rest : List Char}
    (allowed : nestingAllowed (splitStatement source.toList).1 = true)
    (shallow : expr.depth ≤ depthLimit)
    (read : unbounded (splitStatement source.toList).1 = .ok (expr, rest))
    (trimmed : trim rest = []) : parse source = .ok expr := by
  rw [parse, readBody]
  generalize (splitStatement source.toList).1 = body at allowed read
  cases body with
  | nil => cases read
  | cons c body =>
    have deep : ¬depthLimit < expr.depth := Nat.not_lt.mpr shallow
    have visible : (c :: body).isEmpty = false := rfl
    rw [unbounded] at read
    rw [visible, allowed, read]
    simp [trimmed, deep]

/-- An allowed source is read with 33 expressions inside each other at most. The reader with that
budget is not exhausted, which would show (`expression_exhausted_or_eq`); it reads the same
whatever would read an expression below, and the same as any reader without a budget. -/
theorem nesting_bounds_reading {body : List Char} (allowed : nestingAllowed body = true) :
    expression (nestingLimit + 1) body ≠ .error .exhausted ∧
      (∀ deep : Reader Expr,
        conditional^[nestingLimit + 1] deep body = expression (nestingLimit + 1) body) ∧
      (∀ reader : Reader Expr, (∀ text, reader text = conditional reader text) →
        reader body = expression (nestingLimit + 1) body) ∧
      unbounded body = expression (nestingLimit + 1) body := by
  have stands : ScannedAt nestingLimit (0, 0) body :=
    ⟨0, Nat.le_refl _, Nat.zero_le _, allowed⟩
  have agree : ∀ deep : Reader Expr, Agree False (ScannedAt nestingLimit (0, 0))
      (conditional^[nestingLimit + 1] deep body) (expression (nestingLimit + 1) body) := by
    intro deep
    rw [expression_add (nestingLimit + 1) 0]
    exact nested_alike (scanned_frames nestingLimit) deep _ _ (0, 0) (Nat.lt_succ_self _) body
      stands
  have fixed : ∀ reader : Reader Expr, (∀ text, reader text = conditional reader text) →
      reader body = expression (nestingLimit + 1) body := by
    intro reader unrolls
    rw [eq_iterate_of_fixed unrolls (nestingLimit + 1)]
    exact (agree reader).eq
  refine ⟨?_, fun deep => (agree deep).eq, fixed, fixed unbounded unbounded_eq⟩
  rw [← (agree unbounded).eq]
  exact (agree unbounded).ne_exhausted

/-- A source with a missing bracket, a stray one and quoted ones is read within the bound. -/
theorem nesting_bounds_reading_malformed :
    let body := "f(a ? [b) : \x7bc: '((?'".toList
    nestingAllowed body = true ∧ expression (nestingLimit + 1) body ≠ .error .exhausted ∧
      unbounded body = expression (nestingLimit + 1) body := by
  intro body
  have allowed : nestingAllowed body = true := by decide
  have bounded := nesting_bounds_reading allowed
  exact ⟨allowed, bounded.1, bounded.2.2.1 unbounded unbounded_eq⟩

end DecisionFlow.Source
