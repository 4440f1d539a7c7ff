import DecisionFlow.Proofs.Source.Brackets

/-!
# What is open in a source

A bracket is open until its closing bracket, and a conditional from its question mark to the end of
its second branch. The scan of the nesting counts what is open, and with it every conditional that
has ended (`staysWithin_iff`). So a source that can be read is refused for its nesting when at some
place of it the open brackets and conditionals together with the conditionals that have ended are
more than allowed (`parse_iff_openings`), though no more than three may be open at once
(`parse_sideBySide`).
-/
namespace DecisionFlow.Source

open DecisionFlow.Text

/-- What can be open in a text. -/
inductive Opening where
  /-- A bracket, up to its closing bracket. -/
  | bracket
  /-- The first branch of a conditional, up to its colon. -/
  | first
  /-- The second branch of a conditional, up to its end. -/
  | second
deriving DecidableEq, Repr

/-- What is open at a place of a text. -/
structure Openings where
  /-- What is open, the innermost first. -/
  pending : List Opening := []
  /-- How many conditionals have ended. -/
  ended : Nat := 0
deriving DecidableEq, Repr

namespace Openings

/-- All that is open, and the conditionals that have ended. -/
def total (openings : Openings) : Nat := openings.pending.length + openings.ended

/-- Something is open from here on. -/
def enter (opening : Opening) (openings : Openings) : Openings :=
  { openings with pending := opening :: openings.pending }

/-- Everything of a kind ends that is inside of all else. -/
def leave (ends : Opening → Bool) (openings : Openings) : Openings where
  pending := openings.pending.dropWhile ends
  ended := openings.ended + (openings.pending.takeWhile ends).length

/-- What is open after a character outside text literals. A closing bracket ends the conditionals
inside its bracket. A comma ends the innermost second branches. So does a colon, and the first
branch that these were in is followed by the second one. -/
def step (openings : Openings) (c : Char) : Openings :=
  if c ∈ closingBrackets then
    let left := openings.leave (· != .bracket)
    { left with pending := left.pending.tail }
  else if c ∈ brackets then openings.enter .bracket
  else if c = '?' then openings.enter .first
  else if c = ',' then openings.leave (· == .second)
  else if c = ':' then
    match openings.leave (· == .second) with
    | ⟨.first :: outer, ended⟩ => ⟨.second :: outer, ended⟩
    | left => left
  else openings

/-- What is open at the end of a text. -/
def ofText (text : List Char) : Openings := (unquoted .outside text).foldl step {}

/-- What is open at each place of a text. -/
def along (text : List Char) : List Openings := (unquoted .outside text).scanl step {}

end Openings

/-- A scan that counts what is open: the brackets, and the conditionals together with those that
have ended. -/
structure Scan.Counts (scan : Scan) (openings : Openings) : Prop where
  /-- The brackets are those that are open. -/
  brackets : scan.brackets = openings.pending.count .bracket
  /-- The question marks are those of all conditionals so far. -/
  ternaries : scan.ternaries + openings.pending.count .bracket = openings.total

namespace Scan.Counts

variable {scan : Scan} {openings : Openings}

/-- The scan nests as deep as the total of the openings. -/
theorem total_eq (counts : scan.Counts openings) :
    scan.brackets + scan.ternaries = openings.total := by
  have brackets := counts.brackets
  have ternaries := counts.ternaries
  omega

/-- What ends without a bracket is counted on. -/
theorem leave (counts : scan.Counts openings) (ends : Opening → Bool)
    (keeps : ends .bracket = false) : scan.Counts (openings.leave ends) := by
  have split := List.takeWhile_append_dropWhile (p := ends) (l := openings.pending)
  have none : (openings.pending.takeWhile ends).count .bracket = 0 := by
    refine List.count_eq_zero.mpr fun member => ?_
    have ended := List.all_eq_true.mp List.all_takeWhile _ member
    rw [keeps] at ended
    contradiction
  have same : (openings.leave ends).pending.count .bracket = openings.pending.count .bracket := by
    rw [Openings.leave, ← congrArg (List.count _) split, List.count_append, none, Nat.zero_add]
  have total : (openings.leave ends).total = openings.total := by
    have lengths := congrArg List.length split
    rw [List.length_append] at lengths
    simp only [Openings.total, Openings.leave]
    omega
  exact ⟨by rw [same, counts.brackets], by rw [same, total, counts.ternaries]⟩

/-- The innermost bracket ends with the closing one, when there is any. -/
theorem close {count ternaries : Nat}
    (counts : ({ brackets := count, ternaries } : Scan).Counts openings)
    (inside : ∀ opening ∈ openings.pending.head?, opening = .bracket) :
    ({ brackets := count - 1, ternaries } : Scan).Counts
      { openings with pending := openings.pending.tail } := by
  obtain ⟨pending, ended⟩ := openings
  obtain ⟨brackets, total⟩ := counts
  simp only [Openings.total] at brackets total
  cases pending with
  | nil =>
    rw [List.count_nil] at brackets
    subst brackets
    exact ⟨rfl, total⟩
  | cons opening outer =>
    cases inside opening rfl
    rw [List.count_cons_self] at brackets total
    rw [List.length_cons] at total
    refine ⟨?_, ?_⟩
    · simp only [List.tail_cons]
      omega
    · simp only [List.tail_cons, Openings.total]
      omega

/-- One character outside text literals keeps the count. -/
theorem step (counts : scan.Counts openings) (outside : scan.quote = .outside) {c : Char}
    (apart : c ∉ quotes) : (scan.step c).Counts (openings.step c) := by
  obtain ⟨count, ternaries, _⟩ := scan
  cases outside
  rw [Scan.step_unquoted apart, Openings.step]
  have opened := counts.brackets
  have total := counts.ternaries
  simp only [Openings.total] at opened total
  by_cases closing : c ∈ closingBrackets
  · rw [if_pos closing, if_pos closing]
    refine (counts.leave (· != .bracket) rfl).close fun opening innermost => ?_
    have found : (openings.pending.dropWhile (· != .bracket)).head? = some opening := innermost
    have head := List.head?_dropWhile_not (· != .bracket) openings.pending
    rw [found] at head
    simpa using head
  · rw [if_neg closing, if_neg closing]
    by_cases opens : c ∈ Source.brackets
    · rw [if_pos opens, if_pos opens]
      refine ⟨?_, ?_⟩
      · rw [Openings.enter, List.count_cons_self, ← opened]
      · simp only [Openings.enter, Openings.total, List.count_cons_self, List.length_cons]
        omega
    · rw [if_neg opens, if_neg opens]
      by_cases asks : c = '?'
      · rw [if_pos asks, if_pos asks]
        have apart : (Opening.first == .bracket) = false := rfl
        refine ⟨?_, ?_⟩
        · rw [Openings.enter, List.count_cons, apart]
          exact opened
        · simp only [Openings.enter, Openings.total, List.count_cons, apart, List.length_cons,
            Bool.false_eq_true, if_false]
          omega
      · rw [if_neg asks, if_neg asks]
        have left := counts.leave (· == .second) rfl
        split
        · exact left
        · split
          · split
            · rename_i outer ended same
              rw [same] at left
              exact ⟨left.brackets, left.ternaries⟩
            · exact left
          · exact counts

end Scan.Counts

/-- The nesting stays within a limit when the brackets and conditionals that are open and the
conditionals that have ended do. -/
theorem staysWithin_iff {limit : Nat} {scan : Scan} {openings : Openings}
    (counts : scan.Counts openings) (text : List Char) :
    scan.brackets + scan.ternaries ≤ limit ∧ scan.staysWithin limit text = true ↔
      ∀ place ∈ (unquoted scan.quote text).scanl Openings.step openings, place.total ≤ limit := by
  induction text generalizing scan openings with
  | nil =>
    rw [unquoted, List.scanl_nil, List.forall_mem_singleton, counts.total_eq]
    exact and_iff_left rfl
  | cons c text ih =>
    rw [Scan.staysWithin_cons]
    obtain quoted | ⟨outside, apart⟩ := quoted_or_outside scan.quote c
    · obtain ⟨brackets, ternaries⟩ := Scan.step_quoted quoted
      have further : (scan.step c).Counts openings :=
        ⟨brackets.trans counts.brackets, by rw [ternaries, counts.ternaries]⟩
      rw [unquoted_skip quoted, ← Scan.quote_step, ← ih further, brackets, ternaries]
      exact and_self_left
    · rw [outside, unquoted_cons apart, ← Scan.quote_step_outside outside apart, List.scanl_cons,
        List.forall_mem_cons, ← ih (counts.step outside apart), counts.total_eq]

namespace Openings

variable {branches : Nat}

/-- Some second branches are open inside of all else. -/
def under (branches : Nat) (openings : Openings) : Openings :=
  { openings with pending := List.replicate branches .second ++ openings.pending }

/-- Some more conditionals have ended. -/
def finish (count : Nat) (openings : Openings) : Openings :=
  { openings with ended := openings.ended + count }

/-- The conditionals that end one after the other are added up. -/
theorem finish_finish (first second : Nat) (openings : Openings) :
    (openings.finish first).finish second = openings.finish (first + second) := by
  rw [finish, finish, finish, Nat.add_assoc]

/-- What has ended does not depend on what is entered. -/
theorem finish_enter (count : Nat) (opening : Opening) (openings : Openings) :
    (openings.enter opening).finish count = (openings.finish count).enter opening := rfl

/-- A second branch is one more of those inside of all else. -/
theorem under_enter (openings : Openings) :
    (openings.enter .second).under branches = openings.under (branches + 1) := by
  rw [enter, under, under, List.replicate_succ', List.append_assoc]
  rfl

/-- What ends of second branches on top of something else are these. -/
theorem leave_under {openings : Openings} {ends : Opening → Bool} (second : ends .second = true)
    (stays : ∀ opening ∈ openings.pending.head?, ends opening = false) :
    (openings.under branches).leave ends = openings.finish branches := by
  have all : ∀ opening ∈ List.replicate branches Opening.second, ends opening = true :=
    fun opening member => List.eq_of_mem_replicate member ▸ second
  have none : openings.pending.dropWhile ends = openings.pending ∧
      openings.pending.takeWhile ends = [] := by
    cases found : openings.pending with
    | nil => exact ⟨rfl, rfl⟩
    | cons opening outer =>
      have apart := stays opening (by rw [found]; rfl)
      rw [List.dropWhile_cons, List.takeWhile_cons, apart]
      exact ⟨rfl, rfl⟩
  rw [leave, under, finish, List.dropWhile_append_of_pos all, List.takeWhile_append_of_pos all,
    none.1, none.2, List.append_nil, List.length_replicate]

/-- A lexical character opens and ends nothing. -/
theorem step_lexical {c : Char} (lexical : isLexical c = true) (openings : Openings) :
    openings.step c = openings := by
  have closers : ∀ c ∈ closingBrackets, c ∈ structural ++ separators := by decide
  have openers : ∀ c ∈ brackets, c ∈ structural ++ separators := by decide
  have apart := notMem_of_isLexical lexical
  have other : ∀ d ∈ structural ++ separators, c ≠ d := fun d listed same => apart (same ▸ listed)
  rw [step, if_neg fun closer => apart (closers c closer),
    if_neg fun opener => apart (openers c opener), if_neg (other '?' (by decide)),
    if_neg (other ',' (by decide)), if_neg (other ':' (by decide))]

/-- An opening bracket is open from then on. -/
theorem step_first (bracket : Bracket) (openings : Openings) :
    openings.step bracket.first = openings.enter .bracket := by
  cases bracket <;> rfl

/-- A closing bracket ends the second branches inside its bracket. -/
theorem step_last (bracket : Bracket) (openings : Openings) :
    ((openings.enter .bracket).under branches).step bracket.last = openings.finish branches := by
  have closes (state : Openings) : state.step bracket.last =
      { state.leave (· != .bracket) with
        pending := (state.leave (· != .bracket)).pending.tail } := by
    cases bracket <;> rfl
  rw [closes, leave_under rfl (by rintro _ ⟨⟩; rfl)]
  rfl

/-- A question mark starts the first branch of a conditional. -/
theorem step_asked (openings : Openings) : openings.step '?' = openings.enter .first := rfl

/-- A comma ends second branches. -/
theorem step_comma {openings : Openings}
    (stays : ∀ opening ∈ openings.pending.head?, opening ≠ .second) :
    (openings.under branches).step ',' = openings.finish branches :=
  leave_under rfl fun opening innermost => beq_eq_false_iff_ne.mpr (stays opening innermost)

/-- A colon ends second branches, and the first branch that they are in. -/
theorem step_colon (openings : Openings) :
    ((openings.enter .first).under branches).step ':' =
      (openings.finish branches).enter .second := by
  have colon (state : Openings) : state.step ':' =
      match state.leave (· == .second) with
      | ⟨.first :: outer, ended⟩ => ⟨.second :: outer, ended⟩
      | left => left := rfl
  rw [colon, leave_under rfl (by rintro _ ⟨⟩; rfl)]
  rfl

/-- A colon after a key ends nothing. -/
theorem step_key (openings : Openings) :
    (openings.enter .bracket).step ':' = openings.enter .bracket := rfl

/-- What a phrase leaves open. Operands leave nothing: the conditionals in them have ended. An
expression leaves the last ones of its conditionals open in their second branches, and so do the
items or entries in a bracket. -/
def Leaves : Part → Nat → List Char → Prop
  | .operand, count, text => ∀ openings : Openings, text.foldl step openings = openings.finish count
  | .whole, count, text => ∀ openings : Openings, ∃ branches finished,
      branches + finished = count ∧
        text.foldl step openings = (openings.finish finished).under branches
  | .inside, count, text => ∀ openings : Openings, ∃ branches finished,
      branches + finished = count ∧
        text.foldl step (openings.enter .bracket) =
          ((openings.finish finished).enter .bracket).under branches

end Openings

/-- What a phrase leaves open. -/
theorem Phrase.openings {part : Part} {count : Nat} {text : List Char}
    (phrase : Phrase part count text) : Openings.Leaves part count (unquoted .outside text) := by
  refine (phrase.induct_unquoted (motive := Openings.Leaves) ?lexical ?bracketed ?append ?single
    ?conditional ?item ?entry ?comma).2
  case lexical =>
    intro text all openings
    induction text with
    | nil => rfl
    | cons c text ih =>
      obtain ⟨first, others⟩ := List.forall_mem_cons.mp all
      rw [List.foldl_cons, Openings.step_lexical first]
      exact ih others
  case bracketed =>
    intro bracket count text inside openings
    obtain ⟨branches, finished, total, left⟩ := inside openings
    rw [List.foldl_cons, Openings.step_first, List.foldl_append, left, List.foldl_cons,
      Openings.step_last, Openings.finish_finish, Nat.add_comm, total]
    rfl
  case append =>
    intro count further text rest first second openings
    rw [List.foldl_append, first, second, Openings.finish_finish]
  case single =>
    intro count text operand openings
    exact ⟨0, count, Nat.zero_add count, operand openings⟩
  case conditional =>
    intro count first second text yes no condition left right openings
    obtain ⟨branches, finished, total, chosen⟩ := left ((openings.finish count).enter .first)
    have asked : (text ++ '?' :: yes).foldl Openings.step openings =
        ((openings.finish (count + finished)).enter .first).under branches := by
      rw [List.foldl_append, condition, List.foldl_cons, Openings.step_asked, chosen,
        Openings.finish_enter, Openings.finish_finish]
    obtain ⟨branches', finished', total', left'⟩ :=
      right ((openings.finish (count + finished + branches)).enter .second)
    refine ⟨branches' + 1, count + finished + branches + finished', by omega, ?_⟩
    have shape : text ++ '?' :: (yes ++ ':' :: no) = (text ++ '?' :: yes) ++ ':' :: no := by
      rw [List.append_assoc, List.cons_append]
    rw [shape, List.foldl_append, asked, List.foldl_cons, Openings.step_colon,
      Openings.finish_finish, left', Openings.finish_enter, Openings.finish_finish,
      Openings.under_enter]
  case item =>
    intro count text whole openings
    exact whole (openings.enter .bracket)
  case entry =>
    intro count further key text first second openings
    obtain ⟨branches, finished, total, left⟩ := second ((openings.finish count).enter .bracket)
    refine ⟨branches, count + finished, by omega, ?_⟩
    have keyed : key.foldl Openings.step (openings.enter .bracket) =
        (openings.finish count).enter .bracket := first (openings.enter .bracket)
    rw [List.foldl_append, keyed, List.foldl_cons, Openings.step_key, left,
      Openings.finish_enter, Openings.finish_finish]
  case comma =>
    intro count further text rest first second openings
    obtain ⟨branches, finished, total, left⟩ := first openings
    obtain ⟨branches', finished', total', left'⟩ := second (openings.finish (finished + branches))
    refine ⟨branches', finished + branches + finished', by omega, ?_⟩
    have separated : (text ++ [',']).foldl Openings.step (openings.enter .bracket) =
        (openings.finish (finished + branches)).enter .bracket := by
      rw [List.foldl_append, left, List.foldl_cons, Openings.step_comma (by rintro _ ⟨⟩; nofun),
        Openings.finish_enter, Openings.finish_finish]
      rfl
    rw [List.append_cons, List.foldl_append, separated, left', Openings.finish_finish]

/-- Nesting is allowed when at each place of a text the brackets and conditionals that are open,
together with the conditionals that have ended, are within the limit. -/
theorem nestingAllowed_iff {text : List Char} :
    nestingAllowed text = true ↔ ∀ place ∈ Openings.along text, place.total ≤ nestingLimit := by
  have counts : ({} : Scan).Counts {} := ⟨rfl, rfl⟩
  rw [Openings.along, ← staysWithin_iff counts text]
  exact (and_iff_right (Nat.zero_le _)).symm

/-- Only its nesting decides on a source that can be read to its end, to a tree within the limit of
depth. -/
theorem parse_eq_of_read {source : String} {expr : Expr} {rest : List Char}
    (read : unbounded (splitStatement source.toList).1 = .ok (expr, rest))
    (trimmed : trim rest = []) (shallow : expr.depth ≤ depthLimit) :
    parse source =
      if nestingAllowed (splitStatement source.toList).1 then .ok expr else .error .tooNested := by
  cases allowed : nestingAllowed (splitStatement source.toList).1 with
  | true => exact parse_of_read allowed shallow read trimmed
  | false =>
    rw [parse, readBody]
    generalize (splitStatement source.toList).1 = body at allowed read
    cases body with
    | nil => cases read
    | cons c body =>
      have visible : (c :: body).isEmpty = false := rfl
      rw [visible, allowed]
      rfl

/-- A source that can be read to its end, to a tree within the limit of depth, is parsed to this
tree when at each place the brackets and conditionals that are open, together with the conditionals
that have ended, are within the limit of nesting. Otherwise it is refused as nested too deeply. At
its end nothing but second branches is open, and all conditionals of the tree are open or have
ended. -/
theorem parse_iff_openings {source : String} {expr : Expr} {rest : List Char}
    (read : unbounded (splitStatement source.toList).1 = .ok (expr, rest))
    (trimmed : trim rest = []) (shallow : expr.depth ≤ depthLimit) :
    let body := (splitStatement source.toList).1
    (parse source = .ok expr ↔ ∀ place ∈ Openings.along body, place.total ≤ nestingLimit) ∧
      (parse source = .error .tooNested ↔
        ∃ place ∈ Openings.along body, nestingLimit < place.total) ∧
      (∀ opening ∈ (Openings.ofText body).pending, opening = .second) ∧
      (Openings.ofText body).total = expr.conditionals := by
  intro body
  have phrase : Phrase .whole expr.conditionals body := phrase_of_read read trimmed
  obtain ⟨branches, finished, total, left⟩ := phrase.openings {}
  have ends : Openings.ofText body = ⟨List.replicate branches .second, finished⟩ := by
    rw [Openings.ofText, left, Openings.under, Openings.finish, List.append_nil, Nat.zero_add]
  have past : nestingAllowed body = false ↔
      ∃ place ∈ Openings.along body, nestingLimit < place.total := by
    rw [← Bool.not_eq_true, nestingAllowed_iff]
    simp only [not_forall, Nat.not_le, exists_prop]
  rw [parse_eq_of_read read trimmed shallow, ← nestingAllowed_iff, ← past, ends]
  refine ⟨?_, ?_, fun opening member => List.eq_of_mem_replicate member, ?_⟩
  · cases nestingAllowed body <;> simp
  · cases nestingAllowed body <;> simp
  · rw [Openings.total, List.length_replicate, total]

/-- A conditional in each branch of another one, between brackets. -/
theorem parse_iff_openings_nested :
    let source := "[(a ? (b ? c : d) : (e ? f : g))] ;"
    let expr : Expr := .list [.ternary (.ident "a")
      (.ternary (.ident "b") (.ident "c") (.ident "d"))
      (.ternary (.ident "e") (.ident "f") (.ident "g"))]
    unbounded (splitStatement source.toList).1 = .ok (expr, []) ∧ trim [] = [] ∧
      expr.depth ≤ depthLimit ∧ parse source = .ok expr ∧
      Openings.ofText (splitStatement source.toList).1 = ⟨[], 3⟩ := by
  intro source expr
  have split : (splitStatement source.toList).1 =
      "[(a ? (b ? c : d) : (e ? f : g))]".toList := by decide
  have name {name : String} (named : isName name.toList = true) (free : name ∉ reservedNames) :
      (Expr.ident name).Printable := .ident named free
  have printable : expr.Printable := by
    refine .list (List.forall_mem_singleton.mpr ?_)
    refine .ternary (name (by decide) (by decide)) (.ternary ?_ ?_ ?_) (.ternary ?_ ?_ ?_)
    all_goals exact name (by decide) (by decide)
  have text : expr.toText = "[(a ? (b ? c : d) : (e ? f : g))]".toList := by decide
  have read : unbounded (splitStatement source.toList).1 = .ok (expr, []) := by
    rw [split, ← text]
    exact (ReadsBack.of_printable printable).whole_end
  have shallow : expr.depth ≤ depthLimit := Expr.depth_le_iff.mpr (by decide)
  have parsed := (parse_iff_openings read rfl shallow).1.mpr (by rw [split]; decide)
  exact ⟨read, rfl, shallow, parsed, by rw [split]; decide⟩

/-- A conditional between parentheses. -/
def choice : Expr := .ternary (.ident "a") (.ident "b") (.ident "c")

/-- A list of conditionals side by side has no more than two brackets and one conditional open at
once. With 33 of them it is read completely, to a tree of depth 3, and refused as nested too
deeply. -/
theorem parse_sideBySide :
    let source := String.ofList
      ("[(a ? b : c)".toList ++ (List.replicate 32 ", (a ? b : c)".toList).flatten ++ [']'])
    let expr : Expr := .list (List.replicate 33 choice)
    unbounded (splitStatement source.toList).1 = .ok (expr, []) ∧ expr.depth ≤ depthLimit ∧
      (∀ place ∈ Openings.along (splitStatement source.toList).1, place.pending.length ≤ 3) ∧
      parse source = .error .tooNested := by
  intro source expr
  have each : choice.Printable :=
    .ternary (.ident (by decide) (by decide)) (.ident (by decide) (by decide))
      (.ident (by decide) (by decide))
  have printable : expr.Printable := .list fun item member => List.eq_of_mem_replicate member ▸ each
  have text : expr.toText =
      "[(a ? b : c)".toList ++ (List.replicate 32 ", (a ? b : c)".toList).flatten ++ [']'] := by
    decide +kernel
  have split : (splitStatement source.toList).1 = expr.toText := by
    rw [String.toList_ofList, ← text]
    exact congrArg Prod.fst (Statement.of_printable printable).split_eq
  have read : unbounded (splitStatement source.toList).1 = .ok (expr, []) := by
    rw [split]
    exact (ReadsBack.of_printable printable).whole_end
  have shallow : expr.depth ≤ depthLimit := Expr.depth_le_iff.mpr (by decide +kernel)
  have flat : ∀ place ∈ Openings.along expr.toText, place.pending.length ≤ 3 := by decide +kernel
  have past : nestingAllowed expr.toText = false := by decide +kernel
  refine ⟨read, shallow, by rw [split]; exact flat, ?_⟩
  rw [parse_eq_of_read read rfl shallow, split, past]
  rfl

end DecisionFlow.Source
