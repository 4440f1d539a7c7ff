import DecisionFlow.Proofs.Source.Operation
import DecisionFlow.Proofs.Source.Printing

/-!
# Layouts without parentheses

A source may leave out the parentheses that a printed expression has: operands stand in a row, and
a conditional stands after a row, with further layouts in its branches. Such a source is read as
the operators group by their levels and as the conditionals group to the right, whatever operands
it has (`Layout.parse_eq`). The operands may be printed expressions (`parse_layout`).
-/
namespace DecisionFlow

open Source Text

/-- A layout of operands, operators and conditionals without parentheses. -/
inductive Layout where
  /-- Operands in a row. -/
  | row (first : Operand) (links : List Link)
  /-- A conditional: operands in a row, and a layout for each branch. -/
  | conditional (first : Operand) (links : List Link) (yes no : Layout)

/-- An operand is a statement of its own and is read as its expression. -/
structure Operand.Readable (operand : Operand) : Prop where
  /-- The text is a statement. -/
  statement : Statement operand.text
  /-- The text is read as the expression. -/
  reads : operand.Reads

/-- An operand that is a printed expression. -/
structure Operand.Printed (operand : Operand) : Prop where
  /-- The expression is printable. -/
  printable : operand.expr.Printable
  /-- The text is that of the expression. -/
  text : operand.text = operand.expr.toText

/-- A printed expression is a readable operand. -/
theorem Operand.Printed.readable {operand : Operand} (printed : operand.Printed) :
    operand.Readable where
  statement := printed.text ▸ Statement.of_printable printed.printable
  reads rest ends unaccessed := by
    rw [printed.text]
    exact (ReadsBack.of_printable printed.printable).operand rest ends unaccessed

/-- Readable operands in a row are read in front of a rest that does not go on with them. -/
theorem Operand.binary_row {first : Operand} {links : List Link} (readable : first.Readable)
    (each : ∀ link ∈ links, link.Spelt ∧ link.operand.Readable) {rest : List Char}
    (stops : Stops 0 rest) :
    binary unbounded operatorLevels (first.rowText links ++ rest) =
      .ok (first.grouped links, skipBlank rest) := by
  have grouped := GroupedAt.of_operands first links readable.reads
    (fun link member => ⟨(each link member).1, (each link member).2.reads⟩) 0
    fun _ _ => Nat.zero_le _
  exact grouped.whole rest stops

/-- Readable operands in a row are a statement. -/
theorem Operand.statement_row {first : Operand} {links : List Link} (readable : first.Readable)
    (each : ∀ link ∈ links, link.Spelt ∧ link.operand.Readable) :
    Statement (first.rowText links) := by
  induction links generalizing first with
  | nil =>
    rw [rowText, List.flatMap_nil, List.append_nil]
    exact readable.statement
  | cons link links ih =>
    have rest := ih (each link (.head _)).2 fun other member => each other (.tail _ member)
    have parts := readable.statement.append_space (link.spelling ++ [' ']) rest
    simpa [rowText] using parts

namespace Layout

/-- The text of a layout. -/
def text : Layout → List Char
  | .row first links => first.rowText links
  | .conditional first links yes no =>
    first.rowText links ++ ' ' :: '?' :: ' ' :: (yes.text ++ ' ' :: ':' :: ' ' :: no.text)

/-- The expression of a layout. -/
def expr : Layout → Expr
  | .row first links => first.grouped links
  | .conditional first links yes no => .ternary (first.grouped links) yes.expr no.expr

/-- Whether every operator has one of its spellings and something holds of every operand. -/
def Holds (holds : Operand → Prop) : Layout → Prop
  | .row first links => holds first ∧ ∀ link ∈ links, link.Spelt ∧ holds link.operand
  | .conditional first links yes no =>
    (holds first ∧ ∀ link ∈ links, link.Spelt ∧ holds link.operand) ∧
      yes.Holds holds ∧ no.Holds holds

/-- What follows from what holds of the operands holds of them too. -/
theorem Holds.imp {holds further : Operand → Prop}
    (follows : ∀ operand, holds operand → further operand) {layout : Layout}
    (all : layout.Holds holds) : layout.Holds further := by
  induction layout with
  | row first links =>
    exact ⟨follows first all.1, fun link member =>
      ⟨(all.2 link member).1, follows _ (all.2 link member).2⟩⟩
  | conditional first links yes no yes_ih no_ih =>
    exact ⟨⟨follows first all.1.1, fun link member =>
      ⟨(all.1.2 link member).1, follows _ (all.1.2 link member).2⟩⟩, yes_ih all.2.1, no_ih all.2.2⟩

/-- The text of a conditional in front of a rest. -/
theorem conditional_append (first : Operand) (links : List Link) (yes no : Layout)
    (rest : List Char) :
    (conditional first links yes no).text ++ rest =
      first.rowText links ++ ' ' :: '?' :: ' ' ::
        (yes.text ++ ' ' :: ':' :: ' ' :: (no.text ++ rest)) := by
  simp [text]

/-- A layout of readable operands is read as its expression in front of the end of an
expression. -/
theorem reads {layout : Layout} (all : layout.Holds Operand.Readable) {rest : List Char}
    (closes : Closes rest) :
    unbounded (layout.text ++ rest) = .ok (layout.expr, skipBlank rest) := by
  induction layout generalizing rest with
  | row first links =>
    have found := Operand.binary_row all.1 all.2 (.of_closes closes)
    have read := unbounded_stop found (by rwa [Closes, skipBlank_skipBlank])
    rwa [skipBlank_skipBlank] at read
  | conditional first links yes no yes_ih no_ih =>
    have question : ∀ after, skipBlank (' ' :: '?' :: after) = '?' :: after :=
      fun after => skipBlank_cons (by decide : isBlank '?' = false) after
    have colon : skipBlank (' ' :: ':' :: ' ' :: (no.text ++ rest)) =
        ':' :: ' ' :: (no.text ++ rest) := skipBlank_cons (by decide : isBlank ':' = false) _
    have asked : ∀ after, Stops 0 (' ' :: '?' :: after) :=
      fun after => .of_space (by decide) (by decide) (by decide) after
    have parted : Closes (' ' :: ':' :: ' ' :: (no.text ++ rest)) := by
      rw [Closes, colon]
      exact closes_cons (by decide : ':' ∈ closers) _
    have condition := Operand.binary_row all.1.1 all.1.2
      (asked (' ' :: (yes.text ++ ' ' :: ':' :: ' ' :: (no.text ++ rest))))
    have yes_read := yes_ih all.2.1 parted
    have no_read := no_ih all.2.2 closes
    rw [conditional_append, unbounded_eq, Source.conditional, condition, question]
    simp only [bind, Except.bind, skipBlank_cons (by decide : isBlank '?' = false), unbounded_space,
      yes_read, colon, closing_cons (by decide : isBlank ':' = false), unbounded_skipBlank, no_read]
    rfl

/-- The text of a layout of readable operands is a statement. -/
theorem statement {layout : Layout} (all : layout.Holds Operand.Readable) :
    Statement layout.text := by
  induction layout with
  | row first links => exact Operand.statement_row all.1 all.2
  | conditional first links yes no _ no_ih =>
    have condition := Operand.statement_row all.1.1 all.1.2
    have parts := condition.append_space ('?' :: ' ' :: (yes.text ++ [' ', ':', ' ']))
      (no_ih all.2.2)
    simpa [text] using parts

/-- A layout of readable operands is parsed as its expression, within the limits of nesting and
depth. -/
theorem parse_eq {layout : Layout} (all : layout.Holds Operand.Readable)
    (shallow : layout.expr.depth ≤ depthLimit) (allowed : nestingAllowed layout.text = true) :
    parse (String.ofList layout.text) = .ok layout.expr := by
  have closes : Closes [] := nofun
  have read := reads all closes
  rw [List.append_nil] at read
  exact (statement all).parse_eq allowed read shallow

end Layout

/-- Printed expressions in a row, with operators between them, are parsed as the operators group by
their levels: the last operator of the loosest level applies to what is before it and after it.
Conditionals of such rows are parsed as conditionals, the branches of which may be conditionals
again. -/
theorem Source.parse_layout {layout : Layout} (printed : layout.Holds Operand.Printed)
    (shallow : layout.expr.depth ≤ depthLimit) (allowed : nestingAllowed layout.text = true) :
    parse (String.ofList layout.text) = .ok layout.expr :=
  layout.parse_eq (printed.imp fun _ => Operand.Printed.readable) shallow allowed

/-- Operators of three levels, two of them in a row on one level, and a conditional in a branch. -/
theorem Source.parse_layout_mixed :
    let operand : Expr → Operand := fun expr => ⟨expr.toText, expr⟩
    let layout : Layout := .conditional (operand (.ident "a"))
      [⟨['|', '|'], .or, operand (.ident "b")⟩, ⟨['=', '=', '='], .eq, operand (.int 1)⟩,
        ⟨['-'], .sub, operand (.unary .neg (.int 2))⟩, ⟨['-'], .sub, operand (.int 3)⟩]
      (.row (operand (.ident "c")) [⟨['i', 'n'], .member, operand (.list [.int 6])⟩])
      (.conditional (operand (.ident "d")) [] (.row (operand (.int 4)) [])
        (.row (operand (.int 5)) []))
    layout.Holds Operand.Printed ∧
      String.ofList layout.text = "a || b === 1 - -2 - 3 ? c in [6] : d ? 4 : 5" ∧
      parse "a || b === 1 - -2 - 3 ? c in [6] : d ? 4 : 5" =
        .ok (.ternary
          (.binary .or (.ident "a") (.binary .eq (.ident "b")
            (.binary .sub (.binary .sub (.int 1) (.unary .neg (.int 2))) (.int 3))))
          (.binary .member (.ident "c") (.list [.int 6]))
          (.ternary (.ident "d") (.int 4) (.int 5))) := by
  intro operand layout
  have printed : ∀ {expr : Expr}, expr.Printable → (operand expr).Printed :=
    fun printable => ⟨printable, rfl⟩
  have name : ∀ {name : String}, isName name.toList = true → name ∉ reservedNames →
      (operand (.ident name)).Printed := fun named free => printed (.ident named free)
  have number : ∀ {value : Int64}, 0 ≤ value → (operand (.int value)).Printed :=
    fun nonnegative => printed (.int nonnegative)
  have listed : (operand (.list [.int 6])).Printed := by
    refine printed (.list ?_)
    simp only [List.mem_singleton, forall_eq]
    exact .int (by decide)
  have holds : layout.Holds Operand.Printed := by
    refine ⟨⟨name (by decide) (by decide), ?_⟩, ⟨name (by decide) (by decide), ?_⟩,
      ⟨name (by decide) (by decide), nofun⟩, ⟨number (by decide), nofun⟩, number (by decide), nofun⟩
    · simp only [List.forall_mem_cons]
      exact ⟨⟨by decide, name (by decide) (by decide)⟩, ⟨by decide, number (by decide)⟩,
        ⟨by decide, printed (.unary .neg (.int (by decide)))⟩, ⟨by decide, number (by decide)⟩,
        nofun⟩
    · simp only [List.mem_singleton, forall_eq]
      exact ⟨by decide, listed⟩
  have text : layout.text = "a || b === 1 - -2 - 3 ? c in [6] : d ? 4 : 5".toList := by decide
  have expr : layout.expr = .ternary
      (.binary .or (.ident "a") (.binary .eq (.ident "b")
        (.binary .sub (.binary .sub (.int 1) (.unary .neg (.int 2))) (.int 3))))
      (.binary .member (.ident "c") (.list [.int 6]))
      (.ternary (.ident "d") (.int 4) (.int 5)) := by
    simp [layout, operand, Layout.expr, Operand.grouped, Link.lastLoosest, Link.level, looserLevels]
  have shallow : layout.expr.depth ≤ depthLimit := by
    simp [expr, Expr.depth, Expr.deepest, Expr.children, depthLimit]
  have allowed : nestingAllowed layout.text = true := by
    rw [text]
    decide
  have parsed := parse_layout holds shallow allowed
  rw [text, expr, String.ofList_toList] at parsed
  exact ⟨holds, by rw [text, String.ofList_toList], parsed⟩

end DecisionFlow
