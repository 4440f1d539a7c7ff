import DecisionFlow.Proofs.Source.Layout
import DecisionFlow.Proofs.Source.Tail

/-!
# Sources in parentheses

A source that is parsed may be put in parentheses, where it is an atom: whatever follows the closing
parenthesis, it is read as its expression, and the parentheses around it are the ones that were put
there. White space, a semicolon and `return` are taken off a source but not off the inside of
parentheses, so the source has to be without them. Two such sources are operands of any operator
(`parse_parenthesised`).
-/
namespace DecisionFlow

open Source Text

namespace Source

/-- No end of a bare text is trimmed away. -/
theorem Bare.eq_nil_of_trim {text rest : List Char} (bare : Bare text) (suffix : rest <:+ text)
    (trimmed : trim rest = []) : rest = [] := by
  rcases List.eq_nil_or_concat rest with rfl | ⟨before, d, rfl⟩
  · rfl
  · obtain ⟨more, rfl⟩ := suffix
    rw [List.concat_eq_append] at bare trimmed
    have stays := bare.last d (by rw [← List.append_assoc]; exact List.getLast?_concat)
    simp only [staysAtEnd, Bool.and_eq_true, Bool.not_eq_true'] at stays
    rw [trim_concat stays.1] at trimmed
    simp at trimmed

/-- A bare source that is parsed is read as a whole. -/
theorem Bare.read {source : String} {expr : Expr} (bare : Bare source.toList)
    (parsed : parse source = .ok expr) : unbounded source.toList = .ok (expr, []) := by
  obtain ⟨_, _, rest, read, trimmed⟩ := parse_eq_ok parsed
  rw [bare.split_eq] at read
  rw [read, bare.eq_nil_of_trim (unbounded_suffix read) trimmed]

/-- A text that is read as a whole is an atom in parentheses. -/
theorem atom_parenthesised {text : List Char} {expr : Expr}
    (read : unbounded text = .ok (expr, [])) (rest : List Char) :
    atom unbounded ('(' :: (text ++ ')' :: rest)) = .ok (expr, rest) := by
  have inside := Tail.unbounded_append ⟨')', rest, by decide⟩ read
  exact atom_round (enclosed_eq (by decide) inside)

end Source

/-- A text in parentheses. -/
def Operand.parenthesised (text : List Char) (expr : Expr) : Operand :=
  ⟨'(' :: (text ++ [')']), expr⟩

/-- A text that is read as a whole is a readable operand in parentheses. -/
theorem Operand.parenthesised_readable {text : List Char} {expr : Expr}
    (read : unbounded text = .ok (expr, [])) : (parenthesised text expr).Readable where
  statement := Statement.of_ends text (by decide) (by decide) (by decide)
  reads rest ends unaccessed := by
    have found := atom_parenthesised read rest
    have whole : (parenthesised text expr).text ++ rest = '(' :: (text ++ ')' :: rest) := by
      simp [parenthesised]
    rw [whole, unary, readPrefixOps_cons (by decide)]
    simp only [accessed, found, bind, Except.bind, accesses_stop unaccessed]
    rfl

/-- Sources that are parsed are operands in parentheses: each is an atom, whatever follows it, and
an operator between them is parsed as the operator on their expressions. -/
theorem Source.parse_parenthesised {first second : String} {left right : Expr}
    (bare : Bare first.toList) (parsed : parse first = .ok left)
    (bare' : Bare second.toList) (parsed' : parse second = .ok right) :
    (∀ rest, atom unbounded ('(' :: (first.toList ++ ')' :: rest)) = .ok (left, rest)) ∧
      ∀ (spelling : String) (op : BinaryOp), (spelling.toList, op) ∈ operatorLevels.flatten →
        nestingAllowed ("(" ++ first ++ ") " ++ spelling ++ " (" ++ second ++ ")").toList = true →
        (Expr.binary op left right).depth ≤ depthLimit →
        parse ("(" ++ first ++ ") " ++ spelling ++ " (" ++ second ++ ")") =
          .ok (.binary op left right) := by
  have read := bare.read parsed
  have read' := bare'.read parsed'
  refine ⟨atom_parenthesised read, fun spelling op spelt allowed shallow => ?_⟩
  let layout : Layout := .row (.parenthesised first.toList left)
    [⟨spelling.toList, op, .parenthesised second.toList right⟩]
  have readable : layout.Holds Operand.Readable := by
    refine ⟨Operand.parenthesised_readable read, ?_⟩
    simp only [List.mem_singleton, forall_eq]
    exact ⟨spelt, Operand.parenthesised_readable read'⟩
  have text : "(" ++ first ++ ") " ++ spelling ++ " (" ++ second ++ ")" =
      String.ofList layout.text := by
    apply String.toList_inj.mp
    simp [layout, Layout.text, Operand.rowText, Operand.parenthesised]
  have expr : layout.expr = .binary op left right := Operand.grouped_single ..
  rw [text, String.toList_ofList] at allowed
  rw [text, ← expr]
  rw [← expr] at shallow
  exact layout.parse_eq readable shallow allowed

/-- A conditional with a quoted parenthesis is compared with itself. -/
theorem Source.parse_parenthesised_conditional :
    let source := "a ? b : \")\""
    let expr : Expr := .ternary (.ident "a") (.ident "b") (.string ")")
    Bare source.toList ∧ parse source = .ok expr ∧
      parse "(a ? b : \")\") === (a ? b : \")\")" = .ok (.binary .eq expr expr) := by
  intro source expr
  have bare : Bare source.toList := ⟨by decide, by decide, by decide⟩
  let operand : Expr → Operand := fun expr => ⟨expr.toText, expr⟩
  let layout : Layout := .conditional (operand (.ident "a")) [] (.row (operand (.ident "b")) [])
    (.row (operand (.string ")")) [])
  have printed : layout.Holds Operand.Printed := by
    refine ⟨⟨⟨.ident (by decide) (by decide), rfl⟩, nofun⟩,
      ⟨⟨.ident (by decide) (by decide), rfl⟩, nofun⟩, ⟨.string (by decide), rfl⟩, nofun⟩
  have parsed : parse source = .ok expr := by
    have text : layout.text = source.toList := by decide
    have shallow : layout.expr.depth ≤ depthLimit := by
      simp [layout, operand, Layout.expr, Operand.grouped, Link.lastLoosest, Expr.depth,
        Expr.deepest, Expr.children, depthLimit]
    have allowed : nestingAllowed layout.text = true := by
      rw [text]
      decide
    have found := layout.parse_eq (printed.imp fun _ => Operand.Printed.readable) shallow allowed
    rw [text, String.ofList_toList] at found
    rw [found]
    simp [layout, operand, expr, Layout.expr, Operand.grouped, Link.lastLoosest]
  have shallow : (Expr.binary .eq expr expr).depth ≤ depthLimit := by
    simp [expr, Expr.depth, Expr.deepest, Expr.children, depthLimit]
  have both := (parse_parenthesised bare parsed bare parsed).2 "===" .eq (by decide) (by decide)
    shallow
  exact ⟨bare, parsed, both⟩

end DecisionFlow
