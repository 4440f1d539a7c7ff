import DecisionFlow.Proofs.Eval.Formed
import DecisionFlow.Proofs.Eval.Truth

/-!
# The two membership tests of lists

The function `contains` and the operator of its name look for an item that is strictly equal to a
value; the operator `in` looks for an item that the value is equal to up to rounding. Strictly equal
values are so unless they are infinite (`equal_of_same`, `equal_eq_false_of_infinite`); other values
are so when they are numbers near each other, one of them a double (`close_or_same_of_equal`). What
that means for a whole list is `contains_eq_member_iff`.
-/
namespace DecisionFlow

/-- An infinite double. -/
def Value.Infinite (value : Value) : Prop := ∃ x, value = .float x ∧ x.isInf = true

namespace Eval

/-- Two numbers of which one is a double, and near each other as doubles. -/
def Close (left right : Value) : Prop :=
  ∃ x y, numbers? left right = some (.floats x y) ∧ Number.near x y = true

variable {left right : Value}

/-- Numbers that are near each other are equal up to rounding. -/
theorem Close.equal (close : Close left right) : equal left right = true := by
  obtain ⟨x, y, numbers, near⟩ := close
  rw [Eval.equal, numbers]
  exact near

/-- Values that are not two numbers with a double among them are equal up to rounding when they are
strictly equal. -/
theorem equal_eq_same (numbers : ∀ x y, numbers? left right ≠ some (.floats x y)) :
    equal left right = left.same right := by
  rw [equal]
  split
  · rename_i found
    exact absurd found (numbers _ _)
  · rfl

/-- Values that are equal up to rounding are near numbers or strictly equal. -/
theorem close_or_same_of_equal (equal : equal left right = true) :
    Close left right ∨ left.same right = true := by
  by_cases numbers : ∃ x y, numbers? left right = some (.floats x y)
  · obtain ⟨x, y, numbers⟩ := numbers
    rw [Eval.equal, numbers] at equal
    exact .inl ⟨x, y, numbers, equal⟩
  · rw [equal_eq_same fun x y found => numbers ⟨x, y, found⟩] at equal
    exact .inr equal

/-- A value that is strictly equal to another is so up to rounding unless it is infinite. -/
theorem equal_of_same (same : left.same right = true) (bounded : ¬ left.Infinite) :
    equal left right = true := by
  cases left with
  | float x =>
    cases right with
    | float y =>
      have finite : x.isInf = false :=
        Bool.eq_false_iff.mpr fun infinite => bounded ⟨x, rfl, infinite⟩
      exact Number.near_of_beq same finite
    | _ => simp [Value.same] at same
  | int a =>
    cases right with
    | float y => simp [Value.same] at same
    | _ => exact same
  | _ => exact same

/-- An infinite double is equal to nothing up to rounding. -/
theorem equal_eq_false_of_infinite (infinite : left.Infinite) (right : Value) :
    equal left right = false := by
  obtain ⟨x, rfl, infinite⟩ := infinite
  cases right with
  | float y => exact Number.near_of_isInf infinite y
  | int b => exact Number.near_of_isInf infinite _
  | _ => simp [equal, numbers?, Value.same]

/-- Whether an item is strictly equal to a value and whether the value is equal to an item up to
rounding differ in two cases only: the value is infinite and an item, or no item is the value but
some item is a number near it. -/
theorem any_same_ne_any_equal_iff {items : List Value} {value : Value}
    (formedItems : ∀ item ∈ items, item.WellFormed) (formed : value.WellFormed) :
    (items.any fun item => item.same value) ≠ (items.any fun item => equal value item) ↔
      (value.Infinite ∧ ∃ item ∈ items, item.same value = true) ∨
      (∀ item ∈ items, item.same value = false) ∧ ∃ item ∈ items, Close value item := by
  have comm (item : Value) (inside : item ∈ items) : item.same value = value.same item :=
    Value.same_comm (formedItems item inside) formed
  constructor
  · intro apart
    by_cases held : ∃ item ∈ items, item.same value = true
    · refine .inl ⟨Classical.byContradiction fun bounded => apart ?_, held⟩
      obtain ⟨item, inside, same⟩ := held
      have loose : equal value item = true := equal_of_same (comm item inside ▸ same) bounded
      rw [List.any_eq_true.mpr ⟨item, inside, same⟩, List.any_eq_true.mpr ⟨item, inside, loose⟩]
    · have absent : (items.any fun item => item.same value) = false :=
        Bool.eq_false_iff.mpr fun strict => held (List.any_eq_true.mp strict)
      have present : (items.any fun item => equal value item) = true :=
        Bool.ne_false_iff.mp fun loose => apart (absent.trans loose.symm)
      obtain ⟨item, inside, loose⟩ := List.any_eq_true.mp present
      refine .inr ⟨fun item inside => Bool.eq_false_iff.mpr fun same => held ⟨item, inside, same⟩,
        item, inside, ?_⟩
      rcases close_or_same_of_equal loose with close | same
      · exact close
      · exact absurd ⟨item, inside, (comm item inside).trans same⟩ held
  · rintro (⟨infinite, held⟩ | ⟨absent, item, inside, close⟩)
    · have strict : (items.any fun item => item.same value) = true := List.any_eq_true.mpr held
      have loose : (items.any fun item => equal value item) = false :=
        List.any_eq_false.mpr fun item _ =>
          Bool.eq_false_iff.mp (equal_eq_false_of_infinite infinite item)
      rw [strict, loose]
      exact Bool.true_eq_false.mp
    · have strict : (items.any fun item => item.same value) = false :=
        List.any_eq_false.mpr fun item inside => Bool.eq_false_iff.mp (absent item inside)
      have loose : (items.any fun item => equal value item) = true :=
        List.any_eq_true.mpr ⟨item, inside, close.equal⟩
      rw [strict, loose]
      exact Bool.false_ne_true

/-- Asking a list whether it contains a value, by the operator or by the function, and asking
whether the value is in the list both have an answer. The one is whether an item is strictly equal
to the value, the other whether the value is equal to an item up to rounding. The answers differ in
two cases only: the value is infinite and an item, or no item is the value but some item is a number
near it. -/
theorem contains_eq_member_iff [Regex.Matcher] [Value.Enumeration] {context : Context}
    {list element : Expr} {items : List Value} {value : Value}
    (formed : context.record.WellFormed)
    (listed : eval context list = .ok (.list items)) (valued : eval context element = .ok value) :
    ∃ strict loose,
      eval context (.binary .contains list element) = .ok (.bool strict) ∧
      eval context (.call "contains" [list, element]) = .ok (.bool strict) ∧
      eval context (.binary .member element list) = .ok (.bool loose) ∧
      (strict = true ↔ ∃ item ∈ items, item.same value = true) ∧
      (loose = true ↔ ∃ item ∈ items, equal value item = true) ∧
      (strict ≠ loose ↔
        (value.Infinite ∧ ∃ item ∈ items, item.same value = true) ∨
        (∀ item ∈ items, item.same value = false) ∧ ∃ item ∈ items, Close value item) := by
  have formedItems := (forms_eval formed list _ listed).items
  have formedValue := forms_eval formed element _ valued
  refine ⟨items.any fun item => item.same value, items.any fun item => equal value item, ?_, ?_, ?_,
    List.any_eq_true, List.any_eq_true, any_same_ne_any_equal_iff formedItems formedValue⟩
  · exact eval_binary_of_values listed valued
  · rw [eval, evalItems, evalItems, evalItems, listed, valued]
    rfl
  · exact eval_binary_of_values valued listed

/-- A finite double is found by both tests in a list of the record that holds it. -/
theorem contains_eq_member_iff_scores :
    let record := Value.ofJson (.object [("scores", .array [.int 4, .float 2.5])])
    let context : Context := ⟨record, "record"⟩
    let list := Expr.ident "scores"
    let element := Expr.float 2.5
    record.WellFormed ∧ eval context list = .ok (.list [.int 4, .float 2.5]) ∧
      eval context element = .ok (.float 2.5) ∧
      eval context (.binary .contains list element) = .ok (.bool true) ∧
      eval context (.call "contains" [list, element]) = .ok (.bool true) ∧
      eval context (.binary .member element list) = .ok (.bool true) := by
  intro record context list element
  have formed : record.WellFormed := Value.wellFormed_ofJson _
  have listed : eval context list = .ok (.list [.int 4, .float 2.5]) := rfl
  have valued : eval context element = .ok (.float 2.5) := rfl
  obtain ⟨strict, loose, contained, called, inside, held, -, apart⟩ :=
    contains_eq_member_iff formed listed valued
  have there : Value.float 2.5 ∈ [Value.int 4, .float 2.5] := .tail _ (.head _)
  have equal : (Value.float 2.5).same (.float 2.5) = true := by decide +kernel
  obtain rfl : strict = true := held.mpr ⟨_, there, equal⟩
  obtain rfl : true = loose := by
    refine Classical.byContradiction fun differ => ?_
    rcases apart.mp differ with ⟨⟨x, found, infinite⟩, -⟩ | ⟨absent, -⟩
    · cases found
      exact absurd infinite (by decide +kernel)
    · exact Bool.false_ne_true ((absent _ there).symm.trans equal)
  exact ⟨formed, listed, valued, contained, called, inside⟩

/-- The two tests differ for a double and a list of the integer that is the same number. -/
theorem contains_ne_member_four :
    let context : Context := ⟨.map [], "record"⟩
    let list := Expr.list [.int 4]
    let element := Expr.float 4.0
    eval context (.binary .contains list element) = .ok (.bool false) ∧
      eval context (.call "contains" [list, element]) = .ok (.bool false) ∧
      eval context (.binary .member element list) = .ok (.bool true) := by
  intro context list element
  refine ⟨rfl, rfl, ?_⟩
  have near : Number.near 4.0 (Number.ofInt64 4) = true := by decide +kernel
  change Except.ok (Value.bool (Number.near 4.0 (Number.ofInt64 4) || false)) = _
  rw [near]
  rfl

end Eval

end DecisionFlow
