import DecisionFlow.Eval.Basic
import DecisionFlow.Proofs.Outcome
import DecisionFlow.Proofs.Value.Reordered

/-!
# Operators and functions do not depend on the order of entries

Two functions show a whole value as a text: `to_string` and `format`. Everything else that can be
done to values either looks into neither list nor map (`Blind`), compares values, counts, or takes a
part. On reordered operands and arguments it has the same failure, or reordered results, and it does
not ask how maps are enumerated (`applyBinary_reordered`, `call_reordered`).
-/
namespace DecisionFlow

/-- Equal results are reordered ones. -/
theorem SameOutcome.reordered {result other : Except EvalError Value} (equal : result = other) :
    SameOutcome Value.Reordered result other := by
  subst equal
  cases result with
  | error cause => exact .error cause
  | ok value => exact .ok (.refl value)

namespace Value

/-- A value with what its lists and maps hold left out. -/
def bare : Value → Value
  | .list _ => .list []
  | .map _ => .map []
  | value => value

namespace Reordered

variable {first second : Value}

/-- Reordered values differ only in what lists and maps hold. -/
theorem bare_eq (reordered : Reordered first second) : first.bare = second.bare := by
  cases reordered <;> rfl

/-- Reordered values have the same truth. -/
theorem truthy_eq (reordered : Reordered first second) : first.truthy = second.truthy := by
  cases reordered <;> rfl

/-- Two reordered values at a key, or none. -/
theorem get? (reordered : Reordered first second) (key : String) :
    Option.Rel Reordered (first.get? key) (second.get? key) := by
  cases reordered with
  | refl =>
    cases first.get? key with
    | none => exact .none
    | some value => exact .some (.refl value)
  | list => exact .none
  | map distinct order each => exact (Reordered.map distinct order each).lookup key

/-- A field of reordered values is reordered, or is missing in the same way. -/
theorem field (reordered : Reordered first second) (name : String) :
    SameOutcome Reordered (first.field name) (second.field name) := by
  cases reordered with
  | refl => exact .reordered rfl
  | list => exact .error _
  | map distinct order each => exact .ok ((Reordered.map distinct order each).lookup_getD name)

/-- An item at an index of reordered values is reordered, or is missing in the same way. -/
theorem index {key other : Value} (reordered : Reordered first second)
    (keys : Reordered key other) :
    SameOutcome Reordered (first.index key) (second.index other) := by
  have sameKey : first.index key = first.index other := by
    cases keys with
    | refl => rfl
    | list => cases first <;> rfl
    | map => cases first <;> rfl
  rw [sameKey]
  cases reordered with
  | refl => exact .reordered rfl
  | @list items others length each =>
    cases other with
    | int index =>
      unfold Value.index
      dsimp only
      rw [length]
      split
      · exact .ok (.refl _)
      · exact .ok (item (Reordered.list length each).items _)
    | _ => exact .error _
  | map distinct order each =>
    cases other with
    | string name => exact .ok ((Reordered.map distinct order each).lookup_getD name)
    | _ => exact .error _

end Reordered

end Value

namespace Eval

/-- Functions of two values that look into neither list nor map. -/
def Blind (image : Value → Value → Except EvalError Value) : Prop :=
  ∀ left right, image left.bare right.bare = image left right

variable {first second third fourth : Value}

/-- A function that looks into neither list nor map has the same result on reordered values. -/
theorem Blind.eq {image : Value → Value → Except EvalError Value} (blind : Blind image)
    (left : first.Reordered second) (right : third.Reordered fourth) :
    image first third = image second fourth := by
  rw [← blind first third, ← blind second fourth, left.bare_eq, right.bare_eq]

/-- A function of one value that looks into neither list nor map has the same result on reordered
values. -/
theorem eq_of_bare {image : Value → Except EvalError Value}
    (blind : ∀ value : Value, image value.bare = image value) (reordered : first.Reordered second) :
    image first = image second := by
  rw [← blind first, ← blind second, reordered.bare_eq]

/-- The sum looks into neither list nor map. -/
theorem blind_add : Blind add := by
  intro left right
  cases left <;> cases right <;> rfl

/-- The difference looks into neither list nor map. -/
theorem blind_subtract : Blind subtract := by
  intro left right
  cases left <;> cases right <;> rfl

/-- The product looks into neither list nor map. -/
theorem blind_multiply : Blind multiply := by
  intro left right
  cases left <;> cases right <;> rfl

/-- The quotient looks into neither list nor map. -/
theorem blind_divide : Blind divide := by
  intro left right
  cases left <;> cases right <;> rfl

/-- The remainder looks into neither list nor map. -/
theorem blind_modulo : Blind modulo := by
  intro left right
  cases left <;> cases right <;> rfl

/-- Order looks into neither list nor map. -/
theorem blind_compare (order : Order) : Blind (compare order) := by
  intro left right
  cases left <;> cases right <;> rfl

/-- A test of two texts looks into neither list nor map. -/
theorem blind_onTexts (name : String) (test : String → String → Bool) :
    Blind (onTexts name test) := by
  intro left right
  cases left <;> cases right <;> rfl

/-- A choice between two numbers looks into neither list nor map. -/
theorem blind_choose (name : String) (ints : Int64 → Int64 → Int64)
    (floats : Float → Float → Float) : Blind (choose name ints floats) := by
  intro left right
  cases left <;> cases right <;> rfl

/-- Two reordered values are numbers together. -/
theorem numbers?_eq (left : first.Reordered second) (right : third.Reordered fourth) :
    numbers? first third = numbers? second fourth := by
  cases left with
  | refl =>
    cases right with
    | refl => rfl
    | list | map => cases first <;> rfl
  | list | map => cases right <;> rfl

/-- Equality does not depend on the order of entries. -/
theorem equal_eq (left : first.Reordered second) (right : third.Reordered fourth) :
    equal first third = equal second fourth := by
  rw [equal, equal, numbers?_eq left right, Value.same_eq left right]

/-- A property of items that does not depend on the order of entries is had by an item of both or of
neither of two lists of reordered items. -/
theorem any_eq {items others : List Value} {test other : Value → Bool}
    (reordered : List.Forall₂ Value.Reordered items others)
    (same : ∀ first second : Value, first.Reordered second → test first = other second) :
    items.any test = others.any other := by
  induction reordered with
  | nil => rfl
  | cons first _ ih => rw [List.any_cons, List.any_cons, same _ _ first, ih]

/-- Membership does not depend on the order of entries. -/
theorem member_eq (left : first.Reordered second) (right : third.Reordered fourth) :
    member first third = member second fourth := by
  cases right with
  | refl =>
    cases third with
    | list items =>
      rw [member, member, any_eq (List.forall₂_same.mpr fun value _ => .refl value)
        fun _ _ item => equal_eq left item]
    | map | string => cases left <;> rfl
    | _ => rfl
  | list length each =>
    rw [member, member, any_eq (Value.Reordered.list length each).items
      fun _ _ item => equal_eq left item]
  | map _ order _ =>
    cases left with
    | refl =>
      cases first with
      | string key => rw [member, member, Value.Reordered.isSome_lookup order key]
      | _ => rfl
    | list | map => rfl

/-- What a collection contains does not depend on the order of entries. -/
theorem contains_eq (left : first.Reordered second) (right : third.Reordered fourth) :
    contains first third = contains second fourth := by
  cases left with
  | refl =>
    cases first with
    | list items =>
      rw [contains, contains, any_eq (List.forall₂_same.mpr fun value _ => .refl value)
        fun _ _ item => Value.same_eq item right]
    | _ => cases right <;> rfl
  | list length each =>
    rw [contains, contains, any_eq (Value.Reordered.list length each).items
      fun _ _ item => Value.same_eq item right]
  | map => cases right <;> rfl

/-- The number of items or entries does not depend on their order. -/
theorem length_eq (reordered : first.Reordered second) : length first = length second := by
  cases reordered with
  | refl => rfl
  | list lengths _ => rw [length, length, lengths]
  | map distinct order each =>
    rw [length, length, (Value.Reordered.map distinct order each).length]

/-- One argument of reordered arguments is reordered. -/
theorem one_reordered (name : String) {arguments others : List Value}
    (reordered : List.Forall₂ Value.Reordered arguments others) :
    SameOutcome Value.Reordered (one name arguments) (one name others) := by
  have lengths := reordered.length_eq
  match reordered with
  | .nil => exact .error _
  | .cons first .nil => exact .ok first
  | .cons _ (.cons _ _) =>
    rw [one, one, lengths]
    · exact .error _
    · simp
    · simp

/-- Two arguments of reordered arguments are reordered. -/
theorem two_reordered (name : String) {arguments others : List Value}
    (reordered : List.Forall₂ Value.Reordered arguments others) :
    SameOutcome (fun pair other => pair.1.Reordered other.1 ∧ pair.2.Reordered other.2)
      (two name arguments) (two name others) := by
  have lengths := reordered.length_eq
  match reordered with
  | .nil => exact .error _
  | .cons _ .nil => exact .error _
  | .cons first (.cons second .nil) => exact .ok ⟨first, second⟩
  | .cons _ (.cons _ (.cons _ _)) =>
    rw [two, two, lengths]
    · exact .error _
    · simp
    · simp

section Calls

variable {name : String} {arguments others : List Value}

/-- A function of one argument has reordered results when it does on every argument. -/
theorem call_one (reordered : List.Forall₂ Value.Reordered arguments others)
    {image : Value → Except EvalError Value}
    (same : ∀ first second : Value, first.Reordered second → image first = image second) :
    SameOutcome Value.Reordered (one name arguments >>= image) (one name others >>= image) :=
  (one_reordered name reordered).bind fun _ _ argument => .reordered (same _ _ argument)

/-- A function of two arguments has reordered results when it does on every two arguments. -/
theorem call_two (reordered : List.Forall₂ Value.Reordered arguments others)
    {image : Value → Value → Except EvalError Value}
    (same : ∀ first second third fourth : Value, first.Reordered second → third.Reordered fourth →
      image first third = image second fourth) :
    SameOutcome Value.Reordered (two name arguments >>= fun pair => image pair.1 pair.2)
      (two name others >>= fun pair => image pair.1 pair.2) :=
  (two_reordered name reordered).bind fun _ _ pair =>
    .reordered (same _ _ _ _ pair.1 pair.2)

variable [Regex.Matcher]

/-- The pattern match as a function looks into neither list nor map. -/
theorem blind_matchCall : Blind matchCall := by
  intro left right
  cases left <;> cases right <;> rfl

/-- The pattern match as an operator looks into neither list nor map. -/
theorem blind_matchOperator : Blind matchOperator := by
  intro left right
  cases left <;> cases right <;> rfl

variable {enumeration alternative : Value.Enumeration}

/-- A function that does not show whole values has on reordered arguments the same failure, or
reordered results, however maps are enumerated. -/
theorem call_reordered (shown : name ≠ "to_string") (filled : name ≠ "format")
    (reordered : List.Forall₂ Value.Reordered arguments others) :
    SameOutcome Value.Reordered (@call _ enumeration name arguments)
      (@call _ alternative name others) := by
  unfold call
  split
  · exact call_one reordered fun _ _ => length_eq
  · exact call_one reordered fun _ _ => eq_of_bare fun value => by cases value <;> rfl
  · exact call_one reordered fun _ _ => eq_of_bare fun value => by cases value <;> rfl
  · exact call_two reordered fun _ _ _ _ => contains_eq
  · exact call_two reordered fun _ _ _ _ => (blind_onTexts _ _).eq
  · exact call_two reordered fun _ _ _ _ => (blind_onTexts _ _).eq
  · exact call_two reordered fun _ _ _ _ => blind_matchCall.eq
  · contradiction
  · exact call_one reordered fun _ _ => eq_of_bare fun value => by cases value <;> rfl
  · exact call_two reordered fun _ _ _ _ => (blind_choose _ _ _).eq
  · exact call_two reordered fun _ _ _ _ => (blind_choose _ _ _).eq
  · contradiction
  · exact call_one reordered fun _ _ => eq_of_bare fun value => by cases value <;> rfl
  · exact call_one reordered fun _ _ argument => by rw [argument.truthy_eq]
  · exact .error _

/-- An operator on reordered operands has the same result. -/
theorem applyBinary_reordered (op : BinaryOp) {first second third fourth : Value}
    (left : first.Reordered second) (right : third.Reordered fourth) :
    SameOutcome Value.Reordered (@applyBinary _ enumeration op first third)
      (@applyBinary _ alternative op second fourth) := by
  have operands : List.Forall₂ Value.Reordered [first, third] [second, fourth] :=
    .cons left (.cons right .nil)
  unfold applyBinary
  cases op with
  | add => exact .reordered (blind_add.eq left right)
  | sub => exact .reordered (blind_subtract.eq left right)
  | mul => exact .reordered (blind_multiply.eq left right)
  | div => exact .reordered (blind_divide.eq left right)
  | mod => exact .reordered (blind_modulo.eq left right)
  | eq | ne =>
    dsimp only
    rw [equal_eq left right]
    exact .reordered rfl
  | lt | le | gt | ge => exact .reordered ((blind_compare _).eq left right)
  | and | or =>
    dsimp only
    rw [left.truthy_eq, right.truthy_eq]
    exact .reordered rfl
  | contains | startsWith | endsWith => exact call_reordered (by decide) (by decide) operands
  | matchesPattern => exact .reordered (blind_matchOperator.eq left right)
  | member => exact .reordered (member_eq left right)

end Calls

end Eval

end DecisionFlow
