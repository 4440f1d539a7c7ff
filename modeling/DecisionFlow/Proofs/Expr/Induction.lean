import DecisionFlow.Expr.Basic

/-!
# Induction on expressions

An expression holds others directly, in lists and under the keys of maps. Induction gives the
hypothesis for every immediate subtree; for the members of a list or map it is given by
membership, so proofs about lists of expressions need no induction of their own. What a function
on lists says of a list is put in terms of the members once for all functions of a shape: those
that treat every member by itself (`eq_map_of_cons`), those that ask the same of every member
(`forall_mem_of_cons`), and those that leave the keys out (`eq_values_of_cons`).
-/
namespace DecisionFlow.Expr

/-- What every constructor passes on from the immediate subtrees holds of all expressions. -/
@[elab_as_elim, induction_eliminator]
theorem induct {motive : Expr → Prop} (null : motive .null) (bool : ∀ value, motive (.bool value))
    (int : ∀ value, motive (.int value)) (float : ∀ value, motive (.float value))
    (string : ∀ value, motive (.string value))
    (list : ∀ items, (∀ item ∈ items, motive item) → motive (.list items))
    (map : ∀ entries : List (String × Expr), (∀ entry ∈ entries, motive entry.2) →
      motive (.map entries))
    (ident : ∀ name, motive (.ident name))
    (field : ∀ base name, motive base → motive (.field base name))
    (index : ∀ base key, motive base → motive key → motive (.index base key))
    (unary : ∀ op operand, motive operand → motive (.unary op operand))
    (binary : ∀ op left right, motive left → motive right → motive (.binary op left right))
    (ternary : ∀ condition yes no, motive condition → motive yes → motive no →
      motive (.ternary condition yes no))
    (call : ∀ name arguments, (∀ argument ∈ arguments, motive argument) →
      motive (.call name arguments))
    (expr : Expr) : motive expr := by
  refine @Expr.rec motive (fun items => ∀ item ∈ items, motive item)
    (fun entries => ∀ entry ∈ entries, motive entry.2) (fun entry => motive entry.2)
    null bool int float string list map ident field index unary binary ternary call
    ?_ ?_ ?_ ?_ ?_ expr
  · exact fun _ inside => absurd inside List.not_mem_nil
  · exact fun _ _ first rest => List.forall_mem_cons.mpr ⟨first, rest⟩
  · exact fun _ inside => absurd inside List.not_mem_nil
  · exact fun _ _ first rest => List.forall_mem_cons.mpr ⟨first, rest⟩
  · exact fun _ _ value => value

/-- A function on lists that treats every member by itself is a map. -/
theorem eq_map_of_cons {α β : Type} {image : α → β} (images : List α → List β)
    (nil : images [] = [])
    (cons : ∀ first rest, images (first :: rest) = image first :: images rest) (list : List α) :
    images list = list.map image := by
  induction list with
  | nil => exact nil
  | cons first rest ih => rw [cons, ih, List.map_cons]

/-- A condition on lists that asks the same of every member is that every member meets it. -/
theorem forall_mem_of_cons {α : Type} {asked : α → Prop} (all : List α → Prop) (nil : all [])
    (cons : ∀ first rest, all (first :: rest) ↔ asked first ∧ all rest) (list : List α) :
    all list ↔ ∀ item ∈ list, asked item := by
  induction list with
  | nil => exact iff_of_true nil (List.forall_mem_nil asked)
  | cons first rest ih => rw [cons, ih, List.forall_mem_cons]

/-- What is computed under some keys, whatever the keys, is what is computed of the members. -/
theorem eq_values_of_cons {κ α β : Type} {step : α → β → β} (keyed : List (κ × α) → β)
    (plain : List α → β) (nil : keyed [] = plain [])
    (first : ∀ entry rest, keyed (entry :: rest) = step entry.2 (keyed rest))
    (second : ∀ item rest, plain (item :: rest) = step item (plain rest)) (list : List (κ × α)) :
    keyed list = plain (list.map (·.2)) := by
  induction list with
  | nil => exact nil
  | cons entry rest ih => rw [first, ih, List.map_cons, second]

end DecisionFlow.Expr
