import DecisionFlow.Proofs.Eval.Truth
import DecisionFlow.Proofs.Expr.Induction
import DecisionFlow.Proofs.Expr.Subtrees

/-!
# What an expression reads

An expression names fields of the record in two ways: by a name of its own, and as a field of the
parameter. Where the parameter stands for nothing but its fields, no other field is read: on two
records that agree on the fields that an expression mentions it has the same value, or the same
failure (`eval_eq_of_agreeOn`). A field that is absent has to be absent on both.
-/
namespace DecisionFlow

namespace Expr

/-- A field of the record that an expression mentions: by its own name, or as a field of the
parameter. -/
def Mentions (param : String) (expr : Expr) (name : String) : Prop :=
  name ≠ param ∧ (ident name).Within expr ∨ (field (ident param) name).Within expr

/-- Expressions in which the parameter is never the record as a whole: wherever its name occurs, a
field of it is taken. -/
structure TakesFields (param : String) (expr : Expr) : Prop where
  /-- The expression is not the parameter. -/
  root : expr ≠ ident param
  /-- A node above the parameter takes a field. -/
  above : ∀ node : Expr, node.Within expr → ident param ∈ node.children →
    ∃ name, node = field (ident param) name

/-- Records that agree on everything that an expression mentions, which takes nothing but fields of
the parameter. -/
structure AgreeOn (param : String) (entries others : List (String × Value)) (expr : Expr) :
    Prop where
  /-- The parameter stands for its fields only. -/
  takes : expr.TakesFields param
  /-- A field that is mentioned has the same value on both, or is absent on both. -/
  same : ∀ name, expr.Mentions param name → entries.lookup name = others.lookup name

/-- Records that agree on an expression agree on its immediate subtrees, unless it is a field of the
parameter itself. -/
theorem AgreeOn.of_parent {param : String} {entries others : List (String × Value)}
    {expr child : Expr} (agree : AgreeOn param entries others expr)
    (member : child ∈ expr.children) (other : ∀ name, expr ≠ field (ident param) name) :
    AgreeOn param entries others child where
  takes := by
    refine ⟨fun parameter => ?_, fun node inside => agree.takes.above node (.deeper member inside)⟩
    obtain ⟨name, here⟩ := agree.takes.above expr (.refl expr) (parameter ▸ member)
    exact other name here
  same name mentions := by
    refine agree.same name ?_
    rcases mentions with ⟨apart, inside⟩ | inside
    · exact .inl ⟨apart, .deeper member inside⟩
    · exact .inr (.deeper member inside)

end Expr

namespace Eval

variable [Regex.Matcher] [Value.Enumeration] {context other : Context}

/-- Items of the same values in two contexts have the same lists of values. -/
theorem evalItems_congr {items : List Expr}
    (same : ∀ item ∈ items, eval context item = eval other item) :
    evalItems context items = evalItems other items := by
  have values : evalItems context (items.map id) = evalItems other items := evalItems_map same
  rwa [List.map_id] at values

/-- Expressions under keys of the same values in two contexts have the same values. -/
theorem evalEntries_congr {entries : List (String × Expr)}
    (same : ∀ entry ∈ entries, eval context entry.2 = eval other entry.2) :
    evalEntries context entries = evalEntries other entries := by
  have values : evalEntries context (entries.map fun entry => (entry.1, id entry.2)) =
      evalEntries other entries := evalEntries_map same
  have unchanged : (entries.map fun entry => (entry.1, id entry.2)) = entries := List.map_id entries
  rwa [unchanged] at values

/-- Records that agree on what an expression mentions give it the same value or the same
failure. -/
theorem eval_eq_of_agreeOn {param : String} {entries others : List (String × Value)} {expr : Expr}
    (agree : expr.AgreeOn param entries others) :
    eval ⟨.map entries, param⟩ expr = eval ⟨.map others, param⟩ expr := by
  induction expr with
  | null => rfl
  | bool => rfl
  | int => rfl
  | float => rfl
  | string => rfl
  | ident name =>
    have apart : name ≠ param := fun parameter => agree.takes.root (congrArg Expr.ident parameter)
    have found := agree.same name (.inl ⟨apart, .refl _⟩)
    simp only [eval, Context.resolve, beq_iff_eq, apart, if_false, Value.get?, found]
  | field base name ih =>
    -- Below the parameter there is no agreement on the whole record, only on the field.
    by_cases parameter : base = .ident param
    · subst parameter
      have found := agree.same name (.inr (.refl _))
      simp only [eval, Context.resolve, beq_self_eq_true, if_true, bind, Except.bind, Value.field,
        found]
    · have other : ∀ field, Expr.field base name ≠ .field (.ident param) field :=
        fun _ same => parameter (Expr.field.inj same).1
      rw [eval, eval, ih (agree.of_parent (.head _) other)]
  | index base key base_ih key_ih =>
    rw [eval, eval, base_ih (agree.of_parent (.head _) nofun),
      key_ih (agree.of_parent (.tail _ (.head _)) nofun)]
  | unary op operand ih => rw [eval, eval, ih (agree.of_parent (.head _) nofun)]
  | binary op left right left_ih right_ih =>
    have lefts := left_ih (agree.of_parent (.head _) nofun)
    have rights := right_ih (agree.of_parent (.tail _ (.head _)) nofun)
    cases op <;> simp only [eval, lefts, rights]
  | ternary condition yes no condition_ih yes_ih no_ih =>
    rw [eval, eval, condition_ih (agree.of_parent (.head _) nofun),
      yes_ih (agree.of_parent (.tail _ (.head _)) nofun),
      no_ih (agree.of_parent (.tail _ (.tail _ (.head _))) nofun)]
  | list items ih =>
    rw [eval, eval, evalItems_congr fun item member =>
      ih item member (agree.of_parent member nofun)]
  | map members ih =>
    rw [eval, eval, evalEntries_congr fun entry member =>
      ih entry member (agree.of_parent (List.mem_map_of_mem member) nofun)]
  | call name arguments ih =>
    rw [eval, eval, evalItems_congr fun argument member =>
      ih argument member (agree.of_parent member nofun)]

end Eval

end DecisionFlow
