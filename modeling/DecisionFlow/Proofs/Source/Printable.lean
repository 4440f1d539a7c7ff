import DecisionFlow.Expr.Printer
import DecisionFlow.Source.Grammar

/-!
# Printable expressions

Not every tree can be written so that its text reads back as the tree: a text escapes nothing but
its quotes, a negative integer is written like a negation, a name may be a word of the grammar, and
an access binds tighter than a prefix operator. `Printable` collects the trees where none of this
happens.
-/
namespace DecisionFlow

open Source

/-- Whether a text is a name as a whole. -/
def Source.isName (name : List Char) : Bool :=
  match name with
  | [] => false
  | c :: rest => isNameStart c && rest.all isNameChar

/-- The names that are read as something else. -/
def Source.reservedNames : List String := ["null", "undefined", "true", "false", "return"]

/-- The function names that are read as names of other functions. -/
def Source.convertedNames : List String := ["size", "int", "string", "bool"]

/-- The characters that a backslash in a text literal changes. -/
def Source.escapable : List Char := ['n', 't', 'r', '\\', '"', '\'']

/-- A text whose backslashes are read as themselves: each has a character after it, and one that no
backslash changes. -/
def Source.KeepsBackslashes (text : List Char) : Prop :=
  ∀ before after, text = before ++ '\\' :: after → after.head?.any (· ∉ escapable)

/-- A text keeps its backslashes when the first character does and the others do. -/
theorem Source.keepsBackslashes_cons {c : Char} {text : List Char} :
    KeepsBackslashes (c :: text) ↔
      (c = '\\' → text.head?.any (· ∉ escapable)) ∧ KeepsBackslashes text := by
  constructor
  · intro keeps
    constructor
    · rintro rfl
      exact keeps [] text rfl
    · rintro before after rfl
      exact keeps (c :: before) after rfl
  · rintro ⟨first, others⟩ before after split
    cases before with
    | nil =>
      cases split
      exact first rfl
    | cons d before =>
      cases split
      exact others before after rfl

/-- Whether a text keeps its backslashes can be decided. -/
instance Source.decidableKeepsBackslashes : (text : List Char) → Decidable (KeepsBackslashes text)
  | [] => isTrue (by
      intro before after split
      cases before <;> contradiction)
  | c :: text =>
    have := decidableKeepsBackslashes text
    decidable_of_iff _ keepsBackslashes_cons.symm

/-- The operators that are written as methods. -/
def Source.methodOperators : List BinaryOp := [.contains, .startsWith, .endsWith, .matchesPattern]

namespace Expr

/-- Whether an expression is a prefix operator with its operand. -/
def isUnary : Expr → Bool
  | .unary _ _ => true
  | _ => false

/-- The expressions whose text reads back as themselves. -/
inductive Printable : Expr → Prop where
  /-- The null literal. -/
  | null : Printable .null
  /-- A truth value. -/
  | bool (value : Bool) : Printable (.bool value)
  /-- An integer that is not negative. -/
  | int {value : Int64} (nonnegative : 0 ≤ value) : Printable (.int value)
  /-- A text that keeps its backslashes. -/
  | string {value : String} (keeps : KeepsBackslashes value.toList) : Printable (.string value)
  /-- A list. -/
  | list {items : List Expr} (each : ∀ item ∈ items, Printable item) : Printable (.list items)
  /-- A map whose keys keep their backslashes. -/
  | map {entries : List (String × Expr)}
    (keeps : ∀ entry ∈ entries, KeepsBackslashes entry.1.toList)
    (each : ∀ entry ∈ entries, Printable entry.2) : Printable (.map entries)
  /-- A name that is not reserved. -/
  | ident {name : String} (named : isName name.toList = true) (free : name ∉ reservedNames) :
    Printable (.ident name)
  /-- A field of anything but a prefix operator. -/
  | field {base : Expr} {name : String} (binds : base.isUnary = false)
    (named : isName name.toList = true) (printable : Printable base) : Printable (.field base name)
  /-- Anything but a prefix operator at an index. -/
  | index {base key : Expr} (binds : base.isUnary = false) (printable : Printable base)
    (inner : Printable key) : Printable (.index base key)
  /-- A prefix operator. -/
  | unary (op : UnaryOp) {operand : Expr} (printable : Printable operand) :
    Printable (.unary op operand)
  /-- An operator that is not written as a method. -/
  | binary {op : BinaryOp} {left right : Expr} (spelt : op ∉ methodOperators)
    (first : Printable left) (second : Printable right) : Printable (.binary op left right)
  /-- A conditional. -/
  | ternary {condition yes no : Expr} (first : Printable condition) (second : Printable yes)
    (third : Printable no) : Printable (.ternary condition yes no)
  /-- A call under a name that is neither reserved nor converted. -/
  | call {name : String} {arguments : List Expr} (named : isName name.toList = true)
    (free : name ∉ reservedNames) (kept : name ∉ convertedNames)
    (each : ∀ argument ∈ arguments, Printable argument) : Printable (.call name arguments)

end Expr

end DecisionFlow
