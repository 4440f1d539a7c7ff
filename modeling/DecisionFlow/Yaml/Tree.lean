/-!
# YAML trees

What a YAML document says once aliases are followed and plain scalars are read: a tree of nulls,
truth values, numbers, texts, sequences and mappings, any of which may bear a tag of its own.
-/
namespace DecisionFlow.Yaml

/-- A tree. -/
inductive Tree where
  /-- Null. -/
  | null
  /-- A truth value. -/
  | bool (value : Bool)
  /-- An integer from `-2 ^ 63` up to `2 ^ 64 - 1`. -/
  | int (value : Int)
  /-- A double. -/
  | float (value : Float)
  /-- A text. -/
  | string (value : String)
  /-- A sequence. -/
  | sequence (items : List Tree)
  /-- A mapping: its entries in order. -/
  | mapping (entries : List (Tree × Tree))
  /-- A tree with a tag of its own. -/
  | tagged (tag : String) (content : Tree)
deriving Inhabited

namespace Tree

/-- The tag without an exclamation mark before it. -/
def bareTag (tag : String) : String :=
  match tag.toList with
  | '!' :: c :: rest => String.ofList (c :: rest)
  | _ => tag

mutual

/-- Whether two trees are the same key. Numbers that are none are the same, and the order of the
entries of a mapping does not matter. -/
def same : Tree → Tree → Bool
  | .null, .null => true
  | .bool a, .bool b => a == b
  | .int a, .int b => a == b
  | .float a, .float b => a == b || (a.isNaN && b.isNaN)
  | .string a, .string b => a == b
  | .sequence items, .sequence others => sameItems items others
  | .mapping entries, .mapping others =>
    entries.length == others.length && sameEntries entries others
  | .tagged tag content, .tagged other otherContent =>
    bareTag tag == bareTag other && same content otherContent
  | _, _ => false

/-- Whether two sequences agree item by item. -/
def sameItems : List Tree → List Tree → Bool
  | [], [] => true
  | item :: rest, other :: others => same item other && sameItems rest others
  | _, _ => false

/-- Whether a mapping has every entry of some entries. -/
def sameEntries : List (Tree × Tree) → List (Tree × Tree) → Bool
  | [], _ => true
  | (key, value) :: rest, others =>
    (others.attach.any fun ⟨(otherKey, other), _⟩ => same key otherKey && same value other) &&
      sameEntries rest others

end

/-- A tree without the tags at its root. -/
def untagged : Tree → Tree
  | .tagged _ content => untagged content
  | tree => tree

end Tree

end DecisionFlow.Yaml
