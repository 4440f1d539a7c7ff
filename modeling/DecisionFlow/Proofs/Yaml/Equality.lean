import DecisionFlow.Yaml.Tree

/-!
# Equality of YAML trees

Whether two trees are one can be computed, so that what a text is read as can be, too. As keys two
trees may be the same (`Tree.same`) without being one: there tags are compared without their
exclamation mark and the entries of a mapping in any order.
-/
namespace DecisionFlow.Yaml.Tree

mutual

/-- Whether two trees are one. -/
def agrees : Tree → Tree → Bool
  | .null, .null => true
  | .bool a, .bool b => decide (a = b)
  | .int a, .int b => decide (a = b)
  | .float a, .float b => decide (a = b)
  | .string a, .string b => decide (a = b)
  | .sequence items, .sequence others => itemsAgree items others
  | .mapping entries, .mapping others => entriesAgree entries others
  | .tagged tag content, .tagged other otherContent =>
    decide (tag = other) && agrees content otherContent
  | _, _ => false

/-- Whether two sequences are one. -/
def itemsAgree : List Tree → List Tree → Bool
  | [], [] => true
  | item :: rest, other :: others => agrees item other && itemsAgree rest others
  | _, _ => false

/-- Whether two mappings have the same entries in the same order. -/
def entriesAgree : List (Tree × Tree) → List (Tree × Tree) → Bool
  | [], [] => true
  | (key, value) :: rest, (otherKey, other) :: others =>
    agrees key otherKey && agrees value other && entriesAgree rest others
  | _, _ => false

end

mutual

/-- Trees that agree are one. -/
theorem agrees_iff (tree other : Tree) : tree.agrees other = true ↔ tree = other := by
  cases tree with
  | sequence items => cases other <;> simp [agrees, itemsAgree_iff items]
  | mapping entries => cases other <;> simp [agrees, entriesAgree_iff entries]
  | tagged tag content => cases other <;> simp [agrees, agrees_iff content]
  | null | bool | int | float | string => cases other <;> simp [agrees]

/-- Sequences that agree are one. -/
theorem itemsAgree_iff (items others : List Tree) :
    itemsAgree items others = true ↔ items = others := by
  match items with
  | [] => cases others <;> simp [itemsAgree]
  | item :: rest => cases others <;> simp [itemsAgree, agrees_iff item, itemsAgree_iff rest]

/-- Mappings that agree are one. -/
theorem entriesAgree_iff (entries others : List (Tree × Tree)) :
    entriesAgree entries others = true ↔ entries = others := by
  match entries with
  | [] => cases others <;> simp [entriesAgree]
  | (key, value) :: rest =>
    cases others <;>
      simp [entriesAgree, agrees_iff key, agrees_iff value, entriesAgree_iff rest, Prod.ext_iff]

end

/-- Whether two trees are one is decided by comparing them. -/
instance : DecidableEq Tree := fun tree other => decidable_of_iff _ (agrees_iff tree other)

end DecisionFlow.Yaml.Tree
