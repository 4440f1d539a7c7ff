import DecisionFlow.Yaml.Lexer
import DecisionFlow.Yaml.Node
import DecisionFlow.Yaml.Plain

/-!
# YAML documents

The tree of a text that holds one document. Aliases are followed, within a limit on how often;
collections are nested within a limit; the keys of a mapping are distinct. A scalar with one of
the usual tags has to be of that kind, and with any other tag that is not local it is a text.
-/
namespace DecisionFlow.Yaml

/-- The deepest nesting of collections. -/
def nestingLimit : Nat := 128

/-- How often aliases are followed, for each part of a document. -/
def aliasLimit : Nat := 100

/-- The octets of a usual tag. -/
def usualTag (name : String) : List UInt8 := ("tag:yaml.org,2002:" ++ name).toUTF8.toList

/-- The name of a local tag: what follows its exclamation mark. -/
def localName? : List UInt8 → Option String
  | first :: rest =>
    if first == '!'.toUInt8 then
      String.fromUTF8? (if rest.isEmpty then [first] else rest).toByteArray
    else none
  | [] => none

/-- The tree of a scalar without a tag that matters. -/
def untaggedScalar? (plain : Bool) (text : String) : Option Tree :=
  if plain then Plain.tree? text else some (.string text)

/-- The tree of a scalar. -/
def scalarTree? (tag : Option (List UInt8)) (plain : Bool) (text : String) : Option Tree :=
  match tag with
  | none => untaggedScalar? plain text
  | some tag =>
    if tag == usualTag "bool" then (Plain.bool? text).map .bool
    else if tag == usualTag "int" then
      match Plain.whole text.toList with
      | .integer value => some (.int value)
      | _ => none
    else if tag == usualTag "float" then (Plain.float? text).map .float
    else if tag == usualTag "null" then if Plain.isNull text then some .null else none
    else match localName? tag with
      | some name => (untaggedScalar? plain text).map (.tagged name)
      | none =>
        if tag.head? == some '!'.toUInt8 then untaggedScalar? plain text
        else some (.string text)

/-- A tree with the tag of its node, if that is local. -/
def withTag (tag : Option (List UInt8)) (tree : Tree) : Tree :=
  match tag.bind localName? with
  | some name => .tagged name tree
  | none => tree

/-- How trees are made of nodes: the numbered nodes, and how often aliases may be followed. -/
structure Expansion where
  /-- The numbered nodes. -/
  numbered : List (Nat × Node)
  /-- How often aliases may still be followed. -/
  budget : Nat

/-- A computation that follows aliases and may fail. -/
abbrev Expand := StateT Expansion Option

namespace Expand

/-- The node that a node stands for: what an alias refers to, or itself. -/
def follow : Node → Expand Node
  | .alias number => do
    let expansion ← get
    guard (expansion.budget != 0)
    set { expansion with budget := expansion.budget - 1 }
    expansion.numbered.lookup number
  | node => return node

/-- The tree of a node with at most the given nesting of collections. -/
def tree (depth : Nat) (node : Node) : Expand Tree := do
  match depth, ← follow node with
  | _, .alias _ => failure
  | _, .scalar mark plain text => scalarTree? mark.tag plain (String.ofList text)
  | 0, _ => failure
  | depth + 1, .sequence mark items =>
    return withTag mark.tag (.sequence (← items.mapM (tree depth)))
  | depth + 1, .mapping mark entries =>
    let entries ← entries.foldlM
      (fun (done : List (Tree × Tree)) (entry : Node × Node) => do
        let key ← tree depth entry.1
        guard !(done.any fun other => other.1.same key)
        return done ++ [(key, ← tree depth entry.2)]) []
    return withTag mark.tag (.mapping entries)

end Expand

/-- The tree of a node. -/
def Node.tree? (node : Node) : Option Tree := do
  let expansion := ⟨node.anchored.reverse, aliasLimit * node.weight⟩
  return (← (Expand.tree nestingLimit node).run expansion).1

/-- The tree of a text that holds one document; a text without a document says null. -/
def Tree.read? (text : String) : Option Tree := do
  match ← Node.ofTokens? (← tokens? text.toList) with
  | some node => node.tree?
  | none => return .null

end DecisionFlow.Yaml
