import DecisionFlow.Assoc
import DecisionFlow.Yaml.Token

/-!
# YAML nodes

The tokens of a text make a tree of nodes. A node may be named by an anchor and referred to by
aliases after it. Anchors are numbered by the count of distinct names before them, so a name that
is given twice may share its number with the name that comes next; a number means the last node
that bears it.
-/
namespace DecisionFlow.Yaml

/-- The number and the tag of a node. -/
structure Mark where
  /-- The number of the anchor. -/
  anchor : Option Nat
  /-- The tag. -/
  tag : Option (List UInt8)
deriving DecidableEq, Repr

/-- A node. -/
inductive Node where
  /-- The node that bears a number. -/
  | alias (anchor : Nat)
  /-- A scalar: whether it is plain, and its text. -/
  | scalar (mark : Mark) (plain : Bool) (text : List Char)
  /-- A sequence. -/
  | sequence (mark : Mark) (items : List Node)
  /-- A mapping. -/
  | mapping (mark : Mark) (entries : List (Node × Node))
deriving Inhabited

namespace Node

/-- The node where there is nothing: an empty plain scalar. -/
def empty : Node := .scalar ⟨none, none⟩ true []

mutual

/-- How many nodes and ends of collections are in a node. -/
def weight : Node → Nat
  | .alias _ => 1
  | .scalar _ _ _ => 1
  | .sequence _ items => 2 + itemsWeight items
  | .mapping _ entries => 2 + entriesWeight entries

/-- The weight of the items of a sequence. -/
def itemsWeight : List Node → Nat
  | [] => 0
  | item :: rest => weight item + itemsWeight rest

/-- The weight of the entries of a mapping. -/
def entriesWeight : List (Node × Node) → Nat
  | [] => 0
  | (key, value) :: rest => weight key + weight value + entriesWeight rest

end

/-- A node under its number, if it has one. -/
def numbered (mark : Mark) (node : Node) : List (Nat × Node) :=
  match mark.anchor with
  | some number => [(number, node)]
  | none => []

mutual

/-- The numbered nodes in a node, in the order in which they start. -/
def anchored : Node → List (Nat × Node)
  | .alias _ => []
  | .scalar mark plain text => numbered mark (.scalar mark plain text)
  | .sequence mark items => numbered mark (.sequence mark items) ++ itemsAnchored items
  | .mapping mark entries => numbered mark (.mapping mark entries) ++ entriesAnchored entries

/-- The numbered nodes in the items of a sequence. -/
def itemsAnchored : List Node → List (Nat × Node)
  | [] => []
  | item :: rest => anchored item ++ itemsAnchored rest

/-- The numbered nodes in the entries of a mapping. -/
def entriesAnchored : List (Node × Node) → List (Nat × Node)
  | [] => []
  | (key, value) :: rest => anchored key ++ anchored value ++ entriesAnchored rest

end

/-- The state of building nodes: the tokens that remain, the numbers of the anchors so far, and
what the tag handles stand for. -/
structure Builder where
  /-- The tokens that remain. -/
  tokens : List Token
  /-- The numbers of the anchors. -/
  anchors : List (List Char × Nat) := []
  /-- What the tag handles stand for. -/
  handles : List (List Char × List UInt8)

/-- A computation that builds nodes and may fail. -/
abbrev Build := StateT Builder Option

namespace Build

/-- The token that comes next. -/
def peek : Build (Option Token) := do return (← get).tokens.head?

/-- Move over a token. -/
def skip : Build Unit := modify fun builder => { builder with tokens := builder.tokens.drop 1 }

/-- Move over a token when it comes next. -/
def accept (token : Token) : Build Bool := do
  if (← peek) == some token then
    skip
    return true
  else return false

/-- Whether one of some tokens comes next. -/
def sees (tokens : List Token) : Build Bool := do return (← peek).any tokens.contains

/-- Number an anchor. -/
def number (name : List Char) : Build Nat := do
  let builder ← get
  let count := builder.anchors.length
  set { builder with anchors := Assoc.insert name count builder.anchors }
  return count

/-- The octets of a tag. -/
def resolveTag (written : WrittenTag) : Build (List UInt8) := do
  if written.handle.isEmpty then return written.suffix
  else return (← (← get).handles.lookup written.handle) ++ written.suffix

/-- Take the anchor of a node. -/
def takeAnchor : Build (Option (List Char)) := do
  match ← peek with
  | some (.anchor name) =>
    skip
    return some name
  | _ => return none

/-- Take the tag of a node. -/
def takeTag : Build (Option WrittenTag) := do
  match ← peek with
  | some (.tag written) =>
    skip
    return some written
  | _ => return none

/-- Take the anchor and the tag of a node, in either order. -/
def takeMark : Build Mark := do
  let (name, written) ← match ← takeAnchor with
    | some name => pure (some name, ← takeTag)
    | none =>
      let written ← takeTag
      let name ← if written.isSome then takeAnchor else pure none
      pure (name, written)
  let tag ← written.mapM resolveTag
  return ⟨← name.mapM number, tag⟩

/-- The tag that a scalar keeps: the exclamation mark alone says nothing. -/
def scalarTag (tag : Option (List UInt8)) : Option (List UInt8) :=
  if tag == some ['!'.toUInt8] then none else tag

mutual

/-- Build a node. Blocks count only outside brackets, and a sequence without indentation of its
own only as a key or value of a block mapping. -/
def node (block flush : Bool) : Nat → Build Node
  | 0 => failure
  | steps + 1 => do
    match ← peek with
    | some (.alias name) =>
      skip
      let number ← (← get).anchors.lookup name
      return .alias number
    | _ =>
      let mark ← takeMark
      match ← peek with
      | some .item =>
        if flush then return .sequence mark (← flushItems steps)
        else if mark.anchor.isSome || mark.tag.isSome then return .scalar mark true []
        else failure
      | some (.scalar plain text) =>
        skip
        return .scalar { mark with tag := scalarTag mark.tag } plain text
      | some .openSequence =>
        skip
        return .sequence mark (← flowItems true steps)
      | some .openMapping =>
        skip
        return .mapping mark (← flowEntries true steps)
      | following =>
        if block && following == some .blockSequence then
          skip
          return .sequence mark (← blockItems steps)
        else if block && following == some .blockMapping then
          skip
          return .mapping mark (← blockEntries steps)
        else if mark.anchor.isSome || mark.tag.isSome then return .scalar mark true []
        else failure

/-- Build a node, or the empty one when one of some tokens comes next. -/
def nodeUnless (block flush : Bool) (stops : List Token) : Nat → Build Node
  | 0 => failure
  | steps + 1 => do
    if ← sees stops then return empty else node block flush steps

/-- Build the items of a block sequence, up to its end. -/
def blockItems : Nat → Build (List Node)
  | 0 => failure
  | steps + 1 => do
    if ← accept .item then
      let item ← nodeUnless true false [.item, .blockEnd] steps
      return item :: (← blockItems steps)
    else
      guard (← accept .blockEnd)
      return []

/-- Build the items of a sequence without indentation of its own. -/
def flushItems : Nat → Build (List Node)
  | 0 => failure
  | steps + 1 => do
    if ← accept .item then
      let item ← nodeUnless true false [.item, .key, .value, .blockEnd] steps
      return item :: (← flushItems steps)
    else return []

/-- Build the entries of a block mapping, up to its end. A key may lack its value. -/
def blockEntries : Nat → Build (List (Node × Node))
  | 0 => failure
  | steps + 1 => do
    let stops := [Token.key, .value, .blockEnd]
    if ← accept .key then
      let key ← nodeUnless true true stops steps
      let value ← if ← accept .value then nodeUnless true true stops steps else pure empty
      return (key, value) :: (← blockEntries steps)
    else
      guard (← accept .blockEnd)
      return []

/-- Build the items of a sequence between brackets, up to its end. -/
def flowItems (first : Bool) : Nat → Build (List Node)
  | 0 => failure
  | steps + 1 => do
    if ← accept .closeSequence then return []
    if !first then guard (← accept .comma)
    if ← accept .key then
      let pair ← flowPair steps
      return .mapping ⟨none, none⟩ [pair] :: (← flowItems false steps)
    else if ← accept .closeSequence then return []
    else
      let item ← node false false steps
      return item :: (← flowItems false steps)

/-- Build a mapping of one entry that stands without braces in a sequence between brackets. A
missing key takes the token in its place with it. -/
def flowPair : Nat → Build (Node × Node)
  | 0 => failure
  | steps + 1 => do
    let key ←
      if ← sees [.value, .comma, .closeSequence] then do
        skip
        pure empty
      else node false false steps
    let value ←
      if ← accept .value then nodeUnless false false [.comma, .closeSequence] steps
      else pure empty
    return (key, value)

/-- Build the entries of a mapping between braces, up to its end. -/
def flowEntries (first : Bool) : Nat → Build (List (Node × Node))
  | 0 => failure
  | steps + 1 => do
    if ← accept .closeMapping then return []
    if !first then guard (← accept .comma)
    if ← accept .key then
      let key ← nodeUnless false false [.value, .comma, .closeMapping] steps
      let value ←
        if ← accept .value then nodeUnless false false [.comma, .closeMapping] steps
        else pure empty
      return (key, value) :: (← flowEntries false steps)
    else if ← accept .closeMapping then return []
    else
      let key ← node false false steps
      return (key, empty) :: (← flowEntries false steps)

end

/-- Take the directives before a document: at most one version, which has to be 1.1 or 1.2, and
each handle once. -/
def takeDirectives : Nat → Bool → List (List Char) → Build Bool
  | 0, _, _ => failure
  | steps + 1, versioned, defined => do
    match ← peek with
    | some (.version major minor) =>
      guard (!versioned && major == 1 && (minor == 1 || minor == 2))
      skip
      takeDirectives steps true defined
    | some (.handle name meaning) =>
      guard (!defined.contains name)
      skip
      modify fun builder => { builder with handles := Assoc.insert name meaning builder.handles }
      takeDirectives steps versioned (name :: defined)
    | _ => return versioned || !defined.isEmpty

/-- Move over the ends of documents. -/
def skipEnds : Build Unit :=
  modify fun builder => { builder with tokens := builder.tokens.dropWhile (· == .documentEnd) }

/-- Build the only document of a stream; a stream without tokens has none. -/
def document : Build (Option Node) := do
  let count := (← get).tokens.length
  let budget := 4 * count + 8
  if count == 0 then return none
  let directed ← takeDirectives (count + 1) false []
  let node ←
    if ← accept .documentStart then do
      match ← peek with
      | none | some .documentStart | some .documentEnd | some (.version _ _)
      | some (.handle _ _) => pure empty
      | _ => node true false budget
    else do
      guard !directed
      node true false budget
  skipEnds
  guard (← get).tokens.isEmpty
  return some node

end Build

/-- What tag handles stand for unless a directive says otherwise. -/
def usualHandles : List (List Char × List UInt8) :=
  [(['!'], ['!'.toUInt8]), (['!', '!'], "tag:yaml.org,2002:".toUTF8.toList)]

/-- The node of the only document in some tokens, if there is any document. -/
def ofTokens? (tokens : List Token) : Option (Option Node) := do
  let (node, _) ← Build.document.run { tokens, handles := usualHandles }
  return node

end Node

end DecisionFlow.Yaml
