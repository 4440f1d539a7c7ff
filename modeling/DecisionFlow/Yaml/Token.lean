/-!
# YAML tokens

The words and marks of a YAML text. Indentation shows as tokens too: a block collection starts
where its first entry is indented further than what is around it and ends where the indentation
goes back.
-/
namespace DecisionFlow.Yaml

/-- A tag as it is written: a handle, which stands for the beginning of the tag and is empty for
a tag written in full, and the octets that follow. -/
structure WrittenTag where
  /-- The handle. -/
  handle : List Char
  /-- The octets that follow. -/
  suffix : List UInt8
deriving DecidableEq, Repr

/-- A token. -/
inductive Token where
  /-- The version of the language for the document that follows. -/
  | version (major minor : Nat)
  /-- What a tag handle stands for in the document that follows. -/
  | handle (name : List Char) (meaning : List UInt8)
  /-- The start of a document. -/
  | documentStart
  /-- The end of a document. -/
  | documentEnd
  /-- The start of a block sequence. -/
  | blockSequence
  /-- The start of a block mapping. -/
  | blockMapping
  /-- The end of a block collection. -/
  | blockEnd
  /-- An opening bracket. -/
  | openSequence
  /-- A closing bracket. -/
  | closeSequence
  /-- An opening brace. -/
  | openMapping
  /-- A closing brace. -/
  | closeMapping
  /-- A hyphen before an entry of a block sequence. -/
  | item
  /-- A comma. -/
  | comma
  /-- The start of a key. -/
  | key
  /-- The start of a value. -/
  | value
  /-- A name for the node that follows. -/
  | anchor (name : List Char)
  /-- A node named before. -/
  | alias (name : List Char)
  /-- The tag of the node that follows. -/
  | tag (written : WrittenTag)
  /-- A scalar: whether it is plain, that is without quotes and not a block, and its text. -/
  | scalar (plain : Bool) (text : List Char)
deriving DecidableEq, Repr

end DecisionFlow.Yaml
