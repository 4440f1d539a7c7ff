import DecisionFlow.Yaml.Scalar
import DecisionFlow.Yaml.Tag

/-!
# Reading YAML tokens

Tokens are read with an eye on two things. Indentation opens and closes block collections. And a
key of a mapping often shows only by the colon after it; so where a key may start, its place is
remembered, and when the colon comes the tokens that start the key, and the mapping if need be,
are put in at that place. Such a key has to be on one line and no longer than 1024 characters;
one that starts a line of a block mapping has to be followed by its colon.
-/
namespace DecisionFlow.Yaml

/-- A place where a key may have started. -/
structure KeyPlace where
  /-- Whether the colon has to follow. -/
  required : Bool
  /-- How many tokens precede. -/
  tokens : Nat
  /-- Where it starts. -/
  cursor : Cursor

/-- The state of reading tokens. -/
structure Lexer where
  /-- The place in the text. -/
  cursor : Cursor
  /-- The tokens so far. -/
  tokens : Array Token := #[]
  /-- The indentation of the innermost block collection, -1 outside all of them. -/
  indent : Int := -1
  /-- The indentations of the collections around it, from the inside out. -/
  outer : List Int := []
  /-- For each open bracket, from the inside out, and for the blocks around them, the place where
  a key may have started. -/
  places : List (Option KeyPlace) := [none]
  /-- Whether a key may start here. -/
  keyAllowed : Bool := true

namespace Lexer

/-- Whether the place is between brackets. -/
def inFlow (lexer : Lexer) : Bool := lexer.places.length > 1

/-- Add a token at the end. -/
def push (lexer : Lexer) (token : Token) : Lexer :=
  { lexer with tokens := lexer.tokens.push token }

/-- Put a token in where only the given number of tokens precede. -/
def putIn (lexer : Lexer) (count : Nat) (token : Token) : Lexer :=
  { lexer with
    tokens := (lexer.tokens.extract 0 count).push token ++
      lexer.tokens.extract count lexer.tokens.size }

/-- Move the cursor over some characters. -/
def advance (lexer : Lexer) (count : Nat) : Lexer :=
  { lexer with cursor := lexer.cursor.advance count }

/-- Run a computation on the cursor. -/
def scan {α : Type} (lexer : Lexer) (computation : Scan α) : Option (α × Lexer) := do
  let (result, cursor) ← computation.run lexer.cursor
  return (result, { lexer with cursor })

/-- Say whether a key may start next. -/
def allowKey (lexer : Lexer) (allowed : Bool) : Lexer := { lexer with keyAllowed := allowed }

/-- Move over blanks, line breaks and comments to the next token. A tab does not count as blank
where a block key may start. The byte order mark counts at the start of the text. -/
def skipToToken : Nat → Lexer → Lexer
  | 0, lexer => lexer
  | steps + 1, lexer =>
    let lexer :=
      if lexer.cursor.index == 0 && lexer.cursor.sees '\ufeff' then lexer.advance 1 else lexer
    let tabs := lexer.inFlow || !lexer.keyAllowed
    let blanks := lexer.cursor.rest.takeWhile fun c => c == ' ' || (tabs && c == '\t')
    let lexer := lexer.advance blanks.length
    let lexer :=
      if lexer.cursor.sees '#' then
        lexer.advance (lexer.cursor.rest.takeWhile (!isBreak ·)).length
      else lexer
    if lexer.cursor.atBreak then
      match lexer.scan Scan.takeBreak with
      | some (_, lexer) => skipToToken steps (if lexer.inFlow then lexer else lexer.allowKey true)
      | none => lexer
    else lexer

/-- Whether a key that started at a place can still end here. -/
def inReach (lexer : Lexer) (place : KeyPlace) : Bool :=
  lexer.cursor.line == place.cursor.line && lexer.cursor.index ≤ place.cursor.index + 1024

/-- Forget the places of keys that cannot end here; fails when the colon has to follow one. -/
def forgetDistant (lexer : Lexer) : Option Lexer := do
  let places ← lexer.places.mapM fun
    | none => some none
    | some place =>
      if lexer.inReach place then some (some place)
      else if place.required then none
      else some none
  return { lexer with places }

/-- Forget the innermost place of a key; fails when the colon has to follow it. -/
def forgetPlace (lexer : Lexer) : Option Lexer := do
  guard !((lexer.places.head?.getD none).any (·.required))
  return { lexer with places := none :: lexer.places.drop 1 }

/-- Remember this place when a key may start here. The colon has to follow where a line of a
block mapping starts. -/
def rememberPlace (lexer : Lexer) : Option Lexer :=
  if lexer.keyAllowed then do
    let place : KeyPlace :=
      { required := !lexer.inFlow && lexer.indent == lexer.cursor.column
        tokens := lexer.tokens.size
        cursor := lexer.cursor }
    let lexer ← lexer.forgetPlace
    return { lexer with places := some place :: lexer.places.drop 1 }
  else some lexer

/-- Open a block collection when a column is indented further than what is around it. Its token
comes where the given number of tokens precede. -/
def openBlock (lexer : Lexer) (column : Nat) (count : Nat) (token : Token) : Lexer :=
  if !lexer.inFlow && lexer.indent < column then
    { lexer.putIn count token with indent := column, outer := lexer.indent :: lexer.outer }
  else lexer

/-- Close the block collections that are indented further than a column. -/
def closeBlocks (lexer : Lexer) (column : Int) : Lexer :=
  if lexer.inFlow then lexer
  else
    let closed := (lexer.indent :: lexer.outer).takeWhile (column < ·)
    match (lexer.indent :: lexer.outer).drop closed.length with
    | indent :: outer =>
      { lexer with
        indent, outer
        tokens := lexer.tokens ++ (closed.map fun _ => Token.blockEnd).toArray }
    | [] => lexer

/-- Read a mark of some characters. -/
def mark (lexer : Lexer) (length : Nat) (token : Token) : Lexer :=
  (lexer.advance length).push token

/-- Read an opening bracket. -/
def opening (lexer : Lexer) (token : Token) : Option Lexer := do
  let lexer ← lexer.rememberPlace
  return ({ lexer with places := none :: lexer.places, keyAllowed := true }).mark 1 token

/-- Read a closing bracket. -/
def closing (lexer : Lexer) (token : Token) : Option Lexer := do
  let lexer ← lexer.forgetPlace
  let places := if lexer.inFlow then lexer.places.drop 1 else lexer.places
  return ({ lexer with places, keyAllowed := false }).mark 1 token

/-- Read a comma. -/
def comma (lexer : Lexer) : Option Lexer := do
  let lexer ← lexer.forgetPlace
  return (lexer.allowKey true).mark 1 .comma

/-- Read the hyphen of a sequence entry. -/
def hyphen (lexer : Lexer) : Option Lexer := do
  guard (lexer.inFlow || lexer.keyAllowed)
  let lexer := lexer.openBlock lexer.cursor.column lexer.tokens.size .blockSequence
  let lexer ← lexer.forgetPlace
  return (lexer.allowKey true).mark 1 .item

/-- Read the question mark of a key. -/
def question (lexer : Lexer) : Option Lexer := do
  guard (lexer.inFlow || lexer.keyAllowed)
  let lexer := lexer.openBlock lexer.cursor.column lexer.tokens.size .blockMapping
  let lexer ← lexer.forgetPlace
  return (lexer.allowKey !lexer.inFlow).mark 1 .key

/-- Read the colon of a value. -/
def colon (lexer : Lexer) : Option Lexer := do
  match lexer.places.head?.getD none with
  | some place =>
    let lexer := lexer.putIn place.tokens .key
    let lexer := lexer.openBlock place.cursor.column place.tokens .blockMapping
    let places := none :: lexer.places.drop 1
    return ({ lexer with places, keyAllowed := false }).mark 1 .value
  | none =>
    guard (lexer.inFlow || lexer.keyAllowed)
    let lexer := lexer.openBlock lexer.cursor.column lexer.tokens.size .blockMapping
    return (lexer.allowKey !lexer.inFlow).mark 1 .value

/-- Read the name of an anchor or alias after its sign. -/
def takeName : Scan (List Char) := do
  Scan.skip 1
  let name ← Scan.takeWhile isNameChar
  let cursor ← get
  let ends := cursor.wordEnds 0 ||
    cursor.rest.head?.any fun c => "?:,]\x7d%@\x60".toList.contains c
  guard (!name.isEmpty && ends)
  return name

/-- Read a token that may start a key. -/
def content (lexer : Lexer) (computation : Scan Token) : Option Lexer := do
  let lexer ← lexer.rememberPlace
  let (token, lexer) ← (lexer.allowKey false).scan computation
  return lexer.push token

/-- Read a plain scalar. After a line break that ended it a key may start. -/
def plain (lexer : Lexer) : Option Lexer := do
  let lexer ← lexer.rememberPlace
  let ((text, broken), lexer) ←
    (lexer.allowKey false).scan (Scan.takePlain lexer.inFlow (lexer.indent + 1).toNat)
  return (lexer.allowKey broken).push (.scalar true text)

/-- Read a block. -/
def block (lexer : Lexer) (folds : Bool) : Option Lexer := do
  let lexer ← lexer.forgetPlace
  let (text, lexer) ← (lexer.allowKey true).scan (Scan.takeBlock folds lexer.indent)
  return lexer.push (.scalar false text)

/-- Close all blocks before a token that belongs to no node. -/
def leave (lexer : Lexer) : Option Lexer := do
  let lexer ← (lexer.closeBlocks (-1)).forgetPlace
  return lexer.allowKey false

/-- Whether a plain scalar may start with a character, given the one after it. -/
def startsPlain (flow : Bool) (c : Char) (following : Option Char) : Bool :=
  !("\t-?:,[]\x7b\x7d#&*!|>'\"%@\x60".toList.contains c) ||
    (c == '-' && !following.any isGap) ||
    (!flow && (c == '?' || c == ':') && !following.all fun next => isGap next || isBreak next)

/-- Read the token that starts with a character. -/
def token (lexer : Lexer) (c : Char) : Option Lexer :=
  let cursor := lexer.cursor
  let wordEnds := cursor.wordEnds 1
  if cursor.column == 0 && c == '%' then do
    let lexer ← lexer.leave
    let (token, lexer) ← lexer.scan Scan.takeDirective
    return lexer.push token
  else if cursor.atMarker '-' then do return (← lexer.leave).mark 3 .documentStart
  else if cursor.atMarker '.' then do return (← lexer.leave).mark 3 .documentEnd
  else if c == '[' then lexer.opening .openSequence
  else if c == '\x7b' then lexer.opening .openMapping
  else if c == ']' then lexer.closing .closeSequence
  else if c == '\x7d' then lexer.closing .closeMapping
  else if c == ',' then lexer.comma
  else if c == '-' && wordEnds then lexer.hyphen
  else if c == '?' && (lexer.inFlow || wordEnds) then lexer.question
  else if c == ':' && (lexer.inFlow || wordEnds) then lexer.colon
  else if c == '*' then lexer.content (.alias <$> takeName)
  else if c == '&' then lexer.content (.anchor <$> takeName)
  else if c == '!' then lexer.content (.tag <$> Scan.takeTag lexer.inFlow)
  else if c == '|' && !lexer.inFlow then lexer.block false
  else if c == '>' && !lexer.inFlow then lexer.block true
  else if c == '\'' then lexer.content (.scalar false <$> Scan.takeQuoted false)
  else if c == '"' then lexer.content (.scalar false <$> Scan.takeQuoted true)
  else if startsPlain lexer.inFlow c (cursor.peek 1) then lexer.plain
  else none

/-- Read all tokens. -/
def run : Nat → Lexer → Option (Array Token)
  | 0, _ => none
  | steps + 1, lexer => do
    let lexer ← (lexer.skipToToken (lexer.cursor.rest.length + 1)).forgetDistant
    let lexer := lexer.closeBlocks lexer.cursor.column
    match lexer.cursor.rest with
    | [] => return (← lexer.leave).tokens
    | c :: _ => (← lexer.token c).run steps

end Lexer

/-- The tokens of a text. -/
def tokens? (text : List Char) : Option (List Token) := do
  guard (text.all isAllowed)
  return (← Lexer.run (text.length + 1) { cursor := .start text }).toList

end DecisionFlow.Yaml
