import DecisionFlow.Json.Numeral
import DecisionFlow.Text.Blank

/-!
# Reading JSON text

Strict JSON: no comments, no trailing commas, no raw control characters in strings, nothing
after the value. `Json.read?` accepts every well-formed text and marks literals without a value
as broken, also arrays and objects nested more than `nestingLimit` deep; `Json.readWhole?`
accepts only texts that have a value throughout.
-/
namespace DecisionFlow.Json

open DecisionFlow.Text

/-- The deepest nesting of arrays and objects that has a value. -/
def nestingLimit : Nat := 127

/-- The value of four hexadecimal digits. -/
def hexQuad? (a b c d : Char) : Option Nat := Text.ofDigits? 16 [a, b, c, d]

/-- One unit of a string: a character, or half of a surrogate pair. -/
inductive StringUnit where
  /-- A character as it stands or by a short escape. -/
  | char (c : Char)
  /-- An escape by code. -/
  | code (value : Nat)

/-- Read the units of a string after its opening quote, up to the closing quote. -/
def readUnits : List Char → Option (List StringUnit × List Char)
  | [] => none
  | '"' :: rest => some ([], rest)
  | '\\' :: 'u' :: a :: b :: c :: d :: rest => do
    let value ← hexQuad? a b c d
    let (units, rest) ← readUnits rest
    return (.code value :: units, rest)
  | '\\' :: escape :: rest => do
    let c ← match escape with
      | '"' => some '"'
      | '\\' => some '\\'
      | '/' => some '/'
      | 'b' => some '\x08'
      | 'f' => some '\x0c'
      | 'n' => some '\n'
      | 'r' => some '\r'
      | 't' => some '\t'
      | _ => none
    let (units, rest) ← readUnits rest
    return (.char c :: units, rest)
  | c :: rest => do
    if c.toNat < 0x20 || c == '\\' then none
    let (units, rest) ← readUnits rest
    return (.char c :: units, rest)

/-- The characters of string units: escapes by code from the surrogate range stand for a
character only in pairs. -/
def charsOfUnits : List StringUnit → Option (List Char)
  | [] => some []
  | .char c :: rest => (charsOfUnits rest).map (c :: ·)
  | .code high :: .code low :: rest =>
    if 0xd800 ≤ high ∧ high < 0xdc00 then
      if 0xdc00 ≤ low ∧ low < 0xe000 then
        (charsOfUnits rest).map
          (Char.ofNat (0x10000 + (high - 0xd800) * 0x400 + (low - 0xdc00)) :: ·)
      else none
    else if 0xdc00 ≤ high ∧ high < 0xe000 then none
    else (charsOfUnits (.code low :: rest)).map (Char.ofNat high :: ·)
  | .code value :: rest =>
    if 0xd800 ≤ value ∧ value < 0xe000 then none
    else (charsOfUnits rest).map (Char.ofNat value :: ·)

/-- Read a string after its opening quote; without a value when an escape stands for half a
character. -/
def readString (text : List Char) : Option (Option String × List Char) := do
  let (units, rest) ← readUnits text
  return ((charsOfUnits units).map String.ofList, rest)

/-- Read a nonempty run of digits. -/
def readDigits (text : List Char) : Option (List Char × List Char) :=
  match text.takeWhile Char.isDigit with
  | [] => none
  | digits => some (digits, text.dropWhile Char.isDigit)

/-- Read the exponent of a numeral, if there is one. -/
def readExponent (text : List Char) : Option (Option (Bool × List Char) × List Char) :=
  match text with
  | e :: rest =>
    if e == 'e' || e == 'E' then do
      let (negative, rest) := match rest with
        | '-' :: rest => (true, rest)
        | '+' :: rest => (false, rest)
        | rest => (false, rest)
      let (digits, rest) ← readDigits rest
      return (some (negative, digits), rest)
    else some (none, text)
  | [] => some (none, [])

/-- Read the fraction of a numeral, if there is one. -/
def readFraction (text : List Char) : Option (List Char × List Char) :=
  match text with
  | '.' :: rest => readDigits rest
  | rest => some ([], rest)

/-- Read a numeral: no leading zeros, and digits on both sides of a point. -/
def readNumeral (text : List Char) : Option (Numeral × List Char) := do
  let (negative, text) := match text with
    | '-' :: rest => (true, rest)
    | rest => (false, rest)
  let (whole, rest) ← readDigits text
  if whole.length > 1 && whole.head? == some '0' then none
  let (fraction, rest) ← readFraction rest
  let (exponent, rest) ← readExponent rest
  return (⟨negative, whole, fraction, exponent⟩, rest)

/-- Keep a tree when its nesting is allowed. -/
def keepWhen (allowed : Bool) (tree : Json) : Json := if allowed then tree else .broken

/-- The object of members whose keys may lack values. -/
def ofMembers (members : List (Option String × Json)) : Json :=
  match members.mapM fun (key, value) => key.map (·, value) with
  | some members => .object members
  | none => .broken

mutual

/-- Read a value, at a given depth, in at most the given number of steps. -/
def readValue : Nat → Nat → List Char → Option (Json × List Char)
  | 0, _, _ => none
  | steps + 1, depth, text =>
    match skipBlank text with
    | 'n' :: 'u' :: 'l' :: 'l' :: rest => some (.null, rest)
    | 't' :: 'r' :: 'u' :: 'e' :: rest => some (.bool true, rest)
    | 'f' :: 'a' :: 'l' :: 's' :: 'e' :: rest => some (.bool false, rest)
    | '"' :: rest => do
      let (value, rest) ← readString rest
      return (match value with | some value => .string value | none => .broken, rest)
    | '[' :: rest =>
      match skipBlank rest with
      | ']' :: rest => some (keepWhen (depth < nestingLimit) (.array []), rest)
      | rest => do
        let (items, rest) ← readItems steps (depth + 1) rest
        return (keepWhen (depth < nestingLimit) (.array items), rest)
    | '\x7b' :: rest =>
      match skipBlank rest with
      | '\x7d' :: rest => some (keepWhen (depth < nestingLimit) (.object []), rest)
      | rest => do
        let (members, rest) ← readMembers steps (depth + 1) rest
        return (keepWhen (depth < nestingLimit) (ofMembers members), rest)
    | rest => do
      let (numeral, rest) ← readNumeral rest
      return (numeral.toJson, rest)

/-- Read the items of an array up to its closing bracket. -/
def readItems : Nat → Nat → List Char → Option (List Json × List Char)
  | 0, _, _ => none
  | steps + 1, depth, text => do
    let (item, rest) ← readValue steps depth text
    match skipBlank rest with
    | ',' :: rest => do
      let (items, rest) ← readItems steps depth rest
      return (item :: items, rest)
    | ']' :: rest => return ([item], rest)
    | _ => none

/-- Read the members of an object up to its closing brace. -/
def readMembers : Nat → Nat → List Char → Option (List (Option String × Json) × List Char)
  | 0, _, _ => none
  | steps + 1, depth, text => do
    match skipBlank text with
    | '"' :: rest => do
      let (key, rest) ← readString rest
      match skipBlank rest with
      | ':' :: rest => do
        let (value, rest) ← readValue steps depth rest
        match skipBlank rest with
        | ',' :: rest => do
          let (members, rest) ← readMembers steps depth rest
          return ((key, value) :: members, rest)
        | '\x7d' :: rest => return ([(key, value)], rest)
        | _ => none
      | _ => none
    | _ => none

end

/-- Read a text that is one JSON value; literals without a value are marked as broken. -/
def read? (text : String) : Option Json := do
  let chars := text.toList
  let (tree, rest) ← readValue (2 * chars.length + 1) 0 chars
  if (skipBlank rest).isEmpty then some tree else none

/-- Read a text that is one JSON value and has a value throughout. -/
def readWhole? (text : String) : Option Json := do
  let tree ← read? text
  if tree.isWhole then some tree else none

end DecisionFlow.Json
