import DecisionFlow.Json.Reader
import DecisionFlow.Number.Word
import DecisionFlow.Text.Integer

/-!
# The text of settings

Settings are written in that part of TOML which they need: keys with values in named sections,
where a section is a heading with lines below it, dotted keys above all headings, or a value in
braces or brackets. Values are texts, integers, truth values, lists and tables. What else the
language has, such as doubles, dates and headings of several parts, has no place in settings and
is refused.
-/
namespace DecisionFlow.Settings

/-- A value in settings. -/
inductive Value where
  /-- A text. -/
  | string (value : String)
  /-- An integer. -/
  | integer (value : Int64)
  /-- A truth value. -/
  | bool (value : Bool)
  /-- A list. -/
  | list (items : List Value)
  /-- A table: its keys are distinct. -/
  | table (entries : List (String × Value))
deriving Inhabited

/-- The text after spaces and tabs. -/
def skipSpaces (text : List Char) : List Char := text.dropWhile fun c => c == ' ' || c == '\t'

/-- Whether a character may stand in a comment or a text. -/
def isText (c : Char) : Bool := c == '\t' || (' ' ≤ c && c != '\x7f')

/-- The text after a line break. -/
def lineBreak? : List Char → Option (List Char)
  | '\n' :: rest => some rest
  | '\r' :: '\n' :: rest => some rest
  | _ => none

/-- The text after spaces and a comment. -/
def skipComment (text : List Char) : List Char :=
  match skipSpaces text with
  | '#' :: rest => rest.dropWhile isText
  | rest => rest

/-- The text after spaces, comments and line breaks. -/
def skipLines : Nat → List Char → List Char
  | 0, text => text
  | steps + 1, text =>
    let text := skipComment text
    match lineBreak? text with
    | some rest => skipLines steps rest
    | none => text

/-- The character of a number of hexadecimal digits. -/
def readCode (count : Nat) (text : List Char) : Option (Char × List Char) := do
  let digits := text.take count
  let code ← Text.ofDigits? 16 digits
  guard (digits.length == count && code.isValidChar)
  return (Char.ofNat code, text.drop count)

/-- Read an escape after its backslash. -/
def readEscape : List Char → Option (Char × List Char)
  | 'b' :: rest => some ('\x08', rest)
  | 't' :: rest => some ('\t', rest)
  | 'n' :: rest => some ('\n', rest)
  | 'f' :: rest => some ('\x0c', rest)
  | 'r' :: rest => some ('\r', rest)
  | '"' :: rest => some ('"', rest)
  | '\\' :: rest => some ('\\', rest)
  | 'u' :: rest => readCode 4 rest
  | 'U' :: rest => readCode 8 rest
  | _ => none

/-- Read a text on one line, up to its closing quote. Escapes count between double quotes. -/
def readLine (quote : Char) : Nat → List Char → Option (List Char × List Char)
  | 0, _ => none
  | _ + 1, [] => none
  | steps + 1, c :: rest =>
    if c == quote then some ([], rest)
    else if c == '\\' && quote == '"' then do
      let (escaped, rest) ← readEscape rest
      let (text, rest) ← readLine quote steps rest
      return (escaped :: text, rest)
    else if isText c then do
      let (text, rest) ← readLine quote steps rest
      return (c :: text, rest)
    else none

/-- Read a text over several lines, up to its three closing quotes, of which the text may hold two
more. A backslash at the end of a line takes the white space after it away. -/
def readLines (quote : Char) : Nat → List Char → Option (List Char × List Char)
  | 0, _ => none
  | _ + 1, [] => none
  | steps + 1, c :: rest =>
    if c == quote then
      let quotes := ((c :: rest).takeWhile (· == quote)).length
      if quotes < 3 then do
        let (text, rest) ← readLines quote steps ((c :: rest).drop quotes)
        return (List.replicate quotes quote ++ text, rest)
      else
        let kept := min (quotes - 3) 2
        some (List.replicate kept quote, (c :: rest).drop (kept + 3))
    else if c == '\\' && quote == '"' then
      match lineBreak? (skipSpaces rest) with
      | some rest => readLines quote steps (rest.dropWhile Text.isBlank)
      | none => do
        let (escaped, rest) ← readEscape rest
        let (text, rest) ← readLines quote steps rest
        return (escaped :: text, rest)
    else match lineBreak? (c :: rest) with
      | some rest => do
        let (text, rest) ← readLines quote steps rest
        return ('\n' :: text, rest)
      | none =>
        if isText c then do
          let (text, rest) ← readLines quote steps rest
          return (c :: text, rest)
        else none

/-- Read a text in quotes. A line break right after three opening quotes does not count. -/
def readQuoted (quote : Char) (text : List Char) : Option (String × List Char) := do
  let steps := text.length + 1
  let (content, rest) ← match text with
    | a :: b :: c :: rest =>
      if a == quote && b == quote && c == quote then
        readLines quote steps ((lineBreak? rest).getD rest)
      else readLine quote steps (text.drop 1)
    | _ => readLine quote steps (text.drop 1)
  return (String.ofList content, rest)

/-- Whether a character may stand in a key without quotes. -/
def isKeyChar (c : Char) : Bool := c.isAlphanum || c == '_' || c == '-'

/-- Read one part of a key. -/
def readKeyPart (text : List Char) : Option (String × List Char) :=
  match text with
  | '"' :: rest => do
    let (key, rest) ← readLine '"' text.length rest
    return (String.ofList key, rest)
  | '\'' :: rest => do
    let (key, rest) ← readLine '\'' text.length rest
    return (String.ofList key, rest)
  | _ => do
    let key := text.takeWhile isKeyChar
    guard !key.isEmpty
    return (String.ofList key, text.dropWhile isKeyChar)

/-- Digits without the underscores between them. -/
def ungroup? : List Char → Option (List Char)
  | [] => some []
  | '_' :: _ => none
  | [c] => some [c]
  | c :: '_' :: rest => do
    guard !rest.isEmpty
    return c :: (← ungroup? rest)
  | c :: rest => do return c :: (← ungroup? rest)

/-- The number that digits of a base spell, underscores between them. -/
def natural? (base : Nat) (text : List Char) : Option Nat := do
  Text.ofDigits? base (← ungroup? text)

/-- The number that decimal digits spell, without a zero before others. -/
def decimal? : List Char → Option Nat
  | '0' :: _ :: _ => none
  | digits => natural? 10 digits

/-- The integer that a word spells. -/
def integer? (word : List Char) : Option Int64 := do
  let value : Int ← match word with
    | '0' :: 'x' :: digits => (natural? 16 digits).map Int.ofNat
    | '0' :: 'o' :: digits => (natural? 8 digits).map Int.ofNat
    | '0' :: 'b' :: digits => (natural? 2 digits).map Int.ofNat
    | '-' :: digits => (decimal? digits).map fun n => -(n : Int)
    | '+' :: digits => (decimal? digits).map Int.ofNat
    | digits => (decimal? digits).map Int.ofNat
  Number.int64? value

/-- The value that a word spells: a truth value or an integer. -/
def word? (word : List Char) : Option Value :=
  if word == "true".toList then some (.bool true)
  else if word == "false".toList then some (.bool false)
  else (integer? word).map .integer

/-- Whether a character may stand in a word. -/
def isWordChar (c : Char) : Bool := isKeyChar c || c == '+' || c == '.' || c == ':'

mutual

/-- Read a value. -/
def readValue : Nat → List Char → Option (Value × List Char)
  | 0, _ => none
  | steps + 1, text =>
    match text with
    | '"' :: _ => (readQuoted '"' text).map fun (value, rest) => (.string value, rest)
    | '\'' :: _ => (readQuoted '\'' text).map fun (value, rest) => (.string value, rest)
    | '[' :: rest => do
      let (items, rest) ← readItems steps (skipLines rest.length rest)
      return (.list items, rest)
    | '\x7b' :: rest =>
      match skipSpaces rest with
      | '\x7d' :: rest => some (.table [], rest)
      | rest => do
        let (entries, rest) ← readEntries steps [] rest
        return (.table entries, rest)
    | _ => do
      let value ← word? (text.takeWhile isWordChar)
      return (value, text.dropWhile isWordChar)

/-- Read the items of a list, up to its closing bracket; a comma may follow the last. -/
def readItems : Nat → List Char → Option (List Value × List Char)
  | 0, _ => none
  | steps + 1, text =>
    match text with
    | ']' :: rest => some ([], rest)
    | _ => do
      let (item, rest) ← readValue steps text
      match skipLines rest.length rest with
      | ',' :: rest => do
        let (items, rest) ← readItems steps (skipLines rest.length rest)
        return (item :: items, rest)
      | ']' :: rest => return ([item], rest)
      | _ => none

/-- Read the entries of a table on one line, up to its closing brace, given the keys before. -/
def readEntries : Nat → List String → List Char → Option (List (String × Value) × List Char)
  | 0, _, _ => none
  | steps + 1, keys, text => do
    let (key, rest) ← readKeyPart (skipSpaces text)
    guard !(keys.contains key)
    match skipSpaces rest with
    | '=' :: rest => do
      let (value, rest) ← readValue steps (skipSpaces rest)
      match skipSpaces rest with
      | ',' :: rest => do
        let (entries, rest) ← readEntries steps (key :: keys) rest
        return ((key, value) :: entries, rest)
      | '\x7d' :: rest => return ([(key, value)], rest)
      | _ => none
    | _ => none

end

/-- A line of settings. -/
inductive Line where
  /-- The heading of a section. -/
  | heading (name : String)
  /-- A key with its value. -/
  | entry (key : String) (value : Value)
  /-- A key of a section with its value. -/
  | dotted (name key : String) (value : Value)

/-- Read the value of a key after the key. -/
def readAssigned (text : List Char) : Option (Value × List Char) :=
  match skipSpaces text with
  | '=' :: rest =>
    let rest := skipSpaces rest
    readValue (rest.length + 1) rest
  | _ => none

/-- Read a line that is not empty, without its end. -/
def readStatement (text : List Char) : Option (Line × List Char) := do
  match text with
  | '[' :: rest => do
    let (name, rest) ← readKeyPart (skipSpaces rest)
    match skipSpaces rest with
    | ']' :: rest => return (.heading name, rest)
    | _ => none
  | _ => do
    let (first, rest) ← readKeyPart text
    match skipSpaces rest with
    | '.' :: rest => do
      let (second, rest) ← readKeyPart (skipSpaces rest)
      let (value, rest) ← readAssigned rest
      return (.dotted first second value, rest)
    | rest => do
      let (value, rest) ← readAssigned rest
      return (.entry first value, rest)

/-- Read all lines. -/
def readStatements : Nat → List Char → Option (List Line)
  | 0, _ => none
  | steps + 1, text =>
    match skipLines text.length text with
    | [] => some []
    | text => do
      let (line, rest) ← readStatement text
      let rest := skipComment rest
      guard (rest.isEmpty || (lineBreak? rest).isSome)
      return line :: (← readStatements steps rest)

/-- A section so far: whether dotted keys may still add to it, and its value. -/
structure Section where
  /-- Whether dotted keys may add to it. -/
  isOpen : Bool
  /-- The value. -/
  value : Value

/-- The sections so far, and the heading that the lines are under. -/
structure Draft where
  /-- The sections by name. -/
  sections : List (String × Section) := []
  /-- The heading. -/
  heading : Option String := none

namespace Draft

/-- Add a section under a new name. -/
def add (draft : Draft) (name : String) (entry : Section) : Option Draft := do
  guard (draft.sections.lookup name).isNone
  return { draft with sections := draft.sections ++ [(name, entry)] }

/-- Add a key that is new to a section. -/
def extend (draft : Draft) (name key : String) (value : Value) : Option Draft := do
  let sections ← draft.sections.mapM fun (other, held) =>
    if other == name then
      match held.value with
      | .table entries =>
        if (entries.lookup key).isSome then none
        else some (other, { held with value := .table (entries ++ [(key, value)]) })
      | _ => none
    else some (other, held)
  return { draft with sections }

/-- Take one more line. Dotted keys under a heading would name a section in a section. -/
def take (draft : Draft) : Line → Option Draft
  | .heading name => do
    let draft ← draft.add name ⟨false, .table []⟩
    return { draft with heading := some name }
  | .entry key value =>
    match draft.heading with
    | some name => draft.extend name key value
    | none => draft.add key ⟨false, value⟩
  | .dotted name key value =>
    match draft.heading, draft.sections.lookup name with
    | some _, _ => none
    | none, none => draft.add name ⟨true, .table [(key, value)]⟩
    | none, some held => if held.isOpen then draft.extend name key value else none

end Draft

/-- The sections in the text of settings, by name. -/
def readSections? (text : String) : Option (List (String × Value)) := do
  let text := match text.toList with
    | '\ufeff' :: rest => rest
    | text => text
  let lines ← readStatements (text.length + 1) text
  let draft ← lines.foldlM Draft.take {}
  return draft.sections.map fun (name, held) => (name, held.value)

end DecisionFlow.Settings
