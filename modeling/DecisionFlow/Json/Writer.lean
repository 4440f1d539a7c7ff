import DecisionFlow.Json.Basic
import DecisionFlow.Number.Layout

/-!
# Writing JSON text

A tree is written compactly, on one line without spaces, or pretty, with one item or member to a
line and an indent of two spaces. A number that is not finite is written as `null`.
-/
namespace DecisionFlow.Json

/-- The digits of a code below 256 in four hexadecimal digits. -/
def controlEscape (code : Nat) : List Char :=
  ['\\', 'u', '0', '0', Nat.digitChar (code / 16), Nat.digitChar (code % 16)]

/-- A character inside a string: quotes, backslashes and controls are escaped. -/
def writeChar (c : Char) : List Char :=
  if c = '"' then ['\\', '"']
  else if c = '\\' then ['\\', '\\']
  else if c = '\n' then ['\\', 'n']
  else if c = '\r' then ['\\', 'r']
  else if c = '\t' then ['\\', 't']
  else if c = '\x08' then ['\\', 'b']
  else if c = '\x0c' then ['\\', 'f']
  else if c.toNat < 0x20 then controlEscape c.toNat
  else [c]

/-- A string with its quotes. -/
def writeString (text : String) : String :=
  String.ofList ('"' :: text.toList.flatMap writeChar ++ ['"'])

/-- A double. -/
def writeFloat (x : Float) : String := if x.isFinite then Number.Layout.json.text x else "null"

mutual

/-- A tree on one line. -/
def compact : Json → String
  | .null | .broken => "null"
  | .bool value => if value then "true" else "false"
  | .int value => String.ofList (Text.writeInt value)
  | .float value => writeFloat value
  | .string value => writeString value
  | .array items => "[" ++ ",".intercalate (compactItems items) ++ "]"
  | .object members => "\x7b" ++ ",".intercalate (compactMembers members) ++ "\x7d"

/-- Trees, each on one line. -/
def compactItems : List Json → List String
  | [] => []
  | item :: rest => compact item :: compactItems rest

/-- Members of an object, each on one line. -/
def compactMembers : List (String × Json) → List String
  | [] => []
  | (key, value) :: rest => (writeString key ++ ":" ++ compact value) :: compactMembers rest

end

/-- A line break and an indent. -/
def newline (indent : Nat) : String := "\n" ++ String.ofList (List.replicate (2 * indent) ' ')

/-- Written parts between brackets, one to a line. -/
def block (opening closing : String) (indent : Nat) (parts : List String) : String :=
  if parts.isEmpty then opening ++ closing
  else opening ++ newline (indent + 1) ++ ("," ++ newline (indent + 1)).intercalate parts ++
    newline indent ++ closing

mutual

/-- A tree with one item or member to a line, inside a given indent. -/
def pretty (indent : Nat) : Json → String
  | .array items => block "[" "]" indent (prettyItems (indent + 1) items)
  | .object members => block "\x7b" "\x7d" indent (prettyMembers (indent + 1) members)
  | leaf => compact leaf

/-- Trees inside a given indent. -/
def prettyItems (indent : Nat) : List Json → List String
  | [] => []
  | item :: rest => pretty indent item :: prettyItems indent rest

/-- Members of an object inside a given indent. -/
def prettyMembers (indent : Nat) : List (String × Json) → List String
  | [] => []
  | (key, value) :: rest =>
    (writeString key ++ ": " ++ pretty indent value) :: prettyMembers indent rest

end

end DecisionFlow.Json
