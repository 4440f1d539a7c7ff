import DecisionFlow.Regex.Error
import DecisionFlow.Regex.Pattern
import DecisionFlow.Regex.Property

/-!
# Reading patterns

The written form of patterns: literals, `.`, anchors, groups with flags, bracketed sets with
set operations, classes by letter, by property and by POSIX name, and greedy or lazy
repetitions. Look-around and references to groups are refused, so that every pattern denotes a
relation of positions. Reading fails with a cause, never by running out: each step of the
recursion takes at least one character, and the bound on the steps is the length of the text.
-/
namespace DecisionFlow.Regex

open DecisionFlow.Text

/-- The flags that govern the reading of a pattern. -/
structure Flags where
  /-- Letters match in either case. -/
  ignoreCase : Bool := false
  /-- The line anchors match at every line. -/
  multiLine : Bool := false
  /-- The dot matches line feeds too. -/
  dotAll : Bool := false
  /-- Classes contain the characters of all scripts. -/
  unicode : Bool := true
  /-- Carriage returns end lines too. -/
  crlf : Bool := false
  /-- White space and comments are skipped. -/
  spaced : Bool := false

/-- Switch one flag. Greediness does not bear on whether a pattern matches, so its flag changes
nothing. -/
def Flags.set (flags : Flags) (letter : Char) (on : Bool) : Flags :=
  match letter with
  | 'i' => { flags with ignoreCase := on }
  | 'm' => { flags with multiLine := on }
  | 's' => { flags with dotAll := on }
  | 'u' => { flags with unicode := on }
  | 'R' => { flags with crlf := on }
  | 'x' => { flags with spaced := on }
  | _ => flags

/-- Switch flags on, and off after a minus sign. -/
def Flags.apply (flags : Flags) (letters : List Char) : Flags :=
  (letters.takeWhile (· != '-')).foldl (·.set · true) <|
    (letters.dropWhile (· != '-')).foldl (·.set · false) flags

/-- Where the reading of a pattern stands. -/
structure Cursor where
  /-- What is left of the pattern. -/
  rest : List Char
  /-- The flags in force. -/
  flags : Flags
  /-- The names of the groups so far. -/
  names : List (List Char)

/-- A text without leading white space and comments; a comment runs from `#` to the end of the
line. -/
def dropSpaced (inComment : Bool) : List Char → List Char
  | [] => []
  | c :: rest =>
    if inComment then dropSpaced (c != '\n') rest
    else if isWhiteSpace c then dropSpaced false rest
    else if c = '#' then dropSpaced true rest
    else c :: rest

/-- A text without what the flags skip. -/
def Flags.skip (flags : Flags) (text : List Char) : List Char :=
  if flags.spaced then dropSpaced false text else text

/-- Dropping white space and comments never lengthens a text. -/
theorem length_dropSpaced_le (inComment : Bool) (text : List Char) :
    (dropSpaced inComment text).length ≤ text.length := by
  induction text generalizing inComment with
  | nil => simp [dropSpaced]
  | cons c rest ih =>
    simp only [dropSpaced, List.length_cons]
    split
    · exact Nat.le_succ_of_le (ih _)
    · split
      · exact Nat.le_succ_of_le (ih _)
      · split
        · exact Nat.le_succ_of_le (ih _)
        · simp

/-- Skipping never lengthens a text. -/
theorem Flags.length_skip_le (flags : Flags) (text : List Char) :
    (flags.skip text).length ≤ text.length := by
  unfold Flags.skip
  split
  · exact length_dropSpaced_le false text
  · exact Nat.le_refl _

/-- A part of a pattern while it is read. -/
structure Item where
  /-- The pattern. -/
  pattern : Pattern
  /-- The estimated memory of the compiled pattern in bytes. -/
  weight : Nat
  /-- How deeply the part nests. -/
  height : Nat
  /-- Whether it can be repeated. -/
  repeatable : Bool

/-- The largest estimated memory of a pattern, in bytes. -/
def weightLimit : Nat := 10 * 0x100000

/-- The deepest nesting of a pattern. -/
def nestingLimit : Nat := 250

/-- The part of one set. -/
def Item.ofSet (set : CharSet) : Item := ⟨.set set, set.weight, 0, true⟩

/-- The part of a condition. -/
def Item.ofLook (look : Look) : Item := ⟨.look look, 40, 0, true⟩

/-- Parts one after another. -/
def Item.sequence : List Item → Item
  | [] => ⟨.empty, 32, 0, true⟩
  | [item] => item
  | items =>
    { pattern := items.foldr (fun item rest => .concat item.pattern rest) .empty
      weight := (items.map (·.weight)).foldl (· + ·) 0
      height := 1 + (items.map (·.height)).foldl max 0
      repeatable := true }

/-- Parts to choose from. -/
def Item.choice : List Item → Item
  | [] => ⟨.empty, 32, 0, true⟩
  | [item] => item
  | item :: items =>
    { pattern := items.foldl (fun left right => .alternate left right.pattern) item.pattern
      weight := (items.map (·.weight)).foldl (· + ·) (item.weight + 64)
      height := 1 + (items.map (·.height)).foldl max item.height
      repeatable := true }

/-- A part in a row. -/
def Item.repeated (item : Item) (least : Nat) (most : Option Nat) : Item :=
  { pattern := .repeated item.pattern least most
    weight := match most with
      | some most => least * item.weight + (most - least) * (item.weight + 32)
      | none => max least 1 * item.weight + 32
    height := 1 + item.height
    repeatable := true }

/-- What one escape or plain character stands for. -/
inductive Primitive where
  /-- A character; `byte` when it is written as a byte. -/
  | literal (c : Char) (byte : Bool)
  /-- A set. -/
  | set (members : CharSet)
  /-- A condition. -/
  | look (condition : Look)

/-- The characters that have a meaning of their own. -/
def isMeta (c : Char) : Bool := "\\.+*?()|[]\x7b\x7d^$#&-~".toList.contains c

/-- Whether a backslash before a character makes it a literal. -/
def isEscapable (c : Char) : Bool :=
  isMeta c || (c.toNat < 128 && !c.isAlphanum && c != '<' && c != '>')

/-- Whether a character is a hexadecimal digit. -/
def isHexDigit (c : Char) : Bool :=
  c.isDigit || ('a' ≤ c && c ≤ 'f') || ('A' ≤ c && c ≤ 'F')

/-- The character of some hexadecimal digits. -/
def charOfHex (digits : List Char) : Except Error Char :=
  let code := digits.foldl (fun code c => code * 16 + hexValue c) 0
  if code.isValidChar then .ok (Char.ofNat code) else .error .escape

/-- Read the digits of an escape by code: up to a closing brace. -/
def readBracedHex (flags : Flags) : Nat → List Char → List Char →
    Except Error (List Char × List Char)
  | 0, _, _ => .error .escape
  | steps + 1, digits, text =>
    match flags.skip text with
    | [] => .error .escape
    | '\x7d' :: rest =>
      if digits.isEmpty then .error .escape else .ok (digits.reverse, flags.skip rest)
    | c :: rest =>
      if isHexDigit c then readBracedHex flags steps (c :: digits) rest else .error .escape

/-- Read the digits of an escape by code: a fixed number of them. -/
def readFixedHex (flags : Flags) : Nat → List Char → List Char →
    Except Error (List Char × List Char)
  | 0, digits, text => .ok (digits.reverse, text)
  | count + 1, digits, text =>
    match text with
    | [] => .error .escape
    | c :: rest =>
      if isHexDigit c then readFixedHex flags count (c :: digits) (flags.skip rest)
      else .error .escape

/-- Read an escape by code after its letter. -/
def readHex (flags : Flags) (letter : Char) (text : List Char) :
    Except Error (Primitive × List Char) := do
  let (digits, rest) ← match flags.skip text with
    | '\x7b' :: rest => readBracedHex flags (rest.length + 1) [] rest
    | digits =>
      readFixedHex flags (if letter == 'x' then 2 else if letter == 'u' then 4 else 8) [] digits
  let c ← charOfHex digits
  return (.literal c (letter == 'x'), rest)

/-- The place of a separator in a text: the text before and after it. -/
def splitAt? (separator : List Char) : List Char → Option (List Char × List Char)
  | [] => none
  | c :: rest =>
    if separator.isPrefixOf (c :: rest) then some ([], (c :: rest).drop separator.length)
    else (splitAt? separator rest).map fun (before, after) => (c :: before, after)

/-- The set of a property as written between braces. -/
def namedSet (text : List Char) : Except Error CharSet :=
  let found := match splitAt? ['!', '='] text with
    | some (name, value) => (propertyValueSet? name value).map .compl
    | none => match splitAt? [':'] text with
      | some (name, value) => propertyValueSet? name value
      | none => match splitAt? ['='] text with
        | some (name, value) => propertyValueSet? name value
        | none => propertySet? text
  match found with
  | some set => .ok set
  | none => .error .property

/-- Read a property after its letter. -/
def readProperty (flags : Flags) (negated : Bool) (text : List Char) :
    Except Error (Primitive × List Char) := do
  let (name, rest) ← match flags.skip text with
    | [] => .error .escape
    | '\\' :: _ => .error .escape
    | '\x7b' :: rest =>
      match splitAt? ['\x7d'] rest with
      | none => .error .escape
      | some (name, rest) =>
        .ok (if flags.spaced then name.filter fun c => !isWhiteSpace c else name, rest)
    | c :: rest => .ok ([c], flags.skip rest)
  if !flags.unicode then .error .notUnicode
  let set ← namedSet name
  let set := if flags.ignoreCase then .folded set else set
  return (.set (if negated then .compl set else set), rest)

/-- The set of a class letter. -/
def letterSet (flags : Flags) (letter : Char) : CharSet :=
  match letter.toLower with
  | 'd' => if flags.unicode then .digit else .asciiDigit
  | 's' => if flags.unicode then .space else .asciiSpace
  | _ => if flags.unicode then .word else .asciiWord

/-- The word characters under some flags. -/
def wordSet (flags : Flags) : CharSet := if flags.unicode then .word else .asciiWord

/-- Read the name of a special word boundary after `\b`, if there is one: braces around letters
and hyphens. -/
def readBoundary (flags : Flags) (text : List Char) : Except Error (Look × List Char) :=
  let word := wordSet flags
  match text with
  | '\x7b' :: rest =>
    let isNameChar (c : Char) : Bool := c.isAlpha || c == '-'
    match flags.skip rest with
    | [] => .error .escape
    | c :: inner =>
      if !isNameChar c then .ok (.wordBoundary word, text)
      else
        match splitAt? ['\x7d'] (c :: inner) with
        | none => .error .escape
        | some (name, rest) =>
          let name := if flags.spaced then name.filter fun c => !isWhiteSpace c else name
          if name == "start".toList then .ok (.wordStart word, rest)
          else if name == "end".toList then .ok (.wordEnd word, rest)
          else if name == "start-half".toList then .ok (.wordStartHalf word, rest)
          else if name == "end-half".toList then .ok (.wordEndHalf word, rest)
          else .error .escape
  | _ => .ok (.wordBoundary word, text)

/-- Read an escape after its backslash. -/
def readEscape (flags : Flags) : List Char → Except Error (Primitive × List Char)
  | [] => .error .escape
  | c :: rest =>
    if c.isDigit then .error .backReference
    else if c == 'x' || c == 'u' || c == 'U' then readHex flags c rest
    else if c == 'p' || c == 'P' then readProperty flags (c == 'P') rest
    else if ['d', 's', 'w'].contains c then .ok (.set (letterSet flags c), rest)
    else if ['D', 'S', 'W'].contains c then .ok (.set (.compl (letterSet flags c)), rest)
    else if isEscapable c then .ok (.literal c false, rest)
    else match c with
      | 'a' => .ok (.literal '\x07' false, rest)
      | 'f' => .ok (.literal '\x0c' false, rest)
      | 't' => .ok (.literal '\t' false, rest)
      | 'n' => .ok (.literal '\n' false, rest)
      | 'r' => .ok (.literal '\r' false, rest)
      | 'v' => .ok (.literal '\x0b' false, rest)
      | 'A' => .ok (.look .textStart, rest)
      | 'z' => .ok (.look .textEnd, rest)
      | 'b' => (readBoundary flags rest).map fun (look, rest) => (.look look, rest)
      | 'B' => .ok (.look (.notWordBoundary (wordSet flags)), rest)
      | '<' => .ok (.look (.wordStart (wordSet flags)), rest)
      | '>' => .ok (.look (.wordEnd (wordSet flags)), rest)
      | _ => .error .escape

/-- The part of a literal character. -/
def Item.ofLiteral (flags : Flags) (c : Char) (byte : Bool) : Except Error Item :=
  if !flags.unicode && byte && c.toNat ≥ 128 then .error .bytes
  else
    let set : CharSet :=
      if flags.ignoreCase then
        if flags.unicode then .folded (.single c) else .foldedAscii (.single c)
      else .single c
    .ok ⟨.set set, 32 * (String.singleton c).utf8ByteSize, 0, true⟩

/-- The part of an escape or plain character. -/
def Item.ofPrimitive (flags : Flags) : Primitive → Except Error Item
  | .literal c byte => Item.ofLiteral flags c byte
  | .set members =>
    if !flags.unicode && members.hasHighByte then .error .bytes else .ok (.ofSet members)
  | .look condition => .ok (.ofLook condition)

/-- The set of a POSIX class name. -/
def posixSet? (name : List Char) : Option CharSet :=
  match String.ofList name with
  | "alnum" => some (CharSet.ranges [(0x30, 0x39), (0x41, 0x5a), (0x61, 0x7a)])
  | "alpha" => some .asciiLetter
  | "ascii" => some (.range 0 0x7f)
  | "blank" => some (CharSet.ranges [(0x09, 0x09), (0x20, 0x20)])
  | "cntrl" => some (CharSet.ranges [(0, 0x1f), (0x7f, 0x7f)])
  | "digit" => some .asciiDigit
  | "graph" => some (.range 0x21 0x7e)
  | "lower" => some (.range 0x61 0x7a)
  | "print" => some (.range 0x20 0x7e)
  | "punct" =>
    some (CharSet.ranges [(0x21, 0x2f), (0x3a, 0x40), (0x5b, 0x60), (0x7b, 0x7e)])
  | "space" => some .asciiSpace
  | "upper" => some (.range 0x41 0x5a)
  | "word" => some .asciiWord
  | "xdigit" => some (CharSet.ranges [(0x30, 0x39), (0x41, 0x46), (0x61, 0x66)])
  | _ => none

/-- Read a POSIX class after its opening bracket, if there is one. -/
def readPosix? (text : List Char) : Option (CharSet × List Char) :=
  match text with
  | ':' :: rest =>
    let (negated, rest) := match rest with
      | '^' :: rest => (true, rest)
      | _ => (false, rest)
    match splitAt? [':'] rest with
    | some (name, ']' :: rest) =>
      (posixSet? name).map fun set => (if negated then .compl set else set, rest)
    | _ => none
  | _ => none

/-- The operations between sets. -/
inductive SetOp where
  /-- What is in both sets. -/
  | inter
  /-- What is in the left set alone. -/
  | diff
  /-- What is in exactly one set. -/
  | symmDiff

/-- Close a set under case variants when case is ignored. -/
def foldSet (flags : Flags) (set : CharSet) : CharSet :=
  if flags.ignoreCase then if flags.unicode then .folded set else .foldedAscii set else set

/-- Finish a pending operation with its right operand. -/
def finishOp (flags : Flags) (pending : Option (SetOp × CharSet)) (right : CharSet) : CharSet :=
  match pending with
  | none => right
  | some (.inter, left) => .inter (foldSet flags left) (foldSet flags right)
  | some (.diff, left) => .diff (foldSet flags left) (foldSet flags right)
  | some (.symmDiff, left) => .symmDiff (foldSet flags left) (foldSet flags right)

/-- Read one member of a bracketed set. -/
def readMember (flags : Flags) : List Char → Except Error (Primitive × List Char)
  | [] => .error .unclosedSet
  | '\\' :: rest => readEscape flags rest
  | c :: rest => .ok (.literal c false, rest)

/-- The set of a member of a bracketed set. -/
def memberSet (flags : Flags) : Primitive → Except Error CharSet
  | .literal c _ => if !flags.unicode && c.toNat ≥ 128 then .error .notUnicode
    else .ok (.single c)
  | .set members => .ok members
  | .look _ => .error .setEscape

/-- Read a member of a bracketed set or a range between two. A hyphen before the closing bracket
or before another hyphen does not make a range. -/
def readRange (flags : Flags) (text : List Char) : Except Error (CharSet × List Char) := do
  let (first, rest) ← readMember flags text
  match flags.skip rest with
  | [] => .error .unclosedSet
  | '-' :: after =>
    match flags.skip after with
    | [] => .error .unclosedSet
    | ']' :: _ | '-' :: _ => return (← memberSet flags first, '-' :: after)
    | bound =>
      let (last, rest) ← readMember flags bound
      match first, last with
      | .literal low _, .literal high _ =>
        if !flags.unicode && high.toNat ≥ 128 then .error .notUnicode
        if low.toNat ≤ high.toNat then return (.range low.toNat high.toNat, rest)
        else .error .setRange
      | _, _ => .error .setRange
  | rest => return (← memberSet flags first, rest)

/-- Read the hyphens that start a bracketed set as literals. -/
def readHyphens (flags : Flags) (set : CharSet) : List Char → CharSet × List Char
  | '-' :: rest => readHyphens flags (.union set (.single '-')) (flags.skip rest)
  | text => (set, text)
termination_by text => text.length
decreasing_by exact Nat.lt_succ_of_le (flags.length_skip_le rest)

/-- Read the start of a bracketed set after its bracket: a negation, hyphens and a closing
bracket in first place are special. -/
def readSetStart (flags : Flags) (text : List Char) : Except Error (Bool × CharSet × List Char) :=
  let (negated, text) := match flags.skip text with
    | '^' :: rest => (true, flags.skip rest)
    | text => (false, text)
  match text with
  | [] => .error .unclosedSet
  | '-' :: _ =>
    let (set, rest) := readHyphens flags .none text
    if rest.isEmpty then .error .unclosedSet else .ok (negated, set, rest)
  | ']' :: rest =>
    let rest := flags.skip rest
    if rest.isEmpty then .error .unclosedSet else .ok (negated, .single ']', rest)
  | text => .ok (negated, .none, text)

/-- Read the members of a bracketed set up to its closing bracket; the result carries how deeply
the set nests. -/
def readSet (flags : Flags) (negated : Bool) : Nat → Option (SetOp × CharSet) → CharSet → Nat →
    List Char → Except Error (CharSet × Nat × List Char)
  | 0, _, _, _, _ => .error .unclosedSet
  | steps + 1, pending, set, height, text =>
    match flags.skip text with
    | [] => .error .unclosedSet
    | ']' :: rest =>
      let set := foldSet flags (finishOp flags pending set)
      .ok (if negated then .compl set else set, height + 1, rest)
    | '[' :: rest =>
      match readPosix? rest with
      | some (inner, rest) => readSet flags negated steps pending (.union set inner) height rest
      | none => do
        let (innerNegated, start, inner) ← readSetStart flags rest
        let (inner, innerHeight, rest) ← readSet flags innerNegated steps none start 0 inner
        readSet flags negated steps pending (.union set inner) (max height (innerHeight + 1)) rest
    | '&' :: '&' :: rest =>
      readSet flags negated steps (some (.inter, finishOp flags pending set)) .none
        (height + 1) rest
    | '-' :: '-' :: rest =>
      readSet flags negated steps (some (.diff, finishOp flags pending set)) .none
        (height + 1) rest
    | '~' :: '~' :: rest =>
      readSet flags negated steps (some (.symmDiff, finishOp flags pending set)) .none
        (height + 1) rest
    | text => do
      let (member, rest) ← readRange flags text
      readSet flags negated steps pending (.union set member) height rest

/-- Read a bracketed set after its opening bracket. -/
def readBracketed (flags : Flags) (text : List Char) : Except Error (Item × List Char) := do
  let (negated, start, rest) ← readSetStart flags text
  let (set, height, rest) ← readSet flags negated (rest.length + 1) none start 0 rest
  if !flags.unicode && set.hasHighByte then .error .bytes
  return ({ Item.ofSet set with height }, rest)

/-- Read a list of flags after `(?`, up to the character that ends it. -/
def readFlags (letters : List Char) : List Char → Except Error (List Char × Char × List Char)
  | [] => .error .flags
  | c :: rest =>
    if c == ':' || c == ')' then
      if letters.head? == some '-' then .error .flags else .ok (letters.reverse, c, rest)
    else if letters.contains c then .error .flags
    else if "imsUuRx-".toList.contains c then readFlags (c :: letters) rest
    else .error .flags

/-- Read the name of a group up to its closing angle. -/
def readGroupName (names : List (List Char)) (text : List Char) :
    Except Error (List Char × List Char) :=
  match splitAt? ['>'] text with
  | none => .error .groupName
  | some ([], _) => .error .groupName
  | some (first :: others, rest) =>
    let valid := (first == '_' || isAlphabetic first) && others.all fun c =>
      c == '_' || c == '.' || c == '[' || c == ']' || isAlphanumeric c
    if valid && !names.contains (first :: others) then .ok (first :: others, rest)
    else .error .groupName

/-- The opening of a group. -/
inductive Opening where
  /-- A group whose members are read under the given flags. -/
  | group (flags : Flags)
  /-- Flags for the rest of the enclosing group. -/
  | directive (flags : Flags)

/-- Read the opening of a group after its parenthesis. -/
def readOpening (cursor : Cursor) : Except Error (Opening × Cursor) :=
  let text := cursor.flags.skip cursor.rest
  let named (rest : List Char) : Except Error (Opening × Cursor) := do
    let (name, rest) ← readGroupName cursor.names rest
    return (.group cursor.flags, { cursor with rest, names := name :: cursor.names })
  match text with
  | '?' :: '=' :: _ | '?' :: '!' :: _ => .error .lookAround
  | '?' :: '<' :: '=' :: _ | '?' :: '<' :: '!' :: _ => .error .lookAround
  | '?' :: 'P' :: '<' :: rest => named rest
  | '?' :: '<' :: rest => named rest
  | '?' :: rest => do
    let (letters, last, rest) ← readFlags [] rest
    let flags := cursor.flags.apply letters
    if last == ':' then return (.group flags, { cursor with rest })
    else if letters.isEmpty then .error .missingOperand
    else return (.directive flags, { cursor with rest })
  | _ => return (.group cursor.flags, { cursor with rest := text })

/-- Read a decimal count; white space around it is skipped. -/
def readCount (flags : Flags) (text : List Char) : Except Error (Nat × List Char) :=
  let text := text.dropWhile isWhiteSpace
  let rec digits (value : Option Nat) : Nat → List Char → Option Nat × List Char
    | 0, text => (value, text)
    | steps + 1, text =>
      match text with
      | c :: rest =>
        if c.isDigit then
          digits (some (value.getD 0 * 10 + (c.toNat - '0'.toNat))) steps (flags.skip rest)
        else (value, text)
      | [] => (value, [])
  match digits none text.length text with
  | (some value, rest) =>
    if value < 0x100000000 then .ok (value, flags.skip (rest.dropWhile isWhiteSpace))
    else .error .repetitionCount
  | (none, _) => .error .repetitionCount

/-- Read the bounds of a counted repetition after its opening brace. -/
def readBounds (flags : Flags) (text : List Char) :
    Except Error (Nat × Option Nat × List Char) := do
  let (least, rest) ← readCount flags (flags.skip text)
  match rest with
  | '\x7d' :: rest => return (least, some least, rest)
  | ',' :: rest =>
    match flags.skip rest with
    | '\x7d' :: rest => return (least, none, rest)
    | rest =>
      let (most, rest) ← readCount flags rest
      match rest with
      | '\x7d' :: rest =>
        if least ≤ most then return (least, some most, rest) else .error .repetitionCount
      | _ => .error .repetitionCount
  | _ => .error .repetitionCount

/-- Repeat the last part read; a question mark after a repetition makes it lazy, which does not
bear on whether it matches. -/
def repeatLast (items : List Item) (least : Nat) (most : Option Nat) (rest : List Char) :
    Except Error (List Item × List Char) :=
  match items with
  | [] => .error .missingOperand
  | item :: others =>
    if item.repeatable then
      let rest := match rest with
        | '?' :: rest => rest
        | _ => rest
      .ok (item.repeated least most :: others, rest)
    else .error .missingOperand

/-- The part of a character with a meaning of its own outside groups and sets. -/
def readPrimitive (flags : Flags) (c : Char) (rest : List Char) :
    Except Error (Item × List Char) := do
  match c with
  | '\\' =>
    let (primitive, rest) ← readEscape flags rest
    return (← Item.ofPrimitive flags primitive, rest)
  | '.' =>
    if !flags.unicode then .error .bytes
    let newline : CharSet :=
      if flags.dotAll then .none
      else if flags.crlf then CharSet.ranges [(0x0a, 0x0a), (0x0d, 0x0d)]
      else .single '\n'
    return (⟨.set (.compl newline), 640, 0, true⟩, rest)
  | '^' => return (.ofLook (if flags.multiLine then .lineStart flags.crlf else .textStart), rest)
  | '$' => return (.ofLook (if flags.multiLine then .lineEnd flags.crlf else .textEnd), rest)
  | c => return (← Item.ofLiteral flags c false, rest)

/-- Read alternatives up to a closing parenthesis or the end; `branches` and `items` hold, in
reverse, the finished alternatives and the parts of the current one. -/
def readBranches : Nat → List Item → List Item → Cursor → Except Error (Item × Cursor)
  | 0, _, _, _ => .error .unclosedGroup
  | steps + 1, branches, items, cursor =>
    let finish (rest : List Char) : Except Error (Item × Cursor) :=
      .ok (Item.choice ((Item.sequence items.reverse :: branches).reverse), { cursor with rest })
    let continueWith (items : List Item) (rest : List Char) : Except Error (Item × Cursor) :=
      readBranches steps branches items { cursor with rest }
    match cursor.flags.skip cursor.rest with
    | [] => finish []
    | ')' :: rest => finish (')' :: rest)
    | '|' :: rest =>
      readBranches steps (Item.sequence items.reverse :: branches) [] { cursor with rest }
    | '(' :: rest => do
      let (opening, inner) ← readOpening { cursor with rest }
      match opening with
      | .directive flags =>
        readBranches steps branches (⟨.empty, 0, 0, false⟩ :: items) { inner with flags }
      | .group flags =>
        let (body, after) ← readBranches steps [] [] { inner with flags }
        match after.rest with
        | ')' :: rest =>
          readBranches steps branches
            ({ body with height := body.height + 1, weight := body.weight + 64,
                         repeatable := true } :: items)
            { after with rest, flags := cursor.flags }
        | _ => .error .unclosedGroup
    | '[' :: rest => do
      let (item, rest) ← readBracketed cursor.flags rest
      continueWith (item :: items) rest
    | '?' :: rest => do
      let (items, rest) ← repeatLast items 0 (some 1) rest
      continueWith items rest
    | '*' :: rest => do
      let (items, rest) ← repeatLast items 0 none rest
      continueWith items rest
    | '+' :: rest => do
      let (items, rest) ← repeatLast items 1 none rest
      continueWith items rest
    | '\x7b' :: rest => do
      if !items.head?.any (·.repeatable) then .error .missingOperand
      let (least, most, rest) ← readBounds cursor.flags rest
      let (items, rest) ← repeatLast items least most (cursor.flags.skip rest)
      continueWith items rest
    | c :: rest => do
      let (item, rest) ← readPrimitive cursor.flags c rest
      continueWith (item :: items) rest

/-- Read a whole pattern. -/
def Pattern.read (text : String) : Except Error Pattern := do
  let chars := text.toList
  let (item, cursor) ← readBranches (chars.length + 1) [] [] ⟨chars, {}, []⟩
  if !cursor.rest.isEmpty then .error .unopenedGroup
  if nestingLimit < item.height then .error .tooNested
  if weightLimit < item.weight then .error .tooLarge
  return item.pattern

/-- Whether the pattern written in one text matches somewhere in another. -/
def search (pattern text : String) : Except Error Bool := do
  return (← Pattern.read pattern).matchesIn text.toList

/-- A way to match patterns, which is all that evaluation asks of them. -/
class Matcher where
  /-- Whether the pattern written in one text matches somewhere in another. -/
  search : String → String → Except Error Bool

/-- Patterns are read as regular expressions. -/
instance : Matcher := ⟨search⟩

end DecisionFlow.Regex
