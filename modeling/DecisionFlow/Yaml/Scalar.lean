import DecisionFlow.Text.Digits
import DecisionFlow.Yaml.Cursor

/-!
# Scalars in YAML text

A scalar is plain, quoted or a block. In plain and quoted scalars a run of spaces and line breaks
is folded: a single line break becomes a space, of several the first is dropped. In a block each
line stands for itself, or lines are folded when they start without a space.
-/
namespace DecisionFlow.Yaml

/-- What stands between two words of a scalar. -/
inductive Between where
  /-- Spaces and tabs on one line. -/
  | gap (spaces : List Char)
  /-- The first line break, if it counts, and the further ones. -/
  | lines (first further : List Char)
deriving DecidableEq, Repr

namespace Between

/-- The text that stands for what is between two words: spaces as they are, a lone line feed as a
space, and of several line breaks all but a leading line feed. -/
def text : Between → List Char
  | .gap spaces => spaces
  | .lines first further =>
    if first == ['\n'] then if further.isEmpty then [' '] else further else first ++ further

/-- Whether a line ended. -/
def broken : Between → Bool
  | .gap _ => false
  | .lines _ _ => true

end Between

namespace Scan

/-- Take spaces, tabs and line breaks. On a new line no tab may stand before the given column. -/
def takeBetween (column : Nat) : Nat → Between → Scan Between
  | 0, _ => failure
  | steps + 1, between => do
    let cursor ← get
    match cursor.rest.head? with
    | none => return between
    | some c =>
      if isGap c then
        skip 1
        match between with
        | .gap spaces => takeBetween column steps (.gap (spaces ++ [c]))
        | .lines _ _ =>
          guard !(c == '\t' && cursor.column < column)
          takeBetween column steps between
      else if isBreak c then
        let here ← takeBreak
        match between with
        | .gap _ => takeBetween column steps (.lines here [])
        | .lines first further => takeBetween column steps (.lines first (further ++ here))
      else return between

/-- Whether a plain scalar ends before a character, given the one after it. -/
def endsPlain (flow : Bool) (c : Char) (following : Option Char) : Bool :=
  (c == ':' && following.all fun next => isGap next || isBreak next) ||
    (flow && ",[]\x7b\x7d".toList.contains c)

/-- Take a word of a plain scalar. Between brackets a colon may not come right before another
indicator. -/
def takePlainWord (flow : Bool) : Nat → List Char → Scan (List Char)
  | 0, _ => failure
  | steps + 1, word => do
    let cursor ← get
    match cursor.rest.head? with
    | none => return word
    | some c =>
      if isGap c || isBreak c then return word
      let following := cursor.peek 1
      guard !(flow && c == ':' && following.any fun next => ",?[]\x7b\x7d".toList.contains next)
      if endsPlain flow c following then return word
      skip 1
      takePlainWord flow steps (word ++ [c])

/-- Take the words of a plain scalar that follow a text; gives also what was between the last
word and the end. -/
def takePlainWords (flow : Bool) (column : Nat) :
    Nat → List Char → Between → Scan (List Char × Between)
  | 0, _, _ => failure
  | steps + 1, text, between => do
    let cursor ← get
    if cursor.atMarker '-' || cursor.atMarker '.' || cursor.sees '#' then return (text, between)
    let word ← takePlainWord flow (cursor.rest.length + 1) []
    let text := if word.isEmpty then text else text ++ between.text ++ word
    let between := if word.isEmpty then between else .gap []
    let cursor ← get
    if !(cursor.atGap || cursor.atBreak) then return (text, between)
    let between ← takeBetween column (cursor.rest.length + 1) between
    if !flow && (← get).column < column then return (text, between)
    takePlainWords flow column steps text between

/-- Take a plain scalar, which goes on to lines indented up to the given column; tells also
whether it ended with a line break. -/
def takePlain (flow : Bool) (column : Nat) : Scan (List Char × Bool) := do
  let (text, between) ← takePlainWords flow column ((← get).rest.length + 1) [] (.gap [])
  return (text, between.broken)

/-- The character that an escape by letter stands for. -/
def escapedChar? : Char → Option Char
  | '0' => some '\x00'
  | 'a' => some '\x07'
  | 'b' => some '\x08'
  | 't' => some '\t'
  | '\t' => some '\t'
  | 'n' => some '\n'
  | 'v' => some '\x0b'
  | 'f' => some '\x0c'
  | 'r' => some '\r'
  | 'e' => some '\x1b'
  | ' ' => some ' '
  | '"' => some '"'
  | '/' => some '/'
  | '\\' => some '\\'
  | 'N' => some '\u0085'
  | '_' => some '\u00a0'
  | 'L' => some '\u2028'
  | 'P' => some '\u2029'
  | _ => none

/-- How many hexadecimal digits follow an escape by code. -/
def escapeDigits? : Char → Option Nat
  | 'x' => some 2
  | 'u' => some 4
  | 'U' => some 8
  | _ => none

/-- Take an escape after its backslash. -/
def takeEscape : Scan Char := do
  let letter ← (← get).rest.head?
  skip 1
  match escapeDigits? letter with
  | none => escapedChar? letter
  | some count =>
    let digits := (← get).rest.take count
    let code ← Text.ofDigits? 16 digits
    guard (digits.length == count && code.isValidChar)
    skip count
    return Char.ofNat code

/-- Take a word of a quoted scalar; tells also whether it ended with an escaped line break. -/
def takeQuotedWord (double : Bool) : Nat → List Char → Scan (List Char × Bool)
  | 0, _ => failure
  | steps + 1, word => do
    match (← get).rest with
    | [] => return (word, false)
    | c :: after =>
      if isGap c || isBreak c then return (word, false)
      else if double && c == '\\' then
        skip 1
        if after.head?.any isBreak then
          let _ ← takeBreak
          return (word, true)
        let escaped ← takeEscape
        takeQuotedWord double steps (word ++ [escaped])
      else if double && c == '"' then return (word, false)
      else if !double && c == '\'' then
        if after.head? == some '\'' then
          skip 2
          takeQuotedWord double steps (word ++ [c])
        else return (word, false)
      else
        skip 1
        takeQuotedWord double steps (word ++ [c])

/-- Take the words of a quoted scalar that follow a text, and the closing quote. -/
def takeQuotedWords (double : Bool) : Nat → List Char → Scan (List Char)
  | 0, _ => failure
  | steps + 1, text => do
    let cursor ← get
    guard !(cursor.atMarker '-' || cursor.atMarker '.')
    guard !cursor.atEnd
    let (word, escaped) ← takeQuotedWord double (cursor.rest.length + 1) []
    let text := text ++ word
    if ← accept (if double then '"' else '\'') then return text
    let between ← takeBetween 0 ((← get).rest.length + 1)
      (if escaped then .lines [] [] else .gap [])
    takeQuotedWords double steps (text ++ between.text)

/-- Take a quoted scalar. -/
def takeQuoted (double : Bool) : Scan (List Char) := do
  skip 1
  takeQuotedWords double ((← get).rest.length + 1) []

/-- What becomes of the line breaks at the end of a block. -/
inductive Chomping where
  /-- All are dropped. -/
  | strip
  /-- The first is kept. -/
  | clip
  /-- All are kept. -/
  | keep
deriving DecidableEq, Repr

/-- Take the mark for the line breaks at the end of a block. -/
def takeChomping : Scan (Option Chomping) := do
  if ← accept '+' then return some .keep
  else if ← accept '-' then return some .strip
  else return none

/-- Take the indentation mark of a block, a digit from one to nine. -/
def takeIndentation : Scan (Option Nat) := do
  match (← get).rest.head? with
  | some c =>
    if c.isDigit then
      guard (c != '0')
      skip 1
      return some (c.toNat - '0'.toNat)
    else return none
  | none => return none

/-- Take the marks of a block, in either order. -/
def takeBlockMarks : Scan (Chomping × Option Nat) := do
  match ← takeChomping with
  | some chomping => return (chomping, ← takeIndentation)
  | none =>
    let indentation ← takeIndentation
    let chomping ← if indentation.isSome then takeChomping else pure none
    return (chomping.getD .clip, indentation)

/-- Take indentation and empty lines, up to a line with content. Without a known indentation all
spaces are taken. Gives the deepest column that was reached and the line breaks. -/
def takeEmptyLines (indentation : Option Nat) :
    Nat → Nat → List Char → Scan (Nat × List Char)
  | 0, _, _ => failure
  | steps + 1, deepest, breaks => do
    let cursor ← get
    let spaces := (cursor.rest.takeWhile (· == ' ')).length
    skip (match indentation with
      | none => spaces
      | some column => min spaces (column - cursor.column))
    let cursor ← get
    let deepest := max deepest cursor.column
    guard !(indentation.all (cursor.column < ·) && cursor.sees '\t')
    if cursor.atBreak then
      let here ← takeBreak
      takeEmptyLines indentation steps deepest (breaks ++ here)
    else return (deepest, breaks)

/-- What has been taken of a block. -/
structure BlockText where
  /-- The text. -/
  text : List Char
  /-- The line break after the last line. -/
  first : List Char
  /-- The line breaks of the empty lines after it. -/
  further : List Char
  /-- Whether the last line starts with a space or tab. -/
  spaced : Bool

/-- Take the lines of a block that are indented to a column. When lines are folded, a lone line
feed between two lines that start without space becomes a space, and before empty lines it is
dropped. -/
def takeBlockLines (folds : Bool) (column : Nat) : Nat → BlockText → Scan BlockText
  | 0, _ => failure
  | steps + 1, block => do
    let cursor ← get
    if cursor.column != column || cursor.atEnd then return block
    let spaced := cursor.atGap
    let joint :=
      if folds && block.first == ['\n'] && !block.spaced && !spaced then
        if block.further.isEmpty then [' '] else []
      else block.first
    let line ← takeWhile (!isBreak ·)
    let first ← takeBreak
    let (_, further) ← takeEmptyLines (some column) ((← get).rest.length + 1) 0 []
    takeBlockLines folds column steps
      ⟨block.text ++ joint ++ block.further ++ line, first, further, spaced⟩

/-- Take a block inside a given indentation. -/
def takeBlock (folds : Bool) (indent : Int) : Scan (List Char) := do
  skip 1
  let (chomping, mark) ← takeBlockMarks
  endLine
  let known := mark.map fun mark => if 0 ≤ indent then indent.toNat + mark else mark
  let (deepest, breaks) ← takeEmptyLines known ((← get).rest.length + 1) 0 []
  let column := known.getD (max deepest (max (indent + 1).toNat 1))
  let block ← takeBlockLines folds column ((← get).rest.length + 1) ⟨[], [], breaks, false⟩
  return block.text ++ (if chomping == .strip then [] else block.first) ++
    (if chomping == .keep then block.further else [])

end Scan

end DecisionFlow.Yaml
