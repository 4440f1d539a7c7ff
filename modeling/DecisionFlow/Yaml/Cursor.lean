/-!
# Cursors in YAML text

YAML is read with an eye on lines and columns. A cursor is a place in a text: what follows it,
how many characters precede it, and its line and column. `Scan` is a computation that moves a
cursor and may fail.
-/
namespace DecisionFlow.Yaml

/-- A space or a tab. -/
def isGap (c : Char) : Bool := c == ' ' || c == '\t'

/-- A character that breaks a line: carriage return, line feed, next line, line separator and
paragraph separator. -/
def isBreak (c : Char) : Bool :=
  c == '\r' || c == '\n' || c == '\u0085' || c == '\u2028' || c == '\u2029'

/-- A character that may stand in a text at all. -/
def isAllowed (c : Char) : Bool :=
  c == '\t' || c == '\n' || c == '\r' || (' ' ≤ c && c ≤ '~') || c == '\u0085' ||
    ('\u00a0' ≤ c && c != '\ufffe' && c != '\uffff')

/-- A place in a text. -/
structure Cursor where
  /-- What follows. -/
  rest : List Char
  /-- How many characters precede. -/
  index : Nat
  /-- How many line breaks precede. -/
  line : Nat
  /-- How many characters precede on the line. -/
  column : Nat
deriving DecidableEq, Repr

namespace Cursor

/-- The start of a text. -/
def start (text : List Char) : Cursor := ⟨text, 0, 0, 0⟩

/-- The character some places ahead. -/
def peek (cursor : Cursor) (ahead : Nat) : Option Char := cursor.rest[ahead]?

/-- Whether a character comes next. -/
def sees (cursor : Cursor) (c : Char) : Bool := cursor.rest.head? == some c

/-- Whether the text ends here. -/
def atEnd (cursor : Cursor) : Bool := cursor.rest.isEmpty

/-- Whether a space or tab comes next. -/
def atGap (cursor : Cursor) : Bool := cursor.rest.head?.any isGap

/-- Whether a line break comes next. -/
def atBreak (cursor : Cursor) : Bool := cursor.rest.head?.any isBreak

/-- Whether the line ends here, with a break or the text. -/
def atLineEnd (cursor : Cursor) : Bool := cursor.rest.head?.all isBreak

/-- Whether no word goes on some places ahead: a space, a tab, a line break or the end is there. -/
def wordEnds (cursor : Cursor) (ahead : Nat) : Bool :=
  (cursor.peek ahead).all fun c => isGap c || isBreak c

/-- Whether a marker that starts or ends a document is here: three hyphens or dots at the start
of a line, as a word of their own. -/
def atMarker (cursor : Cursor) (c : Char) : Bool :=
  cursor.column == 0 && cursor.rest.take 3 == [c, c, c] && cursor.wordEnds 3

/-- Move over some characters of a line. -/
def advance (cursor : Cursor) (count : Nat) : Cursor :=
  { cursor with
    rest := cursor.rest.drop count
    index := cursor.index + count
    column := cursor.column + count }

end Cursor

/-- A computation that moves a cursor and may fail. -/
abbrev Scan := StateT Cursor Option

namespace Scan

/-- Move over some characters of a line. -/
def skip (count : Nat) : Scan Unit := modify (·.advance count)

/-- Move over a character that has to come next. -/
def expect (c : Char) : Scan Unit := do
  guard ((← get).sees c)
  skip 1

/-- Move over a character when it comes next. -/
def accept (c : Char) : Scan Bool := do
  if (← get).sees c then
    skip 1
    return true
  else return false

/-- Take the characters of a line that satisfy a test. -/
def takeWhile (test : Char → Bool) : Scan (List Char) := do
  let taken := (← get).rest.takeWhile test
  skip taken.length
  return taken

/-- Move over spaces and tabs. -/
def skipGap : Scan Unit := do
  let _ ← takeWhile isGap

/-- Take a line break, if one comes next. Line and paragraph separators stand for themselves, all
others for a line feed. -/
def takeBreak : Scan (List Char) := do
  let cursor ← get
  let next (count : Nat) : Cursor :=
    { rest := cursor.rest.drop count
      index := cursor.index + count
      line := cursor.line + 1
      column := 0 }
  match cursor.rest with
  | '\r' :: '\n' :: _ =>
    set (next 2)
    return ['\n']
  | c :: _ =>
    if isBreak c then
      set (next 1)
      return if c == '\u2028' || c == '\u2029' then [c] else ['\n']
    else return []
  | [] => return []

/-- Move to the end of a line over spaces, tabs and a comment, and over the line break. Nothing
else may be there. -/
def endLine : Scan Unit := do
  skipGap
  if (← get).sees '#' then
    let _ ← takeWhile (!isBreak ·)
  guard (← get).atLineEnd
  let _ ← takeBreak

end Scan

end DecisionFlow.Yaml
