import DecisionFlow.Text.Blank
import DecisionFlow.Text.Property

/-!
# Statements

A predicate may be written as a statement: introduced by the word `return` and closed by a
semicolon. Both are optional and are taken off, with the white space around them, before the
expression is read.
-/
namespace DecisionFlow.Source

open DecisionFlow.Text

/-- Whether a character continues a name. -/
def isNameChar (c : Char) : Bool := isAlphanumeric c || c == '_'

/-- Whether a text starts with a character that continues a name. -/
def startsInName : List Char → Bool
  | c :: _ => isNameChar c
  | [] => false

/-- What follows a word at the start of a text. -/
def afterWord? (word text : List Char) : Option (List Char) :=
  if word.isPrefixOf text then some (text.drop word.length) else none

/-- What follows a keyword at the start of a text; a keyword does not run on into a name. -/
def afterKeyword? (word text : List Char) : Option (List Char) :=
  match afterWord? word text with
  | some rest => if startsInName rest then none else some rest
  | none => none

/-- A text without one semicolon at its end and the white space before it. -/
def dropSemicolon (text : List Char) : List Char :=
  match text.reverse with
  | ';' :: before => trimEnd before.reverse
  | _ => text

/-- The expression of a statement, and whether the statement is introduced by `return`. -/
def splitStatement (source : List Char) : List Char × Bool :=
  let body := dropSemicolon (trim source)
  match afterKeyword? "return".toList body with
  | some rest => (trimStart rest, true)
  | none => (body, false)

/-- Whether a source is introduced by `return`. -/
def hasReturn (source : String) : Bool := (splitStatement source.toList).2

end DecisionFlow.Source
