/-!
# Nesting of sources

Before a source is read it is scanned once for the depth of its nesting, so that a hostile source
is refused early. Every open bracket counts until a closing one, and every question mark counts
to the end of the source. Characters inside text literals do not count; a backslash in a text
literal takes the next character with it.
-/
namespace DecisionFlow.Source

/-- The deepest nesting of a source. -/
def nestingLimit : Nat := 32

/-- Where the scan stands with regard to text literals. -/
inductive QuoteState where
  /-- Outside text literals. -/
  | outside
  /-- Inside a text literal with the given quote. -/
  | inside (quote : Char)
  /-- After a backslash inside a text literal with the given quote. -/
  | escaped (quote : Char)
deriving DecidableEq, Repr

/-- The state of the scan. -/
structure Scan where
  /-- Open brackets. -/
  brackets : Nat := 0
  /-- Question marks so far. -/
  ternaries : Nat := 0
  /-- The state with regard to text literals. -/
  quote : QuoteState := .outside
deriving DecidableEq, Repr

namespace Scan

/-- Scan one character. A closing bracket without an open one counts nothing. -/
def step (scan : Scan) (c : Char) : Scan :=
  match scan.quote with
  | .escaped quote => { scan with quote := .inside quote }
  | .inside quote =>
    if c = '\\' then { scan with quote := .escaped quote }
    else if c = quote then { scan with quote := .outside }
    else scan
  | .outside =>
    if c = '"' ∨ c = '\'' then { scan with quote := .inside c }
    else if c = '(' ∨ c = '[' ∨ c = '\x7b' then { scan with brackets := scan.brackets + 1 }
    else if c = ')' ∨ c = ']' ∨ c = '\x7d' then { scan with brackets := scan.brackets - 1 }
    else if c = '?' then { scan with ternaries := scan.ternaries + 1 }
    else scan

/-- Scan a text. -/
def run (scan : Scan) (text : List Char) : Scan := text.foldl step scan

/-- Whether the nesting stays within a limit along a text. -/
def staysWithin (limit : Nat) (scan : Scan) : List Char → Bool
  | [] => true
  | c :: rest =>
    let next := scan.step c
    next.brackets + next.ternaries ≤ limit && staysWithin limit next rest

end Scan

/-- Whether a text nests no deeper than allowed. -/
def nestingAllowed (text : List Char) : Bool := ({} : Scan).staysWithin nestingLimit text

end DecisionFlow.Source
