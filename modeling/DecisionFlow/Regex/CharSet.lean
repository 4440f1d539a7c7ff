import DecisionFlow.Text.CaseMap
import DecisionFlow.Text.Blank

/-!
# Sets of characters

A pattern matches one character by a set of code points. Sets are built from ranges, general
categories and tables by the usual set operations and by closing under case variants; membership
is decided by structural recursion (`CharSet.contains`).
-/
namespace DecisionFlow.Regex

open DecisionFlow.Text

/-- A set of code points. -/
inductive CharSet where
  /-- No code point. -/
  | none
  /-- The code points from `low` to `high`. -/
  | range (low high : Nat)
  /-- The code points of some general categories. -/
  | categories (members : List Category)
  /-- The code points of a table. -/
  | table (members : RunTable)
  /-- The code points of either set. -/
  | union (left right : CharSet)
  /-- The code points of both sets. -/
  | inter (left right : CharSet)
  /-- The code points of the left set that are not in the right one. -/
  | diff (left right : CharSet)
  /-- The code points of exactly one set. -/
  | symmDiff (left right : CharSet)
  /-- The code points outside a set. -/
  | compl (members : CharSet)
  /-- The case variants of the members. -/
  | folded (members : CharSet)
  /-- The members and the other case of each ASCII letter among them. -/
  | foldedAscii (members : CharSet)

namespace CharSet

/-- The other case of an ASCII letter; any other code point itself. -/
def otherCase (code : Nat) : Nat :=
  if 0x41 ≤ code ∧ code ≤ 0x5a then code + 32
  else if 0x61 ≤ code ∧ code ≤ 0x7a then code - 32
  else code

/-- Whether a code point belongs to a set. -/
def contains : CharSet → Nat → Bool
  | .none, _ => false
  | .range low high, code => low ≤ code && code ≤ high
  | .categories members, code => members.contains (categoryOfCode code)
  | .table members, code => members.contains code
  | .union left right, code => left.contains code || right.contains code
  | .inter left right, code => left.contains code && right.contains code
  | .diff left right, code => left.contains code && !right.contains code
  | .symmDiff left right, code => left.contains code != right.contains code
  | .compl members, code => !members.contains code
  | .folded members, code => (caseVariants code).any fun variant => members.contains variant
  | .foldedAscii members, code => members.contains code || members.contains (otherCase code)

/-- The set of one character. -/
def single (c : Char) : CharSet := .range c.toNat c.toNat

/-- The union of several sets. -/
def unions (sets : List CharSet) : CharSet := sets.foldl .union .none

/-- The set of some ranges. -/
def ranges (bounds : List (Nat × Nat)) : CharSet :=
  unions (bounds.map fun (low, high) => .range low high)

/-- Everything. -/
def any : CharSet := .range 0 0x10ffff

/-- The ASCII digits. -/
def asciiDigit : CharSet := .range 0x30 0x39

/-- The ASCII letters. -/
def asciiLetter : CharSet := ranges [(0x41, 0x5a), (0x61, 0x7a)]

/-- The ASCII word characters: letters, digits and the underscore. -/
def asciiWord : CharSet := ranges [(0x30, 0x39), (0x41, 0x5a), (0x5f, 0x5f), (0x61, 0x7a)]

/-- The ASCII white space: tab, line feed, vertical tab, form feed, carriage return, space. -/
def asciiSpace : CharSet := ranges [(0x09, 0x0d), (0x20, 0x20)]

/-- The Unicode white space. -/
def space : CharSet :=
  ranges [(0x09, 0x0d), (0x20, 0x20), (0x85, 0x85), (0xa0, 0xa0), (0x1680, 0x1680),
    (0x2000, 0x200a), (0x2028, 0x2029), (0x202f, 0x202f), (0x205f, 0x205f), (0x3000, 0x3000)]

/-- The decimal digits of all scripts. -/
def digit : CharSet := .categories [.decimalDigit]

/-- The alphabetic characters of all scripts. -/
def alphabetic : CharSet :=
  .union (.categories [.upperLetter, .lowerLetter, .titleLetter, .modifierLetter, .otherLetter,
    .letterNumber]) (.table otherAlphabetic)

/-- The word characters of all scripts: alphabetic characters, marks, decimal digits, connector
punctuation and joiners. -/
def word : CharSet :=
  unions [alphabetic, .categories [.nonspacingMark, .spacingMark, .enclosingMark, .decimalDigit,
    .connectorPunctuation], .range 0x200c 0x200d]

/-- Whether a set has a code point from 128 to 255, so that as a set of bytes it would match
parts of characters. -/
def hasHighByte (set : CharSet) : Bool := (List.range 128).any fun i => set.contains (128 + i)

/-- An estimate of the memory that a set takes in a compiled pattern, in bytes. -/
def weight : CharSet → Nat
  | .none => 40
  | .range _ high => if high < 128 then 40 else 400
  | .categories members => if members.length = 1 then 6000 else 45000
  | .table _ => 6000
  | .union left right | .inter left right | .diff left right | .symmDiff left right =>
    left.weight + right.weight
  | .compl members => members.weight + 400
  | .folded members | .foldedAscii members => 2 * members.weight

end CharSet

end DecisionFlow.Regex
