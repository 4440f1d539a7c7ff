import DecisionFlow.Text.Blank

/-!
# Tables of code point runs

A set of code points is stored as the increasing list of the code points at which membership
changes, starting outside the set. Such a list is written as text: the gaps between successive
changes in hexadecimal, separated by commas; blanks between them are ignored. A code point is in
the set when the number of changes at or below it is odd.
-/
namespace DecisionFlow.Text

/-- The value of a hexadecimal digit; zero for any other character. -/
def hexValue (c : Char) : Nat :=
  if c.isDigit then c.toNat - '0'.toNat
  else if 'a' ≤ c ∧ c ≤ 'f' then c.toNat - 'a'.toNat + 10
  else if 'A' ≤ c ∧ c ≤ 'F' then c.toNat - 'A'.toNat + 10
  else 0

/-- The least index in `[low, low + width]` from which on all entries of a sorted array exceed
the key, found by halving. -/
def countAtMostIn (entries : Array Nat) (key low width : Nat) : Nat :=
  if width = 0 then low
  else
    let half := width / 2
    match entries[low + half]? with
    | none => countAtMostIn entries key low half
    | some entry =>
      if entry ≤ key then countAtMostIn entries key (low + half + 1) (width - half - 1)
      else countAtMostIn entries key low half
termination_by width
decreasing_by all_goals omega

/-- How many entries of a sorted array are at most the key. -/
def countAtMost (entries : Array Nat) (key : Nat) : Nat :=
  countAtMostIn entries key 0 entries.size

/-- A set of code points as the increasing list of its membership changes. -/
structure RunTable where
  /-- Code points at which membership changes. -/
  changes : Array Nat
deriving Inhabited

namespace RunTable

/-- What has been read of a text of gaps: the changes so far, the last change and the gap in
progress. -/
structure Reader where
  /-- The changes of the finished gaps. -/
  changes : Array Nat
  /-- The last change. -/
  last : Nat
  /-- The gap in progress. -/
  gap : Nat

/-- Read one more character of a text of gaps. -/
def Reader.step (reader : Reader) (c : Char) : Reader :=
  if c = ',' then
    { changes := reader.changes.push (reader.last + reader.gap)
      last := reader.last + reader.gap
      gap := 0 }
  else if isBlank c then reader
  else { reader with gap := reader.gap * 16 + hexValue c }

/-- The table of a text of gaps. -/
def ofGaps (text : String) : RunTable :=
  let reader := text.toList.foldl Reader.step ⟨#[], 0, 0⟩
  ⟨reader.changes.push (reader.last + reader.gap)⟩

/-- Whether a code point is in the set. -/
def contains (table : RunTable) (code : Nat) : Bool :=
  countAtMost table.changes code % 2 == 1

end RunTable

end DecisionFlow.Text
