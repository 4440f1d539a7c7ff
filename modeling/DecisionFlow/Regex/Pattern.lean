import DecisionFlow.Regex.CharSet

/-!
# Patterns and matching

A pattern denotes a relation between the positions of a text: from where a match starts to where
it ends. Matching follows that reading directly. A set of positions of a text of `n` characters is
a natural number whose bit `i` stands for position `i`, and a pattern maps the set of starts to
the set of ends (`Route.ends`). No position is tried twice within one repetition, so the work is
polynomial in the length of the text for every pattern.
-/
namespace DecisionFlow.Regex

/-- A condition on the characters around a position. -/
inductive Look where
  /-- At the start of the text. -/
  | textStart
  /-- At the end of the text. -/
  | textEnd
  /-- At the start of a line; with `crlf`, lines end in any of the three usual ways. -/
  | lineStart (crlf : Bool)
  /-- At the end of a line; with `crlf`, lines end in any of the three usual ways. -/
  | lineEnd (crlf : Bool)
  /-- Between a word character and another character or an end of the text. -/
  | wordBoundary (word : CharSet)
  /-- Not at a word boundary. -/
  | notWordBoundary (word : CharSet)
  /-- Before a word character and not after one. -/
  | wordStart (word : CharSet)
  /-- After a word character and not before one. -/
  | wordEnd (word : CharSet)
  /-- Not after a word character. -/
  | wordStartHalf (word : CharSet)
  /-- Not before a word character. -/
  | wordEndHalf (word : CharSet)

/-- Whether an optional character is in a set. -/
def inSet (set : CharSet) : Option Char → Bool
  | some c => set.contains c.toNat
  | none => false

/-- Whether a condition holds between two neighbouring characters. -/
def Look.holds (look : Look) (before after : Option Char) : Bool :=
  match look with
  | .textStart => before.isNone
  | .textEnd => after.isNone
  | .lineStart false => before.isNone || before == some '\n'
  | .lineStart true =>
    before.isNone || before == some '\n' || (before == some '\r' && after != some '\n')
  | .lineEnd false => after.isNone || after == some '\n'
  | .lineEnd true =>
    after.isNone || after == some '\r' || (after == some '\n' && before != some '\r')
  | .wordBoundary word => inSet word before != inSet word after
  | .notWordBoundary word => inSet word before == inSet word after
  | .wordStart word => !inSet word before && inSet word after
  | .wordEnd word => inSet word before && !inSet word after
  | .wordStartHalf word => !inSet word before
  | .wordEndHalf word => !inSet word after

/-- A regular expression. -/
inductive Pattern where
  /-- The empty match. -/
  | empty
  /-- One character of a set. -/
  | set (members : CharSet)
  /-- A condition at a position. -/
  | look (condition : Look)
  /-- One match after another. -/
  | concat (first second : Pattern)
  /-- Either match. -/
  | alternate (left right : Pattern)
  /-- At least `least` and, with a bound, at most `most` matches in a row. -/
  | repeated (body : Pattern) (least : Nat) (most : Option Nat)

/-- A pattern laid over a text: each leaf is the set of positions where it applies. -/
inductive Route where
  /-- Stay at a position. -/
  | stay
  /-- Move one character on, from the given positions. -/
  | advance (positions : Nat)
  /-- Stay, at the given positions. -/
  | keep (positions : Nat)
  /-- One route after another. -/
  | both (first second : Route)
  /-- Either route. -/
  | either (left right : Route)
  /-- A route at least `least` and, with a bound, at most `most` times. -/
  | repeated (body : Route) (least : Nat) (most : Option Nat)

/-- The positions of a text whose character is in a set. -/
def charPositions (set : CharSet) : List Char → Nat
  | [] => 0
  | c :: rest => (if set.contains c.toNat then 1 else 0) + 2 * charPositions set rest

/-- The positions of a text, after a given character, at which a condition holds. -/
def lookPositions (look : Look) (before : Option Char) : List Char → Nat
  | [] => if look.holds before none then 1 else 0
  | c :: rest =>
    (if look.holds before (some c) then 1 else 0) + 2 * lookPositions look (some c) rest

/-- Lay a pattern over a text. -/
def Pattern.over (text : List Char) : Pattern → Route
  | .empty => .stay
  | .set members => .advance (charPositions members text)
  | .look condition => .keep (lookPositions condition none text)
  | .concat first second => .both (first.over text) (second.over text)
  | .alternate left right => .either (left.over text) (right.over text)
  | .repeated body least most => .repeated (body.over text) least most

/-- Apply a step a number of times, stopping early at the empty set. -/
def iterate (step : Nat → Nat) : Nat → Nat → Nat
  | 0, positions => positions
  | times + 1, positions => if positions = 0 then 0 else iterate step times (step positions)

/-- All positions that a step reaches from the positions seen in at most the given number of
times; `fresh` holds the positions reached last. -/
def reach (step : Nat → Nat) : Nat → Nat → Nat → Nat
  | 0, seen, _ => seen
  | times + 1, seen, fresh =>
    let next := step fresh
    let new := next ^^^ (next &&& seen)
    if new = 0 then seen else reach step times (seen ||| new) new

/-- The ends of the matches that start at the given positions, in a text with at most `size`
positions. -/
def Route.ends (size : Nat) : Route → Nat → Nat
  | .stay, starts => starts
  | .advance positions, starts => (starts &&& positions) <<< 1
  | .keep positions, starts => starts &&& positions
  | .both first second, starts => second.ends size (first.ends size starts)
  | .either left right, starts => left.ends size starts ||| right.ends size starts
  | .repeated body least most, starts =>
    let required := iterate (body.ends size) least starts
    reach (body.ends size) ((most.map (· - least)).getD size) required required

/-- Whether a pattern matches somewhere in a text. -/
def Pattern.matchesIn (pattern : Pattern) (text : List Char) : Bool :=
  let size := text.length + 1
  (pattern.over text).ends size (1 <<< size - 1) != 0

end DecisionFlow.Regex
