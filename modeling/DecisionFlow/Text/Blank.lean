/-!
# White space

Two sets of white space matter. `isBlank` is the white space between the tokens of a predicate:
space, tab, carriage return and line feed. `isWhiteSpace` is the Unicode property, which decides
what is trimmed from the ends of a text.
-/
namespace DecisionFlow.Text

/-- What holds of the characters of a list is decided along the list, not over all characters. -/
instance (priority := 1100) decidableListed {p : Char → Prop} [DecidablePred p]
    (chars : List Char) : Decidable (∀ c ∈ chars, p c) :=
  List.decidableBAll p chars

/-- What holds of a character that may be there is decided for it, not over all characters. -/
instance (priority := 1100) decidableFound {p : Char → Prop} [DecidablePred p]
    (found : Option Char) : Decidable (∀ c ∈ found, p c) :=
  Option.decidableForallMem found

/-- White space between tokens: space, tab, carriage return and line feed. -/
def isBlank (c : Char) : Bool := c == ' ' || c == '\t' || c == '\r' || c == '\n'

/-- The characters of the Unicode property of white space. -/
def isWhiteSpace (c : Char) : Bool :=
  let code := c.toNat
  (0x09 ≤ code && code ≤ 0x0d) || code == 0x20 || code == 0x85 || code == 0xa0 ||
    code == 0x1680 || (0x2000 ≤ code && code ≤ 0x200a) || code == 0x2028 || code == 0x2029 ||
    code == 0x202f || code == 0x205f || code == 0x3000

/-- Token white space is white space. -/
theorem isWhiteSpace_of_isBlank {c : Char} (blank : isBlank c = true) : isWhiteSpace c = true := by
  simp only [isBlank, Bool.or_eq_true, beq_iff_eq] at blank
  rcases blank with ((rfl | rfl) | rfl) | rfl <;> decide

/-- A text without its leading token white space. -/
def skipBlank (text : List Char) : List Char := text.dropWhile isBlank

/-- What remains starts with no token white space. -/
theorem isBlank_head_skipBlank {text rest : List Char} {c : Char}
    (skipped : skipBlank text = c :: rest) : isBlank c = false := by
  have head := List.head?_dropWhile_not isBlank text
  rw [show text.dropWhile isBlank = c :: rest from skipped] at head
  simpa using head

/-- A text without leading white space. -/
def trimStart (text : List Char) : List Char := text.dropWhile isWhiteSpace

/-- A text without trailing white space. -/
def trimEnd (text : List Char) : List Char := (text.reverse.dropWhile isWhiteSpace).reverse

/-- A text without white space at either end. -/
def trim (text : List Char) : List Char := trimEnd (trimStart text)

/-- A string without white space at either end. -/
def trimmed (text : String) : String := String.ofList (trim text.toList)

end DecisionFlow.Text
