import DecisionFlow.Text.Category

/-!
# Character properties

The character properties that the library asks for, each from its Unicode definition: the
general categories that have it and a table of the further characters listed for it. For the
first 128 characters the properties are the usual ones of letters and digits
(`isAlphanumeric_ascii`), so no table is read for them.
-/
namespace DecisionFlow.Text

/-- Alphabetic characters that are neither letters nor letter numbers. -/
def otherAlphabetic : RunTable := .ofGaps
  "345,1,26a,e,1,1,1,2,1,2,1,1,48,b,30,d,1,7,10,1,65,7,4,4,2,2,4,1,23,1,1e,10,66,b,65,2,3,9,1,3,
   1,4,6a,1,3c,c,3,7,6,14,36,2,2,f,1,2,5,3,a,2,1d,3,3a,7,2,2,2,2,a,1,a,2,1d,3,3a,5,4,2,2,2,4,1,
   1e,2,3,1,b,3,3a,8,1,3,1,2,15,2,16,3,4,3,3a,7,2,2,2,2,9,2,a,2,1e,1,3b,5,3,3,1,3,a,1,28,5,39,7,
   1,3,1,3,8,2,b,2,1d,3,3a,7,1,3,1,3,8,2,b,2,f,1,c,4,3a,7,1,3,1,3,a,1,a,2,1d,3,4b,6,1,1,1,8,12,2,
   3d,1,2,7,12,1,63,1,2,6,1,2,10,1,a3,13,9,b,1,24,6e,c,1,1,2,4,17,4,4,3,1,3,2,7,3,4,d,c,1,1,a,4,
   674,2,1e,2,1e,2,1e,2,42,13,bc,2,22,1,76,c,4,9,de,5,39,a,2,14,4a,2,b,3,31,5,30,f,3c,3,1e,9,2,2,
   39,b,32,13,1b0,e,6c1,34,8f6,20,7874,8,22,2,162,1,8,1,17,5,58,2,32,10,1,1,39,1,26,5,1c,c,2d,4,
   30,c,25,1,43,e,c,1,8,2,2d,3,32,1,1,3,2,2,5,1,2c,5,5,1,ed,8,4f33,1,857,5,686,3,1,2,5,4,314,4,
   41,1,141,2,4f,1,103,3,35,e,2d,2,b,3,2d,9,9,1,3d,3,24,c,12,2,39,3,30,d,e,2,5c,9,2,1,6,1,2,1,9d,
   a,17,4,3a,7,2,2,2,2,a,1,a,2,54,9,1,1,2,1,1,4,1,2,67,d,1,3,6a,12,ed,7,2,7,1d,2,52,f,1,1,6a,b,
   67,e,101,d,f7,6,1,2,2,2,3,1,1,1,8e,7,2,6,4,1,1c,a,2a,5,1,4,12,b,2e,e,197,8,1,7,53,16,1,e,7a,6,
   3,1,1,2,1,3,1,1,3,1,42,5,1,2,1,4,15c,4,9,2,1,1,30,7,3,3,41dd,11,e20,1,1,37,7,4,5d,2,4cac,1,
   2361,7,1,11,2,7,1,2,1,5,64,1,8b7,1,7e8,1a,6,1a,6,1a"

/-- Lower-case characters outside the category of lower-case letters. -/
def otherLowercase : RunTable := .ofGaps
  "aa,1,f,1,1f5,9,7,2,1e,5,60,1,34,1,d81,1,c2f,3f,d,1,22,25,2b1,1,d,1,10,d,d3,10,350,1a,792,2,
   7a1e,2,d2,1,81,3,3,2,362,4,9,1,5c16,1,2,3,1,2a,1,9,d875,3e"

/-- Upper-case characters outside the category of upper-case letters. -/
def otherUppercase : RunTable := .ofGaps
  "2160,10,346,1a,1cc60,1a,6,1a,6,1a"

/-- Characters that extend a grapheme and are not nonspacing or enclosing marks. -/
def otherGraphemeExtend : RunTable := .ofGaps
  "9be,1,18,1,166,1,18,1,66,1,18,1,e8,1,1,1,4,2,1,2,9,2,67,1,18,1,77,1,f,1,935,1,1e,1,400,1,5,1,
   1,1,5,2,65,1,47,2,418,1,1021,2,7923,1,6c,1,55dd,2,1220,1,74,1,108,1,e,1,9,1,60,1,9,1,2,1,1,4,
   4,1,e0,1,c,1,f1,1,106,1,279,1,c,1,603,1,50ae,2,6173,1,8,5,c2ead,60"

/-- Case-ignorable characters that are not marks, formats or modifiers: word-inner punctuation. -/
def otherCaseIgnorable : RunTable := .ofGaps
  "27,1,6,1,b,1,7c,1,2cf,1,1d7,1,94,1,1a23,2,a,1,2,1,ddeb,1,3e,1,2,1,b1,1,6,1,b,1"

/-- Alphabetic: a letter, a letter number or a further character listed as alphabetic. -/
def isAlphabetic (c : Char) : Bool :=
  if c.toNat < 128 then c.isAlpha
  else match category c with
    | .upperLetter | .lowerLetter | .titleLetter | .modifierLetter | .otherLetter
    | .letterNumber => true
    | _ => otherAlphabetic.contains c.toNat

/-- Numeric: a decimal digit, a letter number or another number. -/
def isNumeric (c : Char) : Bool :=
  if c.toNat < 128 then c.isDigit
  else match category c with
    | .decimalDigit | .letterNumber | .otherNumber => true
    | _ => false

/-- Alphabetic or numeric. White space is neither, and the tables are not read for it. -/
def isAlphanumeric (c : Char) : Bool := !isWhiteSpace c && (isAlphabetic c || isNumeric c)

/-- The digits by their code points. -/
theorem isDigit_iff {c : Char} : c.isDigit = true ↔ 48 ≤ c.toNat ∧ c.toNat ≤ 57 := by
  change (decide (48 ≤ c.toNat) && decide (c.toNat ≤ 57)) = true ↔ _
  rw [Bool.and_eq_true, decide_eq_true_eq, decide_eq_true_eq]

/-- The letters by their code points. -/
theorem isAlpha_iff {c : Char} :
    c.isAlpha = true ↔
      (65 ≤ c.toNat ∧ c.toNat ≤ 90) ∨ (97 ≤ c.toNat ∧ c.toNat ≤ 122) := by
  change (decide (65 ≤ c.toNat ∧ c.toNat ≤ 90) ||
    decide (97 ≤ c.toNat) && decide (c.toNat ≤ 122)) = true ↔ _
  simp only [Bool.or_eq_true, Bool.and_eq_true, decide_eq_true_eq]

/-- No letter or digit of the first 128 characters is white space. -/
theorem isWhiteSpace_ascii {c : Char} (letter : (c.isAlpha || c.isDigit) = true) :
    isWhiteSpace c = false := by
  rw [Bool.or_eq_true, isAlpha_iff, isDigit_iff] at letter
  rw [Bool.eq_false_iff]
  intro white
  simp only [isWhiteSpace, Bool.or_eq_true, Bool.and_eq_true, decide_eq_true_eq,
    beq_iff_eq] at white
  omega

/-- Below 128 the alphanumeric characters are the letters and digits. -/
theorem isAlphanumeric_ascii {c : Char} (small : c.toNat < 128) :
    isAlphanumeric c = (c.isAlpha || c.isDigit) := by
  simp only [isAlphanumeric, isAlphabetic, isNumeric, small, if_true]
  cases letter : c.isAlpha || c.isDigit with
  | true => rw [isWhiteSpace_ascii letter]; rfl
  | false => exact Bool.and_false _

/-- Letters are among the first 128 characters. -/
theorem toNat_lt_of_isAlpha {c : Char} (letter : c.isAlpha = true) : c.toNat < 128 := by
  rw [isAlpha_iff] at letter
  omega

/-- Lower case: a lower-case letter or a further character listed as lower case. -/
def isLowercase (c : Char) : Bool :=
  if c.toNat < 128 then c.isLower
  else category c == .lowerLetter || otherLowercase.contains c.toNat

/-- Upper case: an upper-case letter or a further character listed as upper case. -/
def isUppercase (c : Char) : Bool :=
  if c.toNat < 128 then c.isUpper
  else category c == .upperLetter || otherUppercase.contains c.toNat

/-- Cased: lower case, upper case or title case. -/
def isCased (c : Char) : Bool :=
  isLowercase c || isUppercase c || category c == .titleLetter

/-- Case ignorable: transparent when the cased characters around a character are sought. -/
def isCaseIgnorable (c : Char) : Bool :=
  match category c with
  | .nonspacingMark | .enclosingMark | .format | .modifierLetter | .modifierSymbol => true
  | _ => otherCaseIgnorable.contains c.toNat

/-- Extends the grapheme before it. -/
def isGraphemeExtend (c : Char) : Bool :=
  if c.toNat < 128 then false
  else match category c with
    | .nonspacingMark | .enclosingMark => true
    | _ => otherGraphemeExtend.contains c.toNat

/-- Printable: the plain space, or a character that is no separator, control, format character,
surrogate, private-use or unassigned code point. -/
def isPrintable (c : Char) : Bool :=
  if c.toNat < 128 then 0x20 ≤ c.toNat && c.toNat < 0x7f
  else match category c with
    | .spaceSeparator | .lineSeparator | .paragraphSeparator | .control | .format | .surrogate
    | .privateUse | .unassigned => false
    | _ => true

end DecisionFlow.Text
