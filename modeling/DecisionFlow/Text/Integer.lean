import DecisionFlow.Text.Digits

/-!
# Decimal text of 64-bit integers

An integer is read from an optional sign and one or more ASCII digits. A failure names its
cause: no text, a character that is no digit, or a magnitude outside the 64-bit range, whichever
comes first from the left. Main statement: the text of an integer reads back as the integer
(`readInt64_writeInt64`).
-/
namespace DecisionFlow.Text

/-- Why a text is not a 64-bit integer. -/
inductive IntegerError where
  /-- There is no text. -/
  | empty
  /-- A character is no digit, or a sign stands alone. -/
  | invalidDigit
  /-- The integer is above the range. -/
  | tooLarge
  /-- The integer is below the range. -/
  | tooSmall
deriving DecidableEq, Repr

/-- The wording of an integer error. -/
def IntegerError.message : IntegerError → String
  | .empty => "cannot parse integer from empty string"
  | .invalidDigit => "invalid digit found in string"
  | .tooLarge => "number too large to fit in target type"
  | .tooSmall => "number too small to fit in target type"

/-- Read the digits of a magnitude after those already read, up to a limit; passing the limit is
the given error. -/
def readMagnitude (limit : Nat) (overflow : IntegerError) :
    Nat → List Char → Except IntegerError Nat
  | value, [] => .ok value
  | value, c :: rest =>
    if c.isDigit then
      let next := value * 10 + digitValue c
      if next ≤ limit then readMagnitude limit overflow next rest else .error overflow
    else .error .invalidDigit

/-- Read a 64-bit integer: an optional sign, then one or more digits. -/
def readInt64 : List Char → Except IntegerError Int64
  | [] => .error .empty
  | ['+'] => .error .invalidDigit
  | ['-'] => .error .invalidDigit
  | '+' :: digits => do
    return Int64.ofInt (← readMagnitude 0x7fffffffffffffff .tooLarge 0 digits)
  | '-' :: digits => do
    return Int64.ofInt (-(← readMagnitude 0x8000000000000000 .tooSmall 0 digits : Nat))
  | digits => do
    return Int64.ofInt (← readMagnitude 0x7fffffffffffffff .tooLarge 0 digits)

/-- The decimal digits of a natural number. -/
def writeNat (n : Nat) : List Char := Nat.toDigits 10 n

/-- The decimal text of an integer. -/
def writeInt (n : Int) : List Char :=
  if n < 0 then '-' :: writeNat n.natAbs else writeNat n.natAbs

/-- The decimal text of a 64-bit integer. -/
def writeInt64 (n : Int64) : List Char := writeInt n.toInt

/-- The decimal text of a 64-bit integer as a string. -/
def integerText (n : Int64) : String := String.ofList (writeInt64 n)

/-- The decimal digits of a number are digits. -/
theorem isDigit_of_mem_writeNat {n : Nat} {c : Char} (member : c ∈ writeNat n) :
    c.isDigit = true :=
  Nat.isDigit_of_mem_toDigits (by decide) (by decide) member

/-- A number has a first digit. -/
theorem writeNat_cons (n : Nat) : ∃ c rest, writeNat n = c :: rest ∧ c.isDigit = true := by
  cases written : writeNat n with
  | nil => exact absurd written Nat.toDigits_ne_nil
  | cons c rest =>
    exact ⟨c, rest, rfl, isDigit_of_mem_writeNat (written ▸ List.mem_cons_self)⟩

/-- Digits whose value stays within the limit are read as it. -/
theorem readMagnitude_digits (limit : Nat) (overflow : IntegerError) (digits : List Char)
    (start : Nat) (all_digits : ∀ c ∈ digits, c.isDigit)
    (fits : digits.foldl (fun value c => value * 10 + digitValue c) start ≤ limit) :
    readMagnitude limit overflow start digits =
      .ok (digits.foldl (fun value c => value * 10 + digitValue c) start) := by
  induction digits generalizing start with
  | nil => rfl
  | cons c rest ih =>
    rw [List.foldl_cons] at fits
    rw [readMagnitude, if_pos (all_digits c List.mem_cons_self), List.foldl_cons]
    dsimp only
    rw [if_pos (Nat.le_trans (le_foldl_digits rest _) fits)]
    exact ih _ (fun d member => all_digits d (List.mem_cons_of_mem c member)) fits

/-- The digits of a number within the limit are read as it. -/
theorem readMagnitude_writeNat (limit : Nat) (overflow : IntegerError) (n : Nat)
    (fits : n ≤ limit) : readMagnitude limit overflow 0 (writeNat n) = .ok n := by
  have value := digitsValue_toDigits n
  have read := readMagnitude_digits limit overflow (writeNat n) 0
    (fun c member => isDigit_of_mem_writeNat member)
    (by rw [← digitsValue]; rw [writeNat, value]; exact fits)
  exact read.trans (congrArg Except.ok value)

/-- A text that starts with a digit is read as a magnitude without sign. -/
theorem readInt64_digits (c : Char) (rest : List Char) (digit : c.isDigit) :
    readInt64 (c :: rest) = (do
      return Int64.ofInt (← readMagnitude 0x7fffffffffffffff .tooLarge 0 (c :: rest))) := by
  have plus : c ≠ '+' := by rintro rfl; exact absurd digit (by decide)
  have minus : c ≠ '-' := by rintro rfl; exact absurd digit (by decide)
  simp [readInt64, plus, minus]

/-- The text of a 64-bit integer reads back as the integer. -/
theorem readInt64_writeInt64 (n : Int64) : readInt64 (writeInt64 n) = .ok n := by
  have low := n.le_toInt
  have high := n.toInt_lt
  obtain ⟨c, rest, written, digit⟩ := writeNat_cons n.toInt.natAbs
  unfold writeInt64 writeInt
  split
  · rename_i negative
    have read := readMagnitude_writeNat 0x8000000000000000 .tooSmall n.toInt.natAbs (by omega)
    rw [written] at read ⊢
    have value : -(n.toInt.natAbs : Int) = n.toInt := by omega
    simp only [readInt64, read]
    exact congrArg Except.ok ((congrArg Int64.ofInt value).trans n.ofInt_toInt)
  · rename_i nonnegative
    have read := readMagnitude_writeNat 0x7fffffffffffffff .tooLarge n.toInt.natAbs (by omega)
    rw [written] at read ⊢
    have value : (n.toInt.natAbs : Int) = n.toInt := by omega
    rw [readInt64_digits c rest digit, read]
    exact congrArg Except.ok ((congrArg Int64.ofInt value).trans n.ofInt_toInt)

end DecisionFlow.Text
