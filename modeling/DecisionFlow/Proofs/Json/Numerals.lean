import DecisionFlow.Json.Reader
import DecisionFlow.Json.Writer
import DecisionFlow.Proofs.Source.Printed

/-!
# Numbers in JSON text

A text spells a number when it is one numeral and the numeral has the number as its tree
(`Spells`). What a text spells is read in front of every rest that does not go on with the
numeral (`Spells.read`). Integers of 64 bits are spelt by their decimal texts (`spells_int`).
-/
namespace DecisionFlow.Json

open DecisionFlow.Text DecisionFlow.Source

/-- Whether a character may go on with a numeral. -/
def continuesNumeral (c : Char) : Bool := c.isDigit || c == '.' || c == 'e' || c == 'E'

/-- A rest in front of which a numeral ends. -/
def EndsNumeral (rest : List Char) : Prop := ∀ c ∈ rest.head?, continuesNumeral c = false

/-- A numeral ends in front of any other character. -/
theorem endsNumeral_cons {c : Char} (stops : continuesNumeral c = false) (rest : List Char) :
    EndsNumeral (c :: rest) := by
  intro d first
  cases first
  exact stops

/-- No digit follows where a numeral ends. -/
theorem EndsNumeral.isDigit {rest : List Char} (ended : EndsNumeral rest) :
    ∀ c ∈ rest.head?, c.isDigit = false := by
  intro c first
  have stops := ended c first
  simp only [continuesNumeral, Bool.or_eq_false_iff] at stops
  exact stops.1.1.1

/-- Digits are read as they are in front of a rest. -/
theorem readDigits_append {text digits left rest : List Char} (ended : EndsNumeral rest)
    (read : readDigits text = some (digits, left)) :
    readDigits (text ++ rest) = some (digits, left ++ rest) := by
  obtain ⟨taken, dropped⟩ := span_append_of_stops ended.isDigit text
  unfold readDigits at read ⊢
  rw [taken, dropped]
  split at read
  · contradiction
  · cases read
    rfl

/-- A fraction is read as it is in front of a rest. -/
theorem readFraction_append {text fraction left rest : List Char} (ended : EndsNumeral rest)
    (read : readFraction text = some (fraction, left)) :
    readFraction (text ++ rest) = some (fraction, left ++ rest) := by
  unfold readFraction at read
  split at read
  · exact readDigits_append ended read
  · rename_i noPoint
    cases read
    unfold readFraction
    split
    · rename_i same
      cases text with
      | nil =>
        rw [List.nil_append] at same
        subst same
        exact absurd (ended '.' rfl) (by decide)
      | cons c text =>
        cases same
        exact absurd rfl (noPoint text)
    · rfl

/-- The sign of an exponent, with what follows it. -/
def exponentSign : List Char → Bool × List Char
  | '-' :: rest => (true, rest)
  | '+' :: rest => (false, rest)
  | rest => (false, rest)

/-- What an exponent mark announces: a sign and digits. -/
theorem readExponent_mark {e : Char} (mark : (e == 'e' || e == 'E') = true) (text : List Char) :
    readExponent (e :: text) = (readDigits (exponentSign text).2).map fun (digits, rest) =>
      (some ((exponentSign text).1, digits), rest) := by
  simp only [readExponent, mark, ↓reduceIte, Option.map_eq_bind]
  rfl

/-- An exponent is read as it is in front of a rest. -/
theorem readExponent_append {text left rest : List Char} {exponent : Option (Bool × List Char)}
    (ended : EndsNumeral rest) (read : readExponent text = some (exponent, left)) :
    readExponent (text ++ rest) = some (exponent, left ++ rest) := by
  cases text with
  | nil =>
    cases read
    cases rest with
    | nil => rfl
    | cons c rest =>
      have stops := ended c rfl
      simp only [continuesNumeral, Bool.or_eq_false_iff] at stops
      simp [readExponent, stops.1.2, stops.2]
  | cons e text =>
    rw [List.cons_append]
    cases mark : (e == 'e' || e == 'E') with
    | true =>
      rw [readExponent_mark mark] at read ⊢
      obtain ⟨⟨digits, after⟩, digitsRead, same⟩ := Option.map_eq_some_iff.mp read
      cases same
      cases text with
      | nil => contradiction
      | cons c text =>
        have signs : exponentSign (c :: text ++ rest) =
            ((exponentSign (c :: text)).1, (exponentSign (c :: text)).2 ++ rest) := by
          unfold exponentSign
          split <;> simp_all
        rw [signs, readDigits_append ended digitsRead]
        rfl
    | false =>
      unfold readExponent at read ⊢
      simp only [mark] at read ⊢
      cases read
      rfl

/-- Read a numeral after its sign. -/
def readUnsigned (negative : Bool) (text : List Char) : Option (Numeral × List Char) := do
  let (whole, rest) ← readDigits text
  if whole.length > 1 && whole.head? == some '0' then none
  let (fraction, rest) ← readFraction rest
  let (exponent, rest) ← readExponent rest
  return (⟨negative, whole, fraction, exponent⟩, rest)

/-- A numeral after its sign has three parts, one after the other. -/
theorem readUnsigned_eq_some {negative : Bool} {text left : List Char} {numeral : Numeral} :
    readUnsigned negative text = some (numeral, left) ↔
      ∃ afterWhole afterFraction, readDigits text = some (numeral.whole, afterWhole) ∧
        (numeral.whole.length > 1 && numeral.whole.head? == some '0') = false ∧
        readFraction afterWhole = some (numeral.fraction, afterFraction) ∧
        readExponent afterFraction = some (numeral.exponent, left) ∧
        numeral.negative = negative := by
  constructor
  · intro read
    obtain ⟨⟨whole, afterWhole⟩, wholeRead, read⟩ := Option.bind_eq_some_iff.mp read
    dsimp only at read
    split at read
    · contradiction
    · rename_i leading
      obtain ⟨⟨fraction, afterFraction⟩, fractionRead, read⟩ := Option.bind_eq_some_iff.mp read
      obtain ⟨⟨exponent, afterExponent⟩, exponentRead, read⟩ := Option.bind_eq_some_iff.mp read
      cases read
      exact ⟨afterWhole, afterFraction, wholeRead, Bool.eq_false_iff.mpr leading, fractionRead,
        exponentRead, rfl⟩
  · rintro ⟨afterWhole, afterFraction, wholeRead, leading, fractionRead, exponentRead, rfl⟩
    simp only [readUnsigned, Option.bind_eq_bind, wholeRead, Option.bind_some, leading,
      fractionRead, exponentRead]
    rfl

/-- A numeral is a sign or none and the rest of it. -/
theorem readNumeral_cons (c : Char) (text : List Char) :
    readNumeral (c :: text) =
      if c = '-' then readUnsigned true text else readUnsigned false (c :: text) := by
  split
  · subst c
    rfl
  · rename_i unsigned
    unfold readNumeral
    split
    rename_i signed
    split at signed
    · rename_i same
      cases same
      contradiction
    · cases signed
      rfl

/-- A numeral starts with a minus sign or a digit. -/
theorem head_of_readNumeral {text left : List Char} {numeral : Numeral}
    (read : readNumeral text = some (numeral, left)) :
    ∃ c rest, text = c :: rest ∧ (c = '-' ∨ c.isDigit = true) := by
  cases text with
  | nil => contradiction
  | cons c text =>
    refine ⟨c, text, rfl, ?_⟩
    rw [readNumeral_cons] at read
    split at read
    · rename_i minus
      exact .inl minus
    · obtain ⟨_, _, wholeRead, _⟩ := readUnsigned_eq_some.mp read
      by_cases digit : c.isDigit = true
      · exact .inr digit
      · simp [readDigits, digit] at wholeRead

/-- A numeral is read as it is in front of a rest. -/
theorem readNumeral_append {text left rest : List Char} {numeral : Numeral}
    (ended : EndsNumeral rest) (read : readNumeral text = some (numeral, left)) :
    readNumeral (text ++ rest) = some (numeral, left ++ rest) := by
  have unsigned {negative : Bool} {text : List Char}
      (read : readUnsigned negative text = some (numeral, left)) :
      readUnsigned negative (text ++ rest) = some (numeral, left ++ rest) := by
    obtain ⟨afterWhole, afterFraction, wholeRead, leading, fractionRead, exponentRead, sign⟩ :=
      readUnsigned_eq_some.mp read
    exact readUnsigned_eq_some.mpr ⟨_, _, readDigits_append ended wholeRead, leading,
      readFraction_append ended fractionRead, readExponent_append ended exponentRead, sign⟩
  cases text with
  | nil => contradiction
  | cons c text =>
    rw [List.cons_append, readNumeral_cons]
    rw [readNumeral_cons] at read
    split
    · rename_i minus
      rw [if_pos minus] at read
      exact unsigned read
    · rename_i minus
      rw [if_neg minus] at read
      exact unsigned read

/-- A text is one numeral, and the tree of the numeral is the given one. -/
def Spells (text : List Char) (tree : Json) : Prop :=
  ∃ numeral, readNumeral text = some (numeral, []) ∧ numeral.toJson = tree

/-- What a text spells is read in front of a rest that does not go on with the numeral. -/
theorem Spells.read {text rest : List Char} {tree : Json} (spells : Spells text tree)
    (ended : EndsNumeral rest) :
    ∃ numeral, readNumeral (text ++ rest) = some (numeral, rest) ∧ numeral.toJson = tree := by
  obtain ⟨numeral, read, means⟩ := spells
  exact ⟨numeral, readNumeral_append ended read, means⟩

/-- The digits of a positive number do not start with a zero. -/
theorem head?_writeNat {n : Nat} (positive : 0 < n) : (writeNat n).head? ≠ some '0' := by
  induction n using Nat.strongRecOn with
  | ind n ih =>
    rw [writeNat, Nat.toDigits_eq_if (by decide)]
    split
    · rename_i small
      have digits : ∀ digit < 10, 0 < digit → [Nat.digitChar digit].head? ≠ some '0' := by decide
      exact digits n small positive
    · have first := ih (n / 10) (by omega) (by omega)
      rw [← writeNat]
      obtain ⟨c, rest, tens, _⟩ := writeNat_cons (n / 10)
      rw [tens] at first ⊢
      exact first

/-- The digits of a number have no leading zero. -/
theorem writeNat_leading (n : Nat) :
    ((writeNat n).length > 1 && (writeNat n).head? == some '0') = false := by
  cases n with
  | zero => rfl
  | succ n => simp [head?_writeNat (Nat.succ_pos n)]

/-- The digits of a number are read as they are. -/
theorem readDigits_writeNat (n : Nat) : readDigits (writeNat n) = some (writeNat n, []) := by
  have digits : ∀ c ∈ writeNat n, c.isDigit = true := fun c member =>
    isDigit_of_mem_writeNat member
  obtain ⟨c, rest, written, _⟩ := writeNat_cons n
  have stops : ∀ c ∈ ([] : List Char).head?, c.isDigit = false := nofun
  have span := span_append digits stops
  rw [List.append_nil] at span
  rw [readDigits, span.1, span.2, written]

/-- An integer is read as its sign and its digits. -/
theorem readNumeral_writeInt (value : Int) :
    readNumeral (writeInt value) =
      some (⟨value < 0, writeNat value.natAbs, [], none⟩, []) := by
  have unsigned (negative : Bool) : readUnsigned negative (writeNat value.natAbs) =
      some (⟨negative, writeNat value.natAbs, [], none⟩, []) :=
    readUnsigned_eq_some.mpr ⟨[], [], readDigits_writeNat _, writeNat_leading _, rfl, rfl, rfl⟩
  unfold writeInt
  split
  · rename_i negative
    rw [readNumeral_cons, if_pos rfl, unsigned, decide_eq_true negative]
  · rename_i nonnegative
    rw [decide_eq_false nonnegative, ← unsigned false]
    obtain ⟨c, rest, digits, digit⟩ := writeNat_cons value.natAbs
    have unsigned : c ≠ '-' := by rintro rfl; exact absurd digit (by decide)
    rw [digits, readNumeral_cons, if_neg unsigned]

/-- Integers of 64 bits are spelt by their decimal texts. -/
theorem spells_int {value : Int} (low : -0x8000000000000000 ≤ value)
    (high : value < 0x10000000000000000) : Spells (writeInt value) (.int value) := by
  refine ⟨_, readNumeral_writeInt value, ?_⟩
  have magnitude : digitsValue (writeNat value.natAbs) = value.natAbs :=
    digitsValue_toDigits value.natAbs
  unfold Numeral.toJson
  simp only [magnitude, List.isEmpty_nil, Option.isNone_none, Bool.and_self, Bool.true_and]
  by_cases negative : value < 0
  · have small : value.natAbs ≤ 0x8000000000000000 := by omega
    have nonzero : value.natAbs ≠ 0 := by omega
    have same : -(value.natAbs : Int) = value := by omega
    rw [decide_eq_true negative, decide_eq_true nonzero, decide_eq_true small, same]
    rfl
  · have small : value.natAbs < 0x10000000000000000 := by omega
    have same : (value.natAbs : Int) = value := by omega
    rw [decide_eq_false negative, decide_eq_true small, same]
    rfl

end DecisionFlow.Json
