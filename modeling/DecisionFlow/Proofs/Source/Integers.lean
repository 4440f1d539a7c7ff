import DecisionFlow.Proofs.Expr.Depth
import DecisionFlow.Proofs.Source.Nesting
import DecisionFlow.Proofs.Source.Printing
import Mathlib.Algebra.Group.Nat.Defs

/-!
# Integers as sources

The decimal text of an integer is a source: its digits are a literal and its sign is a prefix
operator, which simplifying applies to the literal. The digits are read without the sign, so they
have to be a number of 64 bits by themselves (`compile_writeInt`). That is the case for every
integer of 64 bits but the least one, whose magnitude is above the range (`compile_integerText`).
-/
namespace DecisionFlow

open DecisionFlow.Source DecisionFlow.Text DecisionFlow.Expr

namespace Source

/-- A text without brackets, quotes and question marks nests nothing. -/
theorem nestingAllowed_of_plain {text : List Char} (plain : ∀ c ∈ text, isPlain c = true) :
    nestingAllowed text = true := by
  unfold nestingAllowed
  induction text with
  | nil => rfl
  | cons c rest ih =>
    obtain ⟨first, others⟩ := List.forall_mem_cons.mp plain
    rw [Scan.staysWithin_cons, Scan.step_plain first]
    exact ⟨Nat.zero_le _, ih others⟩

/-- The text of an integer is a statement. -/
theorem statement_writeInt (n : Int) : Statement (writeInt n) := by
  unfold writeInt
  split
  · exact (Statement.of_digits n.natAbs).unary .neg
  · exact .of_digits n.natAbs

/-- The text of an integer nests nothing. -/
theorem nestingAllowed_writeInt (n : Int) : nestingAllowed (writeInt n) = true := by
  have digits : ∀ c ∈ writeNat n.natAbs, isPlain c = true := fun c member =>
    isPlain_of_isLexical (isLexical_of_isDigit (isDigit_of_mem_writeNat member))
  apply nestingAllowed_of_plain
  unfold writeInt
  split
  · exact List.forall_mem_cons.mpr ⟨by decide, digits⟩
  · exact digits

/-! ## Integers in range -/

/-- The digits of a number in range are those of the integer of 64 bits. -/
theorem writeInt64_ofNat {m : Nat} (fits : m < 2 ^ 63) :
    writeInt64 (Int64.ofInt m) = writeNat m := by
  rw [writeInt64, Int64.toInt_ofInt_of_le (by omega) (by omega), writeInt, if_neg (by omega),
    Int.natAbs_natCast]

/-- An integer whose magnitude is in range has the text of a printable expression that simplifies to
it. -/
theorem exists_printable_writeInt {n : Int} (fits : n.natAbs < 2 ^ 63) :
    ∃ expr : Expr, expr.Printable ∧ expr.toText = writeInt n ∧ expr.depth ≤ depthLimit ∧
      expr.simplify = .int (Int64.ofInt n) := by
  have nonnegative : 0 ≤ Int64.ofInt n.natAbs := by
    rw [Int64.le_iff_toInt_le, Int64.toInt_ofInt_of_le (by omega) (by omega)]
    exact Int.natCast_nonneg _
  have text := writeInt64_ofNat fits
  unfold writeInt
  split
  · rename_i negative
    have opposite : -Int64.ofInt n.natAbs = Int64.ofInt n := by
      rw [← Int64.ofInt_neg]
      congr 1
      omega
    refine ⟨.unary .neg (.int (Int64.ofInt n.natAbs)), .unary .neg (.int nonnegative), ?_,
      depth_le_iff.mpr (show 2 ≤ depthLimit by decide), ?_⟩
    · exact congrArg (List.cons '-') text
    · exact congrArg Expr.int opposite
  · rename_i positive
    have same : (n.natAbs : Int) = n := by omega
    refine ⟨.int (Int64.ofInt n.natAbs), .int nonnegative, text,
      depth_le_iff.mpr (show 1 ≤ depthLimit by decide), ?_⟩
    rw [same]
    rfl

/-! ## Integers out of range -/

/-- Digits above the range are no number. -/
theorem readNumber_writeNat {m : Nat} (large : 2 ^ 63 ≤ m) : readNumber (writeNat m) = none := by
  have digits : ∀ c ∈ writeNat m, c.isDigit = true := fun c => isDigit_of_mem_writeNat
  obtain ⟨taken, dropped⟩ := @span_append Char.isDigit (writeNat m) [] digits nofun
  rw [List.append_nil] at taken dropped
  have some_digit : (writeNat m).isEmpty = false :=
    List.isEmpty_eq_false_iff.mpr Nat.toDigits_ne_nil
  have value : digitsValue (writeNat m) = m := digitsValue_toDigits m
  have above : ¬m < 0x8000000000000000 := by omega
  simp [readNumber, taken, dropped, some_digit, value, above, fractionDigits]

/-- Digits above the range are no operand. -/
theorem unary_writeNat {m : Nat} (large : 2 ^ 63 ≤ m) (expr : Reader Expr) :
    unary expr (writeNat m) = .error (.expected .name (writeNat m)) := by
  have number := readNumber_writeNat large
  obtain ⟨c, digits, written, digit⟩ := writeNat_cons m
  have operand := startsOperand_of_isNameChar (isNameChar_of_isDigit digit)
  have apart : ∀ d ∈ wordStarts ++ ['"', '\'', '[', '(', '\x7b'], d.isDigit = false := by decide
  have other : c ∉ wordStarts ++ ['"', '\'', '[', '(', '\x7b'] := fun member =>
    Bool.false_ne_true ((apart c member).symm.trans digit)
  simp only [List.mem_append, List.mem_cons, List.not_mem_nil, not_or, or_false] at other
  obtain ⟨word, double, single, square, round, curly⟩ := other
  have name : isNameStart c = false := by
    rw [Bool.eq_false_iff]
    intro starts
    rw [isDigit_of_isNameStart starts] at digit
    contradiction
  rw [written] at number ⊢
  have literal : readLiteral (c :: digits) = none := by
    rw [readLiteral, readWord_cons word, number]
    simp [readText, double, single]
  have found : atom expr (c :: digits) = .error (.expected .name (c :: digits)) := by
    simp only [atom, skipBlank_cons (isBlank_of_startsOperand operand), literal]
    split
    · simp_all
    · simp_all
    · simp_all
    · rw [nameOrCall, readName, name]
      rfl
  rw [unary, readPrefixOps_cons operand]
  simp only [accessed, found]
  rfl

/-- The text of an integer whose magnitude is above the range cannot be read. -/
theorem unbounded_writeInt {n : Int} (large : 2 ^ 63 ≤ n.natAbs) :
    unbounded (writeInt n) = .error (.expected .name (writeNat n.natAbs)) := by
  have operand := unary_writeNat large unbounded
  apply unbounded_error
  unfold writeInt
  split
  · show unary unbounded (UnaryOp.neg.symbol.toList ++ writeNat n.natAbs) = _
    rw [unary_symbol, operand]
    rfl
  · exact operand

end Source

/-! ## Compiling integers -/

namespace Compiler

/-- The decimal text of an integer compiles to it when its magnitude is in range. Otherwise it is
refused at its digits. -/
theorem compile_writeInt (n : Int) :
    ({} : Compiler).compile (String.ofList (writeInt n)) =
      if n.natAbs < 2 ^ 63 then .ok (.int (Int64.ofInt n))
      else .error (.unreadable (.expected .name (writeNat n.natAbs))) := by
  have allowed := nestingAllowed_writeInt n
  split
  · rename_i fits
    obtain ⟨expr, printable, text, shallow, simplified⟩ := exists_printable_writeInt fits
    rw [compile, parse_of_printable printable text allowed shallow, ← simplified]
    rfl
  · rename_i large
    have failed := unbounded_writeInt (Nat.le_of_not_lt large)
    rw [compile, (statement_writeInt n).parse_error allowed failed]

/-- The decimal text of an integer of 64 bits compiles to it, except that of the least one, which is
refused at its digits. -/
theorem compile_integerText (n : Int64) :
    ({} : Compiler).compile (integerText n) =
      if n = Int64.minValue then
        .error (.unreadable (.expected .name "9223372036854775808".toList))
      else .ok (.int n) := by
  have low := n.le_toInt
  have high := n.toInt_lt
  rw [integerText, writeInt64, compile_writeInt, Int64.ofInt_toInt]
  by_cases least : n = Int64.minValue
  · rw [least]
    rfl
  · have above : n.toInt ≠ -2 ^ 63 := fun same =>
      least (Int64.toInt_inj.mp (same.trans Int64.toInt_minValue.symm))
    rw [if_neg least, if_pos (by omega)]

/-- The text of the least integer does not compile to it. -/
theorem compile_integerText_least :
    integerText Int64.minValue = "-9223372036854775808" ∧
      ({} : Compiler).compile (integerText Int64.minValue) ≠ .ok (.int Int64.minValue) := by
  have refused := compile_writeInt Int64.minValue.toInt
  have large : ¬Int64.minValue.toInt.natAbs < 2 ^ 63 := by decide
  rw [if_neg large] at refused
  refine ⟨by decide +kernel, fun compiled => ?_⟩
  cases refused.symm.trans compiled

end Compiler

end DecisionFlow
