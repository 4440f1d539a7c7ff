import Mathlib.Algebra.Order.Group.Unbundled.Int
import Mathlib.Data.Int.ModEq

/-!
# Integers of 64 bits

Sums, differences, products and negatives are exact modulo `2 ^ 64`, so each of them is the one
integer of 64 bits that is congruent to the exact result (`Wrapped`). Quotients are truncated toward
zero (`toInt_quotient`), remainders are smaller than the divisor and have the sign of the dividend,
and a quotient and its remainder give back the dividend even where the quotient wraps
(`quotient_mul_add_remainder`).
-/
namespace DecisionFlow.Number

/-- One integer of 64 bits is congruent to a given one. -/
theorem congruent_iff {exact : Int} {result : Int64} :
    result.toInt ≡ exact [ZMOD 2 ^ 64] ↔ result = Int64.ofInt exact := by
  constructor
  · intro congruent
    have same : result.toInt % (Int64.size : Nat) = exact % (Int64.size : Nat) := congruent
    rw [← Int64.ofInt_toInt result, ← Int64.toInt_inj, Int64.toInt_ofInt, Int64.toInt_ofInt,
      ← Int.emod_bmod result.toInt, same, Int.emod_bmod]
  · rintro rfl
    rw [Int64.toInt_ofInt]
    exact Int.bmod_emod

/-- The one integer of 64 bits that is congruent to a given one. -/
def Wrapped (exact : Int) (result : Int64) : Prop :=
  ∀ other : Int64, other.toInt ≡ exact [ZMOD 2 ^ 64] ↔ other = result

/-- A result is the wrapped one when it is the one read from the exact one. -/
theorem wrapped_of_eq {exact : Int} {result : Int64} (same : Int64.ofInt exact = result) :
    Wrapped exact result := fun _ => same ▸ congruent_iff

variable {a b : Int64}

/-- Addition is exact up to wrapping. -/
theorem wrapped_add (a b : Int64) : Wrapped (a.toInt + b.toInt) (a + b) := by
  apply wrapped_of_eq
  rw [Int64.ofInt_add, Int64.ofInt_toInt, Int64.ofInt_toInt]

/-- Subtraction is exact up to wrapping. -/
theorem wrapped_sub (a b : Int64) : Wrapped (a.toInt - b.toInt) (a - b) := by
  apply wrapped_of_eq
  rw [Int64.ofInt_sub, Int64.ofInt_toInt, Int64.ofInt_toInt]

/-- Multiplication is exact up to wrapping. -/
theorem wrapped_mul (a b : Int64) : Wrapped (a.toInt * b.toInt) (a * b) := by
  apply wrapped_of_eq
  rw [Int64.ofInt_mul, Int64.ofInt_toInt, Int64.ofInt_toInt]

/-- Negation is exact up to wrapping. -/
theorem wrapped_neg (a : Int64) : Wrapped (-a.toInt) (-a) := by
  apply wrapped_of_eq
  rw [Int64.ofInt_neg, Int64.ofInt_toInt]

/-- The quotient is truncated toward zero, except that the least integer over -1 stays. -/
theorem toInt_quotient (a b : Int64) :
    (a / b).toInt =
      if a = Int64.minValue ∧ b = -1 then Int64.minValue.toInt else a.toInt.tdiv b.toInt := by
  split
  · rename_i wraps
    rw [wraps.1, wraps.2, Int64.minValue_div_neg_one]
  · rename_i fits
    by_cases least : a = Int64.minValue
    · exact Int64.toInt_div_of_ne_right a b fun negated => fits ⟨least, negated⟩
    · exact Int64.toInt_div_of_ne_left a b least

/-- The remainder is smaller than the divisor. -/
theorem abs_remainder_lt (nonzero : b ≠ 0) : |(a % b).toInt| < |b.toInt| := by
  have divisor : b.toInt ≠ 0 := fun zero => nonzero (Int64.toInt_inj.mp zero)
  rw [Int64.toInt_mod, Int.abs_eq_natAbs, Int.abs_eq_natAbs, Int.natAbs_tmod]
  have smaller := Nat.mod_lt a.toInt.natAbs (Int.natAbs_pos.mpr divisor)
  exact Int.ofNat_lt.mpr smaller

/-- The remainder is zero or has the sign of the dividend. -/
theorem remainder_eq_zero_or_sign (a b : Int64) :
    a % b = 0 ∨ (a % b).toInt.sign = a.toInt.sign := by
  by_cases zero : a % b = 0
  · exact .inl zero
  · have nonzero : a.toInt.tmod b.toInt ≠ 0 := fun vanishes =>
      zero (Int64.toInt_inj.mp ((Int64.toInt_mod a b).trans vanishes))
    have dividend : a.toInt ≠ 0 := fun vanishes => nonzero (by rw [vanishes, Int.zero_tmod])
    rw [Int64.toInt_mod]
    refine .inr ?_
    rcases Int.le_total 0 a.toInt with positive | negative
    · have signed := Int.tmod_nonneg b.toInt positive
      rw [Int.sign_eq_one_of_pos (by omega), Int.sign_eq_one_of_pos (by omega)]
    · have signed := Int.tmod_nonneg b.toInt (Int.neg_nonneg_of_nonpos negative)
      rw [Int.neg_tmod] at signed
      rw [Int.sign_eq_neg_one_of_neg (by omega), Int.sign_eq_neg_one_of_neg (by omega)]

/-- The quotient times the divisor and the remainder give back the dividend. -/
theorem quotient_mul_add_remainder (a b : Int64) : a / b * b + a % b = a := by
  have quotient : (a / b).toInt ≡ a.toInt.tdiv b.toInt [ZMOD 2 ^ 64] := by
    rw [Int64.toInt_div]
    exact Int.bmod_emod
  have remainder : (a % b).toInt = a.toInt.tmod b.toInt := Int64.toInt_mod a b
  have recombined : (a / b).toInt * b.toInt + (a % b).toInt ≡ a.toInt [ZMOD 2 ^ 64] := by
    calc (a / b).toInt * b.toInt + (a % b).toInt
        ≡ a.toInt.tdiv b.toInt * b.toInt + (a % b).toInt [ZMOD 2 ^ 64] :=
          (quotient.mul_right b.toInt).add_right _
      _ = a.toInt := by rw [remainder, Int.tdiv_mul_add_tmod]
  have exact := congruent_iff.mp recombined.symm
  rw [Int64.ofInt_add, Int64.ofInt_mul, Int64.ofInt_toInt, Int64.ofInt_toInt,
    Int64.ofInt_toInt] at exact
  exact exact.symm

end DecisionFlow.Number
