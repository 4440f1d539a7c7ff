import DecisionFlow.Proofs.Number.Nearness
import Mathlib.Algebra.Group.Nat.Defs

/-!
# Doubles that are zero

A number that is not below the least double is not rounded to zero (`nonvanishing_round`), and it
does not become zero when it is packed into a double (`Nonvanishing.unpack_pack`). So an integer
becomes a double that is zero only when it is zero itself (`ofInt64_beq_zero`). There are two zeros,
and there is no remainder by either (`isNaN_remainder`).
-/
namespace DecisionFlow.Number

open Float.Model (Format UnpackedFloat totalExponent)
open Float.Model.UnpackedFloat (Sign Accuracy ExtendedMantissa mul neg ofScientific pack
  packComponents packedInfinity round roundWithAccuracy shiftToTargetExponent unpack unpackExponent
  unpackExponent_packComponents unpackMantissa unpackMantissa_packComponents)

/-! ## Rounding -/

/-- Numbers, taken apart, that do not become zero when they are packed: the infinities, and finite
numbers of up to 53 bits that are not below the least double. -/
def Nonvanishing : UnpackedFloat → Prop
  | .infinity _ => True
  | .finite _ mantissa exponent _ => mantissa < 2 ^ 53 ∧ -1074 ≤ exponent
  | _ => False

/-- Shifting a mantissa divides it by a power of two. -/
theorem mantissa_shiftRight (extended : ExtendedMantissa) (shift : Nat) :
    (extended >>> shift).mantissa = extended.mantissa / 2 ^ shift := by
  induction shift with
  | zero => exact (Nat.div_one _).symm
  | succ shift ih =>
    show (extended >>> shift).mantissa / 2 = _
    rw [ih, Nat.div_div_eq_div_mul, Nat.pow_succ]

/-- Rounding never lowers a mantissa. -/
theorem le_roundedMantissa (extended : ExtendedMantissa) :
    extended.mantissa ≤ extended.roundedMantissa := by
  unfold ExtendedMantissa.roundedMantissa
  cases extended.accuracy with
  | exact => exact Nat.le_refl _
  | inexact order =>
    cases order with
    | lt => exact Nat.le_refl _
    | eq => exact Nat.le_add_right _ _
    | gt => exact Nat.le_add_right _ _

/-- A number that is not below the least double keeps up to 53 of its bits, and at least one, when
it is shifted to the exponent that it should have. -/
theorem shifted_bounds {mantissa : Nat} {exponent : Int} (positive : 0 < mantissa)
    (large : -1074 ≤ exponent + mantissa.log2) (accuracy : Accuracy) :
    let shifted := shiftToTargetExponent Format.binary64 mantissa exponent accuracy
    0 < shifted.1.mantissa ∧ shifted.1.mantissa < 2 ^ 53 ∧ -1074 ≤ shifted.2 := by
  intro shifted
  have target : Format.binary64.targetExponent (totalExponent mantissa exponent) =
      max (exponent + mantissa.log2 - 52) (-1074) := by
    show max ((mantissa.log2 : Int) + 1 + exponent - 53) (-1074) = _
    omega
  let shift := (max (exponent + mantissa.log2 - 52) (-1074) - exponent).toNat
  have kept : shifted.1.mantissa = mantissa / 2 ^ shift := by
    show (ExtendedMantissa.ofMantissaAndAccuracy mantissa accuracy >>>
      (Format.binary64.targetExponent (totalExponent mantissa exponent) - exponent).toNat).mantissa
        = _
    rw [mantissa_shiftRight, target]
    cases accuracy with
    | exact => rfl
    | inexact order => cases order <;> rfl
  have moved : shifted.2 = exponent + shift := by
    show exponent +
      ((Format.binary64.targetExponent (totalExponent mantissa exponent) - exponent).toNat : Int)
        = _
    rw [target]
  obtain ⟨low, high⟩ := (Nat.log2_eq_iff (Nat.ne_of_gt positive)).mp rfl
  have narrow : shift ≤ mantissa.log2 := by omega
  have wide : mantissa.log2 + 1 ≤ 53 + shift := by omega
  refine ⟨?_, ?_, by omega⟩
  · rw [kept]
    exact Nat.div_pos (Nat.le_trans (Nat.pow_le_pow_right (by decide) narrow) low)
      (Nat.two_pow_pos shift)
  · rw [kept, Nat.div_lt_iff_lt_mul (Nat.two_pow_pos shift), ← Nat.pow_add]
    exact Nat.lt_of_lt_of_le high (Nat.pow_le_pow_right (by decide) wide)

/-- A number that is not below the least double is not rounded to zero. -/
theorem nonvanishing_roundWithAccuracy (sign : Sign) {mantissa : Nat} {exponent : Int}
    (positive : 0 < mantissa) (large : -1074 ≤ exponent + mantissa.log2) (accuracy : Accuracy) :
    Nonvanishing (roundWithAccuracy Format.binary64 sign mantissa exponent accuracy) := by
  have first := shifted_bounds positive large accuracy
  unfold roundWithAccuracy
  generalize shiftToTargetExponent Format.binary64 mantissa exponent accuracy = shifted at first ⊢
  obtain ⟨extended, moved⟩ := shifted
  -- Rounding may carry over into one more bit, so there is a second shift, which drops zeros only.
  have rounded := Nat.lt_of_lt_of_le first.1 (le_roundedMantissa extended)
  have inRange : -1074 ≤ moved + extended.roundedMantissa.log2 := by
    have before : -1074 ≤ moved := first.2.2
    omega
  have second := shifted_bounds rounded inRange .exact
  dsimp only
  rw [dif_neg (Nat.ne_of_gt second.1)]
  exact second.2

/-- Bits added to a mantissa raise its logarithm by their number. -/
theorem log2_shiftLeft {mantissa : Nat} (positive : 0 < mantissa) (shift : Nat) :
    (mantissa <<< shift).log2 = mantissa.log2 + shift := by
  obtain ⟨low, high⟩ := (Nat.log2_eq_iff (Nat.ne_of_gt positive)).mp rfl
  have scaled : 0 < mantissa <<< shift := Nat.shiftLeft_pos_iff.mpr positive
  apply (Nat.log2_eq_iff (Nat.ne_of_gt scaled)).mpr
  rw [Nat.shiftLeft_eq, Nat.add_right_comm, Nat.pow_add, Nat.pow_add]
  exact ⟨Nat.mul_le_mul_right _ low, Nat.mul_lt_mul_of_pos_right high (Nat.two_pow_pos shift)⟩

/-- A number that is not below the least double is not rounded to zero when it gets the exponent
that it should have first. -/
theorem nonvanishing_round (sign : Sign) {mantissa : Nat} {exponent : Int}
    (positive : 0 < mantissa) (large : -1074 ≤ exponent + mantissa.log2) :
    Nonvanishing (round Format.binary64 sign mantissa exponent) := by
  let shift := (exponent - Format.binary64.targetExponent (totalExponent mantissa exponent)).toNat
  have log := log2_shiftLeft positive shift
  have scaled : 0 < mantissa <<< shift := Nat.shiftLeft_pos_iff.mpr positive
  show Nonvanishing (roundWithAccuracy Format.binary64 sign (mantissa <<< shift) (exponent - shift)
    .exact)
  exact nonvanishing_roundWithAccuracy sign scaled (by omega) .exact

/-! ## Packing -/

/-- Bits do not stand for zero when a field of them is not zero, unless they are kept for what is
not a number. -/
theorem nonvanishing_of_fields {bits : BitVec 64}
    (number : @unpackExponent Format.binary64 bits = -1#11 →
      @unpackMantissa Format.binary64 bits = 0#52)
    (filled : @unpackExponent Format.binary64 bits ≠ 0#11 ∨
      @unpackMantissa Format.binary64 bits ≠ 0#52) :
    Nonvanishing (unpack Format.binary64 bits) := by
  unfold unpack
  -- The exponent field has every bit, no bit, or some.
  refine iteInduction
    (fun top => iteInduction (fun _ => trivial) fun other => absurd (number top) other) fun _ =>
    iteInduction (fun low => ?_) fun normal => ?_
  · have subnormal := filled.resolve_left (not_not_intro low)
    rw [dif_neg subnormal]
    refine ⟨Nat.lt_trans (BitVec.isLt _) (by decide), ?_⟩
    rw [low]
    decide
  · have positive : (@unpackExponent Format.binary64 bits).toNat ≠ 0 :=
      fun none => normal (BitVec.eq_of_toNat_eq none)
    refine ⟨BitVec.isLt _, ?_⟩
    change -1074 ≤ ((@unpackExponent Format.binary64 bits).toNat : Int) - (1023 + 52)
    omega

/-- Fields are packed without loss, so what is packed does not become zero when a field is not
zero. -/
theorem nonvanishing_packComponents (sign : Sign) {exponent : BitVec 11} {mantissa : BitVec 52}
    (number : exponent = -1#11 → mantissa = 0#52) (filled : exponent ≠ 0#11 ∨ mantissa ≠ 0#52) :
    Nonvanishing (unpack Format.binary64 (packComponents Format.binary64 sign exponent
      mantissa)) := by
  apply nonvanishing_of_fields
  · rw [unpackExponent_packComponents, unpackMantissa_packComponents]
    exact number
  · rw [unpackExponent_packComponents, unpackMantissa_packComponents]
    exact filled

/-- An infinity does not become zero when it is packed. -/
theorem nonvanishing_packedInfinity (sign : Sign) :
    Nonvanishing (unpack Format.binary64 (packedInfinity Format.binary64 sign)) :=
  nonvanishing_packComponents sign (fun _ => rfl) (.inl (by decide))

/-- Different numbers that fit have different bits. -/
theorem ofNat_ne {width m n : Nat} (fits : m < 2 ^ width) (otherFits : n < 2 ^ width)
    (apart : m ≠ n) : BitVec.ofNat width m ≠ BitVec.ofNat width n := by
  intro same
  have values := congrArg BitVec.toNat same
  rw [BitVec.toNat_ofNat, BitVec.toNat_ofNat, Nat.mod_eq_of_lt fits,
    Nat.mod_eq_of_lt otherFits] at values
  exact apart values

/-- What does not vanish does not become zero when it is packed. -/
theorem Nonvanishing.unpack_pack {number : UnpackedFloat} (kept : Nonvanishing number) :
    Nonvanishing (unpack Format.binary64 (pack Format.binary64 number)) := by
  cases number with
  | notANumber | zero => contradiction
  | infinity sign => exact nonvanishing_packedInfinity sign
  | finite sign mantissa exponent positive =>
    obtain ⟨narrow, large⟩ := kept
    -- The exponent field is neither that of a subnormal number nor that of an infinity.
    generalize field : (exponent + Format.binary64.exponentBias +
      Format.binary64.mantissaBitsWithoutImplicit).toNat = biased
    have one : 1 ≤ biased := by
      change (exponent + 1023 + 52).toNat = biased at field
      omega
    unfold pack
    dsimp only
    rw [field]
    split
    · exact nonvanishing_packedInfinity sign
    · rename_i bounded
      have top : biased + 1 < 2048 := Nat.lt_of_not_le bounded
      split
      · have fits : biased < 2 ^ 11 := by omega
        have finite : BitVec.ofNat 11 biased ≠ -1#11 := by
          show BitVec.ofNat 11 biased ≠ BitVec.ofNat 11 2047
          exact ofNat_ne fits (by decide) (by omega)
        exact nonvanishing_packComponents sign (absurd · finite)
          (.inl (ofNat_ne fits (by decide) (by omega)))
      · rename_i short
        change ¬mantissa.log2 + 1 = 53 at short
        have bits : mantissa.log2 < 53 := (Nat.log2_lt (Nat.ne_of_gt positive)).mpr narrow
        have fits : mantissa < 2 ^ 52 := (Nat.log2_lt (Nat.ne_of_gt positive)).mp (by omega)
        exact nonvanishing_packComponents sign (absurd · (by decide))
          (.inr (ofNat_ne fits (by decide) (Nat.ne_of_gt positive)))

/-! ## Integers as doubles -/

/-- The double that is one, taken apart. -/
def unpackedOne : UnpackedFloat := .finite .positive (2 ^ 52) (-52) (by decide)

/-- What does not vanish does not vanish times one. -/
theorem Nonvanishing.mul_one {number : UnpackedFloat} (kept : Nonvanishing number) :
    Nonvanishing (mul Format.binary64 number unpackedOne) := by
  cases number with
  | notANumber | zero => contradiction
  | infinity sign => trivial
  | finite sign mantissa exponent positive =>
    obtain ⟨-, large⟩ := kept
    have product : 0 < mantissa * 2 ^ 52 := Nat.mul_pos positive (by decide)
    have bits : 52 ≤ (mantissa * 2 ^ 52).log2 :=
      (Nat.le_log2 (Nat.ne_of_gt product)).mpr (Nat.le_mul_of_pos_left _ positive)
    exact nonvanishing_roundWithAccuracy _ product (by omega) .exact

/-- What does not vanish does not vanish with the other sign. -/
theorem Nonvanishing.neg {number : UnpackedFloat} (kept : Nonvanishing number) :
    Nonvanishing (neg number) := by
  cases number with
  | notANumber | zero => contradiction
  | infinity sign => trivial
  | finite sign mantissa exponent positive => exact kept

/-- A natural number that is not zero does not become zero when it is rounded. -/
theorem nonvanishing_ofInt {n : Nat} (positive : 0 < n) :
    Nonvanishing (UnpackedFloat.ofInt Format.binary64 n) := by
  have greater : compare (n : Int) 0 = .gt := Int.compare_eq_gt.mpr (Int.natCast_pos.mpr positive)
  unfold UnpackedFloat.ofInt UnpackedFloat.normalize
  rw [greater]
  exact nonvanishing_round .positive positive (by omega)

/-- A natural number that is not zero becomes a double that is not zero. -/
theorem nonvanishing_ofNat {n : Nat} (positive : 0 < n) :
    Nonvanishing (Float.ofNat n).toModel.unpack := by
  show Nonvanishing (Float.ofScientific n false 0).toModel.unpack
  unfold Float.ofScientific
  split
  · rename_i small
    -- Up to 53 bits the number is exact, and it is multiplied by one.
    simp only [Bool.false_eq_true, if_false]
    show Nonvanishing (unpack Format.binary64 (pack Format.binary64 (mul Format.binary64
      (unpack Format.binary64 (pack Format.binary64
        (UnpackedFloat.ofInt Format.binary64 (n.toUInt64.toNat : Int))))
      Float.exactlyRepresentablePowersOfTen[0].toModel.unpack)))
    have one : Float.exactlyRepresentablePowersOfTen[0].toModel.unpack = unpackedOne := rfl
    have same : n.toUInt64.toNat = n := Nat.mod_eq_of_lt (by omega)
    rw [one, same]
    exact (nonvanishing_ofInt positive).unpack_pack.mul_one.unpack_pack
  · -- Beyond that the digits are multiplied by a power of ten, which is one.
    show Nonvanishing (unpack Format.binary64 (pack Format.binary64
      (ofScientific Format.binary64 n 0)))
    have scaled : 0 < n <<< 53 * 10 ^ 0 := by
      rw [Nat.shiftLeft_eq]
      omega
    have bits := log2_shiftLeft positive 53
    have product : ofScientific Format.binary64 n 0 =
        roundWithAccuracy Format.binary64 .positive (n <<< 53 * 10 ^ 0) (-53 + 0) .exact := by
      have range : (0 : Int) ≤ 2 ^ Format.binary64.exponentBits := by decide
      unfold ofScientific
      rw [dif_neg (Nat.ne_of_gt positive), if_neg (by omega), if_neg (by omega),
        if_pos (Int.le_refl 0)]
      rfl
    rw [product]
    refine (nonvanishing_roundWithAccuracy .positive scaled ?_ .exact).unpack_pack
    rw [Nat.pow_zero, Nat.mul_one]
    omega

/-- A double that is zero is one of the two zeros when it is taken apart. -/
theorem unpack_of_beq_zero {y : Float} (zero : (y == 0.0) = true) :
    ∃ sign, y.toModel.unpack = .zero sign := by
  have equal : (y.toModel.unpack.compare (.zero .positive) == some .eq) = true := zero
  cases number : y.toModel.unpack with
  | zero sign => exact ⟨sign, rfl⟩
  | notANumber =>
    rw [number] at equal
    contradiction
  | infinity sign | finite sign =>
    rw [number] at equal
    cases sign <;> contradiction

/-- A number that does not vanish is not zero. -/
theorem Nonvanishing.beq_zero {x : Float} (kept : Nonvanishing x.toModel.unpack) :
    (x == 0.0) = false := by
  rw [Bool.eq_false_iff]
  intro equal
  obtain ⟨sign, zero⟩ := unpack_of_beq_zero equal
  rw [zero] at kept
  exact kept

/-- An integer becomes a double that is zero only when it is zero itself. -/
theorem ofInt64_beq_zero (n : Int64) : (ofInt64 n == 0.0) = (n == 0) := by
  by_cases zero : n = 0
  · rw [zero]
    rfl
  · have nonzero : n.toInt ≠ 0 := fun vanishes => zero (Int64.toInt_inj.mp vanishes)
    rw [beq_eq_false_iff_ne.mpr zero]
    apply Nonvanishing.beq_zero
    unfold ofInt64
    generalize n.toInt = m at nonzero
    cases m with
    | ofNat m =>
      have positive : 0 < m := Nat.pos_of_ne_zero fun same => nonzero (congrArg Int.ofNat same)
      exact nonvanishing_ofNat positive
    | negSucc m => exact (nonvanishing_ofNat (Nat.succ_pos m)).neg.unpack_pack

/-! ## Remainders -/

/-- A zero has no bits but that of its sign. -/
theorem fields_of_unpack_zero {bits : BitVec 64} {sign : Sign}
    (zero : unpack Format.binary64 bits = .zero sign) :
    @unpackExponent Format.binary64 bits = 0#11 ∧ @unpackMantissa Format.binary64 bits = 0#52 := by
  have number : @unpackExponent Format.binary64 bits = -1#11 →
      @unpackMantissa Format.binary64 bits = 0#52 := by
    refine fun top => Decidable.byContradiction fun other => ?_
    unfold unpack at zero
    rw [if_pos top, if_neg other] at zero
    contradiction
  refine Decidable.byContradiction fun filled => ?_
  have kept := nonvanishing_of_fields number (Decidable.not_and_iff_or_not.mp filled)
  rw [zero] at kept
  exact kept

/-- A double that is zero has no mantissa. -/
theorem parts_of_beq_zero {y : Float} (zero : (y == 0.0) = true) :
    ∃ negative exponent, parts y = .finite negative 0 exponent := by
  obtain ⟨sign, unpacked⟩ := unpack_of_beq_zero zero
  obtain ⟨exponent, mantissa⟩ := fields_of_unpack_zero unpacked
  have biased : y.toBits.toNat / 0x10000000000000 % 0x800 = 0 := by
    rw [← Nat.shiftRight_eq_div_pow _ 52]
    exact congrArg BitVec.toNat exponent
  have fraction : y.toBits.toNat % 0x10000000000000 = 0 := congrArg BitVec.toNat mantissa
  refine ⟨y.toBits.toNat / 0x8000000000000000 % 2 == 1, -1074, ?_⟩
  unfold parts Parts.ofBits
  dsimp only
  rw [biased, fraction]
  rfl

/-- There is no remainder by zero. -/
theorem isNaN_remainder {y : Float} (zero : (y == 0.0) = true) (x : Float) :
    (remainder x y).isNaN = true := by
  have nan_isNaN : nan.isNaN = true := rfl
  obtain ⟨negative, exponent, divisor⟩ := parts_of_beq_zero zero
  unfold remainder
  rw [divisor]
  cases parts x with
  | finite => exact nan_isNaN
  | nan => exact nan_isNaN
  | infinite => exact nan_isNaN

end DecisionFlow.Number
