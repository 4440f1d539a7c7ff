import DecisionFlow.Number.Binary64

/-!
# Doubles without a sign

The double that digits with a point among them stand for is rounded from a quotient of natural
numbers. Rounding keeps the sign, and packing a number into a double keeps it too, so the double is
neither negative nor not a number (`unsigned_ofScientific`). It may be infinite.
-/
namespace DecisionFlow.Number

open Float.Model (Format UnpackedFloat)
open Float.Model.UnpackedFloat (Sign Accuracy div mul ofScientific pack packComponents round
  roundWithAccuracy unpack unpackExponent_packComponents unpackMantissa_packComponents unpackSign)

/-- Numbers, taken apart, without a minus sign. -/
def Unsigned : UnpackedFloat → Prop
  | .notANumber => False
  | .infinity sign | .zero sign | .finite sign _ _ _ => sign = .positive

/-- A choice between numbers without a sign has none. -/
theorem Unsigned.dite {c : Prop} [Decidable c] {yes : c → UnpackedFloat}
    {no : ¬c → UnpackedFloat} (first : ∀ holds, Unsigned (yes holds))
    (second : ∀ fails, Unsigned (no fails)) :
    Unsigned (if holds : c then yes holds else no holds) := by
  by_cases holds : c
  · rw [dif_pos holds]
    exact first holds
  · rw [dif_neg holds]
    exact second holds

/-- Rounding adds no sign. -/
theorem unsigned_roundWithAccuracy (mantissa : Nat) (exponent : Int) (accuracy : Accuracy) :
    Unsigned (roundWithAccuracy Format.binary64 .positive mantissa exponent accuracy) := by
  unfold roundWithAccuracy
  exact .dite (fun _ => rfl) fun _ => rfl

/-- Fields without a sign are those of a number without one, unless they are kept for what is not a
number. -/
theorem unsigned_unpack_packComponents {exponent : BitVec 11} {mantissa : BitVec 52}
    (number : exponent = -1#11 → mantissa = 0#52) :
    Unsigned (unpack Format.binary64 (packComponents Format.binary64 .positive exponent
      mantissa)) := by
  have sign : unpackSign (packComponents Format.binary64 .positive exponent mantissa) = 0#1 := by
    show (0#1 ++ exponent ++ mantissa).extractLsb' 63 1 = 0#1
    rw [BitVec.append_assoc]
    exact BitVec.extractLsb'_append_eq_left
  have positive : Sign.ofBitVec
      (unpackSign (packComponents Format.binary64 .positive exponent mantissa)) = .positive := by
    rw [sign]
    rfl
  unfold unpack
  -- The exponent field has every bit, no bit, or some.
  refine iteInduction (fun top => ?_) fun _ =>
    iteInduction (fun _ => .dite (fun _ => positive) fun _ => positive) fun _ => positive
  have empty := number (unpackExponent_packComponents.symm.trans top)
  exact iteInduction (fun _ => positive) fun other =>
    absurd (unpackMantissa_packComponents.trans empty) other

/-- A number without a sign has none when it is packed. -/
theorem Unsigned.unpack_pack {number : UnpackedFloat} (unsigned : Unsigned number) :
    Unsigned (unpack Format.binary64 (pack Format.binary64 number)) := by
  cases number with
  | notANumber => contradiction
  | infinity sign =>
    obtain rfl : sign = .positive := unsigned
    exact unsigned_unpack_packComponents fun _ => rfl
  | zero sign =>
    obtain rfl : sign = .positive := unsigned
    exact unsigned_unpack_packComponents fun _ => rfl
  | finite sign mantissa exponent positive =>
    obtain rfl : sign = .positive := unsigned
    unfold pack
    dsimp only
    split
    · exact unsigned_unpack_packComponents fun _ => rfl
    · rename_i bounded
      generalize (exponent + Format.binary64.exponentBias +
        Format.binary64.mantissaBitsWithoutImplicit).toNat = biased at bounded ⊢
      change ¬2 ^ 11 ≤ biased + 1 at bounded
      split
      · refine unsigned_unpack_packComponents fun top => ?_
        have same := congrArg BitVec.toNat top
        have value : (BitVec.ofNat 11 biased).toNat = biased := Nat.mod_eq_of_lt (by omega)
        have last : (-1#11 : BitVec 11).toNat = 2047 := rfl
        change (BitVec.ofNat 11 biased).toNat = (-1#11 : BitVec 11).toNat at same
        omega
      · refine unsigned_unpack_packComponents fun top => ?_
        have other : (0#11 : BitVec 11) ≠ -1#11 := by decide
        exact absurd top other

/-- A quotient of numbers without a sign has none when the divisor is finite and not zero. -/
theorem Unsigned.div {number : UnpackedFloat} (unsigned : Unsigned number) (mantissa : Nat)
    (exponent : Int) (positive : 0 < mantissa) :
    Unsigned (div Format.binary64 number (.finite .positive mantissa exponent positive)) := by
  cases number with
  | notANumber => contradiction
  | infinity sign | zero sign =>
    obtain rfl : sign = .positive := unsigned
    rfl
  | finite sign =>
    obtain rfl : sign = .positive := unsigned
    exact unsigned_roundWithAccuracy _ _ _

/-- Digits with any exponent stand for a number without a sign. -/
theorem unsigned_scientific (digits : Nat) (exponent : Int) :
    Unsigned (ofScientific Format.binary64 digits exponent) := by
  unfold ofScientific
  exact .dite (fun _ => rfl) fun _ => iteInduction (fun _ => rfl) fun _ =>
    iteInduction (fun _ => rfl) fun _ =>
      iteInduction (fun _ => unsigned_roundWithAccuracy _ _ _) fun _ =>
        unsigned_roundWithAccuracy _ _ _

/-- A word becomes a double without a sign. -/
theorem unsigned_ofUInt64 (word : UInt64) : Unsigned word.toFloat.toModel.unpack := by
  show Unsigned (unpack Format.binary64 (pack Format.binary64
    (UnpackedFloat.ofInt Format.binary64 (word.toNat : Int))))
  apply Unsigned.unpack_pack
  unfold UnpackedFloat.ofInt UnpackedFloat.normalize
  split
  · rename_i less
    have negative : (word.toNat : Int) < 0 := Int.compare_eq_lt.mp less
    omega
  · rfl
  · exact unsigned_roundWithAccuracy _ _ _

/-- Whether a number, taken apart, is above zero and finite. -/
def isPositive : UnpackedFloat → Bool
  | .finite .positive _ _ _ => true
  | _ => false

/-- The tabulated powers of ten are above zero and finite. -/
theorem isPositive_powersOfTen (exponent : Fin 23) :
    isPositive (Float.exactlyRepresentablePowersOfTen[exponent]).toModel.unpack = true := by
  revert exponent
  decide

/-- Digits with a point among them stand for a double without a sign. -/
theorem unsigned_ofScientific (digits places : Nat) :
    Unsigned (Float.ofScientific digits true places).toModel.unpack := by
  unfold Float.ofScientific
  split
  · rename_i small
    simp only [if_true]
    have listed : places < Float.exactlyRepresentablePowersOfTen.size := Nat.lt_succ_of_le small.2
    show Unsigned (unpack Format.binary64 (pack Format.binary64 (Float.Model.UnpackedFloat.div
      Format.binary64 digits.toUInt64.toFloat.toModel.unpack
      (Float.exactlyRepresentablePowersOfTen[places]).toModel.unpack)))
    have power := isPositive_powersOfTen ⟨places, Nat.lt_succ_of_le small.2⟩
    apply Unsigned.unpack_pack
    generalize (Float.exactlyRepresentablePowersOfTen[places]).toModel.unpack = divisor at power ⊢
    cases divisor with
    | finite sign mantissa exponent above =>
      cases sign with
      | positive => exact (unsigned_ofUInt64 _).div _ _ _
      | negative => contradiction
    | notANumber | infinity | zero => contradiction
  · exact (unsigned_scientific _ _).unpack_pack

/-- A double without a sign is a number. -/
theorem Unsigned.isNaN {x : Float} (unsigned : Unsigned x.toModel.unpack) : x.isNaN = false := by
  show x.toModel.unpack.isNaN = false
  cases number : x.toModel.unpack with
  | notANumber =>
    rw [number] at unsigned
    contradiction
  | infinity | zero | finite => rfl

/-- A double without a sign is not negative. -/
theorem Unsigned.not_lt {x : Float} (unsigned : Unsigned x.toModel.unpack) : ¬x < 0.0 := by
  intro negative
  have less : (x.toModel.unpack.compare (.zero .positive) == some .lt) = true :=
    of_decide_eq_true (show Float.lt x 0.0 = true from negative)
  cases number : x.toModel.unpack with
  | notANumber =>
    rw [number] at unsigned
    contradiction
  | infinity sign | zero sign | finite sign =>
    rw [number] at unsigned less
    obtain rfl : sign = .positive := unsigned
    contradiction

end DecisionFlow.Number
