import DecisionFlow.Number.Binary64

/-!
# Nearness of doubles

Equal doubles are the same number or zeros of two signs, and equality is symmetric (`beq_comm`). Two
doubles are near when their difference is less than the distance from 1 to the next double. Equal
doubles are near (`near_of_beq`) except infinite ones, which nothing is near to, not even they
themselves (`near_of_isInf`): the difference is infinite or not a number.
-/
namespace DecisionFlow.Number

open Float.Model (Format UnpackedFloat)

/-! ## Equal doubles -/

/-- Numbers that compare as equal, taken apart, are the same or zeros of two signs. -/
theorem eq_or_zero_of_compare_eq {left right : UnpackedFloat}
    (equal : left.compare right = some .eq) :
    right = left ∨ ∃ sign other, left = .zero sign ∧ right = .zero other := by
  have ordered {exponent otherExponent : Int} {mantissa otherMantissa : Nat}
      (equal : (compare exponent otherExponent).then (compare mantissa otherMantissa) = .eq) :
      exponent = otherExponent ∧ mantissa = otherMantissa := by
    obtain ⟨exponents, mantissas⟩ := Ordering.then_eq_eq.mp equal
    exact ⟨Std.compare_eq_iff_eq.mp exponents, Std.compare_eq_iff_eq.mp mantissas⟩
  cases left with
  | notANumber => cases equal
  | infinity sign =>
    cases right with
    | infinity other =>
      cases sign <;> cases other
      · exact .inl rfl
      · contradiction
      · contradiction
      · exact .inl rfl
    | notANumber | zero | finite => cases sign <;> cases equal
  | zero sign =>
    cases right with
    | zero other => exact .inr ⟨sign, other, rfl, rfl⟩
    | notANumber => cases equal
    | infinity other | finite other => cases other <;> cases equal
  | finite sign mantissa exponent positive =>
    cases right with
    | notANumber | zero => cases sign <;> cases equal
    | infinity other => cases sign <;> cases other <;> cases equal
    | finite other otherMantissa otherExponent otherPositive =>
      cases sign <;> cases other
      · obtain ⟨rfl, rfl⟩ := ordered (Ordering.swap_eq_eq.mp (Option.some.inj equal))
        exact .inl rfl
      · cases equal
      · cases equal
      · obtain ⟨rfl, rfl⟩ := ordered (Option.some.inj equal)
        exact .inl rfl

/-- Numbers that compare as equal do so the other way. -/
theorem compare_eq_swap {left right : UnpackedFloat} (equal : left.compare right = some .eq) :
    right.compare left = some .eq := by
  obtain rfl | ⟨sign, other, rfl, rfl⟩ := eq_or_zero_of_compare_eq equal
  · exact equal
  · rfl

/-- Equality of doubles is symmetric. -/
theorem beq_comm (x y : Float) : (x == y) = (y == x) := by
  change (x.toModel.unpack.compare y.toModel.unpack == some .eq) =
    (y.toModel.unpack.compare x.toModel.unpack == some .eq)
  rw [Bool.eq_iff_iff, beq_iff_eq, beq_iff_eq]
  exact ⟨compare_eq_swap, compare_eq_swap⟩

/-! ## Near doubles -/

/-- Whether a difference, taken apart, is less than `epsilon`. -/
def small (difference : UnpackedFloat) : Bool :=
  (Float.abs ⟨Float.Model.pack difference⟩) < epsilon

variable {x y : Float}

/-- Doubles are near when their difference is small. -/
theorem near_eq_small (x y : Float) :
    near x y = small (UnpackedFloat.sub Format.binary64 x.toModel.unpack y.toModel.unpack) := rfl

/-- A zero of either sign is small. -/
theorem small_zero (sign : UnpackedFloat.Sign) : small (.zero sign) = true := by
  cases sign <;> rfl

/-- An infinity is not small. -/
theorem small_infinity (sign : UnpackedFloat.Sign) : small (.infinity sign) = false := by
  cases sign <;> rfl

/-- What is not a number is not small. -/
theorem small_notANumber : small .notANumber = false := rfl

/-- The difference of a zero and a zero is a zero. -/
theorem sub_zero_zero (sign other : UnpackedFloat.Sign) :
    ∃ sign', UnpackedFloat.sub Format.binary64 (.zero sign) (.zero other) = .zero sign' := by
  cases sign <;> cases other <;> exact ⟨_, rfl⟩

/-- A finite number less itself is zero. -/
theorem sub_self_finite (sign : UnpackedFloat.Sign) (mantissa : Nat) (exponent : Int)
    (positive : 0 < mantissa) :
    UnpackedFloat.sub Format.binary64 (.finite sign mantissa exponent positive)
      (.finite sign mantissa exponent positive) = .zero .positive := by
  show UnpackedFloat.normalize Format.binary64 (sign.apply _ - sign.apply _) _ _ = _
  rw [Int.sub_self]
  rfl

/-- Equal doubles are near unless they are infinite. -/
theorem near_of_beq (equal : (x == y) = true) (bounded : x.isInf = false) : near x y = true := by
  change (x.toModel.unpack.compare y.toModel.unpack == some .eq) = true at equal
  change x.toModel.unpack.isInf = false at bounded
  rw [beq_iff_eq] at equal
  rw [near_eq_small]
  generalize x.toModel.unpack = left at equal bounded ⊢
  generalize y.toModel.unpack = right at equal ⊢
  obtain rfl | ⟨sign, other, rfl, rfl⟩ := eq_or_zero_of_compare_eq equal
  · cases right with
    | notANumber => cases equal
    | infinity sign => contradiction
    | zero sign =>
      obtain ⟨difference, zero⟩ := sub_zero_zero sign sign
      rw [zero, small_zero]
    | finite => rw [sub_self_finite, small_zero]
  · obtain ⟨difference, zero⟩ := sub_zero_zero sign other
    rw [zero, small_zero]

/-- Nothing is near an infinite double. -/
theorem near_of_isInf (infinite : x.isInf = true) (y : Float) : near x y = false := by
  change x.toModel.unpack.isInf = true at infinite
  rw [near_eq_small]
  generalize x.toModel.unpack = left at infinite ⊢
  generalize y.toModel.unpack = right
  cases left with
  | infinity sign =>
    cases right with
    | notANumber => exact small_notANumber
    | infinity other =>
      -- The difference of infinities is one of them when their signs differ.
      cases sign <;> cases other
      · exact small_notANumber
      · exact small_infinity .negative
      · exact small_infinity .positive
      · exact small_notANumber
    | zero | finite => exact small_infinity sign
  | notANumber | zero | finite => contradiction

end DecisionFlow.Number
