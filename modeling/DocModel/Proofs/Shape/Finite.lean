import Mathlib.Algebra.Group.Nat.Defs

set_option autoImplicit false

/-! # Doubles of integers are finite

The double of an integer is found by shifting and rounding its mantissa. A shift raises the exponent
no higher than the format needs for a mantissa of this length, so for an integer of 64 bits it stays
far below the largest one of a double, and what is packed is not an infinity. -/

namespace DocModel.Double

open Float.Model Float.Model.UnpackedFloat

/-! ## Packing -/

/-- The number is zero, or its exponent is one that a double can have. -/
def InRange : UnpackedFloat → Prop
  | .zero _ => True
  | .finite _ _ exponent _ => exponent < 972
  | .infinity _ => False
  | .notANumber => False

/-- The exponent of a number in range is not the one of infinity. -/
theorem unpackExponent_pack_ne {number : UnpackedFloat} (h : InRange number) :
    unpackExponent (UnpackedFloat.pack Format.binary64 number) ≠ -1#_ := by
  cases number with
  | infinity _ => exact h.elim
  | notANumber => exact h.elim
  | zero sign =>
    change unpackExponent (packComponents Format.binary64 sign 0 0) ≠ _
    rw [unpackExponent_packComponents]
    decide
  | finite sign mantissa exponent hpos =>
    have hexponent : exponent < 972 := h
    have hbiased : (exponent + 1023 + 52).toNat < 2047 := by omega
    change unpackExponent (if 2048 ≤ (exponent + 1023 + 52).toNat + 1 then _ else _) ≠ _
    rw [if_neg (by omega)]
    split
    · rw [unpackExponent_packComponents, Ne, ← BitVec.toNat_inj, BitVec.toNat_ofNat]
      change (exponent + 1023 + 52).toNat % 2048 ≠ 2047
      omega
    · rw [unpackExponent_packComponents]
      decide

theorem isFinite_unpack {spec : Format} {bits : BitVec spec.numBits}
    (h : unpackExponent bits ≠ -1#_) : (UnpackedFloat.unpack spec bits).isFinite = true := by
  change (if unpackExponent bits = -1#_ then _ else if unpackExponent bits = 0#_ then
    if h : unpackMantissa bits = 0#_ then _ else _ else _ : UnpackedFloat).isFinite = true
  rw [if_neg h]
  by_cases hexponent : unpackExponent bits = 0#_
  · rw [if_pos hexponent]
    by_cases hmantissa : unpackMantissa bits = 0#_
    · rw [dif_pos hmantissa]
      rfl
    · rw [dif_neg hmantissa]
      rfl
  · rw [if_neg hexponent]
    rfl

theorem isFinite_pack {number : UnpackedFloat} (h : InRange number) :
    (Float.Model.pack number).isFinite = true :=
  isFinite_unpack (unpackExponent_pack_ne h)

/-! ## Shifting and rounding -/

theorem mantissa_shiftRight_le (em : ExtendedMantissa) (amount : Nat) :
    (em >>> amount).mantissa ≤ em.mantissa := by
  induction amount with
  | zero => exact Nat.le_refl _
  | succ amount ih =>
    have hone : (em >>> (amount + 1)).mantissa = (em >>> amount).mantissa / 2 := rfl
    omega

theorem roundedMantissa_le (em : ExtendedMantissa) : em.roundedMantissa ≤ em.mantissa + 1 := by
  obtain ⟨mantissa, roundBit, stickyBit⟩ := em
  cases roundBit <;> cases stickyBit <;>
    simp only [ExtendedMantissa.roundedMantissa, ExtendedMantissa.accuracy,
      Accuracy.roundToNearestEven] <;>
    omega

theorem mantissa_shiftToTargetExponent_le (spec : Format) (mantissa : Nat) (exponent : Int)
    (accuracy : Accuracy) :
    (shiftToTargetExponent spec mantissa exponent accuracy).1.mantissa ≤ mantissa := by
  refine Nat.le_trans (mantissa_shiftRight_le _ _) (Nat.le_of_eq ?_)
  cases accuracy with
  | exact => rfl
  | inexact side => cases side <;> rfl

/-- A shift raises the exponent no higher than a mantissa of this length needs. -/
theorem exponent_shiftToTargetExponent_le {mantissa bits : Nat} {exponent bound : Int}
    (accuracy : Accuracy) (hmantissa : mantissa < 2 ^ bits) (hexponent : exponent ≤ bound)
    (hbits : bits + exponent ≤ bound + 52) (hbound : -1074 ≤ bound) :
    (shiftToTargetExponent Format.binary64 mantissa exponent accuracy).2 ≤ bound := by
  have hlength : mantissa.log2 ≤ bits := by
    by_cases hzero : mantissa = 0
    · simp [hzero]
    · exact Nat.le_of_lt ((Nat.log2_lt hzero).2 hmantissa)
  change exponent
      + ((max ((mantissa.log2 : Int) + 1 + exponent - 53) (-1074) - exponent).toNat : Int)
    ≤ bound
  omega

/-- A mantissa that is rounded to nothing makes a zero. -/
theorem inRange_dite {sign : Sign} {mantissa : Nat} {exponent : Int} (h : exponent < 972) :
    InRange (if hzero : mantissa = 0 then .zero sign
      else .finite sign mantissa exponent (Nat.pos_of_ne_zero hzero)) := by
  by_cases hzero : mantissa = 0
  · rw [dif_pos hzero]
    trivial
  · rw [dif_neg hzero]
    exact h

/-- Rounding shifts once, rounds up by one at most and shifts again. -/
theorem inRange_roundWithAccuracy (sign : Sign) {mantissa : Nat} {exponent : Int}
    (accuracy : Accuracy) (hmantissa : mantissa < 2 ^ 116) (hexponent : exponent ≤ 0) :
    InRange (roundWithAccuracy Format.binary64 sign mantissa exponent accuracy) := by
  have hfirst : (shiftToTargetExponent Format.binary64 mantissa exponent accuracy).2 ≤ 64 :=
    exponent_shiftToTargetExponent_le accuracy hmantissa (by omega) (by omega) (by decide)
  have hrounded :
      (shiftToTargetExponent Format.binary64 mantissa exponent accuracy).1.roundedMantissa
        < 2 ^ 117 := by
    have hshift := mantissa_shiftToTargetExponent_le Format.binary64 mantissa exponent accuracy
    have hround := roundedMantissa_le
      (shiftToTargetExponent Format.binary64 mantissa exponent accuracy).1
    omega
  have hsecond := exponent_shiftToTargetExponent_le .exact hrounded
    (Int.le_trans hfirst (by decide : (64 : Int) ≤ 129)) (by omega) (by decide)
  exact inRange_dite (Int.lt_of_le_of_lt hsecond (by decide))

/-- The mantissa of a natural number is lengthened at the cost of its exponent. -/
theorem decreaseExponent_le {value : Nat} (h : value < 2 ^ 64) {target : Int}
    (htarget : -52 ≤ target) :
    (decreaseExponent value 0 target).1 < 2 ^ 116 ∧ (decreaseExponent value 0 target).2 ≤ 0 := by
  have hamount : (0 - target).toNat ≤ 52 := by omega
  constructor
  · change value <<< (0 - target).toNat < 2 ^ 116
    rw [Nat.shiftLeft_eq]
    calc value * 2 ^ (0 - target).toNat
      _ ≤ value * 2 ^ 52 := Nat.mul_le_mul_left _ (Nat.pow_le_pow_right (by decide) hamount)
      _ < 2 ^ 116 := by omega
  · change 0 - ((0 - target).toNat : Int) ≤ 0
    omega

/-- A natural number of at most 64 bits is rounded to one in range. -/
theorem inRange_round (sign : Sign) {value : Nat} (h : value < 2 ^ 64) :
    InRange (UnpackedFloat.round Format.binary64 sign value 0) := by
  have htarget : -52 ≤ Format.binary64.targetExponent (totalExponent value 0) := by
    change -52 ≤ max ((value.log2 : Int) + 1 + 0 - 53) (-1074)
    omega
  obtain ⟨hmantissa, hexponent⟩ := decreaseExponent_le h htarget
  exact inRange_roundWithAccuracy sign .exact hmantissa hexponent

/-- **The double of an integer of 64 bits is finite**, whether the integer has a sign or not. -/
theorem isFinite_ofInt {value : Int} (hlow : -0x8000000000000000 ≤ value)
    (hhigh : value < 0x10000000000000000) :
    (Float.Model.ofInt value).isFinite = true := by
  refine isFinite_pack ?_
  simp only [UnpackedFloat.ofInt, UnpackedFloat.normalize]
  split
  · exact inRange_round _ (by omega)
  · trivial
  · exact inRange_round _ (by omega)

end DocModel.Double
