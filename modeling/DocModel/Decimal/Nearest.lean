set_option autoImplicit false

/-! # The nearest double of a decimal

A decimal is read as the double that is nearest to it, of two that are equally near the one with
the even significand. The decimal is a fraction of natural numbers, so only the last step rounds. -/

namespace DocModel.Decimal

/-! ## The layout of doubles

The bits of a double are a sign, eleven bits of exponent and 52 bits of fraction. -/

/-- How many fractions there are: the power of two above the 52 bits of a fraction. A significand
is a fraction, or a fraction and this power. -/
def fractions : Nat := 0x10000000000000

/-- How many exponents there are; the last one is that of infinity and NaN. -/
def exponents : Nat := 0x800

/-- The bits of infinity. -/
def infinityBits : Nat := (exponents - 1) * fractions

/-- The power of ten with a natural exponent, and one for a negative one. -/
def tenTo (exponent : Int) : Nat := Nat.pow 10 exponent.toNat

/-- The power of two with a natural exponent, and one for a negative one. -/
def twoTo (exponent : Int) : Nat := Nat.pow 2 exponent.toNat

/-! ## Rounding -/

/-- The natural number nearest to `numerator / denominator`; of two the even one. -/
def roundHalfEven (numerator denominator : Nat) : Nat :=
  let floor := numerator / denominator
  let twice := 2 * (numerator % denominator)
  if twice > denominator ∨ (twice = denominator ∧ floor % 2 = 1) then floor + 1 else floor

/-- The fraction `numerator / denominator / 2 ^ power`. -/
def scaled (numerator denominator : Nat) (power : Int) : Nat × Nat :=
  (numerator * twoTo (-power), denominator * twoTo power)

/-- The power of two that the last bit of the significand stands for. A significand has 53 bits,
and fewer only where the last bit would fall below the smallest double. -/
def lastBit (numerator denominator : Nat) : Int :=
  let guess : Int := (numerator.log2 : Int) - denominator.log2 - 53
  let (n, d) := scaled numerator denominator guess
  max (-1074) (if n / d < 2 * fractions then guess else guess + 1)

/-- The bits of the double nearest to a fraction that is not zero. A significand that rounds up to
54 bits carries into the exponent, and an exponent that is too large gives infinity. -/
def nearestBits (numerator denominator : Nat) : Nat :=
  let power := lastBit numerator denominator
  let (n, d) := scaled numerator denominator power
  min ((power + 1074).toNat * fractions + roundHalfEven n d) infinityBits

/-- The double nearest to `digits · 10 ^ exponent`. Decimals of more than 310 digits before the
point are infinite and those below the 400th place are zero. -/
def nearest (digits : Nat) (exponent : Int) : Float :=
  let point : Int := (Nat.toDigits 10 digits).length + exponent
  if digits = 0 ∨ point < -400 then 0.0
  else if point > 310 then Float.ofBits (.ofNat infinityBits)
  else Float.ofBits (.ofNat
    (nearestBits (digits * tenTo exponent) (tenTo (-exponent))))

end DocModel.Decimal
