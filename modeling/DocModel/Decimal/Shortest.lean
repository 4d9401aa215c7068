import DocModel.Decimal.Nearest

set_option autoImplicit false

/-! # The shortest decimal of a double

A finite double is read back from every decimal that is nearer to it than to its neighbours. Of
these decimals the one with the fewest digits is taken, of several the nearest, and of two that are
equally near the one with the even last digit. The double is a natural number times a power of two
and the interval that reads back is one of exact fractions, so no step rounds. -/

namespace DocModel.Decimal

/-- The decimal `digits · 10 ^ exponent`. -/
structure Scientific where
  digits : Nat
  exponent : Int
deriving DecidableEq, Inhabited

/-- A positive double as a fraction with the half widths of the interval that rounds to it. Below
and above are measured in units of `1 / denominator`; `closed` says that the ends of the interval
belong to it. -/
structure Interval where
  numerator : Nat
  denominator : Nat
  below : Nat
  above : Nat
  closed : Bool

/-- The interval of the double with these bits, without its sign. The neighbour below a power of
two is nearer than the one above. -/
def Interval.ofBits (bits : Nat) : Interval :=
  let fraction : Nat := bits % fractions
  let biased : Nat := bits / fractions % exponents
  let significand : Nat := if biased = 0 then fraction else fraction + fractions
  let power : Int := (if biased = 0 then 1 else (biased : Int)) - 1077
  let up := twoTo power
  let down := twoTo (-power)
  { numerator := 4 * significand * up
    denominator := down
    below := (if fraction = 0 ∧ biased > 1 then 1 else 2) * up
    above := 2 * up
    closed := significand % 2 = 0 }

/-- The fraction `n / d` lies in the interval. -/
def Interval.contains (i : Interval) (n d : Nat) : Bool :=
  let low := (i.numerator - i.below) * d
  let high := (i.numerator + i.above) * d
  let value := n * i.denominator
  if i.closed then low ≤ value ∧ value ≤ high else low < value ∧ value < high

/-- The fraction of a decimal. -/
def Scientific.fraction (s : Scientific) : Nat × Nat :=
  (s.digits * tenTo s.exponent, tenTo (-s.exponent))

/-- The power of ten just above `numerator / denominator`, searched upwards from `start`. -/
def magnitude (numerator denominator : Nat) (start : Int) : Nat → Int
  | 0 => start
  | steps + 1 =>
    if numerator * tenTo (-start) < denominator * tenTo start then start
    else magnitude numerator denominator (start + 1) steps

/-- The decimals next to the value on the grid of step `10 ^ exponent` that read back, the nearer
one first. -/
def Interval.candidate? (i : Interval) (exponent : Int) : Option Scientific :=
  let numerator := i.numerator * tenTo (-exponent)
  let denominator := i.denominator * tenTo exponent
  let down : Scientific := ⟨numerator / denominator, exponent⟩
  let up : Scientific := ⟨numerator / denominator + 1, exponent⟩
  let reads (s : Scientific) : Bool := i.contains s.fraction.1 s.fraction.2
  let twice := 2 * (numerator % denominator)
  let preferUp := twice > denominator ∨ (twice = denominator ∧ down.digits % 2 = 1)
  match reads down, reads up with
  | true, true => some (if preferUp then up else down)
  | true, false => some down
  | false, true => some up
  | false, false => none

/-- The candidate on the coarsest grid that has one; `digits` grids remain. -/
def Interval.search (i : Interval) (exponent : Int) : Nat → Scientific
  | 0 => ⟨i.numerator / i.denominator, 0⟩
  | digits + 1 =>
    match i.candidate? exponent with
    | some found => found
    | none => i.search (exponent - 1) digits

/-- Move trailing zeros of the digits into the exponent. -/
def Scientific.normalize (s : Scientific) : Nat → Scientific
  | 0 => s
  | steps + 1 =>
    if s.digits ≠ 0 ∧ s.digits % 10 = 0 then
      Scientific.normalize ⟨s.digits / 10, s.exponent + 1⟩ steps
    else s

/-- The shortest decimal of the size of a finite double that is not zero. Seventeen digits always
read back. -/
def shortest (f : Float) : Scientific :=
  let i := Interval.ofBits (f.toBits.toNat % (exponents * fractions))
  let top := magnitude i.numerator i.denominator (-324) 634
  (i.search (top - 1) 17).normalize 400

end DocModel.Decimal
