set_option autoImplicit false

/-! # Ratios

Coverage is computed and checked with the operations below only. Doubles are what a model holds
when it is written; exact rationals have the same operations without rounding. -/

namespace DocModel

/-- The arithmetic of coverage. -/
class Ratio (ρ : Type) where
  ofCount : Nat → ρ
  div : ρ → ρ → ρ
  /-- How far two ratios are apart. -/
  distance : ρ → ρ → ρ
  atMost : ρ → ρ → Bool
  below : ρ → ρ → Bool
  /-- The distance that no longer counts as agreement. -/
  tolerance : ρ

namespace Ratio

variable {ρ : Type} [Ratio ρ]

/-- The share of `part` in `whole`; nothing has a share of zero. -/
def share (part whole : Nat) : ρ :=
  if whole = 0 then ofCount 0 else div (ofCount part) (ofCount whole)

/-- The ratio lies between zero and one and is nearer to `expected` than the tolerance. -/
def agrees (ratio expected : ρ) : Bool :=
  atMost (ofCount 0) ratio && atMost ratio (ofCount 1) && below (distance ratio expected) tolerance

end Ratio

instance : Ratio Float where
  ofCount := Float.ofNat
  div a b := a / b
  distance a b := (a - b).abs
  atMost a b := a ≤ b
  below a b := a < b
  tolerance := 1e-9

instance : Ratio Rat where
  ofCount n := n
  div a b := a / b
  distance a b := (a - b).abs
  atMost a b := a ≤ b
  below a b := a < b
  tolerance := 1 / 1000000000

end DocModel
