/-!
# Powers and rounding

A power of natural numbers or of integers is the power of the core library, also in a module that
has other instances at hand.

A quotient is rounded to the nearest integer by `Rounding.quotient`, and to the nearest number with
so many bits by `Rounding.binary`. A half goes to the even neighbour.
-/

attribute [instance (1100), default_instance 20000] instPowNat

namespace ArtifactLens

namespace Rounding

/-- A quotient rounded to the nearest integer, a half to the even neighbour. -/
def quotient (numerator denominator : Nat) : Nat :=
  let whole := numerator / denominator
  let twice := 2 * (numerator % denominator)
  if twice < denominator then whole
  else if denominator < twice then whole + 1
  else whole + whole % 2

/-- The nearest number `significand * 2 ^ exponent` to a positive quotient, where the significand
stays below `2 ^ bits` and the exponent does not fall below the least one. -/
def binary (bits : Nat) (least : Int) (numerator denominator : Nat) : Nat × Int :=
  -- The exponent of the last place: the quotient lies below `2 ^ (exponent + bits)`.
  let guess : Int := (numerator.log2 : Int) - denominator.log2 - bits
  let fits (e : Int) : Bool :=
    if e ≥ -bits then numerator < denominator * 2 ^ (e + bits).toNat
    else numerator * 2 ^ (-(e + bits)).toNat < denominator
  let exponent := max (if fits guess then guess else guess + 1) least
  let significand :=
    if exponent ≥ 0 then quotient numerator (denominator * 2 ^ exponent.toNat)
    else quotient (numerator * 2 ^ (-exponent).toNat) denominator
  if significand = 2 ^ bits then (2 ^ (bits - 1), exponent + 1) else (significand, exponent)

end Rounding

end ArtifactLens
