import ArtifactLens.Number.Rounding
import ArtifactLens.Text.Digit

/-!
# Extended precision

Programs that calculate with long numbers use the 80-bit binary format, whose significands have 64
bits. A value is kept as what it denotes, as `Binary64` keeps those of the shorter format; that which
is no number has a sign too. `Extended.ofScaled` rounds a numeral to the nearest value, and sums and
products are those of the exact values, rounded once.
-/

namespace ArtifactLens

/-- A number of the 80-bit binary format. -/
inductive Extended where
  | nan (negative : Bool)
  | infinite (negative : Bool)
  /-- The number `significand * 2 ^ exponent`; zero has significand zero. -/
  | finite (negative : Bool) (significand : Nat) (exponent : Int)
  deriving DecidableEq, Repr, Inhabited

namespace Extended

/-- The least exponent of a last place. -/
def leastExponent : Int := -16445

/-- A non-negative quotient rounded to the nearest value. -/
def ofQuotient (negative : Bool) (numerator denominator : Nat) : Extended :=
  if numerator = 0 then .finite negative 0 0
  else
    let (significand, exponent) := Rounding.binary 64 leastExponent numerator denominator
    if significand = 0 then .finite negative 0 0
    else if exponent > 16320 then .infinite negative
    else .finite negative significand exponent

/-- The value nearest to `n * base ^ scale`, where the base is two or ten. Scales beyond the range of
the format are answered without computing the power. -/
def ofScaled (negative : Bool) (n base : Nat) (scale : Int) : Extended :=
  if n = 0 then .finite negative 0 0
  else
    -- Powers of ten lie between those of eight and of sixteen.
    let most : Int := n.log2 + 1 + scale * (if base = 2 then 1 else if scale ≥ 0 then 4 else 3)
    let least : Int := n.log2 + scale * (if base = 2 then 1 else if scale ≥ 0 then 3 else 4)
    if least > 16400 then .infinite negative
    else if most < -16500 then .finite negative 0 0
    else if scale ≥ 0 then ofQuotient negative (n * base ^ scale.toNat) 1
    else ofQuotient negative n (base ^ (-scale).toNat)

/-- The exact value of a finite number. -/
def toRat? : Extended → Option Rat
  | .finite negative significand exponent =>
    let magnitude : Rat :=
      if exponent ≥ 0 then ((significand * 2 ^ exponent.toNat : Nat) : Rat)
      else mkRat significand (2 ^ (-exponent).toNat)
    some (if negative then -magnitude else magnitude)
  | _ => none

/-- The value nearest to a rational number. -/
def ofRat (value : Rat) : Extended := ofQuotient (value.num < 0) value.num.natAbs value.den

/-- The value of a natural number. -/
def ofNat (n : Nat) : Extended := ofQuotient false n 1

/-- The number is negative, or a negative zero. -/
def isNegative : Extended → Bool
  | .nan negative | .infinite negative | .finite negative _ _ => negative

/-- The number is zero, of either sign. -/
def isZero : Extended → Bool
  | .finite _ significand _ => significand == 0
  | _ => false

/-- What is no number. -/
def isNan : Extended → Bool
  | .nan _ => true
  | _ => false

/-- Compares numbers; none compares with what is no number. -/
def compare? (a b : Extended) : Option Ordering :=
  let rank : Extended → Option (Int × Rat)
    | .nan _ => none
    | .infinite negative => some (if negative then -1 else 1, 0)
    | value => some (0, value.toRat?.getD 0)
  match rank a, rank b with
  | some (i, x), some (j, y) =>
    some (if i < j then .lt else if j < i then .gt
      else if x < y then .lt else if y < x then .gt else .eq)
  | _, _ => none

/-- The sum of two numbers. A sum of zero is positive unless both are negative zeros. -/
def add (a b : Extended) : Extended :=
  match a, b with
  | .nan s, _ | _, .nan s => .nan s
  | .infinite s, .infinite t => if s = t then .infinite s else .nan true
  | .infinite s, _ | _, .infinite s => .infinite s
  | .finite s _ _, .finite t _ _ =>
    let sum := a.toRat?.getD 0 + b.toRat?.getD 0
    if sum = 0 then .finite (s && t) 0 0 else ofRat sum

/-- The product of two numbers. -/
def mul (a b : Extended) : Extended :=
  let negative := a.isNegative != b.isNegative
  match a, b with
  | .nan s, _ | _, .nan s => .nan s
  | .infinite _, other | other, .infinite _ => if other.isZero then .nan true else .infinite negative
  | .finite _ m e, .finite _ n f =>
    let scale := e + f
    if scale ≥ 0 then ofQuotient negative (m * n * 2 ^ scale.toNat) 1
    else ofQuotient negative (m * n) (2 ^ (-scale).toNat)

instance : Add Extended := ⟨add⟩

instance : Mul Extended := ⟨mul⟩

end Extended

end ArtifactLens
