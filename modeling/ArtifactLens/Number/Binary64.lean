import ArtifactLens.Number.Rounding
import ArtifactLens.Text.Blank
import ArtifactLens.Text.Digit

/-!
# Double-precision numbers

Times and time limits are numbers of the 64-bit binary floating-point format. A value is kept as
what it denotes: a significand below `2 ^ 53` times a power of two, or one of the exceptional
values. `ofDecimal` rounds a decimal to the nearest value, a half to the even significand;
`render` writes the fewest decimal digits that read back as the value, positional from 0.0001 up
to 10^16 and with an exponent outside; `parse?` reads a numeral.
-/

namespace ArtifactLens

/-- A number of the 64-bit binary format. -/
inductive Binary64 where
  | nan
  | infinite (negative : Bool)
  /-- The number `significand * 2 ^ exponent`; zero has significand zero. -/
  | finite (negative : Bool) (significand : Nat) (exponent : Int)
  deriving DecidableEq, Repr, Inhabited

namespace Binary64

/-- A non-negative quotient rounded to the nearest value. -/
def ofQuotient (negative : Bool) (numerator denominator : Nat) : Binary64 :=
  if numerator = 0 then .finite negative 0 0
  else
    let (significand, exponent) := Rounding.binary 53 (-1074) numerator denominator
    if significand = 0 then .finite negative 0 0
    else if exponent > 971 then .infinite negative
    else .finite negative significand exponent

/-- The value nearest to `digits * 10 ^ scale`. Scales beyond the range of the format are answered
without computing the power. -/
def ofDecimal (negative : Bool) (digits : Nat) (scale : Int) : Binary64 :=
  if digits = 0 then .finite negative 0 0
  else
    let magnitude : Int := scale + (Digit.digitsFrom 10 (digits.log2 + 1) digits).length
    if magnitude > 310 then .infinite negative
    else if magnitude < -330 then .finite negative 0 0
    else if scale ≥ 0 then ofQuotient negative (digits * 10 ^ scale.toNat) 1
    else ofQuotient negative digits (10 ^ (-scale).toNat)

/-- The exact value of a finite number. -/
def toRat? : Binary64 → Option Rat
  | .finite negative significand exponent =>
    let magnitude : Rat :=
      if exponent ≥ 0 then ((significand * 2 ^ exponent.toNat : Nat) : Rat)
      else mkRat significand (2 ^ (-exponent).toNat)
    some (if negative then -magnitude else magnitude)
  | _ => none

/-- The value nearest to a rational number. -/
def ofRat (value : Rat) : Binary64 :=
  ofQuotient (value.num < 0) value.num.natAbs value.den

/-- The number is zero, of either sign. -/
def isZero : Binary64 → Bool
  | .finite _ significand _ => significand == 0
  | _ => false

/-! ### Shortest text -/

/-- A decimal `digits * 10 ^ scale`. -/
structure Decimal where
  digits : Nat
  scale : Int
  deriving DecidableEq, Repr

/-- The number of decimal digits of a positive number. -/
def width (n : Nat) : Nat := (Digit.digitsFrom 10 (n.log2 + 1) n).length

/-- The exponent of ten of the leading digit of a positive quotient. -/
def leadingExponent (numerator denominator : Nat) : Int :=
  let guess : Int := (width numerator : Int) - width denominator
  let atLeast (e : Int) : Bool :=
    if e ≥ 0 then denominator * 10 ^ e.toNat ≤ numerator
    else denominator ≤ numerator * 10 ^ (-e).toNat
  if atLeast guess then guess else guess - 1

/-- The decimal with the given scale that reads back as the value and lies nearest to it, if there
is one: one of the two neighbours of the value on that decimal grid. -/
def neighbour? (significand : Nat) (exponent : Int) (numerator denominator : Nat) (scale : Int) :
    Option Decimal :=
  let scaled : Nat × Nat :=
    if scale ≥ 0 then (numerator, denominator * 10 ^ scale.toNat)
    else (numerator * 10 ^ (-scale).toNat, denominator)
  let below := scaled.1 / scaled.2
  let twice := 2 * (scaled.1 % scaled.2)
  let readsBack (digits : Nat) : Bool :=
    digits != 0 && ofDecimal false digits scale == .finite false significand exponent
  let belowFirst := twice < scaled.2 || (twice == scaled.2 && below % 2 == 0)
  let order := if belowFirst then [below, below + 1] else [below + 1, below]
  (order.find? readsBack).map fun digits => ⟨digits, scale⟩

/-- The decimal with the fewest digits that reads back as a positive value, and of those the
nearest to it. Seventeen digits always suffice. -/
def shortest (significand : Nat) (exponent : Int) : Decimal :=
  let numerator := if exponent ≥ 0 then significand * 2 ^ exponent.toNat else significand
  let denominator := if exponent ≥ 0 then 1 else 2 ^ (-exponent).toNat
  let leading := leadingExponent numerator denominator
  ((List.range 17).findSome? fun (n : Nat) =>
    neighbour? significand exponent numerator denominator (leading - n)).getD ⟨significand, 0⟩

/-- The digits of a number with trailing zeros dropped, and the number of zeros dropped. -/
def strip (digits : List Char) : List Char × Nat :=
  let kept := (digits.reverse.dropWhile (· == '0')).reverse
  (kept, digits.length - kept.length)

/-- The text of a positive value: positional when the leading digit stands between 10^-4 and
10^15, and with an exponent of at least two digits otherwise. -/
def renderPositive (significand : Nat) (exponent : Int) : String :=
  let decimal := shortest significand exponent
  let (digits, dropped) := strip (toString decimal.digits).toList
  let scale := decimal.scale + dropped
  let point : Int := digits.length + scale
  if -4 < point ∧ point ≤ 16 then
    if point ≤ 0 then
      "0." ++ String.ofList (List.replicate (-point).toNat '0' ++ digits)
    else if scale ≥ 0 then
      String.ofList (digits ++ List.replicate scale.toNat '0') ++ ".0"
    else
      String.ofList (digits.take point.toNat) ++ "." ++ String.ofList (digits.drop point.toNat)
  else
    let e := point - 1
    let mantissa := match digits with
      | [] => "0"
      | [d] => String.ofList [d]
      | d :: rest => String.ofList (d :: '.' :: rest)
    mantissa ++ (if e < 0 then "e-" else "e+") ++ Digit.padLeft 2 '0' (toString e.natAbs)

/-- The shortest text that reads back as the value. -/
def render : Binary64 → String
  | .nan => "nan"
  | .infinite negative => if negative then "-inf" else "inf"
  | .finite negative significand exponent =>
    (if negative then "-" else "") ++
      (if significand = 0 then "0.0" else renderPositive significand exponent)

/-! ### Reading numerals -/

/-- Drops the underscores that stand between two digits; none other may occur. -/
def dropUnderscores (before : Bool) : List Char → Option (List Char)
  | [] => some []
  | '_' :: rest =>
    match rest with
    | d :: _ => if before && d.isDigit then dropUnderscores false rest else none
    | [] => none
  | c :: rest => (dropUnderscores c.isDigit rest).map (c :: ·)

/-- Splits a sign off a numeral: whether it is negative, and the rest. -/
def splitSign : List Char → Bool × List Char
  | '-' :: rest => (true, rest)
  | '+' :: rest => (false, rest)
  | text => (false, text)

/-- The value of an exponent part: nothing, or `e`, a sign and digits. -/
def exponentPart? : List Char → Option Int
  | [] => some 0
  | c :: rest =>
    if c = 'e' || c = 'E' then
      let (negative, digits) := splitSign rest
      if digits.isEmpty || !digits.all Char.isDigit then none
      else
        let n : Int := Digit.numeral digits
        some (if negative then -n else n)
    else none

/-- Reads an unsigned numeral in ASCII: digits with an optional point and exponent, or the name of
an exceptional value in any case. -/
def parseUnsigned? (negative : Bool) (text : List Char) : Option Binary64 :=
  let name := String.ofList (text.map Char.toLower)
  if name = "inf" ∨ name = "infinity" then some (.infinite negative)
  else if name = "nan" then some .nan
  else
    let whole := text.takeWhile Char.isDigit
    let rest := text.dropWhile Char.isDigit
    let (fraction, rest) := match rest with
      | '.' :: more => (more.takeWhile Char.isDigit, more.dropWhile Char.isDigit)
      | _ => ([], rest)
    if whole.isEmpty && fraction.isEmpty then none
    else (exponentPart? rest).map fun e =>
      ofDecimal negative (Digit.numeral (whole ++ fraction)) (e - fraction.length)

/-- The character may surround a numeral: a blank other than the information separators. -/
def isPadding (c : Char) : Bool := isBlank c && !(0x1c ≤ c.toNat && c.toNat ≤ 0x1f)

/-- Reads a numeral with surrounding blanks, underscores between digits and digits of any script. -/
def parse? (text : String) : Option Binary64 :=
  let bare := ((text.toList.dropWhile isPadding).reverse.dropWhile isPadding).reverse
  let ascii := bare.map fun c =>
    match Digit.value? c with
    | some d => Digit.hexDigit d
    | none => c
  match dropUnderscores false ascii with
  | none => none
  | some digits =>
    let (negative, rest) := splitSign digits
    parseUnsigned? negative rest

end Binary64

/-! ### Instants

Moments of time, as modification times and clock readings. Each is the exact value of a number of
the double format, so moments compare as those numbers do. -/

/-- A moment, as the exact value of a modification time or a clock reading. -/
abbrev Instant := Rat

namespace Instant

/-- The moment nearest to `digits * 10 ^ -places`. A number beyond the range of the format counts
as zero. -/
def ofDecimal (digits : Int) (places : Nat) : Instant :=
  ((Binary64.ofDecimal (digits < 0) digits.natAbs (-places)).toRat?).getD 0

/-- The moment that lies a span after another, as a number of the double format. -/
def after (moment span : Instant) : Instant :=
  ((Binary64.ofRat (moment + span)).toRat?).getD moment

end Instant

end ArtifactLens
