import ArtifactLens.Number.Binary64
import ArtifactLens.Number.Extended
import ArtifactLens.Shell.Arithmetic

/-!
# Conversions of values to text

A conversion has flags, a width, a precision and a letter, as `%-8.3f` has: it turns a text or a
number into a text of at least the width. The same conversions serve every command that prints
by a format.
-/

namespace ArtifactLens.Shell

/-- A conversion; the letter tells the kind of the value. -/
structure Conversion where
  alternate : Bool := false
  leftAligned : Bool := false
  plus : Bool := false
  space : Bool := false
  zeros : Bool := false
  width : Nat := 0
  precision : Option Nat := none
  letter : Char

namespace Conversion

/-- Sets the flag of a character. -/
def flag (conversion : Conversion) (c : Char) : Conversion :=
  match c with
  | '#' => { conversion with alternate := true }
  | '-' => { conversion with leftAligned := true }
  | '+' => { conversion with plus := true }
  | ' ' => { conversion with space := true }
  | '0' => { conversion with zeros := true }
  | _ => conversion

/-- The character sets a flag. -/
def isFlag (c : Char) : Bool := c == '#' || c == '-' || c == '+' || c == ' ' || c == '0'

/-- A text padded with blanks to the width. -/
def pad (conversion : Conversion) (text : String) : String :=
  let blanks := String.ofList (List.replicate (conversion.width - text.length) ' ')
  if conversion.leftAligned then text ++ blanks else blanks ++ text

/-- A number padded to the width: a sign or a mark of its base stands before the zeros. -/
def padNumber (conversion : Conversion) (allowZeros : Bool) (start digits : String) : String :=
  if conversion.zeros ∧ !conversion.leftAligned ∧ allowZeros then
    start ++ String.ofList (List.replicate (conversion.width - start.length - digits.length) '0') ++
      digits
  else conversion.pad (start ++ digits)

/-- The sign of a number. -/
def sign (conversion : Conversion) (negative : Bool) : String :=
  if negative then "-" else if conversion.plus then "+" else if conversion.space then " " else ""

/-- A text, cut to the precision. -/
def text (conversion : Conversion) (value : String) : String :=
  conversion.pad <| match conversion.precision with
    | some precision => (value.take precision).toString
    | none => value

/-- The digits of a number in a base, with leading zeros up to the precision. -/
def digits (conversion : Conversion) (base n : Nat) : String :=
  let digits := if n = 0 then ['0'] else (Digit.digitsFrom base (n.log2 + 1) n).reverse
  match conversion.precision with
  | some 0 => if n = 0 then "" else String.ofList digits
  | some precision =>
    String.ofList (List.replicate (precision - digits.length) '0' ++ digits)
  | none => String.ofList digits

/-- An integer in decimal. -/
def integer (conversion : Conversion) (value : Int) : String :=
  conversion.padNumber conversion.precision.isNone (conversion.sign (value < 0))
    (conversion.digits 10 value.natAbs)

/-- A natural number in the base of the letter. -/
def natural (conversion : Conversion) (value : Nat) : String :=
  let (start, digits) := match conversion.letter with
    | 'o' =>
      let digits := conversion.digits 8 value
      ("", if conversion.alternate ∧ !digits.startsWith "0" then "0" ++ digits else digits)
    | 'x' => (if conversion.alternate ∧ value ≠ 0 then "0x" else "", conversion.digits 16 value)
    | 'X' =>
      (if conversion.alternate ∧ value ≠ 0 then "0X" else "",
        (conversion.digits 16 value).map Char.toUpper)
    | _ => ("", conversion.digits 10 value)
  conversion.padNumber conversion.precision.isNone start digits

/-- The digits of a non-negative quotient with a number of decimal places. -/
def fixed (numerator denominator places : Nat) (alternate : Bool) : String :=
  let n := Rounding.quotient (numerator * 10 ^ places) denominator
  let whole := toString (n / 10 ^ places)
  if places = 0 then (if alternate then whole ++ "." else whole)
  else whole ++ "." ++ Digit.padLeft places '0' (toString (n % 10 ^ places))

/-- A non-negative quotient as digits with one before the point, and the exponent of ten. -/
def scientific (numerator denominator places : Nat) : Nat × Int :=
  if numerator = 0 then (0, 0)
  else
    let exponent := Binary64.leadingExponent numerator denominator
    let shift := (places : Int) - exponent
    let n := if shift ≥ 0 then Rounding.quotient (numerator * 10 ^ shift.toNat) denominator
      else Rounding.quotient numerator (denominator * 10 ^ (-shift).toNat)
    if n ≥ 10 ^ (places + 1) then (n / 10, exponent + 1) else (n, exponent)

/-- Digits with one before the point, and an exponent of at least two digits. -/
def withExponent (n : Nat) (exponent : Int) (places : Nat) (alternate : Bool) : String :=
  let whole := toString (n / 10 ^ places)
  let mantissa := if places = 0 then (if alternate then whole ++ "." else whole)
    else whole ++ "." ++ Digit.padLeft places '0' (toString (n % 10 ^ places))
  mantissa ++ (if exponent < 0 then "e-" else "e+") ++
    Digit.padLeft 2 '0' (toString exponent.natAbs)

/-- A text without the zeros after its point that end it. -/
def dropZeros (text : String) : String :=
  let (mantissa, rest) := match text.splitOn "e" with
    | [mantissa, exponent] => (mantissa, "e" ++ exponent)
    | _ => (text, "")
  if mantissa.contains '.' then
    let kept := mantissa.toList.reverse.dropWhile (· == '0')
    let kept := match kept with
      | '.' :: more => more
      | other => other
    String.ofList kept.reverse ++ rest
  else text

/-- A quotient by the letter of the conversion. -/
def quotient (conversion : Conversion) (negative : Bool) (numerator denominator : Nat) : String :=
  let precision := conversion.precision.getD 6
  let body := match conversion.letter.toLower with
    | 'f' => fixed numerator denominator precision conversion.alternate
    | 'e' =>
      let (n, exponent) := scientific numerator denominator precision
      withExponent n exponent precision conversion.alternate
    | _ =>
      let places := max precision 1 - 1
      let (n, exponent) := scientific numerator denominator places
      let whole := if exponent < -4 ∨ exponent > places then
          withExponent n exponent places conversion.alternate
        else fixed numerator denominator ((places : Int) - exponent).toNat conversion.alternate
      if conversion.alternate then whole else dropZeros whole
  let body := if conversion.letter.isUpper then body.map Char.toUpper else body
  conversion.padNumber true (conversion.sign negative) body

/-- A number that is not finite, by its name. -/
def named (conversion : Conversion) (negative : Bool) (name : String) : String :=
  conversion.padNumber false (conversion.sign negative)
    (if conversion.letter.isUpper then name.map Char.toUpper else name)

/-- Hexadecimal digits, some of them after the point, with a power of two. -/
def withPower (conversion : Conversion) (negative : Bool) (places bits : Nat) (power : Int) :
    String :=
  let hex (n : Nat) : String := String.ofList (if n = 0 then ['0'] else (Digit.hex n).toList)
  let fraction := if places = 0 then (if conversion.alternate then "." else "")
    else "." ++ Digit.padLeft places '0' (hex (bits % 16 ^ places))
  let body := hex (bits / 16 ^ places) ++ fraction ++ (if power < 0 then "p-" else "p+") ++
    toString power.natAbs
  let upper (text : String) : String :=
    if conversion.letter.isUpper then text.map Char.toUpper else text
  conversion.padNumber true (conversion.sign negative ++ upper "0x") (upper body)

/-- Hexadecimal digits of which some stand after the point, brought to as many as the precision asks
for; without one, zeros at the end are left out. -/
def toPlaces (conversion : Conversion) (places bits : Nat) : Nat × Nat :=
  match conversion.precision with
  | some precision =>
    if precision < places then
      (precision, Rounding.quotient bits (16 ^ (places - precision)))
    else (precision, bits * 16 ^ (precision - places))
  | none =>
    let zeros := ((List.range places).takeWhile fun n => bits % 16 ^ (n + 1) = 0).length
    (places - zeros, bits / 16 ^ zeros)

/-- A finite double-precision number as hexadecimal digits, one bit of them before the point. -/
def powerOfTwo (conversion : Conversion) (negative : Bool) (significand : Nat) (exponent : Int) :
    String :=
  -- The digits hold 52 bits after the point; the exponent is that of the digit before it.
  let (bits, power) : Nat × Int :=
    if significand = 0 then (0, 0)
    else
      let power := max (exponent + significand.log2) (-1022)
      (significand * 2 ^ (exponent - power + 52).toNat, power)
  let (places, bits) := conversion.toPlaces 13 bits
  conversion.withPower negative places bits power

/-- A finite extended number as hexadecimal digits, four bits of them before the point. -/
def powerOfSixteen (conversion : Conversion) (negative : Bool) (significand : Nat)
    (exponent : Int) : String :=
  let (bits, power) : Nat × Int :=
    if significand = 0 then (0, 0)
    else
      let power := max (exponent + significand.log2 - 3) (-16385)
      (significand * 2 ^ (exponent - power + 60).toNat, power)
  let (places, bits) := conversion.toPlaces 15 bits
  -- Rounding may lead to one digit more.
  if bits = 16 ^ (places + 1) then conversion.withPower negative places (bits / 16) (power + 4)
  else conversion.withPower negative places bits power

/-- The number `significand * 2 ^ exponent` by a letter for decimals. -/
def dyadic (conversion : Conversion) (negative : Bool) (significand : Nat) (exponent : Int) :
    String :=
  if exponent ≥ 0 then conversion.quotient negative (significand * 2 ^ exponent.toNat) 1
  else conversion.quotient negative significand (2 ^ (-exponent).toNat)

/-- A double-precision number by the letter of the conversion. -/
def double (conversion : Conversion) (value : Binary64) : String :=
  match value with
  | .nan => conversion.named false "nan"
  | .infinite negative => conversion.named negative "inf"
  | .finite negative significand exponent =>
    if conversion.letter.toLower = 'a' then conversion.powerOfTwo negative significand exponent
    else conversion.dyadic negative significand exponent

/-- An extended number by the letter of the conversion. -/
def extended (conversion : Conversion) (value : Extended) : String :=
  match value with
  | .nan negative => conversion.named negative "nan"
  | .infinite negative => conversion.named negative "inf"
  | .finite negative significand exponent =>
    if conversion.letter.toLower = 'a' then conversion.powerOfSixteen negative significand exponent
    else conversion.dyadic negative significand exponent

/-- Reads digits with a point among them at the start of a text: the digits, how many of them
stand after the point, and the text after them. -/
def pointed? (isDigit : Char → Bool) (text : List Char) : Option (List Char × Nat × List Char) :=
  let whole := text.takeWhile isDigit
  let rest := text.drop whole.length
  let (fraction, rest) := match rest with
    | '.' :: more =>
      let digits := more.takeWhile isDigit
      if whole.isEmpty ∧ digits.isEmpty then ([], rest) else (digits, more.drop digits.length)
    | _ => ([], rest)
  if whole.isEmpty ∧ fraction.isEmpty then none else some (whole ++ fraction, fraction.length, rest)

/-- Reads the exponent that a letter starts: its value and the text after it. -/
def exponentAt (letter : Char) (text : List Char) : Int × List Char :=
  match text with
  | e :: more =>
    if e.toLower = letter then
      let (minus, after) := match more with
        | '-' :: after => (true, after)
        | '+' :: after => (false, after)
        | after => (false, after)
      let places := after.takeWhile Char.isDigit
      if places.isEmpty then (0, text)
      else
        let size : Int := Digit.numeral places
        (if minus then -size else size, after.drop places.length)
    else (0, text)
  | [] => (0, text)

/-- What a floating-point numeral says, its sign apart. -/
inductive Magnitude where
  | nan
  | infinite
  /-- The number `n * base ^ scale`. -/
  | number (n base : Nat) (scale : Int)

/-- A floating-point numeral that was read. -/
structure FloatNumeral where
  negative : Bool
  magnitude : Magnitude
  /-- The text after the numeral. -/
  rest : List Char

namespace FloatNumeral

/-- The number `n * base ^ scale` is not held exactly where numbers lack bits, or lies beyond the
range; `least` is the exponent that the first bit of other numbers has at least. -/
def isBeyond (n base : Nat) (scale least : Int) (significand : Nat) (exponent : Int) : Bool :=
  if n = 0 ∨ (significand ≠ 0 ∧ exponent + significand.log2 ≥ least) then false
  else
    significand == 0 || n * 2 ^ (-exponent).toNat != significand * base ^ (-scale).toNat

/-- The value in double precision, and whether it lies outside the range of the format. -/
def toBinary64 (numeral : FloatNumeral) : Binary64 × Bool :=
  match numeral.magnitude with
  | .nan => (.nan, false)
  | .infinite => (.infinite numeral.negative, false)
  | .number n base scale =>
    let magnitude := scale + n.log2
    let value := if base = 10 then Binary64.ofDecimal numeral.negative n scale
      else if n = 0 ∨ magnitude < -1100 then .finite numeral.negative 0 0
      else if magnitude > 1100 then .infinite numeral.negative
      else if scale ≥ 0 then .ofQuotient numeral.negative (n * 2 ^ scale.toNat) 1
      else .ofQuotient numeral.negative n (2 ^ (-scale).toNat)
    match value with
    | .finite _ significand exponent =>
      (value, isBeyond n base scale (-1022) significand exponent)
    | _ => (value, true)

/-- The value in extended precision, and whether it lies outside the range of the format. -/
def toExtended (numeral : FloatNumeral) : Extended × Bool :=
  match numeral.magnitude with
  | .nan => (.nan numeral.negative, false)
  | .infinite => (.infinite numeral.negative, false)
  | .number n base scale =>
    let value := Extended.ofScaled numeral.negative n base scale
    match value with
    | .finite _ significand exponent =>
      (value, isBeyond n base scale (-16382) significand exponent)
    | _ => (value, true)

end FloatNumeral

/-- Reads a hexadecimal numeral from after its mark. -/
def readHex? (negative : Bool) (text : List Char) : Option FloatNumeral :=
  (pointed? (fun c => (Digit.hexValue? c).isSome) text).map fun (digits, places, rest) =>
    let (exponent, rest) := exponentAt 'p' rest
    { negative, magnitude := .number (Digit.hexNumeral digits) 2 (exponent - 4 * places), rest }

/-- Leaves out what may follow the name of what is no number: a word in parentheses. -/
def afterNan (text : List Char) : List Char :=
  match text with
  | '(' :: more =>
    match more.dropWhile fun c => c.isAlphanum || c == '_' with
    | ')' :: rest => rest
    | _ => text
  | _ => text

/-- Reads a floating-point numeral at the start of a text. -/
def readFloat (text : List Char) : Option FloatNumeral :=
  let text := text.dropWhile Arithmetic.isSpace
  let (negative, body) := match text with
    | '-' :: rest => (true, rest)
    | '+' :: rest => (false, rest)
    | rest => (false, rest)
  let lower := (body.take 8).map Char.toLower
  if "infinity".toList.isPrefixOf lower then some ⟨negative, .infinite, body.drop 8⟩
  else if "inf".toList.isPrefixOf lower then some ⟨negative, .infinite, body.drop 3⟩
  else if "nan".toList.isPrefixOf lower then some ⟨negative, .nan, afterNan (body.drop 3)⟩
  else
    let hex := match body with
      | '0' :: 'x' :: rest | '0' :: 'X' :: rest => readHex? negative rest
      | _ => none
    match hex with
    | some result => some result
    | none =>
      (pointed? Char.isDigit body).map fun (digits, places, rest) =>
        let (exponent, rest) := exponentAt 'e' rest
        { negative, magnitude := .number (Digit.numeral digits) 10 (exponent - places), rest }

end Conversion

end ArtifactLens.Shell
