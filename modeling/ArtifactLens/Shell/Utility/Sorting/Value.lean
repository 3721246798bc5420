import ArtifactLens.Shell.Conversion
import ArtifactLens.Shell.Digest.Blocks
import ArtifactLens.Shell.Utility.Sorting.Key
import ArtifactLens.Shell.Utility.Version

/-!
# Values of keys

What the part of a line that a key names is compared as: a text, octet by octet; a number, perhaps with
a letter for its size; a month, a version; or its digest, where lines are put in a random order.
`KeyManner.value` reads a value, and `KeyValue.compare` compares two that were read alike.
-/

namespace ArtifactLens.Shell

namespace Utility

/-! ### Numbers -/

/-- Compares texts octet by octet. -/
def compareTexts : List Char → List Char → Ordering
  | [], [] => .eq
  | [], _ :: _ => .lt
  | _ :: _, [] => .gt
  | x :: a, y :: b => if x = y then compareTexts a b else compare x.toNat y.toNat

/-- A decimal number at the start of a text: its digits, how many of them are places, and what follows
them. What has no digits counts as zero. -/
structure LeadingNumber where
  digits : Int
  places : Nat
  rest : List Char

/-- Reads the number at the start of a text, after blanks. -/
def leadingNumber (text : List Char) : LeadingNumber :=
  let body := text.dropWhile isFieldGap
  let (negative, body) := match body with
    | '-' :: rest => (true, rest)
    | _ => (false, body)
  let whole := body.takeWhile Char.isDigit
  let rest := body.drop whole.length
  let (fraction, rest) := match rest with
    | '.' :: more =>
      let digits := more.takeWhile Char.isDigit
      (digits, more.drop digits.length)
    | _ => ([], rest)
  let n : Int := Digit.numeral (whole ++ fraction)
  { digits := if negative then -n else n, places := fraction.length, rest }

/-- The rank of a letter that stands for a size. -/
def sizeRank (letter : Option Char) : Nat :=
  match letter with
  | some 'k' => 1
  | some letter => (("KMGTPEZY".toList.findIdx? (· == letter)).map (· + 1)).getD 0
  | none => 0

/-- The rank of the size of a number: that of its letter, with the sign of the number. -/
def LeadingNumber.size (number : LeadingNumber) : Int :=
  if number.digits = 0 then 0
  else number.digits.sign * sizeRank number.rest.head?

/-- The names of months, in short. -/
def monthNames : List String :=
  ["JAN", "FEB", "MAR", "APR", "MAY", "JUN", "JUL", "AUG", "SEP", "OCT", "NOV", "DEC"]

/-- The number of the month at the start of a text, or zero. -/
def monthNumber (text : List Char) : Nat :=
  let name := String.ofList (((text.dropWhile isFieldGap).take 3).map Char.toUpper)
  ((monthNames.findIdx? (· == name)).map (· + 1)).getD 0

/-! ### Values -/

/-- What is compared of a key. -/
inductive KeyValue where
  | text (text : List Char)
  /-- A number by the rank of its size. -/
  | number (size : Int) (value : LeadingNumber)
  /-- A floating-point number, if the text starts with one. -/
  | float (value : Option Extended)
  | month (number : Nat)
  | version (text : List Char)
  /-- A text by its digest. -/
  | shuffled (digest : List UInt8) (text : List Char)

namespace KeyValue

/-- Compares floating-point numbers: what is none comes first, and then what is no number. -/
def compareFloats : Option Extended → Option Extended → Ordering
  | none, none => .eq
  | none, some _ => .lt
  | some _, none => .gt
  | some a, some b =>
    match a.isNan, b.isNan with
    -- What is no number is negative in the first place.
    | true, true => compare (!a.isNegative) (!b.isNegative)
    | true, false => .lt
    | false, true => .gt
    | false, false => (a.compare? b).getD .eq

/-- Compares decimal numbers. -/
def compareDecimals (a b : LeadingNumber) : Ordering :=
  let places := max a.places b.places
  compare (a.digits * (10 ^ (places - a.places) : Nat)) (b.digits * (10 ^ (places - b.places) : Nat))

/-- Compares octets of the same number. -/
def compareDigests (a b : List UInt8) : Ordering :=
  compare (Digest.bigEndianValue a) (Digest.bigEndianValue b)

/-- Compares two values that were read alike. -/
def compare (a b : KeyValue) : Ordering :=
  match a, b with
  | .text x, .text y => compareTexts x y
  | .number i x, .number j y => (Ord.compare i j).then (compareDecimals x y)
  | .float x, .float y => compareFloats x y
  | .month m, .month n => Ord.compare m n
  | .version x, .version y => Version.order x y
  | .shuffled d x, .shuffled e y => (compareDigests d e).then (compareTexts x y)
  | _, _ => .eq

end KeyValue

namespace KeyManner

/-- A text without the characters that are left out of account, and in one case if asked for. -/
def folded (manner : KeyManner) (text : List Char) : List Char :=
  let text := match manner.leftOut with
    | none => text
    | some .symbols => text.filter fun c => c.isAlphanum || isFieldGap c
    | some .unprintable => text.filter fun c => 0x20 ≤ c.toNat && c.toNat < 0x7f
  if manner.foldsCase then text.map Char.toUpper else text

/-- What is compared of the text of a key. Digests are begun with a text of their own, and in them a
zero ends the text where texts are compared by rules of a place. -/
def value (manner : KeyManner) (seed : String) (isLocal : Bool) (text : List Char) : KeyValue :=
  let text := manner.folded text
  let reads := manner.reads
  if reads .decimal then .number 0 (leadingNumber text)
  else if reads .general then .float ((Conversion.readFloat text).map (·.toExtended.1))
  else if reads .human then
    let number := leadingNumber text
    .number number.size number
  else if reads .month then .month (monthNumber text)
  else if reads .random then
    let whole := seed ++ String.ofList (if isLocal && !text.isEmpty then text ++ ['\x00'] else text)
    .shuffled (Digest.md5.digest (Digest.octets whole)) text
  else if reads .version then .version text
  else .text text

end KeyManner

end Utility

end ArtifactLens.Shell
