import ArtifactLens.Shell.Conversion
import ArtifactLens.Shell.Utility.Quoting

/-!
# Styles of showing octets

A dump shows octets in one or several styles: as characters, as integers or as floating-point numbers of
a size (`DumpStyle.datum`). A number is shown by the fewest digits from which it can be read again
(`DumpStyle.floating`). Styles are told by letters (`DumpStyle.read`).
-/

namespace ArtifactLens.Shell

namespace Utility

/-- What octets are shown as. -/
inductive DumpKind where
  /-- Characters by their names; the highest bit does not count. -/
  | named
  | character
  | signed
  /-- Natural numbers in a base. -/
  | natural (base : Nat)
  | floating
  deriving DecidableEq

/-- A style of showing octets, so many of them together. -/
structure DumpStyle where
  kind : DumpKind
  size : Nat := 1
  /-- The characters are shown at the end of the line too. -/
  showsText : Bool := false

namespace DumpStyle

/-- The width of what is shown of one datum. -/
def width (style : DumpStyle) : Nat :=
  match style.kind with
  | .named | .character => 3
  | .signed => (toString (2 ^ (8 * style.size - 1))).length + 1
  | .natural 8 => (8 * style.size + 2) / 3
  | .natural 16 => 2 * style.size
  | .natural _ => (toString (2 ^ (8 * style.size) - 1)).length
  | .floating => if style.size = 4 then 15 else if style.size = 8 then 24 else 29

/-- The names of control characters and of the blank. -/
def controlNames : List String :=
  ["nul", "soh", "stx", "etx", "eot", "enq", "ack", "bel", "bs", "ht", "nl", "vt", "ff", "cr", "so",
    "si", "dle", "dc1", "dc2", "dc3", "dc4", "nak", "syn", "etb", "can", "em", "sub", "esc", "fs",
    "gs", "rs", "us", "sp"]

/-- The octet is a character that can be shown. -/
def isShown (octet : Nat) : Bool := 0x20 ≤ octet && octet < 0x7f

/-- A number in a base, with zeros in front up to a length. -/
def digits (base length n : Nat) : String :=
  Digit.padLeft length '0'
    (String.ofList (if n = 0 then ['0'] else (Digit.digitsFrom base (n.log2 + 1) n).reverse))

/-- An octet as a character. -/
def character (octet : Nat) : String :=
  match octet with
  | 0 => "\\0"
  | 8 => "\\b"
  | 7 => "\\a"
  | 9 => "\\t"
  | 10 => "\\n"
  | 11 => "\\v"
  | 12 => "\\f"
  | 13 => "\\r"
  | octet => if isShown octet then String.singleton (Char.ofNat octet) else digits 8 3 octet

/-- A finite number by as few digits, but no fewer than some, as it takes to read it again where numbers
have so many bits and a least exponent. -/
def fewest (bits : Nat) (leastExponent : Int) (most significand : Nat) (exponent : Int)
    (negative : Bool) : (measure least : Nat) → String
  | 0, precision =>
    ({ letter := 'g', precision := some precision } : Conversion).dyadic negative significand exponent
  | measure + 1, precision =>
    let (numerator, denominator) := if exponent ≥ 0 then (significand * 2 ^ exponent.toNat, 1)
      else (significand, 2 ^ (-exponent).toNat)
    let places := precision - 1
    let (n, power) := Conversion.scientific numerator denominator places
    let scale := power - places
    let read := if scale ≥ 0 then Rounding.binary bits leastExponent (n * 10 ^ scale.toNat) 1
      else Rounding.binary bits leastExponent n (10 ^ (-scale).toNat)
    let isSame : Bool := Id.run do
      let (other, otherExponent) := read
      let shift := min exponent otherExponent
      return significand * 2 ^ (exponent - shift).toNat == other * 2 ^ (otherExponent - shift).toNat
    if isSame ∨ most ≤ precision then
      ({ letter := 'g', precision := some precision } : Conversion).dyadic negative significand exponent
    else fewest bits leastExponent most significand exponent negative measure (precision + 1)

/-- The sign, the exponent and the fraction of a number. -/
structure FloatParts where
  negative : Bool
  exponent : Nat
  fraction : Nat

/-- A floating-point number of a size. -/
def floating (size value : Nat) : String :=
  let parts (fractionBits exponentBits : Nat) : FloatParts :=
    { negative := value / 2 ^ (fractionBits + exponentBits) % 2 == 1
      exponent := value / 2 ^ fractionBits % 2 ^ exponentBits
      fraction := value % 2 ^ fractionBits }
  let named (negative : Bool) (name : String) : String := (if negative then "-" else "") ++ name
  -- In the shorter formats the first bit of a number is left out.
  let short (fractionBits exponentBits least most : Nat) : String :=
    let parts := parts fractionBits exponentBits
    let top := 2 ^ exponentBits - 1
    let lowest : Int := 2 - 2 ^ (exponentBits - 1) - fractionBits
    if parts.exponent = top then
      named parts.negative (if parts.fraction = 0 then "inf" else "nan")
    else if parts.exponent = 0 ∧ parts.fraction = 0 then named parts.negative "0"
    else
      let isNormal := parts.exponent != 0
      let significand := parts.fraction + if isNormal then 2 ^ fractionBits else 0
      let exponent := lowest + (if isNormal then parts.exponent - 1 else 0 : Nat)
      fewest (fractionBits + 1) lowest most significand exponent parts.negative most
        (if isNormal then least else 1)
  match size with
  | 4 => short 23 8 6 9
  | 8 => short 52 11 15 17
  | _ =>
    let parts := parts 64 15
    let isNormal := parts.fraction ≥ 2 ^ 63
    if parts.exponent = 2 ^ 15 - 1 then
      named parts.negative (if parts.fraction = 2 ^ 63 then "inf" else "nan")
    else if parts.exponent ≠ 0 ∧ !isNormal then named parts.negative "nan"
    else if parts.fraction = 0 then named parts.negative "0"
    else
      let exponent := Extended.leastExponent + (max parts.exponent 1 - 1 : Nat)
      fewest 64 Extended.leastExponent 21 parts.fraction exponent parts.negative 21
        (if isNormal then 18 else 1)

/-- What is shown of some octets, the least of which stands first. -/
def datum (style : DumpStyle) (octets : List Nat) : String :=
  let value := octets.foldr (fun octet n => 256 * n + octet) 0
  match style.kind with
  | .named =>
    let n := value % 128
    if n = 127 then "del" else controlNames.getD n (String.singleton (Char.ofNat n))
  | .character => character value
  | .signed =>
    if value ≥ 2 ^ (8 * style.size - 1) then toString ((value : Int) - 2 ^ (8 * style.size))
    else toString value
  | .natural 10 => toString value
  | .natural base => digits base style.width value
  | .floating => floating style.size value

/-- A line of a block in which so many octets have room; `total` is the width of a line of the widest
style. The last datum may lack octets, which then count as zeros. -/
def line (style : DumpStyle) (swaps : Bool) (perBlock total : Nat) (octets : List Nat) : String :=
  let fields := perBlock / style.size
  let blank := (perBlock - octets.length) / style.size
  let padding := total - style.width * fields
  let field (i : Nat) : String :=
    let own := (octets.drop (i * style.size)).take style.size
    let own := own ++ List.replicate (style.size - own.length) 0
    let own := if swaps then own.reverse else own
    let left := padding * (fields - i) / fields
    let after := padding * (fields - i - 1) / fields
    Digit.padLeft (left - after + style.width) ' ' (style.datum own)
  let body := String.join ((List.range (fields - blank)).map field)
  if style.showsText then
    let room := blank * style.width + padding * blank / fields
    let text := octets.map fun octet => if isShown octet then Char.ofNat octet else '.'
    body ++ String.ofList (List.replicate room ' ') ++ "  >" ++ String.ofList text ++ "<"
  else body

/-! ### Letters -/

/-- Why a text tells no styles. -/
inductive Fault where
  | invalid
  | unknown (letter : Char)
  | absentSize (size : Nat) (isFloating : Bool)

/-- The wording of a fault of a text. -/
def Fault.message (call : Invocation) (text : String) : Fault → String
  | .invalid => "invalid type string " ++ call.quote text
  | .unknown letter =>
    "invalid character '" ++ String.singleton letter ++ "' in type string " ++ call.quote text
  | .absentSize size isFloating =>
    "invalid type string " ++ call.quote text ++ ";\nthis system doesn't provide a " ++ toString size ++
      "-byte " ++ (if isFloating then "floating point" else "integral") ++ " type"

/-- The size that letters or digits tell at the start of a text, and what follows. -/
def sizeAt (letters : List (Char × Nat)) (sizes : List Nat) (standard : Nat) (isFloating : Bool)
    (text : List Char) : Except Fault (Nat × List Char) :=
  match text.head?.bind fun letter => letters.lookup letter with
  | some size => .ok (size, text.drop 1)
  | none =>
    let digits := text.takeWhile Char.isDigit
    let size := Digit.numeral digits
    if digits.isEmpty then .ok (standard, text)
    else if size ≥ 2 ^ 64 then .error .invalid
    else if !sizes.contains size then .error (.absentSize size isFloating)
    else .ok (size, text.drop digits.length)

/-- Reads the styles that a text tells. -/
def readFrom : (measure : Nat) → List Char → Except Fault (List DumpStyle)
  | 0, _ | _ + 1, [] => .ok []
  | measure + 1, letter :: rest => do
    let whole (rest : List Char) : Except Fault (Nat × List Char) :=
      sizeAt [('C', 1), ('S', 2), ('I', 4), ('L', 8)] [1, 2, 4, 8] 4 false rest
    let (kind, size, rest) ← match letter with
      | 'd' => pure (DumpKind.signed, ← whole rest)
      | 'o' => pure (.natural 8, ← whole rest)
      | 'u' => pure (.natural 10, ← whole rest)
      | 'x' => pure (.natural 16, ← whole rest)
      | 'f' =>
        pure (.floating, ← sizeAt [('F', 4), ('D', 8), ('L', 16)] [4, 8, 16] 8 true rest)
      | 'a' => pure (.named, 1, rest)
      | 'c' => pure (.character, 1, rest)
      | letter => throw (.unknown letter)
    let showsText := rest.head? == some 'z'
    let others ← readFrom measure (if showsText then rest.drop 1 else rest)
    return { kind, size, showsText } :: others

/-- Reads the styles that a text tells. -/
def read (text : String) : Except Fault (List DumpStyle) := readFrom text.length text.toList

end DumpStyle

end Utility

end ArtifactLens.Shell
