import ArtifactLens.Text.Blank
import ArtifactLens.Text.Digit
import ArtifactLens.Text.Lines
import ArtifactLens.Json
import ArtifactLens.Table

/-!
# Listings

The lines of an artifact. A line directive (`.loc`, a file number and a line number) marks the
source line of itself and of all lines after it, up to the next directive. In a listing of a
binary, lines that start with a hexadecimal address and a colon carry that address.
-/

namespace ArtifactLens

namespace Listing

/-- One line of an artifact. -/
structure Line where
  text : String
  /-- The address that starts the line, in a listing of a binary. -/
  address : Option Int := none
  /-- The source line that the line belongs to. -/
  sourceLine : Option Nat := none
  deriving DecidableEq, Repr

/-- The digits of the line number in a line directive. -/
def directive? (line : List Char) : Option (List Char) :=
  let body := line.dropWhile isBlank
  if ".loc".toList.isPrefixOf body then
    let afterWord := body.drop 4
    let (file, afterFile) := Digit.span (afterWord.dropWhile isBlank)
    let (number, _) := Digit.span (afterFile.dropWhile isBlank)
    let spaced (text : List Char) := (text.head?.map isBlank).getD false
    if spaced afterWord && !file.isEmpty && spaced afterFile && !number.isEmpty then some number
    else none
  else none

/-- The address at the start of a line, and the text after its colon and one blank. -/
def addressed? (line : List Char) : Option (Nat × List Char) :=
  let body := line.dropWhile isBlank
  let digits := body.takeWhile fun c => (Digit.hexValue? c).isSome
  match body.drop digits.length with
  | ':' :: rest =>
    if digits.isEmpty then none
    else
      let text := match rest with
        | c :: more => if isBlank c then more else rest
        | [] => []
      some (Digit.hexNumeral digits, text)
  | _ => none

/-- One line with the source line that is in force. -/
def lineOf (binary : Bool) (sourceLine : Option Nat) (line : List Char) : Line :=
  match if binary then addressed? line else none with
  | some (address, text) => ⟨String.ofList text, some address, sourceLine⟩
  | none => ⟨String.ofList line, none, sourceLine⟩

/-- Reads lines, `sourceLine` being in force before the first and `done` holding the lines read, in
reverse. A line number of too many digits stops the reading; the number of its digits is told. -/
@[grind =]
def parseFrom (binary : Bool) (sourceLine : Option Nat) (done : List Line) :
    List (List Char) → Except Nat (List Line)
  | [] => .ok done.reverse
  | line :: rest =>
    match directive? line with
    | some digits =>
      if Json.integerLimit < digits.length then .error digits.length
      else
        let sourceLine := some (Digit.numeral digits)
        parseFrom binary sourceLine (lineOf binary sourceLine line :: done) rest
    | none => parseFrom binary sourceLine (lineOf binary sourceLine line :: done) rest

/-- The lines of a text. -/
def parse (binary : Bool) (text : List Char) : Except Nat (List Line) :=
  parseFrom binary none [] (Lines.split text)

/-- The hexadecimal text of an address, padded with zeros to eight columns, the sign among them. -/
def addressText (address : Int) : String :=
  if address < 0 then "-" ++ Digit.padLeft 7 '0' (Digit.hex address.natAbs)
  else Digit.padLeft 8 '0' (Digit.hex address.natAbs)

/-- A line as it is shown. -/
def Line.render (line : Line) : String :=
  match line.address with
  | some address => "<" ++ addressText address ++ "> " ++ line.text
  | none => line.text

/-- The lines that belong to each source line, by index, in the order of their first line;
`index` is that of the next line. -/
def mappingFrom (index : Nat) (mapping : Table Nat (List Nat)) : List Line → Table Nat (List Nat)
  | [] => mapping
  | line :: rest =>
    match line.sourceLine with
    | none => mappingFrom (index + 1) mapping rest
    | some number =>
      let indexes := (mapping.get? number).getD []
      mappingFrom (index + 1) (mapping.insert number (indexes ++ [index])) rest

/-- The lines that belong to each source line. -/
def mapping (lines : List Line) : Table Nat (List Nat) := mappingFrom 0 .empty lines

end Listing

end ArtifactLens
