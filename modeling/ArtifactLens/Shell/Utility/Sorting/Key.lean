import ArtifactLens.Shell.Arithmetic
import ArtifactLens.Text.Digit

/-!
# Keys of lines

Lines are sorted by keys: parts of them, each from a field and a character of it to a field and a
character of it, with a manner of comparing. `SortKey.parse` reads a key as options spell it, and
`SortKey.part` takes the part of a line that a key names.
-/

namespace ArtifactLens.Shell

namespace Utility

/-! ### Manners -/

/-- How the value of a key is read, if it is not taken as a text. -/
inductive KeyReading where
  | general
  | human
  | month
  | decimal
  | random
  | version
  deriving DecidableEq

namespace KeyReading

/-- The letter that asks for a reading. -/
def letter : KeyReading → Char
  | .general => 'g'
  | .human => 'h'
  | .month => 'M'
  | .decimal => 'n'
  | .random => 'R'
  | .version => 'V'

/-- The readings by the order of their letters. -/
def all : List KeyReading := [.general, .human, .month, .decimal, .random, .version]

/-- The value is a number. -/
def isNumeric : KeyReading → Bool
  | .general | .human | .decimal => true
  | _ => false

end KeyReading

/-- The characters that a key leaves out of account. -/
inductive LeftOut where
  /-- All but blanks, letters and digits. -/
  | symbols
  /-- Those that cannot be printed. -/
  | unprintable
  deriving DecidableEq

/-- How a key is compared. -/
structure KeyManner where
  skipsBlanks : Bool := false
  skipsBlanksAtEnd : Bool := false
  leftOut : Option LeftOut := none
  foldsCase : Bool := false
  readings : List KeyReading := []
  reversed : Bool := false
  deriving DecidableEq

namespace KeyManner

/-- The manner with what a letter says of the ends of a key for which it stands. -/
def add (manner : KeyManner) (atStart atEnd : Bool) (letter : Char) : KeyManner :=
  match letter with
  | 'b' =>
    { manner with
      skipsBlanks := manner.skipsBlanks || atStart
      skipsBlanksAtEnd := manner.skipsBlanksAtEnd || atEnd }
  | 'd' => { manner with leftOut := some .symbols }
  | 'f' => { manner with foldsCase := true }
  | 'i' => { manner with leftOut := manner.leftOut <|> some .unprintable }
  | 'r' => { manner with reversed := true }
  | letter =>
    match KeyReading.all.find? (·.letter == letter) with
    | some reading => { manner with readings := (reading :: manner.readings).eraseDups }
    | none => manner

/-- The letters that say how a key is compared. -/
def letters : String := "bdfgihMnrRV"

/-- Nothing is said of how the key is compared, its direction apart. -/
def isPlain (manner : KeyManner) : Bool := { manner with reversed := false } == {}

/-- The manner asks for a reading. -/
def reads (manner : KeyManner) (reading : KeyReading) : Bool := manner.readings.contains reading

/-- The value is read as a number. -/
def isNumeric (manner : KeyManner) : Bool := manner.readings.any KeyReading.isNumeric

/-- The letters that spell a manner. -/
def spelled (manner : KeyManner) : String :=
  let reading (reading : KeyReading) : List Char :=
    if manner.reads reading then [reading.letter] else []
  let mark (holds : Bool) (letter : Char) : List Char := if holds then [letter] else []
  String.ofList (mark (manner.skipsBlanks || manner.skipsBlanksAtEnd) 'b' ++
    mark (manner.leftOut == some .symbols) 'd' ++ mark manner.foldsCase 'f' ++
    reading .general ++ reading .human ++ mark (manner.leftOut == some .unprintable) 'i' ++
    reading .month ++ reading .decimal ++ reading .random ++ mark manner.reversed 'r' ++
    reading .version)

/-- The letters that cannot be followed together, if there are such. -/
def conflict? (manner : KeyManner) : Option String :=
  let (apart, together) := manner.readings.partition fun reading =>
    reading.isNumeric || reading == .month
  let others := if together.isEmpty ∧ manner.leftOut.isNone then 0 else 1
  if apart.length + others < 2 then none
  else
    some { manner with skipsBlanks := false, skipsBlanksAtEnd := false, reversed := false }.spelled

end KeyManner

/-! ### Fields -/

/-- The character is a blank between fields. -/
def isFieldGap (c : Char) : Bool := c == ' ' || c == '\t' || c == '\n'

/-- Leaves fields out at the start of a line, where blanks stand in front of each. -/
def dropBlankFields : (count : Nat) → List Char → List Char
  | 0, line => line
  | count + 1, line =>
    if line.isEmpty then []
    else dropBlankFields count ((line.dropWhile isFieldGap).dropWhile (!isFieldGap ·))

/-- Leaves fields out at the start of a line, each with the mark after it. -/
def dropMarkedFields (mark : Char) : (count : Nat) → List Char → List Char
  | 0, line => line
  | count + 1, line =>
    if line.isEmpty then [] else dropMarkedFields mark count ((line.dropWhile (· != mark)).drop 1)

/-- Leaves fields out at the start of a line. -/
def dropFields (separator : Option Char) (count : Nat) (line : List Char) : List Char :=
  -- No line has more fields than it has characters and one.
  let count := min count (line.length + 1)
  match separator with
  | none => dropBlankFields count line
  | some mark => dropMarkedFields mark count line

/-! ### Keys -/

/-- A part of a line: from a field and a character of it, counted from zero, to a field and a
character of it. -/
structure SortKey where
  startField : Nat := 0
  startChar : Nat := 0
  /-- How many fields come before the last one, and how many characters of that belong to the key;
  with none of them, all of it does. Without this the key goes up to the end of the line. -/
  finish : Option (Nat × Nat) := none
  manner : KeyManner := {}
  /-- The key was spelled with signs. -/
  isOld : Bool := false

namespace SortKey

/-- The key begins where the line does. -/
def fromStart (key : SortKey) : Bool := key.startField == 0 && key.startChar == 0

/-- Where a key begins in a line, by the number of characters. -/
def startAt (key : SortKey) (separator : Option Char) (line : List Char) : Nat :=
  let rest := dropFields separator key.startField line
  let rest := if key.manner.skipsBlanks then rest.dropWhile isFieldGap else rest
  min line.length (line.length - rest.length + key.startChar)

/-- Where a key ends in a line, by the number of characters. -/
def finishAt (key : SortKey) (separator : Option Char) (line : List Char) : Nat :=
  match key.finish with
  | none => line.length
  | some (fields, 0) =>
    match separator with
    | none => line.length - (dropFields separator (fields + 1) line).length
    | some mark =>
      -- The mark after the last field does not belong to the key.
      let rest := dropFields separator fields line
      line.length - rest.length + (rest.takeWhile (· != mark)).length
  | some (fields, chars) =>
    let rest := dropFields separator fields line
    let rest := if key.manner.skipsBlanksAtEnd then rest.dropWhile isFieldGap else rest
    min line.length (line.length - rest.length + chars)

/-- The part of a line that a key names. -/
def part (key : SortKey) (separator : Option Char) (line : List Char) : List Char :=
  let start := key.startAt separator line
  (line.take (max start (key.finishAt separator line))).drop start

/-! ### Reading keys -/

/-- Why a text is no key. -/
inductive Fault where
  /-- No number stands at a place. -/
  | noNumber (place rest : String)
  | zeroField
  | zeroCharacter
  | strayCharacter

/-- The wording of a fault in a text. -/
def Fault.message (quote : String → String) (text : String) : Fault → String
  | .noNumber place rest =>
    "invalid number " ++ place ++ ": invalid count at start of " ++ quote rest
  | .zeroField => "field number is zero: invalid field specification " ++ quote text
  | .zeroCharacter => "character offset is zero: invalid field specification " ++ quote text
  | .strayCharacter => "stray character in field spec: invalid field specification " ++ quote text

/-- The number that stands at the start of a text. Blanks and a plus are allowed in front. -/
def number? (text : List Char) : Option (Nat × List Char) :=
  let body := match text.dropWhile Arithmetic.isSpace with
    | '+' :: rest => rest
    | rest => rest
  let digits := body.takeWhile Char.isDigit
  if digits.isEmpty then none
  else some (min (Digit.numeral digits) (2 ^ 64 - 1), body.drop digits.length)

/-- Reads a number that stands at a place. -/
def number (place : String) (text : List Char) : Except Fault (Nat × List Char) :=
  match number? text with
  | some found => .ok found
  | none => .error (.noNumber place (String.ofList text))

/-- Takes the letters at the start of a text into a manner. -/
def takeLetters (manner : KeyManner) (atStart atEnd : Bool) (text : List Char) :
    KeyManner × List Char :=
  let letters := text.takeWhile (KeyManner.letters.contains ·)
  (letters.foldl (·.add atStart atEnd) manner, text.drop letters.length)

/-- Reads the character of a field, if a point starts it. -/
def character? (text : List Char) : Except Fault (Option Nat × List Char) :=
  match text with
  | '.' :: more => do
    let (char, rest) ← number "after '.'" more
    return (some char, rest)
  | _ => return (none, text)

/-- Reads a key. -/
def parse (text : String) : Except Fault SortKey := do
  let (field, rest) ← number "at field start" text.toList
  if field = 0 then throw .zeroField
  let (char, rest) ← character? rest
  if char = some 0 then throw .zeroCharacter
  let (manner, rest) := takeLetters {} true false rest
  let key : SortKey :=
    { startField := field - 1, startChar := (char.map (· - 1)).getD 0, manner }
  match rest with
  | [] => return key
  | ',' :: rest =>
    let (field, rest) ← number "after ','" rest
    if field = 0 then throw .zeroField
    let (char, rest) ← character? rest
    let (manner, rest) := takeLetters key.manner false true rest
    if !rest.isEmpty then throw .strayCharacter
    return { key with manner, finish := some (field - 1, char.getD 0) }
  | _ => throw .strayCharacter

/-- Reads the start of a key that a plus begins: fields and characters to be left out. -/
def parseOld? (text : String) : Option SortKey := do
  let (field, rest) ← number? (text.toList.drop 1)
  let (char, rest) ← (character? rest).toOption
  let (manner, rest) := takeLetters {} true false rest
  if rest.isEmpty then
    some { startField := field, startChar := char.getD 0, manner, isOld := true }
  else none

/-- Reads the end of a key that a minus begins. -/
def finishOld (key : SortKey) (text : String) : Except Fault SortKey := do
  let (field, rest) ← number "after '-'" (text.toList.drop 1)
  let (char, rest) ← character? rest
  let (manner, rest) := takeLetters key.manner false true rest
  if !rest.isEmpty then throw .strayCharacter
  let chars := char.getD 0
  return { key with manner, finish := some (if chars = 0 then field - 1 else field, chars) }

end SortKey

end Utility

end ArtifactLens.Shell
