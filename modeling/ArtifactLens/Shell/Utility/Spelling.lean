import ArtifactLens.Shell.Utility.Filtering
import ArtifactLens.Text.Digit

/-!
# Octets spelled with letters

Octets are spelled with the letters of an alphabet: a group of octets with a group of letters, each of which
stands for the same number of bits (`Alphabet.spell`). What is left at the end is filled up with signs that
stand for nothing. The programs `base64`, `base32` and `basenc` spell octets, and read what was spelled
(`Alphabet.readGroup`); newlines among the letters do not count.
-/

namespace ArtifactLens.Shell

namespace Utility

namespace Spelling

/-- Letters that stand for bits. -/
structure Alphabet where
  letters : List Char
  /-- How many bits a letter stands for. -/
  bits : Nat
  /-- How many octets are spelled together. -/
  octets : Nat
  /-- Groups that are not whole are filled up. -/
  fills : Bool := false
  /-- The lowest bits of an octet come first. -/
  isReversed : Bool := false
  /-- Letters that are read, with the values that they stand for. -/
  readable : List (Char × Nat) := letters.zipIdx
  /-- Letters that spoil all that is read together with them. -/
  spoilers : List Char := []

namespace Alphabet

/-- How many letters are read together. -/
def group (alphabet : Alphabet) : Nat := 8 * alphabet.octets / alphabet.bits

/-- The bits of an octet in the order in which letters take them. -/
def bitsOf (alphabet : Alphabet) (octet : Nat) : List Bool :=
  let bits := (List.range 8).map fun n => octet / 2 ^ n % 2 == 1
  if alphabet.isReversed then bits else bits.reverse

/-- The number that bits spell, the highest first. -/
def ofBits (bits : List Bool) : Nat := bits.foldl (fun n bit => 2 * n + bit.toNat) 0

/-- Letters for bits; the last ones are filled up with zeros. -/
def lettersOf (alphabet : Alphabet) : (measure : Nat) → List Bool → List Char
  | 0, _ | _, [] => []
  | measure + 1, bits =>
    let own := bits.take alphabet.bits
    let own := own ++ List.replicate (alphabet.bits - own.length) false
    alphabet.letters.getD (ofBits own) ' ' ::
      lettersOf alphabet measure (bits.drop alphabet.bits)

/-- Letters for a group of octets. -/
def spellGroup (alphabet : Alphabet) (octets : List Nat) : List Char :=
  let letters := alphabet.lettersOf (8 * octets.length) (octets.flatMap alphabet.bitsOf)
  if alphabet.fills then letters ++ List.replicate (alphabet.group - letters.length) '=' else letters

/-- Letters for octets, in reverse after those that are there. -/
def spell (alphabet : Alphabet) : (measure : Nat) → (done : List Char) → List Nat → List Char
  | 0, done, _ | _, done, [] => done
  | measure + 1, done, octets =>
    spell alphabet measure ((alphabet.spellGroup (octets.take alphabet.octets)).reverse ++ done)
      (octets.drop alphabet.octets)

/-- The octets that bits make, as far as they are whole. -/
def octetsOf (alphabet : Alphabet) : (measure : Nat) → List Bool → List Nat
  | 0, _ => []
  | measure + 1, bits =>
    if bits.length < 8 then []
    else
      let own := bits.take 8
      ofBits (if alphabet.isReversed then own.reverse else own) :: octetsOf alphabet measure (bits.drop 8)

/-- The bits that a letter stands for. -/
def bitsFor (alphabet : Alphabet) (value : Nat) : List Bool :=
  ((List.range alphabet.bits).map fun n => value / 2 ^ n % 2 == 1).reverse

/-- How many letters a group may hold that is filled up. -/
def lengths (alphabet : Alphabet) : List Nat :=
  ((List.range alphabet.octets).map fun n => (8 * (n + 1) + alphabet.bits - 1) / alphabet.bits)

/-- Reads a group of letters, which may be too short at the end of all: the octets, as far as letters tell
them, and whether all is well. -/
def readGroup (alphabet : Alphabet) (letters : List Char) : List Nat × Bool :=
  let value? (c : Char) : Option Nat := alphabet.readable.lookup c
  let own := letters.takeWhile fun c => (value? c).isSome
  let rest := letters.drop own.length
  let bits := own.flatMap fun c => alphabet.bitsFor ((value? c).getD 0)
  -- Octets are told only by lengths at which a group may end.
  let told := ((alphabet.lengths.filter (· ≤ own.length)).getLast?).getD 0
  let octets := alphabet.octetsOf alphabet.octets (bits.take (alphabet.bits * told))
  let isWhole := letters.length == alphabet.group
  let isWell := isWhole && rest.all (· == '=') &&
    (rest.isEmpty || (alphabet.fills && alphabet.lengths.contains own.length))
  (if isWhole ∨ alphabet.bits = 6 then octets else [], isWell)

end Alphabet

/-- Capital letters and digits. -/
def capitals : List Char := "ABCDEFGHIJKLMNOPQRSTUVWXYZ".toList

/-- The signs that stand for six bits each, but for the last two. -/
def sixBits : List Char :=
  capitals ++ "abcdefghijklmnopqrstuvwxyz0123456789".toList

/-- An alphabet of 64 letters. -/
def base64Alphabet : Alphabet :=
  { letters := sixBits ++ ['+', '/'], bits := 6, octets := 3, fills := true }

/-- An alphabet of 64 letters that may stand in names. -/
def nameAlphabet : Alphabet :=
  { letters := sixBits ++ ['-', '_'], bits := 6, octets := 3, fills := true, spoilers := ['+', '/'] }

/-- An alphabet of 32 letters. -/
def base32Alphabet : Alphabet :=
  { letters := capitals ++ "234567".toList, bits := 5, octets := 5, fills := true }

/-- An alphabet of 32 letters that begins like that of hexadecimal digits. The letters after its own ones are
read as they are in the other alphabet of this size. -/
def hexLikeAlphabet : Alphabet :=
  let letters := "0123456789".toList ++ capitals.take 22
  { letters, bits := 5, octets := 5, fills := true
    readable := letters.zipIdx ++ (capitals.zipIdx.drop 22) }

/-- Hexadecimal digits. -/
def hexAlphabet : Alphabet :=
  { letters := "0123456789ABCDEF".toList, bits := 4, octets := 1 }

/-- Two digits for bits. -/
def bitAlphabet (isReversed : Bool) : Alphabet :=
  { letters := ['0', '1'], bits := 1, octets := 1, isReversed }

/-- The letters that stand for digits in the base 85. -/
def letters85 : List Char :=
  ("0123456789abcdefghijklmnopqrstuvwxyzABCDEFGHIJKLMNOPQRSTUVWXYZ.-:+=^!/*?&<>()[]\x7b\x7d@%$#").toList

/-- A way to spell octets. -/
inductive Manner where
  | by (alphabet : Alphabet)
  /-- Four octets are a number of five digits. -/
  | inBase85

/-! ### Spelling -/

/-- How far letters have been written. -/
structure Written where
  /-- Octets that wait until a group is whole. -/
  waiting : List Nat := []
  /-- How many letters stand on the line. -/
  column : Nat := 0
  isStuck : Bool := false

/-- Letters on lines of a width, in reverse after what is there. -/
def wrap (width : Nat) : (column : Nat) → (done : List Char) → List Char → List Char × Nat
  | column, done, [] => (done, column)
  | column, done, c :: rest =>
    if width ≠ 0 ∧ column = width then wrap width 1 (c :: '\n' :: done) rest
    else wrap width (column + 1) (c :: done) rest

/-- Four octets as five digits. -/
def spell85 (octets : List Nat) : List Char :=
  let value := octets.foldl (fun n octet => 256 * n + octet) 0
  [4, 3, 2, 1, 0].map fun n => letters85.getD (value / 85 ^ n % 85) ' '

/-- Letters for whole groups, in reverse after those that are there; what is left of the octets. -/
def spell85All : (measure : Nat) → (done : List Char) → List Nat → List Char × List Nat
  | 0, done, octets => (done, octets)
  | measure + 1, done, octets =>
    if octets.length < 4 then (done, octets)
    else spell85All measure ((spell85 (octets.take 4)).reverse ++ done) (octets.drop 4)

/-- Spells some octets; at the end also those that make no whole group. -/
def Manner.write (manner : Manner) (width : Nat) (isEnd : Bool) (written : Written)
    (octets : List Nat) : Written × String :=
  let octets := written.waiting ++ octets
  let size := match manner with
    | .by alphabet => alphabet.octets
    | .inBase85 => 4
  let ready := if isEnd then octets.length else octets.length / size * size
  let (letters, left) := match manner with
    | .by alphabet =>
      ((alphabet.spell (ready + 1) [] (octets.take ready)).reverse, octets.drop ready)
    | .inBase85 =>
      let (letters, left) := spell85All (octets.length + 1) [] octets
      (letters.reverse, left)
  let (text, column) := wrap width written.column [] letters
  let text := if isEnd ∧ width ≠ 0 ∧ column ≠ 0 then '\n' :: text else text
  if isEnd ∧ !left.isEmpty then ({ written with isStuck := true }, "")
  else ({ written with waiting := left, column }, String.ofList text.reverse)

/-- The filter that spells. -/
def Manner.writer (manner : Manner) (width : Nat) : Filter Written where
  feed := fun written text => manner.write width false written (text.toList.map Char.toNat)
  close := fun written => manner.write width true written []
  stuck? := fun written =>
    if written.isStuck then some "invalid input (length must be multiple of 4 characters)" else none

/-! ### Reading what was spelled -/

/-- How far letters have been read. -/
structure WasRead where
  /-- Letters that wait until a group is whole. -/
  waiting : List Char := []
  isStuck : Bool := false

/-- Reads groups of letters while all is well, after the octets that are there, in reverse; what is left of
the letters, and whether all is well. -/
def readGroups (size : Nat) (read : List Char → List Nat × Bool) :
    (measure : Nat) → (done : List Nat) → List Char → List Nat × List Char × Bool
  | 0, done, letters => (done, letters, true)
  | measure + 1, done, letters =>
    if letters.length < size then (done, letters, true)
    else
      let (octets, isWell) := read (letters.take size)
      let done := octets.reverse ++ done
      if isWell then readGroups size read measure done (letters.drop size) else (done, [], false)

/-- Reads five digits as four octets. -/
def read85 (letters : List Char) : List Nat × Bool :=
  let values := letters.filterMap fun c => letters85.findIdx? (· == c)
  let value := values.foldl (fun n digit => 85 * n + digit) 0
  if values.length < 5 ∨ value ≥ 2 ^ 32 then ([], false)
  else ([3, 2, 1, 0].map fun n => value / 256 ^ n % 256, true)

/-- A letter that is read. -/
def Manner.isLetter (manner : Manner) (c : Char) : Bool :=
  match manner with
  | .by alphabet => alphabet.letters.contains c
  | .inBase85 => letters85.contains c

/-- How many letters are read together, and how. -/
def Manner.groups (manner : Manner) : Nat × (List Char → List Nat × Bool) :=
  match manner with
  | .by alphabet => (alphabet.group, alphabet.readGroup)
  | .inBase85 => (5, read85)

/-- How many letters are looked at together for those that spoil them. -/
def blockSize : Nat := 5600

/-- Reads letters. Those that cannot be read spoil what comes after them; before the end they are only looked at
in whole blocks if they can spoil more. -/
def Manner.read (manner : Manner) (isEnd : Bool) (letters : List Char) : WasRead × String :=
  let (size, group) := manner.groups
  let spoilers := match manner with
    | .by alphabet => alphabet.spoilers
    | .inBase85 => []
  let rec go : (measure : Nat) → (done : List Nat) → List Char → List Nat × List Char × Bool
    | 0, done, letters => (done, letters, true)
    | measure + 1, done, letters =>
      let block := if spoilers.isEmpty then letters else letters.take blockSize
      if block.isEmpty ∨ (!isEnd ∧ !spoilers.isEmpty ∧ block.length < blockSize) then
        (done, letters, true)
      else if block.any spoilers.contains then (done, [], false)
      else
        let (done, left, isWell) := readGroups size group (block.length + 1) done block
        let later := letters.drop block.length
        if !isWell ∨ later.isEmpty then (done, left ++ later, isWell)
        else go measure done (left ++ later)
  let (done, left, isWell) := go (letters.length + 1) [] letters
  -- At the end a group that is too short tells what it can.
  let isCut := isEnd && isWell && !left.isEmpty
  let last := if isCut ∧ !left.any spoilers.contains then (group left).1 else []
  ({ waiting := left, isStuck := !isWell || isCut },
    String.ofList ((last.reverse ++ done).reverse.map Char.ofNat))

/-- The filter that reads letters. -/
def Manner.reader (manner : Manner) (ignoresOthers : Bool) : Filter WasRead where
  feed := fun state text =>
    let letters := text.toList.filter fun c =>
      c != '\n' && (!ignoresOthers || c == '=' || manner.isLetter c)
    manner.read false (state.waiting ++ letters)
  close := fun state => if state.isStuck then (state, "") else manner.read true state.waiting
  stuck? := fun state => if state.isStuck then some "invalid input" else none

/-! ### The programs -/

/-- The width of lines that an option tells; what is too large means that there are no lines. -/
def width? (text : String) : Option Nat :=
  match Amount.read "" true text with
  | .ok value => if value < 0 then none else some value.toNat
  | .error .tooLarge => if text.contains '-' then none else some 0
  | .error _ => none

/-- Spells or reads the input of a program in a manner. -/
def run (call : Invocation) (manner : Manner) (decodes ignoresOthers : Bool) (width : Nat)
    (name : String) : Job :=
  let readWith {State : Type} (filter : Filter State) (state : State) (descriptor : Nat) : Job :=
    filter.readOn call descriptor (fun progress fault =>
      match fault with
      | some fault => progress.fail call ("read error: " ++ fault.message)
      | none => progress.exit call 0) mostReads { state }
  let go (descriptor : Nat) : Job :=
    if decodes then readWith (manner.reader ignoresOthers) {} descriptor
    else readWith (manner.writer width) {} descriptor
  if name = "-" then go 0
  else
    .open name { reads := true } fun opened =>
      match opened with
      | .ok descriptor => go descriptor
      | .error fault => Job.fail call (call.quoteTitle name ++ ": " ++ fault.message)

/-- The options that the programs share. -/
def accepted : Accepted :=
  { letters := "diw:", names := [("decode", 'd'), ("wrap", 'w'), ("ignore-garbage", 'i')] }

/-- A program that spells, given how options tell the manner. -/
def spellerOf (accepted : Accepted) (manner? : Arguments → Option Manner) : Utility := fun call =>
  let widths (arguments : Arguments) : Except Job Nat :=
    (arguments.values 'w').foldlM (fun _ text =>
      match width? text with
      | some width => .ok width
      | none => .error (Job.fail call ("invalid wrap size: " ++ call.quote text))) 76
  accepted.read call 1 (fun arguments =>
    match widths arguments, manner? arguments, arguments.operands with
    | .error refusal, _, _ => refusal
    | .ok _, none, _ => Job.misuse call "missing encoding type"
    | .ok _, some _, _ :: extra :: _ => Job.misuse call ("extra operand " ++ call.quote extra)
    | .ok width, some manner, names =>
      run call manner (arguments.has 'd') (arguments.has 'i') width (names.headD "-"))
    fun arguments job =>
      match widths arguments with
      | .ok _ => job
      | .error refusal => refusal

/-- The options of `basenc` that tell a manner. -/
def manners : List (String × Char × Manner) :=
  [("base64", 'α', .by base64Alphabet), ("base64url", 'β', .by nameAlphabet),
    ("base32", 'γ', .by base32Alphabet), ("base32hex", 'δ', .by hexLikeAlphabet),
    ("base16", 'ε', .by hexAlphabet), ("base2msbf", 'ζ', .by (bitAlphabet false)),
    ("base2lsbf", 'η', .by (bitAlphabet true)), ("z85", 'θ', .inBase85)]

end Spelling

/-- The program `base64`. -/
def base64 : Utility :=
  Spelling.spellerOf Spelling.accepted fun _ => some (.by Spelling.base64Alphabet)

/-- The program `base32`. -/
def base32 : Utility :=
  Spelling.spellerOf Spelling.accepted fun _ => some (.by Spelling.base32Alphabet)

/-- The program `basenc`. -/
def basenc : Utility :=
  let manners := Spelling.manners
  let accepted := { Spelling.accepted with
    letters := Spelling.accepted.letters ++ String.ofList (manners.map (·.2.1))
    names := Spelling.accepted.names ++ manners.map fun (name, letter, _) => (name, letter) }
  Spelling.spellerOf accepted fun arguments =>
    (arguments.last? (manners.map (·.2.1))).bind fun (letter, _) =>
      (manners.find? (·.2.1 == letter)).map (·.2.2)

end Utility

end ArtifactLens.Shell
