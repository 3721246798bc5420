import ArtifactLens.Shell.Conversion
import ArtifactLens.Shell.Utility.Differing.Showing

/-!
# Formats for groups of lines

Changes can be written by formats: one for each kind of group of lines, and one for each kind of line in
them. A format holds directives that begin with a percent sign.
-/

namespace ArtifactLens.Shell

namespace Utility.Difference

/-- The formats of groups: those that were not given are made of others. -/
def GroupFormats.filled (formats : GroupFormats) : GroupFormats :=
  let old := formats.oldGroup.getD (formats.changedGroup.getD "%<")
  let new := formats.newGroup.getD (formats.changedGroup.getD "%>")
  { formats with
    oldGroup := some old, newGroup := some new
    unchangedGroup := some (formats.unchangedGroup.getD "%=")
    changedGroup := some (formats.changedGroup.getD (old ++ new)) }

namespace Showing

/-- A part of both sides. -/
structure Group where
  start0 : Nat
  stop0 : Nat
  start1 : Nat
  stop1 : Nat

/-- The number that a letter stands for in the format of a group; capitals are for the second side. -/
def Group.value? (group : Group) (letter : Char) : Option Nat :=
  let (start, stop) := if letter.isUpper then (group.start1, group.stop1)
    else (group.start0, group.stop0)
  match letter.toLower with
  | 'e' => some start
  | 'f' => some (start + 1)
  | 'l' => some stop
  | 'm' => some (stop + 1)
  | 'n' => some (stop - start)
  | _ => none

/-- The character that is spelled between apostrophes at the start of a text, and what follows. -/
def quotedChar? (text : List Char) : Option (Char × List Char) :=
  match text with
  | '\\' :: rest =>
    let digits := rest.takeWhile fun c => '0' ≤ c && c ≤ '7'
    match rest.drop digits.length with
    | '\'' :: after =>
      if digits.isEmpty ∨ digits.length > 3 then none
      else some (Char.ofNat (Arithmetic.digitsValue 8 digits % 256), after)
    | _ => none
  | '\'' :: _ => none
  | c :: '\'' :: after => some (c, after)
  | _ => none

/-- What a directive with flags, a width and a precision stands for, given the text after its percent sign
and the numbers that letters stand for. -/
def directive? (value? : Char → Option Nat) (text : List Char) : Option (String × List Char) :=
  let flags := text.takeWhile fun c => c == '-' || c == '\'' || c == '0'
  let rest := text.drop flags.length
  let width := rest.takeWhile Char.isDigit
  let rest := rest.drop width.length
  let (precision, rest) := match rest with
    | '.' :: more =>
      let digits := more.takeWhile Char.isDigit
      (some (Digit.numeral digits), more.drop digits.length)
    | _ => (none, rest)
  match rest with
  | 'c' :: '\'' :: more => (quotedChar? more).map fun (c, after) => (String.singleton c, after)
  | kind :: letter :: after =>
    if !"doxX".contains kind then none
    else
      (value? letter).map fun value =>
        let conversion : Conversion := flags.foldl Conversion.flag { letter := kind }
        let conversion := { conversion with width := Digit.numeral width, precision }
        (if kind = 'd' then conversion.integer value else conversion.natural value, after)
  | _ => none

/-- A line by a format. -/
def formatLine (showing : Showing) (side : Side) (place : Nat) (format : String) : String :=
  let text := showing.lineText "" (side.line place)
  let rec go (done : List Char) : (measure : Nat) → List Char → String
    | 0, _ | _ + 1, [] => String.ofList done.reverse
    | measure + 1, '%' :: '%' :: rest => go ('%' :: done) measure rest
    | measure + 1, '%' :: 'l' :: rest => go (text.toList.reverse ++ done) measure rest
    | measure + 1, '%' :: 'L' :: rest =>
      let done := text.toList.reverse ++ done
      go (if side.isOpen place then done else '\n' :: done) measure rest
    | measure + 1, '%' :: rest =>
      match directive? (fun letter => if letter = 'n' then some (place + 1) else none) rest with
      | some (text, rest) => go (text.toList.reverse ++ done) measure rest
      | none => go ('%' :: done) measure rest
    | measure + 1, c :: rest => go (c :: done) measure rest
  go [] (format.length + 1) format.toList

/-- A number at the start of a condition: digits, or a letter for one. -/
def conditionValue? (group : Group) (text : List Char) : Option (Nat × List Char) :=
  let digits := text.takeWhile Char.isDigit
  if !digits.isEmpty then some (Digit.numeral digits, text.drop digits.length)
  else
    match text with
    | letter :: rest => (group.value? letter).map (·, rest)
    | [] => none

/-- Whether a condition holds, and what follows its question mark. -/
def condition? (group : Group) (text : List Char) : Option (Bool × List Char) := do
  let (left, rest) ← conditionValue? group text
  match rest with
  | '=' :: rest =>
    let (right, rest) ← conditionValue? group rest
    match rest with
    | '?' :: rest => some (left == right, rest)
    | _ => none
  | _ => none

/-- The lines of a side by a format. -/
def formatLines (showing : Showing) (side : Side) (start stop : Nat) (format : Option String) :
    String :=
  linesBy start stop fun place => showing.formatLine side place (format.getD "%l\n")

/-- A group by a format, up to a character that ends it; `done` is what was written, in reverse, and also
what is left of the format comes out. -/
def formatGroup (showing : Showing) (first second : Side) (group : Group) :
    (measure : Nat) → (ending : Option Char) → (done : List String) → List Char →
      List String × List Char
  | 0, _, done, rest => (done, rest)
  | _ + 1, _, done, [] => (done, [])
  | measure + 1, ending, done, c :: rest =>
    if some c = ending then (done, c :: rest)
    else if c ≠ '%' then
      formatGroup showing first second group measure ending (String.singleton c :: done) rest
    else
      let formats := showing.formats
      match rest with
      | '%' :: rest => formatGroup showing first second group measure ending ("%" :: done) rest
      | '<' :: rest =>
        let text := showing.formatLines first group.start0 group.stop0 formats.oldLine
        formatGroup showing first second group measure ending (text :: done) rest
      | '=' :: rest =>
        let text := showing.formatLines first group.start0 group.stop0 formats.unchangedLine
        formatGroup showing first second group measure ending (text :: done) rest
      | '>' :: rest =>
        let text := showing.formatLines second group.start1 group.stop1 formats.newLine
        formatGroup showing first second group measure ending (text :: done) rest
      | '(' :: rest =>
        match condition? group rest with
        | none => formatGroup showing first second group measure ending ("%" :: done) ('(' :: rest)
        | some (holds, rest) =>
          let (then_, rest) := formatGroup showing first second group measure (some ':') [] rest
          let (else_, rest) := match rest with
            | [] => ([], [])
            | _ :: rest =>
              let (else_, rest) := formatGroup showing first second group measure (some ')') [] rest
              (else_, rest.drop 1)
          formatGroup showing first second group measure ending
            ((if holds then then_ else else_) ++ done) rest
      | _ =>
        match directive? group.value? rest with
        | some (text, rest) =>
          formatGroup showing first second group measure ending (text :: done) rest
        | none => formatGroup showing first second group measure ending ("%" :: done) rest

/-- A group by a whole format. -/
def formatWhole (showing : Showing) (first second : Side) (group : Group) (format : String) :
    String :=
  String.join (showing.formatGroup first second group (format.length + 1) none []
    format.toList).1.reverse

/-- Lines that both sides have say nothing. -/
def hidesCommon (showing : Showing) : Bool :=
  match showing.formats.unchangedGroup with
  | some "" => true
  | some "%=" | none => showing.formats.unchangedLine == some ""
  | _ => false

/-- All groups from two places on. -/
def byFormats (showing : Showing) (first second : Side) (next0 next1 : Nat) :
    List Change → String
  | [] =>
    let (stop0, stop1) := (first.lines.size, second.lines.size)
    if next0 < stop0 ∨ next1 < stop1 then
      showing.formatWhole first second ⟨next0, stop0, next1, stop1⟩
        (showing.formats.unchangedGroup.getD "")
    else ""
  | change :: rest =>
    match showing.extent? first second [change] with
    | none => byFormats showing first second next0 next1 rest
    | some extent =>
      let common := if next0 < extent.start0 ∨ next1 < extent.start1 then
          showing.formatWhole first second ⟨next0, extent.start0, next1, extent.start1⟩
            (showing.formats.unchangedGroup.getD "")
        else ""
      let format := if extent.hasOld ∧ extent.hasNew then showing.formats.changedGroup
        else if extent.hasOld then showing.formats.oldGroup else showing.formats.newGroup
      common ++ showing.formatWhole first second
          ⟨extent.start0, extent.stop0, extent.start1, extent.stop1⟩ (format.getD "") ++
        byFormats showing first second extent.stop0 extent.stop1 rest

end Showing

end Utility.Difference

end ArtifactLens.Shell
