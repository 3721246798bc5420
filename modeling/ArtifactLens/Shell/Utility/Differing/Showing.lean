import ArtifactLens.Shell.Regex.Matching
import ArtifactLens.Shell.Utility.Differing.Side
import ArtifactLens.Text.Columns

/-!
# Showing changes

Changes are shown in hunks: each one alone, or with the lines around it together with those that are near.
The styles differ in how a hunk is written (`Showing.normalHunk` and so on). A hunk none of whose lines
counts is not shown at all (`Showing.extent?`).
-/

namespace ArtifactLens.Shell

namespace Utility.Difference

/-- How changes are written. -/
inductive ShowStyle where
  | normal
  | context
  | unified
  /-- As commands of an editor, from the last one. -/
  | editor
  /-- As commands of an editor, from the first one. -/
  | forward
  | counted
  | beside
  /-- By formats for groups of lines. -/
  | formats
  deriving DecidableEq

/-- Formats of groups of lines and of single lines, by whether they are old, new, both, or neither. -/
structure GroupFormats where
  oldGroup : Option String := none
  newGroup : Option String := none
  changedGroup : Option String := none
  unchangedGroup : Option String := none
  oldLine : Option String := none
  newLine : Option String := none
  unchangedLine : Option String := none

/-- How changes are shown. -/
structure Showing where
  call : Invocation
  style : ShowStyle := .normal
  /-- How many lines around changes are shown. -/
  context : Nat := 0
  expandsTabs : Bool := false
  tabSize : Nat := 8
  /-- A tab stands before lines, instead of a blank. -/
  startsWithTab : Bool := false
  /-- No blank stands before empty lines. -/
  sparesBlank : Bool := false
  /-- Changes of empty lines do not count. -/
  ignoresEmpty : Bool := false
  blanks : BlankManner := .heeded
  /-- Changes of lines that match one of these do not count. -/
  ignored : List Regex := []
  /-- What lines match that are shown as headings of hunks. -/
  heading : Option Regex := none
  width : Nat := 130
  leftColumn : Bool := false
  sparesCommon : Bool := false
  isColored : Bool := false
  formats : GroupFormats := {}

/-- The lines that a hunk covers on both sides, and whether some are gone and some are new. -/
structure Extent where
  start0 : Nat
  stop0 : Nat
  start1 : Nat
  stop1 : Nat
  hasOld : Bool
  hasNew : Bool

namespace Showing

/-- A line matches an expression. -/
def isMatch (showing : Showing) (regex : Regex) (line : String) : Bool :=
  (Regex.search regex { chars := (showing.call.glyphs line.toList).toArray } 0).isSome

/-- Some changes do not count. -/
def isPicky (showing : Showing) : Bool := showing.ignoresEmpty || !showing.ignored.isEmpty

/-- The line does not count. -/
def isIgnored (showing : Showing) (line : String) : Bool :=
  let isBlank := showing.ignoresEmpty &&
    (line == "" || (showing.blanks.sparesEnds && line.toList.all Arithmetic.isSpace))
  isBlank || showing.ignored.any fun regex => showing.isMatch regex line

/-- What a hunk covers, if any of its lines counts. -/
def extent? (showing : Showing) (first second : Side) (hunk : List Change) : Option Extent := do
  let one ← hunk.head?
  let last ← hunk.getLast?
  let trivial := showing.isPicky && hunk.all fun change =>
    (List.range change.deleted).all (fun n => showing.isIgnored (first.line (change.line0 + n))) &&
      (List.range change.inserted).all fun n => showing.isIgnored (second.line (change.line1 + n))
  if trivial then none
  else some {
    start0 := one.line0, stop0 := last.line0 + last.deleted
    start1 := one.line1, stop1 := last.line1 + last.inserted
    hasOld := hunk.any (·.deleted ≠ 0), hasNew := hunk.any (·.inserted ≠ 0) }

/-! ### Lines -/

/-- A text with its tabs written as blanks, if that is asked for; after a return the line starts again. -/
def tabbed (showing : Showing) (again : String) (column : Nat) (done : List Char) :
    List Char → List Char
  | [] => done.reverse
  | '\t' :: rest =>
    let count := showing.tabSize - column % showing.tabSize
    tabbed showing again (column + count) (List.replicate count ' ' ++ done) rest
  | '\r' :: rest =>
    let done := '\r' :: done
    tabbed showing again 0 (if rest.isEmpty then done else again.toList.reverse ++ done) rest
  | '\x08' :: rest =>
    if column = 0 then tabbed showing again column done rest
    else tabbed showing again (column - 1) ('\x08' :: done) rest
  | c :: rest =>
    let isPrinted := 0x20 ≤ c.toNat && c.toNat < 0x7f
    tabbed showing again (if isPrinted then column + 1 else column) (c :: done) rest

/-- The text of a line. -/
def lineText (showing : Showing) (again : String) (line : String) : String :=
  if showing.expandsTabs then String.ofList (showing.tabbed again 0 [] line.toList) else line

/-- What is said after a line that lacks its end. -/
def openNote : String := "\n\\ No newline at end of file\n"

/-- The parts of what is shown that have colours. -/
inductive Colour where
  | header
  | place
  | old
  | new

/-- A text in a colour, if colours are asked for. -/
def paint (showing : Showing) (colour : Colour) (text : String) : String :=
  if showing.isColored then
    let code := match colour with
      | .header => "1"
      | .place => "36"
      | .old => "31"
      | .new => "32"
    "\x1b[" ++ code ++ "m" ++ text ++ "\x1b[0m"
  else text

/-- A line with a mark before it. -/
def marked (showing : Showing) (colour : Colour) (mark : String) (side : Side) (place : Nat) :
    String :=
  let line := side.line place
  let start := if showing.sparesBlank ∧ line = "" then (if mark = " " then "" else mark)
    else mark ++ (if showing.startsWithTab then "\t" else " ")
  showing.paint colour (start ++ showing.lineText start line) ++
    (if side.isOpen place then openNote else "\n")

/-- A line without a mark, which may lack its end. -/
def bare (showing : Showing) (side : Side) (place : Nat) : String :=
  showing.lineText "" (side.line place) ++ (if side.isOpen place then "" else "\n")

/-- Lines of a side by a function. -/
def linesBy (start stop : Nat) (line : Nat → String) : String :=
  String.join ((List.range (stop - start)).map fun n => line (start + n))

/-- The numbers of the first and the last line; of no lines, the number of the one before. -/
def range (separator : String) (start stop : Nat) : String :=
  if start + 1 < stop then toString (start + 1) ++ separator ++ toString stop else toString stop

/-- The letter for what a hunk does. -/
def letter (extent : Extent) : String :=
  if extent.hasOld then (if extent.hasNew then "c" else "d") else "a"

/-! ### Hunks without context -/

/-- A hunk in the normal style. -/
def normalHunk (showing : Showing) (first second : Side) (extent : Extent) : String :=
  showing.paint .place (range "," extent.start0 extent.stop0 ++ letter extent ++
    range "," extent.start1 extent.stop1) ++ "\n" ++
    (if extent.hasOld then linesBy extent.start0 extent.stop0 (showing.marked .old "<" first)
    else "") ++
    (if extent.hasOld ∧ extent.hasNew then "---\n" else "") ++
    (if extent.hasNew then linesBy extent.start1 extent.stop1 (showing.marked .new ">" second)
    else "")

/-- The text that an editor is given; a line with nothing but a dot would end it, so it is put in as two
dots, of which one is taken away again. -/
def editorText (showing : Showing) (second : Side) (inserting : Bool) : List Nat → String
  | [] => if inserting then ".\n" else ""
  | place :: rest =>
    let start := if inserting then "" else "a\n"
    if second.line place = "." then
      start ++ "..\n.\ns/.//\n" ++ editorText showing second false rest
    else
      start ++ showing.lineText "" (second.line place) ++ "\n" ++ editorText showing second true rest

/-- A hunk as commands of an editor. -/
def editorHunk (showing : Showing) (second : Side) (extent : Extent) : String :=
  let places := (List.range (extent.stop1 - extent.start1)).map (· + extent.start1)
  range "," extent.start0 extent.stop0 ++ letter extent ++ "\n" ++
    (if extent.hasNew then showing.editorText second true places else "")

/-- A hunk as commands of an editor that goes forward. -/
def forwardHunk (showing : Showing) (second : Side) (extent : Extent) : String :=
  letter extent ++ range " " extent.start0 extent.stop0 ++ "\n" ++
    (if extent.hasNew then
      linesBy extent.start1 extent.stop1 (fun place =>
        showing.lineText "" (second.line place) ++ "\n") ++ ".\n"
    else "")

/-- A hunk as commands with numbers of lines. -/
def countedHunk (showing : Showing) (second : Side) (extent : Extent) : String :=
  let old := extent.stop0 - extent.start0
  let new := extent.stop1 - extent.start1
  (if extent.hasOld then "d" ++ toString (extent.start0 + 1) ++ " " ++ toString (max old 1) ++ "\n"
    else "") ++
    (if extent.hasNew then
      "a" ++ toString extent.stop0 ++ " " ++ toString (max new 1) ++ "\n" ++
        linesBy extent.start1 extent.stop1 (showing.bare second)
    else "")

/-! ### Hunks with context -/

/-- Changes that are near each other, together. A change that does not count has to be nearer to the one
before it. -/
def hunks (showing : Showing) (isIgnored : Change → Bool) :
    (hunk : List Change) → List Change → List (List Change)
  | [], [] => []
  | hunk, [] => [hunk.reverse]
  | [], change :: rest => hunks showing isIgnored [change] rest
  | last :: before, change :: rest =>
    let threshold := if isIgnored change then showing.context
      else 2 * showing.context + 1
    if change.line0 - (last.line0 + last.deleted) < threshold then
      hunks showing isIgnored (change :: last :: before) rest
    else (last :: before).reverse :: hunks showing isIgnored [change] rest

/-- The part of a line that serves as a heading. -/
def headingText (line : String) : String :=
  let text := (line.toList.dropWhile Arithmetic.isSpace).take 40
  " " ++ String.ofList (text.reverse.dropWhile Arithmetic.isSpace).reverse

/-- The last heading before a line. The search goes back to where the search before it began; then the
heading that was found last is taken. `state` holds both. -/
def findHeading (showing : Showing) (first : Side) (state : Nat × Option Nat) (place : Nat) :
    String × (Nat × Option Nat) :=
  match showing.heading with
  | none => ("", state)
  | some regex =>
    let (last, match?) := state
    let found := ((List.range (place - last)).map fun n => place - 1 - n).find? fun line =>
      showing.isMatch regex (first.line line)
    let match? := found <|> match?
    ((match?.map fun line => headingText (first.line line)).getD "", (place, match?))

/-- The lines around a hunk on one side. -/
def around (showing : Showing) (size start stop : Nat) : Nat × Nat :=
  (start - showing.context, min size (stop + showing.context))

/-- The side of a hunk with marks: one for lines of changes of this side alone, and one for lines that
were replaced. -/
def contextLines (showing : Showing) (colour : Colour) (side : Side) (alone : String)
    (start stop : Nat) (spans : List (Nat × Nat × Bool)) : String :=
  linesBy start stop fun place =>
    let mark := match spans.find? fun (from_, count, _) => from_ ≤ place && place < from_ + count with
      | some (_, _, isReplaced) => if isReplaced then "!" else alone
      | none => " "
    showing.marked colour mark side place

/-- A hunk with context. -/
def contextHunk (showing : Showing) (first second : Side) (heading : String) (extent : Extent)
    (hunk : List Change) : String :=
  let (start0, stop0) := showing.around first.lines.size extent.start0 extent.stop0
  let (start1, stop1) := showing.around second.lines.size extent.start1 extent.stop1
  let old := hunk.map fun change => (change.line0, change.deleted, change.inserted != 0)
  let new := hunk.map fun change => (change.line1, change.inserted, change.deleted != 0)
  "***************" ++ heading ++ "\n" ++
    showing.paint .place ("*** " ++ range "," start0 stop0 ++ " ****") ++ "\n" ++
    (if extent.hasOld then showing.contextLines .old first "-" start0 stop0 old else "") ++
    showing.paint .place ("--- " ++ range "," start1 stop1 ++ " ----") ++ "\n" ++
    (if extent.hasNew then showing.contextLines .new second "+" start1 stop1 new else "")

/-- The number of the first line and how many there are. -/
def unifiedRange (start stop : Nat) : String :=
  if start + 1 < stop then toString (start + 1) ++ "," ++ toString (stop - start)
  else if start + 1 = stop then toString stop
  else toString stop ++ ",0"

/-- A line with a sign that touches it, if it has one. -/
def signed (showing : Showing) (sign : Option (String × Colour)) (side : Side) (place : Nat) :
    String :=
  let line := side.line place
  let isSpared := showing.sparesBlank && line == ""
  let text := showing.lineText "" line
  let shown := match sign with
    | none => (if isSpared then "" else if showing.startsWithTab then "\t" else " ") ++ text
    | some (sign, colour) =>
      showing.paint colour
        (sign ++ (if showing.startsWithTab ∧ !isSpared then "\t" else "") ++ text)
  shown ++ (if side.isOpen place then openNote else "\n")

/-- The lines of a unified hunk from a place on the first side. -/
def unifiedLines (showing : Showing) (first second : Side) (stop : Nat) :
    (place : Nat) → List Change → String
  | place, [] => linesBy place stop (showing.signed none first)
  | place, change :: rest =>
    linesBy place change.line0 (showing.signed none first) ++
      linesBy change.line0 (change.line0 + change.deleted) (showing.signed (some ("-", .old)) first) ++
      linesBy change.line1 (change.line1 + change.inserted) (showing.signed (some ("+", .new)) second) ++
      unifiedLines showing first second stop (change.line0 + change.deleted) rest

/-- A unified hunk. -/
def unifiedHunk (showing : Showing) (first second : Side) (heading : String) (extent : Extent)
    (hunk : List Change) : String :=
  let (start0, stop0) := showing.around first.lines.size extent.start0 extent.stop0
  let (start1, stop1) := showing.around second.lines.size extent.start1 extent.stop1
  showing.paint .place
    ("@@ -" ++ unifiedRange start0 stop0 ++ " +" ++ unifiedRange start1 stop1 ++ " @@") ++
    heading ++ "\n" ++ showing.unifiedLines first second stop0 start0 hunk

/-- All hunks with context. -/
def withContext (showing : Showing) (first second : Side) (changes : List Change) : String :=
  let isIgnored (change : Change) : Bool :=
    showing.isPicky && (showing.extent? first second [change]).isNone
  let (pieces, _) := (showing.hunks isIgnored [] changes).foldl (fun (pieces, state) hunk =>
    match showing.extent? first second hunk with
    | none => (pieces, state)
    | some extent =>
      let (heading, state) :=
        showing.findHeading first state (extent.start0 - showing.context)
      let piece := if showing.style = .unified then
          showing.unifiedHunk first second heading extent hunk
        else showing.contextHunk first second heading extent hunk
      (piece :: pieces, state)) ([], ((0, none) : Nat × Option Nat))
  String.join pieces.reverse

/-! ### Side by side -/

/-- The width of a column, and where the second one begins. -/
def columns (showing : Showing) : Nat × Nat :=
  let tab := if showing.expandsTabs then 1 else showing.tabSize
  let width := showing.width
  let gap := tab + 3
  let off := width / 2 + gap / 2 + (if width % 2 = 1 ∧ gap % 2 = 1 then 1 else 0)
  let off := off - off % tab
  let half := min (off - 3) (width - off)
  (half, if half = 0 then width else off)

/-- Blanks, and tabs if they may be, from one column to another. -/
def gap (showing : Showing) (start stop : Nat) : List Char :=
  if showing.expandsTabs ∨ showing.tabSize = 0 then List.replicate (stop - start) ' '
  else
    let size := showing.tabSize
    let tabs := stop / size - start / size
    let reached := if tabs = 0 then start else stop / size * size
    List.replicate tabs '\t' ++ List.replicate (stop - reached) ' '

/-- Where the text of a column is, and where what is seen of it ends. -/
structure ColumnPlace where
  read : Nat := 0
  shown : Nat := 0

/-- A line as far as it fits into a column that begins at `indent`, in reverse, with where it ends. -/
def column (showing : Showing) (indent bound : Nat) (place : ColumnPlace) (done : List Char) :
    List OctetText.Glyph → List Char × Nat
  | [] => (done, place.shown)
  | unit :: rest =>
    let octets := showing.call.ofGlyphs [unit]
    let goOn (place : ColumnPlace) (done : List Char) : List Char × Nat :=
      column showing indent bound place done rest
    if unit = 9 then
      let spaces := showing.tabSize - place.read % showing.tabSize
      let (shown, done) :=
        if place.read ≠ place.shown then (place.shown, done)
        else
          let stop := place.shown + spaces
          if showing.expandsTabs then
            let stop := min bound stop
            (stop, List.replicate (stop - place.shown) ' ' ++ done)
          else if stop < bound then (stop, '\t' :: done) else (place.shown, done)
      goOn ⟨place.read + spaces, shown⟩ done
    else if unit = 13 then
      goOn {} ((showing.gap 0 indent).reverse ++ '\r' :: done)
    else if unit = 8 then
      if place.read = 0 then goOn place done
      else
        let read := place.read - 1
        if bound ≤ read then goOn { place with read } done
        else if place.shown ≤ read then
          goOn ⟨read, read⟩ (List.replicate (read - place.shown) ' ' ++ done)
        else goOn ⟨read, read⟩ ('\x08' :: done)
    else
      let isWide := 0x80 ≤ unit && unit < OctetText.strayBase && showing.call.isUtf8
      let width := if isWide then Columns.width (Char.ofNat unit)
        else if 0x20 ≤ unit ∧ unit < 0x7f then 1 else 0
      if isWide ∨ (unit < 0x80 ∧ unit ≠ 0 ∧ unit ≠ 11 ∧ unit ≠ 12) then
        let read := place.read + width
        if read ≤ bound then goOn ⟨read, read⟩ (octets.reverse ++ done)
        else goOn { place with read } done
      else goOn place (if place.read < bound then octets.reverse ++ done else done)

/-- A row of two columns with a sign between them; either column may have no line. -/
def row (showing : Showing) (left : Option (Side × Nat)) (sign : Char)
    (right : Option (Side × Nat)) : String :=
  let (half, second) := showing.columns
  let isEnded (line : Option (Side × Nat)) : Bool :=
    (line.map fun (side, place) => !side.isOpen place).getD false
  let units (line : Side × Nat) : List OctetText.Glyph :=
    showing.call.glyphs (line.1.line line.2).toList
  let (done, at_) := match left with
    | some line => showing.column 0 half {} [] (units line)
    | none => ([], 0)
  let (done, at_) :=
    if sign = ' ' then (done, at_)
    else
      let place := (half + second - 1) / 2
      let sign := if sign = '|' ∧ isEnded left ≠ isEnded right then
          (if isEnded left then '/' else '\\')
        else sign
      (sign :: (showing.gap at_ place).reverse ++ done, place + 1)
  let done := match right with
    | some line =>
      if (line.1.line line.2) = "" ∧ !line.1.isOpen line.2 then done
      else
        (showing.column second half {} ((showing.gap at_ second).reverse ++ done) (units line)).1
    | none => done
  let text := String.ofList done.reverse ++ (if isEnded left ∨ isEnded right then "\n" else "")
  match sign with
  | '<' => showing.paint .old text
  | '>' => showing.paint .new text
  | _ => text

/-- Rows of lines that both sides have. -/
def commonRows (showing : Showing) (first second : Side) (next0 next1 stop0 stop1 : Nat) : String :=
  if showing.sparesCommon then ""
  else if showing.leftColumn then
    linesBy next0 stop0 fun place => showing.row (some (first, place)) '(' none
  else
    let both := min (stop0 - next0) (stop1 - next1)
    linesBy 0 both (fun n =>
      showing.row (some (first, next0 + n)) ' ' (some (second, next1 + n))) ++
      linesBy (next1 + both) stop1 (fun place => showing.row none ')' (some (second, place))) ++
      linesBy (next0 + both) stop0 fun place => showing.row (some (first, place)) '(' none

/-- All rows from two places on. -/
def rows (showing : Showing) (first second : Side) (next0 next1 : Nat) : List Change → String
  | [] => showing.commonRows first second next0 next1 first.lines.size second.lines.size
  | change :: rest =>
    match showing.extent? first second [change] with
    | none => rows showing first second next0 next1 rest
    | some extent =>
      let both := if extent.hasOld ∧ extent.hasNew then min change.deleted change.inserted else 0
      showing.commonRows first second next0 next1 change.line0 change.line1 ++
        linesBy 0 both (fun n =>
          showing.row (some (first, change.line0 + n)) '|' (some (second, change.line1 + n))) ++
        linesBy (change.line1 + both) extent.stop1 (fun place =>
          showing.row none '>' (some (second, place))) ++
        linesBy (change.line0 + both) extent.stop0 (fun place =>
          showing.row (some (first, place)) '<' none) ++
        rows showing first second extent.stop0 extent.stop1 rest

end Showing

end Utility.Difference

end ArtifactLens.Shell
