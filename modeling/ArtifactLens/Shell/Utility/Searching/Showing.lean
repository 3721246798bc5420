import ArtifactLens.Shell.Regex.Matching
import ArtifactLens.Shell.Utility.Basic

/-!
# Selecting and showing lines

A line is selected if one of the patterns matches in it, or if none does where that is asked for.
`Search.walk` tells which lines of a text are shown, with those around the selected ones, and
`Search.render` writes them out, with what stands in front of them and in colours.
-/

namespace ArtifactLens.Shell

namespace Utility

/-- What is done about texts that hold no lines. -/
inductive BinaryManner where
  | tell
  | asText
  | noMatch
  deriving DecidableEq, Repr

/-- How lines are searched and shown. -/
structure Search where
  regex : Regex
  ignoresCase : Bool := false
  inverted : Bool := false
  wholeWords : Bool := false
  wholeLines : Bool := false
  /-- Only the matches themselves are shown. -/
  onlyMatches : Bool := false
  numbers : Bool := false
  /-- The places of lines are shown, in octets from the start. -/
  places : Bool := false
  /-- Lines begin at a tab stop. -/
  aligned : Bool := false
  /-- What ends the name of an input. -/
  nameEnd : Option Char := none
  before : Option Nat := none
  after : Option Nat := none
  most : Option Nat := none
  /-- What stands between groups of lines. -/
  separator : Option String := some "--"
  coloured : Bool := false
  /-- What ends a line. -/
  lineEnd : Char := '\n'
  binary : BinaryManner := .tell

namespace Search

/-- A match from a place to an end is one that the search asks for. -/
def accepts (search : Search) (subject : Regex.Subject) (start : Nat) (spot : Regex.Spot) : Bool :=
  (!search.wholeLines || (start == 0 && spot.position == subject.chars.size)) &&
    (!search.wholeWords ||
      (!(Regex.edges subject start).1 && !(Regex.edges subject spot.position).2))

/-- A line as the subject of the search. -/
def subject (search : Search) (call : Invocation) (line : String) : Regex.Subject :=
  { chars := (call.glyphs line.toList).toArray, ignoresCase := search.ignoresCase }

/-- The first match in a line from a position on. -/
def find (search : Search) (subject : Regex.Subject) (start : Nat) : Option (Nat × Nat) :=
  (search.regex.search subject start (search.accepts subject)).map fun (first, spot) =>
    (first, spot.position)

/-- All matches in a line that are not empty. -/
def matchesFrom (search : Search) (subject : Regex.Subject) :
    (measure : Nat) → (start : Nat) → List (Nat × Nat)
  | 0, _ => []
  | measure + 1, start =>
    match search.find subject start with
    | none => []
    | some (first, last) =>
      if last > first then (first, last) :: matchesFrom search subject measure last
      else if first < subject.chars.size then matchesFrom search subject measure (first + 1)
      else []

/-- The line is selected. -/
def selects (search : Search) (subject : Regex.Subject) : Bool :=
  (search.find subject 0).isSome != search.inverted

/-- A line of the output: its number, its place, its text, and whether it was selected. -/
structure Shown where
  number : Nat
  place : Nat
  text : String
  isSelected : Bool

/-- What a walk through a text has found. -/
structure Walk where
  /-- The lines to show, in reverse. -/
  shown : List Shown := []
  /-- How many lines were selected. -/
  count : Nat := 0
  /-- Where the text goes on after the last line that was selected. -/
  finish : Nat := 0

/-- The lines to show: selected ones and those around them. `recent` are lines before that were
not shown, the nearest first; `owed` is how many lines after a selected one are still shown. -/
def walk (search : Search) (selected : String → Bool) (number place owed : Nat)
    (recent : List Shown) (done : Walk) : List String → Walk
  | [] => done
  | line :: rest =>
    let isOver := search.most.any (· ≤ done.count)
    let shown : Shown := ⟨number, place, line, false⟩
    let next := place + line.length + 1
    if isOver ∧ owed = 0 then done
    else if !isOver && selected line then
      let before := recent.take (search.before.getD 0)
      walk search selected (number + 1) next (search.after.getD 0) []
        { shown := { shown with isSelected := true } :: (before ++ done.shown)
          count := done.count + 1, finish := next } rest
    else if owed > 0 then
      walk search selected (number + 1) next (owed - 1) []
        { done with shown := shown :: done.shown } rest
    else
      let recent := (shown :: recent).take (search.before.getD 0)
      walk search selected (number + 1) next 0 recent done rest

/-! ### Output -/

/-- A text in a colour. -/
def paint (search : Search) (colour text : String) : String :=
  if search.coloured then "\x1b[" ++ colour ++ "m\x1b[K" ++ text ++ "\x1b[m\x1b[K" else text

/-- The name of an input in front of a line, or none. -/
def nameHeading (search : Search) (title : Option String) (mark : String) : String :=
  match title with
  | none => ""
  | some title =>
    paint search "35" title ++ (match search.nameEnd with
      | some c => String.singleton c
      | none => paint search "36" mark)

/-- The text before a shown line, or before a match so many octets from its start. -/
def heading (search : Search) (title : Option String) (shown : Shown) (offset : Nat)
    (isEmpty : Bool) : String :=
  let mark := if shown.isSelected then ":" else "-"
  let name := nameHeading search title mark
  let number := if search.numbers then
      paint search "32" (toString shown.number) ++ paint search "36" mark else ""
  let place := if search.places then
      paint search "32" (toString (shown.place + offset)) ++ paint search "36" mark else ""
  let text := name ++ number ++ place
  if search.aligned ∧ text ≠ "" ∧ !isEmpty then text.push '\t' else text

/-- A line with its matches in colour. -/
def painted (search : Search) (call : Invocation) (subject : Regex.Subject) : String :=
  let chars := subject.chars.toList
  let piece (first last : Nat) : String :=
    String.ofList (call.ofGlyphs ((chars.drop first).take (last - first)))
  let (text, place) := (search.matchesFrom subject (chars.length + 2) 0).foldl
    (fun (done, place) (first, last) =>
      (done ++ piece place first ++ search.paint "01;31" (piece first last), last)) ("", 0)
  text ++ piece place chars.length

/-- A line of the output, or the matches in it. -/
def lineText (search : Search) (call : Invocation) (title : Option String) (shown : Shown) :
    String :=
  let matched := shown.isSelected != search.inverted
  if search.onlyMatches then
    if !matched then ""
    else
      let subject := search.subject call shown.text
      String.join <| (search.matchesFrom subject (subject.chars.size + 2) 0).map fun (first, last) =>
        let before := call.ofGlyphs (subject.chars.toList.take first)
        let text := (subject.chars.toList.drop first).take (last - first)
        (heading search title shown before.length false ++
          search.paint "01;31" (String.ofList (call.ofGlyphs text))).push search.lineEnd
  else
    let text := if search.coloured ∧ matched then
        painted search call (search.subject call shown.text) else shown.text
    (heading search title shown 0 (shown.text == "") ++ text).push search.lineEnd

/-- The line cannot be shown as a text. -/
def isGarbled (search : Search) (call : Invocation) (text : String) : Bool :=
  search.binary != .asText &&
    text.toList.any (·.toNat ≥ 0x80) &&
    (call.glyphs (text.toList.filter (·.toNat ≥ 0x80))).any (· ≥ OctetText.strayBase)

/-- What was put out of the lines of inputs. -/
structure Output where
  text : String := ""
  /-- Something was put out of this input or of one before. -/
  used : Bool := false
  /-- The number of the last line that was put out of this input. -/
  last : Nat := 0
  /-- A line could not be shown. -/
  garbled : Bool := false

/-- The output of a search, without lines that cannot be shown. -/
def render (search : Search) (call : Invocation) (title : Option String) (output : Output) :
    List Shown → Output
  | [] => output
  | shown :: rest =>
    let isApart := search.before.isSome || search.after.isSome
    let gap := match search.separator with
      | some separator =>
        if isApart ∧ output.used ∧ (output.last = 0 ∨ output.last + 1 ≠ shown.number) then
          search.paint "36" separator ++ "\n"
        else ""
      | none => ""
    if search.isGarbled call shown.text ∧ !search.onlyMatches then
      render search call title { output with text := output.text ++ gap, garbled := true } rest
    else
      render search call title
        { output with
          text := output.text ++ gap ++ lineText search call title shown
          used := true, last := shown.number } rest

end Search

end Utility

end ArtifactLens.Shell
