import ArtifactLens.Shell.Arithmetic
import ArtifactLens.Shell.Utility.Differing.Marks
import Std.Data.HashMap

/-!
# Texts that are compared line by line

A side is a text as its lines. Two sides are compared by the classes of their lines, which are alike when
nothing but what is to be left aside tells them apart (`Likeness.shape`). Lines that both sides begin or end
with take no part in the comparison (`Likeness.compare`).
-/

namespace ArtifactLens.Shell

namespace Utility.Difference

/-- A text as its lines. -/
structure Side where
  /-- The name that the text goes by. -/
  name : String
  /-- The name that is given to it in headers. -/
  label : Option String := none
  lines : Array String := #[]
  /-- The last line has an end. -/
  isEnded : Bool := true
  /-- When the text was last changed. -/
  moment : Int := 0

namespace Side

/-- The name that is shown. -/
def title (side : Side) : String := side.label.getD side.name

/-- A text by its lines. -/
def ofText (name : String) (label : Option String) (moment : Int) (text : String) : Side :=
  { name, label, moment, lines := (linesOf text).toArray, isEnded := !isUnterminated text }

/-- A line. -/
def line (side : Side) (place : Nat) : String := side.lines.getD place ""

/-- The line lacks its end. -/
def isOpen (side : Side) (place : Nat) : Bool := !side.isEnded && place + 1 == side.lines.size

end Side

/-- Which blanks are left aside. -/
inductive BlankManner where
  | heeded
  /-- Tabs are as good as blanks. -/
  | tabs
  /-- Blanks at the ends of lines are left aside. -/
  | trailing
  | tabsAndTrailing
  /-- It does not matter how many blanks there are. -/
  | amounts
  | all
  deriving DecidableEq

namespace BlankManner

/-- How much is left aside. -/
def rank : BlankManner → Nat
  | .heeded => 0
  | .tabs => 1
  | .trailing => 2
  | .tabsAndTrailing => 3
  | .amounts => 4
  | .all => 5

/-- Blanks at the ends of lines are left aside. -/
def sparesEnds (manner : BlankManner) : Bool := manner.rank ≥ 2

end BlankManner

/-- What makes lines alike. -/
structure Likeness where
  ignoresCase : Bool := false
  blanks : BlankManner := .heeded
  tabSize : Nat := 8
  /-- A line without its end differs from one with it. -/
  heedsEnd : Bool := true
  /-- How many of the lines that both sides begin and end with take part in the comparison. -/
  horizon : Nat := 0
  isShort : Bool := false

namespace Likeness

/-- A text whose tabs are written as blanks. -/
def expandTabs (tabSize column : Nat) (done : List Char) : List Char → List Char
  | [] => done.reverse
  | '\t' :: rest =>
    let count := tabSize - column % tabSize
    expandTabs tabSize (column + count) (List.replicate count ' ' ++ done) rest
  | c :: rest => expandTabs tabSize (column + 1) (c :: done) rest

/-- A text whose blanks are one at a time. -/
def squeeze (wasBlank : Bool) : List Char → List Char
  | [] => []
  | c :: rest =>
    if Arithmetic.isSpace c then
      if wasBlank then squeeze true rest else ' ' :: squeeze true rest
    else c :: squeeze false rest

/-- A text without the blanks that end it. -/
def trimEnd (text : List Char) : List Char :=
  (text.reverse.dropWhile Arithmetic.isSpace).reverse

/-- What is left of a line when all is left aside that does not matter. -/
def shape (likeness : Likeness) (line : String) : String :=
  let line := if likeness.ignoresCase then line.map Char.toLower else line
  match likeness.blanks with
  | .heeded => line
  | .tabs => String.ofList (expandTabs likeness.tabSize 0 [] line.toList)
  | .trailing => String.ofList (trimEnd line.toList)
  | .tabsAndTrailing => String.ofList (expandTabs likeness.tabSize 0 [] (trimEnd line.toList))
  | .amounts => String.ofList (squeeze false (trimEnd line.toList))
  | .all => String.ofList (line.toList.filter fun c => !Arithmetic.isSpace c)

/-- What tells a line of a side from others. -/
def key (likeness : Likeness) (side : Side) (place : Nat) : String :=
  let isOpen := side.isOpen place && likeness.heedsEnd && !likeness.blanks.sparesEnds
  (if isOpen then "\x00" else "") ++ likeness.shape (side.line place)

/-- Classes of lines that are known. -/
abbrev Classes := Std.HashMap String Nat

/-- The classes of some lines of a side; new ones are added to those that are known. -/
def classify (likeness : Likeness) (side : Side) (places : List Nat) (known : Classes) :
    Array Nat × Classes :=
  places.foldl (fun (found, known) place =>
    let key := likeness.key side place
    match known[key]? with
    | some number => (found.push number, known)
    | none => (found.push known.size, known.insert key known.size)) (#[], known)

/-- Lines of two sides are the same, octet by octet. -/
def isSame (likeness : Likeness) (first second : Side) (i j : Nat) : Bool :=
  first.line i == second.line j &&
    (!likeness.heedsEnd || first.isOpen i == second.isOpen j)

/-- How many lines both sides begin with. -/
def commonStart (likeness : Likeness) (first second : Side) : (measure : Nat) → Nat → Nat
  | 0, place => place
  | measure + 1, place =>
    if place < first.lines.size ∧ place < second.lines.size ∧
        likeness.isSame first second place place then
      commonStart likeness first second measure (place + 1)
    else place

/-- How many lines, but no more than a number, both sides end with. -/
def commonEnd (likeness : Likeness) (first second : Side) : (measure : Nat) → Nat → Nat
  | 0, count => count
  | measure + 1, count =>
    if likeness.isSame first second (first.lines.size - 1 - count) (second.lines.size - 1 - count) then
      commonEnd likeness first second measure (count + 1)
    else count

/-- The changes between two sides. -/
def compare (likeness : Likeness) (first second : Side) : List Change :=
  let (size0, size1) := (first.lines.size, second.lines.size)
  let start := likeness.commonStart first second (min size0 size1) 0 - likeness.horizon
  let hasEnds := !likeness.heedsEnd || first.isEnded == second.isEnded
  let stop := if !hasEnds then 0
    else likeness.commonEnd first second (min size0 size1 - start) 0 - likeness.horizon
  let places (size : Nat) : List Nat := (List.range (size - stop - start)).map (· + start)
  let (classes0, known) := likeness.classify first (places size0) {}
  let (classes1, known) := likeness.classify second (places size1) known
  (changes likeness.isShort known.size classes0 classes1).map fun change =>
    { change with line0 := change.line0 + start, line1 := change.line1 + start }

end Likeness

end Utility.Difference

end ArtifactLens.Shell
