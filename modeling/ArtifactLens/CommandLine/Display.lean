import ArtifactLens.Text.Columns

/-!
# The display

What the command line shows: a table of artifacts, or texts one after the other. A printed text
loses the control characters that would ring, step back or move the cursor, has its tabs written
as spaces, and ends with a line feed.
-/

namespace ArtifactLens

namespace Display

/-- The character would move the cursor or ring, and is not printed. -/
def isDropped (c : Char) : Bool :=
  c.toNat == 0x07 || c.toNat == 0x08 || c.toNat == 0x0b || c.toNat == 0x0c || c.toNat == 0x0d

/-- A text as a cell of a table. -/
def cell (text : String) : String :=
  String.ofList (Columns.expandTabs (text.toList.filter (!isDropped ·)))

/-- A text as it is printed. -/
def print (text : String) : String := cell text ++ "\n"

/-- A text as the title of a table, on one line. -/
def title (text : String) : String := cell (text.map fun c => if c = '\n' then ' ' else c)

end Display

/-- What the command line shows. -/
inductive Display where
  | table (title : String) (rows : List (List String))
  | text (text : String)
  deriving DecidableEq, Repr

end ArtifactLens
