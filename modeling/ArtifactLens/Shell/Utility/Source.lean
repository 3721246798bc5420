import ArtifactLens.Shell.Utility.Filtering

/-!
# Inputs read line by line

A source is an input of which as much was read as was wanted so far. Programs that take lines from
several inputs by turns hold a source for each of them.
-/

namespace ArtifactLens.Shell

namespace Utility

/-- An input as far as it was read. -/
structure Source where
  descriptor : Nat
  /-- Whole lines, without their ends. -/
  lines : List String := []
  /-- The start of a line that is not whole. -/
  rest : String := ""
  /-- Nothing is left to be read. -/
  isOver : Bool := false
  /-- Why reading came to an end early. -/
  fault : Option SystemFault := none

namespace Source

/-- Adds what was read to a source. -/
def add (separator : Char) (source : Source) (text : String) : Source :=
  if text = "" then { source with isOver := true }
  else
    let pieces := (source.rest ++ text).splitOn (String.singleton separator)
    { source with lines := source.lines ++ pieces.dropLast, rest := pieces.getLastD "" }

/-- A whole line is there. -/
def hasLine (source : Source) : Bool := !source.lines.isEmpty

/-- Some of a line is there. -/
def hasText (source : Source) : Bool := !source.lines.isEmpty || source.rest != ""

/-- Takes the next line of a source, which may lack its end. -/
def take? (source : Source) : Option (Line × Source) :=
  match source.lines with
  | line :: lines => some (⟨line, true⟩, { source with lines })
  | [] =>
    if source.rest = "" then none else some (⟨source.rest, false⟩, { source with rest := "" })

/-- Reads on until a whole line is there, or nothing is left to be read. -/
def fill (separator : Char) (next : Source → Job) : (measure : Nat) → Source → Job
  | 0, source => next source
  | measure + 1, source =>
    if source.isOver ∨ source.hasLine then next source
    else
      .read source.descriptor pieceSize fun text =>
        match text with
        | .ok text => fill separator next measure (source.add separator text)
        | .error fault => next { source with isOver := true, fault := some fault }

/-- Goes on with the next line of a source, if there is one. -/
def nextLine (separator : Char) (source : Source) (next : Option Line → Source → Job) : Job :=
  fill separator (fun source =>
    match source.take? with
    | some (line, source) => next (some line) source
    | none => next none source) mostReads source

end Source

end Utility

end ArtifactLens.Shell
