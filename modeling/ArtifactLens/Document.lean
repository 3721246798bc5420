import ArtifactLens.Listing
import ArtifactLens.Session

/-!
# Documents

What is shown of an artifact: its lines, or the error that stands in their place.
-/

namespace ArtifactLens

/-- The view of one artifact. -/
structure Document where
  artifact : Path
  /-- The lines; none when there is an error. -/
  lines : List Listing.Line := []
  /-- The error that stands in place of the lines. -/
  error : Option String := none
  /-- For each source line the indexes of its lines. -/
  mapping : Table Nat (List Nat) := .empty
  deriving DecidableEq

namespace Document

variable {σ : Type}

/-- The document has lines to show. -/
def isOk (document : Document) : Bool := document.error.isNone

/-- The document that shows an error. -/
def failed (artifact : Path) (error : String) : Document where
  artifact
  error := some error

/-- The text of a document. An error without text is shown as a failed compilation. -/
def render (document : Document) : String :=
  match document.error with
  | some error => if error = "" then "Failed to compile." else error
  | none => String.intercalate "\n" (document.lines.map Listing.Line.render)

/-- The document of an artifact that has been built. -/
def ofFile (host : Host) (files : FileSystem) (binary : Bool) (artifact : Path) :
    Except Failure Document :=
  match files.read host artifact with
  | .error fault => .ok (failed artifact ("Cannot read " ++ artifact.text ++ ": " ++ fault.message))
  | .ok content =>
    match Listing.parse binary (Lines.normalize (Utf8.decodeLossy content)) with
    | .error digits => .error (.longInteger digits)
    | .ok lines => .ok { artifact, lines, mapping := Listing.mapping lines }

/-- Builds an artifact if needed and reads it. A failed build becomes the error of the document. -/
def build (tools : Toolchain σ) (binary : Bool) (artifact : Path) (session : Session)
    (world : World σ) : Session.Step σ Document :=
  match session.compile tools artifact world with
  | (.error failure, session, world) => (.error failure, session, world)
  | (.ok result, session, world) =>
    if result.success then (ofFile world.host world.files binary artifact, session, world)
    else (.ok (failed artifact result.message), session, world)

end Document

end ArtifactLens
