import ArtifactLens.Artifact.Record
import ArtifactLens.FileSystem
import ArtifactLens.Json

/-!
# Failures

Every cause for which an operation gives up, with its wording. `Failure.category` groups the
causes by the part that failed; the first five categories are failures of the pipeline itself,
which a reload of the database survives.
-/

namespace ArtifactLens

/-- Why an element of a compilation database is no entry. -/
inductive EntryFault where
  | notObject
  | missingPlace
  | missingCommand
  | badCommand
  | badArguments
  deriving DecidableEq, Repr

/-- The wording of an entry fault, after the index of the entry. -/
def EntryFault.message : EntryFault → String
  | .notObject => "is not a JSON object."
  | .missingPlace => "requires string 'file' and 'directory'."
  | .missingCommand => "requires 'command' or 'arguments'."
  | .badCommand => "has a non-string 'command'."
  | .badArguments => "has a non-string-list 'arguments'."

/-- What an option of the command line is used as. -/
inductive OptionUse where
  | path
  | kind
  | setting
  | words
  deriving DecidableEq, Repr

/-- Why an operation gives up. -/
inductive Failure where
  /-- The database cannot be opened. -/
  | databaseAccess (database : Path) (fault : FileFault)
  /-- The database is no text. -/
  | databaseEncoding (database : Path) (fault : Utf8.Fault)
  /-- The database is no JSON. -/
  | databaseText (database : Path) (problem : Json.Problem) (line column position : Nat)
  /-- The database is no array. -/
  | databaseShape (database : Path)
  /-- An element of the database is no entry. -/
  | entry (index : Nat) (fault : EntryFault)
  /-- An entry has no word. -/
  | emptyCommand (source : String)
  /-- No record makes the artifact. -/
  | noRecord (artifact : Path)
  /-- No entry compiles the source. -/
  | noCommand (source : Path) (kind : Kind)
  /-- The output directory cannot be made. -/
  | outputDirectory (directory : Path) (fault : FileFault)
  /-- A build failed. -/
  | build (result : BuildResult)
  /-- A text names no kind. -/
  | unknownKind (text : String)
  /-- An integer has more digits than are accepted. -/
  | longInteger (digits : Nat)
  /-- A text that is handed to the system holds a null character. -/
  | nullCharacter
  /-- A tilde names no account. -/
  | noHome
  /-- The output of a process is no text. -/
  | undecodable (fault : Utf8.Fault)
  /-- An option whose value is needed was given none. -/
  | noValue (use : OptionUse)
  /-- A file that is to be changed cannot be found. -/
  | file (fault : FileFault)
  deriving DecidableEq

/-- The parts that fail. -/
inductive Failure.Category where
  | configuration
  | database
  | lookup
  | artifact
  | build
  | value
  | type
  | attribute
  | environment
  | encoding
  | file
  deriving DecidableEq, Repr

namespace Failure

/-- The part that a failure belongs to. -/
def category : Failure → Category
  | .databaseAccess .. | .databaseEncoding .. => .configuration
  | .databaseText .. | .databaseShape _ | .entry .. | .emptyCommand _ => .database
  | .noRecord _ | .noCommand .. => .lookup
  | .outputDirectory .. => .artifact
  | .build _ => .build
  | .unknownKind _ | .longInteger _ | .nullCharacter => .value
  | .noHome => .environment
  | .undecodable _ => .encoding
  | .noValue use => match use with
    | .path => .type
    | .kind => .value
    | .setting | .words => .attribute
  | .file _ => .file

/-- The failure is one of the pipeline itself. -/
def isPipeline (failure : Failure) : Bool :=
  match failure.category with
  | .configuration | .database | .lookup | .artifact | .build => true
  | .value | .type | .attribute | .environment | .encoding | .file => false

/-- The wording of a failure. -/
def message : Failure → String
  | .databaseAccess database fault =>
    "Cannot read compilation database " ++ database.text ++ ": " ++ fault.message
  | .databaseEncoding database fault =>
    "Cannot read compilation database " ++ database.text ++ ": " ++ fault.message
  | .databaseText database problem line column position =>
    "Malformed compilation database " ++ database.text ++ ": " ++ problem.message ++ ": line " ++
      toString line ++ " column " ++ toString column ++ " (char " ++ toString position ++ ")"
  | .databaseShape database =>
    "Compilation database " ++ database.text ++ " must contain a JSON array."
  | .entry index fault => "Entry " ++ toString index ++ " " ++ fault.message
  | .emptyCommand source => "Entry for " ++ source ++ " has an empty command."
  | .noRecord artifact => "No compile command produces " ++ artifact.text
  | .noCommand source kind => "No compile command for " ++ source.text ++ " (" ++ kind.name ++ ")"
  | .outputDirectory directory fault =>
    "Cannot create output directory " ++ directory.text ++ ": " ++ fault.message
  | .build result => result.message
  | .unknownKind text => Quoted.quote text ++ " is not a valid ArtifactKind"
  | .longInteger digits =>
    "Exceeds the limit (" ++ toString Json.integerLimit ++
      " digits) for integer string conversion: value has " ++ toString digits ++
      " digits; use sys.set_int_max_str_digits() to increase the limit"
  | .nullCharacter => "embedded null byte"
  | .noHome => "Could not determine home directory."
  | .undecodable fault => fault.message
  | .noValue use => match use with
    | .path => "expected str, bytes or os.PathLike object, not list"
    | .kind => "[] is not a valid ArtifactKind"
    | .setting => "'list' object has no attribute 'replace'"
    | .words => "'list' object has no attribute 'split'"
  | .file fault => fault.message

end Failure

end ArtifactLens
