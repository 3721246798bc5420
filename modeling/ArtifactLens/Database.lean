import ArtifactLens.Failure
import ArtifactLens.Text.Lines

/-!
# Compilation databases

A compilation database is a JSON array of entries. It is valid as a whole or not at all: the first
element that is no entry, and then the first entry without words, decides what is reported.
-/

namespace ArtifactLens

namespace Database

/-- The texts of a list of values, if all are strings. -/
def strings? : List Json → Option (List String)
  | [] => some []
  | .string text :: rest => (strings? rest).map (text :: ·)
  | _ :: _ => none

/-- The value of a key; a key that is absent counts as null. -/
def fieldOf (fields : List (String × Json)) (key : String) : Json :=
  (Json.field? fields key).getD .null

/-- The value is null. -/
def isNull : Json → Bool
  | .null => true
  | _ => false

/-- The entry that an element of a database holds. -/
def entryOf : Json → Except EntryFault Entry
  | .object fields =>
    match fieldOf fields "file", fieldOf fields "directory" with
    | .string file, .string directory =>
      let command := fieldOf fields "command"
      let arguments := fieldOf fields "arguments"
      if isNull command && isNull arguments then .error .missingCommand
      else
        match command with
        | .string _ | .null =>
          let commandText := match command with
            | .string text => some text
            | _ => none
          match arguments with
          | .null => .ok ⟨file, directory, commandText, none⟩
          | .array items =>
            match strings? items with
            | some texts => .ok ⟨file, directory, commandText, some texts⟩
            | none => .error .badArguments
          | _ => .error .badArguments
        | _ => .error .badCommand
    | _, _ => .error .missingPlace
  | _ => .error .notObject

/-- The entries of the elements of a database, the first of which has the given index. -/
@[grind =]
def entriesFrom (index : Nat) : List Json → Except Failure (List Entry)
  | [] => .ok []
  | item :: rest =>
    match entryOf item with
    | .error fault => .error (.entry index fault)
    | .ok entry =>
      match entriesFrom (index + 1) rest with
      | .error failure => .error failure
      | .ok entries => .ok (entry :: entries)

/-- The entries of a database that was read as JSON. -/
def entries (database : Path) : Json → Except Failure (List Entry)
  | .array items => entriesFrom 0 items
  | _ => .error (.databaseShape database)

/-- The JSON value that the octets of a database spell. -/
def json (database : Path) (content : Octets) : Except Failure Json :=
  match Utf8.decode content with
  | .error fault => .error (.databaseEncoding database fault)
  | .ok text =>
    match Json.parse (Lines.normalize text) with
    | .ok value => .ok value
    | .error (.malformed problem line column position) =>
      .error (.databaseText database problem line column position)
    | .error (.longInteger digits) => .error (.longInteger digits)

/-- The entries of the database at a path. -/
def read (host : Host) (fs : FileSystem) (database : Path) : Except Failure (List Entry) :=
  match fs.read host database with
  | .error fault => .error (.databaseAccess database fault)
  | .ok content =>
    match json database content with
    | .error failure => .error failure
    | .ok value => entries database value

/-- The compile commands of entries. -/
@[grind =]
def commandsOf (host : Host) : List Entry → Except Failure (List CompileCommand)
  | [] => .ok []
  | entry :: rest =>
    match entry.command? host with
    | none => .error (.emptyCommand entry.file)
    | some command =>
      match commandsOf host rest with
      | .error failure => .error failure
      | .ok commands => .ok (command :: commands)

/-- The compile commands of the database at a path. -/
def commands (host : Host) (fs : FileSystem) (database : Path) :
    Except Failure (List CompileCommand) :=
  match read host fs database with
  | .error failure => .error failure
  | .ok entries => commandsOf host entries

end Database

end ArtifactLens
