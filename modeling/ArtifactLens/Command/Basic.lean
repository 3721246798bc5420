import ArtifactLens.Command.Words
import ArtifactLens.Host

/-!
# Compile commands

An entry of a compilation database is normalised into a compile command: the source file as an
absolute path, the compiler, and the arguments without those that control the output. Each
artifact is made by a variation of the compile command.
-/

namespace ArtifactLens

/-- One entry of a compilation database. -/
structure Entry where
  /-- The source file, possibly relative to the directory. -/
  file : String
  /-- The directory of the compilation. -/
  directory : String
  /-- The command as one text. -/
  command : Option String
  /-- The command as a list of arguments. -/
  arguments : Option (List String)
  deriving DecidableEq, Repr

/-- A normalised entry. -/
structure CompileCommand where
  source : Path
  directory : Path
  compiler : String
  /-- Arguments without output control. -/
  args : List String
  deriving DecidableEq, Repr

/-- Drops output control from arguments: `-c`, `-g`, and `-o` together with what follows it. -/
@[grind =]
def dropOutputControl : List String → List String
  | [] => []
  | [arg] => if arg = "-o" ∨ arg = "-c" ∨ arg = "-g" then [] else [arg]
  | arg :: next :: rest =>
    if arg = "-o" then dropOutputControl rest
    else if arg = "-c" ∨ arg = "-g" then dropOutputControl (next :: rest)
    else arg :: dropOutputControl (next :: rest)

namespace Entry

/-- The words of an entry: those of its command unless that is empty, and otherwise its arguments
that are not empty. -/
def words (entry : Entry) : List String :=
  match entry.command with
  | some command =>
    if command = "" then (entry.arguments.getD []).filter (· ≠ "") else Words.split command
  | none => (entry.arguments.getD []).filter (· ≠ "")

/-- The source file of an entry. -/
def source (host : Host) (entry : Entry) : Path :=
  host.absolute ((Path.ofText entry.directory).join (Path.ofText entry.file))

/-- The compile command of an entry, if it has a first word. -/
def command? (host : Host) (entry : Entry) : Option CompileCommand :=
  match entry.words with
  | [] => none
  | compiler :: args => some {
      source := entry.source host
      directory := Path.ofText entry.directory
      compiler
      args := dropOutputControl args }

end Entry

end ArtifactLens
