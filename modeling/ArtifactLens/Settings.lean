import ArtifactLens.Failure
import ArtifactLens.Number.Binary64

/-!
# Settings

Configured paths may hold a placeholder for the project root, may start at a home directory, and
are otherwise relative to the project root. `resolve` gives such a text its absolute path.
-/

namespace ArtifactLens

namespace Placeholder

/-- The text that stands for the project root. -/
def text : String := "$\x7bworkspaceFolder\x7d"

/-- Writes a root in place of every placeholder, from left to right. -/
@[grind =]
def fill (root : List Char) : List Char → List Char
  | [] => []
  | c :: rest =>
    if text.toList.isPrefixOf (c :: rest) then
      root ++ fill root (rest.drop (text.length - 1))
    else c :: fill root rest
  termination_by source => source.length
  decreasing_by all_goals (simp; try omega)

end Placeholder

namespace Host

/-- Puts a home directory in place of a tilde at the start of a relative path. -/
def expandHome (host : Host) (path : Path) : Except Failure Path :=
  match path.anchor, path.names with
  | .here, name :: rest =>
    if name.text.toList.head? = some '~' then
      match host.home? name.text with
      | none => .error .noHome
      | some home =>
        if home.toList.head? = some '~' then .error .noHome
        else
          let base := Path.ofText home
          .ok { base with names := base.names ++ rest }
    else .ok path
  | _, _ => .ok path

/-- The absolute path of a configured text below a project root. -/
def resolve (host : Host) (root : Path) (value : String) : Except Failure Path :=
  let filled := Placeholder.fill root.text.toList value.toList
  match host.expandHome (Path.ofText (String.ofList filled)) with
  | .error failure => .error failure
  | .ok path => .ok (host.absolute (root.join path))

end Host

namespace Settings

/-- Where artifacts go unless configured. -/
def defaultOutputDir : String := Placeholder.text ++ "/.cxv"

/-- The directory of the compilation database unless configured. -/
def defaultDatabaseDir : String := Placeholder.text

/-- The time limit of builds in seconds unless configured. -/
def defaultTimeout : Binary64 := Binary64.ofDecimal false 120 0

end Settings

/-- What the user configures. -/
structure Settings where
  /-- The project root; artifacts are named relative to it. -/
  root : Path
  /-- Where artifacts go. -/
  outputDir : String := Settings.defaultOutputDir
  /-- The directory of the compilation database. -/
  databaseDir : String := Settings.defaultDatabaseDir
  /-- Seconds after which a build is given up; none means never. -/
  buildTimeout : Option Binary64 := some Settings.defaultTimeout

namespace Settings

/-- The name of a compilation database. -/
def databaseName : String := "compile_commands.json"

/-- The project root as an absolute path. -/
def projectRoot (host : Host) (settings : Settings) : Except Failure Path :=
  match host.expandHome settings.root with
  | .error failure => .error failure
  | .ok path => .ok (host.absolute path)

/-- The places that settings name. -/
structure Places where
  root : Path
  outputDir : Path
  database : Path

/-- The places that settings name, as absolute paths. -/
def places (host : Host) (settings : Settings) : Except Failure Places :=
  match settings.projectRoot host with
  | .error failure => .error failure
  | .ok root =>
    match host.resolve root settings.databaseDir, host.resolve root settings.outputDir with
    | .ok databaseDir, .ok outputDir =>
      .ok ⟨root, outputDir, databaseDir.join (Path.ofText databaseName)⟩
    | .error failure, _ => .error failure
    | _, .error failure => .error failure

/-- The text of a time limit. -/
def timeoutText : Option Binary64 → String
  | none => "None"
  | some limit => limit.render

end Settings

end ArtifactLens
