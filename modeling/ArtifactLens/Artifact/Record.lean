import ArtifactLens.Artifact.Kind

/-!
# Build records and results

A record says how one artifact is built and which extra arguments its last build had. A result is
the outcome of one build.
-/

namespace ArtifactLens

/-- How an artifact is built. -/
structure BuildRecord where
  artifact : Path
  source : Path
  kind : Kind
  command : String
  /-- The directory in which the command runs. -/
  directory : Path
  /-- The extra arguments of the last successful build; it starts out empty. -/
  lastExtraArgs : List String := []
  deriving DecidableEq, Repr

/-- What a process left behind. -/
structure ProcessOutcome where
  stdout : String
  /-- What the process wrote, or why it did not start or finish. -/
  stderr : String
  /-- The exit status; a process that did not finish has none. -/
  exitCode : Option Int
  deriving DecidableEq, Repr

/-- The outcome of a build. -/
structure BuildResult where
  success : Bool
  /-- The whole command that ran; empty when none ran. -/
  command : String := ""
  stdout : String := ""
  stderr : String := ""
  exitCode : Option Int := some 0
  deriving DecidableEq, Repr

namespace BuildResult

/-- The result for an artifact that needs no build. -/
def upToDate : BuildResult where
  success := true

/-- The text that stands for a failed build: its output, then its exit status. -/
def message (result : BuildResult) : String :=
  if result.success then ""
  else
    let output := String.intercalate "\n" ([result.stdout, result.stderr].filter (· ≠ ""))
    let code := match result.exitCode with
      | none => "null"
      | some code => toString code
    output ++ "  failed with error code " ++ code

end BuildResult

end ArtifactLens
