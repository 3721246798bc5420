import ArtifactLens.Database
import ArtifactLens.Registry
import ArtifactLens.Settings
import ArtifactLens.Staleness
import ArtifactLens.World

/-!
# Sessions

A session holds the registry of one compilation database and the extra arguments of the user. Each
query first looks whether the database changed since it was loaded and loads it again if so. A
load starts by clearing the registry and stamping the clock, so a load that fails leaves nothing
behind; a failure of the pipeline during such a reload leaves the registry empty and is not
reported.

Operations take the session and the world and return both along with their answer, whether they
succeed or fail.
-/

namespace ArtifactLens

/-- The state of a session. -/
structure Session where
  /-- The file that holds the database. -/
  database : Path
  registry : Registry
  /-- The clock at the last load. -/
  loadedAt : Option Instant
  /-- The extra arguments of further builds. -/
  extraArgs : List String

namespace Session

variable {σ : Type}

/-- An answer or a failure, with the session and the world afterwards. -/
abbrev Step (σ α : Type) := Except Failure α × Session × World σ

/-- A session that has loaded nothing. -/
def start (places : Settings.Places) : Session :=
  ⟨places.database, .empty places.root places.outputDir, none, []⟩

/-- The directory that holds the artifacts. -/
def outputDir (session : Session) : Path := session.registry.outputDir

/-- Loads the database into the cleared registry and makes the output directory. The answer is the
number of entries. -/
def load (session : Session) (world : World σ) : Step σ Nat :=
  let session := { session with
    registry := session.registry.clear
    loadedAt := some world.clock }
  match Database.commands world.host world.files session.database with
  | .error failure => (.error failure, session, world)
  | .ok commands =>
    match world.files.makeDirectory world.host session.outputDir with
    | .error fault =>
      (.error (.outputDirectory session.outputDir fault),
        { session with registry := session.registry.registerAll world.host commands }, world)
    | .ok files =>
      (.ok commands.length,
        { session with registry := session.registry.registerAll world.host commands },
        { world with files })

/-- The database may have changed since the last load, or there was none. -/
def isOutdated (session : Session) (world : World σ) : Bool :=
  match session.loadedAt with
  | none => true
  | some stamp => world.files.isNewer world.host session.database (.moment stamp)

/-- Loads the database again if it may have changed. -/
def refresh (session : Session) (world : World σ) : Step σ Unit :=
  if session.isOutdated world then
    match session.load world with
    | (.ok _, session, world) => (.ok (), session, world)
    | (.error failure, session, world) =>
      if failure.isPipeline then
        (.ok (), { session with registry := session.registry.clear }, world)
      else (.error failure, session, world)
  else (.ok (), session, world)

/-- Answers from the registry, after a refresh. -/
def query {α : Type} (answer : Registry → α) (session : Session) (world : World σ) : Step σ α :=
  match session.refresh world with
  | (.ok (), session, world) => (.ok (answer session.registry), session, world)
  | (.error failure, session, world) => (.error failure, session, world)

/-- The artifact of a source. -/
def artifactFor (source : Path) (kind : Kind) : Session → World σ → Step σ (Option Path) :=
  query (·.artifactFor source kind)

/-- The source of an artifact. -/
def sourceFor (artifact : Path) : Session → World σ → Step σ (Option Path) :=
  query (·.sourceFor artifact)

/-- The record of an artifact. -/
def recordFor (artifact : Path) : Session → World σ → Step σ (Option BuildRecord) :=
  query (·.recordFor artifact)

/-- All records. -/
def records : Session → World σ → Step σ (List BuildRecord) :=
  query (·.records.values)

/-- Builds an artifact if it is stale. -/
def compile (tools : Toolchain σ) (artifact : Path) (session : Session) (world : World σ) :
    Step σ BuildResult :=
  match session.recordFor artifact world with
  | (.error failure, session, world) => (.error failure, session, world)
  | (.ok none, session, world) => (.error (.noRecord artifact), session, world)
  | (.ok (some record), session, world) =>
    if record.needsBuild world.host world.files session.extraArgs session.database then
      let (result, record, world) := tools.execute record session.extraArgs world
      (result, { session with registry := session.registry.update record }, world)
    else (.ok .upToDate, session, world)

end Session

end ArtifactLens
