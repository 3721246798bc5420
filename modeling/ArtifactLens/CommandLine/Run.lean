import ArtifactLens.CommandLine.Display
import ArtifactLens.CommandLine.Options
import ArtifactLens.Provider

/-!
# The commands

`list` shows every artifact of a database, `show` builds and prints one, and `watch` prints one and
prints it again whenever it changes, until it is interrupted. The exit status is 0 on success, 1 if
a build fails, and 2 if the command line, the database or the source is no good. Failures of other
kinds are left to the caller.

While `watch` waits, the world moves on by happenings: changes from outside, and file events. When
there are no more, the wait is interrupted.
-/

namespace ArtifactLens

/-- What happens while a command waits. -/
inductive Happening (σ : Type) where
  /-- The world changes, or fails to. -/
  | outside (change : World σ → Except Failure (World σ))
  | file (event : FileEvent)

namespace CommandLine

variable {σ : Type}

/-- What a command leaves behind. -/
structure Report where
  exit : Nat
  shown : Display
  /-- What was written to the error output. -/
  complaint : String
  deriving DecidableEq, Repr

/-- The end of a command that shows nothing. -/
def Report.refusal (exit : Nat) (complaint : String) : Report := ⟨exit, .text "", complaint⟩

/-- The text of an option's value. -/
def textOf (use : OptionUse) : Options.Value → Except Failure String
  | .text text => .ok text
  | .nothing => .error (.noValue use)

/-- The settings that options make. -/
def settings (host : Host) (options : Options) : Except Failure Settings.Places :=
  match textOf .path options.root with
  | .error failure => .error failure
  | .ok root =>
    let root := Path.ofText root
    match Settings.projectRoot host { root } with
    | .error failure => .error failure
    | .ok _ =>
      match textOf .setting options.databaseDir with
      | .error failure => .error failure
      | .ok databaseDir =>
        match textOf .setting options.outDir with
        | .error failure =>
          match Settings.places host { root, databaseDir } with
          | .error other => .error other
          | .ok _ => .error failure
        | .ok outputDir => Settings.places host { root, outputDir, databaseDir }

/-- The source that options name: relative to the root as it is written. -/
def sourceOf (host : Host) (options : Options) : Except Failure Path :=
  match textOf .path options.source, textOf .path options.root with
  | .ok source, .ok root => .ok (host.absolute ((Path.ofText root).join (Path.ofText source)))
  | .error failure, _ => .error failure
  | _, .error failure => .error failure

/-- The kind that options name. -/
def kindOf (options : Options) : Except Failure Kind :=
  match options.kind with
  | .nothing => .error (.noValue .kind)
  | .text name =>
    match Kind.ofName? name with
    | some kind => .ok kind
    | none => .error (.unknownKind name)

/-- Shows all artifacts of a session. -/
def runList (session : Session) (world : World σ) : Except Failure Report × World σ :=
  match session.records world with
  | (.error failure, _, world) => (.error failure, world)
  | (.ok records, session, world) =>
    let rows := records.map fun record =>
      [record.source.text, record.kind.name, record.artifact.text].map Display.cell
    (.ok ⟨0, .table (Display.title session.database.text) rows, ""⟩, world)

/-- Builds an artifact and prints it. -/
def showArtifact (tools : Toolchain σ) (artifact : Path) (session : Session) (world : World σ) :
    Except Failure Report × World σ :=
  match session.compile tools artifact world with
  | (.error failure, _, world) => (.error failure, world)
  | (.ok result, session, world) =>
    if !result.success then
      (.ok (.refusal 1 (result.command ++ "\n" ++ result.message ++ "\n")), world)
    else
      match Document.build tools false artifact session world with
      | (.error failure, _, world) => (.error failure, world)
      | (.ok document, _, world) =>
        if document.isOk then (.ok ⟨0, .text (Display.print document.render), ""⟩, world)
        else (.ok (.refusal 1 (document.render ++ "\n")), world)

/-- What `show` and `watch` ask for. -/
structure Request where
  source : Path
  kind : Kind

/-- What `show` and `watch` ask for, and the session with its extra arguments; the extra arguments
are looked at first. -/
def request (host : Host) (options : Options) (session : Session) :
    Except Failure (Request × Session) :=
  match textOf .words options.extraArgs with
  | .error failure => .error failure
  | .ok extra =>
    let session := { session with extraArgs := Blank.words extra }
    let source := sourceOf host options
    let kind := kindOf options
    match options.command, source, kind with
    | .show, _, .error failure => .error failure
    | _, .error failure, _ => .error failure
    | _, _, .error failure => .error failure
    | _, .ok source, .ok kind => .ok (⟨source, kind⟩, session)

/-- Builds the artifact that options name and prints it. -/
def runShow (tools : Toolchain σ) (request : Request) (session : Session) (world : World σ) :
    Except Failure Report × World σ :=
  match session.artifactFor request.source request.kind world with
  | (.error failure, _, world) => (.error failure, world)
  | (.ok none, _, world) =>
    (.ok (.refusal 2 ("No compile command for " ++ request.source.text ++ "\n")), world)
  | (.ok (some artifact), session, world) => showArtifact tools artifact session world

/-- The display was told of a change since the trace had the given length. -/
def wasNotified (before : Nat) (world : World σ) : Bool :=
  (world.trace.drop before).any fun event =>
    match event with
    | .notified .display _ => true
    | _ => false

/-- A `watch` that goes on. -/
structure Watching (σ : Type) where
  /-- What is printed again; a source that lost its artifact is not. -/
  artifact : Option Path
  provider : Provider
  session : Session
  world : World σ

namespace Watching

/-- Takes in what happens, and prints the artifact again if it changed. -/
def step (tools : Toolchain σ) (watching : Watching σ) (happening : Happening σ) :
    Except Failure String × Watching σ :=
  let { artifact, provider, session, world } := watching
  let before := world.trace.length
  let (done, provider, session, world) : Provider.Step σ Unit :=
    match happening with
    | .file event => provider.receive tools event session world
    | .outside change =>
      match change world with
      | .ok world => (.ok (), provider, session, world)
      | .error failure => (.error failure, provider, session, world)
  match done, wasNotified before world, artifact with
  | .error failure, _, _ => (.error failure, { artifact, provider, session, world })
  | .ok (), true, some path =>
    let (document, provider, session, world) := provider.document tools path session world
    (document.map fun document => Display.print document.render,
      { artifact, provider, session, world })
  | .ok (), _, _ => (.ok "", { artifact, provider, session, world })

/-- Takes in what happens until a failure, and gathers what is printed. -/
def run (tools : Toolchain σ) : Watching σ → List (Happening σ) → Except Failure String × Watching σ
  | watching, [] => (.ok "", watching)
  | watching, happening :: rest =>
    match watching.step tools happening with
    | (.error failure, watching) => (.error failure, watching)
    | (.ok shown, watching) =>
      let (later, watching) := run tools watching rest
      (later.map (shown ++ ·), watching)

/-- The world after the end of a `watch`. -/
def close (watching : Watching σ) : World σ := (watching.provider.dispose watching.world).2

end Watching

/-- How far a command comes before it has to wait. -/
inductive Progress (σ : Type) where
  | ended (outcome : Except Failure Report) (world : World σ)
  /-- A text has been printed, and the command waits for what happens. -/
  | waiting (shown : String) (watching : Watching σ)

/-- Takes in all that happens while a command waits, and ends it. -/
def Progress.finish (tools : Toolchain σ) (happenings : List (Happening σ)) :
    Progress σ → Except Failure Report × World σ
  | .ended outcome world => (outcome, world)
  | .waiting first watching =>
    let (shown, watching) := watching.run tools happenings
    (shown.map fun shown => ⟨0, .text (first ++ shown), ""⟩, watching.close)

/-- Prints the artifact that is asked for, and goes on to wait for its changes. -/
def beginWatch (tools : Toolchain σ) (request : Request) (session : Session) (world : World σ) :
    Progress σ :=
  let provider := (Provider.start false).subscribe .display
  match provider.request tools request.source request.kind session world with
  | (.error failure, provider, _, world) =>
    let (_, world) := provider.dispose world
    if failure.category = .lookup then
      .ended (.ok (.refusal 2 (failure.message ++ "\n"))) world
    else .ended (.error failure) world
  | (.ok text, provider, session, world) =>
    match session.artifactFor request.source request.kind world with
    | (.error failure, _, world) => .ended (.error failure) (provider.dispose world).2
    | (.ok artifact, session, world) =>
      .waiting (Display.print text) { artifact, provider, session, world }

/-- Prints the artifact that is asked for, and again after every change. -/
def runWatch (tools : Toolchain σ) (happenings : List (Happening σ)) (request : Request)
    (session : Session) (world : World σ) : Except Failure Report × World σ :=
  (beginWatch tools request session world).finish tools happenings

/-- Loads the session that options name. A database that cannot be loaded is told of in a
report. -/
def openSession (options : Options) (world : World σ) :
    Except (Except Failure Report) Session × World σ :=
  match settings world.host options with
  | .error failure => (.error (.error failure), world)
  | .ok places =>
    match (Session.start places).load world with
    | (.ok _, session, world) => (.ok session, world)
    | (.error failure, _, world) =>
      match failure.category with
      | .configuration | .database | .artifact =>
        (.error (.ok (.refusal 2 (failure.message ++ "\n"))), world)
      | _ => (.error (.error failure), world)

/-- Runs a command whose options have been read, until it has to wait. -/
def begin (tools : Toolchain σ) (options : Options) (world : World σ) : Progress σ :=
  match openSession options world with
  | (.error outcome, world) => .ended outcome world
  | (.ok session, world) =>
    match options.command with
    | .list =>
      let (outcome, world) := runList session world
      .ended outcome world
    | .show =>
      match request world.host options session with
      | .error failure => .ended (.error failure) world
      | .ok (request, session) =>
        let (outcome, world) := runShow tools request session world
        .ended outcome world
    | .watch =>
      match request world.host options session with
      | .error failure => .ended (.error failure) world
      | .ok (request, session) => beginWatch tools request session world

/-- Runs the command that arguments spell. The time limit of builds is none if they spell no
command. -/
def run (tools : Toolchain σ) (happenings : List (Happening σ)) (argv : List String)
    (world : World σ) : Except Failure Report × Option (Option Binary64) × World σ :=
  match Options.parse? argv with
  | none => (.ok (.refusal 2 ""), none, world)
  | some options =>
    let (report, world) := (begin tools options world).finish tools happenings
    (report, some options.timeout, world)

end CommandLine

end ArtifactLens
