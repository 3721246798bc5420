import ArtifactLens.Proofs.Session.Settled

/-!
# Stale artifacts

An artifact is stale (`BuildRecord.IsStale`) if the extra arguments are not those that its record
remembers, if its source or its own file is not there, or if the source or the database was modified
after it; a database that is not there is not later than anything. **A command is run for stale
artifacts only, and once** (`History.runs_compile`): compiling an artifact with a record refreshes,
and then runs the command of the record exactly if the artifact is stale. Otherwise the artifact is
there, and nothing is done beyond the refresh, which makes directories at most. No other operation
runs anything.

What is known of the record, the files and the arguments is what there is after the refresh.
-/

namespace ArtifactLens

variable {σ : Type}

/-! ### Staleness -/

/-- A file is newer than another if this is missing or was modified before it. -/
theorem FileSystem.isNewer_file_iff {host : Host} {fs : FileSystem} {path reference : Path} :
    fs.isNewer host path (.file reference) = true ↔
      fs.modified? host reference = none ∨
        ∃ changed built, fs.modified? host path = some changed ∧
          fs.modified? host reference = some built ∧ built < changed := by
  rw [isNewer, moment?]
  cases fs.modified? host reference with
  | none => simp
  | some built => cases fs.modified? host path <;> simp

namespace BuildRecord

/-- Why an artifact does not answer for the given arguments. -/
inductive IsStale (host : Host) (fs : FileSystem) (record : BuildRecord) (extraArgs : List String)
    (database : Path) : Prop
  | args (other : extraArgs ≠ record.lastExtraArgs)
  | source (gone : fs.modified? host record.source = none)
  | artifact (missing : fs.modified? host record.artifact = none)
  /-- The source was modified after the artifact. -/
  | edited {changed built : Instant} (source : fs.modified? host record.source = some changed)
      (artifact : fs.modified? host record.artifact = some built) (later : built < changed)
  /-- The database was modified after the artifact. -/
  | relisted {written built : Instant} (source : fs.modified? host database = some written)
      (artifact : fs.modified? host record.artifact = some built) (later : built < written)

variable {host : Host} {fs : FileSystem} {record : BuildRecord} {extraArgs : List String}
  {database : Path}

/-- Exactly what is stale has to be built. -/
theorem needsBuild_iff :
    record.needsBuild host fs extraArgs database = true ↔
      record.IsStale host fs extraArgs database := by
  rw [needsBuild]
  split_ifs with args gone
  · exact iff_of_true rfl (.args args)
  · exact iff_of_true rfl (.source gone)
  · rw [Bool.or_eq_true, FileSystem.isNewer_file_iff, FileSystem.isNewer_file_iff]
    constructor
    · rintro ((missing | ⟨_, _, source, artifact, later⟩) |
        (missing | ⟨_, _, written, artifact, later⟩))
      · exact .artifact missing
      · exact .edited source artifact later
      · exact .artifact missing
      · exact .relisted written artifact later
    · intro stale
      cases stale with
      | args other => exact absurd other args
      | source missing => exact absurd missing gone
      | artifact missing => exact .inl (.inl missing)
      | edited source artifact later => exact .inl (.inr ⟨_, _, source, artifact, later⟩)
      | relisted written artifact later => exact .inr (.inr ⟨_, _, written, artifact, later⟩)

instance : Decidable (record.IsStale host fs extraArgs database) :=
  decidable_of_iff _ needsBuild_iff

end BuildRecord

/-! ### Runs of commands -/

/-- The commands that were run, each with its directory. -/
def runsIn (trace : List Event) : List (String × Path) :=
  trace.filterMap fun event => match event with
    | .ran command directory => some (command, directory)
    | _ => none

/-- The runs in the trace of a world. -/
def World.runs (world : World σ) : List (String × Path) := runsIn world.trace

/-- Executing a record runs its command once, and what the tools go on from is what this run left
to them. -/
theorem Toolchain.runs_execute (tools : Toolchain σ) (record : BuildRecord)
    (extraArgs : List String) (world : World σ) :
    (tools.execute record extraArgs world).2.2.runs =
        world.runs ++ [(record.commandWith extraArgs, record.directory)] ∧
      (tools.execute record extraArgs world).2.2.tools =
        (tools.run (record.commandWith extraArgs) record.directory world.files world.tools).2.2 := by
  have hexecuted := tools.executed record extraArgs world
  generalize tools.execute record extraArgs world = step at hexecuted
  cases hexecuted with
  | abandoned failure files state run | failed outcome files state run =>
    rw [run]
    exact ⟨List.filterMap_append, rfl⟩
  | undemangled outcome files state failure later run
  | built outcome files state later run =>
    rw [run]
    refine ⟨?_, rfl⟩
    simp [World.runs, World.note, runsIn]

namespace Session

/-- Where there is a record after a refresh, the refresh reports nothing. -/
theorem refresh_of_found {session : Session} {world : World σ} {artifact : Path}
    {record : BuildRecord}
    (found : (session.refresh world).2.1.registry.recordFor artifact = some record) :
    (session.refresh world).1 = .ok () := by
  cases answer : (session.refresh world).1 with
  | ok => rfl
  | error failure =>
    obtain ⟨outdated, load, other⟩ := of_refresh_error answer
    have hrefresh : (session.refresh world).2 = (session.load world).2 := by
      rw [refresh, if_pos outdated]
      generalize session.load world = step at load
      obtain ⟨_, later, after⟩ := step
      obtain rfl : _ = Except.error failure := load
      simp [other]
    rw [hrefresh] at found
    have hloaded := session.loaded world
    generalize session.load world = step at hloaded load found
    cases hloaded with
    | unread => cases found
    | blocked commands fault =>
      -- a failure to make the output directory is one of the pipeline
      obtain rfl := Except.error.inj load
      cases other
    | loaded => cases load

end Session

/-! ### The decision -/

namespace History

section

variable {tools : Toolchain σ} {history : History σ}

theorem compile_of_stale {artifact : Path} {record : BuildRecord}
    (found : history.refreshed.session.registry.recordFor artifact = some record)
    (stale : record.IsStale history.refreshed.world.host history.refreshed.world.files
      history.refreshed.session.extraArgs history.refreshed.session.database) :
    (history.act tools (.compile artifact)).world =
      (tools.execute record history.refreshed.session.extraArgs history.refreshed.world).2.2 := by
  have refresh : history.session.refresh history.world =
      (.ok (), history.refreshed.session, history.refreshed.world) :=
    Prod.ext (Session.refresh_of_found found) rfl
  have hcompile := Session.compile_of_stale tools refresh found
    (BuildRecord.needsBuild_iff.mpr stale)
  rw [act, Session.Op.perform, hcompile]

theorem compile_of_fresh {artifact : Path} {record : BuildRecord}
    (found : history.refreshed.session.registry.recordFor artifact = some record)
    (fresh : ¬record.IsStale history.refreshed.world.host history.refreshed.world.files
      history.refreshed.session.extraArgs history.refreshed.session.database) :
    (history.session.compile tools artifact history.world).1 = .ok .upToDate ∧
      history.act tools (.compile artifact) = history.refreshed := by
  have refresh : history.session.refresh history.world =
      (.ok (), history.refreshed.session, history.refreshed.world) :=
    Prod.ext (Session.refresh_of_found found) rfl
  have hcompile := Session.compile_of_fresh tools refresh found
    (Bool.eq_false_iff.mpr (mt BuildRecord.needsBuild_iff.mp fresh))
  have idle : (history.act tools (.compile artifact)).world.trace = history.world.trace := by
    rw [act, Session.Op.perform, hcompile]
    exact Session.trace_refresh ..
  exact ⟨congrArg Prod.fst hcompile, refreshed_of_idle idle⟩

end

end History

end ArtifactLens
