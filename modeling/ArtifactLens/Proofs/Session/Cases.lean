import ArtifactLens.Session
import Mathlib.Tactic.SplitIfs

/-!
# What the operations of a session do

One case analysis for each operation, with all that it tests on the way:

* **Loading** (`Session.loaded`): the registry is cleared and the clock stamped; then the database
  is read, its commands are registered, and the output directory is made, each if what comes
  before it succeeds.
* **Refreshing** (`Session.refreshed`): nothing happens if the database is not outdated. Otherwise
  it is loaded; a failure of the pipeline leaves the registry empty and is not reported.
* **Executing** (`Toolchain.executed`): the command runs, and the artifact is demangled after a run
  that succeeds.
* **Compiling** (`Session.compiled`): after a refresh the record is looked up, and executed if the
  artifact is stale.
-/

namespace ArtifactLens

variable {σ : Type}

/-- The command of a record with extra arguments. -/
def BuildRecord.commandWith (record : BuildRecord) (extraArgs : List String) : String :=
  String.intercalate " " (record.command :: extraArgs)

namespace Session

/-- The session with its registry cleared and the clock of a world stamped on it. -/
def stamped (session : Session) (world : World σ) : Session :=
  { session with registry := session.registry.clear, loadedAt := some world.clock }

/-- The session with commands registered in order in its registry. -/
def withCommands (session : Session) (host : Host) (commands : List CompileCommand) : Session :=
  { session with registry := session.registry.registerAll host commands }

/-- The session with an empty registry. -/
def emptied (session : Session) : Session :=
  { session with registry := session.registry.clear }

/-- What loading comes to. -/
inductive Loaded (session : Session) (world : World σ) : Step σ Nat → Prop
  /-- The database cannot be read. -/
  | unread (failure : Failure)
      (read : Database.commands world.host world.files session.database = .error failure) :
      Loaded session world (.error failure, session.stamped world, world)
  /-- The output directory cannot be made. -/
  | blocked (commands : List CompileCommand) (fault : FileFault)
      (read : Database.commands world.host world.files session.database = .ok commands)
      (made : world.files.makeDirectory world.host session.outputDir = .error fault) :
      Loaded session world (.error (.outputDirectory session.outputDir fault),
        (session.stamped world).withCommands world.host commands, world)
  | loaded (commands : List CompileCommand) (files : FileSystem)
      (read : Database.commands world.host world.files session.database = .ok commands)
      (made : world.files.makeDirectory world.host session.outputDir = .ok files) :
      Loaded session world (.ok commands.length,
        (session.stamped world).withCommands world.host commands, { world with files })

theorem loaded (session : Session) (world : World σ) :
    Loaded session world (session.load world) := by
  cases read : Database.commands world.host world.files session.database with
  | error failure =>
    have unread : session.load world = (.error failure, session.stamped world, world) := by
      simp only [load, read]
      rfl
    rw [unread]
    exact .unread failure read
  | ok commands =>
    cases made : world.files.makeDirectory world.host session.outputDir with
    | error fault =>
      have blocked : session.load world =
          (.error (.outputDirectory session.outputDir fault),
            (session.stamped world).withCommands world.host commands, world) := by
        rw [outputDir] at made
        simp only [load, read, outputDir, Registry.clear, Registry.empty, made]
        rfl
      rw [blocked]
      exact .blocked commands fault read made
    | ok files =>
      have loaded : session.load world = (.ok commands.length,
          (session.stamped world).withCommands world.host commands, { world with files }) := by
        rw [outputDir] at made
        simp only [load, read, outputDir, Registry.clear, Registry.empty, made]
        rfl
      rw [loaded]
      exact .loaded commands files read made

/-- What a refresh comes to. -/
inductive Refreshed (session : Session) (world : World σ) : Step σ Unit → Prop
  | current (fresh : session.isOutdated world = false) :
      Refreshed session world (.ok (), session, world)
  | reloaded (outdated : session.isOutdated world = true) (count : Nat)
      (load : (session.load world).1 = .ok count) :
      Refreshed session world (.ok (), (session.load world).2)
  /-- A failure of the pipeline is not reported. -/
  | survived (outdated : session.isOutdated world = true) (failure : Failure)
      (load : (session.load world).1 = .error failure) (pipeline : failure.isPipeline = true) :
      Refreshed session world
        (.ok (), (session.load world).2.1.emptied, (session.load world).2.2)
  | broken (outdated : session.isOutdated world = true) (failure : Failure)
      (load : (session.load world).1 = .error failure) (other : failure.isPipeline = false) :
      Refreshed session world (.error failure, (session.load world).2)

theorem refreshed (session : Session) (world : World σ) :
    Refreshed session world (session.refresh world) := by
  have unfolded : session.refresh world =
      if session.isOutdated world then
        match (session.load world).1 with
        | .ok _ => (.ok (), (session.load world).2)
        | .error failure =>
          if failure.isPipeline then
            (.ok (), (session.load world).2.1.emptied, (session.load world).2.2)
          else (.error failure, (session.load world).2)
      else (.ok (), session, world) := by
    rw [refresh]
    split_ifs
    · obtain ⟨_ | _, _, _⟩ := session.load world <;> rfl
    · rfl
  rw [unfolded]
  split_ifs with outdated
  · cases load : (session.load world).1 with
    | ok count => exact .reloaded outdated count load
    | error failure =>
      dsimp only
      split_ifs with pipeline
      · exact .survived outdated failure load pipeline
      · exact .broken outdated failure load (Bool.eq_false_iff.mpr pipeline)
  · exact .current (Bool.eq_false_iff.mpr outdated)

/-- A query leaves behind what a refresh does. -/
theorem query_snd {α : Type} (answer : Registry → α) (session : Session) (world : World σ) :
    (query answer session world).2 = (session.refresh world).2 := by
  rw [query]
  obtain ⟨_ | _, _, _⟩ := session.refresh world <;> rfl

/-- What a refresh reports is a failure to load the database that is none of the pipeline. -/
theorem of_refresh_error {session : Session} {world : World σ} {failure : Failure}
    (failed : (session.refresh world).1 = .error failure) :
    session.isOutdated world = true ∧ (session.load world).1 = .error failure ∧
      failure.isPipeline = false := by
  have hrefreshed := session.refreshed world
  generalize session.refresh world = step at hrefreshed failed
  cases hrefreshed with
  | current | reloaded | survived => cases failed
  | broken outdated met load other =>
    obtain rfl := Except.error.inj failed
    exact ⟨outdated, load, other⟩

/-- What is answered after a refresh. -/
theorem query_of_refresh {α : Type} (answer : Registry → α) {session later : Session}
    {world after : World σ} (refresh : session.refresh world = (.ok (), later, after)) :
    query answer session world = (.ok (answer later.registry), later, after) := by
  rw [query, refresh]

end Session

/-! ### Building -/

/-- The result of a build, by the outcome of its command. -/
def ProcessOutcome.result (outcome : ProcessOutcome) (command : String) : BuildResult where
  success := outcome.exitCode == some 0
  command
  stdout := outcome.stdout
  stderr := outcome.stderr
  exitCode := outcome.exitCode

namespace Toolchain

/-- What executing a record comes to. -/
inductive Executed (tools : Toolchain σ) (record : BuildRecord) (extraArgs : List String)
    (world : World σ) : Except Failure BuildResult × BuildRecord × World σ → Prop
  /-- The runner gives up. -/
  | abandoned (failure : Failure) (files : FileSystem) (state : σ)
      (run : tools.run (record.commandWith extraArgs) record.directory world.files world.tools =
        (.error failure, files, state)) :
      Executed tools record extraArgs world (.error failure, record,
        { world.note (.ran (record.commandWith extraArgs) record.directory) with
          files, tools := state })
  /-- The command does not end with success. -/
  | failed (outcome : ProcessOutcome) (files : FileSystem) (state : σ)
      (run : tools.run (record.commandWith extraArgs) record.directory world.files world.tools =
        (.ok outcome, files, state))
      (code : outcome.exitCode ≠ some 0) :
      Executed tools record extraArgs world
        (.ok (outcome.result (record.commandWith extraArgs)), record,
          { world.note (.ran (record.commandWith extraArgs) record.directory) with
            files, tools := state })
  /-- The command succeeds, and the demangler gives up. -/
  | undemangled (outcome : ProcessOutcome) (files : FileSystem) (state : σ) (failure : Failure)
      (later : FileSystem)
      (run : tools.run (record.commandWith extraArgs) record.directory world.files world.tools =
        (.ok outcome, files, state))
      (code : outcome.exitCode = some 0)
      (demangle : tools.demangle record.artifact files = (.error failure, later)) :
      Executed tools record extraArgs world (.error failure, record,
        { (world.note (.ran (record.commandWith extraArgs) record.directory)).note
            (.demangled record.artifact) with files := later, tools := state })
  /-- The command and the demangler succeed. -/
  | built (outcome : ProcessOutcome) (files : FileSystem) (state : σ) (later : FileSystem)
      (run : tools.run (record.commandWith extraArgs) record.directory world.files world.tools =
        (.ok outcome, files, state))
      (code : outcome.exitCode = some 0)
      (demangle : tools.demangle record.artifact files = (.ok (), later)) :
      Executed tools record extraArgs world
        (.ok (outcome.result (record.commandWith extraArgs)),
          { record with lastExtraArgs := extraArgs },
          { (world.note (.ran (record.commandWith extraArgs) record.directory)).note
              (.demangled record.artifact) with files := later, tools := state })

theorem executed (tools : Toolchain σ) (record : BuildRecord) (extraArgs : List String)
    (world : World σ) :
    Executed tools record extraArgs world (tools.execute record extraArgs world) := by
  rw [execute, ← BuildRecord.commandWith]
  rcases run : tools.run (record.commandWith extraArgs) record.directory world.files world.tools
    with ⟨failure | outcome, files, state⟩
  · simp only [World.note, run]
    exact .abandoned failure files state run
  · simp only [World.note, run]
    by_cases code : outcome.exitCode = some 0
    · rw [if_pos (beq_iff_eq.mpr code)]
      rcases demangle : tools.demangle record.artifact files with ⟨failure | _, later⟩
      · simp only [demangle]
        exact .undemangled outcome files state failure later run code demangle
      · simp only [demangle]
        exact .built outcome files state later run code demangle
    · rw [if_neg (mt beq_iff_eq.mp code)]
      exact .failed outcome files state run code

end Toolchain

namespace Session

/-- What compiling comes to, by the session and the world after the refresh. -/
inductive Compiled (tools : Toolchain σ) (artifact : Path) (session : Session) (world : World σ) :
    Step σ BuildResult → Prop
  | broken (failure : Failure) (later : Session) (after : World σ)
      (refresh : session.refresh world = (.error failure, later, after)) :
      Compiled tools artifact session world (.error failure, later, after)
  | unknown (later : Session) (after : World σ)
      (refresh : session.refresh world = (.ok (), later, after))
      (unknown : later.registry.recordFor artifact = none) :
      Compiled tools artifact session world (.error (.noRecord artifact), later, after)
  | upToDate (later : Session) (after : World σ) (record : BuildRecord)
      (refresh : session.refresh world = (.ok (), later, after))
      (found : later.registry.recordFor artifact = some record)
      (fresh : record.needsBuild after.host after.files later.extraArgs later.database = false) :
      Compiled tools artifact session world (.ok .upToDate, later, after)
  | executed (later : Session) (after : World σ) (record : BuildRecord)
      (refresh : session.refresh world = (.ok (), later, after))
      (found : later.registry.recordFor artifact = some record)
      (stale : record.needsBuild after.host after.files later.extraArgs later.database = true) :
      Compiled tools artifact session world
        ((tools.execute record later.extraArgs after).1,
          { later with registry :=
              later.registry.update (tools.execute record later.extraArgs after).2.1 },
          (tools.execute record later.extraArgs after).2.2)

theorem compiled (tools : Toolchain σ) (artifact : Path) (session : Session) (world : World σ) :
    Compiled tools artifact session world (session.compile tools artifact world) := by
  rw [compile, recordFor, query]
  rcases refresh : session.refresh world with ⟨failure | _, later, after⟩
  · exact .broken failure later after refresh
  · cases found : later.registry.recordFor artifact with
    | none =>
      simp only [found]
      exact .unknown later after refresh found
    | some record =>
      simp only [found]
      split_ifs with stale
      · exact .executed later after record refresh found stale
      · exact .upToDate later after record refresh found (Bool.eq_false_iff.mpr stale)

variable (tools : Toolchain σ) {artifact : Path} {session later : Session} {world after : World σ}
  {record : BuildRecord}

/-- What has no record after the refresh is not known. -/
theorem compile_of_unknown (refresh : session.refresh world = (.ok (), later, after))
    (unknown : later.registry.recordFor artifact = none) :
    session.compile tools artifact world = (.error (.noRecord artifact), later, after) := by
  rw [compile, recordFor, query, refresh]
  simp only [unknown]

/-- What needs no build after the refresh is up to date. -/
theorem compile_of_fresh (refresh : session.refresh world = (.ok (), later, after))
    (found : later.registry.recordFor artifact = some record)
    (fresh : record.needsBuild after.host after.files later.extraArgs later.database = false) :
    session.compile tools artifact world = (.ok .upToDate, later, after) := by
  rw [compile, recordFor, query, refresh]
  simp only [found, fresh]
  rfl

/-- What needs a build after the refresh is built. -/
theorem compile_of_stale (refresh : session.refresh world = (.ok (), later, after))
    (found : later.registry.recordFor artifact = some record)
    (stale : record.needsBuild after.host after.files later.extraArgs later.database = true) :
    session.compile tools artifact world =
      ((tools.execute record later.extraArgs after).1,
        { later with registry :=
            later.registry.update (tools.execute record later.extraArgs after).2.1 },
        (tools.execute record later.extraArgs after).2.2) := by
  rw [compile, recordFor, query, refresh]
  simp only [found, stale]
  rfl

end Session

/-! ### What stays -/

namespace Session

@[simp]
theorem host_load (session : Session) (world : World σ) :
    (session.load world).2.2.host = world.host :=
  match session.load world, session.loaded world with
  | _, .unread .. => rfl
  | _, .blocked .. => rfl
  | _, .loaded .. => rfl

@[simp]
theorem trace_load (session : Session) (world : World σ) :
    (session.load world).2.2.trace = world.trace :=
  match session.load world, session.loaded world with
  | _, .unread .. => rfl
  | _, .blocked .. => rfl
  | _, .loaded .. => rfl

@[simp]
theorem database_load (session : Session) (world : World σ) :
    (session.load world).2.1.database = session.database :=
  match session.load world, session.loaded world with
  | _, .unread .. => rfl
  | _, .blocked .. => rfl
  | _, .loaded .. => rfl

@[simp]
theorem database_refresh (session : Session) (world : World σ) :
    (session.refresh world).2.1.database = session.database :=
  match session.refresh world, session.refreshed world with
  | _, .current .. => rfl
  | _, .reloaded .. => session.database_load world
  | _, .survived .. => session.database_load world
  | _, .broken .. => session.database_load world

@[simp]
theorem extraArgs_load (session : Session) (world : World σ) :
    (session.load world).2.1.extraArgs = session.extraArgs :=
  match session.load world, session.loaded world with
  | _, .unread .. => rfl
  | _, .blocked .. => rfl
  | _, .loaded .. => rfl

@[simp]
theorem extraArgs_refresh (session : Session) (world : World σ) :
    (session.refresh world).2.1.extraArgs = session.extraArgs :=
  match session.refresh world, session.refreshed world with
  | _, .current .. => rfl
  | _, .reloaded .. => session.extraArgs_load world
  | _, .survived .. => session.extraArgs_load world
  | _, .broken .. => session.extraArgs_load world

@[simp]
theorem database_query {α : Type} (answer : Registry → α) (session : Session) (world : World σ) :
    (query answer session world).2.1.database = session.database := by
  rw [query_snd, database_refresh]

theorem database_compile (tools : Toolchain σ) (artifact : Path) (session : Session)
    (world : World σ) :
    (session.compile tools artifact world).2.1.database = session.database := by
  have hrefresh := session.database_refresh world
  have hcompiled := session.compiled tools artifact world
  generalize session.compile tools artifact world = step at hcompiled
  cases hcompiled with
  | broken failure later after refresh => rwa [refresh] at hrefresh
  | unknown later after refresh => rwa [refresh] at hrefresh
  | upToDate later after record refresh => rwa [refresh] at hrefresh
  | executed later after record refresh => rwa [refresh] at hrefresh

/-- A refresh leaves the world that there was, or the one that a load leaves. -/
theorem refresh_world (session : Session) (world : World σ) :
    (session.refresh world).2.2 = world ∨
      (session.refresh world).2.2 = (session.load world).2.2 :=
  match session.refresh world, session.refreshed world with
  | _, .current .. => .inl rfl
  | _, .reloaded .. => .inr rfl
  | _, .survived .. => .inr rfl
  | _, .broken .. => .inr rfl

@[simp]
theorem host_refresh (session : Session) (world : World σ) :
    (session.refresh world).2.2.host = world.host := by
  obtain h | h := session.refresh_world world
  · rw [h]
  · rw [h, host_load]

@[simp]
theorem trace_refresh (session : Session) (world : World σ) :
    (session.refresh world).2.2.trace = world.trace := by
  obtain h | h := session.refresh_world world
  · rw [h]
  · rw [h, trace_load]

end Session

namespace Toolchain

@[simp]
theorem host_execute (tools : Toolchain σ) (record : BuildRecord) (extraArgs : List String)
    (world : World σ) : (tools.execute record extraArgs world).2.2.host = world.host :=
  match tools.execute record extraArgs world, tools.executed record extraArgs world with
  | _, .abandoned .. => rfl
  | _, .failed .. => rfl
  | _, .undemangled .. => rfl
  | _, .built .. => rfl

/-- Executing a record runs its command. -/
theorem trace_execute (tools : Toolchain σ) (record : BuildRecord) (extraArgs : List String)
    (world : World σ) :
    ∃ events, (tools.execute record extraArgs world).2.2.trace =
      world.trace ++ .ran (record.commandWith extraArgs) record.directory :: events :=
  match tools.execute record extraArgs world, tools.executed record extraArgs world with
  | _, .abandoned .. => ⟨[], rfl⟩
  | _, .failed .. => ⟨[], rfl⟩
  | _, .undemangled .. => ⟨[.demangled record.artifact], List.append_assoc ..⟩
  | _, .built .. => ⟨[.demangled record.artifact], List.append_assoc ..⟩

/-- Executing a record changes its extra arguments at most. -/
theorem execute_record (tools : Toolchain σ) (record : BuildRecord) (extraArgs : List String)
    (world : World σ) :
    ∃ lastExtraArgs, (tools.execute record extraArgs world).2.1 = { record with lastExtraArgs } :=
  match tools.execute record extraArgs world, tools.executed record extraArgs world with
  | _, .abandoned .. => ⟨record.lastExtraArgs, rfl⟩
  | _, .failed .. => ⟨record.lastExtraArgs, rfl⟩
  | _, .undemangled .. => ⟨record.lastExtraArgs, rfl⟩
  | _, .built .. => ⟨extraArgs, rfl⟩

end Toolchain

@[simp]
theorem Session.host_compile (tools : Toolchain σ) (artifact : Path) (session : Session)
    (world : World σ) : (session.compile tools artifact world).2.2.host = world.host := by
  have hrefresh := session.host_refresh world
  have hcompiled := session.compiled tools artifact world
  generalize session.compile tools artifact world = step at hcompiled
  cases hcompiled with
  | broken failure later after refresh => rwa [refresh] at hrefresh
  | unknown later after refresh => rwa [refresh] at hrefresh
  | upToDate later after record refresh => rwa [refresh] at hrefresh
  | executed later after record refresh =>
    rw [refresh] at hrefresh
    exact (tools.host_execute record later.extraArgs after).trans hrefresh

end ArtifactLens
