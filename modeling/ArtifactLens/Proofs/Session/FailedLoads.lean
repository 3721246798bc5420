import ArtifactLens.Proofs.Registry.Load
import ArtifactLens.Proofs.Session.Failures

/-!
# Failed loads

What a load leaves in the registry depends on the database alone: the registry is empty after it if
and only if the database yields no command (`Session.registry_load_eq_clear_iff`). So a load that
fails leaves nothing behind if it is the database that cannot be read. A database that was read is
registered before the output directory is made; if that fails, its commands stay registered, and
artifacts are found although the load failed (`Session.load_obstructed`).

**A failed load is lasting** (`History.load_failed`): where nothing was left behind, nothing is
found by any operation that follows, as long as the file of the database is left alone. Only a
failure that a refresh reports is met again, whenever the database is newer than the stamp of the
last load.
-/

namespace ArtifactLens

variable {σ : Type}

namespace Registry

variable {host : Host} {registry : Registry}

/-- Commands that are registered in an empty registry show. -/
theorem registerAll_clear_eq_clear_iff {commands : List CompileCommand} :
    registry.clear.registerAll host commands = registry.clear ↔ commands = [] := by
  constructor
  · intro h
    cases commands with
    | nil => rfl
    | cons command rest =>
      -- the first command to register owns its name
      have owned : registry.clear.Owns host (command :: rest) command.source := by
        simp [Owns, owner?]
      have loaded := loaded_registerAll host registry.root registry.outputDir (command :: rest)
      obtain ⟨artifact, found⟩ := (loaded.known command.source .disassembly).mpr owned
      rw [← clear, h] at found
      cases found
  · rintro rfl
    rfl

end Registry

/-! ### What a database yields -/

namespace Database

variable {host : Host} {fs other : FileSystem} {database : Path} {failure : Failure}

/-- A failure that is none of the pipeline is one to read the content that a database has. -/
theorem content_of_not_pipeline (h : commands host fs database = .error failure)
    (other : failure.isPipeline = false) :
    ∃ content, fs.content? host database = some content := by
  cases hread : fs.read host database with
  | ok content => exact ⟨content, FileSystem.content?_eq_some_iff.mpr hread⟩
  | error fault =>
    rw [commands, read, hread] at h
    obtain rfl := Except.error.inj h
    cases other

/-- What is read from a content, or fails to be, depends on nothing else. -/
theorem commands_eq_of_content {content : Octets} (here : fs.content? host database = some content)
    (there : other.content? host database = some content) :
    commands host other database = commands host fs database := by
  rw [FileSystem.content?_eq_some_iff] at here there
  rw [commands, commands, read, read, here, there]

end Database

namespace Session

/-- The database yields no command: it cannot be read, or it has no entries. -/
def Barren (session : Session) (world : World σ) : Prop :=
  ∀ commands, Database.commands world.host world.files session.database = .ok commands →
    commands = []

/-- **A load leaves nothing behind if and only if the database yields no command.** -/
theorem registry_load_eq_clear_iff (session : Session) (world : World σ) :
    (session.load world).2.1.registry = session.registry.clear ↔ session.Barren world := by
  have yields {commands : List CompileCommand}
      (read : Database.commands world.host world.files session.database = .ok commands) :
      session.registry.clear.registerAll world.host commands = session.registry.clear ↔
        session.Barren world := by
    rw [Registry.registerAll_clear_eq_clear_iff]
    constructor
    · rintro rfl others again
      exact (Except.ok.inj (read.symm.trans again)).symm
    · exact fun barren => barren commands read
  have hloaded := session.loaded world
  generalize session.load world = step at hloaded
  cases hloaded with
  | unread failure read =>
    refine iff_of_true rfl fun commands again => ?_
    cases read.symm.trans again
  | blocked commands fault read => exact yields read
  | loaded commands files read => exact yields read

/-- A load that fails although the database yields commands could not make the output directory,
and leaves them registered. -/
theorem load_of_not_barren {session : Session} {world : World σ} {failure : Failure}
    (failed : (session.load world).1 = .error failure) (fertile : ¬session.Barren world) :
    ∃ commands fault,
      Database.commands world.host world.files session.database = .ok commands ∧
      failure = .outputDirectory session.outputDir fault ∧
      (session.load world).2.1.registry =
        session.registry.clear.registerAll world.host commands := by
  have hloaded := session.loaded world
  generalize session.load world = step at hloaded failed ⊢
  cases hloaded with
  | unread failure read =>
    refine absurd (fun commands again => ?_) fertile
    cases read.symm.trans again
  | blocked commands fault read =>
    exact ⟨commands, fault, read, (Except.error.inj failed).symm, rfl⟩
  | loaded => cases failed

/-- A load that fails with what is no failure of the pipeline could not read the database. -/
theorem commands_of_load {session : Session} {world : World σ} {failure : Failure}
    (failed : (session.load world).1 = .error failure) (other : failure.isPipeline = false) :
    Database.commands world.host world.files session.database = .error failure := by
  have hloaded := session.loaded world
  generalize session.load world = step at hloaded failed
  cases hloaded with
  | unread unreadable read => exact Except.error.inj failed ▸ read
  | blocked =>
    obtain rfl := Except.error.inj failed
    cases other
  | loaded => cases failed

theorem load_of_commands {session : Session} {world : World σ} {failure : Failure}
    (read : Database.commands world.host world.files session.database = .error failure) :
    (session.load world).1 = .error failure := by
  have hloaded := session.loaded world
  generalize session.load world = step at hloaded
  cases hloaded with
  | unread failure again => exact congrArg Except.error (Except.error.inj (again.symm.trans read))
  | blocked commands fault again | loaded commands files again => cases again.symm.trans read

/-- Nothing is found, whatever is looked up. -/
structure FindsNothing (tools : Toolchain σ) (session : Session) (world : World σ) : Prop where
  artifactFor : ∀ source kind, (session.artifactFor source kind world).1 = .ok none
  sourceFor : ∀ artifact, (session.sourceFor artifact world).1 = .ok none
  recordFor : ∀ artifact, (session.recordFor artifact world).1 = .ok none
  records : (session.records world).1 = .ok []
  compile : ∀ artifact, (session.compile tools artifact world).1 = .error (.noRecord artifact)

/-- Nothing is found in an empty registry. -/
theorem FindsNothing.of_refresh {tools : Toolchain σ} {session later : Session}
    {world after : World σ} (refresh : session.refresh world = (.ok (), later, after))
    (empty : later.registry = later.registry.clear) : session.FindsNothing tools world where
  artifactFor source kind := by
    rw [Session.artifactFor, query_of_refresh _ refresh, empty]
    cases kind <;> rfl
  sourceFor artifact := by
    rw [Session.sourceFor, query_of_refresh _ refresh, empty]
    rfl
  recordFor artifact := by
    rw [Session.recordFor, query_of_refresh _ refresh, empty]
    rfl
  records := by
    rw [Session.records, query_of_refresh _ refresh, empty]
    rfl
  compile artifact := by
    rw [compile_of_unknown tools refresh (by rw [empty]; rfl)]

end Session

/-! ### After a failed load -/

namespace History

/-- The registry stays empty, and the database is left alone. -/
structure Bare (first later : History σ) : Prop where
  host : later.world.host = first.world.host
  database : later.session.database = first.session.database
  registry : later.session.registry = first.session.registry.clear
  untouched : first.Untouched [first.session.database] later

namespace Bare

variable {tools : Toolchain σ} {first later : History σ}

theorem content?_eq (h : Bare first later) :
    later.world.files.content? later.world.host later.session.database =
      first.world.files.content? first.world.host first.session.database := by
  rw [h.database, h.host]
  exact FileSystem.content?_congr (h.host ▸ h.untouched _ List.mem_cons_self)

/-- What the database yielded, it yields still. -/
theorem barren (h : Bare first later) (barren : first.session.Barren first.world) :
    later.session.Barren later.world := by
  intro commands read
  have same := h.content?_eq
  rw [h.database, h.host] at read same
  exact barren commands (Database.commands_congr same read)

/-- A load that fails now with what a refresh reports would have failed so before. -/
theorem load_eq (h : Bare first later) {failure : Failure}
    (failed : (later.session.load later.world).1 = .error failure)
    (other : failure.isPipeline = false) :
    (first.session.load first.world).1 = .error failure := by
  have read := Session.commands_of_load failed other
  obtain ⟨content, hcontent⟩ := Database.content_of_not_pipeline read other
  have same := h.content?_eq
  rw [hcontent] at same
  rw [h.database, h.host] at read hcontent
  refine Session.load_of_commands ?_
  rw [Database.commands_eq_of_content hcontent same.symm, read]

theorem registry_loaded (h : Bare first later) (barren : first.session.Barren first.world) :
    later.loaded.session.registry = first.session.registry.clear := by
  rw [History.loaded, (later.session.registry_load_eq_clear_iff later.world).mpr (h.barren barren),
    h.registry]
  rfl

theorem registry_refreshed (h : Bare first later) (barren : first.session.Barren first.world) :
    later.refreshed.session.registry = first.session.registry.clear := by
  have hrefreshed := later.refreshed_cases
  generalize later.refreshed = next at hrefreshed
  cases hrefreshed with
  | current => exact h.registry
  | loaded => exact h.registry_loaded barren
  | emptied => exact (congrArg Registry.clear (h.registry_loaded barren)).trans rfl

theorem act (h : Bare first later) (barren : first.session.Barren first.world) (op : Session.Op)
    (untouched : first.Untouched [first.session.database] (later.act tools op)) :
    Bare first (later.act tools op) := by
  have hhost : (later.act tools op).world.host = later.world.host := Step.host (.act op)
  have hacted := later.acted tools op
  generalize later.act tools op = next at hacted untouched hhost
  cases hacted with
  | loaded =>
    exact ⟨hhost.trans h.host, (Session.database_load ..).trans h.database,
      h.registry_loaded barren, untouched⟩
  | refreshed =>
    exact ⟨hhost.trans h.host, (Session.database_refresh ..).trans h.database,
      h.registry_refreshed barren, untouched⟩
  | withExtraArgs => exact ⟨h.host, h.database, h.registry, untouched⟩
  | executed artifact record found =>
    rw [h.registry_refreshed barren] at found
    cases found

/-- While the database is left alone, the registry stays empty. -/
theorem of_run (start : Bare first first) (barren : first.session.Barren first.world)
    (run : Run tools (Untouched [first.session.database]) first later) : Bare first later := by
  induction run with
  | refl => exact start
  | tail _ step ih =>
    obtain ⟨step, untouched⟩ := step
    have untouched := ih.untouched.trans untouched
    cases step with
    | act op => exact ih.act barren op untouched
    | outside world host => exact ⟨host.trans ih.host, ih.database, ih.registry, untouched⟩

end Bare

/-- **What a failed load leaves behind.** The registry is empty if and only if the database yields
no command; otherwise it was the output directory that could not be made, and all commands of the
database are registered. If the registry is empty, then nothing is found as long as the file of the
database is left alone, whatever else happens; or the failure is none of the pipeline, and a
refresh meets it again. -/
theorem load_failed {tools : Toolchain σ} {history : History σ} {failure : Failure}
    (failed : (history.session.load history.world).1 = .error failure) :
    let first := history.loaded
    let host := history.world.host
    let empty := history.session.registry.clear
    let database := history.session.database
    let barren := ∀ commands,
      Database.commands host history.world.files database = .ok commands → commands = []
    (first.session.registry = empty ↔ barren) ∧
    (¬barren → ∃ commands fault,
      Database.commands host history.world.files database = .ok commands ∧
      failure = .outputDirectory history.session.outputDir fault ∧
      first.session.registry = empty.registerAll host commands) ∧
    (first.session.registry = empty → ∀ later, Run tools (Untouched [database]) first later →
      later.session.registry = empty ∧
      (later.session.FindsNothing tools later.world ∨
        failure.isPipeline = false ∧ later.session.isOutdated later.world = true ∧
          (later.session.refresh later.world).1 = .error failure)) := by
  intro first host empty database barren
  refine ⟨history.session.registry_load_eq_clear_iff history.world,
    Session.load_of_not_barren failed, fun hempty later run => ?_⟩
  have hbarren : history.session.Barren history.world :=
    (history.session.registry_load_eq_clear_iff history.world).mp hempty
  have hdatabase : first.session.database = database := Session.database_load ..
  have hnode : first.world.files.node? host database =
      history.world.files.node? host database := Session.node?_load ..
  have hhost : first.world.host = host := Session.host_load ..
  have again : Bare history first :=
    ⟨hhost, hdatabase, hempty, fun path hpath => by
      rw [List.mem_singleton.mp hpath, hhost, hnode]⟩
  have start : Bare first first :=
    ⟨rfl, rfl, by rw [hempty]; rfl, .refl _ first⟩
  rw [← hdatabase] at run
  have bare : Bare first later := .of_run start (again.barren hbarren) run
  have cleared : first.session.registry.clear = empty := by rw [hempty]; rfl
  refine ⟨bare.registry.trans cleared, ?_⟩
  have hrefreshed := bare.registry_refreshed (again.barren hbarren)
  rw [cleared, refreshed] at hrefreshed
  rcases hstep : later.session.refresh later.world with ⟨met | _, next, after⟩
  · obtain ⟨outdated, load, other⟩ := Session.of_refresh_error (congrArg Prod.fst hstep)
    have before := again.load_eq (bare.load_eq load other) other
    obtain rfl := Except.error.inj (failed.symm.trans before)
    exact .inr ⟨other, outdated, rfl⟩
  · rw [hstep] at hrefreshed
    exact .inl (.of_refresh hstep (by rw [hrefreshed]; rfl))

end History

/-! ### The small project -/

namespace Sample

/-- The database breaks off after its first character. -/
def brokenOff : FileSystem where
  at? location :=
    match location.map Name.text with
    | [] => some (.directory 0)
    | ["d"] => some (.file [0x5b] 1000 false)
    | _ => none

/-- The small project with a broken database. -/
def brokenProject : History Unit := .start places ⟨host, brokenOff, 1500, (), []⟩

/-- The small project with a file in the place of the output directory. -/
def obstructed : World Unit := ⟨host, projectWith (.file [] 2000 false), 1500, (), []⟩

end Sample

open Sample in
/-- In the small project with a broken database, nothing is found after a load, nor after another
that is asked for. -/
theorem History.load_failed_brokenOff :
    let loaded := brokenProject.loaded
    let later := loaded.act tools .load
    loaded.session.FindsNothing tools loaded.world ∧
      later.session.FindsNothing tools later.world := by
  intro loaded later
  have failed : (brokenProject.session.load brokenProject.world).1 =
      .error (.databaseText places.database .value 1 2 1) := by decide +kernel
  obtain ⟨hempty, -, lasting⟩ := @load_failed _ tools _ _ failed
  have unread : Database.commands host brokenOff places.database =
      .error (.databaseText places.database .value 1 2 1) := by decide +kernel
  have first := lasting (hempty.mpr fun commands read => by cases unread.symm.trans read)
  have untouched : loaded.Untouched [places.database] later := by
    intro path hpath
    have hhost : later.world.host = loaded.world.host := Step.host (.act .load)
    have hdatabase : loaded.session.database = places.database := Session.database_load ..
    rw [List.mem_singleton.mp hpath, hhost, ← hdatabase]
    exact Session.node?_load loaded.session loaded.world
  refine ⟨(first loaded .refl).2.resolve_right fun met => ?_,
    (first later (.single ⟨.act .load, untouched⟩)).2.resolve_right fun met => ?_⟩ <;>
  · cases met.1

open Sample in
/-- **A load that fails may leave everything behind.** In the small project with a file in the place
of the output directory, the load fails, and the record of the listing is found. -/
theorem Session.load_obstructed :
    let step := (Session.start places).load obstructed
    step.1 = .error (.outputDirectory places.outputDir ⟨.exists, places.outputDir⟩) ∧
      step.2.1.registry.records.size = 3 ∧
      (step.2.1.recordFor artifact step.2.2).1 = .ok (some record) := by
  decide +kernel

end ArtifactLens
