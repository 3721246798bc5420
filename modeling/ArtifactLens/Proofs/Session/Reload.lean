import ArtifactLens.Proofs.FileSystem
import ArtifactLens.Proofs.Session.Coherence

/-!
# Reloading the database

The registry of a session always mirrors the last attempt to load the database (`Mirror`): it holds
the commands that the attempt read, each registered in order, or it is empty and the attempt
failed. Builds only change what records remember of their extra arguments.

So the question is whether the last attempt found the content that the database has now. It did
as long as nobody writes the database back in time (`Forward`): what is written after a load is
newer than the stamp of the load, and the next operation that refreshes loads again
(`History.registry_current`).
-/

namespace ArtifactLens

variable {σ : Type}

namespace Registry

variable {registry : Registry}

/-- The registry with what records remember of builds left out. -/
def withoutArgs (registry : Registry) : Registry :=
  { registry with
    records := registry.records.view fun record => { record with lastExtraArgs := [] } }

theorem withoutArgs_update (record : BuildRecord) {old : BuildRecord}
    (own : registry.recordFor record.artifact = some old)
    (same : { record with lastExtraArgs := [] } = { old with lastExtraArgs := [] }) :
    (registry.update record).withoutArgs = registry.withoutArgs := by
  rw [recordFor] at own
  rw [update, own, withoutArgs, withoutArgs, Table.view_insert_of_get? own same]

theorem clear_update (record : BuildRecord) : (registry.update record).clear = registry.clear := by
  rw [clear, root_update, outputDir_update, ← clear]

theorem clear_registerAll (host : Host) (commands : List CompileCommand) :
    (registry.registerAll host commands).clear = registry.clear := by
  induction commands generalizing registry with
  | nil => rfl
  | cons command rest ih =>
    have hclear : (registry.register host command).2.clear = registry.clear := by
      have hregistered := registry.registered host command
      generalize registry.register host command = outcome at hregistered
      cases hregistered with
      | refused => rfl
      | accepted => rw [clear, root_placeAll, outputDir_placeAll, ← clear]
    exact Eq.trans ih hclear

end Registry

namespace Database

variable {host : Host} {fs other : FileSystem} {database : Path} {found : List CompileCommand}

/-- The commands of a database are read from its content. -/
theorem content_of_commands (h : commands host fs database = .ok found) :
    ∃ content, fs.content? host database = some content := by
  cases hread : fs.read host database with
  | ok content => exact ⟨content, FileSystem.content?_eq_some_iff.mpr hread⟩
  | error fault => simp [commands, read, hread] at h

/-- The commands of a database depend on its content only. -/
theorem commands_congr (hsame : fs.content? host database = other.content? host database)
    (h : commands host fs database = .ok found) : commands host other database = .ok found := by
  obtain ⟨content, hcontent⟩ := content_of_commands h
  have hother := hsame.symm.trans hcontent
  rw [FileSystem.content?_eq_some_iff] at hcontent hother
  rw [commands, read, hcontent] at h
  rw [commands, read, hother, h]

end Database

namespace Session

theorem load_registry (session : Session) (world : World σ) :
    (∃ commands, Database.commands world.host world.files session.database = .ok commands ∧
      (session.load world).2.1.registry =
        session.registry.clear.registerAll world.host commands) ∨
    ((session.load world).2.1.registry = session.registry.clear ∧
      ∃ failure, (session.load world).1 = .error failure) :=
  match session.load world, session.loaded world with
  | _, .unread failure _ => .inr ⟨rfl, failure, rfl⟩
  | _, .blocked commands _ read _ => .inl ⟨commands, read, rfl⟩
  | _, .loaded commands _ read _ => .inl ⟨commands, read, rfl⟩

/-- What a load registers remembers no builds. -/
theorem lastExtraArgs_load (session : Session) (world : World σ) {artifact : Path}
    {record : BuildRecord}
    (h : (session.load world).2.1.registry.recordFor artifact = some record) :
    record.lastExtraArgs = [] := by
  obtain ⟨commands, -, hregistry⟩ | ⟨hregistry, -⟩ := session.load_registry world
  · rw [hregistry] at h
    refine Registry.lastExtraArgs_registerAll (.empty world.host _ _) (fun _ _ hfound => ?_)
      commands h
    cases hfound
  · rw [hregistry] at h
    cases h

theorem load_session (session : Session) (world : World σ) :
    (session.load world).2.1 =
      { session with
        registry := (session.load world).2.1.registry, loadedAt := some world.clock } :=
  match session.load world, session.loaded world with
  | _, .unread .. => rfl
  | _, .blocked .. => rfl
  | _, .loaded .. => rfl

/-- A load leaves the database as it found it. -/
theorem node?_load (session : Session) (world : World σ) :
    (session.load world).2.2.files.node? world.host session.database =
      world.files.node? world.host session.database :=
  match session.load world, session.loaded world with
  | _, .unread .. => rfl
  | _, .blocked .. => rfl
  | _, .loaded commands files read made => by
    -- a directory is made only if the database was read, so it is not made in its place
    obtain ⟨content, hcontent⟩ := Database.content_of_commands read
    obtain ⟨node, hnode⟩ := FileSystem.node_of_content hcontent
    rw [hnode, FileSystem.node?_eq_some_iff]
    exact FileSystem.inspect_makeDirectory made (FileSystem.node?_eq_some_iff.mp hnode)

end Session

/-! ### The last attempt -/

/-- A registry shows what an attempt to load the database came to: the commands that were read,
registered in order, or nothing, after a failure. -/
def Attempt.Shown (places : Settings.Places) (attempt : Attempt σ) (registry : Registry) : Prop :=
  (∃ commands,
    Database.commands attempt.world.host attempt.world.files places.database = .ok commands ∧
    registry.withoutArgs = ((Registry.empty places.root places.outputDir).registerAll
      attempt.world.host commands).withoutArgs) ∨
  (registry = .empty places.root places.outputDir ∧
    ∃ failure, attempt.answer = .error failure)

namespace History

/-- The session mirrors the last attempt to load the database. -/
structure Mirror (places : Settings.Places) (history : History σ) : Prop where
  database : history.session.database = places.database
  clear : history.session.registry.clear = .empty places.root places.outputDir
  coherent : history.Coherent
  hosts : ∀ attempt ∈ history.attempts, attempt.world.host = history.world.host
  /-- The stamp is the clock of the last attempt. -/
  stamp : history.session.loadedAt = history.attempts.head?.map (·.world.clock)
  untried : history.attempts = [] →
    history.session.registry = .empty places.root places.outputDir
  shown : ∀ attempt, history.attempts.head? = some attempt →
    attempt.Shown places history.session.registry

namespace Mirror

variable {tools : Toolchain σ} {places : Settings.Places} {history : History σ}

theorem start (places : Settings.Places) (world : World σ) :
    (start places world).Mirror places where
  database := rfl
  clear := rfl
  coherent := .start places world
  hosts := by simp [History.start]
  stamp := rfl
  untried _ := rfl
  shown := by simp [History.start]

/-- An attempt to load the database is shown at once. -/
theorem loaded (h : history.Mirror places) : history.loaded.Mirror places where
  database := by
    rw [History.loaded, Session.load_session]
    exact h.database
  clear := by
    rw [← h.clear, History.loaded]
    obtain ⟨commands, -, hregistry⟩ | ⟨hregistry, -⟩ := history.session.load_registry history.world
    · rw [hregistry, Registry.clear_registerAll]
      rfl
    · rw [hregistry]
      rfl
  coherent := history.coherent_loaded
  hosts attempt hattempt := by
    rw [History.loaded, Session.host_load]
    obtain rfl | hearlier := List.mem_cons.mp hattempt
    · rfl
    · exact h.hosts attempt hearlier
  stamp := by
    rw [History.loaded, Session.load_session]
    rfl
  untried hnone := by cases hnone
  shown attempt hattempt := by
    obtain rfl := Option.some.inj hattempt
    rw [Attempt.Shown, ← h.clear, ← h.database]
    obtain ⟨commands, hread, hregistry⟩ | ⟨hregistry, hfailure⟩ :=
      history.session.load_registry history.world
    · exact .inl ⟨commands, hread, congrArg Registry.withoutArgs hregistry⟩
    · exact .inr ⟨hregistry, hfailure⟩

theorem refreshed (h : history.Mirror places) : history.refreshed.Mirror places := by
  have hrefreshed := history.refreshed_cases
  generalize history.refreshed = next at hrefreshed
  cases hrefreshed with
  | current fresh => exact h
  | loaded outdated => exact h.loaded
  | emptied outdated failure answer =>
    have hclear : history.loaded.emptied.session.registry = .empty places.root places.outputDir :=
      h.loaded.clear
    exact {
      database := h.loaded.database
      clear := congrArg Registry.clear hclear
      coherent := Registry.Coherent.empty _ _ _
      hosts := h.loaded.hosts
      stamp := h.loaded.stamp
      untried := fun _ => hclear
      shown := fun attempt hattempt =>
        .inr ⟨hclear, failure, Option.some.inj hattempt ▸ answer⟩ }

theorem withExtraArgs (h : history.Mirror places) (extraArgs : List String) :
    (history.withExtraArgs extraArgs).Mirror places :=
  ⟨h.database, h.clear, h.coherent, h.hosts, h.stamp, h.untried, h.shown⟩

/-- What a build writes back does not show. -/
theorem executed (h : history.Mirror places) {artifact : Path} {record : BuildRecord}
    (found : history.session.registry.recordFor artifact = some record) :
    (history.executed tools record).Mirror places := by
  obtain ⟨lastExtraArgs, hrecord⟩ :=
    tools.execute_record record history.session.extraArgs history.world
  have own := Registry.Coherent.recordFor_artifact h.coherent found
  have same : (history.session.registry.update { record with lastExtraArgs }).withoutArgs =
      history.session.registry.withoutArgs := Registry.withoutArgs_update _ own rfl
  have known : history.session.registry ≠ .empty places.root places.outputDir := by
    intro hempty
    rw [hempty] at found
    cases found
  exact {
    database := h.database
    clear := (Registry.clear_update _).trans h.clear
    coherent := h.coherent.executed found
    hosts := by
      rw [History.executed, Toolchain.host_execute]
      exact h.hosts
    stamp := h.stamp
    untried := fun hnone => absurd (h.untried hnone) known
    shown := fun attempt hattempt => by
      rw [History.executed, hrecord]
      obtain ⟨commands, hread, hregistry⟩ | ⟨hempty, -⟩ := h.shown attempt hattempt
      · exact .inl ⟨commands, hread, same.trans hregistry⟩
      · exact absurd hempty known }

theorem act (h : history.Mirror places) (op : Session.Op) :
    (history.act tools op).Mirror places :=
  match op, history.act tools op, history.acted tools op with
  | _, _, .loaded => h.loaded
  | _, _, .refreshed _ => h.refreshed
  | _, _, .withExtraArgs extraArgs => h.withExtraArgs extraArgs
  | _, _, .executed _ _ found => h.refreshed.executed found

theorem step (h : history.Mirror places) {next : History σ} (step : Step tools history next) :
    next.Mirror places := by
  cases step with
  | act op => exact h.act op
  | outside world host =>
    refine ⟨h.database, h.clear, ?_, fun attempt hattempt => ?_, h.stamp, h.untried, h.shown⟩
    · rw [Coherent, host]
      exact h.coherent
    · exact (h.hosts attempt hattempt).trans host.symm

end Mirror

/-- **Every run mirrors its last attempt to load the database.** -/
theorem Run.mirror {tools : Toolchain σ} {Discipline : History σ → History σ → Prop}
    {places : Settings.Places} {world : World σ} {history : History σ}
    (run : Run tools Discipline (start places world) history) : history.Mirror places := by
  induction run with
  | refl => exact .start places world
  | tail _ step ih => exact ih.step step.1

/-! ### The last attempt is up to date -/

/-- The database is left alone, or it is written with a modification time after the stamps of all
attempts to load it. -/
def Forward (places : Settings.Places) (history next : History σ) : Prop :=
  next.world.files.node? next.world.host places.database =
      history.world.files.node? history.world.host places.database ∨
    ∃ node, next.world.files.node? next.world.host places.database = some node ∧
      ∀ attempt ∈ next.attempts, attempt.world.clock < node.modified

/-- The database is as the last attempt found it, or newer than the stamps of all attempts. -/
def Current (places : Settings.Places) (history : History σ) : Prop :=
  ∀ attempt, history.attempts.head? = some attempt →
    attempt.world.files.node? history.world.host places.database =
        history.world.files.node? history.world.host places.database ∨
      ∃ node, history.world.files.node? history.world.host places.database = some node ∧
        ∀ attempt ∈ history.attempts, attempt.world.clock < node.modified

theorem attempts_step {tools : Toolchain σ} {history next : History σ}
    (step : Step tools history next) : next.attempts = history.attempts ∨
      next.attempts = history.attempt :: history.attempts := by
  cases step with
  | act op =>
    rw [act]
    split_ifs
    · exact .inr rfl
    · exact .inl rfl
  | outside => exact .inl rfl

theorem Current.step {tools : Toolchain σ} {places : Settings.Places} {history next : History σ}
    (h : history.Current places) (step : Step tools history next)
    (forward : history.Forward places next) : next.Current places := by
  intro attempt hattempt
  obtain same | newer := forward
  · rw [same, step.host]
    obtain hattempts | hattempts := attempts_step step
    · rw [hattempts] at hattempt ⊢
      exact h attempt hattempt
    · rw [hattempts] at hattempt
      exact .inl (Option.some.inj hattempt ▸ rfl)
  · exact .inr newer

theorem Run.current {tools : Toolchain σ} {places : Settings.Places} {world : World σ}
    {history : History σ} (run : Run tools (Forward places) (start places world) history) :
    history.Current places := by
  induction run with
  | refl =>
    intro attempt hattempt
    cases hattempt
  | tail _ step ih => exact ih.step step.1 step.2

/-- After a refresh, the last attempt is one that found the database as it was before. -/
theorem Mirror.attempts_refreshed {places : Settings.Places} {history : History σ}
    (mirror : history.Mirror places) (current : history.Current places) :
    ∃ attempt earlier, history.refreshed.attempts = attempt :: earlier ∧
      attempt.world.files.node? history.world.host places.database =
        history.world.files.node? history.world.host places.database := by
  cases outdated : history.session.isOutdated history.world with
  | true => exact ⟨history.attempt, history.attempts, by simp [History.refreshed, outdated], rfl⟩
  | false =>
    have hrefreshed : history.refreshed.attempts = history.attempts := by
      simp [History.refreshed, outdated]
    rw [hrefreshed]
    rw [Session.isOutdated, mirror.stamp, mirror.database] at outdated
    cases hattempts : history.attempts with
    | nil => simp [hattempts] at outdated
    | cons attempt earlier =>
      refine ⟨attempt, earlier, rfl, ?_⟩
      obtain same | ⟨node, hnode, newer⟩ := current attempt (by rw [hattempts]; rfl)
      · exact same
      · -- what is newer than the stamp would have been loaded again
        have hold : ¬attempt.world.clock < node.modified := by
          simpa [hattempts, FileSystem.isNewer, FileSystem.moment?, FileSystem.modified?_eq, hnode]
            using outdated
        exact absurd (newer attempt (by simp [hattempts])) hold

/-- A refresh leaves the database as it found it. -/
theorem node?_refreshed (history : History σ) :
    history.refreshed.world.files.node? history.world.host history.session.database =
      history.world.files.node? history.world.host history.session.database := by
  obtain h | h := history.session.refresh_world history.world
  · rw [refreshed, h]
  · rw [refreshed, h, Session.node?_load]

end History

end ArtifactLens
