import ArtifactLens.External
import ArtifactLens.Proofs.Session.Failures

/-!
# Lookups that follow each other

Every lookup looks at the database first and may load it again. What one lookup answers stays true
for the next all the same, while nothing changes but the artifact that is built: a source that has
an artifact has it still (`History.Known`). If the database was not loaded again, then it will not
be the next time. If it was, then it could be read and the output directory is there by now, so the
next load reads the same commands and registers them in the same way.

Builds cannot stand in the way of this: an artifact lies right in the output directory, and is not
named like the database (`Settings.locate_database_ne`).
-/

namespace ArtifactLens

variable {σ : Type}

/-! ### Where artifacts do not lie -/

namespace Settings

variable {host : Host} {settings : Settings} {places : Places}

theorem isName_databaseName : IsName databaseName := by decide

/-- A database lies in a directory, under the name of databases. -/
theorem names_absolute_database (h : settings.places host = .ok places) :
    ∃ above, FileSystem.locate host places.database =
      above ++ [⟨databaseName, isName_databaseName⟩] := by
  rw [Settings.places] at h
  split at h
  · cases h
  · split at h
    · obtain rfl := Except.ok.inj h
      rename_i databaseDir outputDir _ _
      refine ⟨(host.absolute databaseDir).names, ?_⟩
      rw [FileSystem.locate, Path.ofText_of_isName isName_databaseName]
      exact host.names_absolute_concat databaseDir (by decide)
    · cases h
    · cases h

/-- No artifact is named like a database. -/
theorem databaseName_ne (registry : Registry) (source : Path) (kind : Kind) :
    databaseName ≠ registry.flatName host source ++ kind.extension source := by
  intro h
  have extension := registry.dropWhile_artifact host source kind
  rw [← h] at extension
  cases kind <;> simp [Kind.extension, databaseName] at extension

/-- No artifact lies where the database does. -/
theorem locate_database_ne (h : settings.places host = .ok places) (source : Path) (kind : Kind) :
    FileSystem.locate host places.database ≠
      FileSystem.locate host (places.artifactPath host source kind) := by
  obtain ⟨above, hdatabase⟩ := names_absolute_database h
  intro same
  have hartifact := Registry.names_absolute_artifact host (.empty places.root places.outputDir)
    source kind
  rw [hdatabase, FileSystem.locate, Places.artifactPath, hartifact] at same
  have last := congrArg (fun names => names.getLast?.map Name.text) same
  simp only [List.getLast?_concat, Option.map_some, Option.some.injEq] at last
  exact databaseName_ne _ source kind last

/-- No artifact lies where the output directory does. -/
theorem locate_outputDir_ne (host : Host) (places : Places) (source : Path) (kind : Kind) :
    FileSystem.locate host places.outputDir ≠
      FileSystem.locate host (places.artifactPath host source kind) := by
  intro same
  have hartifact := Registry.names_absolute_artifact host (.empty places.root places.outputDir)
    source kind
  rw [FileSystem.locate, FileSystem.locate, Places.artifactPath, hartifact] at same
  have hlength := congrArg List.length same
  rw [List.length_append, List.length_singleton] at hlength
  exact Nat.ne_of_lt (Nat.lt_succ_self _) hlength

end Settings

/-! ### Sessions on their own -/

/-- The session mirrors the last of some attempts to load the database. -/
def Session.Mirrors (places : Settings.Places) (session : Session) (world : World σ) : Prop :=
  ∃ attempts, (⟨session, world, attempts⟩ : History σ).Mirror places

namespace Session.Mirrors

variable {tools : Toolchain σ} {places : Settings.Places} {session : Session} {world : World σ}

theorem start (places : Settings.Places) (world : World σ) : (start places).Mirrors places world :=
  ⟨[], .start places world⟩

theorem perform (h : session.Mirrors places world) (op : Session.Op) :
    (op.perform tools session world).1.Mirrors places (op.perform tools session world).2 := by
  obtain ⟨attempts, mirror⟩ := h
  exact ⟨_, @History.Mirror.act _ tools _ _ mirror op⟩

theorem refreshed (h : session.Mirrors places world) :
    (session.refresh world).2.1.Mirrors places (session.refresh world).2.2 := by
  obtain ⟨attempts, mirror⟩ := h
  exact ⟨_, mirror.refreshed⟩

theorem outside (h : session.Mirrors places world) {other : World σ}
    (host : other.host = world.host) : session.Mirrors places other := by
  obtain ⟨attempts, mirror⟩ := h
  refine ⟨attempts, mirror.database, mirror.clear, ?_, fun attempt hattempt => ?_, mirror.stamp,
    mirror.untried, mirror.shown⟩
  · rw [History.Coherent, host]
    exact mirror.coherent
  · exact (mirror.hosts attempt hattempt).trans host.symm

theorem database (h : session.Mirrors places world) : session.database = places.database :=
  h.elim fun _ mirror => mirror.database

theorem clear (h : session.Mirrors places world) :
    session.registry.clear = .empty places.root places.outputDir :=
  h.elim fun _ mirror => mirror.clear

theorem outputDir (h : session.Mirrors places world) : session.outputDir = places.outputDir :=
  congrArg Registry.outputDir h.clear

theorem coherent (h : session.Mirrors places world) : session.registry.Coherent world.host :=
  h.elim fun _ mirror => mirror.coherent

end Session.Mirrors

/-! ### What is found is found again -/

/-- What can be read is loaded if the output directory is there; nothing else changes. -/
theorem Session.refresh_of_directory {session : Session} {world : World σ}
    {commands : List CompileCommand} (outdated : session.isOutdated world = true)
    (read : Database.commands world.host world.files session.database = .ok commands)
    (directory : world.files.isDirectory world.host session.outputDir = true) :
    session.refresh world =
      (.ok (), (session.stamped world).withCommands world.host commands, world) := by
  have there := FileSystem.makeDirectory_of_isDirectory directory
  have hloaded := session.loaded world
  rw [refresh, if_pos outdated]
  generalize session.load world = step at hloaded
  cases hloaded with
  | unread failure failed => cases read.symm.trans failed
  | blocked found fault again made => cases there.symm.trans made
  | loaded found files again made =>
    cases read.symm.trans again
    cases there.symm.trans made
    rfl

namespace History

/-- Loading the database again would give a source an artifact, and leave the files alone. -/
def Gives (places : Settings.Places) (source : Path) (kind : Kind) (artifact : Path)
    (history : History σ) : Prop :=
  (∃ commands,
    Database.commands history.world.host history.world.files places.database = .ok commands ∧
    ((Registry.empty places.root places.outputDir).registerAll history.world.host
      commands).artifactFor source kind = some artifact) ∧
  history.world.files.isDirectory history.world.host places.outputDir = true

/-- A source has an artifact, and will have it after the next refresh. -/
structure Known (places : Settings.Places) (source : Path) (kind : Kind) (artifact : Path)
    (history : History σ) : Prop where
  mirror : history.session.Mirrors places history.world
  found : history.session.registry.artifactFor source kind = some artifact
  again : history.session.isOutdated history.world = true →
    history.Gives places source kind artifact

variable {places : Settings.Places} {source : Path} {kind : Kind} {artifact : Path}

/-- What loading the database gives depends on what stands in the place of the database and of the
output directory. -/
theorem Gives.congr {history next : History σ} (h : history.Gives places source kind artifact)
    (host : next.world.host = history.world.host)
    (untouched : history.Untouched [places.database, places.outputDir] next) :
    next.Gives places source kind artifact := by
  obtain ⟨⟨commands, read, listed⟩, directory⟩ := h
  have content := untouched places.database (by simp)
  have place := untouched places.outputDir (by simp)
  rw [host] at content place
  rw [Gives, host, FileSystem.isDirectory_congr place]
  exact ⟨⟨commands, Database.commands_congr (FileSystem.content?_congr content.symm) read, listed⟩,
    directory⟩

/-- What a lookup has answered is known from then on. -/
theorem known_of_artifactFor {history : History σ}
    (mirror : history.session.Mirrors places history.world)
    (answer : (history.session.artifactFor source kind history.world).1 = .ok (some artifact)) :
    history.refreshed.Known places source kind artifact := by
  have mirrored := mirror.refreshed
  have hrefreshed := history.session.refreshed history.world
  rw [Session.artifactFor, Session.query] at answer
  rw [refreshed]
  generalize history.session.refresh history.world = step at hrefreshed answer mirrored ⊢
  cases hrefreshed with
  | current fresh =>
    refine ⟨mirrored, Except.ok.inj answer, fun outdated => ?_⟩
    cases fresh.symm.trans outdated
  | reloaded outdated count load =>
    have hnode := history.session.node?_load history.world
    have hloaded := history.session.loaded history.world
    rw [mirror.database] at hnode
    generalize history.session.load history.world = step
      at hloaded load answer mirrored hnode ⊢
    cases hloaded with
    | unread | blocked => cases load
    | loaded commands files read made =>
      have found := Except.ok.inj answer
      refine ⟨mirrored, found, fun _ => ⟨⟨commands, ?_, ?_⟩, ?_⟩⟩
      · rw [mirror.database] at read
        exact Database.commands_congr (FileSystem.content?_congr hnode.symm) read
      · rw [← mirror.clear]
        exact found
      · exact mirror.outputDir ▸ FileSystem.isDirectory_makeDirectory made
  | survived => cases kind <;> cases Except.ok.inj answer
  | broken => cases answer

namespace Known

variable {tools : Toolchain σ} {history next : History σ}

/-- A refresh succeeds and changes nothing outside. -/
theorem refresh_eq (h : history.Known places source kind artifact) :
    history.session.refresh history.world =
      (.ok (), history.refreshed.session, history.world) := by
  by_cases outdated : history.session.isOutdated history.world = true
  · obtain ⟨⟨commands, read, -⟩, directory⟩ := h.again outdated
    rw [← h.mirror.database] at read
    rw [← h.mirror.outputDir] at directory
    rw [refreshed, Session.refresh_of_directory outdated read directory]
  · have current := Bool.eq_false_iff.mpr outdated
    rw [refreshed_of_current current, Session.refresh_of_current current]

theorem world_refreshed (h : history.Known places source kind artifact) :
    history.refreshed.world = history.world := by
  rw [refreshed, h.refresh_eq]

theorem refreshed (h : history.Known places source kind artifact) :
    history.refreshed.Known places source kind artifact := by
  by_cases outdated : history.session.isOutdated history.world = true
  · have gives := h.again outdated
    refine ⟨h.mirror.refreshed, ?_, fun _ => ?_⟩
    · obtain ⟨⟨commands, read, listed⟩, directory⟩ := gives
      rw [← h.mirror.database] at read
      rw [← h.mirror.outputDir] at directory
      rw [History.refreshed, Session.refresh_of_directory outdated read directory]
      rw [← h.mirror.clear] at listed
      exact listed
    · rw [Gives, h.world_refreshed]
      exact gives
  · rw [refreshed_of_current (Bool.eq_false_iff.mpr outdated)]
    exact h

/-- What stays known while the registry has the artifact and the database is not loaded. -/
theorem congr (h : history.Known places source kind artifact)
    (mirror : next.session.Mirrors places next.world)
    (found : next.session.registry.artifactFor source kind = some artifact)
    (stamp : next.session.loadedAt = history.session.loadedAt)
    (host : next.world.host = history.world.host)
    (untouched : history.Untouched [places.database, places.outputDir] next) :
    next.Known places source kind artifact where
  mirror := mirror
  found := found
  again outdated := by
    have same := untouched.isOutdated (mirror.database.trans h.mirror.database.symm) stamp
      (by simp [h.mirror.database])
    exact (h.again (same ▸ outdated)).congr host untouched

theorem act (h : history.Known places source kind artifact) {op : Session.Op}
    (allowed : op ≠ .load)
    (untouched : history.Untouched [places.database, places.outputDir] (history.act tools op)) :
    (history.act tools op).Known places source kind artifact := by
  have mirror : (history.act tools op).session.Mirrors places (history.act tools op).world :=
    h.mirror.perform op
  have hacted := history.acted tools op
  generalize history.act tools op = next at hacted untouched mirror ⊢
  cases hacted with
  | loaded => exact absurd rfl allowed
  | refreshed => exact h.refreshed
  | withExtraArgs => exact h.congr mirror h.found rfl rfl untouched
  | executed other record found =>
    refine h.refreshed.congr mirror ?_ rfl (Toolchain.host_execute ..) ?_
    · rw [executed, Registry.artifactFor, Registry.artifacts_update]
      exact h.refreshed.found
    · intro path hpath
      rw [untouched path hpath, h.world_refreshed]

theorem step (h : history.Known places source kind artifact) {notes later : List Note}
    (step : Chronicle.Step tools (· ≠ .load) ⟨history, notes⟩ ⟨next, later⟩)
    (untouched : history.Untouched [places.database, places.outputDir] next) :
    next.Known places source kind artifact := by
  generalize hlast : (⟨next, later⟩ : Chronicle σ) = last at step
  cases step with
  | act op allowed =>
    cases hlast
    exact h.act allowed untouched
  | outside world host trace =>
    cases hlast
    exact h.congr (h.mirror.outside host) h.found rfl host untouched

/-- What is known is named after its source and kind. -/
theorem artifact_eq (h : history.Known places source kind artifact) :
    artifact = places.artifactPath history.world.host source kind := by
  rw [Settings.Places.artifactPath, ← h.mirror.clear, Registry.artifactPath_clear]
  exact (h.mirror.coherent.mapped source kind artifact h.found).1

end Known

/-! ### While nothing but the artifact changes -/

/-- Nothing changes but what stands in the place of an artifact. -/
def UntouchedBut (artifact : Path) (history next : History σ) : Prop :=
  ∀ path,
    FileSystem.locate history.world.host path ≠ FileSystem.locate history.world.host artifact →
      next.world.files.node? next.world.host path =
        history.world.files.node? history.world.host path

variable {tools : Toolchain σ} {settings : Settings} {first : History σ}

/-- Neither the database nor the output directory is in the place of an artifact. -/
theorem Known.untouched {history next : History σ}
    (h : history.Known places source kind artifact)
    (hplaces : settings.places history.world.host = .ok places)
    (but : history.UntouchedBut artifact next) :
    history.Untouched [places.database, places.outputDir] next := by
  rw [h.artifact_eq] at but
  intro path hpath
  obtain rfl | hpath := List.mem_cons.mp hpath
  · exact but _ (Settings.locate_database_ne hplaces source kind)
  · rw [List.mem_singleton.mp hpath]
    exact but _ (Settings.locate_outputDir_ne _ places source kind)

/-- While nothing but its artifact changes, a source stays known. -/
theorem Known.of_run (h : first.Known places source kind artifact)
    (hplaces : settings.places first.world.host = .ok places) {notes : List Note}
    {later : Chronicle σ}
    (run : Chronicle.Run tools (· ≠ .load) (UntouchedBut artifact) ⟨first, notes⟩ later) :
    later.history.Known places source kind artifact := by
  have kept : later.history.Known places source kind artifact ∧
      later.history.world.host = first.world.host := by
    induction run with
    | refl => exact ⟨h, rfl⟩
    | @tail earlier next _ step ih =>
      obtain ⟨known, host⟩ := ih
      obtain ⟨step, but⟩ := step
      exact ⟨known.step step (known.untouched (host ▸ hplaces) but),
        step.history.host.trans host⟩
  exact kept.1

end History

/-! ### Tools that look nothing up -/

/-- No tool gives up with a failed lookup. -/
structure Toolchain.NoLookups (tools : Toolchain σ) : Prop where
  run : ∀ command directory files state failure,
    (tools.run command directory files state).1 = .error failure → failure.category ≠ .lookup
  demangle : ∀ artifact files failure,
    (tools.demangle artifact files).1 = .error failure → failure.category ≠ .lookup

namespace Course

variable {course : Course} {failure : Failure}

theorem category_of_text {output : Octets} (h : text output = .error failure) :
    failure.category ≠ .lookup := by
  rw [text] at h
  split at h
  · cases h
  · obtain rfl := Except.error.inj h
    exact nofun

theorem category_of_outcome {limit : String} (h : course.outcome limit = .error failure) :
    failure.category ≠ .lookup := by
  cases course with
  | refused => cases h
  | finished exitCode stdout stderr | expired stdout stderr =>
    rw [outcome] at h
    split at h
    · cases h
    · obtain rfl := Except.error.inj h
      exact category_of_text ‹_›
    · obtain rfl := Except.error.inj h
      exact category_of_text ‹_›

theorem category_of_filtered (h : course.filtered = .error failure) :
    failure.category ≠ .lookup := by
  cases course with
  | refused fault =>
    cases fault with
    | nullCharacter =>
      obtain rfl := Except.error.inj h
      exact nofun
    | system => cases h
  | finished exitCode stdout stderr =>
    rw [filtered] at h
    split at h
    · cases h
    · obtain rfl := Except.error.inj h
      exact category_of_text ‹_›
    · obtain rfl := Except.error.inj h
      exact category_of_text ‹_›
  | expired => cases h

end Course

/-- Programs from outside look nothing up: they give up for what they write, or for what they
cannot be handed. -/
theorem External.noLookups (programs : External σ) (host : Host) :
    (programs.toolchain host).NoLookups where
  run _ _ _ _ _ failed := Course.category_of_outcome failed
  demangle artifact files failure failed := by
    change (programs.demangle host artifact files).1 = .error failure at failed
    rw [demangle] at failed
    split at failed
    · cases failed
    · split at failed
      · obtain rfl := Except.error.inj failed
        exact Course.category_of_filtered ‹_›
      · cases failed
      · cases failed

/-! ### What the lookups answer -/

theorem Toolchain.NoLookups.execute {tools : Toolchain σ} (plain : tools.NoLookups)
    {record : BuildRecord} {extraArgs : List String} {world : World σ} {failure : Failure}
    (failed : (tools.execute record extraArgs world).1 = .error failure) :
    failure.category ≠ .lookup := by
  have hexecuted := tools.executed record extraArgs world
  generalize tools.execute record extraArgs world = step at hexecuted failed
  cases hexecuted with
  | abandoned met files state run =>
    obtain rfl := Except.error.inj failed
    exact plain.run _ _ _ _ met (by rw [run])
  | undemangled outcome files state met later run code demangle =>
    obtain rfl := Except.error.inj failed
    exact plain.demangle _ _ met (by rw [demangle])
  | failed | built => cases failed

/-- The lookups of a session agree on an artifact, and it can be compiled. -/
structure Session.Agrees (tools : Toolchain σ) (source : Path) (kind : Kind) (artifact : Path)
    (session : Session) (world : World σ) : Prop where
  artifactFor : (session.artifactFor source kind world).1 = .ok (some artifact)
  sourceFor : (session.sourceFor artifact world).1 = .ok (some source)
  recordFor : ∃ record, (session.recordFor artifact world).1 = .ok (some record) ∧
    record.artifact = artifact ∧ record.source = source ∧ record.kind = kind
  compile : ∀ failure, (session.compile tools artifact world).1 = .error failure →
    failure.category ≠ .lookup

/-- **The lookups agree on what is known.** -/
theorem History.Known.agrees {tools : Toolchain σ} (plain : tools.NoLookups)
    {places : Settings.Places} {source : Path} {kind : Kind} {artifact : Path}
    {history : History σ} (h : history.Known places source kind artifact) :
    history.session.Agrees tools source kind artifact history.world := by
  have refresh := h.refresh_eq
  have found := h.refreshed.found
  obtain ⟨-, record, recorded, hartifact, hsource, hkind⟩ :=
    h.refreshed.mirror.coherent.mapped source kind artifact found
  refine ⟨?_, ?_, ⟨record, ?_, hartifact, hsource, hkind⟩, fun failure failed => ?_⟩
  · rw [Session.artifactFor, Session.query_of_refresh _ refresh, found]
  · rw [Session.sourceFor, Session.query_of_refresh _ refresh, Registry.sourceFor, recorded,
      Option.map_some, hsource]
  · rw [Session.recordFor, Session.query_of_refresh _ refresh, recorded]
  · have hcompiled := history.session.compiled tools artifact history.world
    generalize history.session.compile tools artifact history.world = step at hcompiled failed
    cases hcompiled with
    | broken met later after broken => cases refresh.symm.trans broken
    | unknown later after again unknown =>
      cases refresh.symm.trans again
      cases recorded.symm.trans unknown
    | upToDate => cases failed
    | executed => exact plain.execute failed

end ArtifactLens
