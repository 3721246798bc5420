import ArtifactLens.Proofs.Session.Builds

/-!
# Soundness of the build cache

An artifact on disk answers for the extra arguments and the command that it was last built with.
This file says when a successful compilation may rely on it, provided that artifacts are written by
builds only (`History.Written`) and the demangler does not give up:

* **Since the last load**, always: what was built recently was last built with the command of the
  current record and the extra arguments in effect.
* **Before the last load**, the session forgets the arguments of builds. Such an artifact is only
  taken for up to date if no extra arguments are in effect and neither its source nor the database
  is newer (`History.compile_sound`); it may have been built with other arguments, and by an older
  command if the database was written back in time (`History.compile_forgets`).
* **If the database is never written back in time** (`History.Orderly`), the command of the last
  build was that of the current record, whatever the arguments.
-/

namespace ArtifactLens

variable {σ : Type}

/-! ### Artifacts that need no build -/

/-- A file that another is found not newer than is there. -/
theorem FileSystem.modified?_of_not_newer {host : Host} {fs : FileSystem} {path reference : Path}
    (h : fs.isNewer host path (.file reference) = false) :
    ∃ modified, fs.modified? host reference = some modified := by
  rw [isNewer, moment?] at h
  cases hmodified : fs.modified? host reference with
  | none => simp [hmodified] at h
  | some modified => exact ⟨modified, rfl⟩

theorem FileSystem.not_newer {host : Host} {fs : FileSystem} {path reference : Path} {node : Node}
    {modified : Instant} (h : fs.isNewer host path (.file reference) = false)
    (hnode : fs.node? host path = some node)
    (hmodified : fs.modified? host reference = some modified) : ¬modified < node.modified := by
  simpa [isNewer, moment?, hmodified, modified?_eq path, hnode] using h

/-- What an artifact that needs no build owes its record. -/
theorem BuildRecord.of_needsBuild_eq_false {host : Host} {fs : FileSystem}
    {record : BuildRecord} {extraArgs : List String} {database : Path}
    (h : record.needsBuild host fs extraArgs database = false) :
    extraArgs = record.lastExtraArgs ∧
      fs.isNewer host record.source (.file record.artifact) = false ∧
      fs.isNewer host database (.file record.artifact) = false := by
  rw [BuildRecord.needsBuild] at h
  split_ifs at h with hargs hsource
  exact ⟨not_not.mp hargs, Bool.or_eq_false_iff.mp h⟩

/-! ### The names of artifacts -/

/-- Where the artifact of a source goes. -/
def Settings.Places.artifactPath (places : Settings.Places) (host : Host) (source : Path)
    (kind : Kind) : Path :=
  (Registry.empty places.root places.outputDir).artifactPath host source kind

theorem Registry.artifactPath_clear (registry : Registry) (host : Host) (source : Path)
    (kind : Kind) :
    registry.clear.artifactPath host source kind = registry.artifactPath host source kind := by
  rw [artifactPath, artifactPath, clear, empty]

/-- Records look the same without what they remember of builds. -/
theorem Registry.recordFor_withoutArgs_eq_some_iff {registry : Registry} {artifact : Path}
    {record : BuildRecord} :
    registry.withoutArgs.recordFor artifact = some record ↔
      ∃ found, registry.recordFor artifact = some found ∧
        { found with lastExtraArgs := [] } = record := by
  rw [recordFor, recordFor, withoutArgs, Table.get?_view, Option.map_eq_some_iff]

namespace History

/-- What has a record is named as an artifact. -/
theorem Mirror.artifact_eq {places : Settings.Places} {history : History σ}
    (h : history.Mirror places) {artifact : Path} {record : BuildRecord}
    (found : history.session.registry.recordFor artifact = some record) :
    artifact = places.artifactPath history.world.host record.source record.kind := by
  rw [Settings.Places.artifactPath, ← h.clear, Registry.artifactPath_clear]
  exact (Registry.Coherent.named h.coherent) _ _ _ (Registry.Coherent.recorded h.coherent _ _ found)

/-- The last recent build is the last build. -/
theorem lastBuild?_of_recent {history : History σ} {artifact : Path} {command : String}
    (h : lastBuild? artifact history.recentBuilds = some command) :
    lastBuild? artifact history.world.builds = some command := by
  obtain ⟨earlier, hbuilds⟩ : ∃ earlier,
      history.world.builds = earlier ++ history.recentBuilds := by
    rw [recentBuilds]
    cases history.attempts.head? with
    | none => exact ⟨[], rfl⟩
    | some attempt => exact ⟨_, (List.take_append_drop ..).symm⟩
  rw [hbuilds, lastBuild?_append, h, Option.some_or]

/-! ### Artifacts on disk -/

/-- Artifacts are written by builds only. -/
def Written (places : Settings.Places) (history next : History σ) : Prop :=
  ∀ source kind,
    let artifact := places.artifactPath history.world.host source kind
    next.world.files.modified? history.world.host artifact = none ∨
    next.world.files.modified? history.world.host artifact =
      history.world.files.modified? history.world.host artifact ∨
    ∃ command, next.world.builds = history.world.builds ++ [(artifact, command)]

/-- What is on disk of an artifact was built. -/
def Accounted (places : Settings.Places) (history : History σ) : Prop :=
  ∀ source kind modified,
    let artifact := places.artifactPath history.world.host source kind
    history.world.files.modified? history.world.host artifact = some modified →
      ∃ command, lastBuild? artifact history.world.builds = some command

/-- A step builds one artifact at most, and what it builds has a record after the refresh. -/
theorem builds_step {tools : Toolchain σ} (demangles : tools.Demangles) {history next : History σ}
    (step : Step tools history next) : next.world.builds = history.world.builds ∨
      ∃ artifact record extraArgs,
        history.refreshed.session.registry.recordFor artifact = some record ∧
        next.world.builds =
          history.world.builds ++ [(record.artifact, record.commandWith extraArgs)] := by
  cases step with
  | outside world host trace => exact .inl (congrArg buildsIn trace)
  | act op =>
    have hacted := history.acted tools op
    generalize history.act tools op = next at hacted
    cases hacted with
    | loaded => exact .inl history.builds_loaded
    | refreshed => exact .inl history.builds_refreshed
    | withExtraArgs => exact .inl rfl
    | executed artifact record found =>
      have hadded := Toolchain.added demangles record history.refreshed.session.extraArgs
        history.refreshed.world
      unfold executed
      generalize tools.execute record history.refreshed.session.extraArgs
        history.refreshed.world = step at hadded
      cases hadded with
      | nothing answer after unsuccessful builds =>
        exact .inl (builds.trans history.builds_refreshed)
      | build answer after trace builds =>
        rw [history.builds_refreshed] at builds
        exact .inr ⟨artifact, record, _, found, builds⟩

/-- Builds are only ever added. -/
theorem builds_grow {tools : Toolchain σ} (demangles : tools.Demangles) {history next : History σ}
    (step : Step tools history next) :
    ∃ added, next.world.builds = history.world.builds ++ added := by
  obtain hbuilds | ⟨artifact, record, extraArgs, -, hbuilds⟩ := builds_step demangles step
  · exact ⟨[], hbuilds.trans (List.append_nil _).symm⟩
  · exact ⟨_, hbuilds⟩

theorem Accounted.step {tools : Toolchain σ} (demangles : tools.Demangles)
    {places : Settings.Places} {history next : History σ} (h : history.Accounted places)
    (step : Step tools history next) (written : history.Written places next) :
    next.Accounted places := by
  rw [Accounted, step.host]
  intro source kind modified artifact hmodified
  obtain hnone | hsame | ⟨command, hbuilds⟩ := written source kind
  · rw [hnone] at hmodified
    cases hmodified
  · rw [hsame] at hmodified
    obtain ⟨command, hlast⟩ := h source kind modified hmodified
    obtain ⟨added, hbuilds⟩ := builds_grow demangles step
    rw [hbuilds, lastBuild?_append, hlast]
    cases lastBuild? _ added with
    | none => exact ⟨command, rfl⟩
    | some later => exact ⟨later, rfl⟩
  · refine ⟨command, ?_⟩
    rw [hbuilds, lastBuild?_append, lastBuild?_singleton, if_pos rfl, Option.some_or]

theorem Run.accounted {tools : Toolchain σ} (demangles : tools.Demangles)
    {places : Settings.Places} {world : World σ}
    (bare : ∀ source kind,
      world.files.modified? world.host (places.artifactPath world.host source kind) = none)
    {history : History σ} (run : Run tools (Written places) (start places world) history) :
    history.Accounted places := by
  induction run with
  | refl =>
    intro source kind modified artifact hmodified
    cases (bare source kind).symm.trans hmodified
  | tail _ step ih => exact ih.step demangles step.1 step.2

/-! ### Databases that are not written back in time -/

/-- The database is left alone, or it is written with a modification time after the stamps of all
attempts to load it and those of all artifacts. -/
def Orderly (places : Settings.Places) (history next : History σ) : Prop :=
  next.world.files.node? next.world.host places.database =
      history.world.files.node? history.world.host places.database ∨
    ∃ node, next.world.files.node? next.world.host places.database = some node ∧
      (∀ attempt ∈ next.attempts, attempt.world.clock < node.modified) ∧
      ∀ source kind modified,
        next.world.files.modified? next.world.host
          (places.artifactPath next.world.host source kind) = some modified →
        modified < node.modified

theorem Orderly.forward {places : Settings.Places} {history next : History σ}
    (h : history.Orderly places next) : history.Forward places next :=
  h.imp_right fun ⟨node, hnode, stamps, _⟩ => ⟨node, hnode, stamps⟩

/-- The last build of an artifact ran the command that the database has for it. -/
def BuiltAsListed (places : Settings.Places) (history : History σ) (artifact : Path) : Prop :=
  ∃ commands record extraArgs,
    Database.commands history.world.host history.world.files places.database = .ok commands ∧
    ((Registry.empty places.root places.outputDir).registerAll history.world.host
      commands).recordFor artifact = some record ∧
    lastBuild? artifact history.world.builds = some (record.commandWith extraArgs)

/-- What is on disk of an artifact is older than the database, or was last built by the command
that the database has for it. -/
def Matched (places : Settings.Places) (history : History σ) : Prop :=
  ∀ source kind modified,
    let artifact := places.artifactPath history.world.host source kind
    history.world.files.modified? history.world.host artifact = some modified →
      (∃ node, history.world.files.node? history.world.host places.database = some node ∧
        modified < node.modified) ∨
      history.BuiltAsListed places artifact

/-- What has a record after a refresh has one with the same command in the database. -/
theorem Mirror.found_refreshed {places : Settings.Places} {history : History σ}
    (mirror : history.Mirror places) (current : history.Current places) {artifact : Path}
    {record : BuildRecord}
    (found : history.refreshed.session.registry.recordFor artifact = some record) :
    ∃ commands registered,
      Database.commands history.world.host history.world.files places.database = .ok commands ∧
      ((Registry.empty places.root places.outputDir).registerAll history.world.host
        commands).recordFor artifact = some registered ∧
      registered.command = record.command := by
  obtain ⟨attempt, earlier, hattempts, hnode⟩ := mirror.attempts_refreshed current
  have hhost : attempt.world.host = history.world.host :=
    (mirror.refreshed.hosts attempt (by rw [hattempts]; exact List.mem_cons_self)).trans
      (Session.host_refresh ..)
  have hshown := mirror.refreshed.shown attempt (by rw [hattempts]; rfl)
  rw [Attempt.Shown, hhost] at hshown
  obtain ⟨commands, hread, hregistry⟩ | ⟨hempty, -⟩ := hshown
  · have hfound := Registry.recordFor_withoutArgs_eq_some_iff.mpr ⟨record, found, rfl⟩
    rw [hregistry, Registry.recordFor_withoutArgs_eq_some_iff] at hfound
    obtain ⟨registered, hregistered, hsame⟩ := hfound
    have hcommand := congrArg BuildRecord.command hsame
    exact ⟨commands, registered, Database.commands_congr (FileSystem.content?_congr hnode) hread,
      hregistered, hcommand⟩
  · rw [hempty] at found
    cases found

private theorem commandWith_congr {record other : BuildRecord} (h : record.command = other.command)
    (extraArgs : List String) : record.commandWith extraArgs = other.commandWith extraArgs := by
  rw [BuildRecord.commandWith, h, ← BuildRecord.commandWith]

/-- What a step builds has its command in the database that the step found. -/
private theorem builtAsListed_of_built {tools : Toolchain σ} (demangles : tools.Demangles)
    {places : Settings.Places} {history next : History σ} (mirror : history.Mirror places)
    (current : history.Current places) (step : Step tools history next)
    (same : next.world.files.content? history.world.host places.database =
      history.world.files.content? history.world.host places.database)
    {artifact : Path} {command : String}
    (built : next.world.builds = history.world.builds ++ [(artifact, command)]) :
    next.BuiltAsListed places artifact := by
  obtain hnothing | ⟨other, record, extraArgs, found, hbuilds⟩ := builds_step demangles step
  · rw [hnothing] at built
    exact absurd (congrArg List.length built) (by simp)
  · have hlast := List.append_cancel_left (built.symm.trans hbuilds)
    obtain ⟨rfl, rfl⟩ := Prod.mk.inj (List.singleton_injective hlast)
    have hother : record.artifact = other :=
      Registry.Coherent.artifact_eq mirror.refreshed.coherent found
    obtain ⟨commands, registered, hread, hregistered, hcommand⟩ :=
      mirror.found_refreshed current (hother ▸ found)
    refine ⟨commands, registered, extraArgs, ?_, ?_, ?_⟩
    · rw [step.host]
      exact Database.commands_congr same.symm hread
    · rw [step.host]
      exact hregistered
    · rw [hbuilds, lastBuild?_append, lastBuild?_singleton, if_pos rfl, Option.some_or,
        commandWith_congr hcommand]

theorem Matched.step {tools : Toolchain σ} (demangles : tools.Demangles)
    {places : Settings.Places} {history next : History σ} (h : history.Matched places)
    (mirror : history.Mirror places) (current : history.Current places)
    (step : Step tools history next) (written : history.Written places next)
    (orderly : history.Orderly places next) : next.Matched places := by
  rw [Orderly, step.host] at orderly
  rw [Matched, step.host]
  intro source kind modified artifact hmodified
  obtain same | ⟨node, hnode, -, newer⟩ := orderly
  · have hcontent := FileSystem.content?_congr same
    by_cases hbuilt : ∃ command, next.world.builds = history.world.builds ++ [(artifact, command)]
    · obtain ⟨command, hbuilt⟩ := hbuilt
      exact .inr (builtAsListed_of_built demangles mirror current step hcontent hbuilt)
    · -- neither the artifact nor its last build changes
      have hlast : lastBuild? artifact next.world.builds =
          lastBuild? artifact history.world.builds := by
        obtain hnothing | ⟨other, record, extraArgs, -, hbuilds⟩ := builds_step demangles step
        · rw [hnothing]
        · have hother : record.artifact ≠ artifact := fun heq => hbuilt ⟨_, heq ▸ hbuilds⟩
          rw [hbuilds, lastBuild?_append, lastBuild?_singleton, if_neg hother, Option.none_or]
      obtain hnone | hunchanged | hwritten := written source kind
      · cases hnone.symm.trans hmodified
      · refine (h source kind modified (hunchanged.symm.trans hmodified)).imp ?_ ?_
        · rw [same]
          exact id
        · rintro ⟨commands, record, extraArgs, hread, hfound, hbuild⟩
          exact ⟨commands, record, extraArgs,
            step.host.symm ▸ Database.commands_congr hcontent.symm hread,
            step.host.symm ▸ hfound, hlast.trans hbuild⟩
      · exact absurd hwritten hbuilt
  · exact .inl ⟨node, hnode, newer source kind modified hmodified⟩

theorem Run.matched {tools : Toolchain σ} (demangles : tools.Demangles)
    {places : Settings.Places} {world : World σ}
    (bare : ∀ source kind,
      world.files.modified? world.host (places.artifactPath world.host source kind) = none)
    {history : History σ}
    (run : Run tools (fun history next => history.Written places next ∧ history.Orderly places next)
      (start places world) history) : history.Matched places := by
  induction run with
  | refl =>
    intro source kind modified artifact hmodified
    cases (bare source kind).symm.trans hmodified
  | tail earlier step ih =>
    have current := Run.current (Run.mono (fun _ _ both => both.2.forward) earlier)
    exact ih.step demangles (Run.mirror earlier) current step.1 step.2.1 step.2.2

end History

/-! ### The small project -/

theorem Session.files_load (session : Session) (world : World σ)
    (h : world.files.isDirectory world.host session.outputDir = true) :
    (session.load world).2.2.files = world.files :=
  match session.load world, session.loaded world with
  | _, .unread .. => rfl
  | _, .blocked .. => rfl
  | _, .loaded _ _ _ made =>
    Except.ok.inj (made.symm.trans (FileSystem.makeDirectory_of_isDirectory h))

/-- A refresh leaves the files as they are if the output directory is there. -/
theorem History.files_refreshed_of_isDirectory {history : History σ}
    (made : history.world.files.isDirectory history.world.host history.session.outputDir = true) :
    history.refreshed.world.files = history.world.files := by
  obtain h | h := history.session.refresh_world history.world
  · rw [refreshed, h]
  · rw [refreshed, h, Session.files_load _ _ made]

namespace Sample

open History

private theorem locate_artifact (source : Path) (kind : Kind) :
    ∃ name, places.artifactPath host source kind = ⟨.root, [⟨"o", by decide⟩, name]⟩ ∧
      FileSystem.locate host (places.artifactPath host source kind) =
        [⟨"o", by decide⟩, name] :=
  ⟨_, Registry.artifactPath_eq .., Registry.names_absolute_artifact ..⟩

theorem modified?_sources (source : Path) (kind : Kind) :
    sources.modified? host (places.artifactPath host source kind) = none := by
  obtain ⟨name, -, hlocate⟩ := locate_artifact source kind
  rw [FileSystem.modified?, FileSystem.inspect, hlocate]
  rfl

theorem modified?_listing (command : String) (modified : Instant) :
    (built command modified).modified? host artifact = some 2000 := by
  rw [FileSystem.modified?, FileSystem.inspect]
  rfl

/-- Only the listing is built. -/
theorem modified?_built (command : String) (modified : Instant) {source : Path} {kind : Kind}
    (h : places.artifactPath host source kind ≠ artifact) :
    (built command modified).modified? host (places.artifactPath host source kind) = none := by
  obtain ⟨name, hname, hlocate⟩ := locate_artifact source kind
  have htext : name.text ≠ "a.s" := by
    intro htext
    refine h (hname.trans ?_)
    obtain ⟨text, isName⟩ := name
    subst htext
    rfl
  rw [FileSystem.modified?, FileSystem.inspect, hlocate]
  have hat : (built command modified).at? [⟨"o", by decide⟩, name] = none := if_neg htext
  cases hwalk : (built command modified).walk [] [⟨"o", by decide⟩, name] with
  | ok node => cases (FileSystem.at?_of_walk hwalk).symm.trans hat
  | error reason => rfl

/-- Building the listing leaves the files of a built project. -/
theorem files_compile {history : History Unit}
    (ran : (history.act tools (.compile artifact)).world.trace ≠ history.world.trace) :
    (history.act tools (.compile artifact)).world.files = built "c" 1000 := by
  obtain ⟨record, -, executed⟩ := executed_of_ran ran
  rw [executed]
  rfl

/-- Building the listing writes the listing only. -/
theorem written_compile {history : History Unit} {command : String}
    (host_eq : history.world.host = host)
    (ran : (history.act tools (.compile artifact)).world.trace ≠ history.world.trace)
    (builds : (history.act tools (.compile artifact)).world.builds =
      history.world.builds ++ [(artifact, command)]) :
    history.Written places (history.act tools (.compile artifact)) := by
  intro source kind
  rw [files_compile ran, host_eq]
  by_cases h : places.artifactPath host source kind = artifact
  · rw [h]
    exact .inr (.inr ⟨command, builds⟩)
  · exact .inl (modified?_built "c" 1000 h)

end Sample

namespace History

/-! ### Successful compilations -/

/-- What was built is the current record with the extra arguments in effect. -/
private theorem lastBuild?_executed {tools : Toolchain σ} (demangles : tools.Demangles)
    {history : History σ} (coherent : history.Coherent) {artifact : Path} {record : BuildRecord}
    (found : history.session.registry.recordFor artifact = some record) {result : BuildResult}
    (answer : (tools.execute record history.session.extraArgs history.world).1 = .ok result)
    (success : result.success = true) :
    let next := history.executed tools record
    ∃ record', next.session.registry.recordFor artifact = some record' ∧
      lastBuild? artifact next.world.builds =
        some (record'.commandWith next.session.extraArgs) := by
  obtain rfl : record.artifact = artifact := Registry.Coherent.artifact_eq coherent found
  have hadded := Toolchain.added demangles record history.session.extraArgs history.world
  unfold executed
  generalize tools.execute record history.session.extraArgs history.world = step at hadded answer
  cases hadded with
  | nothing other after unsuccessful => simp [unsuccessful result answer] at success
  | build other after trace builds =>
    refine ⟨{ record with lastExtraArgs := history.session.extraArgs }, ?_, ?_⟩
    · exact (Registry.recordFor_update { record with lastExtraArgs := history.session.extraArgs }
        found _).trans (if_pos rfl)
    · rw [builds, lastBuild?_append, lastBuild?_singleton, if_pos rfl, Option.some_or]
      rfl

/-- An artifact that needs no build was built by the current record with the extra arguments in
effect, or not recently, and then no extra arguments are in effect. -/
private theorem lastBuild?_upToDate {places : Settings.Places} {history : History σ}
    (mirror : history.Mirror places) (memory : history.Memory)
    (accounted : history.Accounted places) {artifact : Path} {record : BuildRecord}
    (found : history.session.registry.recordFor artifact = some record)
    (fresh : record.needsBuild history.world.host history.world.files history.session.extraArgs
      history.session.database = false) :
    ∃ command, lastBuild? artifact history.world.builds = some command ∧
      (command = record.commandWith history.session.extraArgs ∨
        lastBuild? artifact history.recentBuilds = none ∧ history.session.extraArgs = []) := by
  obtain ⟨hargs, hsource, -⟩ := BuildRecord.of_needsBuild_eq_false fresh
  obtain ⟨modified, hmodified⟩ := FileSystem.modified?_of_not_newer hsource
  rw [Registry.Coherent.artifact_eq mirror.coherent found, mirror.artifact_eq found] at hmodified
  obtain ⟨command, hlast⟩ := accounted _ _ _ hmodified
  rw [← mirror.artifact_eq found] at hlast
  refine ⟨command, hlast, ?_⟩
  have hremembers := memory.remembered artifact record found
  cases hrecent : lastBuild? artifact history.recentBuilds with
  | some recent =>
    rw [hrecent] at hremembers
    rw [lastBuild?_of_recent hrecent, Option.some.injEq] at hlast
    exact .inl (hlast.symm.trans (hremembers.trans (by rw [hargs])))
  | none =>
    rw [hrecent] at hremembers
    exact .inr ⟨rfl, hargs.trans hremembers⟩

/-- An artifact that needs no build was built by the command of the current record, if the database
was never written back in time. -/
private theorem command_upToDate {places : Settings.Places} {history : History σ}
    (mirror : history.Mirror places) (current : history.Current places)
    (matched : history.refreshed.Matched places) {artifact : Path} {record : BuildRecord}
    (found : history.refreshed.session.registry.recordFor artifact = some record)
    (fresh : record.needsBuild history.refreshed.world.host history.refreshed.world.files
      history.refreshed.session.extraArgs history.refreshed.session.database = false)
    {command : String} (hlast : lastBuild? artifact history.refreshed.world.builds = some command) :
    ∃ extraArgs, command = record.commandWith extraArgs := by
  obtain ⟨-, -, hdatabase⟩ := BuildRecord.of_needsBuild_eq_false fresh
  rw [mirror.refreshed.database, Registry.Coherent.artifact_eq mirror.refreshed.coherent found]
    at hdatabase
  obtain ⟨modified, hmodified⟩ := FileSystem.modified?_of_not_newer hdatabase
  have hname := mirror.refreshed.artifact_eq found
  have hcontent : history.refreshed.world.files.content? history.world.host places.database =
      history.world.files.content? history.world.host places.database :=
    FileSystem.content?_congr (mirror.database ▸ history.node?_refreshed)
  obtain ⟨node, hnode, hnewer⟩ | ⟨commands, listed, extraArgs, hread, hlisted, hbuilt⟩ :=
    matched record.source record.kind modified (hname ▸ hmodified)
  · exact absurd hnewer (FileSystem.not_newer hdatabase hnode hmodified)
  · rw [← hname] at hlisted hbuilt
    rw [history.host_refreshed] at hread hlisted
    obtain ⟨commands', registered, hread', hregistered, hcommand⟩ :=
      mirror.found_refreshed current found
    rw [Database.commands_congr hcontent hread, Except.ok.injEq] at hread'
    rw [← hread', hlisted, Option.some.injEq] at hregistered
    rw [hlast, Option.some.injEq] at hbuilt
    exact ⟨extraArgs, hbuilt.trans (commandWith_congr (hregistered ▸ hcommand) extraArgs)⟩

/-- **A successful compilation answers with what the current command built.** -/
theorem compile_sound {tools : Toolchain σ} (demangles : tools.Demangles)
    {places : Settings.Places} {world : World σ}
    (bare : ∀ source kind,
      world.files.modified? world.host (places.artifactPath world.host source kind) = none)
    {history : History σ} (run : Run tools (Written places) (start places world) history)
    {artifact : Path} {result : BuildResult}
    (written : history.Written places (history.act tools (.compile artifact)))
    (answer : (history.session.compile tools artifact history.world).1 = .ok result)
    (success : result.success = true) :
    let next := history.act tools (.compile artifact)
    ∃ record command, next.session.registry.recordFor artifact = some record ∧
      lastBuild? artifact next.world.builds = some command ∧
      (command = record.commandWith next.session.extraArgs ∨
        result = .upToDate ∧ lastBuild? artifact next.recentBuilds = none ∧
          next.session.extraArgs = [] ∧
          next.world.files.isNewer next.world.host record.source (.file artifact) = false ∧
          next.world.files.isNewer next.world.host places.database (.file artifact) = false) ∧
      (Run tools (fun history next => history.Written places next ∧ history.Orderly places next)
          (start places world) history →
        history.Orderly places next → ∃ extraArgs, command = record.commandWith extraArgs) := by
  intro next
  change history.Written places next at written
  have step : Step tools history next := .act _
  have mirror : next.Mirror places := (Run.mirror run).step step
  have memory : next.Memory :=
    (Run.memory demangles run).step demangles (Run.mirror run).coherent step
  have accounted : next.Accounted places :=
    (Run.accounted demangles bare run).step demangles step written
  have hanswered : Answered tools artifact history _ next := answered tools artifact history
  generalize (history.session.compile tools artifact history.world).1 = answered at hanswered answer
  generalize next = next' at *
  cases hanswered with
  | refused => cases answer
  | upToDate record found fresh =>
    obtain rfl := Except.ok.inj answer
    obtain ⟨-, hsource, hdatabase⟩ := BuildRecord.of_needsBuild_eq_false fresh
    rw [Registry.Coherent.artifact_eq mirror.coherent found] at hsource hdatabase
    rw [mirror.database] at hdatabase
    obtain ⟨command, hlast, hcommand⟩ := lastBuild?_upToDate mirror memory accounted found fresh
    refine ⟨record, command, found, hlast, hcommand.imp_right fun ⟨hrecent, hargs⟩ =>
      ⟨rfl, hrecent, hargs, hsource, hdatabase⟩, fun orderly last => ?_⟩
    have current := Run.current (Run.mono (fun _ _ both => both.2.forward) orderly)
    have matched := (Run.matched demangles bare orderly).step demangles (Run.mirror run) current
      step written last
    exact command_upToDate (Run.mirror run) current matched found fresh hlast
  | executed record found =>
    obtain ⟨record', hfound, hlast⟩ := lastBuild?_executed demangles
      (Run.mirror run).refreshed.coherent found answer success
    exact ⟨record', _, hfound, hlast, .inl rfl, fun _ _ => ⟨_, rfl⟩⟩

open Sample in
/-- In the small project, the first compilation builds the listing. -/
theorem compile_sound_listing :
    ∃ record,
      ((start places newWorld).act tools (.compile artifact)).session.registry.recordFor artifact =
        some record ∧
      lastBuild? artifact ((start places newWorld).act tools (.compile artifact)).world.builds =
        some (record.commandWith []) := by
  have bare : ∀ source kind, newWorld.files.modified? newWorld.host
      (places.artifactPath newWorld.host source kind) = none := modified?_sources
  have run : Run tools (Written places) (start places newWorld) (start places newWorld) := .refl
  have ran : ((start places newWorld).act tools (.compile artifact)).world.trace ≠
      (start places newWorld).world.trace := by decide +kernel
  have builds : ((start places newWorld).act tools (.compile artifact)).world.builds =
      (start places newWorld).world.builds ++ [(artifact, listing "c")] := by decide +kernel
  have answer : ((start places newWorld).session.compile tools artifact
      (start places newWorld).world).1 = .ok { success := true, command := listing "c" } := by
    decide +kernel
  have args : ((start places newWorld).act tools (.compile artifact)).session.extraArgs = [] := by
    decide +kernel
  obtain ⟨record, command, found, last, sound, -⟩ := compile_sound (fun _ _ => rfl) bare run
    (written_compile rfl ran builds) answer rfl
  rw [args] at sound
  obtain rfl | ⟨upToDate, -⟩ := sound
  · exact ⟨record, found, last⟩
  · exact absurd upToDate (by decide +kernel)

end History

namespace Sample

open History

/-- The listing was built with an extra argument, then the database was loaded again, and no extra
arguments are in effect. -/
def reloaded : History Unit :=
  ((((start places newWorld).act tools (.setExtraArgs ["-O"])).act tools
    (.compile artifact)).act tools .load).act tools (.setExtraArgs [])

/-- The listing was built, then the database was replaced by an older one for another compiler. -/
def replaced : History Unit :=
  let history := (start places newWorld).act tools (.compile artifact)
  { history with world := { history.world with files := built "e" 1800 } }

private theorem kept {history next : History Unit} (step : Step tools history next)
    (files : next.world.files = history.world.files) :
    history.Written places next ∧ history.Orderly places next :=
  ⟨fun _ _ => .inr (.inl (by rw [files])), .inl (by rw [files, step.host])⟩

private theorem files_setExtraArgs (history : History Unit) (extraArgs : List String) :
    (history.act tools (.setExtraArgs extraArgs)).world.files = history.world.files := rfl

private theorem built_compile {history : History Unit} (command : String)
    (files : history.world.files = sources) (host_eq : history.world.host = host)
    (ran : (history.act tools (.compile artifact)).world.trace ≠ history.world.trace)
    (builds : (history.act tools (.compile artifact)).world.builds =
      history.world.builds ++ [(artifact, command)]) :
    history.Written places (history.act tools (.compile artifact)) ∧
      history.Orderly places (history.act tools (.compile artifact)) := by
  have hhost : (history.act tools (.compile artifact)).world.host = history.world.host :=
    Step.host (.act _)
  refine ⟨written_compile host_eq ran builds, .inl ?_⟩
  rw [files_compile ran, hhost, files, host_eq]
  rfl

private theorem written_swap {history : History Unit}
    (files : history.world.files = built "c" 1000) (host_eq : history.world.host = host) :
    history.Written places
      { history with world := { history.world with files := built "e" 1800 } } := by
  intro source kind
  rw [files, host_eq]
  by_cases h : places.artifactPath host source kind = artifact
  · rw [h]
    exact .inr (.inl ((modified?_listing "e" 1800).trans (modified?_listing "c" 1000).symm))
  · exact .inl (modified?_built "e" 1800 h)

private theorem files_act_compile {history : History Unit}
    (idle : (history.act tools (.compile artifact)).world.trace = history.world.trace)
    (made : history.world.files.isDirectory history.world.host history.session.outputDir = true) :
    (history.act tools (.compile artifact)).world.files = history.world.files := by
  rw [refreshed_of_idle idle, files_refreshed_of_isDirectory made]

theorem run_reloaded : Run tools (fun history next => history.Written places next ∧
    history.Orderly places next) (start places newWorld)
    (reloaded.act tools (.compile artifact)) := by
  have set := Run.act (.refl : Run tools (fun history next => history.Written places next ∧
    history.Orderly places next) (start places newWorld) (start places newWorld))
    (.setExtraArgs ["-O"]) (kept (.act _) rfl)
  have built := set.act (.compile artifact)
    (built_compile (listing "c" ++ " -O") rfl rfl (by decide +kernel) (by decide +kernel))
  have loaded := built.act .load
    (kept (.act _) (Session.files_load _ _ (by decide +kernel)))
  have reset := loaded.act (.setExtraArgs []) (kept (.act _) (files_setExtraArgs _ _))
  exact reset.act (.compile artifact)
    (kept (.act _) (files_act_compile (by decide +kernel) (by decide +kernel)))

theorem run_replaced : Run tools (Written places) (start places newWorld)
    (replaced.act tools (.compile artifact)) := by
  have built := Run.act (.refl : Run tools (Written places) (start places newWorld)
    (start places newWorld)) (.compile artifact)
    (built_compile (listing "c") rfl rfl (by decide +kernel) (by decide +kernel)).1
  have swapped := Relation.ReflTransGen.tail built
    ⟨.outside { ((start places newWorld).act tools (.compile artifact)).world with
      files := Sample.built "e" 1800 } rfl rfl,
      written_swap (files_compile (by decide +kernel)) (Step.host (.act _))⟩
  exact Run.act swapped (.compile artifact)
    (kept (.act _) (files_act_compile (by decide +kernel) (by decide +kernel))).1

end Sample

namespace History

/-- A compilation takes an artifact for up to date that was not last built by the command of its
record with the extra arguments in effect. -/
def Misjudged (tools : Toolchain σ) (artifact : Path) (history : History σ) : Prop :=
  (history.session.compile tools artifact history.world).1 = .ok .upToDate ∧
    lastBuild? artifact (history.act tools (.compile artifact)).world.builds ≠
      ((history.act tools (.compile artifact)).session.registry.recordFor artifact).map
        (·.commandWith (history.act tools (.compile artifact)).session.extraArgs)

open Sample in
/-- **A load forgets how artifacts were built.** In the small project, a listing that was built with
other arguments is taken for up to date after a load, and so is one that was built by another
compiler if the database was written back in time. -/
theorem compile_forgets :
    (∀ source kind, newWorld.files.modified? newWorld.host
      (places.artifactPath newWorld.host source kind) = none) ∧
    (∃ history : History Unit,
      Run tools (fun history next => history.Written places next ∧ history.Orderly places next)
        (start places newWorld) (history.act tools (.compile artifact)) ∧
      history.Misjudged tools artifact) ∧
    (∃ history : History Unit,
      Run tools (Written places) (start places newWorld) (history.act tools (.compile artifact)) ∧
      history.Misjudged tools artifact ∧ history.session.extraArgs = []) :=
  ⟨modified?_sources,
    ⟨reloaded, run_reloaded, by decide +kernel, by decide +kernel⟩,
    ⟨replaced, run_replaced, ⟨by decide +kernel, by decide +kernel⟩, by decide +kernel⟩⟩

end History

end ArtifactLens
