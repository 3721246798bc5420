import ArtifactLens.Proofs.Session.Settled

/-!
# Failed builds

A build that fails is tried again by every further compilation of its artifact, until a build
succeeds (`Chronicle.compile_failed`): whatever made the artifact stale is still there while its
file, its source and the database are left alone. It may be that the database is loaded again in
between, which makes the record anew, but then the record was as new when the build failed.

What may come in between is that the output directory cannot be made during such a load. Then the
registry stays empty, and the artifact is not known rather than built
(`Chronicle.compile_failed_blocked`).
-/

namespace ArtifactLens

variable {σ : Type}

/-! ### Loading what can be read -/

namespace Session

/-- What a refresh comes to if the database may have changed and can be read: it is loaded, or the
registry is left empty since the output directory cannot be made. -/
theorem refresh_of_read {session : Session} {world : World σ} {commands : List CompileCommand}
    (outdated : session.isOutdated world = true)
    (read : Database.commands world.host world.files session.database = .ok commands) :
    (∃ fault, (session.load world).1 = .error (.outputDirectory session.outputDir fault) ∧
      session.refresh world =
        (.ok (), ((session.stamped world).withCommands world.host commands).emptied, world)) ∨
    ∃ files, world.files.makeDirectory world.host session.outputDir = .ok files ∧
      session.refresh world = (.ok (),
        (session.stamped world).withCommands world.host commands, { world with files }) := by
  have hloaded := session.loaded world
  rw [refresh, if_pos outdated]
  generalize session.load world = step at hloaded
  cases hloaded with
  | unread failure failed => cases read.symm.trans failed
  | blocked found fault found_read =>
    cases read.symm.trans found_read
    exact .inl ⟨fault, rfl, if_pos rfl⟩
  | loaded found files found_read made =>
    cases read.symm.trans found_read
    exact .inr ⟨files, made, rfl⟩

end Session

namespace History

/-- The artifact has no record, and the last attempt to load the database failed since the output
directory could not be made. -/
def Blocked (artifact : Path) (history : History σ) : Prop :=
  history.session.registry.recordFor artifact = none ∧
    ∃ attempt directory fault, history.attempts.head? = some attempt ∧
      attempt.answer = .error (.outputDirectory directory fault)

/-- The database has a record. -/
def Lists (places : Settings.Places) (record : BuildRecord) (history : History σ) : Prop :=
  ∃ commands,
    Database.commands history.world.host history.world.files places.database = .ok commands ∧
    ((Registry.empty places.root places.outputDir).registerAll history.world.host
      commands).recordFor record.artifact = some record

/-- A refresh finds what the database has a record of, unless the output directory cannot be
made. -/
theorem refreshed_of_lists {places : Settings.Places} {history : History σ}
    (mirror : history.Mirror places) {record : BuildRecord} (lists : history.Lists places record)
    (outdated : history.session.isOutdated history.world = true) :
    (history.session.refresh history.world).1 = .ok () ∧
      (history.refreshed.session.registry.recordFor record.artifact = some record ∨
        history.refreshed.Blocked record.artifact) := by
  obtain ⟨commands, hread, hlisted⟩ := lists
  rw [← mirror.database] at hread
  rw [← mirror.clear] at hlisted
  rw [Blocked, refreshed, if_pos outdated]
  obtain ⟨fault, hload, hrefresh⟩ | ⟨files, -, hrefresh⟩ := Session.refresh_of_read outdated hread
  · rw [hrefresh]
    exact ⟨rfl, .inr ⟨rfl, history.attempt, _, fault, rfl, hload⟩⟩
  · rw [hrefresh]
    exact ⟨rfl, .inl hlisted⟩

/-- A refresh changes no files, or there is no artifact in the output directory that it makes. -/
theorem files_refreshed {places : Settings.Places} {history : History σ}
    (mirror : history.Mirror places) (source : Path) (kind : Kind) :
    let artifact := places.artifactPath history.world.host source kind
    history.refreshed.world.files = history.world.files ∨
      history.refreshed.world.files.node? history.world.host artifact = none := by
  intro artifact
  have hname := Registry.names_absolute_artifact history.world.host
    (.empty places.root places.outputDir) source kind
  have hplace : history.session.outputDir = places.outputDir :=
    congrArg Registry.outputDir mirror.clear
  obtain h | h := history.session.refresh_world history.world
  · exact .inl (by rw [refreshed, h])
  · rw [refreshed, h]
    have hloaded := history.session.loaded history.world
    generalize history.session.load history.world = step at hloaded
    cases hloaded with
    | unread | blocked => exact .inl rfl
    | loaded commands files read made =>
      rw [hplace] at made
      exact (FileSystem.makeDirectory_below made hname).imp_right fun gone => gone.2

end History

namespace Toolchain

/-- The answer of a build is the result of its run, unless the demangler gives up. -/
theorem execute_answer (tools : Toolchain σ) (record : BuildRecord) (extraArgs : List String)
    (world : World σ) :
    ∃ ran files state,
      tools.run (record.commandWith extraArgs) record.directory world.files world.tools =
        (ran, files, state) ∧
      ((tools.execute record extraArgs world).1 =
          ran.map (·.result (record.commandWith extraArgs)) ∨
        ∃ outcome failure, ran = .ok outcome ∧ outcome.exitCode = some 0 ∧
          (tools.demangle record.artifact files).1 = .error failure ∧
          (tools.execute record extraArgs world).1 = .error failure) := by
  have hexecuted := tools.executed record extraArgs world
  generalize tools.execute record extraArgs world = step at hexecuted
  cases hexecuted with
  | abandoned failure files state run => exact ⟨_, files, state, run, .inl rfl⟩
  | failed outcome files state run code => exact ⟨_, files, state, run, .inl rfl⟩
  | undemangled outcome files state failure later run code demangle =>
    exact ⟨_, files, state, run, .inr ⟨outcome, failure, rfl, code, by rw [demangle], rfl⟩⟩
  | built outcome files state later run code demangle => exact ⟨_, files, state, run, .inl rfl⟩

end Toolchain

/-- An artifact that is not there needs a build. -/
theorem BuildRecord.needsBuild_of_missing {host : Host} {fs : FileSystem} {record : BuildRecord}
    (missing : fs.modified? host record.artifact = none) (extraArgs : List String)
    (database : Path) : record.needsBuild host fs extraArgs database = true := by
  rw [needsBuild]
  split_ifs
  · rfl
  · rfl
  · simp [FileSystem.isNewer, FileSystem.moment?, missing]

namespace History

/-! ### What is stale stays so -/

/-- What a compilation that fails leaves: it found a record that needed a build, ran its command,
and left the session as the refresh did. -/
theorem act_of_failed {tools : Toolchain σ} {history : History σ} (coherent : history.Coherent)
    {artifact : Path} {result : BuildResult}
    (answer : (history.session.compile tools artifact history.world).1 = .ok result)
    (failed : result.success = false) :
    let refreshed := history.refreshed
    let next := history.act tools (.compile artifact)
    ∃ record, refreshed.session.registry.recordFor artifact = some record ∧
      record.needsBuild refreshed.world.host refreshed.world.files refreshed.session.extraArgs
        refreshed.session.database = true ∧
      result.command = record.commandWith refreshed.session.extraArgs ∧
      next.session = refreshed.session ∧
      next.world.trace = refreshed.world.trace ++ [.ran result.command record.directory] := by
  intro refreshed next
  have hcompilation := history.compilation tools coherent artifact
  generalize (history.session.compile tools artifact history.world).1 = outcome
    at hcompilation answer
  change Compilation artifact refreshed.session refreshed.world outcome _ next.session
    next.world.trace at hcompilation
  generalize next.session = session at hcompilation ⊢
  generalize next.world.trace = trace at hcompilation ⊢
  generalize history.builds tools artifact = built at hcompilation
  cases hcompilation with
  | refused | abandoned => cases answer
  | upToDate =>
    obtain rfl := Except.ok.inj answer
    cases failed
  | failed record found stale outcome code =>
    obtain rfl := Except.ok.inj answer
    exact ⟨record, found, stale, rfl, rfl, rfl⟩
  | built record found outcome code =>
    obtain rfl := Except.ok.inj answer
    cases failed.symm.trans (beq_iff_eq.mpr code)

theorem refresh_eq_of_ok {history : History σ}
    (refreshed : (history.session.refresh history.world).1 = .ok ()) :
    history.session.refresh history.world =
      (.ok (), history.refreshed.session, history.refreshed.world) :=
  Prod.ext refreshed rfl

/-- A compilation of an artifact without a record runs nothing. -/
theorem act_of_unknown (tools : Toolchain σ) {history : History σ} {artifact : Path}
    (refreshed : (history.session.refresh history.world).1 = .ok ())
    (unknown : history.refreshed.session.registry.recordFor artifact = none) :
    (history.session.compile tools artifact history.world).1 = .error (.noRecord artifact) ∧
      (history.act tools (.compile artifact)).world.trace = history.world.trace := by
  have hcompile := Session.compile_of_unknown tools (refresh_eq_of_ok refreshed) unknown
  have hnext : (history.act tools (.compile artifact)).world.trace =
      history.refreshed.world.trace := congrArg (·.2.2.trace) hcompile
  exact ⟨congrArg (·.1) hcompile, hnext.trans (Session.trace_refresh _ _)⟩

/-- A compilation of an artifact that needs a build runs the command on record and answers with the
result of the run, unless the demangler gives up. -/
theorem act_of_stale (tools : Toolchain σ) {history : History σ} {artifact : Path}
    {record : BuildRecord} (refreshed : (history.session.refresh history.world).1 = .ok ())
    (recorded : history.refreshed.session.registry.recordFor artifact = some record)
    (stale : record.needsBuild history.refreshed.world.host history.refreshed.world.files
      history.refreshed.session.extraArgs history.refreshed.session.database = true) :
    let command := record.commandWith history.session.extraArgs
    let found := history.refreshed.world
    let answer := (history.session.compile tools artifact history.world).1
    ∃ ran files state events,
      tools.run command record.directory found.files found.tools = (ran, files, state) ∧
      (history.act tools (.compile artifact)).world.trace =
        history.world.trace ++ .ran command record.directory :: events ∧
      (answer = ran.map (·.result command) ∨
        ∃ outcome failure, ran = .ok outcome ∧ outcome.exitCode = some 0 ∧
          (tools.demangle record.artifact files).1 = .error failure ∧ answer = .error failure) := by
  intro command found answer
  have hcompile := Session.compile_of_stale tools (refresh_eq_of_ok refreshed) recorded stale
  rw [extraArgs_refreshed] at hcompile
  obtain ⟨ran, files, state, hrun, hanswer⟩ :=
    tools.execute_answer record history.session.extraArgs found
  obtain ⟨events, hevents⟩ := tools.trace_execute record history.session.extraArgs found
  have hreply : answer = (tools.execute record history.session.extraArgs found).1 :=
    congrArg (·.1) hcompile
  have hnext : (history.act tools (.compile artifact)).world.trace =
      (tools.execute record history.session.extraArgs found).2.2.trace :=
    congrArg (·.2.2.trace) hcompile
  have hsame : found.trace = history.world.trace := Session.trace_refresh _ _
  rw [← hreply] at hanswer
  rw [← hnext, hsame] at hevents
  exact ⟨ran, files, state, events, hrun, hevents, hanswer⟩

/-- What is found after a load is listed by the database. -/
theorem lists_of_found {places : Settings.Places} {history : History σ}
    (mirror : history.Mirror places) {record : BuildRecord}
    (outdated : history.session.isOutdated history.world = true)
    (found : history.refreshed.session.registry.recordFor record.artifact = some record) :
    history.Lists places record := by
  have hrefreshed := history.refreshed_cases
  generalize history.refreshed = next at hrefreshed found
  cases hrefreshed with
  | current current => cases current.symm.trans outdated
  | loaded =>
    rw [Lists, ← mirror.database, ← mirror.clear]
    rw [loaded] at found
    obtain ⟨commands, hread, hregistry⟩ | ⟨hregistry, -⟩ :=
      history.session.load_registry history.world
    · exact ⟨commands, hread, hregistry ▸ found⟩
    · rw [hregistry] at found
      cases found
  | emptied => cases found

/-- A record still needs the build that it needed at first: it is found, or it was lost since the
output directory could not be made; if the database is loaded again, it lists the record. -/
structure Unbuilt (places : Settings.Places) (first : History σ) (record : BuildRecord)
    (later : History σ) : Prop where
  mirror : later.Mirror places
  host : later.world.host = first.world.host
  extraArgs : later.session.extraArgs = first.session.extraArgs
  untouched : first.Untouched [record.source, places.database, record.artifact] later
  known : later.session.registry.recordFor record.artifact = some record ∨
    later.Blocked record.artifact
  listed : later.session.isOutdated later.world = true → later.Lists places record

/-- What the database has a record of depends on its file only. -/
theorem Lists.congr {places : Settings.Places} {record : BuildRecord} {history next : History σ}
    (h : history.Lists places record) (host : next.world.host = history.world.host)
    (same : next.world.files.node? next.world.host places.database =
      history.world.files.node? history.world.host places.database) :
    next.Lists places record := by
  obtain ⟨commands, hread, hlisted⟩ := h
  rw [host] at same
  rw [Lists, host]
  exact ⟨commands, Database.commands_congr (FileSystem.content?_congr same.symm) hread, hlisted⟩

namespace Unbuilt

variable {tools : Toolchain σ} {places : Settings.Places} {first later : History σ}
  {record : BuildRecord}

/-- After a refresh the record is found or lost. -/
theorem refreshed (h : Unbuilt places first record later) :
    (later.session.refresh later.world).1 = .ok () ∧
      (later.refreshed.session.registry.recordFor record.artifact = some record ∨
        later.refreshed.Blocked record.artifact) := by
  cases outdated : later.session.isOutdated later.world with
  | true => exact refreshed_of_lists h.mirror (h.listed outdated) outdated
  | false =>
    rw [Session.refresh_of_current outdated, refreshed_of_current outdated]
    exact ⟨rfl, h.known⟩

theorem step (h : Unbuilt places first record later) {next : History σ}
    (mirror : next.Mirror places) (host : next.world.host = later.world.host)
    (extraArgs : next.session.extraArgs = later.session.extraArgs)
    (untouched : later.Untouched [record.source, places.database, record.artifact] next)
    (known : next.session.registry.recordFor record.artifact = some record ∨
      next.Blocked record.artifact)
    (stamp : later.session.isOutdated later.world = false →
      next.session.loadedAt = later.session.loadedAt) : Unbuilt places first record next where
  mirror := mirror
  host := host.trans h.host
  extraArgs := extraArgs.trans h.extraArgs
  untouched := h.untouched.trans untouched
  known := known
  listed outdated := by
    cases before : later.session.isOutdated later.world with
    | true => exact (h.listed before).congr host (untouched _ (by simp))
    | false =>
      -- neither the stamp nor the database changed, so that the database is still not outdated
      have hdatabase : next.session.database = later.session.database :=
        mirror.database.trans h.mirror.database.symm
      have hsame := untouched.isOutdated hdatabase (stamp before) (by simp [h.mirror.database])
      rw [hsame, before] at outdated
      cases outdated

theorem act (h : Unbuilt places first record later) {op : Session.Op}
    (refreshes : op.refreshes = true) (unbuilt : later.built? tools op ≠ some record.artifact)
    (untouched : later.Untouched [record.source, places.database, record.artifact]
      (later.act tools op)) : Unbuilt places first record (later.act tools op) := by
  have hsession := later.session_act tools h.mirror.coherent refreshes
  have hrecord : (later.act tools op).session.registry.recordFor record.artifact =
      later.refreshed.session.registry.recordFor record.artifact := by
    rw [hsession, Session.recordFor_afterBuild h.mirror.coherent.refreshed, if_neg unbuilt]
  refine h.step (h.mirror.act op) (Step.host (.act op)) ?_ untouched ?_ fun current => ?_
  · rw [hsession, Session.extraArgs_afterBuild, extraArgs_refreshed]
  · rw [Blocked, hrecord, later.attempts_act tools refreshes]
    exact h.refreshed.2
  · rw [hsession, Session.loadedAt_afterBuild, refreshed_of_current current]

theorem outside (h : Unbuilt places first record later) {world : World σ}
    (step : Step tools later { later with world })
    (untouched : later.Untouched [record.source, places.database, record.artifact]
      { later with world }) : Unbuilt places first record { later with world } :=
  h.step (h.mirror.step step) step.host rfl untouched h.known fun _ => rfl

/-- Whatever made the artifact stale is still there after a refresh. -/
theorem stale (h : Unbuilt places first record later)
    (named : record.artifact =
      places.artifactPath first.world.host record.source record.kind)
    (stale : record.needsBuild first.world.host first.world.files first.session.extraArgs
      places.database = true) :
    record.needsBuild later.refreshed.world.host later.refreshed.world.files
      later.refreshed.session.extraArgs later.refreshed.session.database = true := by
  rw [host_refreshed, extraArgs_refreshed, h.mirror.refreshed.database]
  obtain same | gone := files_refreshed h.mirror record.source record.kind
  · rw [same, h.untouched.needsBuild (by simp) (by simp) (by simp), h.extraArgs]
    exact stale
  · refine BuildRecord.needsBuild_of_missing ?_ _ _
    rw [named, ← h.host, FileSystem.modified?_eq, gone]
    rfl

/-- A build that fails and writes nothing leaves its artifact as stale as it was. -/
theorem start {history : History σ} (mirror : history.Mirror places)
    (found : history.refreshed.session.registry.recordFor record.artifact = some record)
    (same : first.session = history.refreshed.session)
    (idle : first.world.files = history.refreshed.world.files)
    (host : first.world.host = history.world.host) (next : first.Mirror places) :
    Unbuilt places first record first where
  mirror := next
  host := rfl
  extraArgs := rfl
  untouched := .refl _ first
  known := .inl (same ▸ found)
  listed outdated := by
    have hnode : first.world.files.node? first.world.host places.database =
        history.world.files.node? history.world.host places.database := by
      rw [idle, host, ← mirror.database, history.node?_refreshed]
    cases before : history.session.isOutdated history.world with
    | true => exact (lists_of_found mirror before found).congr host hnode
    | false =>
      rw [refreshed_of_current before] at same idle
      have untouched : history.Untouched [history.session.database] first := .of_files idle host
      rw [untouched.isOutdated (by rw [same]) (by rw [same]) (by simp), before] at outdated
      cases outdated

end Unbuilt

end History

namespace Chronicle

/-- Nothing that was noted is lost. -/
theorem mem_notes_act (tools : Toolchain σ) (op : Session.Op) {chronicle : Chronicle σ}
    {note : Note} (h : note ∈ chronicle.notes) : note ∈ (chronicle.act tools op).notes :=
  List.mem_append_right _ h

/-- What is built is noted. -/
theorem built_mem_notes_act {tools : Toolchain σ} {op : Session.Op} {chronicle : Chronicle σ}
    {artifact : Path} (h : chronicle.history.built? tools op = some artifact) :
    .built artifact chronicle.history.session.extraArgs ∈ (chronicle.act tools op).notes := by
  rw [act, History.notes, h]
  simp

/-- As long as a build is not noted, it is still needed. -/
theorem Run.unbuilt {tools : Toolchain σ} {places : Settings.Places} {first : History σ}
    {record : BuildRecord} (start : History.Unbuilt places first record first)
    {later : Chronicle σ}
    (run : Run tools (·.refreshes = true)
      (History.Untouched [record.source, places.database, record.artifact]) ⟨first, []⟩ later)
    (unbuilt : ∀ extraArgs, .built record.artifact extraArgs ∉ later.notes) :
    History.Unbuilt places first record later.history := by
  induction run with
  | refl => exact start
  | @tail before next earlier step ih =>
    obtain ⟨step, untouched⟩ := step
    cases step with
    | act op refreshes =>
      have still := ih fun extraArgs noted => unbuilt extraArgs (mem_notes_act tools op noted)
      exact still.act refreshes (fun built => unbuilt _ (built_mem_notes_act built)) untouched
    | outside world host trace =>
      have changed : History.Step tools before.history { before.history with world } :=
        .outside world host trace
      exact (ih unbuilt).outside changed untouched

/-- **A failed build is never masked.** Let a compilation run a command that fails and writes
nothing. While no load is asked for, the extra arguments stay and the files of the source, the
database and the artifact are left alone, every further compilation of the artifact, up to and with
the first that builds it, runs the same command in the same directory and answers with its result;
or the artifact is not known, since the output directory could not be made when the database was
last loaded again. -/
theorem compile_failed {tools : Toolchain σ} {Discipline : History σ → History σ → Prop}
    {places : Settings.Places} {world : World σ} {history : History σ}
    (run : History.Run tools Discipline (.start places world) history) {artifact : Path}
    {result : BuildResult}
    (answer : (history.session.compile tools artifact history.world).1 = .ok result)
    (failed : result.success = false) :
    let first := history.act tools (.compile artifact)
    ∃ record, first.session.registry.recordFor artifact = some record ∧
      result.command = record.commandWith history.session.extraArgs ∧
      first.world.trace = history.world.trace ++ [.ran result.command record.directory] ∧
      (first.world.files = history.refreshed.world.files →
        ∀ later, Run tools (·.refreshes = true)
            (History.Untouched [record.source, places.database, artifact]) ⟨first, []⟩ later →
          (∀ extraArgs, .built artifact extraArgs ∉ later.notes) →
          let found := later.history.refreshed.world
          let next := later.history.act tools (.compile artifact)
          let answer := (later.history.session.compile tools artifact later.history.world).1
          (∃ ran files state events,
            tools.run result.command record.directory found.files found.tools =
              (ran, files, state) ∧
            next.world.trace =
              later.history.world.trace ++ .ran result.command record.directory :: events ∧
            (answer = ran.map (·.result result.command) ∨
              ∃ outcome failure, ran = .ok outcome ∧ outcome.exitCode = some 0 ∧
                (tools.demangle artifact files).1 = .error failure ∧ answer = .error failure)) ∨
          answer = .error (.noRecord artifact) ∧ next.world.trace = later.history.world.trace ∧
            ∃ attempt directory fault, next.attempts.head? = some attempt ∧
              attempt.answer = .error (.outputDirectory directory fault)) := by
  intro first
  have mirror : history.Mirror places := History.Run.mirror run
  have mirrored : first.Mirror places := mirror.act (.compile artifact)
  obtain ⟨record, hrecord, stale, hcommand, hsession, htrace⟩ :=
    History.act_of_failed mirror.coherent answer failed
  obtain rfl : record.artifact = artifact :=
    Registry.Coherent.artifact_eq mirror.refreshed.coherent hrecord
  rw [History.extraArgs_refreshed] at hcommand
  have hfound : first.session.registry.recordFor record.artifact = some record := by
    rw [hsession, hrecord]
  refine ⟨record, hfound, hcommand,
    htrace.trans (by rw [History.refreshed, Session.trace_refresh]), ?_⟩
  intro idle later continuation noted found next answer
  have hhost : first.world.host = history.world.host := History.Step.host (.act _)
  have unbuilt := Run.unbuilt
    (History.Unbuilt.start mirror hrecord hsession idle hhost mirrored) continuation noted
  have hstale := unbuilt.stale (mirrored.artifact_eq hfound) (by
    rw [hhost, idle, hsession, ← mirrored.database, hsession, ← history.host_refreshed]
    exact stale)
  obtain ⟨hok, hknown⟩ := unbuilt.refreshed
  have hargs : later.history.session.extraArgs = history.session.extraArgs := by
    rw [unbuilt.extraArgs, hsession, History.extraArgs_refreshed]
  obtain hrecorded | ⟨hnone, hattempt⟩ := hknown
  · have hagain := History.act_of_stale tools hok hrecorded hstale
    rw [hargs, ← hcommand] at hagain
    exact .inl hagain
  · obtain ⟨hanswer, hidle⟩ := History.act_of_unknown tools hok hnone
    refine .inr ⟨hanswer, hidle, ?_⟩
    rw [later.history.attempts_act tools rfl]
    exact hattempt

end Chronicle

/-! ### A clumsy compiler -/

namespace Sample

/-- The small project before anything is built, with something in the place of the output
directory. -/
def projectWith (output : Node) : FileSystem where
  at? location :=
    match location.map Name.text with
    | [] => some (.directory 0)
    | ["a"] => some (.file [] 1000 false)
    | ["d"] => some (.file (content "c") 1000 false)
    | ["o"] => some output
    | _ => none

/-- A compiler that fails at first, and then puts a file in the place of the output directory. -/
def clumsy : Toolchain Bool where
  run _ _ files failed :=
    if failed then (.ok ⟨"", "", some 0⟩, projectWith (.file [] 2000 false), true)
    else (.ok ⟨"", "", some 1⟩, files, true)
  demangle _ files := (.ok (), files)

/-- The clock is behind, so that the database is loaded again each time. -/
def lateWorld : World Bool := ⟨host, projectWith (.directory 0), 500, false, []⟩

/-- The listing could not be built. -/
def unlisted : History Bool := (History.start places lateWorld).act clumsy (.compile artifact)

/-- The result of the build that failed. -/
def failure : BuildResult where
  success := false
  command := listing "c"
  exitCode := some 1

/-- The build that failed answers, and its record stays. -/
private theorem unlisted_spec :
    ((History.start places lateWorld).session.compile clumsy artifact lateWorld).1 =
        .ok failure ∧
      unlisted.session.registry.recordFor artifact = some record := by
  decide +kernel

private theorem files_execute_clumsy (record : BuildRecord) (extraArgs : List String)
    (world : World Bool) :
    (clumsy.execute record extraArgs world).2.2.files =
      if world.tools then projectWith (.file [] 2000 false) else world.files := by
  cases h : world.tools <;> simp [Toolchain.execute, clumsy, World.note, h]

private theorem files_clumsy {history : History Bool} {other : Path}
    (ran : (history.act clumsy (.compile other)).world.trace ≠ history.world.trace) :
    (history.act clumsy (.compile other)).world.files =
      if history.refreshed.world.tools then projectWith (.file [] 2000 false)
      else history.refreshed.world.files := by
  obtain ⟨record, -, executed⟩ := History.executed_of_ran ran
  rw [executed]
  exact files_execute_clumsy record _ _

private theorem files_refreshed_start :
    (History.start places lateWorld).refreshed.world.files = projectWith (.directory 0) :=
  History.files_refreshed_of_isDirectory (by decide +kernel)

private theorem files_unlisted : unlisted.world.files = projectWith (.directory 0) := by
  have tools : (History.start places lateWorld).refreshed.world.tools = false := by
    decide +kernel
  rw [unlisted, files_clumsy (by decide +kernel), tools, files_refreshed_start]
  rfl

/-- The code of the source. -/
def code : Path := places.artifactPath host record.source .llvmIr

/-- The code could be built then, in the place of the output directory. -/
def spoilt : Chronicle Bool := Chronicle.act clumsy (.compile code) ⟨unlisted, []⟩

private theorem files_spoilt : spoilt.history.world.files = projectWith (.file [] 2000 false) := by
  have tools : unlisted.refreshed.world.tools = true := by decide +kernel
  rw [spoilt, Chronicle.act, files_clumsy (by decide +kernel), tools]
  rfl

private theorem run_spoilt : Chronicle.Run clumsy (·.refreshes = true)
    (History.Untouched [record.source, places.database, artifact]) ⟨unlisted, []⟩ spoilt := by
  have hhost : unlisted.world.host = host := History.Step.host (.act _)
  have later : spoilt.history.world.host = host := (History.Step.host (.act _)).trans hhost
  refine .single ⟨.act _ rfl, fun path hpath => ?_⟩
  change spoilt.history.world.files.node? spoilt.history.world.host path =
    unlisted.world.files.node? unlisted.world.host path
  rw [files_spoilt, files_unlisted, hhost, later, FileSystem.node?, FileSystem.node?,
    FileSystem.inspect, FileSystem.inspect]
  simp only [List.mem_cons, List.not_mem_nil, or_false] at hpath
  obtain rfl | rfl | rfl := hpath <;> rfl

end Sample

namespace Chronicle

open Sample in
/-- In the small project, the listing that could not be built is tried again after the database was
loaded again. -/
theorem compile_failed_again :
    let later := Chronicle.act clumsy .refresh ⟨unlisted, []⟩
    ∃ events, (later.history.act clumsy (.compile artifact)).world.trace =
      later.history.world.trace ++ .ran (listing "c") record.directory :: events := by
  intro later
  obtain ⟨answer, recorded⟩ := unlisted_spec
  obtain ⟨found, hfound, -, -, again⟩ :=
    compile_failed (.refl : History.Run clumsy (fun _ _ => True) (.start places lateWorld) _)
      answer rfl
  rw [← unlisted] at hfound again
  rw [recorded, Option.some.injEq] at hfound
  subst hfound
  have idle : unlisted.world.files = (History.start places lateWorld).refreshed.world.files :=
    files_unlisted.trans files_refreshed_start.symm
  have left : later.history.world.files = unlisted.world.files :=
    History.files_refreshed_of_isDirectory (by decide +kernel)
  have noted : later.notes = [.loaded] := by decide +kernel
  obtain ⟨ran, files, state, events, -, htrace, -⟩ | ⟨unknown, -⟩ :=
    again idle later
      (.single ⟨.act .refresh rfl, .of_files left (History.Step.host (.act _))⟩) (by simp [noted])
  · exact ⟨events, htrace⟩
  · exact absurd unknown (by decide +kernel)

open Sample in
/-- **What failed may become unknown.** In the small project, the listing could not be built, and
the build wrote nothing. Then the code was built in the place of the output directory, which leaves
what there is of the source, the database and the listing as it was. When the database is loaded
again, the output directory cannot be made, and the listing is not tried again. -/
theorem compile_failed_blocked :
    let history := History.start places lateWorld
    (history.session.compile clumsy artifact lateWorld).1 = .ok failure ∧
    failure.success = false ∧
    unlisted = history.act clumsy (.compile artifact) ∧
    unlisted.session.registry.recordFor artifact = some record ∧
    unlisted.world.files = history.refreshed.world.files ∧
    ¬∀ later, Run clumsy (·.refreshes = true)
        (History.Untouched [record.source, places.database, artifact]) ⟨unlisted, []⟩ later →
      (∀ extraArgs, .built artifact extraArgs ∉ later.notes) →
      ∃ events, (later.history.act clumsy (.compile artifact)).world.trace =
        later.history.world.trace ++ .ran failure.command record.directory :: events := by
  intro history
  obtain ⟨answer, recorded⟩ := unlisted_spec
  refine ⟨answer, rfl, rfl, recorded,
    files_unlisted.trans files_refreshed_start.symm, fun tried => ?_⟩
  have noted : spoilt.notes = [.built code [], .loaded] := by decide +kernel
  have other : artifact ≠ code := by decide +kernel
  have unbuilt : ∀ extraArgs, .built artifact extraArgs ∉ spoilt.notes := by simp [noted, other]
  have idle : (spoilt.history.act clumsy (.compile artifact)).world.trace =
      spoilt.history.world.trace := by decide +kernel
  obtain ⟨events, htrace⟩ := tried spoilt run_spoilt unbuilt
  rw [idle] at htrace
  exact List.cons_ne_nil _ _ (List.self_eq_append_right.mp htrace)

end Chronicle

end ArtifactLens
