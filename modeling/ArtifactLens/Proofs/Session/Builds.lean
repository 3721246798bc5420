import ArtifactLens.Proofs.Session.Reload

/-!
# What records remember of builds

The trace of a world tells which artifacts were built with which commands (`World.builds`). A record
remembers the extra arguments of a build until the database is loaded again:

* if its artifact was built since the last attempt to load the database, the last such build ran
  the command of the record with the arguments that the record remembers;
* otherwise it remembers none.

This holds along every run (`History.Run.memory`), for tools whose demangler does not give up.
-/

namespace ArtifactLens

variable {σ : Type}

/-! ### Builds in a trace -/

/-- The artifacts that were built, with the commands that built them. A build runs its command and
demangles its artifact. -/
def buildsIn : List Event → List (Path × String)
  | .ran command _ :: .demangled artifact :: rest => (artifact, command) :: buildsIn rest
  | _ :: rest => buildsIn rest
  | [] => []

/-- The command of the last build of an artifact. -/
def lastBuild? (artifact : Path) (builds : List (Path × String)) : Option String :=
  ((builds.filter (·.1 = artifact)).getLast?).map (·.2)

/-- A command that runs begins a build of its own. -/
theorem buildsIn_append_ran (trace events : List Event) (command : String) (directory : Path) :
    buildsIn (trace ++ .ran command directory :: events) =
      buildsIn trace ++ buildsIn (.ran command directory :: events) := by
  induction trace using buildsIn.induct with
  | case1 earlier place artifact rest ih =>
    simp only [List.cons_append, buildsIn, ih]
  | case2 event rest other ih =>
    -- what is appended does not complete a build either, since it does not demangle first
    have still : ∀ (earlier : String) (place artifact : Path) (others : List Event),
        event = .ran earlier place →
          rest ++ .ran command directory :: events = .demangled artifact :: others → False := by
      intro earlier place artifact others hevent hrest
      cases rest with
      | nil => cases hrest
      | cons first later =>
        obtain ⟨rfl, -⟩ := List.cons.inj hrest
        exact other earlier place artifact later hevent rfl
    rw [List.cons_append, buildsIn.eq_2 event _ still, buildsIn.eq_2 event rest other, ih]
  | case3 => rfl

theorem lastBuild?_append (artifact : Path) (earlier later : List (Path × String)) :
    lastBuild? artifact (earlier ++ later) =
      (lastBuild? artifact later).or (lastBuild? artifact earlier) := by
  rw [lastBuild?, List.filter_append, List.getLast?_append, Option.map_or]
  rfl

theorem lastBuild?_singleton (artifact other : Path) (command : String) :
    lastBuild? artifact [(other, command)] = if other = artifact then some command else none := by
  rw [lastBuild?, List.filter_singleton]
  by_cases h : other = artifact <;> simp [h]

/-- The builds in the trace of a world. -/
def World.builds (world : World σ) : List (Path × String) := buildsIn world.trace

/-- The demangler never gives up. -/
def Toolchain.Demangles (tools : Toolchain σ) : Prop :=
  ∀ artifact files, (tools.demangle artifact files).1 = .ok ()

/-- What a record remembers of the last build of its artifact, if there was one. -/
def BuildRecord.Remembers (record : BuildRecord) : Option String → Prop
  | some command => command = record.commandWith record.lastExtraArgs
  | none => record.lastExtraArgs = []

namespace Toolchain

/-- What executing a record adds to the builds: nothing, unless it succeeds; then this build, which
the record remembers. -/
inductive Added (record : BuildRecord) (extraArgs : List String) (world : World σ) :
    Except Failure BuildResult × BuildRecord × World σ → Prop
  | nothing (answer : Except Failure BuildResult) (after : World σ)
      (unsuccessful : ∀ result, answer = .ok result → result.success = false)
      (builds : after.builds = world.builds) :
      Added record extraArgs world (answer, record, after)
  | build (answer : Except Failure BuildResult) (after : World σ)
      (trace : after.trace = world.trace ++
        [.ran (record.commandWith extraArgs) record.directory, .demangled record.artifact])
      (builds : after.builds =
        world.builds ++ [(record.artifact, record.commandWith extraArgs)]) :
      Added record extraArgs world (answer, { record with lastExtraArgs := extraArgs }, after)

theorem added {tools : Toolchain σ} (demangles : tools.Demangles) (record : BuildRecord)
    (extraArgs : List String) (world : World σ) :
    Added record extraArgs world (tools.execute record extraArgs world) := by
  have hexecuted := tools.executed record extraArgs world
  generalize tools.execute record extraArgs world = step at hexecuted
  have hran : buildsIn (world.trace ++
      [.ran (record.commandWith extraArgs) record.directory]) = world.builds :=
    (buildsIn_append_ran ..).trans (List.append_nil _)
  have hbuilt : buildsIn (world.trace ++
      [.ran (record.commandWith extraArgs) record.directory, .demangled record.artifact]) =
      world.builds ++ [(record.artifact, record.commandWith extraArgs)] :=
    buildsIn_append_ran ..
  cases hexecuted with
  | abandoned failure files state run =>
    refine .nothing _ _ (fun result hresult => ?_) hran
    cases hresult
  | failed outcome files state run code =>
    refine .nothing _ _ (fun result hresult => ?_) hran
    obtain rfl := Except.ok.inj hresult
    exact beq_eq_false_iff_ne.mpr code
  | undemangled outcome files state failure later run code demangle =>
    exact absurd (demangles record.artifact files) (by simp [demangle])
  | built outcome files state later run code demangle =>
    have htrace : ∀ events : List Event, world.trace ++
        [.ran (record.commandWith extraArgs) record.directory] ++ events = world.trace ++
          .ran (record.commandWith extraArgs) record.directory :: events :=
      fun events => List.append_assoc ..
    exact .build _ _ (htrace _) ((congrArg buildsIn (htrace _)).trans hbuilt)

end Toolchain

/-! ### Memory -/

namespace History

/-- The builds since the last attempt to load the database. -/
def recentBuilds (history : History σ) : List (Path × String) :=
  match history.attempts.head? with
  | some attempt => history.world.builds.drop attempt.world.builds.length
  | none => history.world.builds

/-- Records remember the last recent build of their artifact. -/
structure Memory (history : History σ) : Prop where
  earlier : ∀ attempt, history.attempts.head? = some attempt →
    attempt.world.builds.length ≤ history.world.builds.length
  remembered : ∀ artifact record,
    history.session.registry.recordFor artifact = some record →
      record.Remembers (lastBuild? artifact history.recentBuilds)

@[simp]
theorem builds_loaded (history : History σ) :
    history.loaded.world.builds = history.world.builds :=
  congrArg buildsIn (Session.trace_load _ _)

@[simp]
theorem builds_refreshed (history : History σ) :
    history.refreshed.world.builds = history.world.builds :=
  congrArg buildsIn (Session.trace_refresh _ _)

@[simp]
theorem recentBuilds_loaded (history : History σ) : history.loaded.recentBuilds = [] := by
  rw [recentBuilds, builds_loaded]
  exact List.drop_length

namespace Memory

variable {tools : Toolchain σ} {history : History σ}

theorem start (places : Settings.Places) (world : World σ) : (start places world).Memory where
  earlier _ hattempt := by cases hattempt
  remembered _ _ hrecord := by cases hrecord

/-- A load forgets, and what it registers remembers nothing. -/
theorem loaded (history : History σ) : history.loaded.Memory where
  earlier attempt hattempt := by
    obtain rfl := Option.some.inj hattempt
    exact (builds_loaded history).symm ▸ Nat.le_refl _
  remembered artifact record hrecord := by
    rw [recentBuilds_loaded]
    exact history.session.lastExtraArgs_load history.world hrecord

theorem refreshed (h : history.Memory) : history.refreshed.Memory := by
  have hrefreshed := history.refreshed_cases
  generalize history.refreshed = next at hrefreshed
  cases hrefreshed with
  | current fresh => exact h
  | loaded outdated => exact .loaded history
  | emptied outdated failure answer =>
    refine ⟨(Memory.loaded history).earlier, fun artifact record hrecord => ?_⟩
    cases hrecord

/-- Builds that are added are recent. -/
theorem append (h : history.Memory) {next : History σ} (builds : List (Path × String))
    (attempts : next.attempts = history.attempts)
    (added : next.world.builds = history.world.builds ++ builds)
    (remembered : ∀ artifact record,
      next.session.registry.recordFor artifact = some record →
        record.Remembers (lastBuild? artifact (history.recentBuilds ++ builds))) :
    next.Memory := by
  have hrecent : next.recentBuilds = history.recentBuilds ++ builds := by
    rw [recentBuilds, recentBuilds, attempts, added]
    cases hattempt : history.attempts.head? with
    | none => rfl
    | some attempt => exact List.drop_append_of_le_length (h.earlier attempt hattempt)
  refine ⟨fun attempt hattempt => ?_, fun artifact record hrecord => ?_⟩
  · rw [attempts] at hattempt
    rw [added, List.length_append]
    exact Nat.le_add_right_of_le (h.earlier attempt hattempt)
  · rw [hrecent]
    exact remembered artifact record hrecord

/-- Records remember as before if nothing is built and none of them changes. -/
theorem unchanged (h : history.Memory) {next : History σ}
    (attempts : next.attempts = history.attempts)
    (builds : next.world.builds = history.world.builds)
    (records : ∀ artifact,
      next.session.registry.recordFor artifact = history.session.registry.recordFor artifact) :
    next.Memory := by
  refine h.append [] attempts (builds.trans (List.append_nil _).symm) fun artifact record => ?_
  rw [records, List.append_nil]
  exact h.remembered artifact record

theorem executed (h : history.Memory) (demangles : tools.Demangles) (coherent : history.Coherent)
    {artifact : Path} {record : BuildRecord}
    (found : history.session.registry.recordFor artifact = some record) :
    (history.executed tools record).Memory := by
  have own := Registry.Coherent.recordFor_artifact coherent found
  have hadded := Toolchain.added demangles record history.session.extraArgs history.world
  unfold History.executed
  generalize tools.execute record history.session.extraArgs history.world = step at hadded
  cases hadded with
  | nothing answer after unsuccessful builds =>
    refine h.unchanged rfl builds fun other => ?_
    rw [Registry.recordFor_update record own]
    split_ifs with hother
    · rw [← hother, own]
    · rfl
  | build answer after trace builds =>
    refine h.append _ rfl builds fun other record' hrecord => ?_
    rw [lastBuild?_append, lastBuild?_singleton]
    rw [Registry.recordFor_update { record with lastExtraArgs := history.session.extraArgs } own]
      at hrecord
    split_ifs at hrecord ⊢ with hother
    · obtain rfl := Option.some.inj hrecord
      exact rfl
    · exact h.remembered other record' hrecord

theorem step (h : history.Memory) (demangles : tools.Demangles) (coherent : history.Coherent)
    {next : History σ} (step : Step tools history next) : next.Memory := by
  cases step with
  | act op =>
    have hacted := history.acted tools op
    generalize history.act tools op = next at hacted
    cases hacted with
    | loaded => exact .loaded history
    | refreshed => exact h.refreshed
    | withExtraArgs extraArgs => exact ⟨h.earlier, h.remembered⟩
    | executed artifact record found =>
      exact h.refreshed.executed demangles coherent.refreshed found
  | outside world host trace => exact h.unchanged rfl (congrArg buildsIn trace) fun _ => rfl

end Memory

/-- **Along every run, records remember the last recent build of their artifact.** -/
theorem Run.memory {tools : Toolchain σ} (demangles : tools.Demangles)
    {Discipline : History σ → History σ → Prop} {places : Settings.Places} {world : World σ}
    {history : History σ} (run : Run tools Discipline (start places world) history) :
    history.Memory := by
  induction run with
  | refl => exact .start places world
  | tail earlier step ih => exact ih.step demangles (Run.mirror earlier).coherent step.1

end History

end ArtifactLens
