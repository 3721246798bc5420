import ArtifactLens.Proofs.Provider.Stable
import ArtifactLens.Proofs.Watch.Observer

/-!
# Disposing of a provider

**A provider that was disposed of is as good as new** (`Provider.run_disposed`). Whatever it was
asked before, and however often it is disposed of in a row, what it is asked afterwards it answers
as a provider that was just made over the same session and the same files would. It runs the same
commands, makes the same calls of observers and tells the same listeners. Another disposal right
after the first does nothing at all.

Disposing leaves no subscription, no document and no listener behind, so all that tells the two
providers apart is what the trace held before. But nothing that a provider or its session does
depends on the trace: whatever comes before it (`World.after`) comes before it afterwards.
-/

namespace ArtifactLens

variable {σ : Type}

/-! ### What came before -/

/-- The world with events before its trace. -/
def World.after (events : List Event) (world : World σ) : World σ :=
  { world with trace := events ++ world.trace }

namespace Session

variable (events : List Event) (session : Session) (world : World σ)

/-- A step of a session with events before the trace. -/
def Step.after {α : Type} (step : Step σ α) : Step σ α :=
  (step.1, step.2.1, step.2.2.after events)

theorem load_after : session.load (world.after events) = (session.load world).after events := by
  rw [load, load, World.after]
  dsimp only
  cases Database.commands world.host world.files session.database with
  | error failure => rfl
  | ok commands =>
    dsimp only
    cases world.files.makeDirectory world.host (outputDir _) <;> rfl

theorem refresh_after :
    session.refresh (world.after events) = (session.refresh world).after events := by
  have outdated : session.isOutdated (world.after events) = session.isOutdated world := rfl
  rw [refresh, outdated, load_after, refresh]
  by_cases h : session.isOutdated world = true
  · rw [if_pos h, if_pos h]
    rcases session.load world with ⟨failure | count, later, after⟩
    · by_cases pipeline : failure.isPipeline = true
      · simp only [Step.after, if_pos pipeline]
      · simp only [Step.after, if_neg pipeline]
    · rfl
  · rw [if_neg h, if_neg h]
    rfl

theorem query_after {α : Type} (answer : Registry → α) :
    query answer session (world.after events) = (query answer session world).after events := by
  rw [query, refresh_after, query]
  rcases session.refresh world with ⟨failure | _, later, after⟩ <;> rfl

end Session

theorem Toolchain.execute_after (tools : Toolchain σ) (events : List Event) (record : BuildRecord)
    (extraArgs : List String) (world : World σ) :
    tools.execute record extraArgs (world.after events) =
      let step := tools.execute record extraArgs world
      (step.1, step.2.1, step.2.2.after events) := by
  rw [execute, execute, ← BuildRecord.commandWith]
  rcases run : tools.run (record.commandWith extraArgs) record.directory world.files world.tools
    with ⟨failure | outcome, files, state⟩
  · simp only [World.note, World.after, run, List.append_assoc]
  · simp only [World.note, World.after, run]
    by_cases code : (outcome.exitCode == some 0) = true
    · rcases demangle : tools.demangle record.artifact files with ⟨failure | _, later⟩
      · simp only [if_pos code, demangle, List.append_assoc]
      · simp only [if_pos code, demangle, List.append_assoc]
    · simp only [if_neg code, List.append_assoc]

theorem Session.compile_after (tools : Toolchain σ) (artifact : Path) (events : List Event)
    (session : Session) (world : World σ) :
    session.compile tools artifact (world.after events) =
      (session.compile tools artifact world).after events := by
  rw [compile, recordFor, query_after, compile, recordFor]
  rcases query (·.recordFor artifact) session world with ⟨failure | _ | record, later, after⟩
  · rfl
  · rfl
  · dsimp only [Step.after]
    have needsBuild : record.needsBuild (after.after events).host (after.after events).files
        later.extraArgs later.database =
        record.needsBuild after.host after.files later.extraArgs later.database := rfl
    rw [needsBuild, Toolchain.execute_after]
    split_ifs <;> rfl

theorem Document.build_after (tools : Toolchain σ) (binary : Bool) (artifact : Path)
    (events : List Event) (session : Session) (world : World σ) :
    build tools binary artifact session (world.after events) =
      (build tools binary artifact session world).after events := by
  rw [build, Session.compile_after, build]
  rcases session.compile tools artifact world with ⟨failure | result, later, after⟩
  · rfl
  · dsimp only [Session.Step.after]
    split_ifs <;> rfl

/-! ### Providers -/

namespace WatchTable

variable (table : WatchTable) (events : List Event) (world : World σ)

theorem watch_after (path subscriber : Path) :
    table.watch path subscriber (world.after events) =
      let step := table.watch path subscriber world
      (step.1, step.2.after events) := by
  have isDirectory : (world.after events).files.isDirectory (world.after events).host path.parent =
      world.files.isDirectory world.host path.parent := rfl
  rw [watch_eq, watch_eq, isDirectory]
  by_cases idle : path.parent ∈ table.directories ∨
      world.files.isDirectory world.host path.parent = false
  · rw [if_pos idle, if_pos idle]
  · rw [if_neg idle, if_neg idle]
    simp only [World.after, List.append_assoc]

theorem close_after :
    table.close (world.after events) =
      let step := table.close world
      (step.1, step.2.after events) := by
  rw [close_eq, close_eq]
  simp only [World.after, List.append_assoc]

end WatchTable

namespace Provider

variable (tools : Toolchain σ) (events : List Event) (session : Session) (world : World σ)

/-- A step of a provider with events before the trace. -/
def Step.after {α : Type} (step : Step σ α) : Step σ α :=
  (step.1, step.2.1, step.2.2.1, step.2.2.2.after events)

theorem document_after (artifact : Path) (provider : Provider) :
    provider.document tools artifact session (world.after events) =
      (provider.document tools artifact session world).after events := by
  rw [document, Document.build_after, document]
  cases provider.documents.get? artifact with
  | some document => rfl
  | none =>
    dsimp only
    rcases Document.build tools provider.binary artifact session world with
      ⟨failure | document, later, after⟩
    · rfl
    · dsimp only [Session.Step.after]
      rw [Session.sourceFor, Session.query_after]
      rcases Session.query (·.sourceFor artifact) later after with
        ⟨failure | _ | source, last, final⟩
      · rfl
      · simp only [Session.Step.after, WatchTable.watch_after]
        rfl
      · simp only [Session.Step.after, WatchTable.watch_after]
        rfl

theorem request_after (source : Path) (kind : Kind) (provider : Provider) :
    provider.request tools source kind session (world.after events) =
      (provider.request tools source kind session world).after events := by
  rw [request, Session.artifactFor, Session.query_after, request, Session.artifactFor]
  rcases Session.query (·.artifactFor source kind) session world with
    ⟨failure | _ | artifact, later, after⟩
  · rfl
  · rfl
  · dsimp only [Session.Step.after]
    rw [document_after]
    rcases provider.document tools artifact later after with ⟨failure | document, final⟩ <;> rfl

theorem notify_after (artifact : Path) (provider : Provider) :
    provider.notify artifact (world.after events) =
      (provider.notify artifact world).after events := by
  rw [notify, notify, World.foldl_note (Event.notified · artifact),
    World.foldl_note (Event.notified · artifact), World.after, World.after, List.append_assoc]

theorem reload_after (artifact : Path) (provider : Provider) :
    provider.reload tools artifact session (world.after events) =
      (provider.reload tools artifact session world).after events := by
  rw [reload, Document.build_after, reload]
  rcases Document.build tools provider.binary artifact session world with
    ⟨failure | document, later, after⟩
  · dsimp only [Session.Step.after]
    by_cases lookup : failure.category = .lookup
    · simp only [if_pos lookup, notify_after]
      rfl
    · simp only [if_neg lookup]
      rfl
  · dsimp only [Session.Step.after]
    rw [notify_after]
    rfl

theorem reloadAll_after (artifacts : List Path) (provider : Provider) (session : Session)
    (world : World σ) :
    provider.reloadAll tools artifacts session (world.after events) =
      (provider.reloadAll tools artifacts session world).after events := by
  induction artifacts generalizing provider session world with
  | nil => rfl
  | cons artifact rest ih =>
    rw [reloadAll, reload_after, reloadAll]
    rcases provider.reload tools artifact session world with ⟨failure | _, later, last, final⟩
    · rfl
    · exact ih later last final

theorem dispose_after (provider : Provider) :
    provider.dispose (world.after events) =
      ((provider.dispose world).1, (provider.dispose world).2.after events) := by
  rw [dispose, WatchTable.close_after]
  rfl

/-! ### Runs -/

/-- What a provider answers. -/
inductive Answer where
  | done (result : Except Failure Unit)
  | document (result : Except Failure Document)
  | text (result : Except Failure String)

/-- What an operation answers. -/
def Op.answer (tools : Toolchain σ) (provider : Provider) (session : Session) (world : World σ) :
    Op → Answer
  | document artifact => .document (provider.document tools artifact session world).1
  | request source kind => .text (provider.request tools source kind session world).1
  | reload artifact => .done (provider.reload tools artifact session world).1
  | receive event => .done (provider.receive tools event session world).1
  | setExtraArgs _ | subscribe _ | unsubscribe _ | dispose => .done (.ok ())

/-- What may happen to a provider at work. -/
inductive Move (σ : Type) where
  | act (op : Op)
  /-- Others change the files, the clock and the state of the tools. -/
  | outside (files : FileSystem) (clock : Instant) (state : σ)

/-- What a move makes of a provider, its session and its world, and what it answers. -/
def Move.perform (tools : Toolchain σ) (state : Provider × Session × World σ) :
    Move σ → Option Answer × Provider × Session × World σ
  | act op =>
    (some (op.answer tools state.1 state.2.1 state.2.2),
      op.perform tools state.1 state.2.1 state.2.2)
  | outside files clock tools => (none, state.1, state.2.1, { state.2.2 with files, clock, tools })

/-- The answers that moves get, one after the other, and the state afterwards. -/
def run (tools : Toolchain σ) (state : Provider × Session × World σ) :
    List (Move σ) → List Answer × Provider × Session × World σ
  | [] => ([], state)
  | move :: rest =>
    let step := move.perform tools state
    let (answers, last) := run tools step.2 rest
    (step.1.toList ++ answers, last)

theorem Op.answer_after (op : Op) (provider : Provider) :
    op.answer tools provider session (world.after events) =
      op.answer tools provider session world := by
  cases op with
  | document artifact => rw [answer, document_after]; rfl
  | request source kind => rw [answer, request_after]; rfl
  | reload artifact => rw [answer, reload_after]; rfl
  | receive event => rw [answer, Provider.receive, reloadAll_after]; rfl
  | setExtraArgs | subscribe | unsubscribe | dispose => rfl

theorem Op.perform_after (op : Op) (provider : Provider) :
    op.perform tools provider session (world.after events) =
      let state := op.perform tools provider session world
      (state.1, state.2.1, state.2.2.after events) := by
  cases op with
  | document artifact => rw [perform, document_after]; rfl
  | request source kind => rw [perform, request_after]; rfl
  | reload artifact => rw [perform, reload_after]; rfl
  | receive event => rw [perform, Provider.receive, reloadAll_after]; rfl
  | setExtraArgs | subscribe | unsubscribe => rfl
  | dispose => rw [perform, dispose_after]; rfl

/-- Nothing that happens depends on what came before. -/
theorem run_after (moves : List (Move σ)) (provider : Provider) (session : Session)
    (world : World σ) :
    run tools (provider, session, world.after events) moves =
      let result := run tools (provider, session, world) moves
      (result.1, result.2.1, result.2.2.1, result.2.2.2.after events) := by
  induction moves generalizing provider session world with
  | nil => rfl
  | cons move rest ih =>
    cases move with
    | act op =>
      rw [run, Move.perform]
      dsimp only
      rw [Op.answer_after, Op.perform_after, ih]
      rfl
    | outside files clock state =>
      have rest := ih provider session { world with files, clock, tools := state }
      exact congrArg (fun result : List Answer × Provider × Session × World σ =>
        ([] ++ result.1, result.2)) rest

theorem run_append (earlier further : List (Move σ)) (state : Provider × Session × World σ) :
    run tools state (earlier ++ further) =
      let first := run tools state earlier
      let second := run tools first.2 further
      (first.1 ++ second.1, second.2) := by
  induction earlier generalizing state with
  | nil => rfl
  | cons move rest ih =>
    rw [List.cons_append, run, ih, run]
    dsimp only
    rw [List.append_assoc]

/-! ### Disposals -/

/-- Disposing leaves nothing behind. -/
theorem dispose_eq (provider : Provider) (world : World σ) :
    ∃ events, provider.dispose world =
      (start provider.binary, { world with trace := world.trace ++ events }) := by
  rw [dispose, WatchTable.close_eq]
  exact ⟨_, rfl⟩

/-- No operation makes listings of binaries out of others. -/
theorem stable_binary (binary : Bool) : Stable σ (·.binary = binary) where
  keep same _ _ := same
  follow same _ _ _ _ := same
  listen same _ := same
  dispose same _ := same

theorem binary_run (moves : List (Move σ)) (state : Provider × Session × World σ) :
    (run tools state moves).2.1.binary = state.1.binary := by
  induction moves generalizing state with
  | nil => rfl
  | cons move rest ih =>
    have hperform : (move.perform tools state).2.1.binary = state.1.binary := by
      cases move with
      | act op => exact (stable_binary _).perform tools rfl op state.2.1 state.2.2
      | outside => rfl
    exact (ih _).trans hperform

/-- A provider that keeps nothing is disposed of by doing nothing. -/
theorem run_dispose_start (binary : Bool) (times : Nat) :
    (run tools (start binary, session, world) (List.replicate times (.act .dispose))).2 =
      (start binary, session, world) := by
  induction times with
  | zero => rfl
  | succ times ih => exact ih

/-- Any disposals in a row leave a provider that keeps nothing. -/
theorem run_disposals (provider : Provider) (moves : List (Move σ)) :
    ∃ last final, ∀ times,
      (run tools (provider, session, world)
        (moves ++ List.replicate (times + 1) (.act .dispose))).2 =
      (start provider.binary, last, final) := by
  have binary := binary_run tools moves (provider, session, world)
  rcases hrun : run tools (provider, session, world) moves with ⟨answers, later, last, after⟩
  rw [hrun] at binary
  obtain ⟨events, disposed⟩ := later.dispose_eq after
  refine ⟨last, { after with trace := after.trace ++ events }, fun times => ?_⟩
  have first : (Move.act Op.dispose).perform tools (later, last, after) =
      (some (.done (.ok ())), start provider.binary, last,
        { after with trace := after.trace ++ events }) := by
    rw [Move.perform, Op.perform, disposed, binary]
    rfl
  rw [run_append, hrun]
  dsimp only
  rw [List.replicate_succ, run, first]
  exact run_dispose_start ..

/-- **A provider that was disposed of is as good as new.** Let a provider be at work, then be
disposed of once or more often, and then be at work again. In this last part it answers as a
provider that was just made would over the same session and the same world, whatever its trace: the
answers are the same, the two providers, their sessions and their worlds end up the same, and the
same events are added to both traces. It makes no difference how often the provider was disposed
of. -/
theorem run_disposed (tools : Toolchain σ) (provider : Provider) (session : Session)
    (world : World σ) (earlier further : List (Move σ)) (again : Nat) (trace : List Event) :
    let disposals (times : Nat) := List.replicate times (Move.act Op.dispose)
    let used := (run tools (provider, session, world) (earlier ++ disposals (again + 1))).2
    let new := (start provider.binary, used.2.1, { used.2.2 with trace })
    let left := run tools used further
    let right := run tools new further
    left.1 = right.1 ∧ left.2.1 = right.2.1 ∧ left.2.2.1 = right.2.2.1 ∧
      { left.2.2.2 with trace := right.2.2.2.trace } = right.2.2.2 ∧
      (∃ events, left.2.2.2.trace = used.2.2.trace ++ events ∧
        right.2.2.2.trace = trace ++ events) ∧
      used = (run tools (provider, session, world) (earlier ++ disposals 1)).2 := by
  intro disposals used new left right
  obtain ⟨last, final, hused⟩ := run_disposals tools session world provider earlier
  have hleft : used = (start provider.binary, last, final) := hused again
  have once : used = (run tools (provider, session, world) (earlier ++ disposals 1)).2 :=
    hleft.trans (hused 0).symm
  clear_value used
  subst hleft
  -- both runs are the one from an empty trace, with what came before put in front
  let blank : World σ := { final with trace := [] }
  have split (before : List Event) : { final with trace := before } = blank.after before := by
    rw [World.after, List.append_nil]
  have hleft : left = run tools (start provider.binary, last, blank.after final.trace) further := by
    rw [← split]
  have hright : right = run tools (start provider.binary, last, blank.after trace) further := by
    rw [← split]
  rw [hleft, hright, run_after, run_after]
  exact ⟨rfl, rfl, rfl, rfl, ⟨_, rfl, rfl⟩, once⟩

end Provider

end ArtifactLens
