import ArtifactLens.Proofs.Watch.Subscribers
import Mathlib.Data.List.Chain

/-!
# What an event does to a provider

An event on a watched path makes documents anew, one after the other. A `Rebuild` is the making of
one of them, in the state that the one before left: the document is built, or replaced by the error
that no record makes the artifact; it is kept; and then every listener is told.

**An event rebuilds what is subscribed to its paths, and nothing else**
(`Provider.receive_rebuilds`). The rebuilds follow the subscribers of the path in order, and then,
for a move, those of the destination. Afterwards each of their documents is that of its last
rebuild, and the others are as they were. The trace shows what the builds run, and after each build
one call of each listener, in the order in which they subscribed.

This holds as long as no build fails but for want of a record. Events on directories and changes
that leave the content as it is rebuild nothing.
-/

namespace ArtifactLens

variable {σ : Type}

/-! ### What a build notes -/

/-- The event belongs to the building of an artifact. -/
def Event.isBuild : Event → Bool
  | .ran .. | .demangled .. => true
  | _ => false

namespace World

/-- The events that were noted after a world. -/
def since (world later : World σ) : List Event := later.trace.drop world.trace.length

/-- All that was noted after a world belongs to builds. -/
def Builds (world later : World σ) : Prop :=
  ∃ events, later.trace = world.trace ++ events ∧ ∀ event ∈ events, event.isBuild = true

theorem Builds.since {world later : World σ} (h : world.Builds later) :
    later.trace = world.trace ++ world.since later ∧
      ∀ event ∈ world.since later, event.isBuild = true := by
  obtain ⟨events, htrace, builds⟩ := h
  have hsince : world.since later = events := by rw [World.since, htrace, List.drop_left]
  rw [hsince]
  exact ⟨htrace, builds⟩

theorem Builds.of_trace {world later : World σ} (h : later.trace = world.trace) :
    world.Builds later := ⟨[], h.trans (List.append_nil _).symm, nofun⟩

end World

theorem Toolchain.builds_execute (tools : Toolchain σ) (record : BuildRecord)
    (extraArgs : List String) (world : World σ) :
    world.Builds (tools.execute record extraArgs world).2.2 := by
  have hexecuted := tools.executed record extraArgs world
  generalize tools.execute record extraArgs world = step at hexecuted
  cases hexecuted with
  | abandoned | failed => exact ⟨[.ran _ _], rfl, by simp [Event.isBuild]⟩
  | undemangled | built =>
    exact ⟨[.ran _ _, .demangled _], List.append_assoc .., by simp [Event.isBuild]⟩

/-- Compiling notes what it runs, and nothing else. -/
theorem Session.builds_compile (tools : Toolchain σ) (artifact : Path) (session : Session)
    (world : World σ) : world.Builds (session.compile tools artifact world).2.2 := by
  have hrefresh := session.trace_refresh world
  have hcompiled := session.compiled tools artifact world
  generalize session.compile tools artifact world = step at hcompiled
  cases hcompiled with
  | broken failure later after refresh | unknown later after refresh
  | upToDate later after record refresh =>
    rw [refresh] at hrefresh
    exact .of_trace hrefresh
  | executed later after record refresh =>
    rw [refresh] at hrefresh
    obtain ⟨events, htrace, builds⟩ := tools.builds_execute record later.extraArgs after
    exact ⟨events, by rw [htrace, hrefresh], builds⟩

/-- What no record makes cannot be built. -/
theorem Session.compile_of_recordFor {tools : Toolchain σ} {artifact : Path} {session : Session}
    {world : World σ} (gone : (session.recordFor artifact world).1 = .ok none) :
    (session.compile tools artifact world).1 = .error (.noRecord artifact) := by
  rw [compile]
  rcases asked : session.recordFor artifact world with ⟨answer, later, after⟩
  rw [asked] at gone
  obtain rfl : answer = .ok none := gone
  rfl

/-! ### Rebuilds -/

namespace Provider

/-- The making of the document of an artifact anew, and the state in which it starts. -/
structure Rebuild (σ : Type) where
  artifact : Path
  before : Provider × Session × World σ

namespace Rebuild

variable (tools : Toolchain σ) (rebuild : Rebuild σ)

/-- What building the document comes to. -/
def built : Session.Step σ Document :=
  Document.build tools rebuild.before.1.binary rebuild.artifact rebuild.before.2.1
    rebuild.before.2.2

/-- The document: the one that was built, or the failure in its place. -/
def document : Document :=
  match (rebuild.built tools).1 with
  | .ok document => document
  | .error failure => .failed rebuild.artifact failure.message

/-- After the document was kept. -/
def stored : Provider × Session × World σ :=
  (rebuild.before.1.keep rebuild.artifact (rebuild.document tools), (rebuild.built tools).2)

/-- After the listeners were told. -/
def told : Provider × Session × World σ :=
  let state := rebuild.stored tools
  (state.1, state.2.1, state.1.notify rebuild.artifact state.2.2)

/-- The building fails for want of a record at most. -/
def IsClean : Prop :=
  ∀ failure, (rebuild.built tools).1 = .error failure → failure.category = .lookup

variable {tools rebuild}

/-- A reload that does not fail is a rebuild. -/
theorem reload_eq (clean : rebuild.IsClean tools) :
    rebuild.before.1.reload tools rebuild.artifact rebuild.before.2.1 rebuild.before.2.2 =
      (.ok (), rebuild.told tools) := by
  have hbuilt : rebuild.built tools = Document.build tools rebuild.before.1.binary
      rebuild.artifact rebuild.before.2.1 rebuild.before.2.2 := rfl
  rw [reload, ← hbuilt, told, stored, document]
  rcases built : rebuild.built tools with ⟨failure | document, later⟩
  · have lookup := clean failure (by rw [built])
    simp only [if_pos lookup]
    rfl
  · rfl

/-- Without a record the document says so. -/
theorem document_of_recordFor
    (gone : (rebuild.before.2.1.recordFor rebuild.artifact rebuild.before.2.2).1 = .ok none) :
    rebuild.document tools =
      .failed rebuild.artifact (Failure.noRecord rebuild.artifact).message := by
  have failed : (rebuild.before.2.1.compile tools rebuild.artifact rebuild.before.2.2).1 = _ :=
    Session.compile_of_recordFor gone
  rw [document, built, Document.build]
  rcases compiled : rebuild.before.2.1.compile tools rebuild.artifact rebuild.before.2.2 with
    ⟨answer, later, after⟩
  rw [compiled] at failed
  obtain rfl : answer = .error (.noRecord rebuild.artifact) := failed
  rfl

theorem builds_built (rebuild : Rebuild σ) :
    rebuild.before.2.2.Builds (rebuild.built tools).2.2 := by
  rw [built, Document.build_snd]
  exact Session.builds_compile ..

/-- A rebuild keeps the document, runs what it takes, and then tells every listener once. -/
theorem trace_told : (rebuild.told tools).2.2.trace =
    rebuild.before.2.2.trace ++ (rebuild.before.2.2.since (rebuild.built tools).2.2 ++
      rebuild.before.1.listeners.map (.notified · rebuild.artifact)) := by
  have hlisteners : (rebuild.stored tools).1.listeners = rebuild.before.1.listeners := rfl
  rw [told, notify, World.foldl_note (Event.notified · rebuild.artifact), hlisteners]
  dsimp only
  rw [← List.append_assoc, ← rebuild.builds_built.since.1]
  rfl

end Rebuild

/-- The rebuilds of artifacts, each in the state that the one before left. -/
@[grind =]
def rebuilds (tools : Toolchain σ) : List Path → Provider × Session × World σ → List (Rebuild σ)
  | [], _ => []
  | artifact :: rest, before =>
    let rebuild : Rebuild σ := ⟨artifact, before⟩
    rebuild :: rebuilds tools rest (rebuild.told tools)

/-- The state after the last of some rebuilds. -/
def final (tools : Toolchain σ) (before : Provider × Session × World σ)
    (rebuilds : List (Rebuild σ)) : Provider × Session × World σ :=
  rebuilds.getLast?.elim before (·.told tools)

/-- The document of the last of some rebuilds of an artifact. -/
def lastDocument (tools : Toolchain σ) (artifact : Path) (rebuilds : List (Rebuild σ)) :
    Option Document :=
  (rebuilds.filter (·.artifact = artifact)).getLast?.map (·.document tools)

theorem final_cons (tools : Toolchain σ) (before : Provider × Session × World σ)
    (rebuild : Rebuild σ) (rest : List (Rebuild σ)) :
    final tools before (rebuild :: rest) = final tools (rebuild.told tools) rest := by
  rw [final, final, List.getLast?_cons]
  cases rest.getLast? <;> rfl

theorem lastDocument_cons (tools : Toolchain σ) (artifact : Path) (rebuild : Rebuild σ)
    (rest : List (Rebuild σ)) :
    lastDocument tools artifact (rebuild :: rest) =
      (lastDocument tools artifact rest).or
        (if rebuild.artifact = artifact then some (rebuild.document tools) else none) := by
  rw [lastDocument, lastDocument, List.filter_cons]
  by_cases same : rebuild.artifact = artifact
  · rw [if_pos (decide_eq_true same), if_pos same, List.getLast?_cons]
    cases (rest.filter (·.artifact = artifact)).getLast? <;> rfl
  · rw [if_neg (by simpa using same), if_neg same, Option.or_none]

section

variable (tools : Toolchain σ)

theorem map_artifact_rebuilds (artifacts : List Path) (before : Provider × Session × World σ) :
    (rebuilds tools artifacts before).map (·.artifact) = artifacts := by
  induction artifacts generalizing before with
  | nil => rfl
  | cons artifact rest ih => rw [rebuilds, List.map_cons, ih]

theorem head_rebuilds (artifacts : List Path) (before : Provider × Session × World σ) :
    ∀ rebuild ∈ (rebuilds tools artifacts before).head?, rebuild.before = before := by
  intro rebuild hrebuild
  cases artifacts with
  | nil => exact absurd hrebuild (Option.not_mem_none rebuild)
  | cons artifact rest =>
    rw [rebuilds, List.head?_cons, Option.mem_some_iff] at hrebuild
    rw [← hrebuild]

/-- Each rebuild starts in the state that the one before left. -/
theorem isChain_rebuilds (artifacts : List Path) (before : Provider × Session × World σ) :
    (rebuilds tools artifacts before).IsChain fun earlier later =>
      later.before = earlier.told tools := by
  induction artifacts generalizing before with
  | nil => exact .nil
  | cons artifact rest ih =>
    rw [rebuilds, List.isChain_cons]
    exact ⟨head_rebuilds tools rest _, ih _⟩

/-- Reloads that do not fail are rebuilds. -/
theorem reloadAll_eq (artifacts : List Path) (before : Provider × Session × World σ)
    (clean : ∀ rebuild ∈ rebuilds tools artifacts before, rebuild.IsClean tools) :
    reloadAll tools artifacts before.1 before.2.1 before.2.2 =
      (.ok (), final tools before (rebuilds tools artifacts before)) := by
  induction artifacts generalizing before with
  | nil => rfl
  | cons artifact rest ih =>
    let rebuild : Rebuild σ := ⟨artifact, before⟩
    have hreload : before.1.reload tools artifact before.2.1 before.2.2 =
        (.ok (), rebuild.told tools) :=
      Rebuild.reload_eq (clean rebuild List.mem_cons_self)
    have hrest := ih (rebuild.told tools) fun later hlater =>
      clean later (List.mem_cons_of_mem rebuild hlater)
    rw [reloadAll, hreload, rebuilds, final_cons]
    exact hrest

/-- Rebuilds leave all of a provider but its documents as it was. -/
theorem final_rebuilds (artifacts : List Path) (before : Provider × Session × World σ) :
    let provider := (final tools before (rebuilds tools artifacts before)).1
    { provider with documents := before.1.documents } = before.1 := by
  induction artifacts generalizing before with
  | nil => rfl
  | cons artifact rest ih =>
    rw [rebuilds, final_cons]
    exact congrArg (fun provider : Provider =>
      { provider with documents := before.1.documents }) (ih _)

/-- Rebuilds leave behind the document of the last one for each artifact. -/
theorem get?_final_rebuilds (artifacts : List Path) (before : Provider × Session × World σ)
    (artifact : Path) :
    (final tools before (rebuilds tools artifacts before)).1.documents.get? artifact =
      (lastDocument tools artifact (rebuilds tools artifacts before)).or
        (before.1.documents.get? artifact) := by
  induction artifacts generalizing before with
  | nil => rfl
  | cons first rest ih =>
    rw [rebuilds, final_cons, lastDocument_cons, ih, Option.or_assoc]
    -- what the first rebuild keeps counts only where no later one keeps anything
    congr 1
    rw [Rebuild.told, Rebuild.stored, keep]
    dsimp only
    rw [Table.get?_insert]
    split_ifs <;> rfl

theorem trace_final_rebuilds (artifacts : List Path) (before : Provider × Session × World σ) :
    (final tools before (rebuilds tools artifacts before)).2.2.trace =
      before.2.2.trace ++ (rebuilds tools artifacts before).flatMap fun rebuild =>
        rebuild.before.2.2.since (rebuild.built tools).2.2 ++
          before.1.listeners.map (.notified · rebuild.artifact) := by
  induction artifacts generalizing before with
  | nil => exact (List.append_nil _).symm
  | cons artifact rest ih =>
    rw [rebuilds, final_cons, ih, Rebuild.trace_told, List.flatMap_cons, List.append_assoc]
    rfl

end

/-- **An event rebuilds what is subscribed to its paths.** Let a provider in a state that it reaches
have an observer at work, and let no build that an event leads to fail but for want of a record. The
rebuilds are those of the subscribers of the path, and then of those of the destination, if there is
one; in both the subscribers come strictly one before the other. Each rebuild starts in the state
that the one before left: it keeps the document that it built, or the error, which says that there
is no record where there is none, and only then tells the listeners. Afterwards the documents are
those of the last rebuilds, and all else of the provider is as it was. The trace shows what each
build runs, followed by one call of each listener. An event on a directory, or one that leaves the
content as it is, changes nothing. -/
theorem receive_rebuilds {tools : Toolchain σ} {places : Settings.Places} {provider : Provider}
    {session : Session} {world : World σ}
    (reachable : Reachable tools places (provider, session, world))
    (live : provider.watches.directories ≠ []) (event : FileEvent) :
    let subscribers := provider.watches.subscribers
    let all := rebuilds tools (event.paths.flatMap subscribers) (provider, session, world)
    let step := provider.receive tools event session world
    (∀ rebuild ∈ all, rebuild.IsClean tools) →
    step = (.ok (), final tools (provider, session, world) all) ∧
    (event.isDirectory = true ∨ event.change = .other → step = (.ok (), provider, session, world)) ∧
    (event.isDirectory = false → event.change ≠ .other →
      all.map (·.artifact) =
        subscribers event.path ++ event.destination.elim [] subscribers) ∧
    (∀ path, (subscribers path).Pairwise Path.Before ∧ ∀ artifact, artifact ∈ subscribers path ↔
      artifact ∈ (provider.watches.subscriptions.get? path).getD []) ∧
    (∀ rebuild ∈ all.head?, rebuild.before = (provider, session, world)) ∧
    (all.IsChain fun earlier later => later.before = earlier.told tools) ∧
    (∀ rebuild ∈ all,
      (rebuild.stored tools).1.documents.get? rebuild.artifact = some (rebuild.document tools) ∧
      (∀ event ∈ rebuild.before.2.2.since (rebuild.stored tools).2.2, event.isBuild = true) ∧
      ((rebuild.before.2.1.recordFor rebuild.artifact rebuild.before.2.2).1 = .ok none →
        rebuild.document tools =
          .failed rebuild.artifact (Failure.noRecord rebuild.artifact).message)) ∧
    (∀ artifact, step.2.1.documents.get? artifact =
      (lastDocument tools artifact all).or (provider.documents.get? artifact)) ∧
    { step.2.1 with documents := provider.documents } = provider ∧
    step.2.2.2.trace = world.trace ++ all.flatMap fun rebuild =>
      rebuild.before.2.2.since (rebuild.stored tools).2.2 ++
        provider.listeners.map (.notified · rebuild.artifact) := by
  intro subscribers all step clean
  have heard : provider.watches.heard event = event.paths.flatMap subscribers :=
    if_neg (by simpa using live)
  have hstep : step = (.ok (), final tools (provider, session, world) all) := by
    have hreloads := reloadAll_eq tools _ _ clean
    rw [← heard] at hreloads
    exact hreloads.trans (by rw [heard])
  have artifacts : all.map (·.artifact) = event.paths.flatMap subscribers :=
    map_artifact_rebuilds ..
  refine ⟨hstep, fun ignored => ?_, fun file content => ?_, fun path => ⟨?_, fun artifact => ?_⟩,
    head_rebuilds tools _ _, isChain_rebuilds .., fun rebuild _ => ⟨?_, ?_, ?_⟩,
    fun artifact => ?_, ?_, ?_⟩
  · have paths : event.paths = [] := if_pos (by simpa using ignored)
    rw [paths] at artifacts
    rw [hstep, List.map_eq_nil_iff.mp artifacts]
    rfl
  · have paths : event.paths = event.path :: event.destination.toList :=
      if_neg (by simp [file, content])
    rw [artifacts, paths, List.flatMap_cons]
    cases event.destination with
    | none => rfl
    | some destination => exact congrArg _ (List.flatMap_singleton _ _)
  · exact reachable.pairwise_subscribers path
  · exact WatchTable.mem_subscribers
  · rw [Rebuild.stored, keep, Table.get?_insert, if_pos rfl]
  · exact rebuild.builds_built.since.2
  · exact Rebuild.document_of_recordFor
  · rw [hstep]
    exact get?_final_rebuilds ..
  · rw [hstep]
    exact final_rebuilds tools _ (provider, session, world)
  · rw [hstep]
    exact trace_final_rebuilds ..

open Sample in
/-- In the small project, a listing is requested, the database is written later, and an event tells
so: the listing is built anew, and the listener hears of it afterwards. -/
theorem receive_rebuilds_listing :
    let listener := Listener.named "editor" 0
    let first := (Op.document artifact).perform tools ((start false).subscribe listener)
      (Session.start places) newWorld
    let world : World Unit := { first.2.2 with files := built "c" 3000 }
    let event : FileEvent := ⟨.modified, places.database, none, false⟩
    let step := first.1.receive tools event first.2.1 world
    step.1 = .ok () ∧ step.2.1.documents.get? artifact = some { artifact } ∧
      step.2.2.2.trace = world.trace ++
        [.ran (listing "c") ⟨.root, []⟩, .demangled artifact, .notified listener artifact] := by
  intro listener first world event step
  have requested : Reachable tools places (first.1, first.2.1, first.2.2) :=
    Reachable.act (.document artifact) (Reachable.act (.subscribe listener) (.start false newWorld))
  have reachable : Reachable tools places (first.1, first.2.1, world) := by
    refine Reachable.outside world ?_ requested
    rfl
  have live : first.1.watches.directories ≠ [] := by decide +kernel
  have one : event.paths.flatMap first.1.watches.subscribers = [artifact] := by decide +kernel
  have clean : ∀ rebuild ∈ rebuilds tools (event.paths.flatMap first.1.watches.subscribers)
      (first.1, first.2.1, world), rebuild.IsClean tools := by
    intro rebuild hrebuild failure failed
    rw [one, rebuilds, rebuilds, List.mem_singleton] at hrebuild
    have made : ((Document.build tools first.1.binary artifact first.2.1 world).1).isOk = true := by
      decide +kernel
    rw [hrebuild, Rebuild.built] at failed
    rw [failed] at made
    cases made
  obtain ⟨answer, -, -, -, -, -, -, documents, -, trace⟩ :=
    receive_rebuilds reachable live event clean
  refine ⟨congrArg Prod.fst answer, (documents artifact).trans ?_, trace.trans ?_⟩
  · rw [one]
    decide +kernel
  · rw [one]
    decide +kernel

end Provider

end ArtifactLens
