import ArtifactLens.Proofs.Provider.Coverage
import ArtifactLens.Proofs.Provider.Faults
import ArtifactLens.Proofs.Session.Lookups

/-!
# Lookups and requests

A provider asks its session for an artifact first and then makes the document of it, which looks
the artifact up again. **The two agree** (`Provider.lookups_agree`): a request fails for want of a
record exactly when the session has no artifact for the source, and then nothing was done but what
a lookup does. This holds in every state that a provider and its session reach, whatever is asked
of the two and however others change the world in between (`Provider.Reachable`).

All that a provider does to its session is to ask it, and all that it does to the world beyond that
is to take note of watches and listeners. So a session that is used by a provider is in a state
that it could have reached on its own (`Provider.Reachable.session`).
-/

namespace ArtifactLens

variable {σ : Type}

/-! ### Reachable states -/

/-- The states that a session and the world reach, on one host. -/
inductive Session.Reachable (tools : Toolchain σ) (places : Settings.Places) :
    Session × World σ → Prop
  | start (world : World σ) : Reachable tools places (.start places, world)
  | act {session : Session} {world : World σ} (op : Session.Op)
      (before : Reachable tools places (session, world)) :
      Reachable tools places (op.perform tools session world)
  /-- Others change the world. -/
  | outside {session : Session} {world : World σ} (other : World σ)
      (host : other.host = world.host) (before : Reachable tools places (session, world)) :
      Reachable tools places (session, other)

/-- The states that a provider, its session and the world reach, on one host. -/
inductive Provider.Reachable (tools : Toolchain σ) (places : Settings.Places) :
    Provider × Session × World σ → Prop
  | start (binary : Bool) (world : World σ) :
      Reachable tools places (.start binary, .start places, world)
  | act {provider : Provider} {session : Session} {world : World σ} (op : Provider.Op)
      (before : Reachable tools places (provider, session, world)) :
      Reachable tools places (op.perform tools provider session world)
  /-- The session is asked by others. -/
  | asked {provider : Provider} {session : Session} {world : World σ} (op : Session.Op)
      (before : Reachable tools places (provider, session, world)) :
      Reachable tools places (provider, op.perform tools session world)
  /-- Others change the world. -/
  | outside {provider : Provider} {session : Session} {world : World σ} (other : World σ)
      (host : other.host = world.host)
      (before : Reachable tools places (provider, session, world)) :
      Reachable tools places (provider, session, other)

/-- A session mirrors an attempt to load the database in every state that it reaches. -/
theorem Session.Reachable.mirrors {tools : Toolchain σ} {places : Settings.Places}
    {state : Session × World σ} (h : Session.Reachable tools places state) :
    state.1.Mirrors places state.2 := by
  induction h with
  | start world => exact .start places world
  | act op _ ih => exact ih.perform op
  | outside other host _ ih => exact ih.outside host

/-! ### What a provider does to its session -/

/-- Noting acts leaves the host alone. -/
theorem World.host_foldl_note {α : Type} (event : α → Event) (items : List α) (world : World σ) :
    (items.foldl (fun world item => world.note (event item)) world).host = world.host := by
  induction items generalizing world with
  | nil => rfl
  | cons item rest ih => exact ih (world.note (event item))

namespace WatchTable

theorem host_watch (table : WatchTable) (path subscriber : Path) (world : World σ) :
    (table.watch path subscriber world).2.host = world.host := by
  rw [watch]
  dsimp only
  split_ifs <;> rfl

theorem host_follow (table : WatchTable) (found : Option Path) (database artifact : Path)
    (world : World σ) : (table.follow found database artifact world).2.host = world.host := by
  cases found with
  | none => exact table.host_watch ..
  | some source => exact (host_watch ..).trans (table.host_watch ..)

theorem host_close (table : WatchTable) (world : World σ) :
    (table.close world).2.host = world.host := by
  rw [close]
  split_ifs
  · rfl
  · exact World.host_foldl_note Event.unscheduled table.directories world

end WatchTable

/-- Making a document does to a session and the world what compiling does. -/
theorem Document.build_snd (tools : Toolchain σ) (binary : Bool) (artifact : Path)
    (session : Session) (world : World σ) :
    (build tools binary artifact session world).2 =
      (session.compile tools artifact world).2 := by
  rw [build]
  rcases session.compile tools artifact world with ⟨failure | result, later, after⟩
  · rfl
  · dsimp only
    split_ifs <;> rfl

theorem Provider.host_notify (provider : Provider) (artifact : Path) (world : World σ) :
    (provider.notify artifact world).host = world.host :=
  World.host_foldl_note (Event.notified · artifact) provider.listeners world

namespace Session.Reachable

variable {tools : Toolchain σ} {places : Settings.Places} {session : Session} {world : World σ}

theorem build (h : Session.Reachable tools places (session, world)) (binary : Bool)
    (artifact : Path) :
    Session.Reachable tools places (Document.build tools binary artifact session world).2 := by
  rw [Document.build_snd]
  exact h.act (.compile artifact)

theorem document (h : Session.Reachable tools places (session, world)) (provider : Provider)
    (artifact : Path) :
    Session.Reachable tools places (provider.document tools artifact session world).2.2 := by
  have hbuild := h.build provider.binary artifact
  have hdocumented := provider.documented tools artifact session world
  generalize provider.document tools artifact session world = step at hdocumented
  cases hdocumented with
  | kept => exact h
  | unbuilt failure later after missing build =>
    rw [build] at hbuild
    exact hbuild
  | unsourced document failure later last after final missing build source =>
    rw [build] at hbuild
    have hsource := hbuild.act (.sourceFor artifact)
    rw [Session.Op.perform, source] at hsource
    exact hsource
  | watched document found later last after final missing build source =>
    rw [build] at hbuild
    have hsource := hbuild.act (.sourceFor artifact)
    rw [Session.Op.perform, source] at hsource
    exact hsource.outside _ (WatchTable.host_follow ..)

theorem request (h : Session.Reachable tools places (session, world)) (provider : Provider)
    (source : Path) (kind : Kind) :
    Session.Reachable tools places (provider.request tools source kind session world).2.2 := by
  have hasked := h.act (.artifactFor source kind)
  rw [Session.Op.perform] at hasked
  have hrequested := provider.requested tools source kind session world
  generalize provider.request tools source kind session world = step at hrequested
  cases hrequested with
  | broken failure later after asked | missing later after asked => rwa [asked] at hasked
  | undocumented artifact later after failure final asked made
  | shown artifact later after document final asked made =>
    rw [asked] at hasked
    have hdocument := hasked.document provider artifact
    rwa [made] at hdocument

theorem reload (h : Session.Reachable tools places (session, world)) (provider : Provider)
    (artifact : Path) :
    Session.Reachable tools places (provider.reload tools artifact session world).2.2 := by
  have hbuild := h.build provider.binary artifact
  rw [Provider.reload]
  rcases built : Document.build tools provider.binary artifact session world with
    ⟨failure | document, later, after⟩
  · rw [built] at hbuild
    dsimp only
    split_ifs
    · exact hbuild.outside _ (Provider.host_notify ..)
    · exact hbuild
  · rw [built] at hbuild
    exact hbuild.outside _ (Provider.host_notify ..)

theorem reloadAll (h : Session.Reachable tools places (session, world)) (artifacts : List Path)
    (provider : Provider) :
    Session.Reachable tools places
      (provider.reloadAll tools artifacts session world).2.2 := by
  induction artifacts generalizing provider session world with
  | nil => exact h
  | cons artifact rest ih =>
    have hreload := h.reload provider artifact
    rw [Provider.reloadAll]
    rcases made : provider.reload tools artifact session world with ⟨failure | _, last⟩
    · rwa [made] at hreload
    · rw [made] at hreload
      exact ih hreload last.1

/-- What is asked of a provider leads its session where it could go on its own. -/
theorem perform (h : Session.Reachable tools places (session, world)) (provider : Provider)
    (op : Provider.Op) :
    Session.Reachable tools places (op.perform tools provider session world).2 := by
  cases op with
  | document artifact => exact h.document provider artifact
  | request source kind => exact h.request provider source kind
  | reload artifact => exact h.reload provider artifact
  | receive event => exact h.reloadAll _ provider
  | setExtraArgs extraArgs => exact h.act (.setExtraArgs extraArgs)
  | subscribe | unsubscribe => exact h
  | dispose => exact h.outside _ (WatchTable.host_close ..)

end Session.Reachable

/-- A session that a provider uses is in a state that it could reach on its own. -/
theorem Provider.Reachable.session {tools : Toolchain σ} {places : Settings.Places}
    {state : Provider × Session × World σ} (h : Provider.Reachable tools places state) :
    Session.Reachable tools places state.2 := by
  induction h with
  | start binary world => exact .start world
  | act op _ ih => exact ih.perform _ op
  | asked op _ ih => exact ih.act op
  | outside other host _ ih => exact ih.outside other host

/-! ### Agreement -/

/-- A lookup that fails does not fail for want of a record. -/
theorem Session.category_of_query {α : Type} {answer : Registry → α} {session : Session}
    {world : World σ} {failure : Failure}
    (failed : (query answer session world).1 = .error failure) : failure.category ≠ .lookup := by
  rw [query_error_iff, refresh_error_iff] at failed
  obtain ⟨digits, rfl, -⟩ := failed
  exact nofun

/-- Making a document fails for want of a record only if compiling does. -/
theorem Document.compile_of_build {tools : Toolchain σ} {binary : Bool} {artifact : Path}
    {session : Session} {world : World σ} {failure : Failure}
    (failed : (build tools binary artifact session world).1 = .error failure)
    (lookup : failure.category = .lookup) :
    (session.compile tools artifact world).1 = .error failure := by
  rw [build] at failed
  rcases answer : session.compile tools artifact world with ⟨met | result, later, after⟩
  · rw [answer] at failed
    exact congrArg Except.error (Except.error.inj failed)
  · rw [answer] at failed
    dsimp only at failed
    split_ifs at failed
    obtain ⟨digits, _, rfl, -⟩ := ofFile_error_iff.mp failed
    cases lookup

namespace Provider

/-- No document is missed of an artifact on which the lookups agree. -/
theorem category_of_document {tools : Toolchain σ} {source artifact : Path} {kind : Kind}
    {session : Session} {world : World σ}
    (agrees : session.Agrees tools source kind artifact world) {provider : Provider}
    {failure : Failure}
    (failed : (provider.document tools artifact session world).1 = .error failure) :
    failure.category ≠ .lookup := by
  have hdocumented := provider.documented tools artifact session world
  generalize provider.document tools artifact session world = step at hdocumented failed
  cases hdocumented with
  | kept | watched => cases failed
  | unbuilt met later after missing build =>
    obtain rfl := Except.error.inj failed
    exact fun lookup =>
      agrees.compile met (Document.compile_of_build (by rw [build]) lookup) lookup
  | unsourced document met later last after final missing build sourced =>
    obtain rfl := Except.error.inj failed
    exact Session.category_of_query (congrArg Prod.fst sourced)

/-- **Lookups agree, and requests succeed on what they find.** Let the session have an artifact for
a source. While nothing but what stands in its place changes, every lookup that follows agrees with
this, however often the database is loaded again. A request fails for want of a record if and only
if the session has no artifact for the source. Then the provider is as it was, and nothing was
run. -/
theorem lookups_agree {tools : Toolchain σ} (plain : tools.NoLookups) {places : Settings.Places}
    {provider : Provider} {session : Session} {world : World σ}
    (reachable : Provider.Reachable tools places (provider, session, world)) {settings : Settings}
    (hplaces : settings.places world.host = .ok places) (source : Path) (kind : Kind) :
    let asked := session.artifactFor source kind world
    let step := provider.request tools source kind session world
    (∀ artifact, asked.1 = .ok (some artifact) → ∀ later,
      Chronicle.Run tools (· ≠ .load) (History.UntouchedBut artifact)
        ⟨⟨asked.2.1, asked.2.2, []⟩, []⟩ later →
      later.history.session.Agrees tools source kind artifact later.history.world) ∧
    ((∃ failure, step.1 = .error failure ∧ failure.category = .lookup) ↔ asked.1 = .ok none) ∧
    (asked.1 = .ok none → step.1 = .error (.noCommand source kind) ∧ step.2.1 = provider ∧
      step.2.2.2.trace = world.trace) := by
  intro asked step
  have refreshed : asked.2 = (session.refresh world).2 := Session.query_snd ..
  have known {artifact : Path} (answer : asked.1 = .ok (some artifact)) :
      (⟨asked.2.1, asked.2.2, []⟩ : History σ).Known places source kind artifact := by
    have mirror : (⟨session, world, []⟩ : History σ).session.Mirrors places world :=
      reachable.session.mirrors
    obtain ⟨mirrors, found, again⟩ := History.known_of_artifactFor mirror answer
    rw [refreshed]
    exact ⟨mirrors, found, again⟩
  refine ⟨fun artifact answer later run => ?_, ?_⟩
  · have host : asked.2.2.host = world.host := by rw [refreshed, Session.host_refresh]
    exact ((known answer).of_run (host.symm ▸ hplaces) run).agrees plain
  · have hrequested := provider.requested tools source kind session world
    change Requested tools source kind provider session world step at hrequested
    clear_value step
    have hasked : asked = session.artifactFor source kind world := rfl
    cases hrequested with
    | broken failure later after answer =>
      rw [hasked, answer]
      refine ⟨iff_of_false ?_ nofun, nofun⟩
      rintro ⟨met, failed, lookup⟩
      obtain rfl := Except.error.inj failed
      exact Session.category_of_query (congrArg Prod.fst answer) lookup
    | missing later after answer =>
      rw [hasked, answer] at refreshed
      rw [hasked, answer]
      refine ⟨iff_of_true ⟨_, rfl, rfl⟩ rfl, fun _ => ⟨rfl, rfl, ?_⟩⟩
      rw [(Prod.mk.inj refreshed).2]
      exact session.trace_refresh world
    | undocumented artifact later after failure final answer made =>
      have agrees := (known (hasked ▸ congrArg Prod.fst answer)).agrees plain
      rw [hasked, answer] at agrees ⊢
      refine ⟨iff_of_false ?_ nofun, nofun⟩
      rintro ⟨met, failed, lookup⟩
      obtain rfl := Except.error.inj failed
      exact category_of_document agrees (congrArg Prod.fst made) lookup
    | shown artifact later after document final answer made =>
      rw [hasked, answer]
      exact ⟨iff_of_false nofun nofun, nofun⟩

end Provider

/-! ### The small project -/

namespace Sample

/-- The small project as it is configured. -/
def settings : Settings := { root := ⟨.root, []⟩, outputDir := "/o", databaseDir := "/" }

/-- The places that are configured. -/
def configured : Settings.Places :=
  { places with database := ⟨.root, [⟨Settings.databaseName, Settings.isName_databaseName⟩]⟩ }

/-- The listing is built, and the clock is behind, so that the database is loaded again each
time. -/
def backward : World Unit where
  host := host
  files := ⟨fun location =>
    match location.map Name.text with
    | [] => some (.directory 0)
    | ["a"] => some (.file [] 1000 false)
    | ["compile_commands.json"] => some (.file (content "c") 1000 false)
    | ["o"] => some (.directory 0)
    | ["o", name] => if name = "a.s" then some (.file [] 2000 false) else none
    | _ => none⟩
  clock := 500
  tools := ()
  trace := []

private theorem places_settings : settings.places host = .ok configured := by
  have root : settings.projectRoot host = .ok configured.root := by decide +kernel
  have databaseDir : host.resolve configured.root settings.databaseDir = .ok ⟨.root, []⟩ := by
    decide +kernel
  have outputDir : host.resolve configured.root settings.outputDir = .ok configured.outputDir := by
    decide +kernel
  rw [Settings.places, root]
  dsimp only
  rw [databaseDir, outputDir]
  rfl

end Sample

open Sample in
/-- In the small project, the lookups of the listing agree after it was compiled, although every
one of them loads the database again; and the view of a source that is not listed is refused. -/
theorem Provider.lookups_agree_backward :
    let session := Session.start configured
    let source : Path := ⟨.root, [⟨"a", by decide⟩]⟩
    let asked := session.artifactFor source .disassembly backward
    let first : History Unit := ⟨asked.2.1, asked.2.2, []⟩
    let later := first.act tools (.compile artifact)
    later.attempts.length = 1 ∧
      later.session.Agrees tools source .disassembly artifact later.world ∧
      ((Provider.start false).request tools artifact .llvmIr session backward).1 =
        .error (.noCommand artifact .llvmIr) := by
  intro session source asked first later
  have plain : tools.NoLookups := ⟨nofun, nofun⟩
  have reachable : Provider.Reachable tools configured (.start false, session, backward) :=
    .start false backward
  have answer : asked.1 = .ok (some artifact) := by decide +kernel
  have missing : (session.artifactFor artifact .llvmIr backward).1 = .ok none := by decide +kernel
  have idle : later.world.trace = first.world.trace := by decide +kernel
  refine ⟨by decide +kernel, ?_, ?_⟩
  · have run : Chronicle.Run tools (· ≠ .load) (History.UntouchedBut artifact) ⟨first, []⟩
        (Chronicle.act tools (.compile artifact) ⟨first, []⟩) := by
      refine .single ⟨.act _ nofun, fun path _ => ?_⟩
      have files : first.refreshed.world.files = first.world.files :=
        History.files_refreshed_of_isDirectory (by decide +kernel)
      change later.world.files.node? later.world.host path = _
      rw [show later = first.refreshed from History.refreshed_of_idle idle, files,
        History.host_refreshed]
    exact (lookups_agree plain reachable places_settings source .disassembly).1 artifact answer _
      run
  · exact ((lookups_agree plain reachable places_settings artifact .llvmIr).2.2 missing).1

end ArtifactLens
