import ArtifactLens.Proofs.CommandLine.Agreement
import ArtifactLens.Proofs.Registry.Load
import ArtifactLens.Proofs.Settings

/-!
# Where sources are looked up

The root of the options is told twice. The settings put a home directory in place of a tilde, and
then make the root absolute; sources are named relative to this directory, and the database is
looked for there. The source that is asked for is put below the root as it is written, and then
made absolute.

**Both come to the same if and only if the two directories agree as many levels up as the source
climbs** (`CommandLine.lookup_iff`). Then an entry of the database with this directory and this
source is found, unless another source came first under its name. A root without a tilde at its
start is one directory either way, however it is spelled, since the home directory is all that the
settings add to it. With a tilde, the source is looked up below a directory that is called so
(`CommandLine.lookup_missed`).
-/

namespace ArtifactLens

variable {σ : Type}

/-! ### Sources of entries -/

theorem Entry.source_eq {host : Host} (rooted : host.workDir.isAbsolute = true) (entry : Entry) :
    entry.source host =
      ((host.absolute (Path.ofText entry.directory)).join (Path.ofText entry.file)).normalize :=
  Host.absolute_join rooted _ _

theorem Entry.source_of_command {host : Host} {entry : Entry} {command : CompileCommand}
    (h : entry.command? host = some command) : command.source = entry.source host := by
  rw [command?] at h
  split at h
  · cases h
  · rw [← Option.some.inj h]

/-- The commands of entries are commands for their sources. -/
theorem Database.map_source_commandsOf {host : Host} {all : List Entry}
    {commands : List CompileCommand} (h : commandsOf host all = .ok commands) :
    commands.map (·.source) = all.map (·.source host) := by
  induction all generalizing commands with
  | nil =>
    obtain rfl := Except.ok.inj h
    rfl
  | cons entry rest ih =>
    rw [commandsOf] at h
    cases first : entry.command? host with
    | none =>
      rw [first] at h
      cases h
    | some command =>
      rw [first] at h
      cases others : commandsOf host rest with
      | error failure =>
        rw [others] at h
        cases h
      | ok others' =>
        rw [others] at h
        obtain rfl := Except.ok.inj h
        rw [List.map_cons, List.map_cons, ih others, Entry.source_of_command first]

namespace Registry

variable {host : Host} {registry other : Registry} {source : Path} {commands : List CompileCommand}

/-- Who owns a name depends on the root of the registry only. -/
theorem owns_congr (root : registry.root = other.root) :
    registry.Owns host commands source ↔ other.Owns host commands source := by
  have same : registry.flatName host = other.flatName host := by
    funext source
    rw [flatName, flatName, root]
  rw [Owns, Owns, owner?, owner?, same]

theorem mem_of_owner? {name : String} (h : registry.owner? host commands name = some source) :
    source ∈ commands.map (·.source) := by
  obtain ⟨command, found, rfl⟩ := Option.map_eq_some_iff.mp h
  exact List.mem_map_of_mem (List.mem_of_find?_eq_some found)

/-- A source that has a command owns its name unless another source does. -/
theorem owns_iff_of_mem (h : source ∈ commands.map (·.source)) :
    registry.Owns host commands source ↔
      ∀ owner, registry.owner? host commands (registry.flatName host source) = some owner →
        owner = source := by
  rw [Owns]
  cases howner : registry.owner? host commands (registry.flatName host source) with
  | some owner => simp
  | none =>
    obtain ⟨command, member, rfl⟩ := List.mem_map.mp h
    rw [owner?, Option.map_eq_none_iff, List.find?_eq_none] at howner
    exact absurd (decide_eq_true rfl) (howner command member)

end Registry

/-! ### The root of a session -/

theorem Settings.projectRoot_of_places {host : Host} {settings : Settings} {places : Places}
    (h : settings.places host = .ok places) : settings.projectRoot host = .ok places.root := by
  rw [Settings.places] at h
  cases project : settings.projectRoot host with
  | error failure =>
    rw [project] at h
    cases h
  | ok root =>
    rw [project] at h
    dsimp only at h
    split at h <;> cases h
    rfl

namespace Session.Opened

variable {places : Settings.Places} {commands : List CompileCommand} {session : Session}
  {world : World σ} (opened : session.Opened places commands world)

include opened

/-- The artifacts that a session knows after it was opened are those of sources that own their
names. -/
theorem artifactFor_iff (source : Path) (kind : Kind) :
    (∃ artifact, (session.artifactFor source kind world).1 = .ok (some artifact)) ↔
      session.registry.Owns world.host commands source := by
  have hloaded := Registry.loaded_registerAll world.host places.root places.outputDir commands
  rw [← opened.registry] at hloaded
  rw [opened.artifactFor_eq, Registry.owns_congr hloaded.root, ← hloaded.known source kind]
  simp only [Except.ok.injEq]

/-- The source of an entry has its artifacts unless their name belongs to another source. -/
theorem artifactFor_entry_iff {entries : List Entry} {entry : Entry}
    (read : Database.read world.host world.files session.database = .ok entries)
    (member : entry ∈ entries) (kind : Kind) :
    (∃ artifact, (session.artifactFor (entry.source world.host) kind world).1 =
        .ok (some artifact)) ↔
      ∀ owner, session.registry.owner? world.host commands
        (session.registry.flatName world.host (entry.source world.host)) = some owner →
          owner = entry.source world.host := by
  have hread := opened.read
  rw [← opened.database, Database.commands, read] at hread
  have known : entry.source world.host ∈ commands.map (·.source) := by
    rw [Database.map_source_commandsOf hread]
    exact List.mem_map_of_mem member
  rw [opened.artifactFor_iff, Registry.owns_iff_of_mem known]

end Session.Opened

namespace CommandLine

variable {host : Host} {options : Options}

/-- The root of the settings is that of the options. -/
theorem root_of_placed {places : Settings.Places} {root : String}
    (placed : settings host options = .ok places) (hroot : options.root = .text root) :
    Settings.projectRoot host { root := Path.ofText root } = .ok places.root := by
  rw [settings, hroot] at placed
  dsimp only [textOf] at placed
  split at placed
  · cases placed
  · split at placed
    · cases placed
    · split at placed
      · split at placed <;> cases placed
      · have resolved := Settings.projectRoot_of_places placed
        exact resolved

/-! ### Looking up a source -/

theorem sourceOf_eq {root source : String} (rooted : host.workDir.isAbsolute = true)
    (hroot : options.root = .text root) (hsource : options.source = .text source) :
    sourceOf host options =
      .ok ((host.absolute (Path.ofText root)).join (Path.ofText source)).normalize := by
  rw [sourceOf, hroot, hsource]
  exact congrArg Except.ok (Host.absolute_join rooted _ _)

theorem sourceOf_iff {root source : String} {directory : Path}
    (rooted : host.workDir.isAbsolute = true)
    (hroot : options.root = .text root) (hsource : options.source = .text source)
    (relative : (Path.ofText source).isAbsolute = false)
    (resolved : Settings.projectRoot host { root := Path.ofText root } = .ok directory) :
    sourceOf host options = .ok (directory.join (Path.ofText source)).normalize ↔
      directory.above (Path.ofText source).climb =
        (host.absolute (Path.ofText root)).above (Path.ofText source).climb := by
  obtain ⟨path, rfl⟩ : ∃ path, directory = host.absolute path := by
    rw [Settings.projectRoot] at resolved
    split at resolved <;> cases resolved
    exact ⟨_, rfl⟩
  rw [sourceOf_eq rooted hroot hsource, Except.ok.injEq, eq_comm,
    Path.normalize_join_inj (Host.isAbsolute_absolute rooted path)
      (Host.normalize_absolute rooted path) (Host.isAbsolute_absolute rooted _)
      (Host.normalize_absolute rooted _) relative]

/-- **Sources are looked up below the root of the session** if and only if this root and the root of
the options, made absolute as it is written, agree as many levels up as the source climbs. They are
the same if the root of the options does not start with a tilde. Then an entry of the database for
this root and this source is found, unless the name of its artifacts belongs to another source. -/
theorem lookup_iff {root source : String} {directory : Path}
    (rooted : host.workDir.isAbsolute = true)
    (hroot : options.root = .text root) (hsource : options.source = .text source)
    (relative : (Path.ofText source).isAbsolute = false)
    (resolved : Settings.projectRoot host { root := Path.ofText root } = .ok directory) :
    let below := (directory.join (Path.ofText source)).normalize
    let levels := (Path.ofText source).climb
    let agree := directory.above levels = (host.absolute (Path.ofText root)).above levels
    ((Path.ofText root).startsAtHome = false → directory = host.absolute (Path.ofText root)) ∧
    ∀ (before world : World σ) (session later : Session) (asked : Request), before.host = host →
      openSession options before = (.ok session, world) →
      request host options session = .ok (asked, later) →
      session.registry.root = directory ∧
      (asked.source = below ↔ agree) ∧
      ∃ commands, Database.commands host world.files session.database = .ok commands ∧
        ∀ entries, Database.read host world.files session.database = .ok entries →
        ∀ entry ∈ entries, host.absolute (Path.ofText entry.directory) = directory →
          entry.file = source →
          entry.source host = below ∧
          (agree →
            ((∃ artifact,
                (later.artifactFor asked.source asked.kind world).1 = .ok (some artifact)) ↔
              ∀ owner, session.registry.owner? host commands
                (session.registry.flatName host below) = some owner → owner = below)) := by
  intro below levels agree
  refine ⟨fun elsewhere => ?_, fun before world session later asked same opens asks => ?_⟩
  · rw [Settings.projectRoot, Host.expandHome_eq_self elsewhere] at resolved
    exact (Except.ok.inj resolved).symm
  obtain ⟨looked, extraArgs, rfl⟩ := asked_of_request asks
  have hasked : asked.source = below ↔ agree := by
    have h := sourceOf_iff rooted hroot hsource relative resolved
    rwa [looked, Except.ok.injEq] at h
  obtain ⟨places, commands, placed, host', opened⟩ := opened_of_openSession opens
  subst same
  have hdirectory : places.root = directory := by
    have again := root_of_placed placed hroot
    exact Except.ok.inj (again.symm.trans resolved)
  have hregistry : session.registry.root = directory := by
    have root := congrArg Registry.root opened.clear
    exact root.trans hdirectory
  have hread := opened.read
  rw [host', ← opened.database] at hread
  refine ⟨hregistry, hasked, commands, hread, fun entries read entry member place file => ?_⟩
  have hbelow : entry.source before.host = below := by
    rw [entry.source_eq rooted, place, file]
  refine ⟨hbelow, fun agreed => ?_⟩
  rw [← host'] at read
  have finds := (opened.withExtraArgs extraArgs).artifactFor_entry_iff read member asked.kind
  rw [host', hbelow] at finds
  rwa [hasked.mpr agreed]

open Sample in
/-- In the small project, the source is found below a root that is spelled with `..`. -/
theorem lookup_iff_dots :
    let options : Options := {
      command := .show, root := .text "o/..", outDir := .text "/o"
      databaseDir := .text Settings.defaultDatabaseDir, timeout := none, source := .text "a"
      kind := .text Kind.disassembly.name, extraArgs := .text "" }
    ∃ world session asked later, openSession options (untouched none) = (.ok session, world) ∧
      request Sample.host options session = .ok (asked, later) ∧
      asked.source = ⟨.root, [⟨"a", by decide⟩]⟩ ∧
      ∃ artifact, (later.artifactFor asked.source asked.kind world).1 = .ok (some artifact) := by
  intro options
  have source : sourceOf Sample.host options = .ok ⟨.root, [⟨"a", by decide⟩]⟩ := by decide +kernel
  have kind : kindOf options = .ok .disassembly := by decide +kernel
  have database : ((openSession options (untouched none)).1.map (·.database)).toOption =
      some configured.database := by decide +kernel
  have read : Database.read Sample.host (openSession options (untouched none)).2.files
      configured.database = .ok [⟨"a", "/", some "c", none⟩] := by decide +kernel
  obtain ⟨-, looks⟩ := @lookup_iff Unit Sample.host options "o/.." "a" ⟨.root, []⟩ rfl rfl rfl
    (by decide +kernel) (by decide +kernel)
  rcases opens : openSession options (untouched none) with ⟨failure | session, world⟩
  · rw [opens] at database
    cases database
  · rw [opens] at database read
    have hdatabase : session.database = configured.database := Option.some.inj database
    rw [← hdatabase] at read
    have asks : request Sample.host options session =
        .ok (⟨⟨.root, [⟨"a", by decide⟩]⟩, .disassembly⟩,
          { session with extraArgs := Blank.words "" }) := by
      rw [request, source, kind]
      rfl
    obtain ⟨-, -, commands, hcommands, finds⟩ := looks _ world session _ _ rfl opens asks
    obtain ⟨hsource, finds⟩ := finds _ read _ List.mem_cons_self (by decide +kernel) rfl
    refine ⟨world, session, _, _, rfl, asks, rfl, (finds (by decide +kernel)).mpr ?_⟩
    intro owner howner
    rw [Database.commands, read] at hcommands
    have member := Registry.mem_of_owner? howner
    rw [Database.map_source_commandsOf hcommands] at member
    exact (List.mem_singleton.mp member).trans hsource

/-- A tilde leads the settings to the home directory, and the source below a directory that is
called so: no command finds what the database has for it. -/
theorem lookup_missed :
    let entry : Entry := ⟨"a", "/", some "c", none⟩
    let world := Sample.untouched none
    Settings.projectRoot world.host { root := Path.ofText "~" } =
        .ok (Path.ofText entry.directory) ∧
      Database.read world.host world.files Sample.configured.database = .ok [entry] ∧
      (run Sample.writer [] ["show", "--root", "~", "--source", entry.file] world).1 =
        .ok (.refusal 2 "No compile command for /~/a\n") ∧
      (run Sample.writer [] ["watch", "--root", "~", "--source", entry.file] world).1 =
        .ok (.refusal 2 "No compile command for /~/a (disassembly)\n") := by
  decide +kernel

end CommandLine

end ArtifactLens
