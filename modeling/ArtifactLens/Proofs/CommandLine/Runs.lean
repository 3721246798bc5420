import ArtifactLens.Proofs.CommandLine.Agreement
import ArtifactLens.Proofs.Session.Stale

/-!
# How often `show` runs a command

`show` compiles an artifact, and if that succeeds has a document made, which compiles it once more.
The second compilation runs nothing if the artifact is up to date by then. **It runs a command too
if and only if the first run has left the artifact stale** (`CommandLine.runs_show`), which happens
in two ways (`Session.StaysDue`):

* the record that remembers the first run is still there, but the files are out of date: the source
  or the database is newer than what the run has written, or the source is gone, or the run has
  not written the artifact at all;
* the database is newer than the session, so it is loaded again. The new record remembers no extra
  arguments, which makes the artifact stale if there are any, however new it is.

No more than two commands are run, whatever there is.
-/

namespace ArtifactLens

variable {σ : Type} {tools : Toolchain σ}

namespace BuildRecord

variable {host : Host} {fs : FileSystem} {record : BuildRecord} {extraArgs : List String}
  {database : Path}

/-- Stale by the files alone. -/
def IsOutOfDate (host : Host) (fs : FileSystem) (record : BuildRecord) (database : Path) : Prop :=
  record.IsStale host fs record.lastExtraArgs database

theorem isStale_iff : record.IsStale host fs extraArgs database ↔
    extraArgs ≠ record.lastExtraArgs ∨ record.IsOutOfDate host fs database := by
  by_cases same : extraArgs = record.lastExtraArgs
  · rw [IsOutOfDate, same]
    simp
  · exact iff_of_true (.args same) (.inl same)

end BuildRecord

namespace Session

variable {artifact : Path} {session : Session} {world : World σ}

/-- Compiling the artifact runs a command: it has a record after the refresh, and is stale then. -/
def IsDue (artifact : Path) (session : Session) (world : World σ) : Prop :=
  ∃ record, (session.refresh world).2.1.registry.recordFor artifact = some record ∧
    record.IsStale (session.refresh world).2.2.host (session.refresh world).2.2.files
      session.extraArgs session.database

theorem isDue_iff {later : Session} {after : World σ} {record : BuildRecord}
    (refresh : session.refresh world = (.ok (), later, after))
    (found : later.registry.recordFor artifact = some record) :
    session.IsDue artifact world ↔
      record.IsStale after.host after.files session.extraArgs session.database := by
  rw [IsDue, refresh]
  simp [found]

/-- A compilation runs one command if the artifact is due, and otherwise none. -/
theorem runs_of_compile (tools : Toolchain σ) (artifact : Path) (session : Session)
    (world : World σ) :
    ∃ ran, (session.compile tools artifact world).2.2.runs = world.runs ++ ran ∧
      ran.length ≤ 1 ∧ (ran.length = 1 ↔ session.IsDue artifact world) := by
  have hruns : (session.refresh world).2.2.runs = world.runs := by
    rw [World.runs, session.trace_refresh, World.runs]
  have hargs := session.extraArgs_refresh world
  have hdatabase := session.database_refresh world
  have idle (fresh : ¬session.IsDue artifact world) :
      ∃ ran, (session.refresh world).2.2.runs = world.runs ++ ran ∧ ran.length ≤ 1 ∧
        (ran.length = 1 ↔ session.IsDue artifact world) :=
    ⟨[], by rw [hruns, List.append_nil], Nat.zero_le 1, iff_of_false (by simp) fresh⟩
  have hcompiled := session.compiled tools artifact world
  generalize session.compile tools artifact world = step at hcompiled
  cases hcompiled with
  | broken failure later after refresh =>
    rw [refresh] at idle
    refine idle ?_
    rintro ⟨record, found, -⟩
    have answer := refresh_of_found found
    rw [refresh] at answer
    cases answer
  | unknown later after refresh unknown =>
    rw [refresh] at idle
    refine idle ?_
    rintro ⟨record, found, -⟩
    rw [refresh] at found
    cases unknown.symm.trans found
  | upToDate later after record refresh found fresh =>
    rw [refresh] at idle hargs hdatabase
    refine idle fun due => ?_
    rw [isDue_iff refresh found, ← hargs, ← hdatabase, ← BuildRecord.needsBuild_iff] at due
    exact Bool.eq_false_iff.mp fresh due
  | executed later after record refresh found stale =>
    rw [isDue_iff refresh found]
    rw [refresh] at hruns hargs hdatabase
    rw [← hargs, ← hdatabase, ← BuildRecord.needsBuild_iff]
    refine ⟨[(record.commandWith later.extraArgs, record.directory)], ?_, le_rfl,
      iff_of_true rfl stale⟩
    rw [← hruns]
    exact (tools.runs_execute record later.extraArgs after).1

/-- Why an artifact is stale after a build that succeeded, by the record of the build. -/
inductive StaysDue (artifact : Path) (record : BuildRecord) (session : Session)
    (world : World σ) : Prop
  /-- The record is kept. -/
  | kept (current : session.isOutdated world = false)
      (outOfDate : record.IsOutOfDate world.host world.files session.database)
  /-- The database is loaded again. -/
  | renewed {count : Nat} {later : Session} {after : World σ} {new : BuildRecord}
      (outdated : session.isOutdated world = true)
      (load : session.load world = (.ok count, later, after))
      (found : later.registry.recordFor artifact = some new)
      (forgot : session.extraArgs ≠ [] ∨
        new.IsOutOfDate after.host after.files session.database)

theorem isDue_iff_staysDue {record : BuildRecord}
    (found : session.registry.recordFor artifact = some record)
    (remembers : record.lastExtraArgs = session.extraArgs) :
    session.IsDue artifact world ↔ session.StaysDue artifact record world := by
  constructor
  · rintro ⟨new, known, stale⟩
    have answer := refresh_of_found known
    have hrefreshed := session.refreshed world
    generalize session.refresh world = step at hrefreshed known stale answer
    cases hrefreshed with
    | current fresh =>
      obtain rfl : record = new := Option.some.inj (found.symm.trans known)
      rw [BuildRecord.isStale_iff, remembers, or_iff_right (absurd rfl)] at stale
      exact .kept fresh stale
    | reloaded outdated count load =>
      rw [BuildRecord.isStale_iff, session.lastExtraArgs_load world known] at stale
      exact .renewed outdated (Prod.ext load rfl) known stale
    -- a load that failed leaves no record behind
    | survived => cases known
    | broken => cases answer
  · intro stays
    cases stays with
    | kept current outOfDate =>
      rw [isDue_iff (refresh_of_current current) found]
      exact BuildRecord.isStale_iff.mpr (.inr outOfDate)
    | @renewed count later after new outdated load known forgot =>
      have refresh : session.refresh world = (.ok (), later, after) := by
        rw [refresh, if_pos outdated, load]
      have known' : (session.load world).2.1.registry.recordFor artifact = some new := by
        rwa [load]
      rw [isDue_iff refresh known, BuildRecord.isStale_iff, session.lastExtraArgs_load world known']
      exact forgot

end Session

/-- After a success the record remembers the extra arguments. -/
theorem Toolchain.remembers {record known : BuildRecord} {extraArgs : List String}
    {world after : World σ} {result : BuildResult}
    (built : tools.execute record extraArgs world = (.ok result, known, after))
    (success : result.success = true) : known = { record with lastExtraArgs := extraArgs } := by
  have hexecuted := tools.executed record extraArgs world
  rw [built] at hexecuted
  generalize hstep : ((.ok result, known, after) :
    Except Failure BuildResult × BuildRecord × World σ) = step at hexecuted
  cases hexecuted with
  | abandoned | undemangled => cases hstep
  | failed outcome files state run code =>
    cases hstep
    exact absurd (beq_iff_eq.mp success) code
  | built =>
    cases hstep
    rfl

namespace CommandLine

variable {artifact : Path} {session later : Session} {world after : World σ}
  {result : BuildResult}

/-! ### Showing an artifact -/

theorem snd_showArtifact_of_error {failure : Failure}
    (compile : session.compile tools artifact world = (.error failure, later, after)) :
    (showArtifact tools artifact session world).2 = after := by
  rw [showArtifact, compile]

theorem snd_showArtifact_of_failure
    (compile : session.compile tools artifact world = (.ok result, later, after))
    (failure : result.success = false) :
    (showArtifact tools artifact session world).2 = after := by
  rw [showArtifact, compile]
  dsimp only
  rw [failure]
  rfl

/-- After a success, the artifact is compiled again. -/
theorem snd_showArtifact_of_success
    (compile : session.compile tools artifact world = (.ok result, later, after))
    (success : result.success = true) :
    (showArtifact tools artifact session world).2 = (later.compile tools artifact after).2.2 := by
  rw [showArtifact, compile]
  dsimp only
  rw [success, ← Document.build_snd tools false]
  rcases Document.build tools false artifact later after with ⟨failure | document, last, final⟩
  · rfl
  · dsimp only
    rw [if_neg (by decide)]
    split_ifs <;> rfl

/-- The artifact that is shown is due, compiled with success, and due after that. -/
def IsDueTwice (tools : Toolchain σ) (artifact : Path) (session : Session) (world : World σ) :
    Prop :=
  session.IsDue artifact world ∧ ∃ result later after,
    session.compile tools artifact world = (.ok result, later, after) ∧ result.success = true ∧
      later.IsDue artifact after

/-- Two commands are run at most to show an artifact. -/
theorem runs_showArtifact (tools : Toolchain σ) (artifact : Path) (session : Session)
    (world : World σ) :
    ∃ ran, (showArtifact tools artifact session world).2.runs = world.runs ++ ran ∧
      ran.length ≤ 2 ∧ (ran.length = 2 ↔ IsDueTwice tools artifact session world) := by
  -- one command at most for each of the two compilations
  obtain ⟨first, hfirst, once, due⟩ := session.runs_of_compile tools artifact world
  rw [IsDueTwice]
  rcases compile : session.compile tools artifact world with ⟨failure | result, later, after⟩
  · rw [compile] at hfirst
    refine ⟨first, ?_, by omega, iff_of_false (by omega) (by simp)⟩
    rw [snd_showArtifact_of_error compile]
    exact hfirst
  rw [compile] at hfirst
  cases success : result.success with
  | false =>
    refine ⟨first, ?_, by omega, iff_of_false (by omega) (by simp [success])⟩
    rw [snd_showArtifact_of_failure compile success]
    exact hfirst
  | true =>
    obtain ⟨second, hsecond, again, redue⟩ := later.runs_of_compile tools artifact after
    refine ⟨first ++ second, ?_, ?_, ?_⟩
    · rw [snd_showArtifact_of_success compile success, hsecond, hfirst, List.append_assoc]
    · rw [List.length_append]
      omega
    · rw [List.length_append, ← due]
      constructor
      · intro both
        exact ⟨by omega, result, later, after, rfl, success, redue.mp (by omega)⟩
      · rintro ⟨one, _, _, _, same, -, hdue⟩
        cases same
        have another := redue.mpr hdue
        omega

/-- The artifact that is shown is stale, compiled with success, and stale after that. -/
inductive CompilesTwice (tools : Toolchain σ) (artifact : Path) (session : Session)
    (world : World σ) : Prop
  | intro {record known : BuildRecord} {result : BuildResult} {after : World σ}
      (found : session.registry.recordFor artifact = some record)
      (stale : record.IsStale world.host world.files session.extraArgs session.database)
      (built : tools.execute record session.extraArgs world = (.ok result, known, after))
      (success : result.success = true)
      (again : ({ session with registry := session.registry.update known } : Session).StaysDue
        artifact known after)

section

variable {places : Settings.Places} {commands : List CompileCommand}
  (opened : session.Opened places commands world)

include opened

/-- After a success, the record of the build is in the registry. -/
theorem isDue_again_iff {record known : BuildRecord}
    (found : session.registry.recordFor artifact = some record)
    (built : tools.execute record session.extraArgs world = (.ok result, known, after))
    (success : result.success = true) :
    let later : Session := { session with registry := session.registry.update known }
    later.IsDue artifact after ↔ later.StaysDue artifact known after := by
  intro later
  have hknown := Toolchain.remembers built success
  have place : record.artifact = artifact := opened.coherent.artifact_eq found
  have own : known.artifact = artifact := (congrArg BuildRecord.artifact hknown).trans place
  have registered : session.registry.recordFor known.artifact = some record := by rwa [own]
  have again : later.registry.recordFor artifact = some known := by
    have updated := Registry.recordFor_update known registered artifact
    rwa [if_pos own] at updated
  exact Session.isDue_iff_staysDue again (congrArg BuildRecord.lastExtraArgs hknown)

theorem isDueTwice_iff :
    IsDueTwice tools artifact session world ↔ CompilesTwice tools artifact session world := by
  have refresh := opened.refresh_eq
  constructor
  · rintro ⟨⟨record, found, stale⟩, result, later, after, compile, success, due⟩
    rw [refresh] at found stale
    rw [Session.compile_of_stale tools refresh found (BuildRecord.needsBuild_iff.mpr stale)]
      at compile
    rcases built : tools.execute record session.extraArgs world with ⟨answer, known, after⟩
    rw [built] at compile
    cases compile
    exact .intro found stale built success ((isDue_again_iff opened found built success).mp due)
  · intro twice
    cases twice with
    | @intro record known result after found stale built success again =>
      refine ⟨(Session.isDue_iff refresh found).mpr stale, result, _, after, ?_, success,
        (isDue_again_iff opened found built success).mpr again⟩
      rw [Session.compile_of_stale tools refresh found (BuildRecord.needsBuild_iff.mpr stale),
        built]

theorem runs_runShow (tools : Toolchain σ) (asked : Request) :
    ∃ ran, (runShow tools asked session world).2.runs = world.runs ++ ran ∧
      ran.length ≤ 2 ∧ (ran.length = 2 ↔
        ∃ artifact, session.registry.artifactFor asked.source asked.kind = some artifact ∧
          CompilesTwice tools artifact session world) := by
  rw [runShow, opened.artifactFor_eq]
  cases known : session.registry.artifactFor asked.source asked.kind with
  | none => exact ⟨[], (List.append_nil _).symm, Nat.zero_le 2, by simp⟩
  | some artifact =>
    obtain ⟨ran, hran, least, twice⟩ := runs_showArtifact tools artifact session world
    rw [isDueTwice_iff opened] at twice
    exact ⟨ran, hran, least, by simp [twice]⟩

end

/-! ### The command -/

theorem trace_openSession (options : Options) (world : World σ) :
    (openSession options world).2.trace = world.trace := by
  rw [openSession]
  cases settings world.host options with
  | error failure => rfl
  | ok places =>
    have trace := (Session.start places).trace_load world
    dsimp only
    rcases load : (Session.start places).load world with ⟨failure | count, loaded, after⟩
    · rw [load] at trace
      dsimp only
      split <;> exact trace
    · rw [load] at trace
      exact trace

/-- What `show` is asked for is compiled with success, and stale after that. -/
inductive BuildsTwice (tools : Toolchain σ) (args : List String) (world : World σ) : Prop
  | intro {options : Options} {opened : World σ} {loaded session : Session} {asked : Request}
      {artifact : Path} (read : Options.parse? ("show" :: args) = some options)
      (opens : openSession options world = (.ok loaded, opened))
      (asks : request opened.host options loaded = .ok (asked, session))
      (known : session.registry.artifactFor asked.source asked.kind = some artifact)
      (twice : CompilesTwice tools artifact session opened)

theorem buildsTwice_iff {args : List String} {options : Options} {opened : World σ}
    {loaded session : Session} {asked : Request}
    (read : Options.parse? ("show" :: args) = some options)
    (opens : openSession options world = (.ok loaded, opened))
    (asks : request opened.host options loaded = .ok (asked, session)) :
    BuildsTwice tools args world ↔
      ∃ artifact, session.registry.artifactFor asked.source asked.kind = some artifact ∧
        CompilesTwice tools artifact session opened := by
  constructor
  · rintro ⟨read', opens', asks', known, twice⟩
    cases read.symm.trans read'
    cases opens.symm.trans opens'
    cases asks.symm.trans asks'
    exact ⟨_, known, twice⟩
  · rintro ⟨artifact, known, twice⟩
    exact .intro read opens asks known twice

/-- **`show` runs two commands at most**, and one at most unless the artifact is stale after it was
compiled with success. -/
theorem runs_show (tools : Toolchain σ) (happenings : List (Happening σ)) (args : List String)
    (world : World σ) :
    ∃ ran, (run tools happenings ("show" :: args) world).2.2.runs = world.runs ++ ran ∧
      ran.length ≤ 2 ∧ (ran.length ≤ 1 ↔ ¬BuildsTwice tools args world) := by
  suffices shows : ∃ ran, (run tools happenings ("show" :: args) world).2.2.runs =
      world.runs ++ ran ∧ ran.length ≤ 2 ∧ (ran.length = 2 ↔ BuildsTwice tools args world) by
    obtain ⟨ran, hran, least, twice⟩ := shows
    refine ⟨ran, hran, least, ?_⟩
    rw [← twice]
    omega
  have idle {after : World σ} (same : after.trace = world.trace)
      (once : ¬BuildsTwice tools args world) :
      ∃ ran, after.runs = world.runs ++ ran ∧ ran.length ≤ 2 ∧
        (ran.length = 2 ↔ BuildsTwice tools args world) := by
    refine ⟨[], ?_, Nat.zero_le 2, iff_of_false (by simp) once⟩
    rw [List.append_nil, World.runs, same, World.runs]
  rw [run]
  cases read : Options.parse? ("show" :: args) with
  | none =>
    refine idle rfl ?_
    rintro ⟨found, -, -, -, -⟩
    cases read.symm.trans found
  | some options =>
    dsimp only
    have same := trace_openSession options world
    have hopening := opening options world
    rw [begin]
    generalize opens : openSession options world = step at hopening same
    cases hopening with
    | failed failure after | refused complaint after =>
      refine idle same ?_
      rintro ⟨found, opens', -, -, -⟩
      cases read.symm.trans found
      cases opens.symm.trans opens'
    | opened places commands loaded after placed host opened =>
      rw [Options.command_of_parse read]
      dsimp only
      cases asks : request after.host options loaded with
      | error failure =>
        refine idle same ?_
        rintro ⟨found, opens', asks', -, -⟩
        cases read.symm.trans found
        cases opens.symm.trans opens'
        cases asks.symm.trans asks'
      | ok answer =>
        obtain ⟨asked, session⟩ := answer
        rw [buildsTwice_iff read opens asks]
        obtain ⟨-, extraArgs, rfl⟩ := asked_of_request asks
        obtain ⟨ran, hran, hshow⟩ := runs_runShow (opened.withExtraArgs extraArgs) tools asked
        refine ⟨ran, ?_, hshow⟩
        have start : after.runs = world.runs := by rw [World.runs, same, World.runs]
        rw [← start, ← hran]
        rfl

open Sample in
/-- The source is newer than what the compiler writes; the compiler writes nothing; the database is
newer than the session, and there are extra arguments. Each time the command runs twice. -/
theorem show_runs_twice :
    (run writer [] ("show" :: arguments) (untouched none)).2.2.runs =
        [(listing "c", ⟨.root, []⟩), (listing "c", ⟨.root, []⟩)] ∧
      (run marker [] ("show" :: arguments) (untouched none)).2.2.runs.length = 2 ∧
      let files := ((untouched none).files.put host ⟨.root, [⟨"a", by decide⟩]⟩
        (.file [] 1000 false)).put host configured.database (.file (content "c") 1700 false)
      let world := { untouched none with files }
      (run writer [] ("show" :: arguments) world).2.2.runs.length = 1 ∧
        (run writer [] ("show" :: arguments ++ ["--extra-args=-O2"]) world).2.2.runs.length =
          2 := by
  decide +kernel

end CommandLine

end ArtifactLens
