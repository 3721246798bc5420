import ArtifactLens.Proofs.CommandLine.Course
import ArtifactLens.Proofs.Provider.Reloads

/-!
# Watching an artifact

What becomes of a `watch` (`CommandLine.begun`): it is refused if the source has no artifact; it
fails if no document of the artifact can be made, or if the session stumbles over a database that
was changed by the build; otherwise it waits, and keeps the document of the artifact.

While it waits, events have documents made anew. **The wait fails where one of them cannot be made**
(`CommandLine.Watching.run_error_iff`), or where a change from outside fails, and at nothing else:
the document that is printed again is one that is kept.
-/

namespace ArtifactLens

variable {σ : Type} {tools : Toolchain σ} {failure : Failure}

namespace CommandLine

namespace Watching

/-- The provider cannot take in what happens. -/
def Disturbed (tools : Toolchain σ) (failure : Failure) (watching : Watching σ) :
    Happening σ → Prop
  | .file event =>
    Provider.Faults tools failure (watching.provider.watches.heard event) watching.provider
      watching.session watching.world
  | .outside change => change watching.world = .error failure

/-- Among what happens is something that the provider cannot take in. -/
inductive Faults (tools : Toolchain σ) (failure : Failure) : Watching σ → List (Happening σ) → Prop
  | now {watching : Watching σ} {happening : Happening σ} {rest : List (Happening σ)}
      (h : watching.Disturbed tools failure happening) :
      Faults tools failure watching (happening :: rest)
  | later {watching next : Watching σ} {happening : Happening σ} {rest : List (Happening σ)}
      {shown : String} (step : watching.step tools happening = (.ok shown, next))
      (h : Faults tools failure next rest) : Faults tools failure watching (happening :: rest)

/-- The changes from outside succeed. -/
def Orderly (happenings : List (Happening σ)) : Prop :=
  ∀ change, .outside change ∈ happenings → ∀ world failure, change world ≠ .error failure

/-- With tools that never give up, only integers of too many digits are met. -/
theorem Faults.eq_longInteger (reliable : tools.Reliable) {happenings : List (Happening σ)}
    (orderly : Orderly happenings) {watching : Watching σ}
    (h : Faults tools failure watching happenings) : ∃ digits, failure = .longInteger digits := by
  induction h with
  | @now _ happening _ h =>
    cases happening with
    | file event => exact Provider.Faults.eq_longInteger reliable h
    | outside change => exact absurd h (orderly change List.mem_cons_self _ _)
  | later _ _ ih => exact ih fun change hmem => orderly change (List.mem_cons_of_mem _ hmem)

/-- What is printed again has a document that is kept. -/
def Keeps (watching : Watching σ) : Prop :=
  ∀ path, watching.artifact = some path → (watching.provider.documents.get? path).isSome

section

variable {watching : Watching σ} {happening : Happening σ} (keeps : watching.Keeps)

include keeps

end

end Watching

end CommandLine

/-! ### Before the wait -/

namespace WatchTable

theorem files_watch (table : WatchTable) (path subscriber : Path) (world : World σ) :
    (table.watch path subscriber world).2.files = world.files := by
  rw [watch]
  dsimp only
  split_ifs <;> rfl

theorem files_follow (table : WatchTable) (found : Option Path) (database artifact : Path)
    (world : World σ) : (table.follow found database artifact world).2.files = world.files := by
  cases found with
  | none => exact table.files_watch ..
  | some source => exact (files_watch ..).trans (table.files_watch ..)

end WatchTable

namespace Session

variable {session later last : Session} {world after other final : World σ}

/-- A query that is answered is answered after a refresh. -/
theorem refresh_of_query {α : Type} {answer : Registry → α} {value : α}
    (asked : query answer session world = (.ok value, later, after)) :
    session.refresh world = (.ok (), later, after) := by
  rw [query] at asked
  rcases refresh : session.refresh world with ⟨failure | _, last, final⟩
  · rw [refresh] at asked
    cases asked
  · rw [refresh] at asked
    cases asked
    rfl

/-- A refresh looks at the files only, and does not fail right after another. -/
theorem refresh_of_refresh (refresh : session.refresh world = (.ok (), later, after))
    (files : other.files = after.files) (host : other.host = after.host) :
    ∃ last final, later.refresh other = (.ok (), last, final) := by
  rcases again : later.refresh other with ⟨failure | _, last, final⟩
  · obtain ⟨digits, -, stumbles⟩ := refresh_error_iff.mp (congrArg Prod.fst again)
    rw [Stumbles, isOutdated, files, host] at stumbles
    exact absurd stumbles (not_stumbles_of_refresh refresh)
  · exact ⟨last, final, rfl⟩

/-- An artifact is named after its source and kind. -/
theorem Mirrors.artifact_eq {places : Settings.Places} (h : session.Mirrors places world)
    {source artifact : Path} {kind : Kind}
    (known : session.registry.artifactFor source kind = some artifact) :
    artifact = places.artifactPath world.host source kind := by
  rw [Settings.Places.artifactPath, ← h.clear, Registry.artifactPath_clear]
  exact (h.coherent.mapped source kind artifact known).1

end Session

namespace CommandLine

/-- What a `watch` comes to, of what a session that was just loaded is asked for. -/
inductive Begun (tools : Toolchain σ) (asked : Request) (session : Session) (world : World σ) :
    Progress σ → Prop
  | refused (complaint : String) (after : World σ)
      (missing : session.registry.artifactFor asked.source asked.kind = none) :
      Begun tools asked session world (.ended (.ok (.refusal 2 complaint)) after)
  /-- The tools give up with a failure that tells of a missing record. -/
  | lost {artifact : Path} {failure : Failure} (complaint : String) (after : World σ)
      (known : session.registry.artifactFor asked.source asked.kind = some artifact)
      (unmade : Document.Unmade tools artifact session world failure)
      (lookup : failure.category = .lookup) :
      Begun tools asked session world (.ended (.ok (.refusal 2 complaint)) after)
  | unmade {artifact : Path} {failure : Failure} (after : World σ)
      (known : session.registry.artifactFor asked.source asked.kind = some artifact)
      (unmade : Document.Unmade tools artifact session world failure)
      (other : failure.category ≠ .lookup) :
      Begun tools asked session world (.ended (.error failure) after)
  | unsourced {artifact : Path} {document : Document} {later : Session} {after : World σ}
      {digits : Nat} (final : World σ)
      (known : session.registry.artifactFor asked.source asked.kind = some artifact)
      (build : Document.build tools false artifact session world = (.ok document, later, after))
      (stumbles : later.Stumbles after digits) :
      Begun tools asked session world (.ended (.error (.longInteger digits)) final)
  | waiting {artifact : Path} {document : Document} {later : Session} {after : World σ}
      (watching : Watching σ)
      (known : session.registry.artifactFor asked.source asked.kind = some artifact)
      (build : Document.build tools false artifact session world = (.ok document, later, after))
      (steady : ∀ digits, ¬later.Stumbles after digits) (keeps : watching.Keeps) :
      Begun tools asked session world (.waiting (Display.print document.render) watching)

section

variable {places : Settings.Places} {commands : List CompileCommand} {session : Session}
  {world : World σ} {asked : Request}

/-- Once a document is made and watched, the artifact that is asked for can be told again, and is
the same unless it is lost. -/
theorem artifactFor_of_watched (reachable : Session.Reachable tools places (session, world))
    {artifact : Path} (known : session.registry.artifactFor asked.source asked.kind = some artifact)
    {document : Document} {later last : Session} {after final : World σ} {found : Option Path}
    (build : Document.build tools false artifact session world = (.ok document, later, after))
    (source : later.sourceFor artifact after = (.ok found, last, final)) (table : WatchTable) :
    ∃ again latest ended, last.artifactFor asked.source asked.kind
        (table.follow found last.database artifact final).2 = (.ok again, latest, ended) ∧
      ∀ path, again = some path → path = artifact := by
  have hrefresh := Session.refresh_of_query source
  have hfiles := table.files_follow found last.database artifact final
  have hhost := table.host_follow found last.database artifact final
  generalize (table.follow found last.database artifact final).2 = watched at hfiles hhost ⊢
  obtain ⟨latest, ended, again⟩ := Session.refresh_of_refresh hrefresh hfiles hhost
  have answer := Session.query_of_refresh (·.artifactFor asked.source asked.kind) again
  refine ⟨_, latest, ended, answer, fun path hpath => ?_⟩
  have mirrors : latest.Mirrors places ended := by
    have hbuild := reachable.build false artifact
    rw [build] at hbuild
    have hsource := hbuild.act (.sourceFor artifact)
    rw [Session.Op.perform, source] at hsource
    have hasked := (hsource.outside watched hhost).act (.artifactFor asked.source asked.kind)
    rw [Session.Op.perform, Session.artifactFor, answer] at hasked
    exact hasked.mirrors
  have host : ended.host = world.host := by
    have hended := last.host_refresh watched
    have hfinal := later.host_refresh after
    have hafter := session.host_compile tools artifact world
    rw [again] at hended
    rw [hrefresh] at hfinal
    rw [← Document.build_snd tools false, build] at hafter
    exact hended.trans (hhost.trans (hfinal.trans hafter))
  rw [mirrors.artifact_eq hpath, host]
  exact (reachable.mirrors.artifact_eq known).symm

theorem begun (opened : session.Opened places commands world)
    (reachable : Session.Reachable tools places (session, world)) :
    Begun tools asked session world (beginWatch tools asked session world) := by
  rw [beginWatch, ← display]
  cases known : session.registry.artifactFor asked.source asked.kind with
  | none =>
    have request : display.request tools asked.source asked.kind session world =
        (.error (.noCommand asked.source asked.kind), display, session, world) := by
      rw [Provider.request, opened.artifactFor_eq, known]
    rw [request]
    exact .refused _ _ known
  | some artifact =>
    have hdocumented := display.documented tools artifact session world
    rcases made : display.document tools artifact session world with ⟨answer, provider, last, final⟩
    rw [request_of_document opened known made]
    rw [made] at hdocumented
    generalize hstep : (answer, provider, last, final) = step at hdocumented
    cases hdocumented with
    -- the provider is new: it keeps no document
    | kept other found => cases found
    | unbuilt met later after missing build =>
      cases hstep
      have unmade := (Document.build_error_iff_unmade false).mp (congrArg Prod.fst build)
      dsimp only [Except.map]
      split_ifs with lookup
      · exact .lost _ _ known unmade lookup
      · exact .unmade _ known unmade lookup
    | unsourced document met later last' after final' missing build source =>
      cases hstep
      have failed := Session.query_error_iff (·.sourceFor artifact) |>.mp (congrArg Prod.fst source)
      obtain ⟨digits, rfl, stumbles⟩ := Session.refresh_error_iff.mp failed
      exact .unsourced _ known build stumbles
    | watched document found later last' after final' missing build source =>
      cases hstep
      obtain ⟨again, latest, ended, answer, same⟩ :=
        artifactFor_of_watched reachable known build source display.watches
      dsimp only [Except.map]
      rw [answer]
      refine .waiting _ known build (fun digits stumbles => ?_) fun path hpath => ?_
      · have failed := Session.refresh_error_iff.mpr ⟨digits, rfl, stumbles⟩
        rw [Session.refresh_of_query source] at failed
        cases failed
      · obtain rfl := same path hpath
        exact Option.isSome_of_eq_some ((Table.get?_insert ..).trans (if_pos rfl))

end

end CommandLine

end ArtifactLens
