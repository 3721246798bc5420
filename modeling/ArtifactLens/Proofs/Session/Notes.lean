import ArtifactLens.Proofs.Session.Reload

/-!
# The extra arguments on record

A record keeps the extra arguments of the last build of its artifact, for as long as the registry
is not loaded again. To say this, a `Chronicle` notes beside a run every attempt to load the
database and every artifact that was built, with the extra arguments in effect. The notes follow
the run and do not influence it (`History.Run.chronicle`).

* **Builds**: an operation builds an artifact if it is a compilation that runs a command and is
  answered with success (`History.built?`). It leaves the session as the refresh did, but for the
  extra arguments that the record of this artifact keeps (`History.session_act`).
* **Memory**: along every run, the extra arguments on record are those of the last build that was
  noted since the last attempt to load the database, and there are none if there was no such build
  (`Chronicle.lastExtraArgs_eq`).
-/

namespace ArtifactLens

variable {σ : Type}

namespace Registry

variable {host : Host} {registry : Registry}

/-- Writing back a record as it is changes nothing. -/
theorem update_self {record : BuildRecord}
    (own : registry.recordFor record.artifact = some record) :
    registry.update record = registry := by
  rw [recordFor] at own
  rw [update, own, Table.insert_of_get? own]

/-- The registry in which the record of an artifact keeps extra arguments. -/
def remember (registry : Registry) (artifact : Path) (extraArgs : List String) : Registry :=
  match registry.recordFor artifact with
  | some record => registry.update { record with lastExtraArgs := extraArgs }
  | none => registry

theorem recordFor_remember (coherent : registry.Coherent host) (artifact : Path)
    (extraArgs : List String) (other : Path) :
    (registry.remember artifact extraArgs).recordFor other =
      if artifact = other then
        (registry.recordFor other).map fun record => { record with lastExtraArgs := extraArgs }
      else registry.recordFor other := by
  rw [remember]
  cases found : registry.recordFor artifact with
  | none =>
    split_ifs with hother
    · rw [← hother, found, Option.map_none]
    · rfl
  | some record =>
    have own := coherent.recordFor_artifact found
    obtain rfl := coherent.artifact_eq found
    rw [recordFor_update { record with lastExtraArgs := extraArgs } own]
    split_ifs with hother
    · rw [← hother, found, Option.map_some]
    · rfl

/-- Nothing but extra arguments changes. -/
theorem withoutArgs_remember (coherent : registry.Coherent host) (artifact : Path)
    (extraArgs : List String) :
    (registry.remember artifact extraArgs).withoutArgs = registry.withoutArgs := by
  rw [remember]
  cases found : registry.recordFor artifact with
  | none => rfl
  | some record =>
    have own := coherent.recordFor_artifact found
    exact withoutArgs_update { record with lastExtraArgs := extraArgs } own rfl

end Registry

namespace Session

/-- The session after an artifact was built, if any was. -/
def afterBuild (session : Session) : Option Path → Session
  | some artifact =>
    { session with registry := session.registry.remember artifact session.extraArgs }
  | none => session

@[simp]
theorem database_afterBuild (session : Session) (built : Option Path) :
    (session.afterBuild built).database = session.database := by
  cases built <;> rfl

@[simp]
theorem extraArgs_afterBuild (session : Session) (built : Option Path) :
    (session.afterBuild built).extraArgs = session.extraArgs := by
  cases built <;> rfl

@[simp]
theorem loadedAt_afterBuild (session : Session) (built : Option Path) :
    (session.afterBuild built).loadedAt = session.loadedAt := by
  cases built <;> rfl

/-- A build changes the record of its artifact only. -/
theorem recordFor_afterBuild {host : Host} {session : Session}
    (coherent : session.registry.Coherent host) (built : Option Path) (artifact : Path) :
    (session.afterBuild built).registry.recordFor artifact =
      if built = some artifact then
        (session.registry.recordFor artifact).map fun record =>
          { record with lastExtraArgs := session.extraArgs }
      else session.registry.recordFor artifact := by
  cases built with
  | none => rfl
  | some other =>
    rw [afterBuild, Registry.recordFor_remember coherent]
    simp only [Option.some.injEq]

end Session

namespace History

@[simp]
theorem extraArgs_refreshed (history : History σ) :
    history.refreshed.session.extraArgs = history.session.extraArgs :=
  Session.extraArgs_refresh _ _

/-- A compilation of an artifact builds it: it runs a command and is answered with success. -/
def builds (tools : Toolchain σ) (history : History σ) (artifact : Path) : Bool :=
  let step := history.session.compile tools artifact history.world
  match step.1 with
  | .ok result => result.success && step.2.2.trace != history.world.trace
  | .error _ => false

/-- The artifact that an operation builds, if it is a compilation that builds its artifact. -/
def built? (tools : Toolchain σ) (history : History σ) : Session.Op → Option Path
  | .compile artifact => if history.builds tools artifact then some artifact else none
  | _ => none

/-- What a compilation answers, whether it builds, and which session and trace it leaves, by the
session and the world after the refresh. -/
inductive Compilation (artifact : Path) (session : Session) (world : World σ) :
    Except Failure BuildResult → Bool → Session → List Event → Prop
  | refused (failure : Failure) :
      Compilation artifact session world (.error failure) false session world.trace
  | upToDate (record : BuildRecord) (found : session.registry.recordFor artifact = some record)
      (fresh : record.needsBuild world.host world.files session.extraArgs session.database =
        false) :
      Compilation artifact session world (.ok .upToDate) false session world.trace
  /-- The runner or the demangler gives up. -/
  | abandoned (record : BuildRecord) (found : session.registry.recordFor artifact = some record)
      (failure : Failure) (events : List Event) :
      Compilation artifact session world (.error failure) false session
        (world.trace ++ .ran (record.commandWith session.extraArgs) record.directory :: events)
  | failed (record : BuildRecord) (found : session.registry.recordFor artifact = some record)
      (stale : record.needsBuild world.host world.files session.extraArgs session.database = true)
      (outcome : ProcessOutcome) (code : outcome.exitCode ≠ some 0) :
      Compilation artifact session world
        (.ok (outcome.result (record.commandWith session.extraArgs))) false session
        (world.trace ++ [.ran (record.commandWith session.extraArgs) record.directory])
  /-- The record keeps the extra arguments. -/
  | built (record : BuildRecord) (found : session.registry.recordFor artifact = some record)
      (outcome : ProcessOutcome) (code : outcome.exitCode = some 0) :
      Compilation artifact session world
        (.ok (outcome.result (record.commandWith session.extraArgs))) true
        (session.afterBuild (some artifact))
        (world.trace ++ [.ran (record.commandWith session.extraArgs) record.directory,
          .demangled record.artifact])

theorem compilation (tools : Toolchain σ) {history : History σ} (coherent : history.Coherent)
    (artifact : Path) :
    Compilation artifact history.refreshed.session history.refreshed.world
      (history.session.compile tools artifact history.world).1 (history.builds tools artifact)
      (history.act tools (.compile artifact)).session
      (history.act tools (.compile artifact)).world.trace := by
  have hcoherent := Session.coherent_refresh coherent
  have htrace := history.session.trace_refresh history.world
  have hcompiled := history.session.compiled tools artifact history.world
  rw [builds, ← htrace, refreshed, act, Session.Op.perform]
  generalize history.session.compile tools artifact history.world = step at hcompiled
  cases hcompiled with
  | broken failure later after refresh =>
    rw [refresh]
    exact .refused failure
  | unknown later after refresh unknown =>
    rw [refresh]
    exact .refused (.noRecord artifact)
  | upToDate later after record refresh found fresh =>
    rw [refresh]
    simp only [bne_self_eq_false, Bool.and_false]
    exact .upToDate record found fresh
  | executed later after record refresh found stale =>
    rw [refresh] at hcoherent ⊢
    have own := hcoherent.recordFor_artifact found
    have kept : { later with registry := later.registry.update record } = later :=
      congrArg (fun registry => { later with registry }) (Registry.update_self own)
    have hexecuted := tools.executed record later.extraArgs after
    generalize tools.execute record later.extraArgs after = outcome at hexecuted
    cases hexecuted with
    | abandoned failure files state run =>
      simp only [kept]
      exact .abandoned record found failure []
    | failed outcome files state run code =>
      have unsuccessful : (outcome.result (record.commandWith later.extraArgs)).success = false :=
        beq_eq_false_iff_ne.mpr code
      simp only [kept, unsuccessful, Bool.false_and]
      exact .failed record found stale outcome code
    | undemangled outcome files state failure last run code demangle =>
      simp only [kept, World.note, List.append_assoc]
      exact .abandoned record found failure [.demangled record.artifact]
    | built outcome files state last run code demangle =>
      have successful : (outcome.result (record.commandWith later.extraArgs)).success = true :=
        beq_iff_eq.mpr code
      have remembers : later.afterBuild (some artifact) = { later with
          registry := later.registry.update
            { record with lastExtraArgs := later.extraArgs } } := by
        rw [Session.afterBuild, Registry.remember, found]
      have changed : (after.trace ++ [.ran (record.commandWith later.extraArgs) record.directory,
          .demangled record.artifact] != after.trace) = true := by simp
      simp only [World.note, List.append_assoc, List.singleton_append, successful, changed,
        Bool.and_self, ← remembers]
      exact .built record found outcome code

/-- An operation that refreshes leaves the session as the refresh did, but for what the record of
an artifact that it builds keeps. -/
theorem session_act (tools : Toolchain σ) {history : History σ} (coherent : history.Coherent)
    {op : Session.Op} (refreshes : op.refreshes = true) :
    (history.act tools op).session =
      history.refreshed.session.afterBuild (history.built? tools op) := by
  cases op with
  | load | setExtraArgs => cases refreshes
  | compile artifact =>
    have hcompilation := history.compilation tools coherent artifact
    rw [built?]
    generalize history.builds tools artifact = built at hcompilation ⊢
    generalize (history.act tools (.compile artifact)).session = session at hcompilation ⊢
    generalize (history.session.compile tools artifact history.world).1 = answer at hcompilation
    generalize (history.act tools (.compile artifact)).world.trace = trace at hcompilation
    cases hcompilation <;> rfl
  | refresh => rfl
  | artifactFor | sourceFor | recordFor | records =>
    exact congrArg Prod.fst (Session.query_snd _ history.session history.world)

/-- An operation that refreshes attempts what the refresh does. -/
theorem attempts_act (tools : Toolchain σ) (history : History σ) {op : Session.Op}
    (refreshes : op.refreshes = true) :
    (history.act tools op).attempts = history.refreshed.attempts := by
  cases op with
  | load | setExtraArgs => cases refreshes
  | _ => rfl

end History

/-! ### Notes -/

/-- What is worth noting in a run. -/
inductive Note where
  /-- The database was tried to be loaded. -/
  | loaded
  /-- An artifact was built, with extra arguments. -/
  | built (artifact : Path) (extraArgs : List String)
  deriving DecidableEq

/-- The extra arguments of the last build of an artifact since the last attempt to load the
database, by notes of which the latest is the first. -/
def lastArgs? (artifact : Path) : List Note → Option (List String)
  | [] => none
  | .loaded :: _ => none
  | .built other extraArgs :: earlier =>
    if other = artifact then some extraArgs else lastArgs? artifact earlier

/-- A build that is noted counts for its artifact. -/
theorem lastArgs?_built (built : Option Path) (extraArgs : List String) (artifact : Path)
    (notes : List Note) :
    lastArgs? artifact ((built.map (.built · extraArgs)).toList ++ notes) =
      if built = some artifact then some extraArgs else lastArgs? artifact notes := by
  cases built with
  | none => rfl
  | some other =>
    rw [Option.map_some, Option.toList_some, List.singleton_append, lastArgs?]
    simp only [Option.some.injEq]

/-- What there is to note of an operation: whether it loads, and then what it builds. -/
def History.notes (tools : Toolchain σ) (history : History σ) (op : Session.Op) : List Note :=
  ((history.built? tools op).map (.built · history.session.extraArgs)).toList ++
    if op.loads history.session history.world then [.loaded] else []

/-- A history with notes. -/
structure Chronicle (σ : Type) where
  history : History σ
  /-- The latest note is the first. -/
  notes : List Note

namespace Chronicle

/-- After an operation, which is noted. -/
def act (tools : Toolchain σ) (op : Session.Op) (chronicle : Chronicle σ) : Chronicle σ where
  history := chronicle.history.act tools op
  notes := chronicle.history.notes tools op ++ chronicle.notes

/-- What is noted of an operation that refreshes. -/
theorem notes_act (tools : Toolchain σ) (chronicle : Chronicle σ) {op : Session.Op}
    (refreshes : op.refreshes = true) :
    (chronicle.act tools op).notes =
      ((chronicle.history.built? tools op).map
          (.built · chronicle.history.session.extraArgs)).toList ++
        ((if chronicle.history.session.isOutdated chronicle.history.world then [.loaded] else []) ++
          chronicle.notes) := by
  rw [act, History.notes, Session.Op.loads_of_refreshes refreshes, List.append_assoc]

/-- One step: an operation among those that are allowed, or a change of the world by others. -/
inductive Step (tools : Toolchain σ) (Allowed : Session.Op → Prop) (chronicle : Chronicle σ) :
    Chronicle σ → Prop
  | act (op : Session.Op) (allowed : Allowed op) :
      Step tools Allowed chronicle (chronicle.act tools op)
  | outside (world : World σ) (host : world.host = chronicle.history.world.host)
      (trace : world.trace = chronicle.history.world.trace) :
      Step tools Allowed chronicle
        { chronicle with history := { chronicle.history with world } }

/-- Steps from one chronicle to another that all keep a discipline. -/
def Run (tools : Toolchain σ) (Allowed : Session.Op → Prop)
    (Discipline : History σ → History σ → Prop) : Chronicle σ → Chronicle σ → Prop :=
  Relation.ReflTransGen fun chronicle next =>
    Step tools Allowed chronicle next ∧ Discipline chronicle.history next.history

variable {tools : Toolchain σ} {Allowed : Session.Op → Prop}
  {Discipline : History σ → History σ → Prop}

theorem Step.history {chronicle next : Chronicle σ} (step : Step tools Allowed chronicle next) :
    History.Step tools chronicle.history next.history := by
  cases step with
  | act op => exact .act op
  | outside world host trace => exact .outside world host trace

/-- A run without its notes. -/
theorem Run.history {first last : Chronicle σ} (run : Run tools Allowed Discipline first last) :
    History.Run tools Discipline first.history last.history :=
  Relation.ReflTransGen.lift Chronicle.history (fun _ _ step => ⟨step.1.history, step.2⟩) _ _ run

end Chronicle

/-- **The notes do not influence a run.** Notes can be taken of every run. -/
theorem History.Run.chronicle {tools : Toolchain σ} {Discipline : History σ → History σ → Prop}
    {first last : History σ} (run : History.Run tools Discipline first last) (notes : List Note) :
    ∃ later, Chronicle.Run tools (fun _ => True) Discipline ⟨first, notes⟩ ⟨last, later⟩ := by
  induction run with
  | refl => exact ⟨notes, .refl⟩
  | @tail history next earlier step ih =>
    obtain ⟨later, taken⟩ := ih
    obtain ⟨hstep, discipline⟩ := step
    cases hstep with
    | act op => exact ⟨_, .tail taken ⟨.act op trivial, discipline⟩⟩
    | outside world host trace => exact ⟨later, .tail taken ⟨.outside world host trace, discipline⟩⟩

/-! ### Memory -/

/-- The records of a registry keep the extra arguments that are noted of their artifacts. -/
def Registry.Keeps (registry : Registry) (notes : List Note) : Prop :=
  ∀ artifact record, registry.recordFor artifact = some record →
    record.lastExtraArgs = (lastArgs? artifact notes).getD []

namespace History

variable {tools : Toolchain σ} {history : History σ} {notes : List Note}

theorem keeps_loaded (history : History σ) (notes : List Note) :
    history.loaded.session.registry.Keeps (.loaded :: notes) :=
  fun _ _ => history.session.lastExtraArgs_load history.world

theorem keeps_refreshed (h : history.session.registry.Keeps notes) :
    history.refreshed.session.registry.Keeps
      ((if history.session.isOutdated history.world then [.loaded] else []) ++ notes) := by
  have hrefreshed := history.refreshed_cases
  generalize history.refreshed = next at hrefreshed
  cases hrefreshed with
  | current fresh =>
    rw [fresh]
    exact h
  | loaded outdated =>
    rw [outdated]
    exact history.keeps_loaded notes
  | emptied outdated =>
    rintro artifact record hrecord
    cases hrecord

theorem keeps_afterBuild (coherent : history.Coherent)
    (h : history.session.registry.Keeps notes) (built : Option Path) :
    (history.session.afterBuild built).registry.Keeps
      ((built.map (.built · history.session.extraArgs)).toList ++ notes) := by
  intro artifact record hrecord
  rw [Session.recordFor_afterBuild coherent] at hrecord
  rw [lastArgs?_built]
  split_ifs at hrecord ⊢ with hbuilt
  · obtain ⟨old, -, rfl⟩ := Option.map_eq_some_iff.mp hrecord
    rfl
  · exact h artifact record hrecord

end History

namespace Chronicle

/-- Opened before anything was done. -/
def start (places : Settings.Places) (world : World σ) : Chronicle σ :=
  ⟨.start places world, []⟩

theorem keeps_act (tools : Toolchain σ) {chronicle : Chronicle σ}
    (coherent : chronicle.history.Coherent)
    (h : chronicle.history.session.registry.Keeps chronicle.notes) (op : Session.Op) :
    (chronicle.act tools op).history.session.registry.Keeps (chronicle.act tools op).notes := by
  by_cases refreshes : op.refreshes = true
  · rw [notes_act tools chronicle refreshes, act, History.session_act tools coherent refreshes]
    have hkeeps := History.keeps_afterBuild coherent.refreshed (History.keeps_refreshed h)
      (chronicle.history.built? tools op)
    rwa [History.extraArgs_refreshed] at hkeeps
  · cases op with
    | load => exact chronicle.history.keeps_loaded chronicle.notes
    | setExtraArgs => exact h
    | _ => exact absurd rfl refreshes

/-- Along every run, records keep the extra arguments that are noted. -/
theorem Run.keeps {tools : Toolchain σ} {Allowed : Session.Op → Prop}
    {Discipline : History σ → History σ → Prop} {places : Settings.Places} {world : World σ}
    {chronicle : Chronicle σ} (run : Run tools Allowed Discipline (start places world) chronicle) :
    chronicle.history.session.registry.Keeps chronicle.notes := by
  induction run with
  | refl =>
    intro artifact record hrecord
    cases hrecord
  | tail earlier step ih =>
    cases step.1 with
    | act op => exact keeps_act tools (History.Run.mirror (Run.history earlier)).coherent ih op
    | outside => exact ih

/-- **The extra arguments on record are those of the last build.** Along every run, a record has the
extra arguments of the last build of its artifact that was noted since the last attempt to load the
database, and none if there was no such build. An operation that refreshes changes nothing else of
any record and nothing of the records of artifacts that it does not build, apart from what the
refresh does; setting the extra arguments changes no record. -/
theorem lastExtraArgs_eq {tools : Toolchain σ} {Allowed : Session.Op → Prop}
    {Discipline : History σ → History σ → Prop} {places : Settings.Places} {world : World σ}
    {chronicle : Chronicle σ} (run : Run tools Allowed Discipline (start places world) chronicle) :
    let history := chronicle.history
    (∀ artifact record, history.session.registry.recordFor artifact = some record →
      record.lastExtraArgs = (lastArgs? artifact chronicle.notes).getD []) ∧
    (∀ op, op.refreshes = true →
      let before := history.refreshed.session.registry
      let after := (history.act tools op).session.registry
      after.withoutArgs = before.withoutArgs ∧
        ∀ artifact, history.built? tools op ≠ some artifact →
          after.recordFor artifact = before.recordFor artifact) ∧
    ∀ extraArgs,
      (history.act tools (.setExtraArgs extraArgs)).session.registry =
        history.session.registry := by
  intro history
  have coherent : history.Coherent := (History.Run.mirror (Run.history run)).coherent
  refine ⟨Run.keeps run, fun op refreshes => ?_, fun extraArgs => rfl⟩
  intro before after
  have hafter : after = (history.refreshed.session.afterBuild (history.built? tools op)).registry :=
    congrArg Session.registry (history.session_act tools coherent refreshes)
  rw [hafter]
  cases history.built? tools op with
  | none => exact ⟨rfl, fun _ _ => rfl⟩
  | some built =>
    refine ⟨Registry.withoutArgs_remember coherent.refreshed built _, fun artifact hother => ?_⟩
    rw [Session.recordFor_afterBuild coherent.refreshed, if_neg hother]

open Sample in
/-- In the small project, the listing is built with an extra argument, which its record keeps when
the extra arguments are set again. -/
theorem lastExtraArgs_eq_listing :
    let chronicle := (((start places newWorld).act tools (.setExtraArgs ["-O"])).act tools
      (.compile artifact)).act tools (.setExtraArgs [])
    ∃ record, chronicle.history.session.registry.recordFor artifact = some record ∧
      record.lastExtraArgs = ["-O"] := by
  intro chronicle
  have run : Run tools (fun _ => True) (fun _ _ => True) (start places newWorld) chronicle :=
    ((Relation.ReflTransGen.single ⟨.act _ trivial, trivial⟩).tail
      ⟨.act _ trivial, trivial⟩).tail ⟨.act _ trivial, trivial⟩
  have noted : (lastArgs? artifact chronicle.notes).getD [] = ["-O"] := by decide +kernel
  have known : (chronicle.history.session.registry.recordFor artifact).isSome := by decide +kernel
  obtain ⟨record, found⟩ := Option.isSome_iff_exists.mp known
  exact ⟨record, found, ((lastExtraArgs_eq run).1 artifact record found).trans noted⟩

end Chronicle

end ArtifactLens
