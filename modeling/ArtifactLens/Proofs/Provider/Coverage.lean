import ArtifactLens.Proofs.Provider.Cases
import ArtifactLens.Proofs.Session.Run

/-!
# What the watches of a provider cover

The watch table of a provider follows its completed first requests, and nothing else: an artifact
is subscribed to a path exactly when such a request for it was completed since the provider was
last disposed of, and the path is the database or the source that the request found
(`Service.Covered`).

Documents are made by reloads too, which subscribe to nothing. So a document that was made from a
record is watched, at the database and at the source of that record, exactly when the artifact
was first requested before it was reloaded, and the request found the same source
(`Service.watched_iff`). An artifact that was only ever reloaded is kept and not watched at all,
and one that was reloaded after its source moved is not watched at the new one
(`Service.unwatched_reload`).

To say this, a `Service` notes beside the state of a provider which source each kept document was
made from, and which first requests were completed. The notes follow the provider and do not
influence it (`Service.act_eq`).
-/

namespace ArtifactLens

variable {σ : Type}

/-- The source of the record that a build of an artifact uses now, if there is a record. -/
def Session.sourceOf (artifact : Path) (session : Session) (world : World σ) : Option Path :=
  match (session.recordFor artifact world).1 with
  | .ok record => record.map (·.source)
  | .error _ => none

theorem Session.sourceOf_of_sourceFor {artifact : Path} {session : Session} {world : World σ}
    {found : Option Path} (h : (session.sourceFor artifact world).1 = .ok found) :
    session.sourceOf artifact world = found := by
  rw [sourceFor, query] at h
  rw [sourceOf, recordFor, query]
  generalize session.refresh world = step at h ⊢
  obtain ⟨failure | _, later, after⟩ := step
  · cases h
  · exact Except.ok.inj h

/-- What a provider may be asked to do. -/
inductive Provider.Op where
  | document (artifact : Path)
  | request (source : Path) (kind : Kind)
  | reload (artifact : Path)
  | receive (event : FileEvent)
  | setExtraArgs (extraArgs : List String)
  | subscribe (listener : Listener)
  | unsubscribe (listener : Listener)
  | dispose

/-- What an operation makes of a provider, its session and its world. -/
def Provider.Op.perform (tools : Toolchain σ) (provider : Provider) (session : Session)
    (world : World σ) : Provider.Op → Provider × Session × World σ
  | document artifact => (provider.document tools artifact session world).2
  | request source kind => (provider.request tools source kind session world).2
  | reload artifact => (provider.reload tools artifact session world).2
  | receive event => (provider.receive tools event session world).2
  | setExtraArgs extraArgs => (provider, { session with extraArgs }, world)
  | subscribe listener => (provider.subscribe listener, session, world)
  | unsubscribe listener => (provider.unsubscribe listener, session, world)
  | dispose => ((provider.dispose world).1, session, (provider.dispose world).2)

/-- A provider at work, with notes of what it did since it was last disposed of. -/
structure Service (σ : Type) where
  provider : Provider
  session : Session
  world : World σ
  /-- For each document that is kept, the source of the record that it was last made from, if there
  was a record. -/
  origins : Table Path (Option Path)
  /-- The first requests that were completed, with the sources that they found. -/
  requests : List (Path × Option Path)

theorem Document.database_build (tools : Toolchain σ) (binary : Bool) (artifact : Path)
    (session : Session) (world : World σ) :
    (build tools binary artifact session world).2.1.database = session.database := by
  have hcompile := session.database_compile tools artifact world
  rw [build]
  generalize session.compile tools artifact world = step at hcompile
  obtain ⟨failure | result, later, after⟩ := step
  · exact hcompile
  · dsimp only
    split_ifs <;> exact hcompile

theorem Provider.database_reload (tools : Toolchain σ) (artifact : Path) (provider : Provider)
    (session : Session) (world : World σ) :
    (provider.reload tools artifact session world).2.2.1.database = session.database := by
  have hbuild := Document.database_build tools provider.binary artifact session world
  rw [reload]
  generalize Document.build tools provider.binary artifact session world = step at hbuild
  obtain ⟨failure | document, later, after⟩ := step
  · dsimp only
    split_ifs <;> exact hbuild
  · exact hbuild

namespace Service

/-- Nothing was asked yet. -/
def start (binary : Bool) (places : Settings.Places) (world : World σ) : Service σ :=
  ⟨.start binary, .start places, world, .empty, []⟩

/-- The provider, its session and its world. -/
def state (service : Service σ) : Provider × Session × World σ :=
  (service.provider, service.session, service.world)

/-! ### Notes -/

/-- After a request for a document. A first request notes the source that the document was made
from and, if it is completed, the source that was found afterwards. -/
def document (tools : Toolchain σ) (artifact : Path) (service : Service σ) : Service σ :=
  let step := service.provider.document tools artifact service.session service.world
  let built := Document.build tools service.provider.binary artifact service.session service.world
  let first := (service.provider.documents.get? artifact).isNone
  { provider := step.2.1
    session := step.2.2.1
    world := step.2.2.2
    origins :=
      if first && built.1.isOk then
        service.origins.insert artifact (service.session.sourceOf artifact service.world)
      else service.origins
    requests :=
      if first && step.1.isOk then
        (artifact, built.2.1.sourceOf artifact built.2.2) :: service.requests
      else service.requests }

/-- After a reload, which notes the source that the document was made from. -/
def reload (tools : Toolchain σ) (artifact : Path) (service : Service σ) : Service σ :=
  let step := service.provider.reload tools artifact service.session service.world
  { service with
    provider := step.2.1
    session := step.2.2.1
    world := step.2.2.2
    origins :=
      if step.1.isOk then
        service.origins.insert artifact (service.session.sourceOf artifact service.world)
      else service.origins }

/-- After reloads, one after the other, up to the first that fails. -/
def reloadAll (tools : Toolchain σ) : List Path → Service σ → Service σ
  | [], service => service
  | artifact :: rest, service =>
    if (service.provider.reload tools artifact service.session service.world).1.isOk then
      reloadAll tools rest (service.reload tools artifact)
    else service.reload tools artifact

/-- After a request for the view of a source. -/
def request (tools : Toolchain σ) (source : Path) (kind : Kind) (service : Service σ) :
    Service σ :=
  let step := service.session.artifactFor source kind service.world
  let later : Service σ := { service with session := step.2.1, world := step.2.2 }
  match step.1 with
  | .ok (some artifact) => later.document tools artifact
  | _ => later

/-- After an operation. Disposing of the provider drops the notes. -/
def act (tools : Toolchain σ) (service : Service σ) : Provider.Op → Service σ
  | .document artifact => service.document tools artifact
  | .request source kind => service.request tools source kind
  | .reload artifact => service.reload tools artifact
  | .receive event => service.reloadAll tools (service.provider.watches.heard event)
  | .setExtraArgs extraArgs => { service with session := { service.session with extraArgs } }
  | .subscribe listener => { service with provider := service.provider.subscribe listener }
  | .unsubscribe listener => { service with provider := service.provider.unsubscribe listener }
  | .dispose =>
    { service with
      provider := (service.provider.dispose service.world).1
      world := (service.provider.dispose service.world).2
      origins := .empty
      requests := [] }

theorem state_reloadAll (tools : Toolchain σ) (artifacts : List Path) (service : Service σ) :
    (service.reloadAll tools artifacts).state =
      (Provider.reloadAll tools artifacts service.provider service.session service.world).2 := by
  induction artifacts generalizing service with
  | nil => rfl
  | cons artifact rest ih =>
    rw [reloadAll, Provider.reloadAll]
    rcases hstep : service.provider.reload tools artifact service.session service.world with
      ⟨failure | _, provider, session, world⟩
    · simp [Except.isOk, Except.toBool, state, reload, hstep]
    · simp [Except.isOk, Except.toBool, ih, reload, hstep]

/-- **The notes do not influence the provider.** -/
theorem act_eq (tools : Toolchain σ) (service : Service σ) (op : Provider.Op) :
    (service.act tools op).state =
      op.perform tools service.provider service.session service.world := by
  cases op with
  | receive event => exact service.state_reloadAll tools _
  | request source kind =>
    rw [act, Provider.Op.perform, request, Provider.request]
    rcases hfound : service.session.artifactFor source kind service.world with
      ⟨failure | _ | artifact, session, world⟩
    · rfl
    · rfl
    · dsimp only
      rcases hstep : service.provider.document tools artifact session world with
        ⟨failure | document, later⟩ <;>
        simp [state, Service.document, hstep]
  | _ => rfl

/-! ### What is watched -/

/-- The watches follow the completed first requests, and the notes the kept documents. -/
structure Covered (places : Settings.Places) (service : Service σ) : Prop where
  database : service.session.database = places.database
  subscribed : ∀ path artifact, artifact ∈ service.provider.watches.subscribers path ↔
    ∃ found, (artifact, found) ∈ service.requests ∧ (path = places.database ∨ found = some path)
  noted : ∀ artifact, service.origins.get? artifact = none ↔
    service.provider.documents.get? artifact = none

namespace Covered

variable {tools : Toolchain σ} {places : Settings.Places} {service : Service σ}

theorem start (binary : Bool) (places : Settings.Places) (world : World σ) :
    (start binary places world).Covered places where
  database := rfl
  subscribed path artifact := by
    simp [Service.start, Provider.start, WatchTable.mem_subscribers, WatchTable.empty]
  noted artifact := by simp [Service.start, Provider.start]

/-- A document that is kept is noted. -/
theorem noted_keep (h : service.Covered places) (artifact : Path) (origin : Option Path)
    (document : Document) (other : Path) :
    (service.origins.insert artifact origin).get? other = none ↔
      (service.provider.keep artifact document).documents.get? other = none := by
  rw [Provider.keep, Table.get?_insert, Table.get?_insert]
  split_ifs
  · simp
  · exact h.noted other

theorem document (h : service.Covered places) (artifact : Path) :
    (service.document tools artifact).Covered places := by
  have hbuilt : (Document.build tools service.provider.binary artifact service.session
      service.world).2.1.database = places.database :=
    (Document.database_build ..).trans h.database
  have hdocumented := service.provider.documented tools artifact service.session service.world
  unfold Service.document
  generalize service.provider.document tools artifact service.session service.world = step
    at hdocumented
  cases hdocumented with
  | kept document found =>
    rw [found]
    exact ⟨h.database, h.subscribed, h.noted⟩
  | unbuilt failure later after missing build =>
    rw [build] at hbuilt ⊢
    rw [missing]
    exact ⟨hbuilt, h.subscribed, h.noted⟩
  | unsourced document failure later last after final missing build source =>
    have hlast : last.database = later.database := by
      have hquery := Session.database_query (·.sourceFor artifact) later after
      rwa [← Session.sourceFor, source] at hquery
    rw [build] at hbuilt ⊢
    rw [missing]
    exact ⟨hlast.trans hbuilt, h.subscribed, h.noted_keep artifact _ document⟩
  | watched document found later last after final missing build source =>
    have hlast : last.database = later.database := by
      have hquery := Session.database_query (·.sourceFor artifact) later after
      rwa [← Session.sourceFor, source] at hquery
    have hfound : later.sourceOf artifact after = found :=
      Session.sourceOf_of_sourceFor (by rw [source])
    rw [build] at hbuilt ⊢
    rw [missing]
    refine ⟨hlast.trans hbuilt, fun path other => ?_, h.noted_keep artifact _ document⟩
    have hrequests : ∀ request, request ∈ (artifact, later.sourceOf artifact after) ::
        service.requests ↔ request = (artifact, found) ∨ request ∈ service.requests := by
      rw [hfound]
      exact fun request => List.mem_cons
    refine (WatchTable.mem_subscribers_follow found last.database final).trans ?_
    rw [h.subscribed, hlast.trans hbuilt]
    constructor
    · rintro (⟨earlier, hmem, hpath⟩ | ⟨rfl, hpath⟩)
      · exact ⟨earlier, (hrequests _).mpr (.inr hmem), hpath⟩
      · exact ⟨found, (hrequests _).mpr (.inl rfl), hpath⟩
    · rintro ⟨earlier, hmem, hpath⟩
      obtain heq | hmem := (hrequests _).mp hmem
      · obtain ⟨rfl, rfl⟩ := Prod.mk.inj heq
        exact .inr ⟨rfl, hpath⟩
      · exact .inl ⟨earlier, hmem, hpath⟩

theorem reload (h : service.Covered places) (artifact : Path) :
    (service.reload tools artifact).Covered places := by
  have hdatabase : (service.provider.reload tools artifact service.session
      service.world).2.2.1.database = places.database :=
    (Provider.database_reload ..).trans h.database
  have hreloaded :=
    service.provider.reloaded tools artifact service.session service.world
  unfold Service.reload
  generalize service.provider.reload tools artifact service.session service.world = step
    at hreloaded hdatabase
  cases hreloaded with
  | failed failure later after => exact ⟨hdatabase, h.subscribed, h.noted⟩
  | reloaded document later after =>
    exact ⟨hdatabase, h.subscribed, h.noted_keep artifact _ document⟩

theorem reloadAll (h : service.Covered places) (artifacts : List Path) :
    (service.reloadAll tools artifacts).Covered places := by
  induction artifacts generalizing service with
  | nil => exact h
  | cons artifact rest ih =>
    rw [Service.reloadAll]
    split_ifs
    · exact ih (h.reload artifact)
    · exact h.reload artifact

theorem request (h : service.Covered places) (source : Path) (kind : Kind) :
    (service.request tools source kind).Covered places := by
  have later : ({ service with
      session := (service.session.artifactFor source kind service.world).2.1
      world := (service.session.artifactFor source kind service.world).2.2 } :
        Service σ).Covered places :=
    ⟨(Session.database_query ..).trans h.database, h.subscribed, h.noted⟩
  rw [Service.request]
  split
  · exact later.document _
  · exact later

theorem act (h : service.Covered places) (op : Provider.Op) :
    (service.act tools op).Covered places := by
  cases op with
  | document artifact => exact h.document artifact
  | request source kind => exact h.request source kind
  | reload artifact => exact h.reload artifact
  | receive event => exact h.reloadAll _
  | setExtraArgs | subscribe | unsubscribe => exact ⟨h.database, h.subscribed, h.noted⟩
  | dispose =>
    refine ⟨h.database, fun path artifact => ⟨fun hmem => ?_, ?_⟩, fun artifact => ?_⟩
    · exact absurd hmem (WatchTable.not_mem_subscribers_close service.world)
    · rintro ⟨found, hrequest, -⟩
      cases hrequest
    · exact iff_of_true rfl rfl

end Covered

/-! ### Runs -/

/-- One step of a run: an operation, or a change of the world by others. -/
inductive Step (tools : Toolchain σ) (service : Service σ) : Service σ → Prop
  | act (op : Provider.Op) : Step tools service (service.act tools op)
  | outside (world : World σ) : Step tools service { service with world }

theorem covered_of_run {tools : Toolchain σ} {binary : Bool} {places : Settings.Places}
    {world : World σ} {service : Service σ}
    (run : Relation.ReflTransGen (Step tools) (start binary places world) service) :
    service.Covered places := by
  induction run with
  | refl => exact .start binary places world
  | tail _ step ih =>
    cases step with
    | act op => exact ih.act op
    | outside => exact ⟨ih.database, ih.subscribed, ih.noted⟩

/-- **Documents are watched if and only if they were requested first.** A document that was last
made from a record is kept. Its artifact is subscribed to the database and to the source of this
record exactly when a first request for the artifact was completed since the provider was last
disposed of, and found the same source. -/
theorem watched_iff {tools : Toolchain σ} {binary : Bool} {places : Settings.Places}
    {world : World σ} {service : Service σ}
    (run : Relation.ReflTransGen (Step tools) (start binary places world) service)
    {artifact source : Path} (made : service.origins.get? artifact = some (some source)) :
    let watches := service.provider.watches
    (∃ document, service.provider.documents.get? artifact = some document) ∧
      (artifact ∈ watches.subscribers places.database ∧ artifact ∈ watches.subscribers source ↔
        ∃ found, (artifact, found) ∈ service.requests ∧
          (source = places.database ∨ found = some source)) := by
  intro watches
  have covered := covered_of_run run
  constructor
  · rw [← Option.ne_none_iff_exists', Ne, ← covered.noted, made]
    exact Option.some_ne_none _
  · rw [covered.subscribed, covered.subscribed]
    constructor
    · exact And.right
    · rintro ⟨found, hrequest, hsource⟩
      exact ⟨⟨found, hrequest, .inl rfl⟩, found, hrequest, hsource⟩

open Sample in
/-- In the small project, a listing that is requested is watched. -/
theorem watched_iff_requested :
    let service := (start false places newWorld).act tools (.document artifact)
    let source : Path := ⟨.root, [⟨"a", by decide⟩]⟩
    artifact ∈ service.provider.watches.subscribers places.database ∧
      artifact ∈ service.provider.watches.subscribers source := by
  intro service source
  have run : Relation.ReflTransGen (Step tools) (start false places newWorld) service :=
    .single (.act _)
  have made : service.origins.get? artifact = some (some source) := by decide +kernel
  have requested : (artifact, some source) ∈ service.requests := by decide +kernel
  exact (watched_iff run made).2.mpr ⟨some source, requested, .inr rfl⟩

open Sample in
/-- **A reload subscribes to nothing.** In the small project, a listing that is reloaded without a
request is kept, made from the record of its source, and not watched. -/
theorem unwatched_reload :
    ∃ service : Service Unit,
      Relation.ReflTransGen (Step tools) (start false places newWorld) service ∧
      ∃ source document, service.origins.get? artifact = some (some source) ∧
        service.provider.documents.get? artifact = some document ∧ document.isOk = true ∧
        artifact ∉ service.provider.watches.subscribers places.database ∧
        artifact ∉ service.provider.watches.subscribers source := by
  refine ⟨(start false places newWorld).act tools (.reload artifact), .single (.act _),
    ⟨.root, [⟨"a", by decide⟩]⟩, { artifact }, ?_⟩
  decide +kernel

end Service

end ArtifactLens
