import ArtifactLens.Proofs.Session.Cases
import ArtifactLens.Proofs.Table
import ArtifactLens.Provider

/-!
# What the operations of a provider do

* **Subscriptions** (`WatchTable.mem_subscribers_watch`): watching a path subscribes to it, whether
  or not its directory can be observed; closing the table drops every subscription.
* **Requests** (`Provider.documented`): a document that is kept is returned. Another one is made
  and kept; then the artifact is subscribed to the source that it has by now, if it has one, and to
  the database. Asked for a view (`Provider.requested`), the artifact is looked up first.
* **Reloads** (`Provider.reloaded`): the document is made anew and kept. Nothing is subscribed.
-/

namespace ArtifactLens

variable {σ : Type}

/-- Noting acts one after the other adds them to the trace. -/
theorem World.foldl_note {α : Type} (event : α → Event) (items : List α) (world : World σ) :
    items.foldl (fun world item => world.note (event item)) world =
      { world with trace := world.trace ++ items.map event } := by
  induction items generalizing world with
  | nil => simp
  | cons item rest ih =>
    rw [List.foldl_cons, ih, note, List.map_cons, List.append_assoc]
    rfl

/-- A list that ends in an item is split at this last one, or before it. -/
theorem concat_eq_append_cons_iff {α : Type} {items earlier later : List α} {last item : α} :
    items ++ [last] = earlier ++ item :: later ↔
      (items = earlier ∧ last = item ∧ later = []) ∨
        ∃ rest, later = rest ++ [last] ∧ items = earlier ++ item :: rest := by
  constructor
  · intro h
    obtain rfl | ⟨rest, other, rfl⟩ := List.eq_nil_or_concat' later
    · obtain ⟨hitems, hlast⟩ := List.append_singleton_inj.mp h
      exact .inl ⟨hitems, hlast, rfl⟩
    · rw [← List.cons_append, ← List.append_assoc, List.append_singleton_inj] at h
      exact .inr ⟨rest, h.2 ▸ rfl, h.1⟩
  · rintro (⟨rfl, rfl, rfl⟩ | ⟨rest, rfl, rfl⟩)
    · rfl
    · simp

/-! ### Subscriptions -/

namespace WatchTable

variable {table : WatchTable} {path other subscriber artifact : Path}

theorem mem_subscribers : artifact ∈ table.subscribers path ↔
    artifact ∈ (table.subscriptions.get? path).getD [] := List.mem_mergeSort

theorem mem_subscribers_subscribe : artifact ∈ (table.subscribe path subscriber).subscribers other ↔
    artifact ∈ table.subscribers other ∨ path = other ∧ subscriber = artifact := by
  rw [mem_subscribers, mem_subscribers, subscribe]
  dsimp only
  rw [Table.get?_insert]
  by_cases h : path = other
  · subst h
    by_cases known : ((table.subscriptions.get? path).getD []).contains subscriber
    · have hmem := List.contains_iff_mem.mp known
      simp only [if_true, if_pos known, Option.getD_some, true_and]
      exact ⟨.inl, fun h => h.elim id fun heq => heq ▸ hmem⟩
    · simp only [if_true, if_neg known, Option.getD_some, List.mem_append, List.mem_singleton,
        true_and, @eq_comm _ artifact subscriber]
  · simp [h]

/-- Watching a path subscribes to it. -/
theorem mem_subscribers_watch (world : World σ) :
    artifact ∈ (table.watch path subscriber world).1.subscribers other ↔
      artifact ∈ table.subscribers other ∨ path = other ∧ subscriber = artifact := by
  rw [← mem_subscribers_subscribe, watch]
  dsimp only
  split_ifs <;> rfl

theorem close_fst (table : WatchTable) (world : World σ) : (table.close world).1 = empty := by
  rw [close]
  split_ifs <;> rfl

theorem not_mem_subscribers_close (world : World σ) :
    artifact ∉ (table.close world).1.subscribers path := by
  rw [close_fst, mem_subscribers]
  exact List.not_mem_nil

/-- Subscribes to the source that was found, if one was, and to the database. -/
def follow (table : WatchTable) (found : Option Path) (database artifact : Path)
    (world : World σ) : WatchTable × World σ :=
  let (table, world) := match found with
    | some source => table.watch source artifact world
    | none => (table, world)
  table.watch database artifact world

theorem mem_subscribers_follow (found : Option Path) (database : Path) (world : World σ) :
    artifact ∈ (table.follow found database subscriber world).1.subscribers other ↔
      artifact ∈ table.subscribers other ∨
        subscriber = artifact ∧ (other = database ∨ found = some other) := by
  cases found with
  | none =>
    rw [follow, mem_subscribers_watch]
    simp [and_comm, eq_comm]
  | some source =>
    rw [follow, mem_subscribers_watch, mem_subscribers_watch]
    simp only [Option.some.injEq, eq_comm]
    tauto

end WatchTable

/-! ### Requests and reloads -/

namespace Provider

/-- The provider that keeps a document. -/
def keep (provider : Provider) (artifact : Path) (document : Document) : Provider :=
  { provider with documents := provider.documents.insert artifact document }

/-- What a request for a document comes to. -/
inductive Documented (tools : Toolchain σ) (artifact : Path) (provider : Provider)
    (session : Session) (world : World σ) : Step σ Document → Prop
  | kept (document : Document) (found : provider.documents.get? artifact = some document) :
      Documented tools artifact provider session world (.ok document, provider, session, world)
  | unbuilt (failure : Failure) (later : Session) (after : World σ)
      (missing : provider.documents.get? artifact = none)
      (build : Document.build tools provider.binary artifact session world =
        (.error failure, later, after)) :
      Documented tools artifact provider session world (.error failure, provider, later, after)
  /-- The document is kept, but its source cannot be told. -/
  | unsourced (document : Document) (failure : Failure) (later last : Session)
      (after final : World σ) (missing : provider.documents.get? artifact = none)
      (build : Document.build tools provider.binary artifact session world =
        (.ok document, later, after))
      (source : later.sourceFor artifact after = (.error failure, last, final)) :
      Documented tools artifact provider session world
        (.error failure, provider.keep artifact document, last, final)
  | watched (document : Document) (found : Option Path) (later last : Session)
      (after final : World σ) (missing : provider.documents.get? artifact = none)
      (build : Document.build tools provider.binary artifact session world =
        (.ok document, later, after))
      (source : later.sourceFor artifact after = (.ok found, last, final)) :
      Documented tools artifact provider session world (.ok document,
        { provider.keep artifact document with
          watches := (provider.watches.follow found last.database artifact final).1 },
        last, (provider.watches.follow found last.database artifact final).2)

theorem documented (tools : Toolchain σ) (artifact : Path) (provider : Provider)
    (session : Session) (world : World σ) :
    Documented tools artifact provider session world
      (provider.document tools artifact session world) := by
  rw [document]
  cases found : provider.documents.get? artifact with
  | some document => exact .kept document found
  | none =>
    rcases build : Document.build tools provider.binary artifact session world with
      ⟨failure | document, later, after⟩
    · exact .unbuilt failure later after found build
    · rcases source : later.sourceFor artifact after with ⟨failure | found', last, final⟩
      · simp only [source]
        exact .unsourced document failure later last after final found build source
      · simp only [source]
        exact .watched document found' later last after final found build source

/-- What a request for the view of a source comes to. -/
inductive Requested (tools : Toolchain σ) (source : Path) (kind : Kind) (provider : Provider)
    (session : Session) (world : World σ) : Step σ String → Prop
  | broken (failure : Failure) (later : Session) (after : World σ)
      (asked : session.artifactFor source kind world = (.error failure, later, after)) :
      Requested tools source kind provider session world (.error failure, provider, later, after)
  | missing (later : Session) (after : World σ)
      (asked : session.artifactFor source kind world = (.ok none, later, after)) :
      Requested tools source kind provider session world
        (.error (.noCommand source kind), provider, later, after)
  | undocumented (artifact : Path) (later : Session) (after : World σ) (failure : Failure)
      (final : Provider × Session × World σ)
      (asked : session.artifactFor source kind world = (.ok (some artifact), later, after))
      (made : provider.document tools artifact later after = (.error failure, final)) :
      Requested tools source kind provider session world (.error failure, final)
  | shown (artifact : Path) (later : Session) (after : World σ) (document : Document)
      (final : Provider × Session × World σ)
      (asked : session.artifactFor source kind world = (.ok (some artifact), later, after))
      (made : provider.document tools artifact later after = (.ok document, final)) :
      Requested tools source kind provider session world (.ok document.render, final)

theorem requested (tools : Toolchain σ) (source : Path) (kind : Kind) (provider : Provider)
    (session : Session) (world : World σ) :
    Requested tools source kind provider session world
      (provider.request tools source kind session world) := by
  rw [request]
  rcases asked : session.artifactFor source kind world with
    ⟨failure | _ | artifact, later, after⟩
  · exact .broken failure later after asked
  · exact .missing later after asked
  · dsimp only
    rcases made : provider.document tools artifact later after with ⟨failure | document, final⟩
    · exact .undocumented artifact later after failure final asked made
    · exact .shown artifact later after document final asked made

/-- What a reload comes to. -/
inductive Reloaded (artifact : Path) (provider : Provider) : Step σ Unit → Prop
  | failed (failure : Failure) (later : Session) (after : World σ) :
      Reloaded artifact provider (.error failure, provider, later, after)
  | reloaded (document : Document) (later : Session) (after : World σ) :
      Reloaded artifact provider (.ok (), provider.keep artifact document, later, after)

theorem reloaded (tools : Toolchain σ) (artifact : Path) (provider : Provider)
    (session : Session) (world : World σ) :
    Reloaded artifact provider (provider.reload tools artifact session world) := by
  rw [reload]
  rcases Document.build tools provider.binary artifact session world with
    ⟨failure | document, later, after⟩
  · by_cases lookup : failure.category = .lookup
    · simp only [if_pos lookup]
      exact .reloaded _ _ _
    · simp only [if_neg lookup]
      exact .failed failure later after
  · exact .reloaded document later _

end Provider

end ArtifactLens
