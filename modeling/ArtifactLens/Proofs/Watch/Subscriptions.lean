import ArtifactLens.Proofs.Watch.Observer
import ArtifactLens.Proofs.Watch.Subscribers
import Mathlib.Data.Set.Card

/-!
# What subscribers hear of

Who hears of a path is settled by the watches since the table was last closed. **It is settled by
which watches these are, and by nothing else** (`WatchTable.dispatch_eq_iff`): two tables tell the
same subscribers in the same order, whatever path changes, exactly when the same artifacts were
watched through the same paths. In which order, how often, and whether the directories of the paths
were there at the time makes no difference.

A watch subscribes before it looks at the directory, so that it counts in every case
(`WatchTable.mem_subscribers_watch`); `WatchTable.Serves` carries this along the calls. The order of
the subscribers is that of their paths, which leaves no choice once it is known who they are
(`Path.eq_of_pairwise_before`).
-/

namespace ArtifactLens

variable {σ : Type}

/-! ### Sorted paths -/

/-- Paths in strict order are told by which paths they are. -/
theorem Path.eq_of_pairwise_before {paths others : List Path} (sorted : paths.Pairwise Before)
    (sorted' : others.Pairwise Before) (same : ∀ path, path ∈ paths ↔ path ∈ others) :
    paths = others := by
  have irrefl : ∀ path, ¬Before path path := fun path => List.lt_irrefl path.components
  have nodup : ∀ {paths : List Path}, paths.Pairwise Before → paths.Nodup := fun sorted =>
    sorted.imp fun {a b} (before : Before a b) (heq : a = b) => irrefl b (heq ▸ before)
  refine List.Perm.eq_of_pairwise (fun a b _ _ hab hba => ?_) sorted sorted'
    ((List.perm_ext_iff_of_nodup (nodup sorted) (nodup sorted')).mpr same)
  exact absurd (hab.trans hba) (irrefl a)

namespace WatchTable

/-! ### Subscriptions of calls -/

/-- An artifact was watched through a path, and the table was not closed since. -/
def Subscribed (calls : List Call) (path artifact : Path) : Prop :=
  ∃ earlier later, calls = earlier ++ .watch path artifact :: later ∧ Call.close ∉ later

/-- The last call is the watch in question, or it is no closing and the watch came before it. -/
theorem subscribed_concat {calls : List Call} {call : Call} {path artifact : Path} :
    Subscribed (calls ++ [call]) path artifact ↔
      call = .watch path artifact ∨ call ≠ .close ∧ Subscribed calls path artifact := by
  simp only [Subscribed, concat_eq_append_cons_iff]
  constructor
  · rintro ⟨earlier, later, ⟨-, hcall, -⟩ | ⟨rest, rfl, hcalls⟩, hopen⟩
    · exact .inl hcall
    · rw [List.mem_append, List.mem_singleton, not_or] at hopen
      exact .inr ⟨Ne.symm hopen.2, earlier, rest, hcalls, hopen.1⟩
  · rintro (rfl | ⟨hcall, earlier, rest, hcalls, hopen⟩)
    · exact ⟨calls, [], .inl ⟨rfl, rfl, rfl⟩, List.not_mem_nil⟩
    · refine ⟨earlier, rest ++ [call], .inr ⟨rest, rfl, hcalls⟩, ?_⟩
      rw [List.mem_append, List.mem_singleton, not_or]
      exact ⟨hopen, Ne.symm hcall⟩

theorem not_subscribed_nil {path artifact : Path} : ¬Subscribed [] path artifact := by
  rintro ⟨earlier, later, hcalls, -⟩
  cases earlier <;> cases hcalls

/-- The paths through which some artifact is subscribed. -/
def watched (calls : List Call) : Set Path := {path | ∃ artifact, Subscribed calls path artifact}

/-! ### Tables that serve subscriptions -/

/-- A table has the subscriptions of calls, and an entry for each path that they watch. -/
structure Serves (table : WatchTable) (calls : List Call) : Prop where
  subscribers : ∀ path artifact,
    artifact ∈ table.subscribers path ↔ Subscribed calls path artifact
  paths : ∀ path, path ∈ table.subscriptions.keys ↔ path ∈ watched calls
  nodup : table.subscriptions.keys.Nodup
  distinct : table.Distinct

/-- A table without subscriptions serves calls that leave none. -/
theorem serves_empty {calls : List Call} (idle : ∀ path artifact, ¬Subscribed calls path artifact) :
    empty.Serves calls where
  subscribers path artifact := iff_of_false (by simp [mem_subscribers, empty]) (idle path artifact)
  paths path := iff_of_false List.not_mem_nil fun ⟨artifact, h⟩ => idle path artifact h
  nodup := List.nodup_nil
  distinct := distinct_empty

/-- Whatever a watch does about directories, it changes the subscriptions as subscribing does. -/
theorem subscriptions_watch (table : WatchTable) (path subscriber : Path) (world : World σ) :
    (table.watch path subscriber world).1.subscriptions =
      (table.subscribe path subscriber).subscriptions := by
  rw [watch_eq]
  split_ifs <;> rfl

theorem Serves.watch {table : WatchTable} {calls : List Call} (h : table.Serves calls)
    (path subscriber : Path) (world : World σ) :
    (table.watch path subscriber world).1.Serves (calls ++ [.watch path subscriber]) := by
  have concat : ∀ other artifact, Subscribed (calls ++ [.watch path subscriber]) other artifact ↔
      (path = other ∧ subscriber = artifact) ∨ Subscribed calls other artifact := by
    intro other artifact
    rw [subscribed_concat, Call.watch.injEq]
    simp
  refine ⟨fun other artifact => ?_, fun other => ?_, ?_, h.distinct.watch path subscriber world⟩
  · rw [mem_subscribers_watch, concat, h.subscribers, or_comm]
  · rw [subscriptions_watch, subscribe, Table.mem_keys_insert, h.paths]
    constructor
    · rintro (rfl | ⟨artifact, hartifact⟩)
      · exact ⟨subscriber, (concat path subscriber).mpr (.inl ⟨rfl, rfl⟩)⟩
      · exact ⟨artifact, (concat other artifact).mpr (.inr hartifact)⟩
    · rintro ⟨artifact, hartifact⟩
      obtain ⟨rfl, -⟩ | hartifact := (concat other artifact).mp hartifact
      · exact .inl rfl
      · exact .inr ⟨artifact, hartifact⟩
  · rw [subscriptions_watch]
    exact Table.nodup_keys_insert h.nodup ..

/-- What a call makes of a table serves the calls up to this one. -/
theorem Serves.perform {state : WatchTable × World σ} {calls : List Call}
    (h : state.1.Serves calls) (call : Call) :
    (call.perform state).1.Serves (calls ++ [call]) := by
  cases call with
  | watch path subscriber => exact h.watch path subscriber state.2
  | close =>
    rw [Call.perform, close_fst]
    refine serves_empty fun path artifact => ?_
    rw [subscribed_concat]
    simp
  | outside files =>
    have concat : ∀ path artifact, Subscribed (calls ++ [.outside files]) path artifact ↔
        Subscribed calls path artifact := fun path artifact => by
      rw [subscribed_concat]
      simp
    have same : watched (calls ++ [.outside files]) = watched calls :=
      Set.ext fun path => exists_congr (concat path)
    refine ⟨fun path artifact => ?_, fun path => ?_, h.nodup, h.distinct⟩
    · rw [concat]
      exact h.subscribers path artifact
    · rw [same]
      exact h.paths path

/-- A table that starts out empty serves the calls that were made of it. -/
theorem serves_foldl (calls : List Call) (world : World σ) :
    (calls.foldl Call.perform (empty, world)).1.Serves calls := by
  -- From the end, since a watch counts as long as no closing follows it.
  induction calls using List.reverseRecOn with
  | nil => exact serves_empty fun _ _ => not_subscribed_nil
  | append_singleton calls call ih =>
    rw [List.foldl_concat]
    exact ih.perform call

namespace Serves

variable {table other : WatchTable} {calls others : List Call}

/-- There are as many entries as paths that are watched. -/
theorem size_eq (h : table.Serves calls) :
    (watched calls).encard = table.subscriptions.size := by
  have hwatched : watched calls = ↑table.subscriptions.keys.toFinset :=
    Set.ext fun path => by rw [← h.paths, List.coe_toFinset, Set.mem_ofPred_eq]
  rw [hwatched, Set.encard_coe_eq_coe_finsetCard, List.toFinset_card_of_nodup h.nodup,
    Table.length_keys]

/-- Tables have the same subscribers if and only if they serve the same subscriptions. -/
theorem subscribers_eq_iff (h : table.Serves calls) (h' : other.Serves others) :
    (∀ path, other.subscribers path = table.subscribers path) ↔
      ∀ path artifact, Subscribed others path artifact ↔ Subscribed calls path artifact := by
  constructor
  · intro same path artifact
    rw [← h'.subscribers, ← h.subscribers, same]
  · intro same path
    refine Path.eq_of_pairwise_before (h'.distinct.pairwise_subscribers path)
      (h.distinct.pairwise_subscribers path) fun artifact => ?_
    rw [h'.subscribers, h.subscribers, same]

end Serves

/-! ### Notifications -/

/-- Telling subscribers adds one act for each of them to the trace, in order. -/
theorem tell_eq (subscribers : List Path) (world : World σ) :
    tell subscribers world =
      { world with trace := world.trace ++ subscribers.map .changed } :=
  World.foldl_note .changed subscribers world

/-- The acts tell who was told. -/
theorem tell_eq_iff {subscribers others : List Path} (world : World σ) :
    tell others world = tell subscribers world ↔ others = subscribers := by
  refine ⟨fun same => ?_, fun same => same ▸ rfl⟩
  rw [tell_eq, tell_eq] at same
  have changed_injective : Function.Injective Event.changed := fun _ _ => Event.changed.inj
  exact List.map_injective_iff.mpr changed_injective
    (List.append_cancel_left (congrArg World.trace same))

/-- **Notifications depend on the subscriptions only.** Make any calls of a table that starts out
empty, while others change the files. Then the subscribers of a path are the artifacts that were
watched through it since the last closing, and the table counts the paths of these watches. A
change of a path tells its subscribers one after the other, in the strict order of their paths. And
after any other calls, made elsewhere, all paths have the same tellings exactly when the same
artifacts were watched through the same paths since the last closing. -/
theorem dispatch_eq_iff (calls : List Call) (world : World σ) :
    let table := (calls.foldl Call.perform (empty, world)).1
    (∀ path artifact, artifact ∈ table.subscribers path ↔ Subscribed calls path artifact) ∧
    {path | ∃ artifact, Subscribed calls path artifact}.encard = table.subscriptions.size ∧
    (∀ path, (table.subscribers path).Pairwise Path.Before) ∧
    (∀ path (now : World σ), table.dispatch path now =
      { now with trace := now.trace ++ (table.subscribers path).map .changed }) ∧
    ∀ (others : List Call) (elsewhere : World σ),
      let other := (others.foldl Call.perform (empty, elsewhere)).1
      (∀ path (now : World σ), other.dispatch path now = table.dispatch path now) ↔
        ∀ path artifact, Subscribed others path artifact ↔ Subscribed calls path artifact := by
  intro table
  have serves : table.Serves calls := serves_foldl calls world
  refine ⟨serves.subscribers, serves.size_eq, serves.distinct.pairwise_subscribers,
    fun path now => tell_eq _ now, fun others elsewhere => ?_⟩
  intro other
  have serves' : other.Serves others := serves_foldl others elsewhere
  rw [← serves.subscribers_eq_iff serves']
  refine forall_congr' fun path => ⟨fun same => ?_, fun same now => ?_⟩
  · exact (tell_eq_iff world).mp (same world)
  · exact (tell_eq_iff now).mpr same

end WatchTable

end ArtifactLens
