import ArtifactLens.Proofs.Provider.Cases
import ArtifactLens.Proofs.Session.Run
import Mathlib.Data.List.Induction

/-!
# Handles of listeners

Whoever subscribes a listener to a provider gets a handle to take the subscription away again. The
provider keeps the listeners alone, not the subscriptions, and a handle takes away the first
subscription of its listener that it finds. **This is as good as taking away its own subscription
exactly as long as no handle strays** (`Provider.Audience.perm_iff`): a handle whose own
subscription is gone, since it was called before or since the provider was disposed of, must not be
called while the same listener has another subscription. Listeners that are never subscribed twice
have none, so that their handles cannot stray. A listener that is subscribed twice loses the second
subscription to the handle of the first, called twice (`Provider.Audience.cancel_twice`).

Handles only ever take too much away. Whoever gave up all subscriptions of a listener, by their own
handles or by a disposal, can rely on it that the listener is not told any more.

An `Audience` keeps beside a provider the live subscriptions by their handles: those made since the
last disposal whose own handle was not called (`Provider.Audience.get?_live_iff`).
-/

namespace ArtifactLens

variable {σ : Type}

namespace Provider

/-- What may be done about the listeners of a provider. -/
inductive Act where
  | subscribe (listener : Listener)
  /-- Calls the handle of a subscription. The handles are numbered as they are given out. -/
  | cancel (handle : Nat)
  | dispose

/-- A provider, with the subscriptions that were made with it. -/
structure Audience (σ : Type) where
  provider : Provider
  world : World σ
  /-- The listener of each subscription so far, and so of each handle. -/
  given : List Listener
  /-- The listeners of the subscriptions made since the last disposal whose own handle was not
  called, by their handles. -/
  live : Table Nat Listener

namespace Audience

/-- Nobody subscribed yet. -/
def start (binary : Bool) (world : World σ) : Audience σ := ⟨.start binary, world, [], .empty⟩

/-- After an act. Nobody can call a handle that was not given out. -/
def act (audience : Audience σ) : Act → Audience σ
  | .subscribe listener => { audience with
      provider := audience.provider.subscribe listener
      given := audience.given ++ [listener]
      live := audience.live.insert audience.given.length listener }
  | .cancel handle => { audience with
      provider := match audience.given[handle]? with
        | some listener => audience.provider.unsubscribe listener
        | none => audience.provider
      live := audience.live.erase handle }
  | .dispose => { audience with
      provider := (audience.provider.dispose audience.world).1
      world := (audience.provider.dispose audience.world).2
      live := .empty }

/-- After acts, one after the other. -/
def run (audience : Audience σ) (acts : List Act) : Audience σ := acts.foldl act audience

/-- The provider tells each listener once for each of its live subscriptions. -/
def Faithful (audience : Audience σ) : Prop :=
  audience.provider.listeners.Perm audience.live.values

/-- An act calls a handle whose own subscription is gone, while its listener has another one. -/
def Strays (audience : Audience σ) (act : Act) : Prop :=
  ∃ handle listener, act = .cancel handle ∧ audience.given[handle]? = some listener ∧
    audience.live.get? handle = none ∧ listener ∈ audience.live.values

@[simp]
theorem run_nil (audience : Audience σ) : audience.run [] = audience := rfl

@[simp]
theorem run_concat (audience : Audience σ) (acts : List Act) (act : Act) :
    audience.run (acts ++ [act]) = (audience.run acts).act act := List.foldl_concat ..

/-! ### Live subscriptions -/

/-- Live subscriptions have handles that were given out, each to the listener of its subscription,
and no two of them the same. -/
structure Kept (audience : Audience σ) : Prop where
  given : ∀ handle listener, audience.live.get? handle = some listener →
    audience.given[handle]? = some listener
  nodup : audience.live.keys.Nodup

namespace Kept

variable {audience : Audience σ}

/-- There is nothing to keep without live subscriptions. -/
theorem of_idle (idle : audience.live = .empty) : audience.Kept where
  given handle listener live := by
    rw [idle, Table.get?_empty] at live
    cases live
  nodup := idle ▸ List.nodup_nil

/-- The next handle is a new one. -/
theorem get?_next (h : audience.Kept) : audience.live.get? audience.given.length = none := by
  rw [Option.eq_none_iff_forall_ne_some]
  intro listener live
  obtain ⟨bound, -⟩ := List.getElem?_eq_some_iff.mp (h.given _ listener live)
  exact Nat.lt_irrefl _ bound

theorem act (h : audience.Kept) (act : Act) : (audience.act act).Kept := by
  cases act with
  | subscribe listener =>
    refine ⟨fun handle other live => ?_, Table.nodup_keys_insert h.nodup ..⟩
    rw [Audience.act, Table.get?_insert] at live
    split_ifs at live with same
    · rw [← same, ← live]
      exact List.getElem?_concat_length
    · have known := h.given handle other live
      obtain ⟨bound, -⟩ := List.getElem?_eq_some_iff.mp known
      rw [← known]
      exact List.getElem?_append_left bound
  | cancel handle =>
    refine ⟨fun other listener live => ?_, Table.nodup_keys_erase h.nodup _⟩
    rw [Audience.act, Table.get?_erase] at live
    split_ifs at live
    exact h.given other listener live
  | dispose => exact of_idle rfl

theorem run (h : audience.Kept) (acts : List Act) : (audience.run acts).Kept := by
  induction acts using List.reverseRecOn with
  | nil => exact h
  | append_singleton acts act ih =>
    rw [run_concat]
    exact ih.act act

end Kept

/-- A subscription made in the course of acts is still live after them: since then its own handle
was not called, and the provider was not disposed of. -/
def IsLive (audience : Audience σ) (acts : List Act) (handle : Nat) (listener : Listener) : Prop :=
  ∃ earlier later, acts = earlier ++ .subscribe listener :: later ∧
    (audience.run earlier).given.length = handle ∧ Act.dispose ∉ later ∧ Act.cancel handle ∉ later

variable {audience : Audience σ} {acts : List Act} {handle : Nat} {listener : Listener}

theorem isLive_concat {act : Act} : audience.IsLive (acts ++ [act]) handle listener ↔
    (act = .subscribe listener ∧ (audience.run acts).given.length = handle) ∨
      (act ≠ .dispose ∧ act ≠ .cancel handle ∧ audience.IsLive acts handle listener) := by
  simp only [IsLive, concat_eq_append_cons_iff]
  constructor
  · rintro ⟨earlier, later, ⟨rfl, hact, -⟩ | ⟨rest, rfl, hacts⟩, number, kept, uncalled⟩
    · exact .inl ⟨hact, number⟩
    · rw [List.mem_append, List.mem_singleton, not_or] at kept uncalled
      exact .inr ⟨Ne.symm kept.2, Ne.symm uncalled.2, earlier, rest, hacts, number, kept.1,
        uncalled.1⟩
  · rintro (⟨rfl, number⟩ | ⟨hdispose, hcancel, earlier, rest, hacts, number, kept, uncalled⟩)
    · exact ⟨acts, [], .inl ⟨rfl, rfl, rfl⟩, number, List.not_mem_nil, List.not_mem_nil⟩
    · refine ⟨earlier, rest ++ [act], .inr ⟨rest, rfl, hacts⟩, number, ?_, ?_⟩ <;>
        rw [List.mem_append, List.mem_singleton, not_or]
      · exact ⟨kept, Ne.symm hdispose⟩
      · exact ⟨uncalled, Ne.symm hcancel⟩

theorem not_isLive_nil : ¬audience.IsLive [] handle listener := by
  rintro ⟨earlier, later, hacts, -⟩
  cases earlier <;> cases hacts

/-- The subscriptions that are kept beside the provider are those that are live. -/
theorem get?_live_iff (h : audience.Kept) (idle : audience.live = .empty) :
    (audience.run acts).live.get? handle = some listener ↔
      audience.IsLive acts handle listener := by
  induction acts using List.reverseRecOn with
  | nil => exact iff_of_false (by simp [idle]) not_isLive_nil
  | append_singleton acts act ih =>
    -- A subscription takes the place of no other one: its number was not given out before.
    have hnext := (h.run acts).get?_next
    rw [run_concat, isLive_concat, ← ih]
    cases act with
    | subscribe other =>
      rw [Audience.act, Table.get?_insert]
      split_ifs with next
      · rw [← next, hnext]
        simp
      · simp [next]
    | cancel other =>
      rw [Audience.act, Table.get?_erase]
      split_ifs with same <;> simp [same]
    | dispose => simp [Audience.act]

/-! ### What an act does to the listeners -/

/-- Subscribing adds a subscription and its listener. -/
theorem Kept.values_subscribe (h : audience.Kept) (listener : Listener) :
    (audience.act (.subscribe listener)).live.values = audience.live.values ++ [listener] :=
  Table.values_insert_of_get?_eq_none listener h.get?_next

/-- A handle that was given out takes away a listener, and besides its own subscription, if that is
live. A handle that was not given out takes nothing away. -/
theorem Kept.cancel_cases (h : audience.Kept) (handle : Nat) :
    (∃ listener, audience.live.get? handle = some listener ∧
      (audience.act (.cancel handle)).provider.listeners =
        audience.provider.listeners.erase listener ∧
      audience.live.values.Perm (listener :: (audience.act (.cancel handle)).live.values)) ∨
    (∃ listener, audience.given[handle]? = some listener ∧
      audience.live.get? handle = none ∧
      (audience.act (.cancel handle)).provider.listeners =
        audience.provider.listeners.erase listener ∧
      (audience.act (.cancel handle)).live = audience.live) ∨
    (audience.given[handle]? = none ∧ audience.act (.cancel handle) = audience) := by
  cases hlive : audience.live.get? handle with
  | some listener =>
    refine .inl ⟨listener, rfl, ?_, Table.perm_values_erase h.nodup hlive⟩
    simp only [Audience.act, h.given handle listener hlive]
    rfl
  | none =>
    have hsame := Table.erase_of_get?_eq_none hlive
    cases hgiven : audience.given[handle]? with
    | some listener =>
      refine .inr (.inl ⟨listener, rfl, rfl, ?_, hsame⟩)
      simp only [Audience.act, hgiven]
      rfl
    | none =>
      refine .inr (.inr ⟨rfl, ?_⟩)
      simp only [Audience.act, hgiven, hsame]

/-- A handle that was called while its subscription is gone strays exactly if its listener has
another subscription. -/
theorem strays_cancel_iff (given : audience.given[handle]? = some listener)
    (gone : audience.live.get? handle = none) :
    audience.Strays (.cancel handle) ↔ listener ∈ audience.live.values := by
  constructor
  · rintro ⟨other, told, hact, hgiven, -, hmem⟩
    obtain rfl := Act.cancel.inj hact
    obtain rfl := Option.some.inj (given.symm.trans hgiven)
    exact hmem
  · exact fun hmem => ⟨handle, listener, rfl, given, gone, hmem⟩

/-- An act keeps a provider faithful if and only if it does not stray. -/
theorem Faithful.act_iff (faithful : audience.Faithful) (h : audience.Kept) (act : Act) :
    (audience.act act).Faithful ↔ ¬audience.Strays act := by
  cases act with
  | subscribe listener =>
    refine iff_of_true ?_ fun ⟨_, _, hact, _⟩ => by cases hact
    rw [Faithful, h.values_subscribe]
    exact List.Perm.append_right [listener] faithful
  | dispose => exact iff_of_true (.refl _) fun ⟨_, _, hact, _⟩ => by cases hact
  | cancel handle =>
    obtain ⟨listener, hlive, hlisteners, hvalues⟩ |
      ⟨listener, hgiven, hgone, hlisteners, hlive⟩ | ⟨hgiven, hsame⟩ := h.cancel_cases handle
    · refine iff_of_true ?_ fun ⟨other, _, hact, _, hgone, _⟩ => ?_
      · rw [Faithful, hlisteners]
        simpa using (faithful.trans hvalues).erase listener
      · obtain rfl := Act.cancel.inj hact
        rw [hlive] at hgone
        cases hgone
    · rw [strays_cancel_iff hgiven hgone, Faithful, hlisteners, hlive]
      constructor
      · -- The listener would be told once less than before.
        intro kept hmem
        have hmem' := faithful.mem_iff.mpr hmem
        have shorter := List.length_erase_add_one hmem'
        rw [kept.length_eq, faithful.length_eq] at shorter
        exact absurd shorter (Nat.succ_ne_self _)
      · intro unknown
        rw [List.erase_of_not_mem fun hmem => unknown (faithful.mem_iff.mp hmem)]
        exact faithful
    · refine iff_of_true (hsame.symm ▸ faithful) fun ⟨other, listener, hact, given, _, _⟩ => ?_
      obtain rfl := Act.cancel.inj hact
      rw [hgiven] at given
      cases given

/-- No act makes a provider tell a listener more often than it has live subscriptions. -/
theorem Kept.count_act_le (h : audience.Kept)
    (le : ∀ listener, audience.provider.listeners.count listener ≤
      audience.live.values.count listener) (act : Act) (listener : Listener) :
    (audience.act act).provider.listeners.count listener ≤
      (audience.act act).live.values.count listener := by
  cases act with
  | subscribe other =>
    have told : (audience.act (.subscribe other)).provider.listeners =
        audience.provider.listeners ++ [other] := rfl
    rw [told, h.values_subscribe, List.count_append, List.count_append]
    exact Nat.add_le_add_right (le listener) _
  | dispose => exact Nat.zero_le _
  | cancel handle =>
    obtain ⟨other, -, hlisteners, hvalues⟩ | ⟨other, -, -, hlisteners, hlive⟩ | ⟨-, hsame⟩ :=
      h.cancel_cases handle
    · have bound := le listener
      rw [hvalues.count_eq, List.count_cons] at bound
      rw [hlisteners, List.count_erase]
      exact Nat.sub_le_iff_le_add.mpr bound
    · rw [hlisteners, hlive]
      exact Nat.le_trans (List.erase_sublist.count_le listener) (le listener)
    · rw [hsame]
      exact le listener

/-! ### Runs -/

theorem faithful_start (binary : Bool) (world : World σ) : (start binary world).Faithful :=
  List.Perm.nil

/-- A provider stays faithful along acts if and only if none of them strays. -/
theorem Faithful.run_iff (faithful : audience.Faithful) (h : audience.Kept) :
    (∀ earlier, earlier <+: acts → (audience.run earlier).Faithful) ↔
      ∀ earlier act, earlier ++ [act] <+: acts → ¬(audience.run earlier).Strays act := by
  induction acts using List.reverseRecOn with
  | nil =>
    refine iff_of_true (fun earlier before => ?_) fun earlier act before => ?_
    · obtain rfl := List.prefix_nil.mp before
      exact faithful
    · obtain ⟨-, hact⟩ := List.append_eq_nil_iff.mp (List.prefix_nil.mp before)
      cases hact
  | append_singleton acts last ih =>
    -- What holds before the last act is known of the acts before it, on either side.
    have within : ∀ {earlier}, earlier <+: acts → earlier <+: acts ++ [last] := fun before =>
      before.trans (List.prefix_append ..)
    constructor
    · intro all earlier act before
      obtain same | before := List.prefix_concat_iff.mp before
      · obtain ⟨rfl, rfl⟩ := List.append_singleton_inj.mp same
        have next := all _ List.prefix_rfl
        rw [run_concat] at next
        exact ((all earlier (within List.prefix_rfl)).act_iff (h.run earlier) act).mp next
      · exact ih.mp (fun earlier before => all earlier (within before)) earlier act before
    · intro steady earlier before
      have all := ih.mpr fun earlier act before => steady earlier act (within before)
      obtain rfl | before := List.prefix_concat_iff.mp before
      · rw [run_concat]
        exact ((all acts List.prefix_rfl).act_iff (h.run acts) last).mpr
          (steady acts last List.prefix_rfl)
      · exact all earlier before

/-- Whatever handles take away, nobody is told who has no live subscription. -/
theorem Kept.count_run_le (h : audience.Kept) (le : ∀ listener,
      audience.provider.listeners.count listener ≤ audience.live.values.count listener)
    (acts : List Act) (listener : Listener) :
    (audience.run acts).provider.listeners.count listener ≤
      (audience.run acts).live.values.count listener := by
  induction acts using List.reverseRecOn generalizing listener with
  | nil => exact le listener
  | append_singleton acts act ih =>
    rw [run_concat]
    exact (h.run acts).count_act_le ih act listener

/-- Handles that were given out stay so. -/
theorem given_grows {earlier : List Act} (before : earlier <+: acts) :
    (audience.run earlier).given <+: (audience.run acts).given := by
  induction acts using List.reverseRecOn with
  | nil =>
    obtain rfl := List.prefix_nil.mp before
    exact List.prefix_rfl
  | append_singleton acts act ih =>
    obtain rfl | before := List.prefix_concat_iff.mp before
    · exact List.prefix_rfl
    · refine (ih before).trans ?_
      rw [run_concat]
      cases act with
      | subscribe listener => exact List.prefix_append ..
      | cancel | dispose => exact List.prefix_rfl

/-- Handles of listeners that are never subscribed twice do not stray. -/
theorem Kept.not_strays (h : audience.Kept) (distinct : audience.given.Nodup) (act : Act) :
    ¬audience.Strays act := by
  rintro ⟨handle, listener, -, hgiven, hgone, hmem⟩
  obtain ⟨other, hlive⟩ := Table.get?_of_mem_values h.nodup hmem
  obtain ⟨bound, hfirst⟩ := List.getElem?_eq_some_iff.mp hgiven
  obtain ⟨bound', hsecond⟩ := List.getElem?_eq_some_iff.mp (h.given other listener hlive)
  have same : handle = other := (distinct.getElem_inj_iff).mp (hfirst.trans hsecond.symm)
  rw [same, hlive] at hgone
  cases hgone

/-- **Handles take away their own subscriptions as long as none strays.** Let listeners be
subscribed to a provider, in any number and the same one any number of times, let handles of these
subscriptions be called, any of them any number of times and in any order, and let the provider be
disposed of at any time. The live subscriptions are then those made since the last disposal whose
own handle was not called. All along the provider tells each listener as often as it has live
subscriptions, if and only if no handle is ever called while its own subscription is gone and its
listener has another one; so it does if no listener is subscribed twice. In any case it tells no
listener more often than that. -/
theorem perm_iff (binary : Bool) (world : World σ) (acts : List Act) :
    let after := (start binary world).run
    (∀ handle listener, (after acts).live.get? handle = some listener ↔
      ∃ earlier later, acts = earlier ++ .subscribe listener :: later ∧
        (after earlier).given.length = handle ∧
        Act.dispose ∉ later ∧ Act.cancel handle ∉ later) ∧
    ((∀ earlier, earlier <+: acts →
        (after earlier).provider.listeners.Perm (after earlier).live.values) ↔
      ∀ earlier handle listener, earlier ++ [.cancel handle] <+: acts →
        (after earlier).given[handle]? = some listener →
        (after earlier).live.get? handle = none → listener ∉ (after earlier).live.values) ∧
    ((after acts).given.Nodup →
      (after acts).provider.listeners.Perm (after acts).live.values) ∧
    ∀ listener, (after acts).provider.listeners.count listener ≤
      (after acts).live.values.count listener := by
  intro after
  have kept : (start binary world).Kept := .of_idle rfl
  have faithful : (start binary world).Faithful := faithful_start binary world
  refine ⟨fun handle listener => get?_live_iff kept rfl, (faithful.run_iff kept).trans ?_,
    fun distinct => ?_, kept.count_run_le (fun _ => Nat.le_refl _) acts⟩
  · constructor
    · intro steady earlier handle listener before given gone hmem
      exact steady earlier _ before ⟨handle, listener, rfl, given, gone, hmem⟩
    · rintro steady earlier _ before ⟨handle, listener, rfl, given, gone, hmem⟩
      exact steady earlier handle listener before given gone hmem
  · refine (faithful.run_iff kept).mpr (fun earlier act before => ?_) acts List.prefix_rfl
    have within := (List.prefix_append earlier [act]).trans before
    exact (kept.run earlier).not_strays (distinct.sublist (given_grows within).sublist) act

open Sample in
/-- **A handle that strays takes another subscription away.** An editor subscribes twice and calls
its first handle twice: it hears nothing any more, although its second handle was not called. Nor
does an editor that subscribes again after a disposal, once its handle from before is called. -/
theorem cancel_twice :
    let editor := Listener.named "editor" 0
    let twice := (start false newWorld).run
      [.subscribe editor, .subscribe editor, .cancel 0, .cancel 0]
    let stale := (start false newWorld).run
      [.subscribe editor, .dispose, .subscribe editor, .cancel 0]
    (twice.provider.listeners = [] ∧ twice.live.values = [editor] ∧
      ¬twice.provider.listeners.Perm twice.live.values) ∧
    (stale.provider.listeners = [] ∧ stale.live.values = [editor] ∧
      ¬stale.provider.listeners.Perm stale.live.values) := by
  decide +kernel

end Audience

end Provider

end ArtifactLens
