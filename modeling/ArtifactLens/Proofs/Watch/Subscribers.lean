import ArtifactLens.Proofs.Provider.Lookups
import ArtifactLens.Proofs.Provider.Stable

/-!
# The order of subscribers

An event reaches the subscribers of a path in the order of their paths. **No artifact is reached
twice through one path** (`Provider.Reachable.pairwise_subscribers`): in every state that a provider
reaches, the subscribers of a path are strictly sorted, so that their order is settled by who they
are.

Paths with the same components are equal, for a root is told from a name by its slash
(`Path.components_injective`); so sorting paths of which none is repeated leaves every path strictly
before the next (`Path.pairwise_sort`). The table never holds a subscriber of a path twice
(`WatchTable.Distinct`).
-/

namespace ArtifactLens

variable {σ : Type}

/-! ### The order of paths -/

namespace Path

/-- No name is spelled like a root. -/
private theorem text_ne_root {name : Name} {anchor : Anchor} (rooted : anchor.isRooted = true) :
    name.text ≠ anchor.text := by
  intro same
  have slash : '/' ∈ anchor.text.toList := by
    cases anchor with
    | here => cases rooted
    | root | doubleRoot => decide
  exact name.isName.2.2 (same ▸ slash)

private theorem texts_ne_rooted {names : List Name} {anchor : Anchor} {rest : List String}
    (rooted : anchor.isRooted = true) : names.map Name.text ≠ anchor.text :: rest := by
  cases names with
  | nil => exact nofun
  | cons name names => exact fun same => text_ne_root rooted (List.cons.inj same).1

/-- The components of a path tell its anchor. -/
private theorem anchor_eq_of_components {a b : Path} (h : a.components = b.components) :
    a.anchor = b.anchor := by
  obtain ⟨anchor, names⟩ := a
  obtain ⟨anchor', names'⟩ := b
  cases anchor with
  | here =>
    cases anchor' with
    | here => rfl
    | root | doubleRoot => exact absurd h (texts_ne_rooted rfl)
  | root =>
    cases anchor' with
    | here => exact absurd h.symm (texts_ne_rooted rfl)
    | root => rfl
    | doubleRoot => exact absurd (List.cons.inj h).1 (by decide : ¬"/" = "//")
  | doubleRoot =>
    cases anchor' with
    | here => exact absurd h.symm (texts_ne_rooted rfl)
    | root => exact absurd (List.cons.inj h).1 (by decide : ¬"//" = "/")
    | doubleRoot => rfl

/-- Paths with the same components are equal. -/
theorem components_injective : Function.Injective components := by
  intro a b h
  have anchors := anchor_eq_of_components h
  obtain ⟨anchor, names⟩ := a
  obtain ⟨anchor', names'⟩ := b
  obtain rfl : anchor = anchor' := anchors
  have texts : names.map Name.text = names'.map Name.text := List.append_cancel_left h
  have texts_injective : Function.Injective Name.text := fun name other same => by
    cases name
    cases other
    cases same
    rfl
  rw [List.map_injective_iff.mpr texts_injective texts]

theorem Before.trans {a b c : Path} (hab : Before a b) (hbc : Before b c) : Before a c :=
  List.lt_trans hab hbc

/-- Of two paths one comes before the other, or they are equal. -/
theorem before_or_eq_of_not_before {a b : Path} (h : ¬Before b a) : Before a b ∨ a = b := by
  by_cases hab : Before a b
  · exact .inl hab
  · exact .inr (components_injective (Std.Trichotomous.trichotomous _ _ hab h))

/-- Sorted paths of which none is repeated come strictly one before the other. -/
theorem pairwise_sort {paths : List Path} (nodup : paths.Nodup) :
    (sort paths).Pairwise Before := by
  have sorted : (sort paths).Pairwise fun a b => (!decide (Before b a)) = true := by
    refine List.pairwise_mergeSort (fun a b c hab hbc => ?_) (fun a b => ?_) paths
    · rw [Bool.not_eq_true', decide_eq_false_iff_not] at hab hbc ⊢
      intro hca
      obtain before | rfl := before_or_eq_of_not_before hab
      · exact hbc (hca.trans before)
      · exact hbc hca
    · rw [Bool.or_eq_true, Bool.not_eq_true', Bool.not_eq_true', decide_eq_false_iff_not,
        decide_eq_false_iff_not]
      exact (List.le_total a.components b.components).imp List.not_lt.mpr List.not_lt.mpr
  have distinct : (sort paths).Nodup := (List.mergeSort_perm ..).nodup_iff.mpr nodup
  refine sorted.imp₂ (fun a b hab hne => ?_) distinct
  rw [Bool.not_eq_true', decide_eq_false_iff_not] at hab
  exact (before_or_eq_of_not_before hab).resolve_right hne

end Path

/-! ### Subscribers without repeats -/

namespace WatchTable

/-- No path has a subscriber twice. -/
def Distinct (table : WatchTable) : Prop :=
  ∀ path, ((table.subscriptions.get? path).getD []).Nodup

/-- The subscribers of a path come strictly one before the other. -/
theorem Distinct.pairwise_subscribers {table : WatchTable} (h : table.Distinct) (path : Path) :
    (table.subscribers path).Pairwise Path.Before := Path.pairwise_sort (h path)

theorem distinct_empty : empty.Distinct := fun _ => List.nodup_nil

namespace Distinct

variable {table : WatchTable}

theorem subscribe (h : table.Distinct) (path subscriber : Path) :
    (table.subscribe path subscriber).Distinct := by
  intro other
  rw [WatchTable.subscribe]
  dsimp only
  rw [Table.get?_insert]
  split_ifs with same known
  · exact h path
  · refine List.nodup_append.mpr ⟨h path, List.nodup_singleton subscriber, ?_⟩
    intro artifact hartifact last hlast
    rw [List.mem_singleton.mp hlast]
    rintro rfl
    exact known (List.contains_iff_mem.mpr hartifact)
  · exact h other

theorem watch (h : table.Distinct) (path subscriber : Path) (world : World σ) :
    (table.watch path subscriber world).1.Distinct := by
  have hsubscribe := h.subscribe path subscriber
  rw [WatchTable.watch]
  dsimp only
  split_ifs <;> exact hsubscribe

theorem follow (h : table.Distinct) (found : Option Path) (database artifact : Path)
    (world : World σ) : (table.follow found database artifact world).1.Distinct := by
  cases found with
  | none => exact h.watch database artifact world
  | some source => exact (h.watch source artifact world).watch database artifact _

end Distinct

end WatchTable

/-! ### Subscribers of a provider -/

namespace Provider

/-- No operation subscribes an artifact to a path twice. -/
theorem stable_distinct : Stable σ (·.watches.Distinct) where
  keep distinct _ _ := distinct
  follow distinct found database artifact world := distinct.follow found database artifact world
  listen distinct _ := distinct
  dispose _ world := by
    rw [dispose]
    dsimp only
    rw [WatchTable.close_fst]
    exact WatchTable.distinct_empty

variable {tools : Toolchain σ}

theorem Reachable.distinct {places : Settings.Places} {state : Provider × Session × World σ}
    (h : Reachable tools places state) : state.1.watches.Distinct := by
  induction h with
  | start => exact WatchTable.distinct_empty
  | act op _ ih => exact stable_distinct.perform tools ih op _ _
  | asked _ _ ih | outside _ _ _ ih => exact ih

/-- **No artifact is reached twice through one path.** In every state that a provider reaches, the
subscribers of a path come strictly one before the other. -/
theorem Reachable.pairwise_subscribers {places : Settings.Places}
    {state : Provider × Session × World σ} (h : Reachable tools places state) (path : Path) :
    (state.1.watches.subscribers path).Pairwise Path.Before := h.distinct.pairwise_subscribers path

end Provider

end ArtifactLens
